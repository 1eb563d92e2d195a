import Mathlib.Logic.Relation
import ResourceQuery.Proofs.AddedProperties
import ResourceQuery.Proofs.NumericBounds

/-! Input that asks for nothing. Pairs whose key is no filter, columns to sort by that are none, and keys
to attach that are blank, repeated or name no relation may stand anywhere in a request: the request asks
its store for the same and answers the same. -/

namespace ResourceQuery.Proofs.IgnoredInput
open AddedProperties Filtering MemoryAnswers NumericBounds RepeatedKeys StoreRuns

/-- A key that says nothing of the rows of a table. -/
structure IdleKey (table : Table) (key : String) : Prop where
  free : key ∉ Intent.reserved
  unknown : table.column? key = none
  ends : ∀ name operator, Ends key name operator → table.column? name = none

/-- The column that a token of an order names, behind its minus if it has one. -/
def sortColumn (token : String) : String :=
  match Text.dropOpening? "-" (Text.trim token) with
  | some rest => Text.trim rest
  | none => Text.trim token

/-- A token that is blank or a lone minus, or names no column. -/
def IdleSort (table : Table) (token : String) : Prop :=
  Text.trim token = "" ∨ Text.trim token = "-" ∨ table.column? (sortColumn token) = none

/-- A token that is blank, repeats an earlier one or names no relation. -/
def IdleEmbed (service : Service) (table : Table) (earlier : List String) (token : String) : Prop :=
  Text.trim token = "" ∨ Text.trim token ∈ earlier ∨
    Embed.findRelation? service.catalog service.naming table (Text.trim token) = none

def Whole (pieces : List String) : Prop :=
  ∀ piece ∈ pieces, ',' ∉ piece.toList

instance (pieces : List String) : Decidable (Whole pieces) :=
  inferInstanceAs (Decidable (∀ piece ∈ pieces, ',' ∉ piece.toList))

/-- One thing that asks for nothing is put in somewhere: a pair, or a token among those of a value. -/
inductive Adds (service : Service) (table : Table) :
    List (String × String) → List (String × String) → Prop where
  | pair (before after : List (String × String)) (key value : String)
      (idle : IdleKey table key) : Adds service table (before ++ after) (before ++ (key, value) :: after)
  | sortToken (before after : List (String × String)) (left right : List String) (token : String)
      (whole : Whole (left ++ token :: right)) (idle : IdleSort table token) :
      Adds service table (before ++ ("_sort", Text.join "," (left ++ right)) :: after)
        (before ++ ("_sort", Text.join "," (left ++ token :: right)) :: after)
  | embedToken (before after : List (String × String)) (left right : List String) (token : String)
      (whole : Whole (left ++ token :: right))
      (idle : IdleEmbed service table (tokensOf before "_embed" ++ left.map Text.trim) token) :
      Adds service table (before ++ ("_embed", Text.join "," (left ++ right)) :: after)
        (before ++ ("_embed", Text.join "," (left ++ token :: right)) :: after)

/-- The tokens that are left of pieces: trimmed, and without the blank ones. -/
def visible (pieces : List String) : List String :=
  (pieces.map Text.trim).filter (· != "")

theorem Whole.rest {left right : List String} {token : String} (whole : Whole (left ++ token :: right)) :
    Whole (left ++ right) := by
  intro piece member
  refine whole piece ?_
  rcases List.mem_append.mp member with inside | inside
  · exact List.mem_append_left _ inside
  · exact List.mem_append_right _ (List.mem_cons_of_mem _ inside)

private theorem visible_append (first second : List String) :
    visible (first ++ second) = visible first ++ visible second := by
  simp [visible]

private theorem visible_cons (token : String) (rest : List String) :
    visible (token :: rest) = visible [token] ++ visible rest :=
  visible_append [token] rest

private theorem visible_split_join {pieces : List String} (whole : Whole pieces) :
    visible (Text.split ',' (Text.join "," pieces)) = visible pieces := by
  cases pieces with
  | nil => decide
  | cons first rest => rw [split_join rfl whole (List.cons_ne_nil _ _)]

def namedUnder (pairs : List (String × String)) (key : String) : List String :=
  (tokensOf pairs key).filter (· != "")

private theorem namedUnder_append (first second : List (String × String)) (key : String) :
    namedUnder (first ++ second) key = namedUnder first key ++ namedUnder second key := by
  simp [namedUnder, tokensOf, valuesOf_append]

private theorem namedUnder_cons (key value : String) (pairs : List (String × String)) :
    namedUnder ((key, value) :: pairs) key = visible (Text.split ',' value) ++ namedUnder pairs key := by
  simp [namedUnder, tokensOf, valuesOf, visible]

theorem sort_named (pairs : List (String × String)) :
    (Intent.parse (.ofPairs pairs)).sort = (namedUnder pairs "_sort").filterMap Intent.sortField? := by
  have blank : Intent.sortField? "" = none := by decide
  rw [sort_parse, namedUnder, List.filterMap_filter]
  apply List.filterMap_congr
  intro token _
  by_cases same : token = ""
  · simp [same, blank]
  · simp [same]

theorem embed_named (pairs : List (String × String)) :
    (Intent.parse (.ofPairs pairs)).embed = (namedUnder pairs "_embed").eraseDups :=
  embed_parse pairs

private theorem flatMap_filter {First Second : Type} {keep : First → Bool} {make : First → List Second}
    {list : List First} (none : ∀ first ∈ list, keep first = false → make first = []) :
    (list.filter keep).flatMap make = list.flatMap make := by
  induction list with
  | nil => rfl
  | cons first rest ih =>
    obtain ⟨here, later⟩ := List.forall_mem_cons.mp none
    cases kept : keep first with
    | true => rw [List.filter_cons_of_pos kept, List.flatMap_cons, List.flatMap_cons, ih later]
    | false =>
      rw [List.filter_cons_of_neg (by simp [kept]), List.flatMap_cons, here kept, ih later,
        List.nil_append]

/-- A key from which no predicate is made. -/
def Silent (table : Table) (key : String) : Prop :=
  key ∉ Intent.reserved → ∀ value, Predicate.ofFilter table ⟨key, value⟩ = []

private theorem IdleKey.silent {table : Table} {key : String} (idle : IdleKey table key) : Silent table key := by
  intro _ value
  simp only [Predicate.ofFilter, idle.unknown]
  cases split : Operator.split? key with
  | none => rfl
  | some found =>
    obtain ⟨name, operator⟩ := found
    simp only [idle.ends name operator (split?_eq_some_iff.mp split)]

private theorem valuesOf_others (pairs : List (String × String)) {key other : String} (apart : other ≠ key) :
    valuesOf (pairs.filter (·.1 ≠ key)) other = valuesOf pairs other :=
  @valuesOf_filter (fun other => decide (other ≠ key)) other (decide_eq_true apart) pairs

private theorem predicates_without {table : Table} {key : String} (silent : Silent table key)
    (pairs : List (String × String)) :
    Predicate.ofFilters table (Intent.parse (.ofPairs (pairs.filter (·.1 ≠ key)))).filters =
      Predicate.ofFilters table (Intent.parse (.ofPairs pairs)).filters := by
  have keys : keysOf (pairs.filter (·.1 ≠ key)) = (keysOf pairs).filter (· ≠ key) :=
    keysOf_filter (fun other => decide (other ≠ key)) pairs
  let make (other : String) := Predicate.ofFilter table ⟨other, collapsed (valuesOf pairs other)⟩
  calc
    _ = (((keysOf pairs).filter (· ∉ Intent.reserved)).filter (· ≠ key)).flatMap make := by
      rw [filters_parse, keys, List.filter_filter, Predicate.ofFilters, List.flatMap_map,
        List.filter_filter]
      simp only [Bool.and_comm]
      apply List.flatMap_congr
      intro other member
      have apart : other ≠ key := by
        simp only [List.mem_filter, Bool.and_eq_true, decide_eq_true_eq] at member
        exact member.2.1
      simp only [valuesOf_others pairs apart, make]
    _ = ((keysOf pairs).filter (· ∉ Intent.reserved)).flatMap make := by
      apply flatMap_filter
      intro other member dropped
      obtain rfl : other = key := by simpa using dropped
      exact silent (by simpa using (List.mem_filter.mp member).2) _
    _ = _ := by rw [filters_parse, Predicate.ofFilters, List.flatMap_map]

/-- Requests that are planned alike and attach the same. -/
structure Alike (service : Service) (table : Table) (first second : List (String × String)) : Prop where
  plan : Plan.ofIntent table (.parse (.ofPairs first)) = Plan.ofIntent table (.parse (.ofPairs second))
  collected : ∀ rows,
    Embed.collect service.catalog service.naming table rows (Intent.parse (.ofPairs first)).embed =
      Embed.collect service.catalog service.naming table rows (Intent.parse (.ofPairs second)).embed

/-- Pairs that are the same but for those of one key. -/
def SameBut (key : String) (first second : List (String × String)) : Prop :=
  first.filter (·.1 ≠ key) = second.filter (·.1 ≠ key)

section

variable {service : Service} {table : Table} {key : String} {first second : List (String × String)}

theorem SameBut.valuesOf_eq (same : SameBut key first second) {other : String} (apart : other ≠ key) :
    valuesOf first other = valuesOf second other := by
  rw [← valuesOf_others first apart, ← valuesOf_others second apart, same]

private theorem SameBut.sort_eq (same : SameBut key first second) (apart : "_sort" ≠ key) :
    (Intent.parse (.ofPairs first)).sort = (Intent.parse (.ofPairs second)).sort := by
  simp only [sort_parse, tokensOf, same.valuesOf_eq apart]

private theorem SameBut.embed_eq (same : SameBut key first second) (apart : "_embed" ≠ key) :
    (Intent.parse (.ofPairs first)).embed = (Intent.parse (.ofPairs second)).embed := by
  simp only [embed_parse, tokensOf, same.valuesOf_eq apart]

private theorem SameBut.plan_eq (same : SameBut key first second) (silent : Silent table key)
    (unpaged : key ∉ ["_page", "_per_page", "_start", "_end", "_limit"])
    (sort : (Intent.parse (.ofPairs first)).sort.filter (fun field => table.hasColumn field.column) =
      (Intent.parse (.ofPairs second)).sort.filter fun field => table.hasColumn field.column) :
    Plan.ofIntent table (.parse (.ofPairs first)) = Plan.ofIntent table (.parse (.ofPairs second)) := by
  have predicates : Predicate.ofFilters table (Intent.parse (.ofPairs first)).filters =
      Predicate.ofFilters table (Intent.parse (.ofPairs second)).filters := by
    rw [← predicates_without silent first, same, predicates_without silent second]
  have number {other : String}
      (paging : other ∈ ["_page", "_per_page", "_start", "_end", "_limit"]) :
      number? first other = number? second other := by
    have apart : other ≠ key := fun equal => unpaged (equal ▸ paging)
    rw [number?, number?, same.valuesOf_eq apart]
  have pagination : (Intent.parse (.ofPairs first)).pagination =
      (Intent.parse (.ofPairs second)).pagination := by
    rw [pagination_parse, pagination_parse, number (by decide), number (by decide), number (by decide),
      number (by decide), number (by decide)]
  simp only [Plan.ofIntent, predicates, sort, pagination]

end

private theorem collect_named (service : Service) (table : Table) (rows : List Row) (keys : List String) :
    Embed.collect service.catalog service.naming table rows
        (keys.filter fun key => (Embed.findRelation? service.catalog service.naming table key).isSome) =
      Embed.collect service.catalog service.naming table rows keys := by
  induction keys with
  | nil => rfl
  | cons key rest ih =>
    cases named : Embed.findRelation? service.catalog service.naming table key with
    | none => rw [List.filter_cons_of_neg (by simp [named]), ih, Embed.collect, named]
    | some relation =>
      rw [List.filter_cons_of_pos (by simp [named])]
      simp only [Embed.collect, named, ih]

private theorem sameBut_put (before after : List (String × String)) (key first second : String) :
    SameBut key (before ++ (key, first) :: after) (before ++ (key, second) :: after) := by
  simp [SameBut]

private theorem silent_of_reserved {table : Table} {key : String} (reserved : key ∈ Intent.reserved) :
    Silent table key :=
  fun free => absurd reserved free

private theorem mem_visible_singleton {shown token : String} :
    shown ∈ visible [token] ↔ shown = Text.trim token ∧ Text.trim token ≠ "" := by
  simp only [visible, List.map_cons, List.map_nil, List.mem_filter, List.mem_singleton, bne_iff_ne]
  exact ⟨fun ⟨same, visible⟩ => ⟨same, same ▸ visible⟩, fun ⟨same, visible⟩ => ⟨same, same ▸ visible⟩⟩

private theorem column_of_sortField? {token : String} {field : SortField}
    (read : Intent.sortField? (Text.trim token) = some field) : field.column = sortColumn token := by
  unfold Intent.sortField? at read
  unfold sortColumn
  cases opened : Text.dropOpening? "-" (Text.trim token) with
  | some rest =>
    simp only [opened, Option.ite_none_left_eq_some, Option.some.injEq] at read
    rw [← read.2]
  | none =>
    simp only [opened, Option.ite_none_left_eq_some, Option.some.injEq] at read
    rw [← read.2]

private theorem sort_of_idle {table : Table} {token : String} (idle : IdleSort table token) :
    ((visible [token]).filterMap Intent.sortField?).filter (fun field => table.hasColumn field.column) =
      [] := by
  rw [List.filter_eq_nil_iff]
  intro field member
  obtain ⟨shown, listed, read⟩ := List.mem_filterMap.mp member
  obtain ⟨rfl, some⟩ := mem_visible_singleton.mp listed
  rcases idle with blank | minus | unknown
  · exact absurd blank some
  · have lone : Intent.sortField? "-" = none := by decide
    rw [minus, lone] at read
    cases read
  · simp [Table.hasColumn, column_of_sortField? read, unknown]

private theorem eraseDups_repeated {texts later : List String} {text : String} (known : text ∈ texts) :
    (texts ++ [text] ++ later).eraseDups = (texts ++ later).eraseDups := by
  rw [List.append_assoc, List.eraseDups_append, List.eraseDups_append, List.singleton_append,
    List.cons_removeAll]
  simp [known]

private theorem collect_of_idle {service : Service} {table : Table} {earlier : List String} {token : String}
    (idle : IdleEmbed service table earlier token) (later : List String) (rows : List Row) :
    Embed.collect service.catalog service.naming table rows
        (earlier.filter (· != "") ++ visible [token] ++ later).eraseDups =
      Embed.collect service.catalog service.naming table rows
        (earlier.filter (· != "") ++ later).eraseDups := by
  by_cases blank : Text.trim token = ""
  · have hidden : visible [token] = [] := by simp [visible, blank]
    rw [hidden, List.append_nil]
  have shown : visible [token] = [Text.trim token] := by simp [visible, blank]
  rw [shown]
  rcases idle with empty | repeated | unnamed
  · exact absurd empty blank
  · have known : Text.trim token ∈ earlier.filter (· != "") :=
      List.mem_filter.mpr ⟨repeated, by simpa using blank⟩
    rw [eraseDups_repeated known]
  · rw [← collect_named, ← eraseDups_filter, ← collect_named service table rows
      (earlier.filter (· != "") ++ later).eraseDups, ← eraseDups_filter]
    simp [unnamed]

private theorem alike_of_adds {service : Service} {table : Table} {pairs noisy : List (String × String)}
    (adds : Adds service table pairs noisy) : Alike service table noisy pairs := by
  cases adds with
  | pair before after key value idle =>
    have same : SameBut key (before ++ (key, value) :: after) (before ++ after) := by simp [SameBut]
    have apart {other : String} (reserved : other ∈ Intent.reserved) : other ≠ key :=
      fun equal => idle.free (equal ▸ reserved)
    have unpaged : key ∉ ["_page", "_per_page", "_start", "_end", "_limit"] := by
      have reserved : ∀ other ∈ ["_page", "_per_page", "_start", "_end", "_limit"],
          other ∈ Intent.reserved := by decide
      exact mt (reserved key) idle.free
    refine ⟨same.plan_eq idle.silent unpaged ?_, fun rows => ?_⟩
    · rw [same.sort_eq (apart (by decide))]
    · rw [same.embed_eq (apart (by decide))]
  | sortToken before after left right token whole idle =>
    have same := sameBut_put before after "_sort" (Text.join "," (left ++ token :: right))
      (Text.join "," (left ++ right))
    refine ⟨same.plan_eq (silent_of_reserved (by decide)) (by decide) ?_, fun rows => ?_⟩
    · simp only [sort_named, namedUnder_append, namedUnder_cons, visible_split_join whole,
        visible_split_join whole.rest, visible_append, visible_cons token right, List.filterMap_append,
        List.filter_append, sort_of_idle idle, List.nil_append]
    · rw [same.embed_eq (by decide)]
  | embedToken before after left right token whole idle =>
    have same := sameBut_put before after "_embed" (Text.join "," (left ++ token :: right))
      (Text.join "," (left ++ right))
    refine ⟨same.plan_eq (silent_of_reserved (by decide)) (by decide) ?_, fun rows => ?_⟩
    · rw [same.sort_eq (by decide)]
    · have collected := collect_of_idle idle (visible right ++ namedUnder after "_embed") rows
      have earlier : (tokensOf before "_embed" ++ left.map Text.trim).filter (· != "") =
          namedUnder before "_embed" ++ visible left := List.filter_append ..
      rw [earlier] at collected
      simp only [embed_named, namedUnder_append, namedUnder_cons, visible_split_join whole,
        visible_split_join whole.rest, visible_append, visible_cons token right]
      simpa only [List.append_assoc] using collected

private theorem alike_of_additions {service : Service} {table : Table} {pairs noisy : List (String × String)}
    (added : Relation.ReflTransGen (Adds service table) pairs noisy) :
    Alike service table noisy pairs := by
  induction added with
  | refl => exact ⟨rfl, fun _ => rfl⟩
  | tail _ adds ih =>
    have step := alike_of_adds adds
    exact ⟨step.plan.trans ih.plan, fun rows => (step.collected rows).trans (ih.collected rows)⟩

private theorem list_eq_of_alike {service : Service} {resource : String} {first second : List (String × String)}
    (alike : ∀ table, service.catalog.table? resource = some table → Alike service table first second) :
    service.list resource (.ofPairs first) = service.list resource (.ofPairs second) := by
  cases found : service.catalog.table? resource with
  | none => simp only [Service.list, found]
  | some table =>
    obtain ⟨plan, collected⟩ := alike table found
    simp only [Service.list, found, plan, Embed.resolve, collected]

/-- A list makes the same calls to any store and comes to the same answer or failure, whatever is put into
its request that asks for nothing. -/
theorem idle_input_changes_nothing (store : Answering) (made : List Call) (service : Service)
    (resource : String) (pairs noisy : List (String × String))
    (added : ∀ table, service.catalog.table? resource = some table →
      Relation.ReflTransGen (Adds service table) pairs noisy) :
    observe store made (service.list resource (.ofPairs noisy)) =
      observe store made (service.list resource (.ofPairs pairs)) := by
  rw [list_eq_of_alike fun table found => alike_of_additions (added table found)]

def library : String :=
  "\x7b\"authors\":[\x7b\"id\":1\x7d]," ++
    "\"books\":[\x7b\"authorId\":1,\"id\":1,\"title\":\"b\"\x7d,\x7b\"id\":2,\"title\":\"a\"\x7d]\x7d"

theorem books_despite_idle_input :
    let plain := [("_sort", "title"), ("_embed", "author")]
    let noisy := [("_sort", "title,- publisher"), ("publisher_like", "x"), ("_embed", "author, author ,tags")]
    ∃ service memory, serve? .regular library = some (service, memory) ∧
      (∀ table, service.catalog.table? "books" = some table →
        Relation.ReflTransGen (Adds service table) plain noisy) ∧
      observe (answering memory) [] (service.list "books" (.ofPairs noisy)) =
        observe (answering memory) [] (service.list "books" (.ofPairs plain)) ∧
      (observe (answering memory) [] (service.list "books" (.ofPairs plain))).2.length = 3 := by
  intro plain noisy
  have fit : ∃ served ∈ serve? .regular library, ∃ table ∈ served.1.catalog.table? "books",
      table.column? "publisher_like" = none ∧ table.column? "publisher" = none ∧
        Embed.findRelation? served.1.catalog served.1.naming table "tags" = none ∧
        (observe (answering served.2) [] (served.1.list "books" (.ofPairs plain))).2.length = 3 := by
    decide +kernel
  obtain ⟨⟨service, memory⟩, served, table, found, unknown, unended, unnamed, calls⟩ := fit
  have idle : IdleKey table "publisher_like" := by
    refine ⟨by decide, unknown, fun name operator ends => ?_⟩
    have known : Ends "publisher_like" "publisher" .like := ⟨"_like", by decide, rfl, by decide, by decide⟩
    rw [(ends.unique known).1, unended]
  have added : ∀ table, service.catalog.table? "books" = some table →
      Relation.ReflTransGen (Adds service table) plain noisy := by
    intro other found'
    obtain rfl : table = other := Option.some.inj (found.symm.trans found')
    have pair : Adds service table _ _ :=
      .pair [("_sort", "title")] [("_embed", "author")] "publisher_like" "x" idle
    have sort : Adds service table _ _ :=
      .sortToken [] [("publisher_like", "x"), ("_embed", "author")] ["title"] [] "- publisher" (by decide)
        (.inr (.inr unended))
    have again : Adds service table _ _ :=
      .embedToken [("_sort", "title,- publisher"), ("publisher_like", "x")] [] ["author"] [] " author "
        (by decide) (.inr (.inl (by decide)))
    have tags : Adds service table _ _ :=
      .embedToken [("_sort", "title,- publisher"), ("publisher_like", "x")] [] ["author", " author "] []
        "tags" (by decide) (.inr (.inr unnamed))
    exact (((Relation.ReflTransGen.single pair).tail sort).tail again).tail tags
  exact ⟨service, memory, served, added,
    idle_input_changes_nothing (answering memory) [] service "books" plain noisy added, calls⟩

end ResourceQuery.Proofs.IgnoredInput
