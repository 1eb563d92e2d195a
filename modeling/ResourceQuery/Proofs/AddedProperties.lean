import Mathlib.Data.List.Induction
import ResourceQuery.Json.Reader
import ResourceQuery.Proofs.MemoryAnswers
import ResourceQuery.Proofs.StoreRuns
import ResourceQuery.Schema.Extraction
import ResourceQuery.Schema.Inference

/-! What attaching does to a row. Under each key that names a relation a row shows what the relation
attaches to it as it was fetched, and every other property is as it was. A stored column under the name
of such a key is replaced. -/

namespace ResourceQuery.Proofs.AddedProperties
open StoreRuns MemoryAnswers

variable {First Second Result : Type}

/-- A program comes to a wanted result, if it comes to one, with any answers that the store can give. -/
def Yields (store : Answering) (wanted : Result → Prop) : Program Result → Prop
  | .done result => wanted result
  | .ask call next =>
    ∀ made answer, store made call = .ok answer → Yields store wanted (next answer)

variable {store : Answering}

theorem Yields.reached {wanted : Result → Prop} {program : Program Result}
    (yields : Yields store wanted program) {made : List Call} {result : Result}
    (ended : (observe store made program).1 = .ok result) : wanted result := by
  induction program generalizing made with
  | done value =>
    cases ended
    exact yields
  | ask call next ih =>
    rw [observe_ask] at ended
    cases heard : store made call with
    | ok answer =>
      rw [heard] at ended
      exact ih answer (yields made answer heard) ended
    | error failure =>
      rw [heard] at ended
      cases ended

theorem Yields.bind {reached : First → Prop} {wanted : Second → Prop} {program : Program First}
    {next : First → Program Second} (first : Yields store reached program)
    (remaining : ∀ value, reached value → Yields store wanted (next value)) :
    Yields store wanted (program >>= next) := by
  change Yields store wanted (program.bind next)
  induction program with
  | done value => exact remaining value first
  | ask call rest ih => exact fun made answer heard => ih answer (first made answer heard)

variable (store) (catalog : Catalog) (naming : Naming) (table : Table) (rows : List Row)

/-- The rows that the store gave for a relation. Without a table or a key there are none. -/
def Related (relation : Relation) (related : List Row) : Prop :=
  match catalog.table? relation.relatedTable, Embed.distinctKeys relation.ourKey rows with
  | some other, key :: keys =>
    ∃ made, store made
      (.fetchRelated other (Embed.relatedPredicates other relation (key :: keys))) = .ok related
  | _, _ => related = []

private theorem attachments_yields (relation : Relation) :
    Yields store
      (fun values => ∃ related, Related store catalog rows relation related ∧
        values = rows.map (Embed.attachment relation related))
      (Embed.attachments catalog relation rows) := by
  simp only [Embed.attachments]
  split
  next missing =>
    refine ⟨[], ?_, rfl⟩
    simp only [Related, missing]
  next other found =>
    cases keyed : Embed.distinctKeys relation.ourKey rows with
    | nil =>
      refine ⟨[], ?_, rfl⟩
      simp only [Related, found, keyed]
    | cons key keys =>
      intro made related heard
      refine ⟨related, ?_, rfl⟩
      simp only [Related, found, keyed]
      exact ⟨made, heard⟩

/-- What one key puts into every row. -/
structure Addition where
  key : String
  relation : Relation
  related : List Row

def Addition.value (addition : Addition) (row : Row) : Json :=
  Embed.attachment addition.relation addition.related row

/-- The additions of the keys, in their order: each key that names a relation has one, and the others
have none. -/
def Added (keys : List String) (additions : List Addition) : Prop :=
  additions.map (fun addition => (addition.key, addition.relation)) =
      keys.filterMap (fun key => (Embed.findRelation? catalog naming table key).map (key, ·)) ∧
    ∀ addition ∈ additions, Related store catalog rows addition.relation addition.related

private theorem collect_yields (keys : List String) :
    Yields store
      (fun collected => ∃ additions, Added store catalog naming table rows keys additions ∧
        collected = additions.map fun addition => (addition.key, rows.map addition.value))
      (Embed.collect catalog naming table rows keys) := by
  induction keys with
  | nil => exact ⟨[], ⟨rfl, by simp⟩, rfl⟩
  | cons key rest ih =>
    rw [Embed.collect]
    split
    next unnamed =>
      simpa only [Added, List.filterMap_cons, unnamed, Option.map_none] using ih
    next relation named =>
      apply (attachments_yields store catalog rows relation).bind
      rintro _ ⟨related, given, rfl⟩
      apply ih.bind
      rintro _ ⟨additions, ⟨same, known⟩, rfl⟩
      refine ⟨⟨key, relation, related⟩ :: additions, ⟨?_, ?_⟩, rfl⟩
      · simp only [List.map_cons, List.filterMap_cons, named, Option.map_some, same]
      · exact List.forall_mem_cons.mpr ⟨given, known⟩

/-- A row with its additions. Each is made from the row as it was fetched. -/
def extend (additions : List Addition) (row : Row) : Row :=
  additions.foldl (fun shown addition => shown.insert addition.key (addition.value row)) row

private theorem attach_map (addition : Addition) (shown : Row → Row) :
    Embed.attach (rows.map shown) (addition.key, rows.map addition.value) =
      rows.map fun row => (shown row).insert addition.key (addition.value row) := by
  simp only [Embed.attach, List.zipWith_map, List.zipWith_self]

private theorem foldl_attach (additions : List Addition) :
    (additions.map fun addition => (addition.key, rows.map addition.value)).foldl Embed.attach rows =
      rows.map (extend additions) := by
  have folded (shown : Row → Row) :
      (additions.map fun addition => (addition.key, rows.map addition.value)).foldl Embed.attach
          (rows.map shown) =
        rows.map fun row => additions.foldl
          (fun shown addition => shown.insert addition.key (addition.value row)) (shown row) := by
    induction additions generalizing shown with
    | nil => rfl
    | cons addition rest ih =>
      rw [List.map_cons, List.foldl_cons, attach_map, ih]
      rfl
  have plain := folded id
  rw [List.map_id] at plain
  exact plain

theorem resolve_yields (keys : List String) :
    Yields store
      (fun result => ∃ additions, Added store catalog naming table rows keys additions ∧
        result = rows.map (extend additions))
      (Embed.resolve catalog naming table rows keys) := by
  apply (collect_yields store catalog naming table rows keys).bind
  rintro _ ⟨additions, added, rfl⟩
  exact ⟨additions, added, foldl_attach rows additions⟩

variable {rows}

/-- Of the additions under one key the last one counts. -/
theorem get?_extend (additions : List Addition) (row : Row) (property : String) :
    (extend additions row).get? property =
      match additions.reverse.find? (·.key = property) with
      | some addition => some (addition.value row)
      | none => row.get? property := by
  induction additions using List.reverseRecOn with
  | nil => rfl
  | append_singleton additions last ih =>
    rw [extend, List.foldl_append, List.reverse_append]
    change Fields.get? ((extend additions row).insert last.key (last.value row)) property = _
    rw [Fields.get?_insert, ih]
    by_cases same : last.key = property <;> simp [same]

variable {store catalog naming table}

private theorem Added.relation_of_mem {keys : List String} {additions : List Addition}
    (added : Added store catalog naming table rows keys additions) {addition : Addition}
    (member : addition ∈ additions) :
    addition.key ∈ keys ∧
      Embed.findRelation? catalog naming table addition.key = some addition.relation := by
  have listed := List.mem_map_of_mem (f := fun addition => (addition.key, addition.relation)) member
  rw [added.1] at listed
  obtain ⟨key, known, named⟩ := List.mem_filterMap.mp listed
  obtain ⟨relation, found, same⟩ := Option.map_eq_some_iff.mp named
  cases same
  exact ⟨known, found⟩

private theorem Added.exists_of_named {keys : List String} {additions : List Addition}
    (added : Added store catalog naming table rows keys additions) {key : String} (known : key ∈ keys)
    {relation : Relation} (named : Embed.findRelation? catalog naming table key = some relation) :
    ∃ addition ∈ additions, addition.key = key := by
  have listed : (key, relation) ∈
      keys.filterMap (fun key => (Embed.findRelation? catalog naming table key).map (key, ·)) :=
    List.mem_filterMap.mpr ⟨key, known, by rw [named]; rfl⟩
  rw [← added.1] at listed
  obtain ⟨addition, member, same⟩ := List.mem_map.mp listed
  exact ⟨addition, member, congrArg Prod.fst same⟩

/-- The relation whose attachments stand under a property, if one of the keys names it. -/
def attached? (catalog : Catalog) (naming : Naming) (table : Table) (keys : List String)
    (property : String) : Option Relation :=
  if property ∈ keys then Embed.findRelation? catalog naming table property else none

/-- The rows stay as many and in order. Each has, under every key that names a relation, what the
relation attaches to it, and under every other name what it had. -/
theorem properties_are_kept_but_under_keys (store : Answering) (made : List Call) (catalog : Catalog)
    (naming : Naming) (table : Table) (rows : List Row) (keys : List String) {result : List Row}
    (resolved : (observe store made (Embed.resolve catalog naming table rows keys)).1 = .ok result) :
    ∃ after : Row → Row, result = rows.map after ∧ ∀ property,
      match attached? catalog naming table keys property with
      | none => ∀ row, (after row).get? property = row.get? property
      | some relation => ∃ related, Related store catalog rows relation related ∧
        ∀ row, (after row).get? property = some (Embed.attachment relation related row) := by
  obtain ⟨additions, added, rfl⟩ := (resolve_yields store catalog naming table rows keys).reached resolved
  refine ⟨extend additions, rfl, fun property => ?_⟩
  simp only [get?_extend]
  cases last : additions.reverse.find? (·.key = property) with
  | some addition =>
    have member : addition ∈ additions := List.mem_reverse.mp (List.mem_of_find?_eq_some last)
    have same : addition.key = property := by simpa using List.find?_some last
    subst same
    obtain ⟨known, named⟩ := added.relation_of_mem member
    simp only [attached?, if_pos known, named]
    exact ⟨addition.related, added.2 addition member, fun row => rfl⟩
  | none =>
    have unnamed : attached? catalog naming table keys property = none := by
      rw [Option.eq_none_iff_forall_ne_some]
      intro relation found
      obtain ⟨known, named⟩ := Option.ite_none_right_eq_some.mp found
      obtain ⟨addition, member, same⟩ := added.exists_of_named known named
      simpa [same] using List.find?_eq_none.mp last addition (List.mem_reverse.mpr member)
    rw [unnamed]
    exact fun row => rfl

def answering (memory : Memory) : Answering :=
  fun _ call => .ok (memory.answer call)

theorem observe_answering (memory : Memory) (made : List Call)
    (program : Program Result) :
    (observe (answering memory) made program).1 = .ok (resultOf memory program) := by
  induction program generalizing made with
  | done result => rfl
  | ask call next ih =>
    rw [observe_ask]
    exact ih (memory.answer call) _

def signed : String :=
  "\x7b\"posts\":[\x7b\"id\":1,\"userId\":7,\"user\":\"alice\"\x7d],\"users\":[\x7b\"id\":7\x7d]\x7d"

theorem posts_keep_their_other_columns :
    ∃ document memory table result, Json.parse? signed = some document ∧
      Memory.ofDocument document = .ok memory ∧
      let catalog := (extractTables .regular (.infer document)).catalog
      catalog.table? "posts" = some table ∧
        (observe (answering memory) []
          (Embed.resolve catalog .regular table (memory.rows table) ["user"])).1 = .ok result ∧
        ∃ after : Row → Row, result = (memory.rows table).map after ∧
          ∀ row, (after row).get? "userId" = row.get? "userId" := by
  have fit : ∃ document ∈ Json.parse? signed, ∃ memory ∈ (Memory.ofDocument document).toOption,
      ∃ table ∈ (extractTables .regular (.infer document)).catalog.table? "posts",
        attached? (extractTables .regular (.infer document)).catalog .regular table ["user"] "userId" =
            none ∧
          ∃ result ∈ (observe (answering memory) [] (Embed.resolve
            (extractTables .regular (.infer document)).catalog .regular table (memory.rows table)
            ["user"])).1.toOption, result.length = 1 := by
    decide +kernel
  obtain ⟨document, parsed, memory, loaded, table, found, unnamed, result, resolved, -⟩ := fit
  have ended := eq_ok_of_mem_toOption resolved
  obtain ⟨after, same, kept⟩ := properties_are_kept_but_under_keys (answering memory) [] _ .regular table
    (memory.rows table) ["user"] ended
  have plain := kept "userId"
  rw [unnamed] at plain
  exact ⟨document, memory, table, result, parsed, eq_ok_of_mem_toOption loaded, found, ended, after, same,
    plain⟩

/-- Attaching leaves every property of every row as it is, for all tables of a document. -/
def OnlyAdds (text : String) : Prop :=
  ∀ document memory, Json.parse? text = some document → Memory.ofDocument document = .ok memory →
    let catalog := (extractTables .regular (.infer document)).catalog
    ∀ table ∈ catalog.tables, ∀ keys result,
      (observe (answering memory) []
        (Embed.resolve catalog .regular table (memory.rows table) keys)).1 = .ok result →
      ∀ pair ∈ (memory.rows table).zip result, ∀ property value,
        pair.1.get? property = some value → pair.2.get? property = some value

/-- The user attached to a post takes the place of the name that the post has under the same key. -/
theorem attached_user_replaces_name : ¬ OnlyAdds signed := by
  intro adds
  have fit : ∃ document ∈ Json.parse? signed, ∃ memory ∈ (Memory.ofDocument document).toOption,
      ∃ table ∈ (extractTables .regular (.infer document)).catalog.tables,
        ∃ result ∈ (observe (answering memory) [] (Embed.resolve
          (extractTables .regular (.infer document)).catalog .regular table (memory.rows table)
          ["user"])).1.toOption,
          ∃ pair ∈ (memory.rows table).zip result,
            (pair.1.get? "user").isSome ∧
              (pair.1.get? "user").bind Json.string? ≠ (pair.2.get? "user").bind Json.string? := by
    decide +kernel
  obtain ⟨document, parsed, memory, loaded, table, listed, result, resolved, pair, member, stored,
    changed⟩ := fit
  obtain ⟨value, held⟩ := Option.isSome_iff_exists.mp stored
  have kept := adds document memory parsed (eq_ok_of_mem_toOption loaded) table listed ["user"] result
    (eq_ok_of_mem_toOption resolved) pair member "user" value held
  exact changed (by rw [held, kept])

end ResourceQuery.Proofs.AddedProperties
