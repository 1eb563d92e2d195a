import ResourceQuery.Proofs.AddedProperties
import ResourceQuery.Proofs.OrderedJson
import ResourceQuery.Proofs.RequestCalls

/-! Keys beside each other. A store whose related rows depend on nothing but the table and the condition
lets every key attach what it would attach alone, to the rows as they were fetched, so the order of the
keys does not show. -/

namespace ResourceQuery.Proofs.IndependentKeys
open AddedProperties MemoryAnswers OrderedJson RequestCalls StoreRuns

/-- Related rows are given without fail, and always the same ones for a table and a condition. -/
def Steady (store : Answering) (answers : Table → List Predicate → List Row) : Prop :=
  ∀ made table predicates, store made (.fetchRelated table predicates) = .ok (answers table predicates)

variable (answers : Table → List Predicate → List Row) (catalog : Catalog) (naming : Naming)
  (table : Table) (rows : List Row)

/-- The rows that are given for a relation. Without a table or a key there are none. -/
def given (relation : Relation) : List Row :=
  match catalog.table? relation.relatedTable, Embed.distinctKeys relation.ourKey rows with
  | some other, key :: keys => answers other (Embed.relatedPredicates other relation (key :: keys))
  | _, _ => []

def addition? (key : String) : Option Addition :=
  (Embed.findRelation? catalog naming table key).map fun relation =>
    ⟨key, relation, given answers catalog rows relation⟩

variable {answers catalog naming table rows}

section

variable {store : Answering} (steady : Steady store answers)
include steady

private theorem given_of_related {relation : Relation} {related : List Row}
    (known : Related store catalog rows relation related) :
    related = given answers catalog rows relation := by
  cases found : catalog.table? relation.relatedTable with
  | none =>
    simp only [Related, given, found] at known ⊢
    exact known
  | some other =>
    cases keyed : Embed.distinctKeys relation.ourKey rows with
    | nil =>
      simp only [Related, given, found, keyed] at known ⊢
      exact known
    | cons key keys =>
      simp only [Related, given, found, keyed] at known ⊢
      obtain ⟨made, heard⟩ := known
      rw [steady] at heard
      cases heard
      rfl

private theorem eq_of_added {keys : List String} {additions : List Addition}
    (added : Added store catalog naming table rows keys additions) :
    additions = keys.filterMap (addition? answers catalog naming table rows) := by
  obtain ⟨named, known⟩ := added
  let complete (pair : String × Relation) : Addition :=
    ⟨pair.1, pair.2, given answers catalog rows pair.2⟩
  have whole : (additions.map fun addition => (addition.key, addition.relation)).map complete =
      additions := by
    rw [List.map_map]
    refine (List.map_congr_left fun addition member => ?_).trans additions.map_id
    simp only [Function.comp_apply, complete, ← given_of_related steady (known addition member), id_eq]
  rw [← whole, named, List.map_filterMap]
  simp only [Option.map_map]
  rfl

theorem resolve_result (made : List Call) (keys : List String) :
    (observe store made (Embed.resolve catalog naming table rows keys)).1 =
      .ok (rows.map (extend (keys.filterMap (addition? answers catalog naming table rows)))) := by
  have answered : ∀ call ∈ attachmentCalls ⟨catalog, naming⟩ table rows keys, ∀ made,
      ∃ answer, store made call = .ok answer := by
    intro call planned made
    obtain ⟨key, -, asked⟩ := List.mem_filterMap.mp planned
    obtain ⟨relation, -, asked⟩ := Option.bind_eq_some_iff.mp asked
    unfold relationCall? at asked
    split at asked
    next => cases asked
    next other found =>
      obtain ⟨-, same⟩ := Option.ite_none_right_eq_some.mp asked
      cases same
      exact ⟨_, steady made _ _⟩
  obtain ⟨result, ended⟩ :=
    (resolve_follows store made ⟨catalog, naming⟩ table rows keys).succeeds answered
  obtain ⟨additions, added, same⟩ :=
    (resolve_yields store catalog naming table rows keys).reached ended
  rw [ended, same, eq_of_added steady added]

end

private theorem mem_additions {keys : List String} {addition : Addition} :
    addition ∈ keys.filterMap (addition? answers catalog naming table rows) ↔
      attached? catalog naming table keys addition.key = some addition.relation ∧
        addition.related = given answers catalog rows addition.relation := by
  obtain ⟨key, relation, related⟩ := addition
  simp only [List.mem_filterMap, addition?, Option.map_eq_some_iff, Addition.mk.injEq, attached?,
    Option.ite_none_right_eq_some]
  constructor
  · rintro ⟨_, known, _, named, rfl, rfl, rfl⟩
    exact ⟨⟨known, named⟩, rfl⟩
  · rintro ⟨⟨known, named⟩, rfl⟩
    exact ⟨key, known, relation, named, rfl, rfl, rfl⟩

/-- Under a key a row has what the key puts there, whatever the other keys are. -/
theorem get?_extend_additions (keys : List String) (row : Row) (property : String) :
    (extend (keys.filterMap (addition? answers catalog naming table rows)) row).get? property =
      match attached? catalog naming table keys property with
      | some relation => some (Embed.attachment relation (given answers catalog rows relation) row)
      | none => row.get? property := by
  rw [get?_extend]
  cases last : (keys.filterMap (addition? answers catalog naming table rows)).reverse.find?
      (·.key = property) with
  | some addition =>
    have member := List.mem_reverse.mp (List.mem_of_find?_eq_some last)
    have same : addition.key = property := by simpa using List.find?_some last
    obtain ⟨named, related⟩ := mem_additions.mp member
    rw [same] at named
    simp only [named, Addition.value, related]
  | none =>
    cases named : attached? catalog naming table keys property with
    | none => rfl
    | some relation =>
      have member : ⟨property, relation, given answers catalog rows relation⟩ ∈
          keys.filterMap (addition? answers catalog naming table rows) := mem_additions.mpr ⟨named, rfl⟩
      simpa using List.find?_eq_none.mp last _ (List.mem_reverse.mpr member)

private theorem sorted_extend (additions : List Addition) {row : Row} (sorted : Sorted row) :
    Sorted (extend additions row) := by
  induction additions using List.reverseRecOn with
  | nil => exact sorted
  | append_singleton additions last ih =>
    rw [extend, List.foldl_append]
    exact ih.insert last.key (last.value row)

private theorem extend_perm {keys others : List String} (perm : others.Perm keys) (row : Row) :
    extend (others.filterMap (addition? answers catalog naming table rows)) row =
      extend (keys.filterMap (addition? answers catalog naming table rows)) row := by
  apply (perm.filterMap _).foldl_eq'
  intro first member second member' shown
  by_cases same : first.key = second.key
  · obtain ⟨named, related⟩ := mem_additions.mp member
    obtain ⟨named', related'⟩ := mem_additions.mp member'
    rw [← same, named, Option.some.injEq] at named'
    have equal : first = second :=
      (Addition.mk.injEq ..).mpr ⟨same, named', by rw [related, related', named']⟩
    rw [equal]
  · exact Fields.insert_comm shown same _ _

/-- With a steady store all keys attach something, each on its own: the rows stay as many and in order,
each has under the keys that name relations what these attach to the rows as they were fetched, and
everything else as it was. A relation to a missing table attaches null or no rows. In whatever order the
keys are given, the rows are the same. -/
theorem keys_attach_independently (store : Answering) (answers : Table → List Predicate → List Row)
    (steady : Steady store answers) (made : List Call) (catalog : Catalog) (naming : Naming)
    (table : Table) (rows : List Row) (keys : List String) :
    ∃ shown : Row → Row,
      (observe store made (Embed.resolve catalog naming table rows keys)).1 = .ok (rows.map shown) ∧
      (∀ row property, (shown row).get? property =
        match attached? catalog naming table keys property with
        | some relation => some (Embed.attachment relation (given answers catalog rows relation) row)
        | none => row.get? property) ∧
      (∀ row, Sorted row → Sorted (shown row)) ∧
      (∀ key relation, attached? catalog naming table keys key = some relation →
        catalog.table? relation.relatedTable = none → ∀ row, (shown row).get? key =
          some (match relation.kind with
            | .belongsTo => .null
            | .hasMany => .array [])) ∧
      ∀ others, others.Perm keys →
        (observe store made (Embed.resolve catalog naming table rows others)).1 = .ok (rows.map shown) := by
  refine ⟨_, resolve_result steady made keys, get?_extend_additions keys,
    fun row => sorted_extend _, ?_, ?_⟩
  · intro key relation named missing row
    have none : given answers catalog rows relation = [] := by simp only [given, missing]
    rw [get?_extend_additions, named]
    simp only [none, Embed.attachment, Embed.referred, Embed.referring]
    cases relation.kind <;> cases Embed.joinKey? relation.ourKey row <;> rfl
  · intro others perm
    rw [resolve_result steady made others]
    exact congrArg Except.ok (List.map_congr_left fun row _ => extend_perm perm row)

def crossed : String :=
  "\x7b\"comments\":[\x7b\"id\":1,\"post_id\":1\x7d],\"posts\":[\x7b\"id\":1,\"user_id\":7,\"user_id_id\":3\x7d]," ++
    "\"user_ids\":[\x7b\"id\":3\x7d],\"users\":[\x7b\"id\":7\x7d]\x7d"

/-- One key stands over the column that another is joined on, and the table of a third is missing. -/
theorem keys_over_columns_of_others :
    ∃ document memory table row, Json.parse? crossed = some document ∧
      Memory.ofDocument document = .ok memory ∧ Steady (answering memory) memory.filtered ∧
      let catalog := (extractTables .regular (.infer document)).catalog.without ["comments"]
      let resolved (keys : List String) :=
        (observe (answering memory) [] (Embed.resolve catalog .regular table (memory.rows table) keys)).1
      catalog.table? "posts" = some table ∧ row ∈ memory.rows table ∧
        ∃ shown : Row → Row,
          resolved ["user_id", "user", "tags", "comments"] = .ok ((memory.rows table).map shown) ∧
          resolved ["comments", "user", "tags", "user_id"] = .ok ((memory.rows table).map shown) ∧
          ((shown row).get? "user").map Json.text = some "\x7b\"id\":7\x7d" ∧
          ((shown row).get? "user_id").map Json.text = some "\x7b\"id\":3\x7d" ∧
          (shown row).get? "comments" = some (.array []) ∧ (shown row).get? "tags" = none := by
  let keys := ["user_id", "user", "tags", "comments"]
  have fit : ∃ document ∈ Json.parse? crossed, ∃ memory ∈ (Memory.ofDocument document).toOption,
      let catalog := (extractTables .regular (.infer document)).catalog.without ["comments"]
      ∃ table ∈ catalog.table? "posts", ∃ row ∈ memory.rows table,
        (∃ relation ∈ attached? catalog .regular table keys "user",
          (Embed.attachment relation (given memory.filtered catalog (memory.rows table) relation)
            row).text = "\x7b\"id\":7\x7d") ∧
        (∃ relation ∈ attached? catalog .regular table keys "user_id",
          (Embed.attachment relation (given memory.filtered catalog (memory.rows table) relation)
            row).text = "\x7b\"id\":3\x7d") ∧
        (∃ relation ∈ attached? catalog .regular table keys "comments",
          catalog.table? relation.relatedTable = none ∧ relation.kind = .hasMany) ∧
        attached? catalog .regular table keys "tags" = none ∧ (row.get? "tags").isNone := by
    decide +kernel
  obtain ⟨document, parsed, memory, loaded, table, found, row, member, ⟨user, named, text⟩,
    ⟨other, named', text'⟩, ⟨comments, named'', missing, many⟩, unnamed, absent⟩ := fit
  have steady : Steady (answering memory) memory.filtered := fun _ _ _ => rfl
  obtain ⟨shown, resolved, under, -, none, permuted⟩ :=
    keys_attach_independently (answering memory) memory.filtered steady []
      ((extractTables .regular (.infer document)).catalog.without ["comments"]) .regular table
      (memory.rows table) keys
  refine ⟨document, memory, table, row, parsed, eq_ok_of_mem_toOption loaded, steady, found, member,
    shown, resolved, permuted _ (by decide), ?_, ?_, ?_, ?_⟩
  · rw [under, named, Option.map_some, text]
  · rw [under, named', Option.map_some, text']
  · rw [none _ _ named'' missing, many]
  · rw [under, unnamed, Option.isNone_iff_eq_none.mp absent]

end ResourceQuery.Proofs.IndependentKeys
