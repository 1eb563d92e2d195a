import ResourceQuery.Proofs.AttachedRows
import ResourceQuery.Proofs.IndependentKeys
import ResourceQuery.Proofs.LinkedTables

/-! Lists of related rows as a nested-loop join. What a foreign key of theirs attaches to a row is every
related row in memory that has the row's text under it, in document order, whatever other rows and keys
are embedded beside it. -/

namespace ResourceQuery.Proofs.JoinedRows
open AddedProperties AttachedRows IndependentKeys LinkedTables MemoryAnswers StoreRuns

/-- One pass over the related rows: those with a foreign key that has the same text as the row's key. -/
def joined (memory : Memory) (related : Table) (relation : Relation) (row : Row) : List Row :=
  (memory.rows related).filter fun other =>
    (other.get relation.theirKey).isNull = false ∧
      Embed.joinKey? relation.theirKey other = Embed.joinKey? relation.ourKey row

section

variable {catalog : Catalog} {memory : Memory} {relation : Relation} {related : Table} {rows : List Row}

theorem joined_without_key {row : Row} (none : (row.get relation.ourKey).isNull = true) :
    joined memory related relation row = [] := by
  apply List.filter_eq_nil_iff.mpr
  intro other _
  rw [decide_eq_true_eq, joinKey?_eq_none_iff.mpr none, joinKey?_eq_none_iff]
  rintro ⟨keyed, unkeyed⟩
  rw [keyed] at unkeyed
  cases unkeyed

private theorem referring_eq (kind : relation.kind = .hasMany) (row : Row) :
    Embed.referring relation (memory.rows related) row =
      .array ((joined memory related relation row).map .object) := by
  unfold Embed.referring
  rw [foreignKey_of_hasMany kind]
  split
  next none => rw [joined_without_key (joinKey?_eq_none_iff.mp none), List.map_nil]
  next key keyed =>
    congr 2
    refine List.filter_congr fun other _ => decide_eq_decide.mpr ?_
    rw [keyed]
    constructor
    · intro same
      refine ⟨?_, same⟩
      rw [← Bool.not_eq_true, ← joinKey?_eq_none_iff, same]
      simp
    · exact And.right

private theorem attachments_joined (found : catalog.table? relation.relatedTable = some related)
    (kind : relation.kind = .hasMany) :
    resultOf memory (Embed.attachments catalog relation rows) =
      rows.map fun row => .array ((joined memory related relation row).map .object) := by
  rw [attachments_result memory found, filtered_of_hasMany kind]
  refine List.map_congr_left fun row _ => ?_
  simp only [Embed.attachment, kind]
  exact referring_eq kind row

private theorem attachments_given (memory : Memory) (relation : Relation) (rows : List Row) :
    resultOf memory (Embed.attachments catalog relation rows) =
      rows.map (Embed.attachment relation (given memory.filtered catalog rows relation)) := by
  unfold Embed.attachments given
  cases catalog.table? relation.relatedTable with
  | none => rfl
  | some related => cases Embed.distinctKeys relation.ourKey rows <;> rfl

/-- A key that names the relation shows what the relation attaches under itself, whatever the other keys
put there. -/
theorem resolve_shows {naming : Naming} {table : Table} {keys : List String} {key : String}
    {value : Row → Json}
    (attaches : resultOf memory (Embed.attachments catalog relation rows) = rows.map value)
    (named : attached? catalog naming table keys key = some relation) :
    ∃ shown : Row → Row,
      resultOf memory (Embed.resolve catalog naming table rows keys) = rows.map shown ∧
        ∀ row ∈ rows, (shown row).get? key = some (value row) := by
  have steady : Steady (answering memory) memory.filtered := fun _ _ _ => rfl
  have resolved : (observe (answering memory) [] (Embed.resolve catalog naming table rows keys)).1 = _ :=
    resolve_result steady [] keys
  rw [observe_answering] at resolved
  refine ⟨_, Except.ok.inj resolved, fun row member => ?_⟩
  rw [get?_extend_additions, named]
  have same := (attachments_given memory relation rows).symm.trans attaches
  exact congrArg some (List.map_inj_left.mp same row member)

private theorem resolve_joined {naming : Naming} {table : Table} {keys : List String} {key : String}
    (found : catalog.table? relation.relatedTable = some related) (kind : relation.kind = .hasMany)
    (named : attached? catalog naming table keys key = some relation) :
    ∃ shown : Row → Row,
      resultOf memory (Embed.resolve catalog naming table rows keys) = rows.map shown ∧
        ∀ row ∈ rows, (shown row).get? key =
          some (.array ((joined memory related relation row).map .object)) :=
  resolve_shows (attachments_joined found kind) named

private theorem hasMany_found {naming : Naming} {definition : SchemaDefinition} {table : Table}
    (extracted : table ∈ (extractTables naming definition).tables)
    (listed : relation ∈ table.relations) (kind : relation.kind = .hasMany) :
    ∃ related, (extractTables naming definition).catalog.table? relation.relatedTable = some related := by
  obtain ⟨link, linked, ⟨-, rfl⟩ | ⟨-, rfl⟩⟩ := (mem_relations extracted).mp listed
  · cases kind
  · obtain ⟨source, member, -, -, -, -, resource, -⟩ := mem_links.mp linked
    apply Option.isSome_iff_exists.mp
    rw [Catalog.table?, List.find?_isSome]
    refine ⟨_, List.mem_map_of_mem member, ?_⟩
    exact decide_eq_true resource.symm

end

/-- A list of related rows is a join. For every row, in order, embedding over memory attaches all of the
related rows, in document order and each once, that have a foreign key, and one with the same text as
the row's own key: none for a row without a key. A request that names the relation by one of its keys
shows these lists under this key, whatever it embeds beside them. -/
theorem has_many_lists_are_joined (naming : Naming) (definition : SchemaDefinition) (memory : Memory)
    (table : Table) (relation : Relation)
    (extracted : table ∈ (extractTables naming definition).tables)
    (listed : relation ∈ table.relations) (kind : relation.kind = .hasMany) :
    let catalog := (extractTables naming definition).catalog
    ∃ related, catalog.table? relation.relatedTable = some related ∧ ∀ rows,
      resultOf memory (Embed.attachments catalog relation rows) =
          rows.map (fun row => .array ((joined memory related relation row).map .object)) ∧
        (∀ row, (row.get relation.ourKey).isNull = true → joined memory related relation row = []) ∧
        ∀ keys key, attached? catalog naming table keys key = some relation → ∃ shown : Row → Row,
          resultOf memory (Embed.resolve catalog naming table rows keys) = rows.map shown ∧
            ∀ row ∈ rows, (shown row).get? key =
              some (.array ((joined memory related relation row).map .object)) := by
  intro catalog
  obtain ⟨related, found⟩ := hasMany_found extracted listed kind
  exact ⟨related, found, fun rows => ⟨attachments_joined found kind, fun _ => joined_without_key,
    fun _ _ => resolve_joined found kind⟩⟩

def tree : String :=
  "\x7b\"nodes\":[\x7b\"id\":1,\"nodeId\":null\x7d,\x7b\"id\":\"2\",\"nodeId\":\"1\"\x7d," ++
    "\x7b\"id\":null,\"nodeId\":1\x7d,\x7b\"id\":1,\"nodeId\":2\x7d,\x7b\"id\":7\x7d]\x7d"

/-- Nodes that refer to nodes, by numbers and by texts: two of them share a key, and one has none. -/
theorem nodes_list_their_children : ∃ document memory table relation shown,
    Json.parse? tree = some document ∧ Memory.ofDocument document = .ok memory ∧
    let catalog := (extractTables .regular (.infer document)).catalog
    table ∈ catalog.tables ∧ relation ∈ table.relations ∧ relation.kind = .hasMany ∧
      catalog.table? relation.relatedTable = some table ∧
      (memory.rows table).map (fun row =>
          (joined memory table relation row).map fun other => (other.get "id").plainText) =
        [["2", "null"], ["1"], [], ["2", "null"], []] ∧
      resultOf memory (Embed.resolve catalog .regular table (memory.rows table) ["nodes", "node"]) =
        (memory.rows table).map shown ∧
      ∀ row ∈ memory.rows table, (shown row).get? "nodes" =
        some (.array ((joined memory table relation row).map .object)) := by
  have fit : ∃ document ∈ Json.parse? tree, ∃ memory ∈ (Memory.ofDocument document).toOption,
      let catalog := (extractTables .regular (.infer document)).catalog
      ∃ table ∈ catalog.tables, ∃ relation ∈ table.relations, relation.kind = .hasMany ∧
        catalog.table? relation.relatedTable = some table ∧
        attached? catalog .regular table ["nodes", "node"] "nodes" = some relation ∧
        (memory.rows table).map (fun row =>
            (joined memory table relation row).map fun other => (other.get "id").plainText) =
          [["2", "null"], ["1"], [], ["2", "null"], []] := by
    decide +kernel
  obtain ⟨document, parsed, memory, loaded, table, extracted, relation, listed, kind, found, named,
    children⟩ := fit
  obtain ⟨related, found', lists⟩ := has_many_lists_are_joined .regular (.infer document) memory table
    relation extracted listed kind
  obtain rfl : table = related := Option.some.inj (found.symm.trans found')
  obtain ⟨-, -, named_lists⟩ := lists (memory.rows table)
  obtain ⟨shown, resolved, attached⟩ := named_lists ["nodes", "node"] "nodes" named
  exact ⟨document, memory, table, relation, shown, parsed, eq_ok_of_mem_toOption loaded, extracted, listed,
    kind, found, children, resolved, attached⟩

end ResourceQuery.Proofs.JoinedRows
