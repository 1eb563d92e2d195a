import ResourceQuery.Proofs.InferredTables
import ResourceQuery.Proofs.LinkedTables
import ResourceQuery.Proofs.MemoryAnswers

/-! Documents served as they stand. Each list of a document is written down as the definition of a table
and recognized as such again, and the table is accepted exactly if a row of the list has the key `id`,
which becomes its primary key. A request for all its rows then gives the list back. -/

namespace ResourceQuery.Proofs.ServedDocuments
open InferredTables LinkedTables MemoryAnswers OrderedJson WrittenDefinitions

private theorem distinct_infer (document : Json) : Distinct (.infer document) := by
  cases document with
  | object collections =>
    have sorted : Sorted (SchemaDefinition.infer (.object collections)).entries := by
      refine List.foldlRecOn (motive := fun (definition : SchemaDefinition) =>
        Sorted definition.entries) collections _ .nil ?_
      rintro definition sorted ⟨name, value⟩ -
      cases value with
      | array items => exact sorted.insert _ _
      | _ => exact sorted
    exact sorted.nodup
  | _ => exact List.nodup_nil

private theorem mem_tables_of_mem {collections : Fields} (distinct : (collections.map (·.1)).Nodup)
    {resource : String} {items : List Json} (listed : (resource, .array items) ∈ collections) :
    (resource, TableDefinition.infer resource (rowsOf items)) ∈
      (SchemaDefinition.infer (.object collections)).tables := by
  have kept : (SchemaDefinition.infer (.object collections)).entries.get? resource =
      some (TableDefinition.infer resource (rowsOf items)).toJson := by
    -- What comes after the list has other names, so its definition stays once it is in.
    obtain ⟨before, after, rfl⟩ := List.append_of_mem listed
    rw [List.map_append, List.map_cons] at distinct
    have absent := (List.nodup_cons.mp (List.nodup_append.mp distinct).2.1).1
    rw [SchemaDefinition.infer, List.foldl_append, List.foldl_cons]
    refine List.foldlRecOn (motive := fun (definition : SchemaDefinition) =>
      definition.entries.get? resource = some _) after _ ?_ ?_
    · simp [SchemaDefinition.insert, Fields.get?_insert]
    · rintro definition kept ⟨name, value⟩ stored
      have other : name ≠ resource := fun same => absent (List.mem_map.mpr ⟨_, stored, same⟩)
      cases value with
      | array others => simpa [SchemaDefinition.insert, Fields.get?_insert, other] using kept
      | _ => exact kept
  refine List.mem_filterMap.mpr ⟨_, mem_of_get? kept, ?_⟩
  exact congrArg (Option.map (resource, ·)) (recognize?_toJson _)

private theorem mem_names_observe {columns : List ObservedColumn} {cell : String × Json} {name : String} :
    name ∈ (ObservedColumn.observe columns cell).map (·.name) ↔
      name ∈ columns.map (·.name) ∨ name = cell.1 := by
  induction columns with
  | nil => simp [ObservedColumn.observe, ObservedColumn.ofCell]
  | cons column rest ih =>
    rw [ObservedColumn.observe]
    split
    next seen =>
      simp only [List.map_cons, List.mem_cons, ObservedColumn.see, seen]
      rw [or_right_comm, or_self]
    next => simp only [List.map_cons, List.mem_cons, ih, or_assoc]

private theorem mem_names_ofRows {rows : List Row} {name : String} :
    name ∈ (ObservedColumn.ofRows rows).map (·.name) ↔ ∃ row ∈ rows, (row.get? name).isSome := by
  have folded (cells : List (String × Json)) (columns : List ObservedColumn) :
      name ∈ (cells.foldl ObservedColumn.observe columns).map (·.name) ↔
        name ∈ columns.map (·.name) ∨ name ∈ cells.map (·.1) := by
    induction cells generalizing columns with
    | nil => simp
    | cons cell rest ih =>
      rw [List.foldl_cons, ih, mem_names_observe, List.map_cons, List.mem_cons, or_assoc]
  rw [ObservedColumn.ofRows, ← List.foldl_flatten, folded]
  simp only [isSome_get?_iff, List.map_nil, List.not_mem_nil, false_or, List.map_flatten,
    ← List.flatMap_def, List.mem_flatMap]

private theorem mem_ofDefinitions {definitions : List ColumnDefinition} {column : Column}
    (member : column ∈ Column.ofDefinitions definitions) :
    ∃ definition ∈ definitions, column = .ofDefinition definition := by
  refine List.foldlRecOn (motive := fun (columns : List Column) => ∀ column ∈ columns,
    ∃ definition ∈ definitions, column = .ofDefinition definition)
    (definitions.map Column.ofDefinition) Column.addNew ?_ ?_ column member
  · intro column none
    cases none
  · intro columns before added listed column member
    obtain ⟨definition, defined, rfl⟩ := List.mem_map.mp listed
    rw [Column.addNew] at member
    split at member
    next => exact before column member
    next =>
      rcases List.mem_append.mp member with member | member
      · exact before column member
      · exact ⟨definition, defined, List.mem_singleton.mp member⟩

theorem any_ofDefinitions {definitions : List ColumnDefinition} {name : String} :
    (Column.ofDefinitions definitions).any (·.name = name) ↔ name ∈ definitions.map (·.name) := by
  have found := congrArg Option.isSome (find?_ofDefinitions definitions name)
  rw [Option.isSome_map, Bool.eq_iff_iff, List.find?_isSome, List.find?_isSome] at found
  rw [List.any_eq_true, found]
  simp

private theorem extractTable_unmarked {resource : String} {definition : TableDefinition}
    (unmarked : ∀ column ∈ definition.columns.toList, column.primaryKey = false) :
    (∃ table, extractTable resource definition = .ok table) ↔
      "id" ∈ definition.columns.toList.map (·.name) := by
  have none : (Column.ofDefinitions definition.columns.toList).filter (·.isPrimaryKey) = [] := by
    rw [List.filter_eq_nil_iff]
    intro column member
    obtain ⟨defined, listed, rfl⟩ := mem_ofDefinitions member
    simp [Column.ofDefinition, unmarked defined listed]
  simp only [extractTable, none, List.map_nil, ← any_ofDefinitions]
  split <;> simp [*]

private theorem extractTable_infer {resource name : String} {rows : List Row} :
    (∃ table, extractTable resource (.infer name rows) = .ok table) ↔
      ∃ row ∈ rows, (row.get? "id").isSome := by
  rw [extractTable_unmarked, ← mem_names_ofRows]
  · simp only [TableDefinition.infer, Columns.toList, List.map_map]
    rfl
  · intro column member
    obtain ⟨observed, -, rfl⟩ := List.mem_map.mp member
    rfl

/-- The document maps the name to a list with an object that has the key `id`. -/
def Serves (collections : Fields) (resource : String) (items : List Json) : Prop :=
  (resource, .array items) ∈ collections ∧
    ∃ fields, .object fields ∈ items ∧ (Fields.get? fields "id").isSome

def objectsOf (items : List Json) : List Json :=
  items.filter (·.fields?.isSome)

private theorem map_object_rowsOf (items : List Json) : (rowsOf items).map .object = objectsOf items := by
  induction items with
  | nil => rfl
  | cons item rest ih =>
    cases item with
    | object fields => exact congrArg (.object fields :: ·) ih
    | _ => exact ih

theorem mem_rowsOf {items : List Json} {row : Row} : row ∈ rowsOf items ↔ .object row ∈ items := by
  rw [rowsOf, List.mem_filterMap]
  constructor
  · rintro ⟨item, member, fields⟩
    cases item <;> cases fields
    exact member
  · intro member
    exact ⟨_, member, rfl⟩

def serviceOf (naming : Naming) (document : Json) : Service :=
  ⟨(extractTables naming (.infer document)).catalog, naming⟩

private theorem mem_resources_iff {collections : Fields} (distinct : (collections.map (·.1)).Nodup)
    (naming : Naming) {resource : String} :
    resource ∈ (serviceOf naming (.object collections)).catalog.resources ↔
      ∃ items, Serves collections resource items := by
  rw [serviceOf, resources_eq, List.mem_map]
  simp only [mem_unlinkedTables]
  constructor
  · rintro ⟨table, ⟨name, described, defined, extracted⟩, rfl⟩
    obtain ⟨items, listed, rfl⟩ := mem_tables_infer defined
    obtain ⟨row, member, keyed⟩ := extractTable_infer.mp ⟨table, extracted⟩
    rw [(extractTable_fresh extracted).1]
    exact ⟨items, listed, row, mem_rowsOf.mp member, keyed⟩
  · rintro ⟨items, listed, row, member, keyed⟩
    obtain ⟨table, extracted⟩ :=
      (@extractTable_infer resource resource _).mpr ⟨row, mem_rowsOf.mpr member, keyed⟩
    exact ⟨table, ⟨resource, _, mem_tables_of_mem distinct listed, extracted⟩,
      (extractTable_fresh extracted).1⟩

private theorem served_table {collections : Fields} (distinct : (collections.map (·.1)).Nodup)
    (naming : Naming) {resource : String} {items : List Json}
    (served : Serves collections resource items) :
    ∃ table, (serviceOf naming (.object collections)).catalog.table? resource = some table ∧
      Memory.rows ⟨collections.filterMap Memory.collection?⟩ table = rowsOf items := by
  obtain ⟨table, member, rfl⟩ :=
    List.mem_map.mp ((mem_resources_iff distinct naming).mpr ⟨items, served⟩)
  refine ⟨table, table?_of_mem (distinct_infer _) member, ?_⟩
  obtain ⟨_, described, defined, named, same, -⟩ := mem_extractTables member
  obtain ⟨others, -, rfl⟩ := mem_tables_infer defined
  have name : table.name = table.resource := named.trans same.symm
  rw [Memory.rows, name, rows_of_collection distinct served.1]
  rfl

private theorem table?_eq_none {catalog : Catalog} {resource : String} :
    catalog.table? resource = none ↔ resource ∉ catalog.resources := by
  simp [Catalog.table?, Catalog.resources]

private theorem list_from_start (service : Service) (memory : Memory) {resource : String} {table : Table}
    (found : service.catalog.table? resource = some table) : ∃ listed,
      resultOf memory (service.list resource (.ofPairs [("_start", "0")])) = .ok listed ∧
        listed.rows = memory.rows table ∧ listed.total = (memory.rows table).length := by
  have asked : Intent.parse (.ofPairs [("_start", "0")]) = ⟨{ start := some 0 }, [], [], []⟩ := by
    decide
  have answered := list_result service memory found (.ofPairs [("_start", "0")])
  have rows := rows_of_list service memory found _ answered (by rw [asked]; rfl) (by rw [asked]; rfl)
    (by rw [asked])
  have kept : memory.filtered table [] = memory.rows table := List.filter_eq_self.mpr fun _ _ => rfl
  refine ⟨_, answered, ?_, ?_⟩
  · rw [rows, asked]
    exact kept
  · rw [asked]
    exact congrArg List.length kept

/-- A document is served as it stands. Its resources are the names of the lists in which an object has the
key `id`; all rows of such a resource are the objects of its list, unchanged and in the order of the
document, and as many are counted; and no other name is found, whatever is asked of it. -/
theorem documents_are_served {collections : Fields} (distinct : (collections.map (·.1)).Nodup)
    (naming : Naming) :
    let service := serviceOf naming (.object collections)
    ∃ memory, Memory.ofDocument (.object collections) = .ok memory ∧ ∀ resource,
      (resource ∈ service.catalog.resources ↔ ∃ items, Serves collections resource items) ∧
      (∀ items, Serves collections resource items → ∃ listed,
        resultOf memory (service.list resource (.ofPairs [("_start", "0")])) = .ok listed ∧
          listed.rows.map Json.object = objectsOf items ∧ listed.total = (objectsOf items).length) ∧
      (resource ∉ service.catalog.resources → ∀ parameters,
        resultOf memory (service.list resource parameters) = .error ⟨resource⟩) := by
  intro service
  refine ⟨_, rfl, fun resource => ⟨mem_resources_iff distinct naming, ?_, ?_⟩⟩
  · intro items served
    obtain ⟨table, found, rows⟩ := served_table distinct naming served
    obtain ⟨listed, answered, all, total⟩ := list_from_start service _ found
    rw [rows] at all total
    rw [← map_object_rowsOf, List.length_map]
    exact ⟨listed, answered, congrArg _ all, total⟩
  · intro missing parameters
    rw [Service.list, table?_eq_none.mpr missing]
    rfl

/-- A list of rows and other values, a list without identifiers, and an object that is no list. -/
def library : Fields :=
  [("authors", .array [.object [("name", .string "Ann")], .string "Bob", .object [("id", .ofInt 7)]]),
    ("notes", .array [.object [("text", .string "late")]]), ("owner", .object [("id", .ofInt 7)])]

theorem list_of_rows_and_other_values_is_served :
    let service := serviceOf .regular (.object library)
    (library.map (·.1)).Nodup ∧ ∃ memory, Memory.ofDocument (.object library) = .ok memory ∧
      (∃ listed, resultOf memory (service.list "authors" (.ofPairs [("_start", "0")])) = .ok listed ∧
        listed.rows.map Json.object = [.object [("name", .string "Ann")], .object [("id", .ofInt 7)]] ∧
          listed.total = 2) ∧
      resultOf memory (service.list "notes" .empty) = .error ⟨"notes"⟩ ∧
      resultOf memory (service.list "owner" .empty) = .error ⟨"owner"⟩ := by
  intro service
  have distinct : (library.map (·.1)).Nodup := by decide
  obtain ⟨memory, stored, served⟩ := documents_are_served distinct .regular
  refine ⟨distinct, memory, stored, ?_, ?_, ?_⟩
  · exact (served "authors").2.1 _ ⟨List.mem_cons_self, [("id", .ofInt 7)], by simp, rfl⟩
  · refine (served "notes").2.2 (fun found => ?_) _
    obtain ⟨items, listed, fields, member, keyed⟩ := (served "notes").1.mp found
    obtain rfl : items = [.object [("text", .string "late")]] := by simpa [library] using listed
    obtain rfl : fields = [("text", .string "late")] := by simpa using member
    cases keyed
  · refine (served "owner").2.2 (fun found => ?_) _
    obtain ⟨items, listed, -⟩ := (served "owner").1.mp found
    simp [library] at listed

end ResourceQuery.Proofs.ServedDocuments
