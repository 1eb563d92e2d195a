import ResourceQuery.Proofs.WrittenDefinitions
import ResourceQuery.Schema.Extraction
import ResourceQuery.Schema.Inference
import ResourceQuery.Store.Memory

/-! Tables that a document is given. Each stands for one list of the document, which is also what memory
keeps under its name, and a column has the type of its first cell that is not null. -/

namespace ResourceQuery.Proofs.InferredTables
open OrderedJson WrittenDefinitions

def ComesFrom (collections : Fields) (entry : String × Json) : Prop :=
  ∃ items, (entry.1, .array items) ∈ collections ∧
    entry.2 = (TableDefinition.infer entry.1 (rowsOf items)).toJson

private theorem mem_infer (collections : Fields) :
    ∀ entry ∈ (SchemaDefinition.infer (.object collections)).entries, ComesFrom collections entry := by
  refine List.foldlRecOn (motive := fun (definition : SchemaDefinition) =>
    ∀ entry ∈ definition.entries, ComesFrom collections entry) collections _ ?_ ?_
  · intro entry none
    cases none
  · intro definition before field stored
    obtain ⟨name, value⟩ := field
    cases value with
    | array items =>
      intro entry member
      rcases mem_of_mem_insert member with rfl | member
      · exact ⟨items, stored, rfl⟩
      · exact before entry member
    | _ => exact before

theorem mem_tables_infer {collections : Fields} {resource : String} {definition : TableDefinition}
    (member : (resource, definition) ∈ (SchemaDefinition.infer (.object collections)).tables) :
    ∃ items, (resource, .array items) ∈ collections ∧
      definition = TableDefinition.infer resource (rowsOf items) := by
  obtain ⟨⟨name, entry⟩, listed, recognized⟩ := List.mem_filterMap.mp member
  obtain ⟨found, recognized, same⟩ := Option.map_eq_some_iff.mp recognized
  cases same
  obtain ⟨items, stored, written⟩ := mem_infer collections _ listed
  simp only at stored written
  rw [written, TableDefinition.infer, recognize?_toJson] at recognized
  cases recognized
  exact ⟨items, stored, rfl⟩

/-- Of several columns with one name the first stays. -/
theorem find?_ofDefinitions (definitions : List ColumnDefinition) (name : String) :
    (Column.ofDefinitions definitions).find? (·.name = name) =
      (definitions.find? (·.name = name)).map Column.ofDefinition := by
  have folded (columns : List Column) (added : List Column) :
      (added.foldl Column.addNew columns).find? (·.name = name) =
        (columns.find? (·.name = name) <|> added.find? (·.name = name)) := by
    induction added generalizing columns with
    | nil => simp
    | cons column rest ih =>
      rw [List.foldl_cons, ih, Column.addNew, List.find?_cons]
      by_cases known : columns.any (·.name = column.name) = true
      · rw [if_pos known]
        by_cases same : column.name = name
        · obtain ⟨other, member, equal⟩ := List.any_eq_true.mp known
          have found : (columns.find? (·.name = name)).isSome :=
            List.find?_isSome.mpr ⟨other, member, by simpa [same] using equal⟩
          obtain ⟨other, found⟩ := Option.isSome_iff_exists.mp found
          simp [found]
        · simp [same]
      · rw [if_neg known, List.find?_append]
        by_cases same : column.name = name <;> cases columns.find? (·.name = name) <;> simp [same]
  rw [Column.ofDefinitions, folded, List.find?_nil, List.find?_map]
  rfl

private theorem types_map {change : Column → Column} (kept : ∀ column, (change column).name = column.name ∧
    (change column).type = column.type) (columns : List Column) (name : String) :
    ((columns.map change).find? (·.name = name)).map (·.type) =
      (columns.find? (·.name = name)).map (·.type) := by
  induction columns with
  | nil => rfl
  | cons column rest ih =>
    simp only [List.map_cons, List.find?_cons, (kept column).1]
    split
    · simp [kept column]
    · exact ih

private theorem refer_keeps (links : List Link) (resource : String) (column : Column) :
    (Link.refer links resource column).name = column.name ∧
      (Link.refer links resource column).type = column.type := by
  unfold Link.refer
  split <;> exact ⟨rfl, rfl⟩

private theorem extractTable_ok {resource : String} {definition : TableDefinition} {table : Table}
    (extracted : extractTable resource definition = .ok table) :
    table.name = definition.name ∧ table.resource = resource ∧ ∀ name,
      (table.column? name).map (·.type) =
        (definition.columns.toList.find? (·.name = name)).map fun column =>
          .ofDeclared column.declaredType := by
  have types (name : String) : ((Column.ofDefinitions definition.columns.toList).find?
      (·.name = name)).map (·.type) = (definition.columns.toList.find? (·.name = name)).map fun column =>
        .ofDeclared column.declaredType := by
    rw [find?_ofDefinitions, Option.map_map]
    simp only [Function.comp_def, Column.ofDefinition]
  have adopted (name : String) (columns : List Column) :
      ((adoptPrimaryKey "id" columns).find? (·.name = name)).map (·.type) =
        (columns.find? (·.name = name)).map (·.type) := by
    apply types_map
    intro column
    split <;> exact ⟨rfl, rfl⟩
  unfold extractTable at extracted
  generalize Column.ofDefinitions definition.columns.toList = columns at *
  simp only at extracted
  split at extracted
  next => cases extracted; exact ⟨rfl, rfl, types⟩
  next =>
    by_cases present : columns.any (·.name = "id") = true
    · rw [if_pos present] at extracted
      cases extracted
      exact ⟨rfl, rfl, fun name => (adopted name columns).trans (types name)⟩
    · rw [if_neg present] at extracted
      cases extracted
  next => cases extracted

theorem mem_extractTables {naming : Naming} {definition : SchemaDefinition} {table : Table}
    (member : table ∈ (extractTables naming definition).tables) :
    ∃ resource described, (resource, described) ∈ definition.tables ∧
      table.name = described.name ∧ table.resource = resource ∧ ∀ name,
        (table.column? name).map (·.type) =
          (described.columns.toList.find? (·.name = name)).map fun column =>
            .ofDeclared column.declaredType := by
  obtain ⟨unlinked, accepted, rfl⟩ := List.mem_map.mp member
  obtain ⟨result, listed, accepted⟩ := List.mem_filterMap.mp accepted
  obtain ⟨⟨resource, described⟩, defined, extracted⟩ := List.mem_map.mp listed
  cases result with
  | error => cases accepted
  | ok found =>
    cases accepted
    obtain ⟨named, served, types⟩ := extractTable_ok extracted
    refine ⟨resource, described, defined, named, served, fun name => ?_⟩
    rw [← types]
    exact types_map (refer_keeps _ _) _ name

def knownType? (columns : List ObservedColumn) (name : String) : Option String :=
  (columns.find? (·.name = name)).bind (·.type)

/-- The type that a cell suggests for a column. -/
def suggestion? (name : String) (cell : String × Json) : Option String :=
  if cell.1 = name then suggestedType? cell.2 else none

private theorem knownType?_cons (column : ObservedColumn) (columns : List ObservedColumn) (name : String) :
    knownType? (column :: columns) name =
      if column.name = name then column.type else knownType? columns name := by
  by_cases same : column.name = name <;> simp [knownType?, same]

private theorem knownType?_observe (columns : List ObservedColumn) (cell : String × Json) (name : String) :
    knownType? (ObservedColumn.observe columns cell) name =
      (knownType? columns name <|> suggestion? name cell) := by
  induction columns with
  | nil =>
    rw [ObservedColumn.observe, knownType?_cons]
    rfl
  | cons column rest ih =>
    rw [ObservedColumn.observe, knownType?_cons]
    by_cases seen : column.name = cell.1
    · rw [if_pos seen, knownType?_cons]
      by_cases same : cell.1 = name <;> simp [ObservedColumn.see, suggestion?, seen, same]
    · rw [if_neg seen, knownType?_cons, ih]
      by_cases same : column.name = name
      · have other : cell.1 ≠ name := fun equal => seen (same.trans equal.symm)
        simp [suggestion?, same, other]
      · simp only [if_neg same]

private theorem knownType?_foldl (cells : List (String × Json)) (columns : List ObservedColumn)
    (name : String) :
    knownType? (cells.foldl ObservedColumn.observe columns) name =
      (knownType? columns name <|> cells.findSome? (suggestion? name)) := by
  induction cells generalizing columns with
  | nil => simp
  | cons cell rest ih =>
    rw [List.foldl_cons, ih, knownType?_observe, List.findSome?_cons]
    cases knownType? columns name <;> cases suggestion? name cell <;> rfl

private theorem findSome?_suggestion {row : Row} (distinct : (row.map (·.1)).Nodup) (name : String) :
    row.findSome? (suggestion? name) = suggestedType? (row.get name) := by
  induction row with
  | nil => rfl
  | cons cell rest ih =>
    obtain ⟨key, value⟩ := cell
    obtain ⟨absent, distinct⟩ := List.nodup_cons.mp distinct
    rw [List.findSome?_cons]
    by_cases same : key = name
    · subst same
      have nowhere : rest.findSome? (suggestion? key) = none := by
        rw [List.findSome?_eq_none_iff]
        intro cell member
        have other : cell.1 ≠ key := fun equal => absent (List.mem_map.mpr ⟨cell, member, equal⟩)
        simp [suggestion?, other]
      simp only [suggestion?, ↓reduceIte, Fields.get, Fields.get?, Option.getD_some]
      cases suggestedType? value with
      | none => exact nowhere
      | some type => rfl
    · simp only [suggestion?, same, ↓reduceIte, Fields.get, Fields.get?]
      exact ih distinct

/-- The type of a column is that of its first cell that is not null. -/
theorem knownType?_ofRows {rows : List Row} (distinct : ∀ row ∈ rows, (row.map (·.1)).Nodup)
    (name : String) :
    knownType? (ObservedColumn.ofRows rows) name =
      rows.findSome? fun row => suggestedType? (row.get name) := by
  have folded (columns : List ObservedColumn) :
      knownType? (rows.foldl (fun columns row => row.foldl ObservedColumn.observe columns) columns) name =
        (knownType? columns name <|> rows.findSome? fun row => suggestedType? (row.get name)) := by
    induction rows generalizing columns with
    | nil => simp
    | cons row rest ih =>
      obtain ⟨once, distinct⟩ := List.forall_mem_cons.mp distinct
      rw [List.foldl_cons, ih distinct, knownType?_foldl, findSome?_suggestion once,
        List.findSome?_cons]
      cases knownType? columns name <;> cases suggestedType? (row.get name) <;> rfl
  exact folded []

private theorem find?_infer (name : String) (rows : List Row) (column : String) :
    ((TableDefinition.infer name rows).columns.toList.find? (·.name = column)).map (·.declaredType) =
      ((ObservedColumn.ofRows rows).find? (·.name = column)).map fun observed =>
        observed.type.getD "text" := by
  simp only [TableDefinition.infer, Columns.toList]
  induction ObservedColumn.ofRows rows with
  | nil => rfl
  | cons observed rest ih =>
    have kept : (observed.define rows).name = observed.name := rfl
    simp only [List.map_cons, List.find?_cons, kept]
    split
    · rfl
    · exact ih

theorem rows_of_collection {collections : Fields} (distinct : (collections.map (·.1)).Nodup)
    {name : String} {items : List Json} (stored : (name, .array items) ∈ collections) :
    Memory.named? ⟨collections.filterMap Memory.collection?⟩ name = some (rowsOf items) := by
  induction collections with
  | nil => cases stored
  | cons field rest ih =>
    obtain ⟨absent, distinct⟩ := List.nodup_cons.mp distinct
    rcases List.mem_cons.mp stored with rfl | stored
    · simp [Memory.named?, Memory.collection?, Json.items?, rowsOf]
    · have other : field.1 ≠ name := fun same => absent (List.mem_map.mpr ⟨_, stored, same.symm⟩)
      have later := ih distinct stored
      simp only [Memory.named?] at later ⊢
      cases held : field.2.items? with
      | none => simpa [Memory.collection?, held] using later
      | some others => simpa [Memory.collection?, held, other] using later

/-- A table of a document that was read stands for one of its lists, by whose name it is called. Memory
keeps the same rows under this name, and they tell the types of the table's columns. -/
theorem inferred_table {document : Json} {memory : Memory} {naming : Naming} {table : Table}
    (ordered : Ordered document) (stored : Memory.ofDocument document = .ok memory)
    (member : table ∈ (extractTables naming (.infer document)).tables) {name : String} {column : Column}
    (found : table.column? name = some column) :
    column.type = .ofDeclared
      (((memory.rows table).findSome? fun row => suggestedType? (row.get name)).getD "text") := by
  cases ordered with
  | @object collections sorted each =>
    cases stored
    obtain ⟨resource, described, defined, named, served, types⟩ := mem_extractTables member
    obtain ⟨items, listed, rfl⟩ := mem_tables_infer defined
    have rows : Memory.rows ⟨collections.filterMap Memory.collection?⟩ table = rowsOf items := by
      have name : table.name = resource := named
      rw [Memory.rows, name, rows_of_collection sorted.nodup listed]
      rfl
    have distinct : ∀ row ∈ rowsOf items, (row.map (·.1)).Nodup := by
      intro row inside
      obtain ⟨item, held, fields⟩ := List.mem_filterMap.mp inside
      cases each _ listed with
      | array orderedItems =>
        cases orderedItems item held with
        | object sorted _ => cases fields; exact sorted.nodup
        | _ => cases fields
    have typed := types name
    rw [found, Option.map_some] at typed
    obtain ⟨definition, defined, same⟩ := Option.map_eq_some_iff.mp typed.symm
    have declared := find?_infer resource (rowsOf items) name
    rw [defined, Option.map_some] at declared
    obtain ⟨observed, seen, type⟩ := Option.map_eq_some_iff.mp declared.symm
    have known := knownType?_ofRows distinct name
    rw [knownType?, seen, Option.bind_some] at known
    rw [rows, ← known, ← same, type]
  | _ => cases stored

end ResourceQuery.Proofs.InferredTables
