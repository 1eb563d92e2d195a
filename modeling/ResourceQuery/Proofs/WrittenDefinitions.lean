import Mathlib.Data.List.Induction
import ResourceQuery.Postgres.Introspection
import ResourceQuery.Proofs.OrderedJson

/-! Definitions that were written as JSON. Reading takes many spellings of a definition and writing uses
one, which reads back as the same definition; so nothing that was written can fall out of a schema. -/

namespace ResourceQuery.Proofs.WrittenDefinitions
open OrderedJson Postgres

private theorem ofFields?_toFields (spec : ColumnSpec) : ColumnSpec.ofFields? spec.toFields = some spec := by
  simp [ColumnSpec.ofFields?, ColumnSpec.toFields, ColumnSpec.flag?, ColumnSpec.primaryKey?,
    Fields.get?, Json.string?, Json.bool?]

private theorem ofFields?_named (name : Json) (fields : Fields) :
    ColumnSpec.ofFields? (("name", name) :: fields) = ColumnSpec.ofFields? fields := by
  simp [ColumnSpec.ofFields?, ColumnSpec.primaryKey?, Fields.get?]

private theorem ofJson?_toJson (column : ColumnDefinition) :
    ColumnDefinition.ofJson? column.toJson = some column := by
  simp [ColumnDefinition.ofJson?, ColumnDefinition.toJson, ofFields?_named, ofFields?_toFields,
    Fields.get?, Json.string?]

private theorem mapM_map {Outcome : Type → Type} [Monad Outcome] [LawfulMonad Outcome] {Value Written : Type}
    {write : Value → Written} {read : Written → Outcome Value}
    (back : ∀ value, read (write value) = pure value) (values : List Value) :
    (values.map write).mapM read = pure values := by
  induction values with
  | nil => rfl
  | cons value rest ih => simp [back value, ih]

private theorem columns_toJson (columns : Columns) : Columns.ofJson? columns.toJson = some columns := by
  cases columns with
  | list columns =>
    rw [Columns.toJson, Columns.ofJson?, mapM_map ofJson?_toJson]
    rfl
  | keyed columns =>
    rw [Columns.toJson, Columns.ofJson?, mapM_map]
    · rfl
    · rintro ⟨name, spec⟩
      rw [Columns.ofField?, ColumnSpec.ofJson?, ofFields?_toFields]
      rfl

/-- A table is recognized by its JSON form. -/
theorem recognize?_toJson (table : TableDefinition) :
    TableDefinition.recognize? table.toJson = some table := by
  simp [TableDefinition.recognize?, TableDefinition.toJson, Fields.get?, Json.string?, columns_toJson]

/-- Tables that were written are read back, all of them and in their order. -/
theorem tables_of_written {definition : SchemaDefinition} {tables : List (String × TableDefinition)}
    (written : definition.entries = tables.map fun (name, table) => (name, table.toJson)) :
    definition.tables = tables := by
  rw [SchemaDefinition.tables, written, List.filterMap_map]
  simp only [Function.comp_def, recognize?_toJson, Option.map_some]
  exact List.filterMap_some

/-- Columns that are keyed by name stand in the order of their names. -/
def InOrder (table : TableDefinition) : Prop :=
  match table.columns with
  | .list _ => True
  | .keyed columns => columns.Pairwise fun left right => Text.order left.1 right.1 = .lt

private theorem sorted_iff {fields : Fields} :
    Sorted fields ↔ (fields.map (·.1)).Pairwise fun left right => Text.order left right = .lt := by
  rw [Sorted, List.pairwise_map]

private theorem ordered_toFields (spec : ColumnSpec) : Ordered (.object spec.toFields) := by
  refine .object (sorted_iff.mpr ?_) ?_
  · change List.Pairwise _ ["nullable", "primary_key", "type"]
    decide
  · simp [ColumnSpec.toFields, Ordered.bool, Ordered.string]

private theorem ordered_column (column : ColumnDefinition) : Ordered column.toJson := by
  refine .object (sorted_iff.mpr ?_) ?_
  · change List.Pairwise _ ["name", "nullable", "primary_key", "type"]
    decide
  · simp [ColumnSpec.toFields, Ordered.bool, Ordered.string]

private theorem ordered_toJson {table : TableDefinition} (inOrder : InOrder table) : Ordered table.toJson := by
  obtain ⟨name, columns⟩ := table
  have described : Ordered columns.toJson := by
    cases columns with
    | list columns =>
      refine .array fun item member => ?_
      obtain ⟨column, -, rfl⟩ := List.mem_map.mp member
      exact ordered_column column
    | keyed columns =>
      refine .object (List.pairwise_map.mpr inOrder) fun field member => ?_
      obtain ⟨⟨key, spec⟩, -, rfl⟩ := List.mem_map.mp member
      exact ordered_toFields spec
  refine .object (sorted_iff.mpr ?_) ?_
  · change List.Pairwise _ ["columns", "name"]
    decide
  · simp [described, Ordered.string]

private theorem names_of_read {fields : Fields} {columns : List (String × ColumnSpec)}
    (read : fields.mapM Columns.ofField? = some columns) : columns.map (·.1) = fields.map (·.1) := by
  induction fields generalizing columns with
  | nil =>
    cases read
    rfl
  | cons field rest ih =>
    rw [List.mapM_cons] at read
    obtain ⟨column, first, read⟩ := Option.bind_eq_some_iff.mp read
    obtain ⟨others, later, read⟩ := Option.bind_eq_some_iff.mp read
    obtain ⟨spec, -, rfl⟩ := Option.map_eq_some_iff.mp first
    cases read
    rw [List.map_cons, List.map_cons, ih later]

private theorem inOrder_of_recognize? {entry : Json} {table : TableDefinition} (ordered : Ordered entry)
    (recognized : TableDefinition.recognize? entry = some table) : InOrder table := by
  cases ordered with
  | @object fields _ each =>
    obtain ⟨name, -, recognized⟩ := Option.bind_eq_some_iff.mp recognized
    obtain ⟨columns, read, recognized⟩ := Option.bind_eq_some_iff.mp recognized
    cases recognized
    obtain ⟨value, held, read⟩ := Option.bind_eq_some_iff.mp read
    cases each _ (mem_of_get? held) with
    | array _ =>
      obtain ⟨columns, -, rfl⟩ := Option.map_eq_some_iff.mp read
      exact trivial
    | object sorted _ =>
      obtain ⟨keyed, each, rfl⟩ := Option.map_eq_some_iff.mp read
      rw [sorted_iff, ← names_of_read each] at sorted
      exact List.pairwise_map.mp sorted
    | _ => cases read
  | _ => cases recognized

/-- What is known of a schema to which definitions were added, each under its name. -/
structure Added (define : String → TableDefinition) (names : List String)
    (definition : SchemaDefinition) : Prop where
  sorted : Sorted definition.entries
  named : ∀ name, name ∈ definition.entries.map (·.1) ↔ name ∈ names
  written : ∀ entry ∈ definition.entries, entry.2 = (define entry.1).toJson

private theorem mem_keys_insert (fields : Fields) (key other : String) (value : Json) :
    other ∈ (fields.insert key value).map (·.1) ↔ other = key ∨ other ∈ fields.map (·.1) := by
  rw [← isSome_get?_iff, ← isSome_get?_iff, Fields.get?_insert]
  by_cases same : key = other
  · simp [same]
  · simp [same, Ne.symm same]

theorem Added.insert {define : String → TableDefinition} {names : List String}
    {definition : SchemaDefinition} (added : Added define names definition) (name : String) :
    Added define (names ++ [name]) (definition.insert name (define name)) where
  sorted := added.sorted.insert _ _
  named other := by
    rw [SchemaDefinition.insert, mem_keys_insert, added.named, List.mem_append, List.mem_singleton,
      or_comm]
  written := by
    intro entry member
    rcases mem_of_mem_insert member with rfl | member
    · rfl
    · exact added.written entry member

private theorem added_all (define : String → TableDefinition) (names : List String) :
    Added define names
      (names.foldl (fun definition name => definition.insert name (define name)) .empty) := by
  induction names using List.reverseRecOn with
  | nil => exact ⟨.nil, fun _ => Iff.rfl, fun _ member => (by cases member)⟩
  | append_singleton names name ih =>
    rw [List.foldl_append]
    exact ih.insert name

/-- What was added is read back in the order of the names. -/
theorem Added.tables {define : String → TableDefinition} {names : List String}
    {definition : SchemaDefinition} (added : Added define names definition) :
    definition.tables = (definition.entries.map (·.1)).map fun name => (name, define name) := by
  apply tables_of_written
  rw [List.map_map, List.map_map]
  conv_lhs => rw [← List.map_id definition.entries]
  apply List.map_congr_left
  intro entry member
  exact Prod.ext rfl (added.written entry member)

def cellsOf (column : ListedColumn) : List Json :=
  [.string column.table, .string column.definition.name, .string column.definition.declaredType,
    .bool column.definition.nullable, .bool column.definition.primaryKey]

/-- The columns of a reply that lists columns: three of texts and two of truth values. -/
inductive Listing : List ReplyColumn → Prop where
  | intro {table name type nullable key : ReplyColumn}
    (texts : ∀ column ∈ [table, name, type], Wanted.text.accepts column.typeName = true)
    (truths : ∀ column ∈ [nullable, key], Wanted.boolean.accepts column.typeName = true) :
    Listing [table, name, type, nullable, key]

private theorem ofCells_cellsOf {columns : List ReplyColumn} (listing : Listing columns)
    (column : ListedColumn) : ListedColumn.ofCells columns (cellsOf column) = .ok column := by
  cases listing with
  | intro texts truths =>
    simp only [List.forall_mem_cons] at texts truths
    obtain ⟨table, name, type, -⟩ := texts
    obtain ⟨nullable, key, -⟩ := truths
    simp only [ListedColumn.ofCells, cellsOf, Wanted.read, List.getElem?_cons_zero,
      List.getElem?_cons_succ, table, name, type, nullable, key]
    rfl

private theorem decodeDefinition_listed {columns : List ReplyColumn} (listing : Listing columns)
    (listed : List ListedColumn) :
    Reply.decodeDefinition ⟨columns, listed.map cellsOf⟩ = .ok (ListedColumn.schemaDefinition listed) := by
  rw [Reply.decodeDefinition, mapM_map (ofCells_cellsOf listing)]
  rfl

/-- Tables made of listed columns: one for each name, in the order of the names, each with the columns
listed for it as they came. -/
structure Groups (listed : List ListedColumn) (tables : List (String × TableDefinition)) : Prop where
  ordered : tables.Pairwise fun left right => Text.order left.1 right.1 = .lt
  named : ∀ name, name ∈ tables.map (·.1) ↔ ∃ column ∈ listed, column.table = name
  grouped : ∀ table ∈ tables, table.2 =
    ⟨table.1, .list ((listed.filter (·.table = table.1)).map (·.definition))⟩

private theorem groups_schemaDefinition (listed : List ListedColumn) :
    Groups listed (ListedColumn.schemaDefinition listed).tables := by
  have added := added_all (ListedColumn.tableDefinition listed) (listed.map (·.table)).eraseDups
  have tables : (ListedColumn.schemaDefinition listed).tables = _ := added.tables
  rw [tables]
  constructor
  · exact List.pairwise_map.mpr (sorted_iff.mp added.sorted)
  · intro name
    rw [List.map_map, Function.comp_def, List.map_id', added.named, List.mem_eraseDups, List.mem_map]
  · intro table member
    obtain ⟨name, -, rfl⟩ := List.mem_map.mp member
    rfl

/-- Definitions survive their JSON form. Each is recognized by what is written of it, which is a value as
it can be read from text if its keyed columns are in order; so whatever was recognized is recognized again,
and unchanged. And the columns that a server lists are read back as its tables. -/
theorem definitions_survive_their_json_form :
    (∀ table : TableDefinition, TableDefinition.recognize? table.toJson = some table ∧
      (InOrder table → Ordered table.toJson)) ∧
    (∀ entry, (TableDefinition.recognize? entry).bind
        (fun table => TableDefinition.recognize? table.toJson) = TableDefinition.recognize? entry ∧
      ∀ table, TableDefinition.recognize? entry = some table → Ordered entry → InOrder table) ∧
    ∀ (Outcome : Type → Type) [Monad Outcome] [LawfulMonad Outcome]
      (connection : Sql.Statement → Outcome (Except DatabaseFault Reply)) (schema : String)
      (columns : List ReplyColumn) (listed : List ListedColumn), Listing columns →
      connection (columnsStatement schema) = pure (.ok ⟨columns, listed.map cellsOf⟩) →
      ∃ definition, introspect connection schema = pure (.ok definition) ∧
        Groups listed definition.tables := by
  refine ⟨?_, ?_, ?_⟩
  · intro table
    exact ⟨recognize?_toJson table, ordered_toJson⟩
  · intro entry
    constructor
    · cases recognized : TableDefinition.recognize? entry with
      | none => rfl
      | some table => exact recognize?_toJson table
    · intro table recognized ordered
      exact inOrder_of_recognize? ordered recognized
  · intro Outcome _ _ connection schema columns listed listing answered
    refine ⟨_, ?_, groups_schemaDefinition listed⟩
    rw [introspect, answered, pure_bind]
    simp only [Except.bind, decodeDefinition_listed listing]
    rfl

/-- Notes whose columns are keyed by name, one of them an array of its properties. -/
def briefNotes : String :=
  "\x7b\"name\":\"notes\",\"columns\":\x7b\"said\":\x7b\"type\":\"text\",\"primaryKey\":false\x7d,
    \"id\":[\"integer\",false,true]\x7d\x7d"

def notes : TableDefinition :=
  ⟨"notes", .keyed [("id", ⟨"integer", false, true⟩), ("said", ⟨"text", true, false⟩)]⟩

def catalogColumns : List ReplyColumn :=
  [⟨"table_name", "name"⟩, ⟨"column_name", "name"⟩, ⟨"data_type", "varchar"⟩, ⟨"nullable", "bool"⟩,
    ⟨"is_pk", "bool"⟩]

def mixed : List ListedColumn :=
  [⟨"users", ⟨⟨"bigint", false, true⟩, "id"⟩⟩, ⟨"notes", ⟨⟨"bigint", false, true⟩, "id"⟩⟩,
    ⟨"users", ⟨⟨"text", true, false⟩, "name"⟩⟩]

theorem notes_and_mixed_users_are_read_back :
    (∃ entry, Json.parse? briefNotes = some entry ∧ Ordered entry ∧
      TableDefinition.recognize? entry = some notes) ∧
    InOrder notes ∧ TableDefinition.recognize? notes.toJson = some notes ∧ Ordered notes.toJson ∧
    Listing catalogColumns ∧
    ∃ definition, (introspect (fun _ => .ok ⟨catalogColumns, mixed.map cellsOf⟩) "public" : Id _) =
        .ok definition ∧
      Groups mixed definition.tables ∧
      ("users", ⟨"users", .list [⟨⟨"bigint", false, true⟩, "id"⟩, ⟨⟨"text", true, false⟩, "name"⟩]⟩) ∈
        definition.tables := by
  obtain ⟨written, recognized, introspected⟩ := definitions_survive_their_json_form
  have brief : ∃ entry ∈ Json.parse? briefNotes, TableDefinition.recognize? entry = some notes := by
    decide +kernel
  obtain ⟨entry, parsed, read⟩ := brief
  have inOrder := (recognized entry).2 notes read (ordered_of_parse? parsed)
  have listing : Listing catalogColumns := .intro (by decide) (by decide)
  obtain ⟨definition, introspection, groups⟩ := introspected Id
    (fun _ => .ok ⟨catalogColumns, mixed.map cellsOf⟩) "public" catalogColumns mixed listing rfl
  have named : "users" ∈ definition.tables.map (·.1) := (groups.named "users").mpr (by decide)
  obtain ⟨⟨name, table⟩, member, rfl⟩ := List.mem_map.mp named
  have grouped := groups.grouped _ member
  simp only at grouped
  rw [grouped] at member
  exact ⟨⟨entry, parsed, ordered_of_parse? parsed, read⟩, inOrder, (written notes).1,
    (written notes).2 inOrder, listing, definition, introspection, groups, member⟩

end ResourceQuery.Proofs.WrittenDefinitions
