import ResourceQuery.Json.Value

/-!
Table definitions and their JSON form. A definition's columns are a list or are keyed by name, and a
column may be written as an object or as an array of its properties. Whatever is no table definition
is recognized as none. Writing uses one spelling, which is read back.
-/

namespace ResourceQuery

structure ColumnSpec where
  declaredType : String
  nullable : Bool
  primaryKey : Bool
  deriving DecidableEq, Repr

structure ColumnDefinition extends ColumnSpec where
  name : String
  deriving DecidableEq, Repr

inductive Columns where
  | list (columns : List ColumnDefinition)
  | keyed (columns : List (String × ColumnSpec))
  deriving DecidableEq, Repr

structure TableDefinition where
  /-- The name of the table in the store. -/
  name : String
  columns : Columns
  deriving DecidableEq, Repr

namespace ColumnSpec

/-- A flag that may be left out, but not given as anything else than a truth value. -/
def flag? (value : Option Json) (absent : Bool) : Option Bool :=
  match value with
  | none => some absent
  | some value => value.bool?

/-- The primary-key flag has two names, of which at most one may be used. -/
def primaryKey? (fields : Fields) : Option Bool :=
  match fields.get? "primary_key", fields.get? "primaryKey" with
  | some _, some _ => none
  | some value, none | none, some value => value.bool?
  | none, none => some false

def ofFields? (fields : Fields) : Option ColumnSpec := do
  let declaredType ← (fields.get? "type").bind Json.string?
  let nullable ← flag? (fields.get? "nullable") true
  let primaryKey ← primaryKey? fields
  return { declaredType, nullable, primaryKey }

/-- The properties in order; those at the end may be left out. -/
def ofItems? : List Json → Option ColumnSpec
  | [] | _ :: _ :: _ :: _ :: _ => none
  | type :: flags => do
    let declaredType ← type.string?
    let nullable ← flag? flags[0]? true
    let primaryKey ← flag? flags[1]? false
    return { declaredType, nullable, primaryKey }

def ofJson? : Json → Option ColumnSpec
  | .object fields => ofFields? fields
  | .array items => ofItems? items
  | _ => none

def toFields (spec : ColumnSpec) : Fields :=
  [("nullable", .bool spec.nullable), ("primary_key", .bool spec.primaryKey),
    ("type", .string spec.declaredType)]

end ColumnSpec

namespace ColumnDefinition

def ofJson? : Json → Option ColumnDefinition
  | .object fields => do
    let name ← (Fields.get? fields "name").bind Json.string?
    let spec ← ColumnSpec.ofFields? fields
    return { spec with name }
  | .array (name :: items) => do
    let name ← name.string?
    let spec ← ColumnSpec.ofItems? items
    return { spec with name }
  | _ => none

def toJson (column : ColumnDefinition) : Json :=
  .object (("name", .string column.name) :: column.toColumnSpec.toFields)

end ColumnDefinition

namespace Columns

def ofField? (field : String × Json) : Option (String × ColumnSpec) :=
  (ColumnSpec.ofJson? field.2).map (field.1, ·)

def ofJson? : Json → Option Columns
  | .array items => (items.mapM ColumnDefinition.ofJson?).map list
  | .object fields => (fields.mapM ofField?).map keyed
  | _ => none

def toJson : Columns → Json
  | list columns => .array (columns.map ColumnDefinition.toJson)
  | keyed columns => .object (columns.map fun (name, spec) => (name, .object spec.toFields))

def toList : Columns → List ColumnDefinition
  | list columns => columns
  | keyed columns => columns.map fun (name, spec) => { spec with name }

end Columns

namespace TableDefinition

/-- The table that an entry defines, if it is a table: it has a name and describes its columns. -/
def recognize? : Json → Option TableDefinition
  | .object fields => do
    let name ← (Fields.get? fields "name").bind Json.string?
    let columns ← (Fields.get? fields "columns").bind Columns.ofJson?
    return { name, columns }
  | _ => none

def toJson (table : TableDefinition) : Json :=
  .object [("columns", table.columns.toJson), ("name", .string table.name)]

end TableDefinition

/-- Resource names with their raw entries. -/
structure SchemaDefinition where
  entries : Fields

namespace SchemaDefinition

def empty : SchemaDefinition := ⟨[]⟩

def ofJson? : Json → Option SchemaDefinition
  | .object entries => some ⟨entries⟩
  | _ => none

def toJson (definition : SchemaDefinition) : Json :=
  .object definition.entries

def insert (definition : SchemaDefinition) (resource : String) (table : TableDefinition) :
    SchemaDefinition :=
  ⟨definition.entries.insert resource table.toJson⟩

def tables (definition : SchemaDefinition) : List (String × TableDefinition) :=
  definition.entries.filterMap fun (resource, entry) =>
    (TableDefinition.recognize? entry).map (resource, ·)

end SchemaDefinition

end ResourceQuery
