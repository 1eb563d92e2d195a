import ResourceQuery.Schema.ColumnType

/-!
Tables as requests see them: typed columns, one primary key, and the relations to other tables.
-/

namespace ResourceQuery

structure Reference where
  table : String
  column : String
  deriving DecidableEq, Repr

structure Column where
  name : String
  type : ColumnType
  nullable : Bool
  isPrimaryKey : Bool
  reference : Option Reference
  deriving DecidableEq, Repr

inductive RelationKind where
  /-- The foreign key is ours. -/
  | belongsTo
  /-- The foreign key is theirs. -/
  | hasMany
  deriving DecidableEq, Repr

structure Relation where
  kind : RelationKind
  /-- The name under which related rows are asked for. -/
  name : String
  relatedTable : String
  ourKey : String
  theirKey : String
  deriving DecidableEq, Repr

/-- The foreign-key column, on whichever side it is. -/
def Relation.foreignKey (relation : Relation) : String :=
  match relation.kind with
  | .belongsTo => relation.ourKey
  | .hasMany => relation.theirKey

structure Table where
  /-- The name in the store. -/
  name : String
  /-- The name that requests use. -/
  resource : String
  columns : List Column
  primaryKey : String
  relations : List Relation
  deriving DecidableEq, Repr

namespace Table

def column? (table : Table) (name : String) : Option Column :=
  table.columns.find? (·.name = name)

def hasColumn (table : Table) (name : String) : Bool :=
  (table.column? name).isSome

/-- The type of a column; a column that is not there counts as text. -/
def typeOf (table : Table) (name : String) : ColumnType :=
  ((table.column? name).map (·.type)).getD .text

section

variable {table : Table} {name : String} {column : Column}

theorem name_of_column? (found : table.column? name = some column) : column.name = name := by
  simpa using List.find?_some found

theorem hasColumn_of_column? (found : table.column? name = some column) : table.hasColumn name = true := by
  rw [hasColumn, found, Option.isSome_some]

theorem typeOf_of_column? (found : table.column? name = some column) : table.typeOf name = column.type := by
  rw [typeOf, found, Option.map_some, Option.getD_some]

theorem hasColumn_eq_false_iff : table.hasColumn name = false ↔ table.column? name = none := by
  rw [hasColumn, Option.isSome_eq_false_iff, Option.isNone_iff_eq_none]

end

end Table

structure Catalog where
  tables : List Table
  deriving DecidableEq, Repr

namespace Catalog

def table? (catalog : Catalog) (resource : String) : Option Table :=
  catalog.tables.find? (·.resource = resource)

def resources (catalog : Catalog) : List String :=
  catalog.tables.map (·.resource)

/-- The catalog without some resources; relations to them stay behind. -/
def without (catalog : Catalog) (resources : List String) : Catalog :=
  ⟨catalog.tables.filter (·.resource ∉ resources)⟩

end Catalog

end ResourceQuery
