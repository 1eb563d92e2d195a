import ResourceQuery.Naming
import ResourceQuery.Schema.Definition
import ResourceQuery.Schema.Table

/-!
From definitions to tables. Each definition yields a table of its own or is rejected; then the
accepted tables are linked: a column shaped like a foreign key and named after a table gives its own
table a relation to that one, and that one the converse relation.
-/

namespace ResourceQuery

inductive SchemaError where
  | missingPrimaryKey (table : String)
  | compositePrimaryKey (table : String) (columns : List String)
  | load (reason : String)
  deriving DecidableEq, Repr

namespace SchemaError

def message : SchemaError → String
  | missingPrimaryKey table => s!"table '{table}' has no primary key and no 'id' column"
  | compositePrimaryKey table columns =>
    let names := Text.join ", " columns
    s!"table '{table}' has a composite primary key ({names}), which is not supported"
  | load reason => s!"schema load: {reason}"

def table? : SchemaError → Option String
  | missingPrimaryKey table | compositePrimaryKey table _ => some table
  | load _ => none

end SchemaError

namespace Column

def ofDefinition (column : ColumnDefinition) : Column where
  name := column.name
  type := .ofDeclared column.declaredType
  nullable := column.nullable
  isPrimaryKey := column.primaryKey
  reference := none

/-- Adds a column at the end; of two with one name the first stays. -/
def addNew (columns : List Column) (column : Column) : List Column :=
  if columns.any (·.name = column.name) then columns else columns ++ [column]

def ofDefinitions (definitions : List ColumnDefinition) : List Column :=
  (definitions.map ofDefinition).foldl addNew []

end Column

def adoptPrimaryKey (name : String) (columns : List Column) : List Column :=
  columns.map fun column => if column.name = name then { column with isPrimaryKey := true } else column

/-- A table of its own, without relations. The primary key is the one column marked as such, or else
the column `id`. -/
def extractTable (resource : String) (definition : TableDefinition) : Except SchemaError Table :=
  let columns := Column.ofDefinitions definition.columns.toList
  let table (primaryKey : String) (columns : List Column) : Table :=
    { name := definition.name, resource, columns, primaryKey, relations := [] }
  match (columns.filter (·.isPrimaryKey)).map (·.name) with
  | [single] => .ok (table single columns)
  | [] =>
    if columns.any (·.name = "id") then .ok (table "id" (adoptPrimaryKey "id" columns))
    else .error (.missingPrimaryKey definition.name)
  | several => .error (.compositePrimaryKey definition.name several)

/-- The table that a foreign-key column is named after: its base name as it stands, in the singular
or in the plural is the name of the table or of its resource, in whatever case. -/
def inferReference? (naming : Naming) (tables : List Table) (column : String) : Option Reference :=
  (foreignKeyBase? column).bind fun base =>
    [base, naming.singularize base, naming.pluralize base].findSome? fun candidate =>
      (tables.find? fun table =>
        Text.lower table.name = candidate ∨ Text.lower table.resource = candidate).map fun table =>
          ⟨table.resource, table.primaryKey⟩

structure Link where
  source : String
  column : String
  target : Reference
  deriving DecidableEq, Repr

namespace Link

/-- The links of one table, in the order of its columns. A primary key links to nothing. -/
def ofTable (naming : Naming) (tables : List Table) (table : Table) : List Link :=
  table.columns.filterMap fun column =>
    if column.isPrimaryKey then none
    else (inferReference? naming tables column.name).map fun target =>
      ⟨table.resource, column.name, target⟩

def all (naming : Naming) (tables : List Table) : List Link :=
  tables.flatMap (ofTable naming tables)

def belongsTo (link : Link) : Relation where
  kind := .belongsTo
  name := (foreignKeyBase? link.column).getD link.column
  relatedTable := link.target.table
  ourKey := link.column
  theirKey := link.target.column

def hasMany (link : Link) : Relation where
  kind := .hasMany
  name := link.source
  relatedTable := link.source
  ourKey := link.target.column
  theirKey := link.column

/-- The relations that a link gives a table: none, one, or both when it refers to itself. -/
def relationsOf (link : Link) (resource : String) : List Relation :=
  (if link.source = resource then [link.belongsTo] else []) ++
    (if link.target.table = resource then [link.hasMany] else [])

def refer (links : List Link) (resource : String) (column : Column) : Column :=
  match links.find? fun link => link.source = resource ∧ link.column = column.name with
  | some link => { column with reference := some link.target }
  | none => column

/-- A table with the references of its columns and the relations of both directions. -/
def apply (links : List Link) (table : Table) : Table :=
  { table with
    columns := table.columns.map (refer links table.resource)
    relations := table.relations ++ links.flatMap (·.relationsOf table.resource) }

end Link

def linkTables (naming : Naming) (tables : List Table) : List Table :=
  tables.map (Link.apply (Link.all naming tables))

structure Extraction where
  tables : List Table
  rejected : List SchemaError
  deriving DecidableEq, Repr

def acceptedTables (results : List (Except SchemaError Table)) : List Table :=
  results.filterMap fun
    | .ok table => some table
    | .error _ => none

def rejections (results : List (Except SchemaError Table)) : List SchemaError :=
  results.filterMap fun
    | .ok _ => none
    | .error reason => some reason

def extractTables (naming : Naming) (definition : SchemaDefinition) : Extraction :=
  let results := definition.tables.map fun (resource, table) => extractTable resource table
  { tables := linkTables naming (acceptedTables results), rejected := rejections results }

def Extraction.catalog (extraction : Extraction) : Catalog :=
  ⟨extraction.tables⟩

end ResourceQuery
