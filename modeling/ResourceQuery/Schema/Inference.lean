import ResourceQuery.Schema.Definition

/-!
A schema inferred from a document that maps resource names to lists of rows. A column's type is that
of its first value that is not null, and a column is nullable when some row lacks it or has null
there. No column is marked as the primary key.
-/

namespace ResourceQuery

/-- The type name that a value suggests; null suggests none. -/
def suggestedType? : Json → Option String
  | .null => none
  | .bool _ => some "boolean"
  | .number (.real _) => some "number"
  | .number (.integer _ _) => some "integer"
  | .string _ => some "text"
  | .array _ | .object _ => some "json"

structure ObservedColumn where
  name : String
  type : Option String
  sawNull : Bool
  deriving DecidableEq, Repr

namespace ObservedColumn

def ofCell (key : String) (value : Json) : ObservedColumn :=
  ⟨key, suggestedType? value, value.isNull⟩

/-- A later cell gives the type only while there is none. -/
def see (column : ObservedColumn) (value : Json) : ObservedColumn :=
  { column with
    type := column.type <|> suggestedType? value
    sawNull := column.sawNull || value.isNull }

/-- Takes a cell to its column, or to a new one at the end. -/
def observe (columns : List ObservedColumn) (cell : String × Json) : List ObservedColumn :=
  match columns with
  | [] => [ofCell cell.1 cell.2]
  | column :: rest =>
    if column.name = cell.1 then column.see cell.2 :: rest else column :: observe rest cell

def ofRows (rows : List Fields) : List ObservedColumn :=
  rows.foldl (fun columns row => row.foldl observe columns) []

/-- A column whose cells are all null holds text. -/
def define (column : ObservedColumn) (rows : List Fields) : ColumnDefinition where
  name := column.name
  declaredType := column.type.getD "text"
  nullable := column.sawNull || rows.any fun row => (row.get? column.name).isNone
  primaryKey := false

end ObservedColumn

def rowsOf (items : List Json) : List Fields :=
  items.filterMap Json.fields?

def TableDefinition.infer (name : String) (rows : List Fields) : TableDefinition :=
  ⟨name, .list ((ObservedColumn.ofRows rows).map (·.define rows))⟩

/-- One table for each list of the document, under the same name. -/
def SchemaDefinition.infer (document : Json) : SchemaDefinition :=
  match document with
  | .object collections =>
    collections.foldl
      (fun definition (name, value) => match value with
        | .array items => definition.insert name (TableDefinition.infer name (rowsOf items))
        | _ => definition)
      empty
  | _ => empty

end ResourceQuery
