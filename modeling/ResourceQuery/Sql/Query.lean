import ResourceQuery.Plan
import ResourceQuery.Sql.Comparison

/-!
The three statements of a table: the rows of a plan, their count, and the rows to attach. Names come
from the table; whatever a request brings is bound.
-/

namespace ResourceQuery.Sql

/-- A column in the select list. Numbers are asked for as double precision under their own name. -/
def selected (column : Column) : Statement :=
  if column.type = .number then
    [.name column.name, .words "::float8 AS ", .name column.name]
  else [.name column.name]

def selectList (table : Table) : Statement :=
  [Piece.words ", "].intercalate (table.columns.map selected)

def source (schema : String) (table : Table) : Statement :=
  [.name schema, .words ".", .name table.name]

def sortTerm (field : SortField) : Statement :=
  [.name field.column, .words (match field.direction with
    | .ascending => " ASC"
    | .descending => " DESC")]

def orderTerms (table : Table) (sort : List SortField) : Statement :=
  match sort with
  | [] => [.name table.primaryKey]
  | fields => [Piece.words ", "].intercalate (fields.map sortTerm)

def numbered (word : String) (value : Nat) : Statement :=
  [.words (word ++ Number.integerText value)]

def limitClause (window : Window) : Statement :=
  match window.limit with
  | some limit => numbered " LIMIT " limit
  | none => []

def offsetClause (window : Window) : Statement :=
  if 0 < window.start then numbered " OFFSET " window.start else []

def selectWhere (schema : String) (table : Table) (predicates : List Predicate) : Statement :=
  .words "SELECT " :: selectList table ++ .words " FROM " :: source schema table ++
    whereClause table predicates ++ [.words " ORDER BY "]

def select (schema : String) (table : Table) (retrieval : Retrieval) : Statement :=
  selectWhere schema table retrieval.predicates ++ orderTerms table retrieval.sort ++
    limitClause retrieval.window ++ offsetClause retrieval.window

def count (schema : String) (table : Table) (predicates : List Predicate) : Statement :=
  .words "SELECT COUNT(*) FROM " :: source schema table ++ whereClause table predicates

/-- All rows that satisfy the predicates, in the order of the primary key. -/
def selectFiltered (schema : String) (table : Table) (predicates : List Predicate) : Statement :=
  selectWhere schema table predicates ++ [.name table.primaryKey]

end ResourceQuery.Sql
