import ResourceQuery.Filter.Predicate
import ResourceQuery.Sql.Statement

/-!
Predicates as SQL conditions. A column is compared by its own type when every operand is a value of
that type; otherwise column and operands are compared as text.
-/

namespace ResourceQuery.Sql

/-- Whether values of the type have an order of their own in the database. -/
def isOrdered : ColumnType → Bool
  | .integer | .number | .boolean | .timestamp => true
  | .text | .json => false

/-- A pattern for the texts that contain the given one. Characters with a meaning in patterns lose
it. -/
def likePattern (text : String) : String :=
  String.ofList ('%' :: text.toList.flatMap (fun letter =>
    if letter = '\\' ∨ letter = '%' ∨ letter = '_' then ['\\', letter] else [letter]) ++ ['%'])

/-- Whether a column and operands are compared by the column's own type. -/
def isNative (type : ColumnType) (operands : List Operand) : Bool :=
  isOrdered type && operands.all (·.matchesType type)

def leftSide (native : Bool) (column : String) : Statement :=
  if native then [.name column] else [.name column, .words "::text"]

def rightSide (native : Bool) (operand : Operand) : Piece :=
  .bound (if native then operand else .text operand.asText)

def sign : Operator → String
  | .eq | .isIn => " = "
  | .ne => " <> "
  | .gte => " >= "
  | .lte => " <= "
  | .like => " LIKE "

/-- The condition of a predicate. There is none for a column that the table does not have, nor where
an operand is needed and missing. -/
def condition? (table : Table) (predicate : Predicate) : Option Statement :=
  (table.column? predicate.column).bind fun column =>
    let native := isNative column.type predicate.operands
    match predicate.operator with
    | .like => predicate.operands.head?.map fun operand =>
      leftSide false predicate.column ++
        [.words (sign .like), .bound (.text (likePattern operand.asText))]
    | .isIn => some (leftSide native predicate.column ++ .words " IN (" ::
        (predicate.operands.map (rightSide native)).intersperse (.words ", ") ++ [.words ")"])
    | operator => predicate.operands.head?.map fun operand =>
      leftSide native predicate.column ++ [.words (sign operator), rightSide native operand]

def conditions (table : Table) (predicates : List Predicate) : List Statement :=
  predicates.filterMap (condition? table)

/-- The conditions that all rows have to meet; without any there is no clause. -/
def whereClause (table : Table) (predicates : List Predicate) : Statement :=
  match conditions table predicates with
  | [] => []
  | conditions => .words " WHERE " :: [Piece.words " AND "].intercalate conditions

end ResourceQuery.Sql
