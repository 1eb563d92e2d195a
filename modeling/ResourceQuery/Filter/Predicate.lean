import ResourceQuery.Filter.Operand
import ResourceQuery.Schema.Table

/-!
Predicates: what a row has to satisfy. A filter key is a column, or a column with an operator after
it; whatever is neither is no filter. All predicates of a request hold together.
-/

namespace ResourceQuery

inductive Operator where
  | eq
  | ne
  /-- The text of the cell contains the operand. -/
  | like
  | gte
  | lte
  /-- The cell equals one of several operands. -/
  | isIn
  deriving DecidableEq, Repr

structure Predicate where
  column : String
  operator : Operator
  /-- One operand, but for `isIn`. -/
  operands : List Operand
  deriving DecidableEq

namespace Operator

def endings : List (String × Operator) :=
  [("_like", like), ("_ne", ne), ("_gte", gte), ("_lte", lte)]

/-- The column and the operator of a key that ends in one. A column has at least one character and
stands on one line. -/
def split? (key : String) : Option (String × Operator) :=
  endings.findSome? fun (ending, operator) =>
    ((Text.dropEnding? ending key).filter fun column =>
      column != "" && '\n' ∉ column.toList).map (·, operator)

end Operator

namespace Predicate

/-- The alternatives of an equality: a value with commas counts as its trimmed parts, blank ones left
out, and any other value as it stands. -/
def alternatives (values : List String) : List String :=
  values.flatMap fun value =>
    if ',' ∈ value.toList then ((Text.split ',' value).map Text.trim).filter (· != "") else [value]

def ofAlternatives (column : String) (operands : List Operand) : List Predicate :=
  match operands with
  | [] => []
  | [operand] => [⟨column, .eq, [operand]⟩]
  | several => [⟨column, .isIn, several⟩]

/-- Substrings are searched for as they were written; anything else is read by the column's type. -/
def operandOf (operator : Operator) (type : ColumnType) (raw : String) : Operand :=
  if operator = .like then .text raw else .coerce type raw

/-- The predicates of one filter. A key that is a column means equality, even if it ends in an
operator. -/
def ofFilter (table : Table) (filter : Filter) : List Predicate :=
  match table.column? filter.key with
  | some column =>
    ofAlternatives column.name ((alternatives filter.value.values).map (.coerce column.type))
  | none =>
    match Operator.split? filter.key with
    | none => []
    | some (name, operator) =>
      match table.column? name with
      | none => []
      | some column =>
        filter.value.values.map fun raw => ⟨column.name, operator, [operandOf operator column.type raw]⟩

def ofFilters (table : Table) (filters : List Filter) : List Predicate :=
  filters.flatMap (ofFilter table)

end Predicate

end ResourceQuery
