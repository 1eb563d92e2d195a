import ResourceQuery.Filter.Predicate
import ResourceQuery.Json.Writer

/-!
How the cells of rows in memory compare, with each other and with operands. Values of one kind
compare by that kind, and values of different kinds by their texts. Null comes after everything else,
and equals no operand.
-/

namespace ResourceQuery

open ResourceQuery.Number

namespace Json

/-- A text as it stands, anything else in JSON form. -/
def plainText : Json → String
  | string value => value
  | other => other.text

/-- The text by which cells are joined and searched. Null has none. -/
def cellText? (cell : Json) : Option String :=
  if cell.isNull then none else some cell.plainText

/-- Integers of 63 bits and a sign compare exactly, other numbers as binary64. -/
def Number.order (left right : Json.Number) : Ordering :=
  match left.signed?, right.signed? with
  | some left, some right => compare left right
  | _, _ => left.toBinary64.order right.toBinary64

def order (left right : Json) : Ordering :=
  match left, right with
  | null, null => .eq
  | null, _ => .gt
  | _, null => .lt
  | number left, number right => Number.order left right
  | string left, string right => Text.order left right
  | bool left, bool right => compare left right
  | left, right => Text.order left.plainText right.plainText

/-- A number against an integer operand, exactly where that is possible. -/
def Number.orderInt (number : Json.Number) (operand : Int) : Ordering :=
  match number.signed? with
  | some value => compare value operand
  | none => number.toBinary64.order (.ofInt operand)

/-- A cell against an operand; null compares with nothing, nor does a text that is no instant with an
instant. -/
def orderOperand? (cell : Json) (operand : Operand) : Option Ordering :=
  match cell, operand with
  | null, _ => none
  | number value, .integer operand => some (value.orderInt operand)
  | number value, .float operand => some (value.toBinary64.order operand)
  | bool value, .bool operand => some (compare value operand)
  | string value, .timestamp operand => (Calendar.Instant.parse? value).map (·.order operand)
  | cell, operand => some (Text.order cell.plainText operand.asText)

end Json

namespace Predicate

def compares (accepted : Ordering → Bool) (cell : Json) (operands : List Operand) : Bool :=
  match operands.head? with
  | some operand => ((cell.orderOperand? operand).map accepted).getD false
  | none => false

def searches (cell : Json) (operands : List Operand) : Bool :=
  match cell.cellText?, operands.head? with
  | some text, some operand => Text.contains text operand.asText
  | _, _ => false

def holds (row : Fields) (predicate : Predicate) : Bool :=
  let cell := row.get predicate.column
  match predicate.operator with
  | .eq => compares (·.isEq) cell predicate.operands
  | .ne => compares (·.isNe) cell predicate.operands
  | .gte => compares (·.isGE) cell predicate.operands
  | .lte => compares (·.isLE) cell predicate.operands
  | .isIn => predicate.operands.any fun operand => cell.orderOperand? operand == some .eq
  | .like => searches cell predicate.operands

end Predicate

end ResourceQuery
