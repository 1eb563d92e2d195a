import ResourceQuery.Calendar.Reader
import ResourceQuery.Number.Shortest
import ResourceQuery.Request.Intent
import ResourceQuery.Schema.ColumnType
import ResourceQuery.Text.Lower

/-!
Operands of filters. A text from a request becomes a value of its column's type when it reads as one,
and otherwise stays the text it is. Each operand has one text, which does not depend on how it was
spelled.
-/

namespace ResourceQuery

open ResourceQuery.Number

inductive Operand where
  | bool (value : Bool)
  | integer (value : Int)
  | float (value : Binary64)
  | text (value : String)
  | timestamp (value : Calendar.Instant)
  deriving DecidableEq

namespace Operand

def readBool? (text : String) : Option Bool :=
  match Text.lower text with
  | "true" => some true
  | "false" => some false
  | _ => none

/-- Reads a trimmed text as a value of a column type; text and JSON columns have no values but
text. -/
def read? (type : ColumnType) (trimmed : String) : Option Operand :=
  match type with
  | .integer => (Intent.word? trimmed).map integer
  | .number => (Binary64.ofNumeral? trimmed.toList).map float
  | .boolean => (readBool? trimmed).map bool
  | .timestamp => (Calendar.Instant.parse? trimmed).map timestamp
  | .text | .json => none

def coerce (type : ColumnType) (raw : String) : Operand :=
  (read? type (Text.trim raw)).getD (text raw)

def matchesType : Operand → ColumnType → Bool
  | integer _, .integer | float _, .number | bool _, .boolean | timestamp _, .timestamp
  | text _, .text => true
  | _, _ => false

def asText : Operand → String
  | bool value => if value then "true" else "false"
  | integer value => integerText value
  | float value => plainText value
  | text value => value
  | timestamp value => value.text

end Operand

end ResourceQuery
