import ResourceQuery.Filter.Operand
import ResourceQuery.Postgres.Epoch
import ResourceQuery.Text.Utf8

/-!
Parameters of statements in the form that the server takes them: the name of a type, and the bytes of
a value of it. Numbers have their most significant byte first.
-/

namespace ResourceQuery.Postgres

structure Parameter where
  type : String
  bytes : List UInt8
  deriving DecidableEq, Repr

/-- A number in a fixed count of bytes; what does not fit is cut off in front. -/
def bigEndian : Nat → Nat → List UInt8
  | 0, _ => []
  | length + 1, value => UInt8.ofNat (value / 256 ^ length) :: bigEndian length value

/-- A signed number in eight bytes, negative ones as two's complements. -/
def word (value : Int) : List UInt8 :=
  bigEndian 8 (value % 0x10000000000000000).toNat

def Parameter.ofOperand : Operand → Parameter
  | .bool value => ⟨"bool", [if value then 1 else 0]⟩
  | .integer value => ⟨"int8", word value⟩
  | .float value => ⟨"float8", bigEndian 8 value.bits⟩
  | .text value => ⟨"text", Text.utf8 value⟩
  | .timestamp value => ⟨"timestamptz", word (microseconds value)⟩

end ResourceQuery.Postgres
