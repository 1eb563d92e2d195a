import ResourceQuery.Text.Basic
import ResourceQuery.Text.Hex
import ResourceQuery.Text.Utf8

/-!
Percent escapes and form-encoded queries. An escape that is not complete stands for itself. In a query
a plus sign is a space, and it is one before escapes are read.
-/

namespace ResourceQuery.Http

def escapedByte? (high low : UInt8) : Option UInt8 := do
  let high ← Text.hexValue? (Char.ofNat high.toNat)
  let low ← Text.hexValue? (Char.ofNat low.toNat)
  return UInt8.ofNat (high * 16 + low)

def percentDecode : List UInt8 → List UInt8
  | percent :: high :: low :: rest =>
    if percent = 0x25 then
      match escapedByte? high low with
      | some byte => byte :: percentDecode rest
      | none => percent :: percentDecode (high :: low :: rest)
    else percent :: percentDecode (high :: low :: rest)
  | bytes => bytes

def decodeSegment? (segment : String) : Option String :=
  Text.decode? (percentDecode (Text.utf8 segment))

def decodeComponent (component : String) : String :=
  let spaced := Text.spell (fun letter => if letter = '+' then [' '] else [letter]) component
  Text.decodeLossy (percentDecode (Text.utf8 spaced))

/-- A pair, split at its first equals sign; without one the value is empty. -/
def decodePair (piece : String) : String × String :=
  match Text.splitFirst? '=' piece with
  | some (key, value) => (decodeComponent key, decodeComponent value)
  | none => (decodeComponent piece, "")

def decodeQuery (query : String) : List (String × String) :=
  ((Text.split '&' query).filter (· != "")).map decodePair

end ResourceQuery.Http
