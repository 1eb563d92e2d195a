/-!
UTF-8. Bytes that are not well formed are either refused or replaced: each longest piece that could
have begun a character becomes one replacement character.
-/

namespace ResourceQuery.Text

def utf8 (text : String) : List UInt8 :=
  text.toList.flatMap String.utf8EncodeChar

/-- What the front of a byte sequence holds: a character, or a piece that is none. -/
inductive Front where
  | character (value : Char) (rest : List UInt8)
  | illFormed (rest : List UInt8)

def isTail (byte : UInt8) : Bool :=
  0x80 ≤ byte && byte ≤ 0xBF

/-- Completes a character whose bits so far are given, with as many tail bytes as it needs. -/
def completeCharacter (bits : Nat) : Nat → List UInt8 → Front
  | 0, bytes => .character (Char.ofNat bits) bytes
  | _ + 1, [] => .illFormed []
  | needed + 1, byte :: rest =>
    if isTail byte then completeCharacter (bits * 64 + (byte.toNat - 0x80)) needed rest
    else .illFormed (byte :: rest)

/-- As `completeCharacter`, but the first tail byte lies within the bounds given for it. -/
def completeWithin (least greatest : UInt8) (bits tails : Nat) : List UInt8 → Front
  | [] => .illFormed []
  | byte :: rest =>
    if least ≤ byte && byte ≤ greatest then
      completeCharacter (bits * 64 + (byte.toNat - 0x80)) tails rest
    else .illFormed (byte :: rest)

/-- Reads one character. The bounds on the second byte rule out long spellings, surrogates and
numbers beyond the last code point. -/
def front (byte : UInt8) (rest : List UInt8) : Front :=
  if byte < 0x80 then .character (Char.ofNat byte.toNat) rest
  else if byte < 0xC2 then .illFormed rest
  else if byte < 0xE0 then completeWithin 0x80 0xBF (byte.toNat - 0xC0) 0 rest
  else if byte < 0xF0 then
    completeWithin (if byte = 0xE0 then 0xA0 else 0x80) (if byte = 0xED then 0x9F else 0xBF)
      (byte.toNat - 0xE0) 1 rest
  else if byte < 0xF5 then
    completeWithin (if byte = 0xF0 then 0x90 else 0x80) (if byte = 0xF4 then 0x8F else 0xBF)
      (byte.toNat - 0xF0) 2 rest
  else .illFormed rest

def Front.rest : Front → List UInt8
  | .character _ rest | .illFormed rest => rest

private theorem length_rest_completeCharacter (bits needed : Nat) (bytes : List UInt8) :
    (completeCharacter bits needed bytes).rest.length ≤ bytes.length := by
  fun_induction completeCharacter bits needed bytes with
  | case1 => exact Nat.le_refl _
  | case2 => exact Nat.le_refl _
  | case3 bits needed byte rest tail ih => exact Nat.le_succ_of_le ih
  | case4 => exact Nat.le_refl _

private theorem length_rest_completeWithin (least greatest : UInt8) (bits tails : Nat)
    (bytes : List UInt8) :
    (completeWithin least greatest bits tails bytes).rest.length ≤ bytes.length := by
  cases bytes with
  | nil => simp [completeWithin, Front.rest]
  | cons byte rest =>
    simp only [completeWithin, List.length_cons]
    split
    · exact Nat.le_succ_of_le (length_rest_completeCharacter _ _ _)
    · simp [Front.rest]

private theorem length_rest_front (byte : UInt8) (rest : List UInt8) :
    (front byte rest).rest.length ≤ rest.length := by
  unfold front
  repeat' split
  all_goals first | exact Nat.le_refl _ | exact length_rest_completeWithin _ _ _ _ _

/-- Reads bytes, with `none` for each piece that is not well formed. -/
def decodePieces : List UInt8 → List (Option Char)
  | [] => []
  | byte :: rest =>
    match _found : front byte rest with
    | .character value after => some value :: decodePieces after
    | .illFormed after => none :: decodePieces after
termination_by bytes => bytes.length
decreasing_by
  all_goals
    have shorter := length_rest_front byte rest
    rw [_found] at shorter
    exact Nat.lt_succ_of_le shorter

def decode? (bytes : List UInt8) : Option String :=
  ((decodePieces bytes).mapM id).map String.ofList

def replacementCharacter : Char := Char.ofNat 0xFFFD

/-- The text of any bytes, with a replacement character for each ill-formed piece. -/
def decodeLossy (bytes : List UInt8) : String :=
  String.ofList ((decodePieces bytes).map (·.getD replacementCharacter))

end ResourceQuery.Text
