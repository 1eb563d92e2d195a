/-!
Numerals: how numbers are spelled in decimal digits. Reading gives the exact number, however long
the numeral is; rounding to a machine format is a later step.
-/

namespace ResourceQuery.Number

/-- The number a digit sequence adds to the digits before it. -/
def digitsValue (digits : List Char) (before : Nat) : Nat :=
  digits.foldl (fun value digit => 10 * value + (digit.toNat - '0'.toNat)) before

def natural? (characters : List Char) : Option Nat :=
  if characters.isEmpty then none
  else if characters.all Char.isDigit then some (digitsValue characters 0)
  else none

def splitSign : List Char → Bool × List Char
  | '+' :: rest => (false, rest)
  | '-' :: rest => (true, rest)
  | characters => (false, characters)

def integer? (characters : List Char) : Option Int :=
  let (negative, digits) := splitSign characters
  (natural? digits).map fun value => if negative then -(value : Int) else value

/-- The exact number `± coefficient · 10 ^ exponent`. -/
structure Scaled where
  negative : Bool
  coefficient : Nat
  exponent : Int
  deriving Repr, DecidableEq

/-- The power of ten at the end of a numeral: nothing, or a letter `e` and an integer. -/
def exponent? : List Char → Option Int
  | [] => some 0
  | mark :: rest => if mark = 'e' ∨ mark = 'E' then integer? rest else none

def splitFraction : List Char → List Char × List Char
  | '.' :: rest => (rest.takeWhile Char.isDigit, rest.dropWhile Char.isDigit)
  | characters => ([], characters)

/-- An optional sign, digits that may have a point among or around them, and an optional power of
ten. At least one digit stands before or after the point. -/
def scaled? (characters : List Char) : Option Scaled :=
  let (negative, unsigned) := splitSign characters
  let whole := unsigned.takeWhile Char.isDigit
  let (fraction, tail) := splitFraction (unsigned.dropWhile Char.isDigit)
  if whole.isEmpty && fraction.isEmpty then none
  else (exponent? tail).map fun exponent =>
    ⟨negative, digitsValue (whole ++ fraction) 0, exponent - fraction.length⟩

/-- The digits of a number, the first of them not zero unless it is the only one. -/
def digits (value : Nat) : List Char :=
  Nat.toDigits 10 value

/-- A numeral of at least the given width, filled with zeros in front. -/
def padded (width value : Nat) : List Char :=
  let shown := digits value
  List.replicate (width - shown.length) '0' ++ shown

def integerText (value : Int) : String :=
  String.ofList (if value < 0 then '-' :: digits value.natAbs else digits value.natAbs)

end ResourceQuery.Number
