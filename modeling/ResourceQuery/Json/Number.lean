import ResourceQuery.Number.Shortest

/-!
JSON numbers. A numeral without fraction or exponent is an integer as long as 64 bits hold it; every
other number is a finite binary64 number. The two kinds stay apart: `1` and `1.0` are different
numbers with different texts.
-/

namespace ResourceQuery.Json

open ResourceQuery.Number

/-- The integers that keep their exact value: signed or unsigned, they have 64 bits. -/
def FitsInteger (value : Int) : Prop :=
  -0x8000000000000000 ≤ value ∧ value ≤ 0xFFFFFFFFFFFFFFFF

instance (value : Int) : Decidable (FitsInteger value) :=
  inferInstanceAs (Decidable (_ ∧ _))

inductive Number where
  | integer (value : Int) (fits : FitsInteger value)
  | real (value : Binary64)
  deriving DecidableEq

namespace Number

/-- An integer, or the binary64 number nearest to it when 64 bits do not hold it. -/
def ofInt (value : Int) : Number :=
  if fits : FitsInteger value then .integer value fits else .real (.ofInt value)

def toBinary64 : Number → Binary64
  | integer value _ => .ofInt value
  | real value => value

def signed? : Number → Option Int
  | integer value _ => if value ≤ 0x7FFFFFFFFFFFFFFF then some value else none
  | real _ => none

/-- Numbers whose leading digit stands for a power of ten in these bounds are written without an
exponent. -/
def isPlain (power : Int) : Bool :=
  -5 ≤ power && power ≤ 15

def exponentText (power : Int) : List Char :=
  'e' :: (if power < 0 then '-' else '+') :: digits power.natAbs

def scientific : List Char → Int → List Char
  | [], _ => []
  | [digit], power => digit :: exponentText power
  | digit :: rest, power => digit :: '.' :: rest ++ exponentText power

/-- The shortest text of a magnitude that reads back; a whole number shows a zero fraction. -/
def magnitudeText (rank : Nat) : List Char :=
  if rank = 0 then ['0', '.', '0']
  else
    let (coefficient, power) := shortest .even rank
    let shown := digits coefficient
    let leading := power + shown.length - 1
    if isPlain leading then positional shown power ++ (if 0 ≤ power then ['.', '0'] else [])
    else scientific shown leading

def text : Number → String
  | integer value _ => integerText value
  | real value =>
    String.ofList (if value.negative then '-' :: magnitudeText value.rank
      else magnitudeText value.rank)

/-- Appends digits to a number as long as the result fits 64 bits; also counts the digits used. -/
def appendDigits (value : Nat) : List Char → Nat × Nat
  | [] => (value, 0)
  | digit :: rest =>
    let longer := 10 * value + (digit.toNat - '0'.toNat)
    if longer ≤ 0xFFFFFFFFFFFFFFFF then
      let (kept, used) := appendDigits longer rest
      (kept, used + 1)
    else (value, 0)

def powerOfTen (power : Nat) : Binary64 :=
  .ofInt (Nat.pow 10 power)

/-- Multiplies by a power of ten, rounding at each step; no step uses more than `10 ^ 308`. Fails
when the result is out of range. -/
def scale? (value : Binary64) (power : Int) : Option Binary64 :=
  if power.natAbs ≤ 308 then
    if 0 ≤ power then value.times? (powerOfTen power.natAbs)
    else value.dividedBy? (powerOfTen power.natAbs)
  else if value.rank = 0 then some value
  else if 0 ≤ power then none
  else (value.dividedBy? (powerOfTen 308)).bind fun smaller => scale? smaller (power + 308)
termination_by power.natAbs
decreasing_by omega

/-- A number with a fraction or an exponent: as many leading digits as 64 bits hold, scaled. -/
def real? (negative : Bool) (whole fraction : List Char) (power : Int) : Option Number :=
  let (leading, usedWhole) := appendDigits 0 whole
  let (kept, usedFraction) := appendDigits leading fraction
  (scale? (.ofInt kept) (power + (whole.length - usedWhole : Nat) - usedFraction)).map fun value =>
    .real { value with negative }

/-- A numeral without fraction and exponent. Minus zero is not an integer. -/
def whole? (negative : Bool) (whole : List Char) : Option Number :=
  let value : Int := digitsValue whole 0
  if negative && value == 0 then some (.real { Binary64.zero with negative := true })
  else
    let signed := if negative then -value else value
    if fits : FitsInteger signed then some (.integer signed fits)
    else real? negative whole [] 0

/-- Whether these digits may stand before the point: some, and no zero in front of another digit. -/
def isWhole (digits : List Char) : Bool :=
  match digits with
  | [] => false
  | '0' :: _ :: _ => false
  | _ => true

def ofWord? (word : List Char) : Option Number :=
  let (negative, unsigned) := match word with
    | '-' :: rest => (true, rest)
    | _ => (false, word)
  let whole := unsigned.takeWhile Char.isDigit
  let tail := unsigned.dropWhile Char.isDigit
  if !isWhole whole then none
  else if tail.isEmpty then whole? negative whole
  else
    let (fraction, rest) := splitFraction tail
    if fraction.isEmpty && tail.head? == some '.' then none
    else (exponent? rest).bind (real? negative whole fraction)

end Number

end ResourceQuery.Json
