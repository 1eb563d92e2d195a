import ResourceQuery.Number.Binary64

/-!
Shortest decimals. Of the decimals that round to a given number, the ones on the coarsest grid of
powers of ten have the fewest digits, and the nearest of those is written. All comparisons are made
on natural numbers, in units of `10 ^ -1074`, where every magnitude and every grid is a whole
number.
-/

namespace ResourceQuery.Number

inductive Tie where
  | even
  | upward

def rankDecimal (rank : Nat) : Nat :=
  rankUnits rank * Nat.pow 5 1074

/-- Whether a decimal rounds to the rank. The two midpoints belong to the even rank. -/
def roundsTo (rank decimal : Nat) : Bool :=
  let low := rankDecimal (rank - 1) + rankDecimal rank
  let high := rankDecimal rank + rankDecimal (rank + 1)
  if rank % 2 = 0 then low ≤ 2 * decimal && 2 * decimal ≤ high
  else low < 2 * decimal && 2 * decimal < high

/-- The multiple of the step that rounds to the rank and is nearest to it, if one does. -/
def nearestMultiple? (tie : Tie) (rank step : Nat) : Option Nat :=
  let exact := rankDecimal rank
  let low := exact / step
  match roundsTo rank (low * step), roundsTo rank ((low + 1) * step) with
  | false, false => none
  | true, false => some low
  | false, true => some (low + 1)
  | true, true =>
    let twice := 2 * (exact % step)
    if twice < step then some low
    else if step < twice then some (low + 1)
    else match tie with
      | .even => some (low + low % 2)
      | .upward => some (low + 1)

/-- The multiple found on the coarsest of the grids `10 ^ level` to `10 ^ 0`, with its level. On the
last grid the number itself lies. -/
def coarsest (tie : Tie) (rank : Nat) : Nat → Nat × Nat
  | 0 => (rankDecimal rank, 0)
  | level + 1 =>
    match nearestMultiple? tie rank (Nat.pow 10 (level + 1)) with
    | some multiple => (multiple, level + 1)
    | none => coarsest tie rank level

/-- A level whose grid has no point in reach but zero. -/
def topLevel (rank : Nat) : Nat :=
  (rankDecimal rank).log2 * 30103 / 100000 + 2

/-- The digits and the power of ten of the shortest decimal of a positive magnitude. -/
def shortest (tie : Tie) (rank : Nat) : Nat × Int :=
  let (multiple, level) := coarsest tie rank (topLevel rank)
  (multiple, (level : Int) - 1074)

/-- Digits with a point after the given number of them, zeros filling the gaps; a number without a
fraction has no point. -/
def positional (digits : List Char) (power : Int) : List Char :=
  if 0 ≤ power then digits ++ List.replicate power.toNat '0'
  else
    let places := (-power).toNat
    let filled := List.replicate (places + 1 - digits.length) '0' ++ digits
    filled.take (filled.length - places) ++ '.' :: filled.drop (filled.length - places)

/-- A number without an exponent: as many zeros as it takes, and a point only before a fraction. -/
def plainText (number : Binary64) : String :=
  let (coefficient, power) := if number.rank = 0 then (0, 0) else shortest .upward number.rank
  let shown := positional (digits coefficient) power
  String.ofList (if number.negative then '-' :: shown else shown)

end ResourceQuery.Number
