import ResourceQuery.Number.Numeral

/-!
Finite binary64 numbers. The magnitudes of the format, counted from zero, are its ranks: the rank
is the bit pattern without the sign, magnitudes grow with it, and neighbouring magnitudes have
neighbouring ranks. So numbers compare as signed ranks do, and rounding is the choice between two
neighbouring ranks.
-/

namespace ResourceQuery.Number

/-- The magnitude of a rank, in units of the smallest positive magnitude `2 ^ -1074`. -/
def rankUnits (rank : Nat) : Nat :=
  let field := rank / Nat.pow 2 52
  if field = 0 then rank else (Nat.pow 2 52 + rank % Nat.pow 2 52) * Nat.pow 2 (field - 1)

/-- The ranks from here on have no finite magnitude. -/
def rankLimit : Nat := 2047 * Nat.pow 2 52

/-- The greatest rank whose magnitude is at most this many units: the leading 53 bits count. -/
def rankBelow (units : Nat) : Nat :=
  let dropped := units.log2 - 52
  units / Nat.pow 2 dropped + dropped * Nat.pow 2 52

/-- The rank nearest to a quotient of units; of two that are equally near, the even one. -/
def nearestRank (numerator denominator : Nat) : Nat :=
  let low := rankBelow (numerator / denominator)
  let middle := (rankUnits low + rankUnits (low + 1)) * denominator
  if 2 * numerator < middle then low
  else if middle < 2 * numerator then low + 1
  else if low % 2 = 0 then low else low + 1

/-- A finite binary64 number. -/
structure Binary64 where
  negative : Bool
  rank : Nat
  finite : rank < rankLimit
  deriving DecidableEq

namespace Binary64

def zero : Binary64 := ⟨false, 0, by decide⟩

instance : Inhabited Binary64 := ⟨zero⟩

def ofRank? (negative : Bool) (rank : Nat) : Option Binary64 :=
  if finite : rank < rankLimit then some ⟨negative, rank, finite⟩ else none

/-- Numbers in their order. The two zeros have one key. -/
def key (number : Binary64) : Int :=
  if number.negative then -(number.rank : Int) else number.rank

def order (left right : Binary64) : Ordering :=
  compare left.key right.key

/-- The exact value, in units of `2 ^ -1074`. -/
def units (number : Binary64) : Int :=
  if number.negative then -(rankUnits number.rank : Int) else rankUnits number.rank

def truncate (number : Binary64) : Int :=
  let whole : Nat := rankUnits number.rank / Nat.pow 2 1074
  if number.negative then -(whole : Int) else whole

def bits (number : Binary64) : Nat :=
  number.rank + if number.negative then Nat.pow 2 63 else 0

/-- The number nearest to an integer. Integers that the format cannot reach become its greatest
magnitude; none of those has fewer than a thousand bits. -/
def ofInt (value : Int) : Binary64 :=
  let rank := nearestRank (value.natAbs * Nat.pow 2 1074) 1
  if finite : rank < rankLimit then ⟨value < 0, rank, finite⟩
  else ⟨value < 0, rankLimit - 1, by decide⟩

/-- The number nearest to `coefficient · 10 ^ exponent`. An exponent so far up that the magnitude is
out of reach, or so far down that nothing is left of it, is decided by the size of the coefficient
alone. -/
def ofScaled? (number : Scaled) : Option Binary64 :=
  let ⟨negative, coefficient, exponent⟩ := number
  if coefficient = 0 then some ⟨negative, 0, by decide⟩
  else if 310 ≤ exponent then none
  else if (coefficient.log2 : Int) + 1100 < -3 * exponent then some ⟨negative, 0, by decide⟩
  else if 0 ≤ exponent then
    ofRank? negative (nearestRank (coefficient * Nat.pow 10 exponent.toNat * Nat.pow 2 1074) 1)
  else
    ofRank? negative (nearestRank (coefficient * Nat.pow 2 1074) (Nat.pow 10 (-exponent).toNat))

def times? (left right : Binary64) : Option Binary64 :=
  ofRank? (left.negative != right.negative)
    (nearestRank (rankUnits left.rank * rankUnits right.rank) (Nat.pow 2 1074))

def dividedBy? (left right : Binary64) : Option Binary64 :=
  if right.rank = 0 then none
  else ofRank? (left.negative != right.negative)
    (nearestRank (rankUnits left.rank * Nat.pow 2 1074) (rankUnits right.rank))

/-- The nearest number of the single-precision format: 24 bits, none below `2 ^ -149`, and none from
`2 ^ 128` on. -/
def toSingle? (number : Binary64) : Option Binary64 :=
  let units := rankUnits number.rank
  let step := Nat.pow 2 (max (units.log2 - 23) 925)
  let low := units / step
  let twice := 2 * (units % step)
  let nearest := if twice < step then low else if step < twice then low + 1 else low + low % 2
  if nearest * step < Nat.pow 2 (128 + 1074) then ofRank? number.negative (rankBelow (nearest * step))
  else none

def ofNumeral? (characters : List Char) : Option Binary64 :=
  (scaled? characters).bind ofScaled?

end Binary64

end ResourceQuery.Number
