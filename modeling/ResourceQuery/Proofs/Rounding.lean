import Mathlib.Algebra.Order.Field.Rat
import Mathlib.Tactic.Linarith
import Mathlib.Tactic.Positivity
import Mathlib.Tactic.Ring
import ResourceQuery.Proofs.Ranks

/-! Rounding to binary64. A number is rounded to the nearest number of the format, and to an even one
if two are equally near; so rounding keeps the order of numbers, though it may make them equal. -/

namespace ResourceQuery.Proofs.Rounding
open Number Ranks

/-- How many of the smallest positive magnitudes make one. -/
def unitsInOne : ℚ := 2 ^ 1074

theorem unitsInOne_pos : 0 < unitsInOne := by
  unfold unitsInOne
  positivity

def value (number : Binary64) : ℚ :=
  number.units / unitsInOne

private theorem units_lt_of_key_lt {left right : Binary64} (before : left.key < right.key) :
    left.units < right.units := by
  obtain ⟨leftNegative, low, lowFinite⟩ := left
  obtain ⟨rightNegative, high, highFinite⟩ := right
  have zero : rankUnits 0 = 0 := rfl
  have grows {rank other : Nat} : rankUnits rank < rankUnits other ↔ rank < other :=
    rankUnits_strictMono.lt_iff_lt
  have order : rankUnits low < rankUnits high ↔ low < high := grows
  have converse : rankUnits high < rankUnits low ↔ high < low := grows
  have lowPositive : rankUnits 0 < rankUnits low ↔ 0 < low := grows
  have highPositive : rankUnits 0 < rankUnits high ↔ 0 < high := grows
  cases leftNegative <;> cases rightNegative <;>
    simp only [Binary64.key, Binary64.units, ↓reduceIte, Bool.false_eq_true] at before ⊢ <;> omega

private theorem rank_eq_of_key_eq {left right : Binary64} (same : left.key = right.key) :
    left.rank = right.rank := by
  obtain ⟨leftNegative, low, lowFinite⟩ := left
  obtain ⟨rightNegative, high, highFinite⟩ := right
  cases leftNegative <;> cases rightNegative <;>
    simp only [Binary64.key, ↓reduceIte, Bool.false_eq_true] at same ⊢ <;> omega

private theorem units_eq_of_key_eq {left right : Binary64} (same : left.key = right.key) :
    left.units = right.units := by
  have ranks := rank_eq_of_key_eq same
  obtain ⟨leftNegative, low, lowFinite⟩ := left
  obtain ⟨rightNegative, high, highFinite⟩ := right
  obtain rfl : low = high := ranks
  have zero : rankUnits 0 = 0 := rfl
  cases leftNegative <;> cases rightNegative <;>
    simp only [Binary64.key, Binary64.units, ↓reduceIte, Bool.false_eq_true] at same ⊢
  · have none : low = 0 := by omega
    simp [none, zero]
  · have none : low = 0 := by omega
    simp [none, zero]

/-- Numbers are in the order of their values. -/
theorem value_lt_iff {left right : Binary64} : value left < value right ↔ left.key < right.key := by
  have units : value left < value right ↔ left.units < right.units := by
    rw [value, value, div_lt_div_iff_of_pos_right unitsInOne_pos, Int.cast_lt]
  rw [units]
  refine ⟨fun before => ?_, units_lt_of_key_lt⟩
  by_contra notBefore
  obtain after | same := Int.lt_or_eq_of_le (Int.not_lt.mp notBefore)
  · have := units_lt_of_key_lt after
    omega
  · have := units_eq_of_key_eq same
    omega

theorem value_eq_iff {left right : Binary64} : value left = value right ↔ left.key = right.key := by
  have below : value left < value right ↔ left.key < right.key := value_lt_iff
  have above : value right < value left ↔ right.key < left.key := value_lt_iff
  constructor
  · intro same
    rw [same, lt_self_iff_false, false_iff] at below
    rw [same, lt_self_iff_false, false_iff] at above
    omega
  · intro same
    rw [same, lt_self_iff_false, iff_false] at below
    rw [same, lt_self_iff_false, iff_false] at above
    exact le_antisymm (not_lt.mp above) (not_lt.mp below)

/-- A number is rounded to the nearest number of the format, and to an even one if another is equally
near. -/
structure RoundsTo (number : ℚ) (rounded : Binary64) : Prop where
  nearest : ∀ other, |value rounded - number| ≤ |value other - number|
  even : ∀ other, |value other - number| = |value rounded - number| → value other ≠ value rounded →
    rounded.rank % 2 = 0

/-- The greater of two numbers is the nearer one from the middle between them on. -/
theorem nearer_iff {low high number : ℚ} (apart : low < high) :
    |high - number| ≤ |low - number| ↔ low + high ≤ 2 * number := by
  constructor <;> intro near <;>
    rcases abs_cases (high - number) with ⟨right, _⟩ | ⟨right, _⟩ <;>
    rcases abs_cases (low - number) with ⟨left, _⟩ | ⟨left, _⟩ <;> linarith

private theorem nearer_low_iff {low high number : ℚ} (apart : low < high) :
    |low - number| ≤ |high - number| ↔ 2 * number ≤ low + high := by
  constructor <;> intro near <;>
    rcases abs_cases (high - number) with ⟨right, _⟩ | ⟨right, _⟩ <;>
    rcases abs_cases (low - number) with ⟨left, _⟩ | ⟨left, _⟩ <;> linarith

private theorem exists_between {low high : Binary64} (apart : low.key < high.key) (lowEven : low.rank % 2 = 0)
    (highEven : high.rank % 2 = 0) : ∃ between : Binary64, low.key < between.key ∧ between.key < high.key := by
  obtain ⟨lowNegative, low, lowFinite⟩ := low
  obtain ⟨highNegative, high, highFinite⟩ := high
  have far : Binary64.key ⟨lowNegative, low, lowFinite⟩ + 1 <
      Binary64.key ⟨highNegative, high, highFinite⟩ := by
    cases lowNegative <;> cases highNegative <;>
      simp only [Binary64.key, ↓reduceIte, Bool.false_eq_true] at apart lowEven highEven ⊢ <;> omega
  have reach : (Binary64.key ⟨lowNegative, low, lowFinite⟩ + 1).natAbs < rankLimit := by
    cases lowNegative <;> cases highNegative <;>
      simp only [Binary64.key, ↓reduceIte, Bool.false_eq_true] at far ⊢ <;> omega
  generalize Binary64.key ⟨lowNegative, low, lowFinite⟩ = key at *
  have next : Binary64.key ⟨decide (key + 1 < 0), (key + 1).natAbs, reach⟩ = key + 1 := by
    simp only [Binary64.key, decide_eq_true_eq]
    split <;> omega
  exact ⟨_, by rw [next]; omega, by rw [next]; exact far⟩

theorem RoundsTo.key_le {smaller greater : ℚ} {low high : Binary64} (first : RoundsTo smaller low)
    (second : RoundsTo greater high) (ordered : smaller ≤ greater) : low.key ≤ high.key := by
  by_contra crossed
  have apart : value high < value low := value_lt_iff.mpr (by omega)
  have above := (nearer_iff apart).mp (first.nearest high)
  have below := (nearer_low_iff apart).mp (second.nearest low)
  -- Both numbers lie in the middle, and a number between the two would be nearer.
  obtain rfl : smaller = greater := by linarith
  have equal : |value high - smaller| = |value low - smaller| :=
    le_antisymm (second.nearest low) (first.nearest high)
  have lowEven := first.even high equal (ne_of_lt apart)
  have highEven := second.even low equal.symm (ne_of_gt apart)
  obtain ⟨between, after, before⟩ := exists_between (value_lt_iff.mp apart) highEven lowEven
  have far := (nearer_iff (value_lt_iff.mpr before)).mp (first.nearest between)
  have near := value_lt_iff.mpr after
  linarith

theorem roundsTo_value (number : Binary64) : RoundsTo (value number) number := by
  constructor
  · intro other
    rw [sub_self, abs_zero]
    exact abs_nonneg _
  · intro other equal apart
    rw [sub_self, abs_zero, abs_eq_zero, sub_eq_zero] at equal
    exact absurd equal apart

def Alike (left right : ℚ) : Prop :=
  ∃ rounded, RoundsTo left rounded ∧ RoundsTo right rounded

theorem Alike.symm {left right : ℚ} (alike : Alike left right) : Alike right left := by
  obtain ⟨rounded, first, second⟩ := alike
  exact ⟨rounded, second, first⟩

theorem RoundsTo.of_key_eq {number : ℚ} {rounded other : Binary64} (rounds : RoundsTo number rounded)
    (same : rounded.key = other.key) : RoundsTo number other := by
  have value := value_eq_iff.mpr same
  have rank := rank_eq_of_key_eq same
  constructor
  · rw [← value]
    exact rounds.nearest
  · rw [← value, ← rank]
    exact rounds.even

theorem RoundsTo.key_eq {number : ℚ} {rounded other : Binary64} (rounds : RoundsTo number rounded)
    (also : RoundsTo number other) : rounded.key = other.key :=
  Int.le_antisymm (rounds.key_le also le_rfl) (also.key_le rounds le_rfl)

/-- What is rounded compares like the numbers themselves, unless these become one number. -/
theorem RoundsTo.key_le_iff {left right : ℚ} {low high : Binary64} (first : RoundsTo left low)
    (second : RoundsTo right high) : low.key ≤ high.key ↔ left ≤ right ∨ Alike left right := by
  constructor
  · intro ordered
    by_cases before : left ≤ right
    · exact .inl before
    · have back := second.key_le first (le_of_lt (not_le.mp before))
      exact .inr ⟨low, first, second.of_key_eq (Int.le_antisymm back ordered)⟩
  · rintro (before | ⟨rounded, left, right⟩)
    · exact first.key_le second before
    · exact le_of_eq ((first.key_eq left).trans (right.key_eq second))

/-- No magnitude is nearer to a quotient than that of the nearest rank, and another one is equally
near only if that rank is even. -/
private theorem nearest_magnitude (numerator : Nat) {denominator : Nat} (positive : 0 < denominator)
    (other : Nat) :
    let rank := nearestRank numerator denominator
    let number : ℚ := numerator / denominator
    |rankUnits rank - number| ≤ |rankUnits other - number| ∧
      (|rankUnits other - number| = |rankUnits rank - number| → other ≠ rank → rank % 2 = 0) := by
  intro rank number
  have scale : (0 : ℚ) < denominator := by exact_mod_cast positive
  have exact : number * denominator = numerator := div_mul_cancel₀ _ (ne_of_gt scale)
  obtain before | rfl | after := Nat.lt_trichotomy other rank
  · obtain ⟨below, next⟩ := Nat.exists_eq_add_of_lt (Nat.zero_lt_of_lt before)
    rw [Nat.zero_add] at next
    obtain ⟨lower, even⟩ := middle_nearestRank_le numerator positive next
    have apart : (rankUnits other : ℚ) < rankUnits rank := by
      exact_mod_cast rankUnits_strictMono before
    have step : (rankUnits other : ℚ) + rankUnits rank ≤ middle below := by
      have behind : rankUnits other ≤ rankUnits below := rankUnits_strictMono.monotone (by omega)
      rw [next, middle]
      exact_mod_cast Nat.add_le_add_right behind _
    have lower' : (middle below : ℚ) ≤ 2 * number := by
      have cast : (middle below : ℚ) * denominator ≤ 2 * numerator := by exact_mod_cast lower
      rw [← exact] at cast
      exact le_of_mul_le_mul_right (by linarith) scale
    refine ⟨(nearer_iff apart).mpr (by linarith), fun equal _ => ?_⟩
    have upper := (nearer_low_iff apart).mp (le_of_eq equal)
    have same : (middle below : ℚ) * denominator = 2 * numerator := by
      rw [← exact, show (middle below : ℚ) = 2 * number by linarith]
      ring
    rw [next]
    exact even (by exact_mod_cast same)
  · exact ⟨le_refl _, fun _ apart => absurd rfl apart⟩
  · obtain ⟨upper, even⟩ := le_middle_nearestRank numerator positive
    have apart : (rankUnits rank : ℚ) < rankUnits other := by
      exact_mod_cast rankUnits_strictMono after
    have step : (middle rank : ℚ) ≤ rankUnits rank + rankUnits other := by
      have beyond : rankUnits (rank + 1) ≤ rankUnits other := rankUnits_strictMono.monotone after
      rw [middle]
      exact_mod_cast Nat.add_le_add_left beyond _
    have upper' : 2 * number ≤ middle rank := by
      have cast : 2 * (numerator : ℚ) ≤ middle rank * denominator := by exact_mod_cast upper
      rw [← exact] at cast
      exact le_of_mul_le_mul_right (by linarith) scale
    refine ⟨(nearer_low_iff apart).mpr (by linarith), fun equal _ => ?_⟩
    have lower := (nearer_iff apart).mp (le_of_eq equal)
    have same : 2 * (numerator : ℚ) = middle rank * denominator := by
      rw [← exact, show (middle rank : ℚ) = 2 * number by linarith]
      ring
    exact even (by exact_mod_cast same)

def signed (negative : Bool) (magnitude : ℚ) : ℚ :=
  if negative then -magnitude else magnitude

theorem value_eq_signed (number : Binary64) :
    value number = signed number.negative (rankUnits number.rank / unitsInOne) := by
  unfold value signed Binary64.units
  split
  · push_cast
    ring
  · push_cast
    ring

/-- Distances between numbers of one sign are those between their magnitudes, and numbers of different
signs are as far apart as both are from zero. -/
private theorem distance_signed (first second : Bool) (left right : ℚ) :
    |signed first left - signed second right| =
      if first = second then |left - right| else |left + right| := by
  cases first <;> cases second <;> simp only [signed, ↓reduceIte, Bool.false_eq_true, reduceCtorEq]
  · rw [sub_neg_eq_add]
  · rw [← abs_neg]
    ring_nf
  · rw [← abs_neg]
    ring_nf

private theorem roundsTo_nearestRank (negative : Bool) (numerator : Nat) {denominator : Nat}
    (positive : 0 < denominator) (finite : nearestRank numerator denominator < rankLimit) :
    RoundsTo (signed negative (numerator / denominator / unitsInOne))
      ⟨negative, nearestRank numerator denominator, finite⟩ := by
  have nearest := nearest_magnitude numerator positive
  simp only at nearest
  have rest : (0 : ℚ) ≤ numerator / denominator := by positivity
  generalize (numerator / denominator : ℚ) = number at *
  generalize nearestRank numerator denominator = rank at *
  have distance (other : Binary64) : |value other - signed negative (number / unitsInOne)| =
      (if other.negative = negative then |(rankUnits other.rank : ℚ) - number|
        else rankUnits other.rank + number) / unitsInOne := by
    have sum : (0 : ℚ) ≤ rankUnits other.rank + number := by positivity
    rw [value_eq_signed, distance_signed]
    split
    · rw [← sub_div, abs_div, abs_of_pos unitsInOne_pos]
    · rw [← add_div, abs_div, abs_of_pos unitsInOne_pos, abs_of_nonneg sum]
  have zero := nearest 0
  rw [show rankUnits 0 = 0 from rfl, Nat.cast_zero, zero_sub, abs_neg, abs_of_nonneg rest] at zero
  constructor
  · intro other
    rw [distance, distance, if_pos rfl, div_le_div_iff_of_pos_right unitsInOne_pos]
    split
    · exact (nearest other.rank).1
    · have magnitude : (0 : ℚ) ≤ rankUnits other.rank := by positivity
      linarith [zero.1]
  · intro other equal apart
    rw [distance, distance, if_pos rfl, div_left_inj' (ne_of_gt unitsInOne_pos)] at equal
    split at equal
    next same =>
      refine (nearest other.rank).2 equal fun ranks => apart ?_
      simp [value_eq_signed, same, ranks]
    next different =>
      have magnitude : (0 : ℚ) ≤ rankUnits other.rank := by positivity
      have none : (rankUnits other.rank : ℚ) = 0 := by linarith [zero.1]
      by_contra odd
      have some : 0 ≠ rank := by
        rintro rfl
        exact odd rfl
      exact odd (zero.2 (by linarith) some)

/-- The magnitudes from here on, the middle between the greatest one and the next power of two, are not
rounded to anything. -/
def overflow : ℚ :=
  2 ^ 1024 - 2 ^ 970

private theorem outOfReach_cast : (outOfReach : ℚ) = 2 * (overflow * unitsInOne) := by
  have high : (2 : ℚ) ^ 54 * 2 ^ 2044 = 2 ^ 1024 * 2 ^ 1074 :=
    (pow_add 2 54 2044).symm.trans (pow_add 2 1024 1074)
  have low : (2 : ℚ) ^ 2044 = 2 ^ 970 * 2 ^ 1074 := pow_add 2 970 1074
  have significand : ((2 ^ 54 - 1 : Nat) : ℚ) = 2 ^ 54 - 1 := by norm_num
  rw [outOfReach_eq, Nat.cast_mul, Nat.cast_mul, Nat.cast_pow, significand, Nat.cast_ofNat, sub_mul,
    one_mul, high, low, ← sub_mul, overflow, unitsInOne]

/-- What a number is rounded to, if it is rounded to anything. -/
def Rounds (number : ℚ) : Option Binary64 → Prop
  | some rounded => RoundsTo number rounded ∧ |number| < overflow
  | none => overflow ≤ |number|

theorem abs_signed (negative : Bool) {magnitude : ℚ} (positive : 0 ≤ magnitude) :
    |signed negative magnitude| = magnitude := by
  unfold signed
  split <;> simp [abs_of_nonneg positive]

theorem rounds_nearestRank (negative : Bool) (numerator : Nat) {denominator : Nat}
    (positive : 0 < denominator) :
    Rounds (signed negative (numerator / denominator / unitsInOne))
      (Binary64.ofRank? negative (nearestRank numerator denominator)) := by
  have scale : (0 : ℚ) < denominator := by exact_mod_cast positive
  have magnitude : (0 : ℚ) ≤ numerator / denominator / unitsInOne :=
    div_nonneg (by positivity) (le_of_lt unitsInOne_pos)
  have within : nearestRank numerator denominator < rankLimit ↔
      (numerator / denominator / unitsInOne : ℚ) < overflow := by
    rw [nearestRank_lt_iff numerator positive, div_lt_iff₀ unitsInOne_pos, div_lt_iff₀ scale,
      ← @Nat.cast_lt ℚ, Nat.cast_mul, Nat.cast_mul, outOfReach_cast, Nat.cast_ofNat, mul_assoc,
      mul_lt_mul_iff_right₀ (by norm_num : (0 : ℚ) < 2)]
  unfold Binary64.ofRank?
  split
  next finite =>
    rw [Rounds, abs_signed negative magnitude]
    exact ⟨roundsTo_nearestRank negative numerator positive finite, within.mp finite⟩
  next infinite =>
    rw [Rounds, abs_signed negative magnitude]
    exact not_lt.mp (mt within.mpr infinite)

def decimalValue (number : Scaled) : ℚ :=
  signed number.negative (number.coefficient * 10 ^ number.exponent)

theorem unitsOf_cast (number : Nat) : (unitsOf number : ℚ) = number * unitsInOne := by
  rw [unitsOf, unitsInOne, Nat.cast_mul, Nat.cast_pow, Nat.cast_ofNat]

theorem rounds_ofScaled? (number : Scaled) :
    Rounds (decimalValue number) (Binary64.ofScaled? number) := by
  obtain ⟨negative, coefficient, exponent⟩ := number
  have positive : 0 < 10 ^ (-exponent).toNat := by positivity
  have rounds := rounds_nearestRank negative (unitsOf (coefficient * 10 ^ exponent.toNat)) positive
  have power : (10 : ℚ) ^ exponent = 10 ^ exponent.toNat / 10 ^ (-exponent).toNat := by
    rw [← zpow_natCast, ← zpow_natCast, ← zpow_sub₀ (by norm_num)]
    congr 1
    omega
  rw [unitsOf_cast, div_right_comm, mul_div_cancel_right₀ _ (ne_of_gt unitsInOne_pos),
    Nat.cast_mul, Nat.cast_pow, Nat.cast_pow, Nat.cast_ofNat, mul_div_assoc, ← power] at rounds
  rw [ofScaled?_eq]
  exact rounds

theorem roundsTo_ofInt {number : Int} (short : number.natAbs < 2 ^ 65) :
    RoundsTo number (Binary64.ofInt number) := by
  have exact : (number : ℚ) = signed (decide (number < 0))
      (unitsOf number.natAbs / (1 : Nat) / unitsInOne) := by
    rw [unitsOf_cast, Nat.cast_one, div_one, mul_div_cancel_right₀ _ (ne_of_gt unitsInOne_pos)]
    unfold signed
    split
    next negative =>
      rw [Nat.cast_natAbs, abs_of_neg (of_decide_eq_true negative), Int.cast_neg, neg_neg]
    next positive =>
      rw [Nat.cast_natAbs, abs_of_nonneg (not_lt.mp (by simpa using positive))]
  rw [exact, ofInt_eq short]
  exact roundsTo_nearestRank _ _ Nat.one_pos (nearestRank_lt_of_short short)

end ResourceQuery.Proofs.Rounding
