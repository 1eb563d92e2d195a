import Mathlib.Algebra.Group.Nat.Defs
import Mathlib.Order.Monotone.Basic
import ResourceQuery.Number.Binary64

/-! Ranks and their magnitudes. Magnitudes grow with ranks, the rank nearest to a quotient lies between
the middles to its neighbours, and it is found for every decimal, however great or small. -/

namespace ResourceQuery.Proofs.Ranks
open Number

private theorem rankUnits_eq (rank : Nat) : rankUnits rank =
    if rank / 2 ^ 52 = 0 then rank else (2 ^ 52 + rank % 2 ^ 52) * 2 ^ (rank / 2 ^ 52 - 1) := rfl

private theorem rankBelow_eq (units : Nat) : rankBelow units =
    units / 2 ^ (units.log2 - 52) + (units.log2 - 52) * 2 ^ 52 := rfl

theorem rankUnits_small {rank : Nat} (small : rank < 2 ^ 52) : rankUnits rank = rank := by
  rw [rankUnits_eq, if_pos (Nat.div_eq_of_lt small)]

/-- A rank with a significand of 53 bits; the first significand of more bits may stand for the next. -/
theorem rankUnits_normal {significand : Nat} (low : 2 ^ 52 ≤ significand)
    (high : significand ≤ 2 ^ 53) (shift : Nat) :
    rankUnits (significand + shift * 2 ^ 52) = significand * 2 ^ shift := by
  rw [rankUnits_eq, Nat.add_mul_div_right _ _ (by decide), Nat.add_mul_mod_self_right]
  obtain rfl | below := Nat.eq_or_lt_of_le high
  · have field : 2 ^ 53 / 2 ^ 52 + shift = shift + 1 + 1 := by omega
    simp only [field]
    rw [if_neg (by omega), Nat.add_sub_cancel, Nat.pow_succ]
    omega
  · have field : significand / 2 ^ 52 + shift = shift + 1 := by omega
    simp only [field]
    rw [if_neg (by omega), Nat.add_sub_cancel]
    congr 1
    omega

private theorem rank_cases (rank : Nat) : rank < 2 ^ 52 ∨ ∃ significand shift,
    2 ^ 52 ≤ significand ∧ significand < 2 ^ 53 ∧ rank = significand + shift * 2 ^ 52 := by
  by_cases small : rank < 2 ^ 52
  · exact .inl small
  · exact .inr ⟨2 ^ 52 + rank % 2 ^ 52, rank / 2 ^ 52 - 1, by omega, by omega, by omega⟩

private theorem rankUnits_lt_succ (rank : Nat) : rankUnits rank < rankUnits (rank + 1) := by
  obtain small | ⟨significand, shift, low, high, rfl⟩ := rank_cases rank
  · rw [rankUnits_small small]
    obtain same | below := Nat.eq_or_lt_of_le (Nat.succ_le_of_lt small)
    · have first := rankUnits_normal (Nat.le_refl (2 ^ 52)) (by decide) 0
      rw [Nat.zero_mul, Nat.add_zero, Nat.pow_zero, Nat.mul_one] at first
      rw [← Nat.succ_eq_add_one, same, first]
      exact small
    · rw [rankUnits_small below]
      exact Nat.lt_succ_self rank
  · rw [Nat.add_right_comm, rankUnits_normal low (by omega), rankUnits_normal (by omega) (by omega)]
    exact Nat.mul_lt_mul_of_pos_right (Nat.lt_succ_self _) (Nat.two_pow_pos _)

theorem rankUnits_strictMono : StrictMono rankUnits :=
  strictMono_nat_of_lt_succ rankUnits_lt_succ

private theorem rankBelow_bounds (units : Nat) :
    rankUnits (rankBelow units) ≤ units ∧ units < rankUnits (rankBelow units + 1) := by
  by_cases small : units < 2 ^ 53
  · have kept : rankBelow units = units := by
      have log : units.log2 ≤ 52 := by
        by_cases none : units = 0
        · simp [none]
        · exact Nat.le_of_lt_succ ((Nat.log2_lt none).mpr small)
      rw [rankBelow_eq, Nat.sub_eq_zero_of_le log]
      omega
    rw [kept]
    have same {rank : Nat} (within : rank ≤ 2 ^ 53) : rankUnits rank = rank := by
      by_cases below : rank < 2 ^ 52
      · exact rankUnits_small below
      · simpa using rankUnits_normal (Nat.le_of_not_lt below) within 0
    rw [same (Nat.le_of_lt small), same small]
    omega
  · have some : units ≠ 0 := by omega
    have lower := Nat.log2_self_le some
    have upper : units < 2 ^ (units.log2 + 1) := Nat.lt_log2_self
    have long : 53 ≤ units.log2 := (Nat.le_log2 some).mpr (Nat.le_of_not_lt small)
    rw [rankBelow_eq]
    generalize size : units.log2 - 52 = dropped
    have log : units.log2 = 52 + dropped := by omega
    rw [log, Nat.pow_add] at lower
    rw [log, Nat.add_right_comm, Nat.pow_add] at upper
    have positive : 0 < 2 ^ dropped := Nat.two_pow_pos dropped
    have low : 2 ^ 52 ≤ units / 2 ^ dropped := (Nat.le_div_iff_mul_le positive).mpr lower
    have high : units / 2 ^ dropped < 2 ^ 53 := (Nat.div_lt_iff_lt_mul positive).mpr upper
    rw [Nat.add_right_comm, rankUnits_normal low (by omega), rankUnits_normal (by omega) (by omega)]
    exact ⟨Nat.div_mul_le_self _ _, (Nat.div_lt_iff_lt_mul positive).mp (Nat.lt_succ_self _)⟩

/-- Twice the point in the middle between a rank and the next. -/
def middle (rank : Nat) : Nat :=
  rankUnits rank + rankUnits (rank + 1)

private theorem middle_strictMono : StrictMono middle := by
  intro rank other before
  exact Nat.add_lt_add (rankUnits_strictMono before) (rankUnits_strictMono (Nat.succ_lt_succ before))

/-- The nearest rank is not beyond the middle to the next, nor on it unless it is even. -/
theorem le_middle_nearestRank (numerator : Nat) {denominator : Nat} (positive : 0 < denominator) :
    let rank := nearestRank numerator denominator
    2 * numerator ≤ middle rank * denominator ∧
      (2 * numerator = middle rank * denominator → rank % 2 = 0) := by
  intro rank
  obtain ⟨-, upper⟩ := rankBelow_bounds (numerator / denominator)
  rw [Nat.div_lt_iff_lt_mul positive] at upper
  simp only [rank, nearestRank]
  generalize rankBelow (numerator / denominator) = low at *
  have beyond : 2 * numerator < middle (low + 1) * denominator := by
    have next := Nat.mul_le_mul_right denominator (Nat.le_of_lt (rankUnits_lt_succ (low + 1)))
    rw [middle, Nat.add_mul]
    omega
  split
  next before =>
    refine ⟨Nat.le_of_lt before, fun same => ?_⟩
    rw [middle] at same
    omega
  next notBefore =>
    split
    next => exact ⟨Nat.le_of_lt beyond, fun same => by omega⟩
    next =>
      split
      next even => exact ⟨by rw [middle]; omega, fun _ => even⟩
      next => exact ⟨Nat.le_of_lt beyond, fun same => by omega⟩

/-- Nor is it beyond the middle to the one before. -/
theorem middle_nearestRank_le (numerator : Nat) {denominator : Nat} (positive : 0 < denominator)
    {below : Nat} (next : nearestRank numerator denominator = below + 1) :
    middle below * denominator ≤ 2 * numerator ∧
      (middle below * denominator = 2 * numerator → (below + 1) % 2 = 0) := by
  obtain ⟨lower, -⟩ := rankBelow_bounds (numerator / denominator)
  rw [Nat.le_div_iff_mul_le positive] at lower
  simp only [nearestRank] at next
  generalize rankBelow (numerator / denominator) = low at *
  have behind : low = below + 1 → middle below * denominator < 2 * numerator := by
    rintro rfl
    have last := Nat.mul_lt_mul_of_pos_right (rankUnits_lt_succ below) positive
    rw [middle, Nat.add_mul]
    omega
  split at next
  next before => exact ⟨Nat.le_of_lt (behind next), fun same => absurd same (Nat.ne_of_lt (behind next))⟩
  next notBefore =>
    split at next
    next after =>
      obtain rfl : low = below := by omega
      exact ⟨Nat.le_of_lt after, fun same => absurd same (Nat.ne_of_lt after)⟩
    next =>
      split at next
      next => exact ⟨Nat.le_of_lt (behind next), fun same => absurd same (Nat.ne_of_lt (behind next))⟩
      next odd =>
        obtain rfl : low = below := by omega
        exact ⟨by rw [middle]; omega, fun _ => by omega⟩

/-- A quotient lies between the middles from a rank to its neighbours, and on one only if the rank is
even. -/
structure Within (rank numerator denominator : Nat) : Prop where
  upper : 2 * numerator ≤ middle rank * denominator
  upperEven : 2 * numerator = middle rank * denominator → rank % 2 = 0
  lower : ∀ below, rank = below + 1 → middle below * denominator ≤ 2 * numerator
  lowerEven : ∀ below, rank = below + 1 → middle below * denominator = 2 * numerator → rank % 2 = 0

theorem Within.not_lt {rank other numerator denominator : Nat} (first : Within rank numerator denominator)
    (second : Within other numerator denominator) (positive : 0 < denominator) : ¬ rank < other := by
  intro before
  obtain ⟨below, rfl⟩ : ∃ below, other = below + 1 := ⟨other - 1, by omega⟩
  have grows : middle rank * denominator ≤ middle below * denominator :=
    Nat.mul_le_mul_right _ (middle_strictMono.monotone (Nat.le_of_lt_succ before))
  have upper := first.upper
  have lower := second.lower below rfl
  have even := first.upperEven (by omega)
  have nextEven := second.lowerEven below rfl (by omega)
  have same : middle rank = middle below := Nat.eq_of_mul_eq_mul_right positive (by omega)
  have := middle_strictMono.injective same
  omega

private theorem within_nearestRank (numerator : Nat) {denominator : Nat} (positive : 0 < denominator) :
    Within (nearestRank numerator denominator) numerator denominator where
  upper := (le_middle_nearestRank numerator positive).1
  upperEven := (le_middle_nearestRank numerator positive).2
  lower _ next := (middle_nearestRank_le numerator positive next).1
  lowerEven _ next same := next ▸ (middle_nearestRank_le numerator positive next).2 same

theorem Within.nearestRank_eq {rank numerator denominator : Nat}
    (within : Within rank numerator denominator) (positive : 0 < denominator) :
    nearestRank numerator denominator = rank := by
  have nearest := within_nearestRank numerator positive
  have notBelow := nearest.not_lt within positive
  have notAbove := within.not_lt nearest positive
  omega

/-- Twice the least magnitude, in units, that is beyond the format. -/
def outOfReach : Nat :=
  middle (rankLimit - 1)

theorem nearestRank_lt_iff (numerator : Nat) {denominator : Nat} (positive : 0 < denominator) :
    nearestRank numerator denominator < rankLimit ↔ 2 * numerator < outOfReach * denominator := by
  have limit : rankLimit = 2047 * 2 ^ 52 := rfl
  constructor
  · intro within
    obtain ⟨before, even⟩ := le_middle_nearestRank numerator positive
    generalize nearestRank numerator denominator = rank at *
    obtain rfl | earlier := Nat.eq_or_lt_of_le (Nat.le_sub_one_of_lt within)
    · have odd : (rankLimit - 1) % 2 ≠ 0 := by decide
      exact Nat.lt_of_le_of_ne before fun same => odd (even same)
    · exact Nat.lt_of_le_of_lt before
        (Nat.mul_lt_mul_of_pos_right (middle_strictMono earlier) positive)
  · intro reached
    by_contra beyond
    obtain ⟨below, next⟩ := Nat.exists_eq_add_of_le' (show 1 ≤ nearestRank numerator denominator by omega)
    have after := (middle_nearestRank_le numerator positive next).1
    have behind : middle (rankLimit - 1) ≤ middle below := middle_strictMono.monotone (by omega)
    have covered := Nat.mul_le_mul_right denominator behind
    rw [outOfReach] at reached
    omega

theorem outOfReach_eq : outOfReach = 2 * ((2 ^ 54 - 1) * 2 ^ 2044) := by
  have sum {shift next : Nat} (successor : next = shift + 1) :
      (2 ^ 53 - 1) * 2 ^ next + 2 ^ 53 * 2 ^ next = 2 * ((2 ^ 54 - 1) * 2 ^ shift) := by
    rw [successor, Nat.pow_succ]
    omega
  have last : rankLimit - 1 = 2 ^ 53 - 1 + 2045 * 2 ^ 52 := by decide
  have next : 2 ^ 53 - 1 + 2045 * 2 ^ 52 + 1 = 2 ^ 53 + 2045 * 2 ^ 52 := by decide
  rw [outOfReach, middle, last, next, rankUnits_normal (by decide) (by decide),
    rankUnits_normal (by decide) (by decide)]
  exact @sum 2044 2045 rfl

private theorem nearestRank_eq_zero {numerator denominator : Nat} (small : 2 * numerator < denominator) :
    nearestRank numerator denominator = 0 := by
  have none : numerator / denominator = 0 := Nat.div_eq_of_lt (by omega)
  have low : rankBelow 0 = 0 := by decide
  have first : rankUnits 0 + rankUnits (0 + 1) = 1 := by decide
  simp only [nearestRank, none, low, first]
  rw [Nat.one_mul, if_pos small]

def unitsOf (number : Nat) : Nat :=
  number * 2 ^ 1074

private theorem outOfReach_le {coefficient exponent : Nat} (some : 0 < coefficient) (great : 310 ≤ exponent) :
    outOfReach ≤ 2 * unitsOf (coefficient * 10 ^ exponent) := by
  have covered {bits tens shift room : Nat} (power : 2 ^ bits ≤ 10 ^ tens) (longer : tens ≤ exponent)
      (far : 54 + room ≤ bits + shift) :
      2 * ((2 ^ 54 - 1) * 2 ^ room) ≤ 2 * (coefficient * 10 ^ exponent * 2 ^ shift) := by
    have widened : 2 ^ (54 + room) ≤ 2 ^ (bits + shift) := Nat.pow_le_pow_right (by decide) far
    have raised : 10 ^ tens ≤ 10 ^ exponent := Nat.pow_le_pow_right (by decide) longer
    apply Nat.mul_le_mul_left
    calc (2 ^ 54 - 1) * 2 ^ room ≤ 2 ^ 54 * 2 ^ room := Nat.mul_le_mul_right _ (by decide)
      _ ≤ 2 ^ bits * 2 ^ shift := by rwa [← Nat.pow_add, ← Nat.pow_add]
      _ ≤ coefficient * 10 ^ exponent * 2 ^ shift := by
        apply Nat.mul_le_mul_right
        exact Nat.le_trans (Nat.le_trans power raised) (Nat.le_mul_of_pos_left _ some)
  rw [outOfReach_eq]
  exact @covered 1024 310 1074 2044 (by decide +kernel) great (by decide)

private theorem nothing_left {coefficient exponent : Nat} (small : coefficient.log2 + 1100 < 3 * exponent) :
    2 * unitsOf coefficient < 10 ^ exponent := by
  have vanishes {shift : Nat} (few : coefficient.log2 + 2 + shift ≤ 3 * exponent) :
      2 * (coefficient * 2 ^ shift) < 10 ^ exponent := by
    have short := Nat.mul_lt_mul_of_pos_right (@Nat.lt_log2_self coefficient) (Nat.two_pow_pos shift)
    have eight : 8 ^ exponent ≤ 10 ^ exponent := Nat.pow_le_pow_left (by decide) exponent
    calc 2 * (coefficient * 2 ^ shift) < 2 * (2 ^ (coefficient.log2 + 1) * 2 ^ shift) := by omega
      _ = 2 ^ (coefficient.log2 + 2 + shift) := by
        rw [← Nat.mul_assoc, ← Nat.pow_add_one', ← Nat.pow_add]
      _ ≤ 2 ^ (3 * exponent) := Nat.pow_le_pow_right (by decide) few
      _ = 8 ^ exponent := Nat.pow_mul ..
      _ ≤ 10 ^ exponent := eight
  exact @vanishes 1074 (by omega)

/-- Decimals that are too great or too small to be worked out are rounded as if they were. -/
theorem ofScaled?_eq (negative : Bool) (coefficient : Nat) (exponent : Int) :
    Binary64.ofScaled? ⟨negative, coefficient, exponent⟩ = Binary64.ofRank? negative
      (nearestRank (unitsOf (coefficient * 10 ^ exponent.toNat)) (10 ^ (-exponent).toNat)) := by
  have zero : Binary64.ofRank? negative 0 = some ⟨negative, 0, by decide⟩ := rfl
  have positive : 0 < 10 ^ (-exponent).toNat := Nat.pow_pos (by decide)
  simp only [Binary64.ofScaled?]
  split
  next none =>
    have nothing : unitsOf (coefficient * 10 ^ exponent.toNat) = 0 := by
      rw [none, Nat.zero_mul]
      exact Nat.zero_mul (2 ^ 1074)
    rw [nothing, nearestRank_eq_zero (by omega), zero]
  next some =>
    split
    next great =>
      have whole : (-exponent).toNat = 0 := by omega
      have infinite : ¬ nearestRank (unitsOf (coefficient * 10 ^ exponent.toNat)) 1 < rankLimit := by
        rw [nearestRank_lt_iff _ Nat.one_pos, Nat.mul_one, Nat.not_lt]
        exact outOfReach_le (Nat.pos_of_ne_zero some) (by omega)
      rw [whole, Nat.pow_zero, Binary64.ofRank?, dif_neg infinite]
    next =>
      split
      next small =>
        have whole : exponent.toNat = 0 := by omega
        rw [whole, Nat.pow_zero, Nat.mul_one, nearestRank_eq_zero (nothing_left (by omega)), zero]
      next =>
        split
        next up =>
          rw [show (-exponent).toNat = 0 by omega, Nat.pow_zero]
          rfl
        next down =>
          rw [show exponent.toNat = 0 by omega, Nat.pow_zero, Nat.mul_one]
          rfl

theorem nearestRank_lt_of_short {magnitude : Nat} (short : magnitude < 2 ^ 65) :
    nearestRank (unitsOf magnitude) 1 < rankLimit := by
  have grows {bits shift room : Nat} (below : magnitude < 2 ^ bits) (far : bits + shift ≤ room) :
      2 * (magnitude * 2 ^ shift) < 2 * ((2 ^ 54 - 1) * 2 ^ room) := by
    have shifted := Nat.mul_lt_mul_of_pos_right below (Nat.two_pow_pos shift)
    have wide : 2 ^ (bits + shift) ≤ 2 ^ room := Nat.pow_le_pow_right (by decide) far
    rw [Nat.pow_add] at wide
    omega
  rw [nearestRank_lt_iff _ Nat.one_pos, Nat.mul_one, outOfReach_eq]
  exact @grows 65 1074 2044 short (by decide)

theorem ofInt_eq {number : Int} (short : number.natAbs < 2 ^ 65) :
    Binary64.ofInt number =
      ⟨number < 0, nearestRank (unitsOf number.natAbs) 1, nearestRank_lt_of_short short⟩ :=
  dif_pos (nearestRank_lt_of_short short)

end ResourceQuery.Proofs.Ranks
