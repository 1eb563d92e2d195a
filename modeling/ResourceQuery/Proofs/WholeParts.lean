import Mathlib.Data.Nat.Log
import Mathlib.Data.Rat.Floor
import ResourceQuery.Proofs.Rounding
import ResourceQuery.Request.Intent

/-! Whole parts. Numbers are cut to whole ones toward zero, and to words of 64 bits. A number that is rounded to
binary64 before it is cut keeps its whole part, unless the next whole number is within a rounding error. -/

namespace ResourceQuery.Proofs.WholeParts
open Number Ranks Rounding

def towardZero (number : ℚ) : Int :=
  if number < 0 then ⌈number⌉ else ⌊number⌋

def cut (number : ℚ) : Int :=
  Intent.saturate (towardZero number)

private theorem towardZero_le {smaller greater : ℚ} (ordered : smaller ≤ greater) :
    towardZero smaller ≤ towardZero greater := by
  unfold towardZero
  split
  next below =>
    split
    next => exact Int.ceil_le_ceil ordered
    next above =>
      calc ⌈smaller⌉ ≤ 0 := Int.ceil_le.mpr (by exact_mod_cast le_of_lt below)
        _ ≤ ⌊greater⌋ := Int.floor_nonneg.mpr (not_lt.mp above)
  next above =>
    rw [if_neg (not_lt.mpr (le_trans (not_lt.mp above) ordered))]
    exact Int.floor_le_floor ordered

private theorem towardZero_intCast (number : Int) : towardZero number = number := by
  simp [towardZero]

theorem towardZero_signed (negative : Bool) {magnitude : ℚ} (positive : 0 ≤ magnitude) :
    towardZero (signed negative magnitude) = if negative then -⌊magnitude⌋ else ⌊magnitude⌋ := by
  unfold towardZero signed
  cases negative with
  | false => simp [not_lt.mpr positive]
  | true =>
    obtain rfl | some := eq_or_lt_of_le positive
    · simp
    · simp [some, Int.ceil_neg]

theorem cut_le {smaller greater : ℚ} (ordered : smaller ≤ greater) : cut smaller ≤ cut greater := by
  have whole := towardZero_le ordered
  unfold cut Intent.saturate
  omega

theorem great_of_not_word {number : Int} (beyond : ¬ Intent.IsWord number) :
    2 ^ 63 ≤ |(number : ℚ)| := by
  have great : 2 ^ 63 ≤ |number| := by
    simp only [Intent.IsWord, Intent.minWord, Intent.maxWord] at beyond
    rw [le_abs]
    omega
  exact_mod_cast great

theorem abs_le_of_word {number : Int} (word : Intent.IsWord number) : |(number : ℚ)| ≤ 2 ^ 63 := by
  have short : |number| ≤ 2 ^ 63 := by
    simp only [Intent.IsWord, Intent.minWord, Intent.maxWord] at word
    rw [abs_le]
    omega
  exact_mod_cast short

theorem cut_of_word {number : Int} (word : Intent.IsWord number) : cut number = number := by
  obtain ⟨low, high⟩ := word
  rw [cut, towardZero_intCast, Intent.saturate, min_eq_left high, max_eq_right low]

theorem truncate_eq (number : Binary64) : number.truncate = towardZero (value number) := by
  have magnitude : (0 : ℚ) ≤ rankUnits number.rank / unitsInOne :=
    div_nonneg (Nat.cast_nonneg _) (le_of_lt unitsInOne_pos)
  have power (bits : Nat) : ((Nat.pow 2 bits : Nat) : ℚ) = 2 ^ bits := by
    rw [Nat.pow_eq, Nat.cast_pow, Nat.cast_ofNat]
  rw [value_eq_signed, towardZero_signed _ magnitude]
  simp only [Binary64.truncate, Int.natCast_ediv, ← Rat.floor_natCast_div_natCast, power, unitsInOne]

/-! Numbers of the format -/

theorem rounded_le {smaller greater : ℚ} {low high : Binary64} (first : RoundsTo smaller low)
    (second : RoundsTo greater high) (ordered : smaller ≤ greater) : value low ≤ value high :=
  not_lt.mp fun crossed =>
    absurd (first.key_le second ordered) (Int.not_le.mpr (value_lt_iff.mp crossed))

private theorem exists_dyadic {significand places : Nat} (low : 2 ^ 52 ≤ significand)
    (high : significand ≤ 2 ^ 53) (few : places ≤ 53) :
    ∃ number, value number = significand / 2 ^ places := by
  obtain ⟨shift, sum⟩ : ∃ shift, 1074 = shift + places := ⟨1074 - places, by omega⟩
  have limit : rankLimit = 2047 * 2 ^ 52 := rfl
  refine ⟨⟨false, significand + shift * 2 ^ 52, by omega⟩, ?_⟩
  have units : unitsInOne = 2 ^ shift * 2 ^ places := by rw [unitsInOne, ← pow_add, sum]
  rw [value_eq_signed, rankUnits_normal low high, units, signed, if_neg Bool.false_ne_true,
    Nat.cast_mul, Nat.cast_pow, Nat.cast_ofNat, mul_comm _ ((2 : ℚ) ^ shift),
    mul_div_mul_left _ _ (by positivity)]

private theorem exists_places {whole : Nat} (some : 0 < whole) (short : whole ≤ 2 ^ 53) :
    ∃ places ≤ 53, 2 ^ 52 < whole * 2 ^ places ∧ whole * 2 ^ places ≤ 2 ^ 53 := by
  have few : Nat.clog 2 whole ≤ 53 := Nat.clog_le_of_le_pow short
  obtain ⟨places, sum⟩ : ∃ places, 53 = Nat.clog 2 whole + places := ⟨53 - Nat.clog 2 whole, by omega⟩
  have room : 2 ^ 53 = 2 ^ Nat.clog 2 whole * 2 ^ places := by rw [← pow_add, ← sum]
  refine ⟨places, by omega, ?_, ?_⟩
  · obtain rfl | more := Nat.eq_or_lt_of_le (Nat.succ_le_of_lt some)
    · rw [Nat.clog_one_right, Nat.zero_add] at sum
      rw [← sum]
      decide
    · have high := Nat.pow_pred_clog_lt_self (by decide : 1 < 2) more
      have half : 2 ^ 52 = 2 ^ (Nat.clog 2 whole).pred * 2 ^ places := by
        have longer := Nat.clog_pos (by decide : 1 < 2) more
        rw [← pow_add, Nat.pred_eq_sub_one]
        congr 1
        omega
      rw [half]
      exact Nat.mul_lt_mul_of_pos_right high (Nat.two_pow_pos places)
  · rw [room]
    exact Nat.mul_le_mul_right _ (Nat.le_pow_clog (by decide) whole)

theorem exists_whole {whole : Nat} (short : whole ≤ 2 ^ 53) : ∃ number, value number = whole := by
  obtain rfl | some := Nat.eq_zero_or_pos whole
  · refine ⟨.zero, ?_⟩
    rw [value_eq_signed, Binary64.zero, signed, if_neg Bool.false_ne_true, rankUnits_small (by decide),
      Nat.cast_zero, zero_div]
  · obtain ⟨places, few, low, high⟩ := exists_places some short
    obtain ⟨number, same⟩ := exists_dyadic (Nat.le_of_lt low) high few
    refine ⟨number, ?_⟩
    rw [same, Nat.cast_mul, Nat.cast_pow, Nat.cast_ofNat, mul_div_cancel_right₀ _ (by positivity)]

private theorem exists_below {whole : Nat} (some : 0 < whole) (short : whole ≤ 2 ^ 53) :
    ∃ number, value number < whole ∧ whole - value number ≤ value number / 2 ^ 52 := by
  obtain ⟨places, few, low, high⟩ := exists_places some short
  obtain ⟨significand, next⟩ := Nat.exists_eq_add_of_lt low
  have steps : (0 : ℚ) < 2 ^ places := by positivity
  obtain ⟨number, same⟩ := exists_dyadic (Nat.le_add_right (2 ^ 52) significand) (by omega) few
  have cast : (whole : ℚ) = (((2 ^ 52 + significand : Nat) : ℚ) + 1) / 2 ^ places := by
    rw [eq_div_iff (ne_of_gt steps)]
    exact_mod_cast next
  have long : (1 : ℚ) ≤ ((2 ^ 52 + significand : Nat) : ℚ) / 2 ^ 52 := by
    rw [le_div_iff₀ (by norm_num), one_mul]
    exact_mod_cast Nat.le_add_right (2 ^ 52) significand
  refine ⟨number, ?_, ?_⟩
  · rw [same, cast, div_lt_div_iff_of_pos_right steps]
    exact lt_add_one _
  · rw [same, cast, ← sub_div, add_sub_cancel_left, div_right_comm, div_le_div_iff_of_pos_right steps]
    exact long

/-! Rounded numbers -/

theorem lt_overflow {number : ℚ} (short : |number| ≤ 2 ^ 63) : |number| < overflow := by
  have great : (2 : ℚ) ^ 63 ≤ 2 ^ 970 := pow_le_pow_right₀ (by norm_num) (by norm_num)
  have split : (2 : ℚ) ^ 1024 = 2 ^ 54 * 2 ^ 970 := pow_add 2 54 970
  rw [overflow, split]
  generalize (2 : ℚ) ^ 970 = power at great ⊢
  norm_num at short great ⊢
  linarith

section

variable {number : ℚ} {rounded : Binary64}

/-- No whole number beyond the number is within a rounding error. -/
def Clear (number : ℚ) : Prop :=
  |number| + |number| / 2 ^ 53 < ⌊|number|⌋ + 1

theorem le_value_of_le {whole : Nat} (short : whole ≤ 2 ^ 53) (rounds : RoundsTo number rounded)
    (below : whole ≤ number) : whole ≤ value rounded := by
  obtain ⟨exact, same⟩ := exists_whole short
  rw [← same] at below ⊢
  exact rounded_le (roundsTo_value exact) rounds below

private theorem value_lt_of_clear {whole : Nat} (some : 0 < whole) (short : whole ≤ 2 ^ 53)
    (rounds : RoundsTo number rounded) (clear : number + number / 2 ^ 53 < whole) :
    value rounded < whole := by
  by_contra reached
  obtain ⟨below, before, near⟩ := exists_below some short
  have apart : value below < value rounded := lt_of_lt_of_le before (not_lt.mp reached)
  -- The number is past the middle between the two, so it is nearer to the whole number than that.
  have past := (nearer_iff apart).mp (rounds.nearest below)
  linarith

theorem floor_value (rounds : RoundsTo number rounded) (positive : 0 ≤ number) (clear : Clear number) :
    ⌊value rounded⌋ = ⌊number⌋ := by
  rw [Clear, abs_of_nonneg positive] at clear
  have below := Int.floor_le number
  obtain ⟨whole, same⟩ := Int.eq_ofNat_of_zero_le (Int.floor_nonneg.mpr positive)
  rw [same, Int.cast_natCast] at clear below
  have short : whole < 2 ^ 53 := by
    have cast : (whole : ℚ) < 2 ^ 53 := by linarith
    exact_mod_cast cast
  rw [same, Int.floor_eq_iff, Int.cast_natCast]
  refine ⟨le_value_of_le (Nat.le_of_lt short) rounds below, ?_⟩
  have next := value_lt_of_clear (Nat.succ_pos whole) short rounds (by rwa [Nat.cast_succ])
  rwa [Nat.cast_succ] at next

end

private theorem towardZero_ends : towardZero (value (Binary64.ofInt (2 ^ 63))) = 2 ^ 63 ∧
    towardZero (value (Binary64.ofInt (-2 ^ 63))) = -2 ^ 63 := by
  rw [← truncate_eq, ← truncate_eq]
  decide +kernel

/-- A number beyond the words is cut to the outermost word, be it rounded or not. -/
theorem cut_value_of_great {number : ℚ} {rounded : Binary64} (rounds : RoundsTo number rounded)
    (great : 2 ^ 63 ≤ |number|) : cut (value rounded) = cut number := by
  obtain ⟨top, bottom⟩ := towardZero_ends
  simp only [cut, Intent.saturate, Intent.minWord, Intent.maxWord]
  rcases le_abs.mp great with above | below
  · have ordered : ((2 ^ 63 : Int) : ℚ) ≤ number := by exact_mod_cast above
    have exact := towardZero_le ordered
    have nearest := towardZero_le (rounded_le (roundsTo_ofInt (by decide)) rounds ordered)
    rw [towardZero_intCast] at exact
    rw [top] at nearest
    omega
  · have ordered : number ≤ ((-2 ^ 63 : Int) : ℚ) := by
      push_cast
      linarith
    have exact := towardZero_le ordered
    have nearest := towardZero_le (rounded_le rounds (roundsTo_ofInt (by decide)) ordered)
    rw [towardZero_intCast] at exact
    rw [bottom] at nearest
    omega

end ResourceQuery.Proofs.WholeParts
