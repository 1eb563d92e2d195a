import ResourceQuery.Proofs.SortedBounds

/-! The order of integers. Two integers compare as they are, with each other and with operands, unless one of
them is beyond the signed 64-bit integers and both round to one binary64 number: these tie. -/

namespace ResourceQuery.Proofs.IntegerOrder
open CellOrder Filtering NumericBounds Number Rounding SortedBounds

/-- Two integers that are told apart no more than what they are rounded to. -/
structure Merged (left right : Int) : Prop where
  beyond : Intent.maxWord < left ∨ Intent.maxWord < right
  alike : Alike left right

/-- An order of two integers: their own, or a tie where they are merged. -/
def OrderedBut (left right : Int) (order : Ordering) : Prop :=
  (Merged left right → order = .eq) ∧ (¬ Merged left right → order = compare left right)

theorem OrderedBut.eq_iff {left right : Int} {order : Ordering} (ordered : OrderedBut left right order) :
    order = .eq ↔ left = right ∨ Merged left right := by
  by_cases merged : Merged left right
  · exact iff_of_true (ordered.1 merged) (.inr merged)
  · rw [ordered.2 merged, compare_eq_iff_eq, or_iff_left merged]

private theorem compare_rounded {left right : Int} {low high : Binary64} (first : RoundsTo left low)
    (second : RoundsTo right high) :
    (Alike left right → compare low.key high.key = .eq) ∧
      (¬ Alike left right → compare low.key high.key = compare left right) := by
  have upTo := first.key_le_iff second
  have back := second.key_le_iff first
  rw [Int.cast_le] at upTo back
  constructor
  · intro alike
    have below : low.key ≤ high.key := upTo.mpr (.inr alike)
    have above : high.key ≤ low.key := back.mpr (.inr alike.symm)
    exact compare_eq_iff_eq.mpr (Int.le_antisymm below above)
  · intro apart
    rw [or_iff_left apart] at upTo
    rw [or_iff_left fun alike => apart alike.symm] at back
    rcases Int.lt_trichotomy left right with before | same | after
    · rw [compare_lt_iff_lt.mpr before, compare_lt_iff_lt]
      omega
    · rw [compare_eq_iff_eq.mpr same, compare_eq_iff_eq]
      omega
    · rw [compare_gt_iff_gt.mpr after, compare_gt_iff_gt]
      omega

private theorem orderedBut_order {left right : Int} (fits : Json.FitsInteger left)
    (fits' : Json.FitsInteger right) :
    OrderedBut left right (Json.Number.order (.integer left fits) (.integer right fits')) := by
  have signed {value : Int} (fits : Json.FitsInteger value) (short : value ≤ Intent.maxWord) :
      (Json.Number.integer value fits).signed? = some value := if_pos short
  have unsigned {value : Int} (fits : Json.FitsInteger value) (long : Intent.maxWord < value) :
      (Json.Number.integer value fits).signed? = none := if_neg (not_le.mpr long)
  by_cases beyond : Intent.maxWord < left ∨ Intent.maxWord < right
  · have rounded := order_rounded (beyond.imp (unsigned fits) (unsigned fits'))
    obtain ⟨tie, apart⟩ := compare_rounded (roundsTo_toBinary64 (.integer left fits))
      (roundsTo_toBinary64 (.integer right fits'))
    rw [rounded]
    constructor
    · exact fun merged => tie merged.alike
    · intro distinct
      apply apart
      exact fun alike => distinct ⟨beyond, alike⟩
  · have exact : ¬ Merged left right := fun merged => beyond merged.beyond
    simp only [not_or, not_lt] at beyond
    rw [order_signed (signed fits beyond.1) (signed fits' beyond.2)]
    exact ⟨fun merged => absurd merged exact, fun _ => rfl⟩

private theorem orderedBut_orderInt {left operand : Int} (fits : Json.FitsInteger left)
    (word : Intent.IsWord operand) :
    OrderedBut left operand (Json.Number.orderInt (.integer left fits) operand) := by
  have fits' : Json.FitsInteger operand := by
    obtain ⟨low, high⟩ := word
    simp only [Intent.minWord, Intent.maxWord] at low high
    exact ⟨low, by omega⟩
  have held : Json.Number.ofInt operand = .integer operand fits' := dif_pos fits'
  rw [order_ofInt _ word, held]
  exact orderedBut_order fits fits'

/-- Two integers, and an integer with an operand, compare as integers unless they are merged. So integers tie
in a sort, and are found by a filter, if they are equal or merged, and not otherwise. -/
theorem integers_are_in_order_unless_merged (left right operand : Int) (fits : Json.FitsInteger left)
    (fits' : Json.FitsInteger right) (word : Intent.IsWord operand) :
    let cell : Json := .number (.integer left fits)
    let other : Json := .number (.integer right fits')
    OrderedBut left right (cell.order other) ∧
      (∃ order, cell.orderOperand? (.integer operand) = some order ∧ OrderedBut left operand order) ∧
      (∀ (field : SortField) (first second : Row),
        first.get field.column = cell → second.get field.column = other →
        (field.order first second = .eq ↔ left = right ∨ Merged left right)) ∧
      (∀ (column : String) (row : Row), row.get column = cell →
        (Predicate.holds row ⟨column, .eq, [.integer operand]⟩ = true ↔
          left = operand ∨ Merged left operand)) := by
  intro cell other
  have ordered : OrderedBut left right (cell.order other) := orderedBut_order fits fits'
  have compared : OrderedBut left operand (Json.Number.orderInt (.integer left fits) operand) :=
    orderedBut_orderInt fits word
  refine ⟨ordered, ⟨_, rfl, compared⟩, ?_, ?_⟩
  · intro field first second held held'
    rw [← ordered.eq_iff, SortField.order, held, held']
    cases field.direction with
    | ascending => exact .rfl
    | descending => exact Ordering.swap_eq_eq
  · intro column row held
    rw [← compared.eq_iff]
    refine (compares_iff _ _ _).trans ?_
    rw [held]
    simp [cell, Json.orderOperand?]

/-- Signed 64-bit integers are never merged, even where both round to one number. -/
theorem rounded_alike_but_told_apart :
    let cell : Json := .ofInt 9007199254740993
    let other : Json := .ofInt 9007199254740992
    (Json.FitsInteger 9007199254740993 ∧ Json.FitsInteger 9007199254740992 ∧
        Intent.IsWord 9007199254740992) ∧
      cell.order other = .gt ∧ cell.orderOperand? (.integer 9007199254740992) = some .gt ∧
      ¬ SortField.order ⟨"n", .descending⟩ [("n", cell)] [("n", other)] = .eq ∧
      ¬ Predicate.holds [("n", cell)] ⟨"n", .eq, [.integer 9007199254740992]⟩ = true := by
  intro cell other
  have fits : Json.FitsInteger 9007199254740993 := by decide
  have fits' : Json.FitsInteger 9007199254740992 := by decide
  have word : Intent.IsWord 9007199254740992 := by decide
  have distinct : ¬ Merged 9007199254740993 9007199254740992 := by
    intro merged
    have beyond := merged.beyond
    revert beyond
    decide
  obtain ⟨ordered, ⟨order, compared, exact⟩, tie, found⟩ :=
    integers_are_in_order_unless_merged 9007199254740993 9007199254740992 9007199254740992 fits fits' word
  have greater : order = .gt := exact.2 distinct
  rw [greater] at compared
  refine ⟨⟨fits, fits', word⟩, ordered.2 distinct, compared, ?_, ?_⟩
  · rw [tie ⟨"n", .descending⟩ [("n", cell)] [("n", other)] rfl rfl]
    exact fun either => either.elim (by decide) distinct
  · rw [found "n" [("n", cell)] rfl]
    exact fun either => either.elim (by decide) distinct

/-- Integers of 64 bits, signed or unsigned, compare as they are. -/
def CellsCompareExactly : Prop :=
  ∀ (left right : Int) (fits : Json.FitsInteger left) (fits' : Json.FitsInteger right),
    Json.order (.number (.integer left fits)) (.number (.integer right fits')) = compare left right

/-- Such integers compare with operands as they are. -/
def OperandsCompareExactly : Prop :=
  ∀ (left operand : Int) (fits : Json.FitsInteger left), Intent.IsWord operand →
    Json.orderOperand? (.number (.integer left fits)) (.integer operand) = some (compare left operand)

/-- Beyond the signed integers neighbours tie, and the first of them is found as the greatest signed one. -/
theorem unsigned_integers_tie : ¬ CellsCompareExactly ∧ ¬ OperandsCompareExactly := by
  constructor
  · intro exact
    have ordered := exact 9223372036854775809 9223372036854775808 (by decide) (by decide)
    revert ordered
    decide +kernel
  · intro exact
    have compared := exact 9223372036854775808 9223372036854775807 (by decide) (by decide)
    revert compared
    decide +kernel

end ResourceQuery.Proofs.IntegerOrder
