import ResourceQuery.Proofs.OwnTexts

/-! The order of cells. A cell ties with itself and swapping two cells swaps their order, but three cells
can run in a circle: numbers are compared by value with each other and by text with anything else, and
integers are compared exactly with each other and as they are rounded with other numbers. There are no
other circles. -/

namespace ResourceQuery.Proofs.CellOrder
open NumericBounds OwnTexts Rounding

section Numbers

variable {left right first second third : Json.Number}

theorem order_signed {value other : Int} (signed : left.signed? = some value)
    (signed' : right.signed? = some other) : left.order right = compare value other := by
  simp only [Json.Number.order, signed, signed']

theorem order_rounded (inexact : left.signed? = none ∨ right.signed? = none) :
    left.order right = compare left.toBinary64.key right.toBinary64.key := by
  unfold Json.Number.order
  split
  next signed signed' => simp [signed, signed'] at inexact
  next => rfl

private theorem numberValue_signed {number : Json.Number} {value : Int} (signed : number.signed? = some value) :
    numberValue number = value := by
  cases number with
  | integer held fits =>
    simp only [Json.Number.signed?] at signed
    split at signed
    next => cases signed; rfl
    next => cases signed
  | real held => cases signed

private theorem key_le_of_isLE (ordered : (left.order right).isLE) :
    left.toBinary64.key ≤ right.toBinary64.key := by
  cases signed : left.signed? with
  | none => rwa [order_rounded (.inl signed), Int.isLE_compare] at ordered
  | some value =>
    cases signed' : right.signed? with
    | none => rwa [order_rounded (.inr signed'), Int.isLE_compare] at ordered
    | some other =>
      rw [order_signed signed signed', Int.isLE_compare] at ordered
      apply (roundsTo_toBinary64 left).key_le (roundsTo_toBinary64 right)
      rw [numberValue_signed signed, numberValue_signed signed']
      exact_mod_cast ordered

private theorem number_order_self (number : Json.Number) : number.order number = .eq := by
  unfold Json.Number.order
  split
  next value other signed signed' =>
    obtain rfl : value = other := Option.some.inj (signed.symm.trans signed')
    exact Std.ReflCmp.compare_self
  next => exact compare_eq_iff_eq.mpr rfl

private theorem number_order_swap (left right : Json.Number) : right.order left = (left.order right).swap := by
  cases signed : left.signed? with
  | none =>
    rw [order_rounded (.inl signed), order_rounded (.inr signed)]
    exact Std.OrientedCmp.eq_swap
  | some value =>
    cases signed' : right.signed? with
    | none =>
      rw [order_rounded (.inr signed'), order_rounded (.inl signed')]
      exact Std.OrientedCmp.eq_swap
    | some other =>
      rw [order_signed signed signed', order_signed signed' signed]
      exact Std.OrientedCmp.eq_swap

/-- Two integers, the greater one first, and between them a number that both of them round to but that
is no integer of 63 bits and a sign. -/
structure Rounded (first second third : Json.Number) : Prop where
  integers : ∃ greater smaller, first.signed? = some greater ∧ third.signed? = some smaller ∧
    smaller < greater
  inexact : second.signed? = none
  down : first.toBinary64.key = second.toBinary64.key
  up : second.toBinary64.key = third.toBinary64.key

/-- Rounding is the only reason why numbers run in a circle. -/
theorem rounded_iff : Rounded first second third ↔
    (first.order second).isLE ∧ (second.order third).isLE ∧ first.order third = .gt := by
  constructor
  · rintro ⟨⟨greater, smaller, signed, signed', apart⟩, inexact, down, up⟩
    rw [order_rounded (.inr inexact), order_rounded (.inl inexact), order_signed signed signed',
      Int.isLE_compare, Int.isLE_compare, Int.compare_eq_gt]
    exact ⟨le_of_eq down, le_of_eq up, apart⟩
  · rintro ⟨before, after, reversed⟩
    have below := key_le_of_isLE before
    have above := key_le_of_isLE after
    have exact : ∃ greater smaller, first.signed? = some greater ∧ third.signed? = some smaller := by
      cases signed : first.signed? with
      | none =>
        rw [order_rounded (.inl signed), Int.compare_eq_gt] at reversed
        omega
      | some greater =>
        cases signed' : third.signed? with
        | none =>
          rw [order_rounded (.inr signed'), Int.compare_eq_gt] at reversed
          omega
        | some smaller => exact ⟨greater, smaller, rfl, rfl⟩
    obtain ⟨greater, smaller, signed, signed'⟩ := exact
    have same : third.toBinary64.key ≤ first.toBinary64.key := by
      apply key_le_of_isLE
      rw [number_order_swap, reversed]
      rfl
    rw [order_signed signed signed', Int.compare_eq_gt] at reversed
    refine ⟨⟨greater, smaller, signed, signed', reversed⟩, ?_, by omega, by omega⟩
    cases middle : second.signed? with
    | none => rfl
    | some value =>
      rw [order_signed signed middle, Int.isLE_compare] at before
      rw [order_signed middle signed', Int.isLE_compare] at after
      omega

end Numbers

/-- Cells that compare by text with everything but null. -/
structure Worded (cell : Json) : Prop where
  some : cell ≠ .null
  unnumbered : ∀ number, cell ≠ .number number

private theorem number_or_worded {cell : Json} (some : cell ≠ .null) :
    (∃ number, cell = .number number) ∨ Worded cell := by
  by_cases numbered : ∃ number, cell = .number number
  · exact .inl numbered
  · exact .inr ⟨some, fun number same => numbered ⟨number, same⟩⟩

private theorem order_null_left {cell : Json} (some : cell ≠ .null) : Json.order .null cell = .gt := by
  cases cell
  case null => exact (some rfl).elim
  all_goals rfl

private theorem eq_null_of_isLE {cell : Json} (ordered : (Json.order .null cell).isLE) : cell = .null := by
  by_contra some
  rw [order_null_left some] at ordered
  cases ordered

private theorem order_bool (left right : Bool) :
    compare left right = Text.order (Json.bool left).plainText (Json.bool right).plainText := by
  cases left <;> cases right <;> decide

private theorem order_worded {left right : Json} (some : left ≠ .null) (some' : right ≠ .null)
    (worded : Worded left ∨ Worded right) :
    left.order right = Text.order left.plainText right.plainText := by
  cases left <;> cases right
  case null.null | null.bool | null.number | null.string | null.array | null.object =>
    exact (some rfl).elim
  case bool.null | number.null | string.null | array.null | object.null => exact (some' rfl).elim
  case number.number left right =>
    exact (worded.elim (·.unnumbered left rfl) (·.unnumbered right rfl)).elim
  case bool.bool left right => exact order_bool left right
  all_goals rfl

private theorem order_number_worded (number : Json.Number) {word : Json} (worded : Worded word) :
    Json.order (.number number) word = Text.order number.text word.plainText ∧
      word.order (.number number) = Text.order word.plainText number.text := by
  have some : Json.number number ≠ .null := by simp
  rw [order_worded some worded.some (.inr worded), order_worded worded.some some (.inl worded),
    plainText_number]
  exact ⟨rfl, rfl⟩

theorem order_self (cell : Json) : cell.order cell = .eq := by
  by_cases none : cell = .null
  · subst none
    rfl
  · rcases number_or_worded none with ⟨number, rfl⟩ | worded
    · exact number_order_self number
    · rw [order_worded none none (.inl worded)]
      exact Std.ReflCmp.compare_self

theorem order_swap (left right : Json) : right.order left = (left.order right).swap := by
  by_cases none : left = .null
  · subst none
    cases right <;> rfl
  by_cases none' : right = .null
  · subst none'
    cases left <;> rfl
  have text (worded : Worded left ∨ Worded right) : right.order left = (left.order right).swap := by
    rw [order_worded none' none worded.symm, order_worded none none' worded]
    exact Std.OrientedCmp.eq_swap
  rcases number_or_worded none with ⟨number, rfl⟩ | worded
  · rcases number_or_worded none' with ⟨other, rfl⟩ | worded
    · exact number_order_swap number other
    · exact text (.inr worded)
  · exact text (.inl worded)

/-- Three cells, each no later than the next, of which the last comes before the first: integers around a
number that they are rounded to, or two numbers in order and a cell that stands between their texts, which
are in the other order. -/
inductive Circle : Json → Json → Json → Prop where
  | numbers {first second third : Json.Number} (rounded : Rounded first second third) :
      Circle (.number first) (.number second) (.number third)
  | between {low high : Json.Number} {word : Json} (worded : Worded word) (ordered : low.order high = .lt)
      (above : (Text.order high.text word.plainText).isLE)
      (below : (Text.order word.plainText low.text).isLE) :
      Circle (.number high) word (.number low)
  | behind {low high : Json.Number} {word : Json} (worded : Worded word)
      (ordered : (low.order high).isLE) (above : (Text.order high.text word.plainText).isLE)
      (below : Text.order word.plainText low.text = .lt) :
      Circle (.number low) (.number high) word
  | before {low high : Json.Number} {word : Json} (worded : Worded word)
      (ordered : (low.order high).isLE) (above : Text.order high.text word.plainText = .lt)
      (below : (Text.order word.plainText low.text).isLE) :
      Circle word (.number low) (.number high)

section Circles

variable {first second third : Json}

theorem gt_of_order_lt {left right : Json} (after : right.order left = .lt) : left.order right = .gt := by
  rw [order_swap, after]
  rfl

theorem Circle.runs (circle : Circle first second third) :
    (first.order second).isLE ∧ (second.order third).isLE ∧ first.order third = .gt := by
  cases circle with
  | numbers rounded => exact rounded_iff.mp rounded
  | between worded ordered above below =>
    rw [(order_number_worded _ worded).1, (order_number_worded _ worded).2]
    exact ⟨above, below, gt_of_order_lt ordered⟩
  | behind worded ordered above below =>
    have turned := (order_number_worded _ worded).2.trans below
    rw [(order_number_worded _ worded).1]
    exact ⟨ordered, above, gt_of_order_lt turned⟩
  | before worded ordered above below =>
    have turned := (order_number_worded _ worded).1.trans above
    rw [(order_number_worded _ worded).2]
    exact ⟨below, ordered, gt_of_order_lt turned⟩

/-- Texts do not run in a circle, so no cells do that compare by text alone. -/
private theorem isLE_of_worded (some : first ≠ .null) (some' : second ≠ .null) (some'' : third ≠ .null)
    (worded : Worded first ∨ Worded second) (worded' : Worded second ∨ Worded third)
    (worded'' : Worded first ∨ Worded third) (before : (first.order second).isLE)
    (after : (second.order third).isLE) : (first.order third).isLE := by
  rw [order_worded some some' worded] at before
  rw [order_worded some' some'' worded'] at after
  rw [order_worded some some'' worded'']
  exact Std.TransCmp.isLE_trans before after

theorem circle_of_runs (before : (first.order second).isLE) (after : (second.order third).isLE)
    (reversed : first.order third = .gt) : Circle first second third := by
  have some'' : third ≠ .null := by
    rintro rfl
    cases first <;> cases reversed
  have some' : second ≠ .null := by
    rintro rfl
    exact some'' (eq_null_of_isLE after)
  have some : first ≠ .null := by
    rintro rfl
    exact some' (eq_null_of_isLE before)
  have text (worded : Worded first ∨ Worded second) (worded' : Worded second ∨ Worded third)
      (worded'' : Worded first ∨ Worded third) : Circle first second third := by
    have ordered := isLE_of_worded some some' some'' worded worded' worded'' before after
    rw [reversed] at ordered
    cases ordered
  have turned : third.order first = .lt := by
    rw [order_swap, reversed]
    rfl
  rcases number_or_worded some with ⟨low, rfl⟩ | worded <;>
    rcases number_or_worded some' with ⟨middle, rfl⟩ | worded' <;>
    rcases number_or_worded some'' with ⟨high, rfl⟩ | worded''
  · exact .numbers (rounded_iff.mpr ⟨before, after, reversed⟩)
  · rw [(order_number_worded _ worded'').1] at after
    rw [(order_number_worded _ worded'').2] at turned
    exact .behind worded'' before after turned
  · rw [(order_number_worded _ worded').1] at before
    rw [(order_number_worded _ worded').2] at after
    exact .between worded' turned before after
  · exact text (.inr worded') (.inl worded') (.inr worded'')
  · rw [(order_number_worded _ worded).2] at before
    rw [(order_number_worded _ worded).1] at turned
    exact .before worded after turned before
  · exact text (.inl worded) (.inr worded'') (.inl worded)
  · exact text (.inl worded) (.inl worded') (.inl worded)
  · exact text (.inl worded) (.inl worded') (.inl worded)

/-- Cells run in a circle in these ways and in no other. -/
theorem circle_iff : Circle first second third ↔
    (first.order second).isLE ∧ (second.order third).isLE ∧ first.order third = .gt :=
  ⟨Circle.runs, fun ⟨before, after, reversed⟩ => circle_of_runs before after reversed⟩

instance : Decidable (Circle first second third) :=
  decidable_of_iff _ circle_iff.symm

end Circles

end ResourceQuery.Proofs.CellOrder
