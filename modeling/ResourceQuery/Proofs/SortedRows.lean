import ResourceQuery.Proofs.CellOrder
import ResourceQuery.Proofs.StableSorts

/-! Sorted rows. As long as no cells of a column that is sorted by run in a circle, the rows are in a total
preorder: sorting brings them in order, and rows that are in order stay as they were. -/

namespace ResourceQuery.Proofs.SortedRows
open CellOrder StableSorts

variable {rows : List Row}

def CircleFree (column : String) (rows : List Row) : Prop :=
  ∀ first ∈ rows, ∀ second ∈ rows, ∀ third ∈ rows,
    ¬ Circle (first.get column) (second.get column) (third.get column)

instance (column : String) (rows : List Row) : Decidable (CircleFree column rows) :=
  inferInstanceAs (Decidable (∀ first ∈ rows, ∀ second ∈ rows, ∀ third ∈ rows, ¬ Circle ..))

theorem field_order_eq (field : SortField) (left right : Row) :
    field.order left right = match field.direction with
      | .ascending => (left.get field.column).order (right.get field.column)
      | .descending => (right.get field.column).order (left.get field.column) := by
  obtain ⟨column, direction⟩ := field
  cases direction with
  | ascending => rfl
  | descending => exact (order_swap _ _).symm

private theorem coherent_field {field : SortField} (free : CircleFree field.column rows) :
    Coherent field.order rows := by
  have trans {first second third : Row} (member : first ∈ rows) (member' : second ∈ rows)
      (member'' : third ∈ rows)
      (before : ((first.get field.column).order (second.get field.column)).isLE)
      (after : ((second.get field.column).order (third.get field.column)).isLE) :
      ((first.get field.column).order (third.get field.column)).isLE := by
    rw [Ordering.isLE_iff_ne_gt]
    intro reversed
    exact free first member second member' third member'' (circle_of_runs before after reversed)
  obtain ⟨column, direction⟩ := field
  refine @Std.TransCmp.mk _ _ ⟨?_⟩ ?_
  · intro left right
    simp only [field_order_eq]
    cases direction <;> exact order_swap _ _
  · intro first second third before after
    simp only [field_order_eq] at before after ⊢
    cases direction with
    | ascending => exact trans first.2 second.2 third.2 before after
    | descending => exact trans third.2 second.2 first.2 after before

theorem coherent_orderAll {fields : List SortField}
    (free : ∀ field ∈ fields, CircleFree field.column rows) :
    Coherent (SortField.orderAll fields) rows := by
  induction fields with
  | nil => exact coherent_unsorted rows
  | cons field rest ih =>
    obtain ⟨first, others⟩ := List.forall_mem_cons.mp free
    have : Std.TransCmp fun left right : { row // row ∈ rows } => field.order left right :=
      coherent_field first
    have : Std.TransCmp fun left right : { row // row ∈ rows } =>
        SortField.orderAll rest left right := ih others
    exact inferInstanceAs (Std.TransCmp (compareLex
      (fun left right : { row // row ∈ rows } => field.order left right)
      (fun left right : { row // row ∈ rows } => SortField.orderAll rest left right)))

/-- Cells tie with themselves, swap their order when they are swapped, and are in a total preorder but
for those that run in a circle. Over columns without such cells all stable sorts come to the same rows:
there are the same rows as before, no row stands before one that it comes after, and rows that are in order
stay as they were. -/
theorem cells_are_in_order_but_in_circles (first second third : Json) (fields : List SortField)
    (rows : List Row) :
    first.order first = .eq ∧
    second.order first = (first.order second).swap ∧
    ((first.order second).isLE → (second.order third).isLE →
      ((first.order third).isLE ↔ ¬ Circle first second third)) ∧
    ((∀ field ∈ fields, CircleFree field.column rows) →
      (∀ sort, Stable sort → sortBy sort fields rows = some (sortRows fields rows)) ∧
      (sortRows fields rows).Perm rows ∧
      ((sortRows fields rows).Pairwise fun earlier later =>
        (SortField.orderAll fields earlier later).isLE) ∧
      ∀ earlier later, [earlier, later].Sublist rows →
        SortField.orderAll fields later earlier ≠ .lt →
        [earlier, later].Sublist (sortRows fields rows)) := by
  refine ⟨order_self first, order_swap first second, ?_, fun free => ?_⟩
  · intro before after
    rw [circle_iff, Ordering.isLE_iff_ne_gt]
    exact not_congr ⟨fun reversed => ⟨before, after, reversed⟩, fun circle => circle.2.2⟩
  · have coherent := coherent_orderAll free
    have arranged := arranged_sortRows coherent
    exact ⟨fun sort stable => sortBy_eq stable coherent, arranged.perm, arranged.ordered,
      fun earlier later => arranged.keeps coherent⟩

/-- Integers that round to one number are told apart among cells of other kinds, too. -/
theorem great_integers_among_words :
    let rows : List Row := [[("n", .ofInt 9007199254740993)], [("n", .null)], [("n", .string "x")],
      [("n", .ofInt 9007199254740992)], [("n", .bool true)], []]
    CircleFree "n" rows ∧
      sortBy insertion [⟨"n", .descending⟩] rows = some (sortRows [⟨"n", .descending⟩] rows) ∧
      (sortRows [⟨"n", .descending⟩] rows).Pairwise fun earlier later =>
        (SortField.orderAll [⟨"n", .descending⟩] earlier later).isLE := by
  intro rows
  have free : CircleFree "n" rows := by decide +kernel
  obtain ⟨-, -, -, sorted⟩ :=
    cells_are_in_order_but_in_circles .null .null .null [⟨"n", .descending⟩] rows
  obtain ⟨same, -, ordered, -⟩ := sorted (by simpa using free)
  exact ⟨free, same insertion stable_insertion, ordered⟩

/-- The order of cells is a total preorder. -/
def IsPreorder : Prop :=
  (∀ cell : Json, cell.order cell = .eq) ∧
  (∀ left right : Json, right.order left = (left.order right).swap) ∧
  ∀ first second third : Json, (first.order second).isLE → (second.order third).isLE →
    (first.order third).isLE

/-- An integer ties with the number that it is rounded to, and so does the integer before it. -/
theorem great_integers_run_in_a_circle : ¬ IsPreorder := by
  rintro ⟨-, -, trans⟩
  have ordered := trans (.ofInt 9007199254740993) (.number (.real (.ofInt 9007199254740992)))
    (.ofInt 9007199254740992) (by decide +kernel) (by decide +kernel)
  revert ordered
  decide +kernel

end ResourceQuery.Proofs.SortedRows
