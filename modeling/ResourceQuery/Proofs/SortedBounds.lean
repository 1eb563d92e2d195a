import ResourceQuery.Proofs.CellOrder
import ResourceQuery.Proofs.ShownTimes
import ResourceQuery.Proofs.StoreComparisons

/-! Bounds on sorted rows. Rows are sorted by their cells alone, and filtered by the type of the column. Of two
rows in order, a lower bound lets the later one through if it lets the earlier one through, and an upper bound
the other way round, but for circles of integers that are rounded; where the type reads instants from texts,
the two orders are the same just as far as the texts are in the order of their instants. -/

namespace ResourceQuery.Proofs.SortedBounds
open Calendar CellOrder Filtering Number NumericBounds OwnTexts ShownTimes StoreComparisons

def instant? : Json → Option Instant
  | .string text => Instant.parse? text
  | _ => none

/-- The cells of the kind that a type stands for. A text stands for an instant if it is read as one. -/
def OfKind (type : ColumnType) (cell : Json) : Prop :=
  Suits type cell ∧ (type = .timestamp → (instant? cell).isSome)

/-- Of two rows, a lower bound that lets the first one through does so with the second, and an upper bound
that lets the second one through does so with the first. -/
structure Agree (column : String) (operand : Operand) (first second : Row) : Prop where
  lower : Predicate.holds first ⟨column, .gte, [operand]⟩ →
    Predicate.holds second ⟨column, .gte, [operand]⟩
  upper : Predicate.holds second ⟨column, .lte, [operand]⟩ →
    Predicate.holds first ⟨column, .lte, [operand]⟩

/-- The cell that an operand compares like. -/
def cellOf : Operand → Json
  | .bool value => .bool value
  | .integer value => .ofInt value
  | .float value => .number (.real value)
  | .text value => .string value
  | .timestamp value => .string value.text

/-- Two cells run in a circle with their bound. -/
def InCircle (first second : Json) (operand : Operand) : Prop :=
  Circle (cellOf operand) first second ∨ Circle first second (cellOf operand)

instance (first second : Json) (operand : Operand) : Decidable (InCircle first second operand) :=
  inferInstanceAs (Decidable (_ ∨ _))

section

variable {column : String} {operand : Operand} {first second : Row}

private theorem agree_of_compared {found found' : Ordering}
    (compared : (first.get column).orderOperand? operand = some found)
    (compared' : (second.get column).orderOperand? operand = some found')
    (lower : found.isGE → found'.isGE) (upper : found'.isLE → found.isLE) :
    Agree column operand first second := by
  constructor
  · intro holds
    obtain ⟨order, same, accepted⟩ := (compares_iff _ _ _).mp holds
    obtain rfl := Option.some.inj (compared.symm.trans same)
    exact (compares_iff _ _ _).mpr ⟨found', compared', lower accepted⟩
  · intro holds
    obtain ⟨order, same, accepted⟩ := (compares_iff _ _ _).mp holds
    obtain rfl := Option.some.inj (compared'.symm.trans same)
    exact (compares_iff _ _ _).mpr ⟨found, compared, upper accepted⟩

private theorem agree_of_clear
    (compared : (first.get column).orderOperand? operand =
      some ((first.get column).order (cellOf operand)))
    (compared' : (second.get column).orderOperand? operand =
      some ((second.get column).order (cellOf operand)))
    (ordered : ((first.get column).order (second.get column)).isLE)
    (clear : ¬ InCircle (first.get column) (second.get column) operand) :
    Agree column operand first second := by
  refine agree_of_compared compared compared' ?_ ?_
  · intro reached
    by_contra missed
    refine clear (.inl (circle_of_runs ?_ ordered ?_))
    · rw [order_swap, Ordering.isLE_swap]
      exact reached
    · rw [Ordering.isGE_iff_ne_lt, not_not] at missed
      exact gt_of_order_lt missed
  · intro reached
    by_contra missed
    refine clear (.inr (circle_of_runs ordered reached ?_))
    rwa [Ordering.isLE_iff_ne_gt, not_not] at missed

end

section

variable {type : ColumnType} {cell first second : Json} {raw : String}

theorem order_ofInt (number : Json.Number) {limit : Int} (word : Intent.IsWord limit) :
    number.orderInt limit = number.order (.ofInt limit) := by
  obtain ⟨low, high⟩ := word
  simp only [Intent.minWord, Intent.maxWord] at low high
  have fits : Json.FitsInteger limit := ⟨low, by omega⟩
  have held : Json.Number.ofInt limit = .integer limit fits := dif_pos fits
  have signed : (Json.Number.integer limit fits).signed? = some limit := if_pos high
  rw [held, Json.Number.orderInt, Json.Number.order, signed]
  cases number.signed? <;> rfl

private theorem isWord_of_coerce {limit : Int} (coerced : Operand.coerce .integer raw = .integer limit) :
    Intent.IsWord limit := by
  rw [Operand.coerce, Operand.read?] at coerced
  cases read : Intent.word? (Text.trim raw) with
  | none =>
    rw [read] at coerced
    cases coerced
  | some value =>
    rw [read] at coerced
    cases coerced
    exact isWord_of_word? read

private theorem compared_eq (suits : Suits type cell) (untimed : type ≠ .timestamp)
    (native : (Operand.coerce type raw).matchesType type) :
    cell.orderOperand? (.coerce type raw) = some (cell.order (cellOf (.coerce type raw))) := by
  generalize coerced : Operand.coerce type raw = operand at native ⊢
  cases suits with
  | integer number =>
    cases operand with
    | integer limit => exact congrArg some (order_ofInt number (isWord_of_coerce coerced))
    | _ => cases native
  | number number =>
    cases operand with
    | float limit =>
      have rounded : number.order (.real limit) = compare number.toBinary64.key limit.key :=
        order_rounded (.inr rfl)
      exact congrArg some rounded.symm
    | _ => cases native
  | boolean value =>
    cases operand with
    | bool limit => rfl
    | _ => cases native
  | text value =>
    cases operand with
    | text limit => rfl
    | _ => cases native
  | timestamp value => exact (untimed rfl).elim

private theorem rounded_of_circle {low middle high : Json.Number}
    (circle : Circle (.number low) (.number middle) (.number high)) : Rounded low middle high :=
  rounded_iff.mpr circle.runs

private theorem integer_of_circle (suits : Suits type first) (suits' : Suits type second)
    (untimed : type ≠ .timestamp) {operand : Operand} (native : operand.matchesType type)
    (circle : InCircle first second operand) : type = .integer := by
  cases suits with
  | integer number => rfl
  | number number =>
    cases suits' with
    | number other =>
      cases operand with
      | float limit =>
        rcases circle with circle | circle
        · obtain ⟨_, _, signed, -⟩ := (rounded_of_circle circle).integers
          cases signed
        · obtain ⟨_, _, -, signed, -⟩ := (rounded_of_circle circle).integers
          cases signed
      | _ => cases native
  | boolean value =>
    cases suits'
    cases operand with
    | bool limit => rcases circle with circle | circle <;> cases circle
    | _ => cases native
  | text value =>
    cases suits'
    cases operand with
    | text limit => rcases circle with circle | circle <;> cases circle
    | _ => cases native
  | timestamp value => exact (untimed rfl).elim

end

instance : Std.TransCmp Instant.order where
  eq_swap := by
    intro left right
    exact @Std.OrientedCmp.eq_swap _ (List.compareLex compare) _ left.fields right.fields
  isLE_trans := by
    intro first second third
    exact @Std.TransCmp.isLE_trans _ (List.compareLex compare) _ first.fields second.fields third.fields

section Instants

variable {column : String} {first second : Row} {left right : Instant}

private theorem orderOperand?_instant {cell : Json} {instant : Instant} (read : instant? cell = some instant)
    (limit : Instant) : cell.orderOperand? (.timestamp limit) = some (instant.order limit) := by
  cases cell with
  | string text =>
    rw [instant?] at read
    rw [Json.orderOperand?, read, Option.map_some]
  | _ => cases read

/-- Filters of instants follow the order of the rows just as far as this is the order of the instants. -/
private theorem agree_iff_ordered (read : instant? (first.get column) = some left)
    (read' : instant? (second.get column) = some right) :
    (∀ raw, (Operand.coerce .timestamp raw).matchesType .timestamp →
      Agree column (.coerce .timestamp raw) first second) ↔ (left.order right).isLE := by
  constructor
  · intro agree
    obtain ⟨text, same⟩ : ∃ text, first.get column = .string text := by
      cases cell : first.get column with
      | string text => exact ⟨text, rfl⟩
      | _ => rw [cell] at read; cases read
    -- The first row meets the bound that it is itself, so the second row meets it, too.
    have limit : Operand.coerce .timestamp text = .timestamp left := by
      rw [same] at read
      exact coerce_of_parse? read
    have bounded : Agree column (.timestamp left) first second := by
      rw [← limit]
      exact agree text (by rw [limit]; rfl)
    have itself : left.order left = .eq := Std.ReflCmp.compare_self
    have reached := bounded.lower
      ((compares_iff _ _ _).mpr ⟨_, orderOperand?_instant read left, by rw [itself]; rfl⟩)
    obtain ⟨found, compared, accepted⟩ := (compares_iff _ _ _).mp reached
    rw [orderOperand?_instant read' left] at compared
    cases compared
    exact Std.OrientedCmp.isGE_iff_isLE.mp accepted
  · intro ordered raw native
    generalize Operand.coerce .timestamp raw = operand at native ⊢
    cases operand with
    | timestamp limit =>
      refine agree_of_compared (orderOperand?_instant read limit) (orderOperand?_instant read' limit) ?_
        (Std.TransCmp.isLE_trans ordered)
      intro reached
      rw [Std.OrientedCmp.isGE_iff_isLE] at reached ⊢
      exact Std.TransCmp.isLE_trans reached ordered
    | _ => cases native

end Instants

/-- Of two rows in order, a bound of the column's type lets the later one through if it is a lower bound that
lets the earlier one through, and the other way round if it is an upper bound. In a column of integers this
holds unless the cells run in a circle with the bound, and in a column of instants it holds for all bounds
just as far as the instants are in the order of their texts. -/
theorem bounds_follow_the_order_but_for_instants (type : ColumnType) (column : String)
    (first second : Row) (kind : OfKind type (first.get column)) (kind' : OfKind type (second.get column))
    (ordered : ((first.get column).order (second.get column)).isLE) :
    (type ≠ .timestamp → ∀ raw, (Operand.coerce type raw).matchesType type →
      (type = .integer → ¬ InCircle (first.get column) (second.get column) (.coerce type raw)) →
      Agree column (.coerce type raw) first second) ∧
    (type = .timestamp → ∃ left right, instant? (first.get column) = some left ∧
      instant? (second.get column) = some right ∧
      ((∀ raw, (Operand.coerce type raw).matchesType type →
        Agree column (.coerce type raw) first second) ↔ (left.order right).isLE)) := by
  constructor
  · intro untimed raw native clear
    refine agree_of_clear (compared_eq kind.1 untimed native) (compared_eq kind'.1 untimed native) ordered ?_
    intro circle
    exact clear (integer_of_circle kind.1 kind'.1 untimed native circle) circle
  · rintro rfl
    obtain ⟨left, read⟩ := Option.isSome_iff_exists.mp (kind.2 rfl)
    obtain ⟨right, read'⟩ := Option.isSome_iff_exists.mp (kind'.2 rfl)
    exact ⟨left, right, read, read', agree_iff_ordered read read'⟩

/-- Great integers follow their order, told exactly or rounded, and so do texts that are in the order of their
instants, whatever their offsets. -/
theorem great_integers_and_offsets_in_order :
    let low : Row := [("n", .ofInt 9007199254740992)]
    let high : Row := [("n", .number (.real (.ofInt 9007199254740994)))]
    let early : Row := [("at", .string "2024-01-01T00:00:00+02:00")]
    let late : Row := [("at", .string "2024-01-01T01:00:00Z")]
    Agree "n" (.coerce .integer " 9007199254740993 ") low high ∧
      ∀ raw, (Operand.coerce .timestamp raw).matchesType .timestamp →
        Agree "at" (.coerce .timestamp raw) early late := by
  intro low high early late
  constructor
  · have kind : OfKind .integer (low.get "n") := ⟨.integer _, nofun⟩
    have kind' : OfKind .integer (high.get "n") := ⟨.integer _, nofun⟩
    have bounds := bounds_follow_the_order_but_for_instants .integer "n" low high kind kind' (by decide +kernel)
    exact bounds.1 nofun _ (by decide +kernel) fun _ => by decide +kernel
  · have kind : OfKind .timestamp (early.get "at") := ⟨.timestamp _, fun _ => by decide +kernel⟩
    have kind' : OfKind .timestamp (late.get "at") := ⟨.timestamp _, fun _ => by decide +kernel⟩
    have bounds := bounds_follow_the_order_but_for_instants .timestamp "at" early late kind kind'
      (by decide +kernel)
    obtain ⟨left, right, read, read', agree⟩ := bounds.2 rfl
    have ordered : ∀ instant ∈ instant? (early.get "at"), ∀ other ∈ instant? (late.get "at"),
        (instant.order other).isLE := by decide +kernel
    exact agree.mpr (ordered left read right read')

/-- Bounds follow the order of the rows in every column of the type. -/
def FollowsOrder (type : ColumnType) : Prop :=
  ∀ (column : String) (first second : Row) (raw : String),
    OfKind type (first.get column) → OfKind type (second.get column) →
    ((first.get column).order (second.get column)).isLE →
    (Operand.coerce type raw).matchesType type → Agree column (.coerce type raw) first second

/-- A later text may tell an earlier instant, and of two integers that tie, only the one that is rounded may
reach a bound. -/
theorem offsets_and_rounded_integers_out_of_order : ¬ FollowsOrder .timestamp ∧ ¬ FollowsOrder .integer := by
  constructor
  · intro follows
    have agree := follows "at" [("at", .string "2024-01-01T00:00:00Z")]
      [("at", .string "2024-01-01T01:00:00+02:00")] "2024-01-01"
      ⟨.timestamp _, fun _ => by decide +kernel⟩ ⟨.timestamp _, fun _ => by decide +kernel⟩
      (by decide +kernel) (by decide +kernel)
    have reached := agree.lower (by decide +kernel)
    revert reached
    decide +kernel
  · intro follows
    have agree := follows "n" [("n", .number (.real (.ofInt 9007199254740992)))]
      [("n", .ofInt 9007199254740992)] "9007199254740993"
      ⟨.integer _, nofun⟩ ⟨.integer _, nofun⟩ (by decide +kernel) (by decide +kernel)
    have reached := agree.lower (by decide +kernel)
    revert reached
    decide +kernel

end ResourceQuery.Proofs.SortedBounds
