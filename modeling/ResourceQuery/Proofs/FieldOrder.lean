import ResourceQuery.Proofs.SortedRows

/-! Rows in the order of fields. Over columns whose cells are of one kind, rows are sorted by the first
field that tells them apart: by value, with null at the end, and the other way round where a field descends.
Rows that no field tells apart stay as they were. -/

namespace ResourceQuery.Proofs.FieldOrder
open CellOrder SortedRows StableSorts

inductive Kind where
  /-- Integers of 63 bits and a sign. -/
  | integers
  | texts
  | truths
  deriving DecidableEq

/-- Every kind of cells has null among them. -/
def Kind.Has (kind : Kind) : Json → Prop
  | .null => True
  | .number number => kind = .integers ∧ number.signed?.isSome
  | .string _ => kind = .texts
  | .bool _ => kind = .truths
  | .array _ | .object _ => False

instance (kind : Kind) (cell : Json) : Decidable (kind.Has cell) :=
  match cell with
  | .null => .isTrue trivial
  | .number number => inferInstanceAs (Decidable (kind = .integers ∧ number.signed?.isSome))
  | .string _ => inferInstanceAs (Decidable (kind = .texts))
  | .bool _ => inferInstanceAs (Decidable (kind = .truths))
  | .array _ | .object _ => .isFalse id

def Uniform (column : String) (rows : List Row) : Prop :=
  ∃ kind : Kind, ∀ row ∈ rows, kind.Has (row.get column)

/-- The smaller integer comes before the greater, the text that is the first by code points, false before
true, and everything before null. -/
inductive Below : Json → Json → Prop where
  | integers {left right : Json.Number} {low high : Int} (signed : left.signed? = some low)
      (signed' : right.signed? = some high) (less : low < high) : Below (.number left) (.number right)
  | texts {low high : String} (less : low < high) : Below (.string low) (.string high)
  | truths : Below (.bool false) (.bool true)
  | nulls {cell : Json} (some : cell ≠ .null) : Below cell .null

def Earlier (field : SortField) (left right : Row) : Prop :=
  match field.direction with
  | .ascending => Below (left.get field.column) (right.get field.column)
  | .descending => Below (right.get field.column) (left.get field.column)

/-- The first field that tells two rows apart puts one before the other. -/
inductive Precedes : List SortField → Row → Row → Prop where
  | here {field : SortField} {rest : List SortField} {left right : Row}
      (earlier : Earlier field left right) : Precedes (field :: rest) left right
  | later {field : SortField} {rest : List SortField} {left right : Row}
      (same : left.get field.column = right.get field.column) (precedes : Precedes rest left right) :
      Precedes (field :: rest) left right

def Tied (fields : List SortField) (left right : Row) : Prop :=
  ∀ field ∈ fields, left.get field.column = right.get field.column

private theorem compareLex_lt_iff {left right : List Char} :
    List.compareLex compare left right = .lt ↔ left < right := by
  induction left generalizing right with
  | nil =>
    cases right with
    | nil => simp [List.compareLex_nil_nil]
    | cons other others => simp [List.compareLex_nil_cons]
  | cons first rest ih =>
    cases right with
    | nil => simp [List.compareLex_cons_nil]
    | cons other others =>
      have less : compare first other = .lt ↔ first < other := compareOfLessAndEq_eq_lt
      rw [List.compareLex_cons_cons, Ordering.then_eq_lt, List.cons_lt_cons_iff, ih, less,
        Std.LawfulEqCmp.compare_eq_iff_eq]

private theorem text_order_lt_iff {left right : String} : Text.order left right = .lt ↔ left < right :=
  compareLex_lt_iff

section Cells

variable {kind : Kind} {left right : Json}

private theorem below_number_iff {number other : Json.Number} {low high : Int}
    (signed : number.signed? = some low) (signed' : other.signed? = some high) :
    Below (.number number) (.number other) ↔ low < high := by
  refine ⟨fun before => ?_, .integers signed signed'⟩
  cases before with
  | integers known known' less =>
    rw [signed] at known
    rw [signed'] at known'
    cases known
    cases known'
    exact less

private theorem Below.asymm (before : Below left right) : ¬ Below right left := by
  intro after
  cases before with
  | integers signed signed' less =>
    have := (below_number_iff signed' signed).mp after
    omega
  | texts less =>
    cases after with
    | texts less' => exact String.lt_asymm less less'
  | truths => cases after
  | nulls some =>
    cases after
    exact some rfl

private theorem eq_of_signed? {number other : Json.Number} {value : Int} (signed : number.signed? = some value)
    (signed' : other.signed? = some value) : number = other := by
  cases number <;> cases other <;> simp_all [Json.Number.signed?]

private theorem cases_of_kind (has : kind.Has left) (has' : kind.Has right) :
    left = .null ∨ right = .null ∨
      (∃ number other low high, left = .number number ∧ right = .number other ∧
        number.signed? = some low ∧ other.signed? = some high) ∨
      (∃ low high, left = .string low ∧ right = .string high) ∨
      ∃ low high, left = .bool low ∧ right = .bool high := by
  cases left <;> cases right <;> simp_all [Kind.Has, Option.isSome_iff_exists]

theorem order_eq_iff (has : kind.Has left) (has' : kind.Has right) :
    left.order right = .eq ↔ left = right := by
  refine ⟨fun tied => ?_, fun same => same ▸ order_self left⟩
  rcases cases_of_kind has has' with rfl | rfl | ⟨number, other, low, high, rfl, rfl, signed, signed'⟩ |
    ⟨low, high, rfl, rfl⟩ | ⟨low, high, rfl, rfl⟩
  · cases right <;> first | rfl | cases tied
  · cases left <;> first | rfl | cases tied
  · have same : low = high := by
      rw [← compare_eq_iff_eq, ← order_signed signed signed']
      exact tied
    rw [eq_of_signed? signed (same ▸ signed')]
  · rw [Text.order_eq_iff.mp tied]
  · rw [compare_eq_iff_eq.mp tied]

private theorem order_lt_iff (has : kind.Has left) (has' : kind.Has right) :
    left.order right = .lt ↔ Below left right := by
  rcases cases_of_kind has has' with rfl | rfl | ⟨number, other, low, high, rfl, rfl, signed, signed'⟩ |
    ⟨low, high, rfl, rfl⟩ | ⟨low, high, rfl, rfl⟩
  · constructor
    · intro before
      cases right <;> cases before
    · intro before
      cases before with
      | nulls some => exact (some rfl).elim
  · constructor
    · intro before
      refine .nulls ?_
      rintro rfl
      cases before
    · intro before
      cases before with
      | nulls some => cases left <;> first | rfl | exact (some rfl).elim
  · rw [below_number_iff signed signed', ← Int.compare_eq_lt, ← order_signed signed signed']
    rfl
  · refine text_order_lt_iff.trans ⟨.texts, fun before => ?_⟩
    cases before with
    | texts less => exact less
  · cases low <;> cases high
    case false.true => exact ⟨fun _ => .truths, fun _ => rfl⟩
    all_goals constructor <;> intro before <;> cases before

private theorem Kind.Has.not_worded {number : Json.Number} (numbered : kind.Has (.number number))
    (has : kind.Has left) : ¬ Worded left := by
  intro worded
  obtain ⟨rfl, -⟩ := numbered
  cases left with
  | null => exact worded.some rfl
  | number other => exact worded.unnumbered other rfl
  | bool value => cases has
  | string value => cases has
  | array items => exact has
  | object fields => exact has

private theorem Kind.Has.not_circle {first second third : Json} (has : kind.Has first) (has' : kind.Has second)
    (has'' : kind.Has third) : ¬ Circle first second third := by
  intro circle
  cases circle with
  | numbers rounded =>
    obtain ⟨-, signed⟩ := has'
    rw [rounded.inexact] at signed
    cases signed
  | between worded => exact has.not_worded has' worded
  | behind worded => exact has.not_worded has'' worded
  | before worded => exact has'.not_worded has worded

end Cells

section Rows

variable {rows : List Row} {left right : Row}

private theorem circleFree_of_uniform {column : String} (uniform : Uniform column rows) :
    CircleFree column rows := by
  obtain ⟨kind, has⟩ := uniform
  intro first member second member' third member''
  exact (has first member).not_circle (has second member') (has third member'')

private theorem field_lt_iff {field : SortField} (uniform : Uniform field.column rows) (member : left ∈ rows)
    (member' : right ∈ rows) : field.order left right = .lt ↔ Earlier field left right := by
  obtain ⟨kind, has⟩ := uniform
  rw [field_order_eq, Earlier]
  cases field.direction with
  | ascending => exact order_lt_iff (has left member) (has right member')
  | descending => exact order_lt_iff (has right member') (has left member)

private theorem field_eq_iff {field : SortField} (uniform : Uniform field.column rows) (member : left ∈ rows)
    (member' : right ∈ rows) :
    field.order left right = .eq ↔ left.get field.column = right.get field.column := by
  obtain ⟨kind, has⟩ := uniform
  rw [field_order_eq]
  cases field.direction with
  | ascending => exact order_eq_iff (has left member) (has right member')
  | descending => exact (order_eq_iff (has right member') (has left member)).trans eq_comm

private theorem precedes_cons_iff {field : SortField} {rest : List SortField} :
    Precedes (field :: rest) left right ↔ Earlier field left right ∨
      left.get field.column = right.get field.column ∧ Precedes rest left right := by
  constructor
  · intro precedes
    cases precedes with
    | here earlier => exact .inl earlier
    | later same precedes => exact .inr ⟨same, precedes⟩
  · rintro (earlier | ⟨same, precedes⟩)
    · exact .here earlier
    · exact .later same precedes

variable {fields : List SortField}

private theorem orderAll_lt_iff (uniform : ∀ field ∈ fields, Uniform field.column rows) (member : left ∈ rows)
    (member' : right ∈ rows) : SortField.orderAll fields left right = .lt ↔ Precedes fields left right := by
  induction fields with
  | nil =>
    constructor <;> intro before <;> cases before
  | cons field rest ih =>
    obtain ⟨first, others⟩ := List.forall_mem_cons.mp uniform
    rw [SortField.orderAll, Ordering.then_eq_lt, field_lt_iff first member member',
      field_eq_iff first member member', ih others, precedes_cons_iff]

private theorem orderAll_eq_iff (uniform : ∀ field ∈ fields, Uniform field.column rows) (member : left ∈ rows)
    (member' : right ∈ rows) : SortField.orderAll fields left right = .eq ↔ Tied fields left right := by
  induction fields with
  | nil => simp [SortField.orderAll, Tied]
  | cons field rest ih =>
    obtain ⟨first, others⟩ := List.forall_mem_cons.mp uniform
    rw [SortField.orderAll, Ordering.then_eq_eq, field_eq_iff first member member', ih others, Tied, Tied,
      List.forall_mem_cons]

private theorem arranged_of_uniform (uniform : ∀ field ∈ fields, Uniform field.column rows) :
    Arranged (SortField.orderAll fields) rows (sortRows fields rows) :=
  arranged_sortRows (coherent_orderAll fun field listed => circleFree_of_uniform (uniform field listed))

private theorem sortRows_precedes (uniform : ∀ field ∈ fields, Uniform field.column rows) :
    (sortRows fields rows).Pairwise fun earlier later =>
      Precedes fields earlier later ∨ Tied fields earlier later := by
  have arranged := arranged_of_uniform uniform
  have known {row : Row} (member : row ∈ sortRows fields rows) : row ∈ rows :=
    arranged.perm.mem_iff.mp member
  refine arranged.ordered.imp_of_mem fun member member' before => ?_
  rw [← orderAll_lt_iff uniform (known member) (known member'),
    ← orderAll_eq_iff uniform (known member) (known member')]
  exact Ordering.isLE_iff_eq_lt_or_eq_eq.mp before

private theorem sortRows_descending {column : String} (uniform : Uniform column rows)
    (apart : rows.Pairwise fun left right => left.get column ≠ right.get column) :
    sortRows [⟨column, .descending⟩] rows = (sortRows [⟨column, .ascending⟩] rows).reverse := by
  have single (direction : Direction) :
      ∀ field ∈ [SortField.mk column direction], Uniform field.column rows := by
    simpa using uniform
  have perm (direction : Direction) : (sortRows [⟨column, direction⟩] rows).Perm rows :=
    (arranged_of_uniform (single direction)).perm
  have strictly (direction : Direction) : (sortRows [⟨column, direction⟩] rows).Pairwise
      (Earlier ⟨column, direction⟩) := by
    have differ : (sortRows [⟨column, direction⟩] rows).Pairwise
        fun left right => left.get column ≠ right.get column :=
      (perm direction).symm.pairwise apart fun differ => differ.symm
    refine ((sortRows_precedes (single direction)).and differ).imp fun ⟨placed, differ⟩ => ?_
    rcases placed with precedes | tied
    · rcases precedes_cons_iff.mp precedes with earlier | ⟨same, -⟩
      · exact earlier
      · exact (differ same).elim
    · exact (differ (tied _ List.mem_cons_self)).elim
  refine List.Perm.eq_of_pairwise ?_ (strictly .descending) (List.pairwise_reverse.mpr ?_)
    ((perm .descending).trans ((List.reverse_perm _).trans (perm .ascending)).symm)
  · intro left right _ _ before after
    exact (before.asymm after).elim
  · exact strictly .ascending

end Rows

/-- Over columns whose cells are of one kind, sorting is lexicographic and stable. There are the same
rows, one after the other in the order of the fields, and any rows that tie with each other stay as they
were. Sorting by one field that tells all rows apart, the two directions are each other's reverse. -/
theorem rows_are_in_field_order (fields : List SortField) (rows : List Row)
    (uniform : ∀ field ∈ fields, Uniform field.column rows) :
    (sortRows fields rows).Perm rows ∧
      ((sortRows fields rows).Pairwise fun earlier later =>
        Precedes fields earlier later ∨ Tied fields earlier later) ∧
      (∀ chosen : Row → Bool,
        (∀ left ∈ rows, ∀ right ∈ rows, chosen left → chosen right → Tied fields left right) →
        (sortRows fields rows).filter chosen = rows.filter chosen) ∧
      ∀ field ∈ fields,
        (rows.Pairwise fun left right => left.get field.column ≠ right.get field.column) →
        sortRows [⟨field.column, .descending⟩] rows =
          (sortRows [⟨field.column, .ascending⟩] rows).reverse := by
  have arranged := arranged_of_uniform uniform
  refine ⟨arranged.perm, sortRows_precedes uniform, fun chosen tied => ?_,
    fun field listed => sortRows_descending (uniform field listed)⟩
  refine arranged.tied chosen ?_
  intro left member right member' picked picked'
  exact (orderAll_eq_iff uniform member member').mpr (tied left member right member' picked picked')

def members : List Row :=
  [[("age", .ofInt 2), ("name", .string "b")], [("id", .ofInt 1), ("name", .string "a")],
    [("age", .ofInt 10)], [("age", .null), ("id", .ofInt 2), ("name", .string "a")],
    [("age", .ofInt 2), ("name", .string "B")]]

/-- Two members without an age come first, as they were; two others are told apart by their names. -/
theorem eldest_members_first :
    let fields : List SortField := [⟨"age", .descending⟩, ⟨"name", .ascending⟩]
    (∀ field ∈ fields, Uniform field.column members) ∧
      (sortRows fields members).Pairwise (fun earlier later =>
        Precedes fields earlier later ∨ Tied fields earlier later) ∧
      (sortRows fields members).filter (fun row => (row.get "age").isNull) =
        members.filter (fun row => (row.get "age").isNull) ∧
      (sortRows fields members).map (fun row => (row.get "name").plainText) =
        ["a", "a", "null", "B", "b"] := by
  intro fields
  have uniform : ∀ field ∈ fields, Uniform field.column members := by
    refine List.forall_mem_cons.mpr ⟨⟨.integers, by decide +kernel⟩, ?_⟩
    exact List.forall_mem_singleton.mpr ⟨.texts, by decide +kernel⟩
  obtain ⟨-, ordered, stable, -⟩ := rows_are_in_field_order fields members uniform
  have level : ∀ row ∈ members, (row.get "age").isNull →
      row.get "age" = .null ∧ row.get "name" = .string "a" := by
    simp only [members, List.forall_mem_cons]
    exact ⟨nofun, fun _ => ⟨rfl, rfl⟩, nofun, fun _ => ⟨rfl, rfl⟩, nofun, nofun⟩
  refine ⟨uniform, ordered, stable _ ?_, by decide +kernel⟩
  intro left member right member' none none'
  obtain ⟨age, name⟩ := level left member none
  obtain ⟨age', name'⟩ := level right member' none'
  exact List.forall_mem_cons.mpr ⟨age.trans age'.symm,
    List.forall_mem_singleton.mpr (name.trans name'.symm)⟩

end ResourceQuery.Proofs.FieldOrder
