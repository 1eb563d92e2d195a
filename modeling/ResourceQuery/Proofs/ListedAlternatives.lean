import ResourceQuery.Proofs.PlannedStatements

/-! Alternatives of a condition. Together they are compared with their column by its type if each of them is a
value of this type, and otherwise all by their texts. So an alternative is compared as it would be alone,
unless it is a value among others that are none. -/

namespace ResourceQuery.Proofs.ListedAlternatives
open Filtering PlannedStatements Sql

def boundAs (native : Bool) (operand : Operand) : Operand :=
  if native then operand else .text operand.asText

def IsValue (type : ColumnType) (operand : Operand) : Prop :=
  isOrdered type = true ∧ operand.matchesType type = true

instance (type : ColumnType) (operand : Operand) : Decidable (IsValue type operand) :=
  inferInstanceAs (Decidable (_ ∧ _))

private theorem isNative_iff {type : ColumnType} {operands : List Operand} (some : operands ≠ []) :
    isNative type operands = true ↔ ∀ operand ∈ operands, IsValue type operand := by
  obtain ⟨first, member⟩ := List.exists_mem_of_ne_nil operands some
  simp only [isNative, IsValue, Bool.and_eq_true, List.all_eq_true]
  constructor
  · exact fun ⟨ordered, all⟩ operand member => ⟨ordered, all operand member⟩
  · exact fun values => ⟨(values first member).1, fun operand member => (values operand member).2⟩

theorem isNative_singleton (type : ColumnType) (operand : Operand) :
    isNative type [operand] = true ↔ IsValue type operand := by
  rw [isNative_iff (List.cons_ne_nil _ _), List.forall_mem_singleton]

section

variable {table : Table} {name : String} {column : Column}

theorem condition?_isIn (found : table.column? name = some column) (operands : List Operand) :
    let native := isNative column.type operands
    condition? table ⟨name, .isIn, operands⟩ =
      some (leftSide native name ++ comparison .isIn (operands.map (boundAs native))) := by
  intro native
  have placed : (operands.map (boundAs native)).map .bound = operands.map (rightSide native) :=
    List.map_map
  simp only [condition?, found, Option.bind_some, comparison, placed, List.append_assoc]
  rfl

theorem condition?_single (found : table.column? name = some column) {operator : Operator}
    (several : operator ≠ .isIn) (pattern : operator ≠ .like) (operand : Operand) :
    let native := isNative column.type [operand]
    condition? table ⟨name, operator, [operand]⟩ =
      some (leftSide native name ++ comparison operator [boundAs native operand]) := by
  cases operator with
  | isIn => exact absurd rfl several
  | like => exact absurd rfl pattern
  | _ => simp only [condition?, found, Option.bind_some]; rfl

/-- Whether a column is compared as text is told by what stands behind it. -/
theorem native_eq {native other : Bool} {operator operator' : Operator} {bound bound' : List Operand}
    (same : leftSide native name ++ comparison operator bound =
      leftSide other name ++ comparison operator' bound') : native = other := by
  have apart (operator : Operator) (bound : List Operand) :
      (comparison operator bound).head? ≠ some (.words "::text") := by
    cases operator <;> simp [comparison, sign]
  have second := congrArg (·.tail.head?) same
  cases native <;> cases other
  · rfl
  · exact absurd second.symm (apart operator' bound')
  · exact absurd second (apart operator bound)
  · rfl

end

/-- A value among alternatives of which some are none. -/
def Outvoted (type : ColumnType) (operands : List Operand) (operand : Operand) : Prop :=
  IsValue type operand ∧ ∃ other ∈ operands, ¬ IsValue type other

private theorem not_outvoted_iff {type : ColumnType} {operands : List Operand} {operand : Operand}
    (member : operand ∈ operands) : ¬ Outvoted type operands operand ↔
      (IsValue type operand ↔ ∀ other ∈ operands, IsValue type other) := by
  simp only [Outvoted, not_and, not_exists, not_not]
  exact ⟨fun kept => ⟨kept, fun all => all operand member⟩, Iff.mp⟩

private theorem isNative_insert {type : ColumnType} {before after : List Operand} {added : Operand}
    (some : before ++ after ≠ []) : isNative type (before ++ added :: after) = isNative type (before ++ after) ↔
      (isNative type (before ++ after) = true → IsValue type added) := by
  rw [Bool.eq_iff_iff, isNative_iff some, isNative_iff (by simp)]
  simp only [List.forall_mem_append, List.forall_mem_cons]
  tauto

/-- A list of alternatives is compared with its column by the column's type exactly if all of them are
values of this type, and by text otherwise. So each is compared as equality with it alone would be, with the
same left side and the same bound value, unless it is outvoted; and one more alternative leaves the
others as they are compared, unless they all are values and it is none. -/
theorem alternatives_are_compared_alone_unless_outvoted (table : Table) (name : String) (column : Column)
    (operands : List Operand) (found : table.column? name = some column) (nonempty : operands ≠ []) :
    ∃ native : Bool, (native = true ↔ ∀ operand ∈ operands, IsValue column.type operand) ∧
      condition? table ⟨name, .isIn, operands⟩ =
        some (leftSide native name ++ comparison .isIn (operands.map (boundAs native))) ∧
      (∀ operand ∈ operands,
        condition? table ⟨name, .eq, [operand]⟩ =
            some (leftSide native name ++ comparison .eq [boundAs native operand]) ↔
          ¬ Outvoted column.type operands operand) ∧
      ∀ before added after, before ++ after = operands →
        ((∃ value, condition? table ⟨name, .isIn, before ++ added :: after⟩ =
            some (leftSide native name ++ comparison .isIn
              (before.map (boundAs native) ++ value :: after.map (boundAs native)))) ↔
          (native = true → IsValue column.type added)) := by
  have whole := @isNative_iff column.type _ nonempty
  refine ⟨isNative column.type operands, whole, condition?_isIn found operands, ?_, ?_⟩
  · intro operand member
    have alone := condition?_single found (by decide : Operator.eq ≠ .isIn) (by decide) operand
    have single := isNative_singleton column.type operand
    rw [not_outvoted_iff member, ← single, ← whole, ← Bool.eq_iff_iff, alone]
    constructor
    · intro same
      exact native_eq (Option.some.inj same)
    · intro same
      rw [same]
  · rintro before added after rfl
    rw [← isNative_insert nonempty, condition?_isIn found]
    constructor
    · rintro ⟨value, same⟩
      exact native_eq (Option.some.inj same)
    · intro same
      refine ⟨boundAs (isNative column.type (before ++ after)) added, ?_⟩
      rw [same, List.map_append, List.map_cons]

theorem number_outvoted_by_a_word :
    let operands : List Operand := [.integer 7, .text "x"]
    people.column? "id" = some ⟨"id", .integer, false, true, none⟩ ∧ operands ≠ [] ∧
      condition? people ⟨"id", .isIn, operands⟩ =
        some (leftSide false "id" ++ comparison .isIn [.text "7", .text "x"]) ∧
      condition? people ⟨"id", .eq, [.text "x"]⟩ =
        some (leftSide false "id" ++ comparison .eq [.text "x"]) ∧
      condition? people ⟨"id", .eq, [.integer 7]⟩ ≠
        some (leftSide false "id" ++ comparison .eq [.text "7"]) := by
  intro operands
  have found : people.column? "id" = some ⟨"id", .integer, false, true, none⟩ := by decide
  have nonempty : operands ≠ [] := List.cons_ne_nil _ _
  obtain ⟨native, values, listed, alone, -⟩ :=
    alternatives_are_compared_alone_unless_outvoted people "id" _ operands found nonempty
  have mixed : native = false := by
    rw [← Bool.not_eq_true, values]
    decide
  subst mixed
  have word : ¬ Outvoted .integer operands (.text "x") := fun outvoted => absurd outvoted.1 (by decide)
  have number : Outvoted .integer operands (.integer 7) :=
    ⟨by decide, .text "x", by decide, by decide⟩
  exact ⟨found, nonempty, listed, (alone _ (by decide)).mpr word,
    fun same => (alone (.integer 7) (by decide)).mp same number⟩

/-- Every alternative of a list is compared as equality with it alone is. -/
def ComparesAlone (table : Table) (name : String) (operands : List Operand) : Prop :=
  ∃ left, ∃ bound : Operand → Operand,
    condition? table ⟨name, .isIn, operands⟩ = some (left ++ comparison .isIn (operands.map bound)) ∧
      ∀ operand ∈ operands,
        condition? table ⟨name, .eq, [operand]⟩ = some (left ++ comparison .eq [bound operand])

private theorem not_comparesAlone {table : Table} {name : String} {column : Column}
    (found : table.column? name = some column) {operands : List Operand} {operand : Operand}
    (member : operand ∈ operands) (outvoted : Outvoted column.type operands operand) :
    ¬ ComparesAlone table name operands := by
  rintro ⟨left, bound, -, alone⟩
  obtain ⟨value, other, member', none⟩ := outvoted
  have sided {operand : Operand} (member : operand ∈ operands) :
      leftSide (isNative column.type [operand]) name = left := by
    have stated := alone operand member
    rw [condition?_single found (by decide) (by decide)] at stated
    exact List.append_inj_left' (Option.some.inj stated) rfl
  have same : isNative column.type [operand] = isNative column.type [other] :=
    native_eq (congrArg (· ++ comparison .eq []) ((sided member).trans (sided member').symm))
  rw [Bool.eq_iff_iff, isNative_singleton, isNative_singleton] at same
  exact none (same.mp value)

def events : Table where
  name := "events"
  resource := "events"
  columns := [⟨"id", .integer, false, true, none⟩, ⟨"at", .timestamp, true, false, none⟩]
  primaryKey := "id"
  relations := []

theorem date_beside_a_word_is_compared_as_text : ∃ operands,
    (Plan.ofIntent events (.parse (.ofPairs [("at", "2024-01-01,soon")]))).retrieval.predicates =
      [⟨"at", .isIn, operands⟩] ∧ ¬ ComparesAlone events "at" operands := by
  have found : events.column? "at" = some ⟨"at", .timestamp, true, false, none⟩ := by decide
  refine ⟨["2024-01-01", "soon"].map (.coerce .timestamp), by decide +kernel, ?_⟩
  have outvoted : Outvoted .timestamp (["2024-01-01", "soon"].map (.coerce .timestamp))
      (.coerce .timestamp "2024-01-01") :=
    ⟨by decide +kernel, .coerce .timestamp "soon", by simp, by decide +kernel⟩
  exact not_comparesAlone found (by simp) outvoted

end ResourceQuery.Proofs.ListedAlternatives
