import ResourceQuery.Proofs.ListedAlternatives

/-! One comparison in two stores. Memory compares a cell with an operand as values exactly where the database
is asked to compare a column by its type, and as texts exactly where it is asked for the text of the column;
the operand's text is then the one that is bound. -/

namespace ResourceQuery.Proofs.StoreComparisons
open Calendar FilterKeys Filtering ListedAlternatives Number PlannedStatements Sql

/-- What is compared when a cell meets an operand. A string cell need not be an instant. -/
inductive Compared where
  | integers (cell : Json.Number) (operand : Int)
  | numbers (cell : Json.Number) (operand : Binary64)
  | truths (cell operand : Bool)
  | instants (cell : Option Instant) (operand : Instant)
  | texts (cell operand : String)

def compared (cell : Json) (operand : Operand) : Compared :=
  match cell, operand with
  | .number cell, .integer operand => .integers cell operand
  | .number cell, .float operand => .numbers cell operand
  | .bool cell, .bool operand => .truths cell operand
  | .string cell, .timestamp operand => .instants (Instant.parse? cell) operand
  | cell, operand => .texts cell.plainText operand.asText

namespace Compared

def order? : Compared → Option Ordering
  | integers cell operand => some (cell.orderInt operand)
  | numbers cell operand => some (cell.toBinary64.order operand)
  | truths cell operand => some (compare cell operand)
  | instants cell operand => cell.map (·.order operand)
  | texts cell operand => some (Text.order cell operand)

def AreTexts : Compared → Prop
  | texts _ _ => True
  | _ => False

end Compared

private theorem orderOperand?_eq {cell : Json} (given : cell.isNull = false) (operand : Operand) :
    cell.orderOperand? operand = (compared cell operand).order? := by
  cases cell with
  | null => cases given
  | _ => cases operand <;> rfl

private theorem compared_text (cell : Json) (text : String) :
    compared cell (.text text) = .texts cell.plainText text := by
  cases cell <;> rfl

/-- The cells that belong into a column of a type. -/
inductive Suits : ColumnType → Json → Prop where
  | integer (number : Json.Number) : Suits .integer (.number number)
  | number (number : Json.Number) : Suits .number (.number number)
  | boolean (value : Bool) : Suits .boolean (.bool value)
  | text (value : String) : Suits .text (.string value)
  | timestamp (value : String) : Suits .timestamp (.string value)

section

variable {type : ColumnType} {cell : Json}

theorem Suits.given (suits : Suits type cell) : cell.isNull = false := by
  cases suits <;> rfl

private theorem Suits.not_areTexts (suits : Suits type cell) {operand : Operand} (value : IsValue type operand) :
    ¬ (compared cell operand).AreTexts := by
  obtain ⟨ordered, fits⟩ := value
  cases suits with
  | text => cases ordered
  | _ =>
    cases operand <;> cases fits
    exact id

end

private theorem not_isValue_text (type : ColumnType) (text : String) : ¬ IsValue type (.text text) := by
  cases type <;> simp [IsValue, isOrdered, Operand.matchesType]

private theorem isValue_of_read? {type : ColumnType} {trimmed : String} {operand : Operand}
    (read : Operand.read? type trimmed = some operand) : IsValue type operand := by
  cases type with
  | text => cases read
  | json => cases read
  | _ =>
    obtain ⟨value, -, rfl⟩ := Option.map_eq_some_iff.mp read
    exact ⟨rfl, rfl⟩

private theorem isValue_coerce (type : ColumnType) (raw : String) :
    IsValue type (.coerce type raw) ∨ Operand.coerce type raw = .text raw := by
  rw [Operand.coerce]
  cases read : Operand.read? type (Text.trim raw) with
  | none => exact .inr rfl
  | some operand => exact .inl (isValue_of_read? read)

/-- The operators that compare a cell with one operand. -/
def comparing : List Operator := [.eq, .ne, .gte, .lte]

private theorem apart_of_comparing {operator : Operator} (compares : operator ∈ comparing) :
    operator ≠ .isIn ∧ operator ≠ .like := by
  revert compares
  cases operator <;> decide

private theorem operands_of_built {table : Table} {filters : List Filter} {predicate : Predicate}
    (built : predicate ∈ Predicate.ofFilters table filters) (compares : predicate.operator ∈ comparing) :
    ∃ column raw, table.column? predicate.column = some column ∧
      predicate.operands = [.coerce column.type raw] := by
  obtain ⟨single, plain⟩ := apart_of_comparing compares
  obtain ⟨filter, -, member⟩ := List.mem_flatMap.mp built
  have made := built_ofFilter table filter
  generalize Predicate.ofFilter table filter = predicates at made member
  cases made with
  | column known equality =>
    obtain ⟨column, found⟩ := Option.isSome_iff_exists.mp known
    have operands := equality.operands_eq member
    obtain ⟨same, ⟨-, one⟩ | ⟨several, -⟩⟩ := equality.equal predicate member
    · rw [operands, List.length_map, List.length_eq_one_iff] at one
      obtain ⟨raw, only⟩ := one
      refine ⟨column, raw, same ▸ found, ?_⟩
      rw [operands, only, Table.typeOf_of_column? found, List.map_singleton]
    · exact absurd several single
  | operator other divides known =>
    obtain ⟨column, found⟩ := Option.isSome_iff_exists.mp known
    obtain ⟨raw, -, rfl⟩ := List.mem_map.mp member
    refine ⟨column, raw, found, ?_⟩
    rw [if_neg plain, Table.typeOf_of_column? found]
  | nothing => cases member

/-- A filter on a column compares values in memory exactly where its condition compares the column itself with
the operand as it is, and texts exactly where its condition compares the text of the column with a text;
memory then compares the cell's text with this same text. -/
theorem stores_compare_alike (table : Table) (filters : List Filter) (predicate : Predicate)
    (column : Column) (cell : Json) (built : predicate ∈ Predicate.ofFilters table filters)
    (compares : predicate.operator ∈ comparing) (found : table.column? predicate.column = some column)
    (suits : Suits column.type cell) :
    ∃ operand, predicate.operands = [operand] ∧
      cell.orderOperand? operand = (compared cell operand).order? ∧
      (¬ (compared cell operand).AreTexts ↔
        condition? table predicate =
          some (leftSide true predicate.column ++ comparison predicate.operator [operand])) ∧
      ((compared cell operand).AreTexts ↔
        condition? table predicate =
          some (leftSide false predicate.column ++ comparison predicate.operator [.text operand.asText])) ∧
      ((compared cell operand).AreTexts →
        compared cell operand = .texts cell.plainText operand.asText) := by
  obtain ⟨single, plain⟩ := apart_of_comparing compares
  obtain ⟨column', raw, found', operands⟩ := operands_of_built built compares
  rw [found] at found'
  cases found'
  obtain ⟨name, operator, _⟩ := predicate
  cases operands
  have native := isNative_singleton column.type (.coerce column.type raw)
  refine ⟨_, rfl, orderOperand?_eq suits.given _, ?_⟩
  rw [condition?_single found single plain]
  rcases isValue_coerce column.type raw with value | text
  · have values := suits.not_areTexts value
    rw [native.mpr value]
    refine ⟨iff_of_true values rfl, iff_of_false values ?_, fun texts => absurd texts values⟩
    intro same
    cases native_eq (Option.some.inj same)
  · have none : isNative column.type [.coerce column.type raw] = false := by
      rw [← Bool.not_eq_true, native, text]
      exact not_isValue_text _ _
    rw [none, text, compared_text]
    refine ⟨iff_of_false (not_not_intro trivial) ?_, iff_of_true trivial rfl, fun _ => rfl⟩
    intro same
    cases native_eq (Option.some.inj same)

theorem dates_and_words_compared_alike :
    let filters : List Filter := [⟨"at_gte", .one "2024-01-01"⟩, ⟨"at_ne", .one "soon"⟩]
    let since : Predicate := ⟨"at", .gte, [.coerce .timestamp "2024-01-01"]⟩
    let other : Predicate := ⟨"at", .ne, [.text "soon"]⟩
    let cell : Json := .string "2024-03-01 10:00:00"
    (since ∈ Predicate.ofFilters events filters ∧ other ∈ Predicate.ofFilters events filters ∧
        events.column? "at" = some ⟨"at", .timestamp, true, false, none⟩ ∧ Suits .timestamp cell) ∧
      ¬ (compared cell (.coerce .timestamp "2024-01-01")).AreTexts ∧
      condition? events other = some (leftSide false "at" ++ comparison .ne [.text "soon"]) := by
  intro filters since other cell
  have found : events.column? "at" = some ⟨"at", .timestamp, true, false, none⟩ := by decide
  have built : since ∈ Predicate.ofFilters events filters := by decide +kernel
  have built' : other ∈ Predicate.ofFilters events filters := by decide +kernel
  have suits : Suits .timestamp cell := .timestamp _
  obtain ⟨_, operands, -, values, -⟩ :=
    stores_compare_alike events filters since _ cell built (by decide) found suits
  obtain ⟨_, operands', -, -, texts, -⟩ :=
    stores_compare_alike events filters other _ cell built' (by decide) found suits
  cases operands
  cases operands'
  exact ⟨⟨built, built', found, suits⟩, values.mpr (by decide +kernel), texts.mp trivial⟩

end ResourceQuery.Proofs.StoreComparisons
