import ResourceQuery.Postgres.Parameter
import ResourceQuery.Proofs.Placeholders

/-! Types of comparisons. Each condition of a statement compares a column by its type, with parameters of
this type alone, or the text of a column with texts alone, whatever operands come together in it. -/

namespace ResourceQuery.Proofs.TypedComparisons
open Calendar ListedAlternatives Number OnePassStatements Placeholders PlannedStatements Postgres
open QuotedNames Sql

/-- The types that columns are compared by, with the types of the parameters for them. -/
inductive BoundAs : ColumnType → String → Prop where
  | integer : BoundAs .integer "int8"
  | number : BoundAs .number "float8"
  | boolean : BoundAs .boolean "bool"
  | timestamp : BoundAs .timestamp "timestamptz"

/-- The values of the types that columns are compared by. -/
inductive ValueOf : ColumnType → Operand → Prop where
  | integer (value : Int) : ValueOf .integer (.integer value)
  | number (value : Binary64) : ValueOf .number (.float value)
  | boolean (value : Bool) : ValueOf .boolean (.bool value)
  | timestamp (value : Instant) : ValueOf .timestamp (.timestamp value)

/-- The text that stands for an operand where texts are compared: a pattern in searches, and otherwise its
own text. -/
def comparedText (operator : Operator) (operand : Operand) : String :=
  match operator with
  | .like => likePattern operand.asText
  | _ => operand.asText

/-- What a comparison of a column binds, and the type under which it is sent: values of the column's type for
the column itself, and texts for its text. -/
inductive Typed (type : ColumnType) (predicate : Predicate) : Bool → String → List Operand → Prop where
  | bare {name : String} (bound : BoundAs type name)
    (values : ∀ operand ∈ used predicate, ValueOf type operand) :
    Typed type predicate true name (used predicate)
  | text : Typed type predicate false "text"
    ((used predicate).map fun operand => .text (comparedText predicate.operator operand))

/-- A condition that compares the column of a predicate with parameters of the type that it is compared
by. -/
def Compares (table : Table) (predicate : Predicate) (condition : Statement) : Prop :=
  ∃ column native name bound, table.column? predicate.column = some column ∧
    condition = leftSide native predicate.column ++ comparison predicate.operator bound ∧
    Typed column.type predicate native name bound ∧
    ∀ operand ∈ bound, (Parameter.ofOperand operand).type = name

private theorem mem_used {predicate : Predicate} {operand : Operand} (member : operand ∈ used predicate) :
    operand ∈ predicate.operands := by
  unfold used at member
  split at member
  · exact member
  · exact List.mem_of_mem_take member

private theorem boundAs_of_isOrdered {type : ColumnType} (ordered : isOrdered type = true) :
    ∃ name, BoundAs type name := by
  cases type with
  | integer => exact ⟨_, .integer⟩
  | number => exact ⟨_, .number⟩
  | boolean => exact ⟨_, .boolean⟩
  | timestamp => exact ⟨_, .timestamp⟩
  | text => cases ordered
  | json => cases ordered

private theorem valueOf_of_matchesType {type : ColumnType} {name : String} (bound : BoundAs type name)
    {operand : Operand} (fits : operand.matchesType type = true) : ValueOf type operand := by
  cases bound <;> cases operand <;> cases fits
  · exact .integer _
  · exact .number _
  · exact .boolean _
  · exact .timestamp _

private theorem rendered_eq (type : ColumnType) (predicate : Predicate) (operand : Operand) :
    rendered type predicate operand =
      if comparesValues type predicate then operand
      else .text (comparedText predicate.operator operand) := by
  obtain ⟨name, operator, operands⟩ := predicate
  cases operator <;> simp [rendered, comparesValues, boundAs, comparedText]

private theorem typed_rendered (type : ColumnType) (predicate : Predicate) :
    ∃ name, Typed type predicate (comparesValues type predicate) name
      ((used predicate).map (rendered type predicate)) := by
  have follows : rendered type predicate = _ := funext (rendered_eq type predicate)
  rw [follows]
  cases native : comparesValues type predicate with
  | true =>
    obtain ⟨ordered, all⟩ := Bool.and_eq_true_iff.mp (Bool.and_eq_true_iff.mp native).2
    obtain ⟨name, bound⟩ := boundAs_of_isOrdered ordered
    have values : ∀ operand ∈ used predicate, ValueOf type operand := fun operand member =>
      valueOf_of_matchesType bound (List.all_eq_true.mp all operand (mem_used member))
    refine ⟨name, ?_⟩
    simpa using Typed.bare bound values
  | false => exact ⟨"text", .text⟩

private theorem Typed.sent {type : ColumnType} {predicate : Predicate} {native : Bool} {name : String}
    {bound : List Operand} (typed : Typed type predicate native name bound) :
    ∀ operand ∈ bound, (Parameter.ofOperand operand).type = name := by
  intro operand member
  cases typed with
  | bare bound values =>
    have value := values operand member
    cases bound <;> cases value <;> rfl
  | text =>
    obtain ⟨operand, -, rfl⟩ := List.mem_map.mp member
    rfl

private theorem compares_of_condition? {table : Table} {predicate : Predicate} {condition : Statement}
    (stated : condition? table predicate = some condition) : Compares table predicate condition := by
  obtain ⟨column, found, same⟩ := condition?_eq_some stated
  obtain ⟨name, typed⟩ := typed_rendered column.type predicate
  have bound : bindings table predicate = (used predicate).map (rendered column.type predicate) := by
    rw [bindings, found]
  exact ⟨column, _, name, _, found, same, bound ▸ typed, (bound ▸ typed).sent⟩

private theorem conditions_compare (table : Table) (predicates : List Predicate) :
    List.Forall₂ (Compares table) (predicates.filter (isStated table)) (conditions table predicates) := by
  induction predicates with
  | nil => exact .nil
  | cons predicate rest ih =>
    have some := isSome_condition? table predicate
    rw [conditions_cons, List.filter_cons, ← some]
    cases stated : condition? table predicate with
    | none => exact ih
    | some condition => exact .cons (compares_of_condition? stated) ih

/-- The statements of a table compare its columns in their conditions alone, one for each predicate that is
not dropped. There a column is compared by its own type with values of this type, or its text with the texts
of the operands, which are sent as such: whatever the operator, the number of the operands and their
kinds. -/
theorem comparisons_are_typed (schema : String) (table : Table) (predicates : List Predicate)
    (sort : List SortField) (window : Window) :
    ∃ conditions, List.Forall₂ (Compares table) (predicates.filter (isStated table)) conditions ∧
      select schema table ⟨predicates, sort, window⟩ =
        selectHead schema table ++ clause conditions ++ selectTail table sort window ∧
      count schema table predicates = countHead schema table ++ clause conditions ∧
      selectFiltered schema table predicates =
        selectHead schema table ++ clause conditions ++ selectTail table [] .unbounded := by
  refine ⟨conditions table predicates, conditions_compare table predicates, ?_⟩
  have selected (sort : List SortField) (window : Window) :=
    (framed_select schema table predicates sort window).split
  have counted := (framed_count schema table predicates).split
  rw [List.append_nil] at counted
  rw [selectFiltered_eq, ← whereClause_eq]
  exact ⟨selected sort window, counted, selected [] .unbounded⟩

end ResourceQuery.Proofs.TypedComparisons
