import ResourceQuery.Proofs.Filtering
import ResourceQuery.Proofs.QuotedNames

/-! Operands of statements. Requests that ask the same of the same columns, with operands of the same kinds,
are stated by the same text: what an operand holds decides neither how it is compared nor where its
placeholder stands, and it is handed over on its own. -/

namespace ResourceQuery.Proofs.BoundOperands
open Filtering QuotedNames Relator Sql

inductive Kind where
  | bool
  | integer
  | float
  | text
  | timestamp
  deriving DecidableEq

def kind : Operand → Kind
  | .bool _ => .bool
  | .integer _ => .integer
  | .float _ => .float
  | .text _ => .text
  | .timestamp _ => .timestamp

def SameKind (first second : Operand) : Prop :=
  kind first = kind second

/-- Predicates that differ in nothing but what their operands hold. -/
structure Alike (first second : Predicate) : Prop where
  column : first.column = second.column
  operator : first.operator = second.operator
  kinds : List.Forall₂ SameKind first.operands second.operands

/-- Pieces that differ in nothing but what is bound. -/
inductive Same : Piece → Piece → Prop where
  | words (text : String) : Same (.words text) (.words text)
  | name (identifier : String) : Same (.name identifier) (.name identifier)
  | bound {first second : Operand} (kinds : SameKind first second) : Same (.bound first) (.bound second)

private theorem same_self (statement : Statement) : List.Forall₂ Same statement statement := by
  rw [List.forall₂_same]
  intro piece _
  cases piece with
  | words text => exact .words text
  | name identifier => exact .name identifier
  | bound operand => exact .bound rfl

section

variable {first second : Statement}

private theorem charactersFrom_eq (same : List.Forall₂ Same first second) (next : Nat) :
    first.charactersFrom next = second.charactersFrom next := by
  induction same generalizing next with
  | nil => rfl
  | cons piece _ ih => cases piece <;> simp only [Statement.charactersFrom, ih]

private theorem text_eq (same : List.Forall₂ Same first second) : first.text = second.text := by
  rw [Statement.text, Statement.text, charactersFrom_eq same]

private theorem kinds_of_same (same : List.Forall₂ Same first second) :
    List.Forall₂ SameKind first.operands second.operands := by
  induction same with
  | nil => exact .nil
  | cons piece _ ih =>
    cases piece with
    | bound kinds => exact .cons kinds ih
    | _ => exact ih

end

private theorem same_intersperse (separator : String) {first second : List Statement}
    (same : List.Forall₂ (List.Forall₂ Same) first second) :
    List.Forall₂ (List.Forall₂ Same) (first.intersperse [.words separator])
      (second.intersperse [.words separator]) := by
  induction same with
  | nil => exact .nil
  | cons part rest ih =>
    cases rest with
    | nil => exact .cons part .nil
    | cons _ _ => exact .cons part (.cons (same_self _) ih)

private theorem same_intercalate (separator : String) {first second : List Statement}
    (same : List.Forall₂ (List.Forall₂ Same) first second) :
    List.Forall₂ Same ([Piece.words separator].intercalate first)
      ([Piece.words separator].intercalate second) :=
  List.rel_flatten (same_intersperse separator same)

private theorem same_clause {first second : List Statement} (same : List.Forall₂ (List.Forall₂ Same) first second) :
    List.Forall₂ Same (clause first) (clause second) := by
  cases same with
  | nil => exact .nil
  | cons condition rest => exact .cons (.words " WHERE ") (same_intercalate " AND " (.cons condition rest))

private theorem matchesType_eq {first second : Operand} (same : SameKind first second) (type : ColumnType) :
    first.matchesType type = second.matchesType type := by
  cases first <;> cases second <;> cases same <;> cases type <;> rfl

section

variable {first second : List Operand}

private theorem isNative_eq (kinds : List.Forall₂ SameKind first second) (type : ColumnType) :
    isNative type first = isNative type second := by
  have all : first.all (·.matchesType type) = second.all (·.matchesType type) := by
    induction kinds with
    | nil => rfl
    | cons same _ ih => rw [List.all_cons, List.all_cons, matchesType_eq same, ih]
  rw [isNative, isNative, all]

private theorem same_rightSide {first second : Operand} (same : SameKind first second) (native : Bool) :
    Same (rightSide native first) (rightSide native second) := by
  cases native with
  | true => exact .bound same
  | false => exact .bound rfl

private theorem same_placeholders (kinds : List.Forall₂ SameKind first second) (native : Bool) :
    List.Forall₂ Same ((first.map (rightSide native)).intersperse (.words ", "))
      ((second.map (rightSide native)).intersperse (.words ", ")) := by
  induction kinds with
  | nil => exact .nil
  | cons same rest ih =>
    cases rest with
    | nil => exact .cons (same_rightSide same native) .nil
    | cons _ _ => exact .cons (same_rightSide same native) (.cons (.words _) ih)

end

section

variable {table : Table}

private theorem same_condition {first second : Predicate} (alike : Alike first second) :
    Option.Rel (List.Forall₂ Same) (condition? table first) (condition? table second) := by
  obtain ⟨name, operator, operands⟩ := first
  obtain ⟨_, _, others⟩ := second
  obtain ⟨rfl, rfl, kinds⟩ := alike
  simp only at kinds
  simp only [condition?]
  cases table.column? name with
  | none => exact .none
  | some column =>
    simp only [Option.bind_some, isNative_eq kinds]
    generalize isNative column.type others = native
    have left (native : Bool) := same_self (leftSide native name)
    cases operator with
    | isIn =>
      have listed := List.rel_append (left native) (.cons (.words " IN (") (same_placeholders kinds native))
      exact .some (List.rel_append listed (same_self _))
    | like =>
      cases kinds with
      | nil => exact .none
      | cons _ _ => exact .some (List.rel_append (left false) (.cons (.words _) (.cons (.bound rfl) .nil)))
    | _ =>
      cases kinds with
      | nil => exact .none
      | cons same _ =>
        have right := same_rightSide same native
        exact .some (List.rel_append (left native) (.cons (.words _) (.cons right .nil)))

variable {first second : List Predicate}

private theorem same_whereClause (alike : List.Forall₂ Alike first second) :
    List.Forall₂ Same (whereClause table first) (whereClause table second) := by
  have each : (Alike ⇒ Option.Rel (List.Forall₂ Same)) (condition? table) (condition? table) :=
    fun _ _ => same_condition
  have stated : List.Forall₂ (List.Forall₂ Same) (conditions table first) (conditions table second) :=
    List.rel_filterMap each alike
  rw [whereClause_eq, whereClause_eq]
  exact same_clause stated

end

/-- Statements with one text, beside which operands of the same kinds are bound. -/
def SameText (first second : Statement) : Prop :=
  first.text = second.text ∧ List.Forall₂ SameKind first.operands second.operands

private theorem sameText_of_same {first second : Statement} (same : List.Forall₂ Same first second) :
    SameText first second :=
  ⟨text_eq same, kinds_of_same same⟩

/-- Predicates that differ in nothing but what their operands hold are stated by the same texts: that of
the rows of a plan, that of their count and that of the rows to attach. What the operands hold is in what is
bound, and there alone. -/
theorem texts_do_not_show_operands (schema : String) (table : Table) (sort : List SortField)
    (window : Window) (first second : List Predicate) (alike : List.Forall₂ Alike first second) :
    SameText (select schema table ⟨first, sort, window⟩) (select schema table ⟨second, sort, window⟩) ∧
      SameText (count schema table first) (count schema table second) ∧
      SameText (selectFiltered schema table first) (selectFiltered schema table second) := by
  have filtered : List.Forall₂ Same (whereClause table first) (whereClause table second) :=
    same_whereClause alike
  have rows : List.Forall₂ Same (selectWhere schema table first) (selectWhere schema table second) :=
    List.rel_append (List.rel_append (same_self _) filtered) (same_self _)
  have counted : List.Forall₂ Same (count schema table first) (count schema table second) :=
    List.rel_append (same_self _) filtered
  have ordered := List.rel_append rows (same_self (orderTerms table sort))
  have limited := List.rel_append ordered (same_self (limitClause window))
  have selected : List.Forall₂ Same (select schema table ⟨first, sort, window⟩)
      (select schema table ⟨second, sort, window⟩) :=
    List.rel_append limited (same_self (offsetClause window))
  have related : List.Forall₂ Same (selectFiltered schema table first)
      (selectFiltered schema table second) :=
    List.rel_append rows (same_self [.name table.primaryKey])
  exact ⟨sameText_of_same selected, sameText_of_same counted, sameText_of_same related⟩

theorem harmful_operands_leave_the_text :
    let first : List Predicate :=
      [⟨"name", .like, [.text "Ann"]⟩, ⟨"id", .isIn, [.integer 1, .text "x"]⟩, ⟨"id", .gte, [.integer 1]⟩]
    let second : List Predicate :=
      [⟨"name", .like, [.text "'; DROP TABLE people; --"]⟩,
        ⟨"id", .isIn, [.integer (-7), .text "$4) OR \"id\" IN ($1"]⟩, ⟨"id", .gte, [.integer 0]⟩]
    List.Forall₂ Alike first second ∧
      SameText (select "public" people ⟨first, [⟨"name", .descending⟩], ⟨5, some 10⟩⟩)
        (select "public" people ⟨second, [⟨"name", .descending⟩], ⟨5, some 10⟩⟩) ∧
      SameText (count "public" people first) (count "public" people second) ∧
      SameText (selectFiltered "public" people first) (selectFiltered "public" people second) := by
  intro first second
  have alike : List.Forall₂ Alike first second :=
    .cons ⟨rfl, rfl, .cons rfl .nil⟩
      (.cons ⟨rfl, rfl, .cons rfl (.cons rfl .nil)⟩ (.cons ⟨rfl, rfl, .cons rfl .nil⟩ .nil))
  exact ⟨alike, texts_do_not_show_operands "public" people [⟨"name", .descending⟩] ⟨5, some 10⟩ first
    second alike⟩

end ResourceQuery.Proofs.BoundOperands
