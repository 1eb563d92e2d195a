import Mathlib.Algebra.GroupWithZero.Nat
import ResourceQuery.Proofs.FilterKeys
import ResourceQuery.Proofs.QuotedNames

/-! Statements of planned requests. Whatever a request asks for, each predicate of its plan can be
written as a condition, so no condition is lost on the way to the database; rows and their number are
asked for under the same conditions. -/

namespace ResourceQuery.Proofs.PlannedStatements
open FilterKeys Filtering Number QuotedNames Sql

/-- A predicate on a column of the table, with several operands where one of several values is asked for
and with a single one elsewhere. -/
def Fits (table : Table) (predicate : Predicate) : Prop :=
  table.hasColumn predicate.column = true ∧
    match predicate.operator with
    | .isIn => 2 ≤ predicate.operands.length
    | _ => predicate.operands.length = 1

private theorem fits_ofFilter {table : Table} {filter : Filter} {predicate : Predicate}
    (member : predicate ∈ Predicate.ofFilter table filter) : Fits table predicate := by
  have built := built_ofFilter table filter
  generalize Predicate.ofFilter table filter = predicates at built member
  obtain ⟨name, operator, operands⟩ := predicate
  cases built with
  | column known equality =>
    obtain ⟨rfl, ⟨rfl, one⟩ | ⟨rfl, several⟩⟩ := equality.equal _ member
    · exact ⟨known, one⟩
    · exact ⟨known, several⟩
  | operator other divides known =>
    obtain ⟨raw, -, same⟩ := List.mem_map.mp member
    cases same
    have single := divides.operator_ne
    refine ⟨known, ?_⟩
    cases operator <;> first | rfl | exact absurd rfl single
  | nothing => cases member

/-- How an operand is bound: searched for as a pattern, and otherwise as it is or as its text. -/
def Binds (operator : Operator) (operand bound : Operand) : Prop :=
  match operator with
  | .like => bound = .text (likePattern operand.asText)
  | _ => bound = operand ∨ bound = .text operand.asText

def comparison (operator : Operator) (bound : List Operand) : Statement :=
  match operator with
  | .isIn => .words " IN (" :: (bound.map .bound).intersperse (.words ", ") ++ [.words ")"]
  | operator => .words (sign operator) :: bound.map .bound

/-- What stands for a predicate: its column, or the text of its column, compared with a bound operand
for each of its operands. -/
def Renders (predicate : Predicate) (condition : Statement) : Prop :=
  ∃ native bound, List.Forall₂ (Binds predicate.operator) predicate.operands bound ∧
    condition = leftSide native predicate.column ++ comparison predicate.operator bound

private theorem condition?_of_fits {table : Table} {predicate : Predicate} (fits : Fits table predicate) :
    ∃ condition, condition? table predicate = some condition ∧ Renders predicate condition := by
  obtain ⟨name, operator, operands⟩ := predicate
  obtain ⟨known, sized⟩ := fits
  obtain ⟨column, found⟩ := Option.isSome_iff_exists.mp known
  have own (native : Bool) (operand : Operand) :
      (if native then operand else .text operand.asText) = operand ∨
        (if native then operand else .text operand.asText) = .text operand.asText := by
    cases native with
    | true => exact .inl rfl
    | false => exact .inr rfl
  simp only [condition?, found, Option.bind_some]
  cases operator with
  | isIn =>
    refine ⟨_, rfl, isNative column.type operands, operands.map fun operand =>
      if isNative column.type operands then operand else .text operand.asText, ?_, ?_⟩
    · rw [List.forall₂_map_right_iff, List.forall₂_same]
      exact fun operand _ => own _ operand
    · simp only [comparison, List.map_map, List.append_assoc]
      rfl
  | like =>
    obtain ⟨operand, rfl⟩ := List.length_eq_one_iff.mp sized
    exact ⟨_, rfl, false, [_], .cons rfl .nil, rfl⟩
  | _ =>
    obtain ⟨operand, rfl⟩ := List.length_eq_one_iff.mp sized
    exact ⟨_, rfl, isNative column.type [operand], [_], .cons (own _ operand) .nil, rfl⟩

private theorem conditions_render {table : Table} {predicates : List Predicate}
    (fit : ∀ predicate ∈ predicates, Fits table predicate) :
    List.Forall₂ Renders predicates (conditions table predicates) := by
  induction predicates with
  | nil => exact .nil
  | cons predicate rest ih =>
    obtain ⟨first, others⟩ := List.forall_mem_cons.mp fit
    obtain ⟨condition, stated, renders⟩ := condition?_of_fits first
    rw [conditions, List.filterMap_cons, stated]
    exact .cons renders (ih others)

theorem operands_append (first second : Statement) :
    (first ++ second).operands = first.operands ++ second.operands :=
  List.filterMap_append

private theorem operands_intercalate (separator : String) (parts : List Statement) :
    Statement.operands ([Piece.words separator].intercalate parts) = parts.flatMap Statement.operands := by
  induction parts with
  | nil => rfl
  | cons part rest ih =>
    cases rest with
    | nil => simp
    | cons next rest =>
      rw [List.intercalate_cons_cons, operands_append, ih, operands_append, List.flatMap_cons]
      exact congrArg (· ++ _) (List.append_nil _)

theorem operands_comparison (operator : Operator) (bound : List Operand) :
    (comparison operator bound).operands = bound := by
  have placed : Statement.operands (bound.map .bound) = bound := by
    simp [Statement.operands, List.filterMap_map]
  have separated : Statement.operands ((bound.map .bound).intersperse (.words ", ")) = bound := by
    clear placed
    induction bound with
    | nil => rfl
    | cons first rest ih =>
      cases rest with
      | nil => rfl
      | cons next rest => exact congrArg (first :: ·) ih
  cases operator with
  | isIn =>
    have closed := operands_append ((bound.map .bound).intersperse (.words ", ")) [.words ")"]
    rw [separated] at closed
    exact closed.trans (List.append_nil bound)
  | _ => exact placed

private theorem operands_of_renders {predicate : Predicate} {condition : Statement}
    (renders : Renders predicate condition) :
    List.Forall₂ (Binds predicate.operator) predicate.operands condition.operands := by
  obtain ⟨native, bound, binds, rfl⟩ := renders
  have unbound : (leftSide native predicate.column).operands = [] := by cases native <;> rfl
  rwa [operands_append, unbound, operands_comparison]

theorem charactersFrom_append (next : Nat) (first second : Statement) :
    (first ++ second).charactersFrom next =
      first.charactersFrom next ++ second.charactersFrom (next + first.operands.length) := by
  induction first generalizing next with
  | nil => rfl
  | cons piece rest ih =>
    cases piece with
    | bound operand =>
      simp [Statement.charactersFrom, Statement.operands, ih, Nat.add_assoc, Nat.add_comm 1]
    | _ => simp [Statement.charactersFrom, Statement.operands, ih]

private theorem charactersFrom_unbound {statement : Statement} (unbound : statement.operands = [])
    (next other : Nat) : statement.charactersFrom next = statement.charactersFrom other := by
  induction statement with
  | nil => rfl
  | cons piece rest ih =>
    cases piece with
    | bound operand => cases unbound
    | _ => simp only [Statement.charactersFrom, ih unbound]

private theorem text_append {first second : Statement}
    (unbound : first.operands = [] ∨ second.operands = []) :
    (first ++ second).text = first.text ++ second.text := by
  rw [← String.toList_inj, String.toList_append, Statement.text, Statement.text, Statement.text,
    String.toList_ofList, String.toList_ofList, String.toList_ofList, charactersFrom_append]
  rcases unbound with unbound | unbound
  · rw [unbound]
    rfl
  · rw [charactersFrom_unbound unbound]

theorem operands_clause (conditions : List Statement) :
    (clause conditions).operands = conditions.flatMap Statement.operands := by
  cases conditions with
  | nil => rfl
  | cons first rest => exact operands_intercalate " AND " (first :: rest)

theorem operands_selectList (table : Table) : (selectList table).operands = [] := by
  rw [selectList, operands_intercalate, List.flatMap_map, List.flatMap_eq_nil_iff]
  intro column _
  unfold selected
  split <;> rfl

theorem operands_orderTerms (table : Table) (sort : List SortField) :
    (orderTerms table sort).operands = [] := by
  cases sort with
  | nil => rfl
  | cons first rest =>
    have terms : (orderTerms table (first :: rest)).operands =
        ((first :: rest).map sortTerm).flatMap Statement.operands := operands_intercalate ", " _
    rw [terms, List.flatMap_map, List.flatMap_eq_nil_iff]
    exact fun field _ => rfl

def windowText (window : Window) : String :=
  (match window.limit with
    | some limit => " LIMIT " ++ integerText limit
    | none => "") ++
  if window.start = 0 then "" else " OFFSET " ++ integerText window.start

theorem text_words (text : String) (rest : Statement) :
    Statement.text (.words text :: rest) = text ++ Statement.text rest := by
  simp [Statement.text, Statement.charactersFrom, String.ofList_append]

theorem operands_words (text : String) (rest : Statement) :
    Statement.operands (.words text :: rest) = Statement.operands rest :=
  rfl

theorem window_clauses (window : Window) :
    Statement.text (limitClause window ++ offsetClause window) = windowText window ∧
      Statement.operands (limitClause window ++ offsetClause window) = [] := by
  have number (word : String) (value : Nat) : (numbered word value).text = word ++ integerText value ∧
      (numbered word value).operands = [] :=
    ⟨(text_words _ []).trans String.append_empty, rfl⟩
  have limit : (limitClause window).text =
      (match window.limit with
        | some limit => " LIMIT " ++ integerText limit
        | none => "") ∧ (limitClause window).operands = [] := by
    unfold limitClause
    cases window.limit with
    | none => exact ⟨rfl, rfl⟩
    | some limit => exact number " LIMIT " limit
  have offset : (offsetClause window).text =
      (if window.start = 0 then "" else " OFFSET " ++ integerText window.start) ∧
        (offsetClause window).operands = [] := by
    unfold offsetClause
    by_cases first : window.start = 0
    · rw [if_neg (Nat.not_lt_of_le (Nat.le_of_eq first)), if_pos first]
      exact ⟨rfl, rfl⟩
    · rw [if_pos (Nat.pos_of_ne_zero first), if_neg first]
      exact number " OFFSET " window.start
  rw [text_append (.inl limit.2), operands_append, limit.1, limit.2, offset.1, offset.2]
  exact ⟨rfl, rfl⟩

theorem select_eq (schema : String) (table : Table) (retrieval : Retrieval) :
    (select schema table retrieval).text =
      "SELECT " ++ (selectList table).text ++ " FROM " ++ (source schema table).text ++
        (whereClause table retrieval.predicates).text ++ " ORDER BY " ++
        (orderTerms table retrieval.sort).text ++ windowText retrieval.window ∧
    (select schema table retrieval).operands = (whereClause table retrieval.predicates).operands := by
  obtain ⟨window, unbound⟩ := window_clauses retrieval.window
  have columns := operands_selectList table
  have ordered := operands_orderTerms table retrieval.sort
  have tail : Statement.operands (.words " ORDER BY " :: (orderTerms table retrieval.sort ++
      (limitClause retrieval.window ++ offsetClause retrieval.window))) = [] := by
    rw [operands_words, operands_append, ordered, unbound]
    rfl
  have parts : select schema table retrieval = .words "SELECT " :: (selectList table ++
      .words " FROM " :: (source schema table ++ (whereClause table retrieval.predicates ++
        .words " ORDER BY " :: (orderTerms table retrieval.sort ++
          (limitClause retrieval.window ++ offsetClause retrieval.window))))) := by
    simp [select, selectWhere]
  rw [parts]
  constructor
  · rw [text_words, text_append (.inl columns), text_words, @text_append (source _ _) _ (.inl rfl),
      text_append (.inr tail), text_words, text_append (.inl ordered), window]
    simp only [String.append_assoc]
  · rw [operands_words, operands_append, columns, operands_words, operands_append, operands_append, tail,
      List.append_nil]
    rfl

theorem count_eq (schema : String) (table : Table) (predicates : List Predicate) :
    (count schema table predicates).text =
      "SELECT COUNT(*) FROM " ++ (source schema table).text ++ (whereClause table predicates).text ∧
    (count schema table predicates).operands = (whereClause table predicates).operands := by
  have parts : count schema table predicates =
      .words "SELECT COUNT(*) FROM " :: (source schema table ++ whereClause table predicates) := rfl
  rw [parts, text_words, text_append (.inl rfl), String.append_assoc]
  exact ⟨rfl, rfl⟩

private theorem length_operands {predicates : List Predicate} {conditions : List Statement}
    (rendered : List.Forall₂ Renders predicates conditions) :
    (conditions.flatMap Statement.operands).length = (predicates.map (·.operands.length)).sum := by
  induction rendered with
  | nil => rfl
  | cons renders _ ih =>
    rw [List.flatMap_cons, List.length_append, ih, ← (operands_of_renders renders).length_eq]
    rfl

/-- The plan of a request is written without loss. Its predicates are about columns of the table and
have the operands that they need, it sorts by columns, and its bounds fit a signed 64-bit word. The
rows and their number are asked for under the same conditions, one for each predicate in order, and
with the same bound operands, one for each operand. -/
theorem plans_are_stated_whole (schema : String) (table : Table) (parameters : Parameters) :
    let plan := Plan.ofIntent table (Intent.parse parameters)
    let retrieval := plan.retrieval
    (∀ predicate ∈ retrieval.predicates, Fits table predicate) ∧
    (∀ field ∈ retrieval.sort, table.hasColumn field.column = true) ∧
    retrieval.window.start ≤ Window.maxOffset ∧
    (∀ limit, retrieval.window.limit = some limit → limit ≤ Window.maxOffset) ∧
    ∃ conditions, List.Forall₂ Renders retrieval.predicates conditions ∧
      (select schema table retrieval).text =
        "SELECT " ++ (selectList table).text ++ " FROM " ++ (source schema table).text ++
          (clause conditions).text ++ " ORDER BY " ++ (orderTerms table retrieval.sort).text ++
          windowText retrieval.window ∧
      (count schema table plan.countPredicates).text =
        "SELECT COUNT(*) FROM " ++ (source schema table).text ++ (clause conditions).text ∧
      (select schema table retrieval).operands = conditions.flatMap Statement.operands ∧
      (count schema table plan.countPredicates).operands = conditions.flatMap Statement.operands ∧
      (conditions.flatMap Statement.operands).length =
        (retrieval.predicates.map (·.operands.length)).sum := by
  intro plan retrieval
  have fit : ∀ predicate ∈ retrieval.predicates, Fits table predicate := by
    intro predicate member
    obtain ⟨filter, -, member⟩ := List.mem_flatMap.mp member
    exact fits_ofFilter member
  have known : ∀ field ∈ retrieval.sort, table.hasColumn field.column = true :=
    fun field member => (List.mem_filter.mp member).2
  obtain ⟨offset, stops⟩ := Window.ofPagination_ordered (Intent.parse parameters).pagination
  have limit : ∀ limit, retrieval.window.limit = some limit → limit ≤ Window.maxOffset := by
    intro limit bounded
    obtain ⟨stop, reached, rfl⟩ := Option.map_eq_some_iff.mp bounded
    exact Nat.le_trans (Nat.sub_le _ _) (stops stop reached).2
  have rendered := conditions_render fit
  obtain ⟨selected, selectedOperands⟩ := select_eq schema table retrieval
  obtain ⟨counted, countedOperands⟩ := count_eq schema table plan.countPredicates
  rw [whereClause_eq] at selected counted
  rw [whereClause_eq, operands_clause] at selectedOperands countedOperands
  exact ⟨fit, known, offset, limit, conditions table retrieval.predicates, rendered, selected, counted,
    selectedOperands, countedOperands, length_operands rendered⟩

end ResourceQuery.Proofs.PlannedStatements
