import ResourceQuery.Proofs.OnePassStatements

/-! Placeholders of statements. Whoever reads a statement and skips its names finds the numbers from one
on, each once and in order, and as many as operands are bound. The operands with the numbers of a
condition are those that its predicate binds; a predicate without a condition binds none. -/

namespace ResourceQuery.Proofs.Placeholders
open Filtering Number Numerals OnePassStatements PlannedStatements QuotedNames Sql

def leadingDigits : List Token → List Char
  | .outside character :: rest => if character.isDigit then character :: leadingDigits rest else []
  | _ => []

/-- The digits behind each dollar sign. -/
def numerals : List Token → List (List Char)
  | [] => []
  | .name _ :: rest => numerals rest
  | .outside character :: rest =>
    if character = '$' then leadingDigits rest :: numerals rest else numerals rest

/-- The numbers of the placeholders in a text, as they are written, outside of names. -/
def placeholders? (text : String) : Option (List (List Char)) :=
  (scan .outside text.toList).map numerals

private theorem leadingDigits_append {digits : List Char} (all : ∀ digit ∈ digits, digit.isDigit = true)
    (rest : List Token) : leadingDigits (digits.map .outside ++ rest) = digits ++ leadingDigits rest := by
  induction digits with
  | nil => rfl
  | cons digit digits ih =>
    obtain ⟨first, others⟩ := List.forall_mem_cons.mp all
    rw [List.map_cons, List.cons_append, leadingDigits, if_pos first, ih others]
    rfl

private theorem numerals_append {text : List Char} (free : '$' ∉ text) (rest : List Token) :
    numerals (text.map .outside ++ rest) = numerals rest := by
  induction text with
  | nil => rfl
  | cons character text ih =>
    simp only [List.mem_cons, not_or] at free
    rw [List.map_cons, List.cons_append, numerals, if_neg (Ne.symm free.1), ih free.2]

/-- A statement behind which no number in front of it goes on. -/
def EndsNumber : Statement → Prop
  | .words text :: _ => ∃ first rest, text.toList = first :: rest ∧ first.isDigit = false
  | _ => True

private theorem leadingDigits_tokensFrom {statement : Statement} (ends : EndsNumber statement) (next : Nat) :
    leadingDigits (tokensFrom next statement) = [] := by
  cases statement with
  | nil => rfl
  | cons piece rest =>
    cases piece with
    | name identifier => rfl
    | bound operand => rfl
    | words text =>
      obtain ⟨first, others, same, other⟩ := ends
      rw [tokensFrom, same, List.map_cons, List.cons_append, leadingDigits, if_neg (by simp [other])]

/-- A statement without dollar signs but for its placeholders, of which no number goes on in what
follows. -/
inductive Clear : Statement → Prop where
  | nil : Clear []
  | words {text : String} {rest : Statement} (free : '$' ∉ text.toList) (after : Clear rest) :
    Clear (.words text :: rest)
  | name {identifier : String} {rest : Statement} (after : Clear rest) :
    Clear (.name identifier :: rest)
  | bound {operand : Operand} {rest : Statement} (ends : EndsNumber rest) (after : Clear rest) :
    Clear (.bound operand :: rest)

section

variable {first second : Statement}

theorem EndsNumber.append (ends : EndsNumber first) (also : EndsNumber second) :
    EndsNumber (first ++ second) := by
  cases first with
  | nil => exact also
  | cons piece rest => cases piece <;> exact ends

theorem Clear.append (clear : Clear first) (after : Clear second) (ends : EndsNumber second) :
    Clear (first ++ second) := by
  induction clear with
  | nil => exact after
  | words free _ ih => exact .words free ih
  | name _ ih => exact .name ih
  | bound ended _ ih => exact .bound (ended.append ends) ih

private theorem tokensFrom_append (next : Nat) :
    tokensFrom next (first ++ second) =
      tokensFrom next first ++ tokensFrom (next + first.operands.length) second := by
  induction first generalizing next with
  | nil => rfl
  | cons piece rest ih =>
    cases piece with
    | bound operand => simp [tokensFrom, Statement.operands, ih, Nat.add_assoc, Nat.add_comm 1]
    | _ => simp [tokensFrom, Statement.operands, ih]

end

private theorem Clear.numerals_tokensFrom {statement : Statement} (clear : Clear statement) (next : Nat) :
    numerals (tokensFrom next statement) =
      (List.range' next statement.operands.length).map digits := by
  induction clear generalizing next with
  | nil => rfl
  | words free _ ih =>
    rw [tokensFrom, numerals_append free]
    exact ih next
  | name _ ih => exact ih next
  | @bound operand rest ends _ ih =>
    have number :
        leadingDigits ((digits next).map .outside ++ tokensFrom (next + 1) rest) = digits next := by
      rw [leadingDigits_append fun _ member => isDigit_of_mem_digits member,
        leadingDigits_tokensFrom ends, List.append_nil]
    have free : '$' ∉ digits next := fun member => absurd (isDigit_of_mem_digits member) (by decide)
    have counted : Statement.operands (.bound operand :: rest) = operand :: rest.operands := rfl
    rw [tokensFrom, List.map_cons, List.cons_append, numerals, if_pos rfl, number, numerals_append free,
      ih, counted, List.length_cons, List.range'_succ, List.map_cons]

private theorem clear_intercalate {separator : String} (free : '$' ∉ separator.toList)
    (ends : EndsNumber [.words separator]) {parts : List Statement} (clear : ∀ part ∈ parts, Clear part) :
    Clear ([Piece.words separator].intercalate parts) := by
  induction parts with
  | nil => exact .nil
  | cons part rest ih =>
    obtain ⟨first, others⟩ := List.forall_mem_cons.mp clear
    cases rest with
    | nil => simpa using first
    | cons other rest =>
      rw [List.intercalate_cons_cons, List.append_assoc]
      apply first.append
      · exact .words free (ih others)
      · exact ends

private theorem clear_comparison (operator : Operator) (bound : List Operand) :
    Clear (comparison operator bound) := by
  cases operator with
  | isIn =>
    have placed : Clear ((bound.map .bound).intersperse (.words ", ")) := by
      rw [intersperse_eq, List.map_map]
      apply clear_intercalate (by decide) ⟨_, _, rfl, rfl⟩
      intro part member
      obtain ⟨operand, -, rfl⟩ := List.mem_map.mp member
      exact .bound trivial .nil
    apply Clear.words (by decide)
    apply placed.append
    · exact .words (by decide) .nil
    · exact ⟨_, _, rfl, rfl⟩
  | _ =>
    apply Clear.words (by decide)
    induction bound with
    | nil => exact .nil
    | cons operand rest ih =>
      apply Clear.bound _ ih
      cases rest <;> exact trivial

private theorem clear_condition (native : Bool) (name : String) (operator : Operator) (bound : List Operand) :
    Clear (leftSide native name ++ comparison operator bound) := by
  have compared := clear_comparison operator bound
  cases native with
  | true => exact .name compared
  | false => exact .name (.words (by decide) compared)

section

variable {table : Table} {predicates : List Predicate}

private theorem clear_conditions : ∀ condition ∈ conditions table predicates, Clear condition := by
  intro condition member
  obtain ⟨predicate, -, stated⟩ := List.mem_filterMap.mp member
  obtain ⟨column, -, rfl⟩ := condition?_eq_some stated
  exact clear_condition _ _ _ _

private theorem clear_whereClause : Clear (whereClause table predicates) := by
  rw [whereClause_eq]
  have clear := @clear_conditions table predicates
  cases listed : conditions table predicates with
  | nil => exact .nil
  | cons first rest =>
    rw [listed] at clear
    apply Clear.words (by decide)
    exact clear_intercalate (by decide) ⟨_, _, rfl, rfl⟩ clear

private theorem endsNumber_whereClause : EndsNumber (whereClause table predicates) := by
  rw [whereClause_eq]
  cases conditions table predicates with
  | nil => exact trivial
  | cons first rest => exact ⟨_, _, rfl, rfl⟩

end

private theorem clear_selectList (table : Table) : Clear (selectList table) := by
  apply clear_intercalate (by decide) ⟨_, _, rfl, rfl⟩
  intro part member
  obtain ⟨column, -, rfl⟩ := List.mem_map.mp member
  unfold selected
  split
  · exact .name (.words (by decide) (.name .nil))
  · exact .name .nil

private theorem clear_orderTerms (table : Table) (sort : List SortField) : Clear (orderTerms table sort) := by
  cases sort with
  | nil => exact .name .nil
  | cons first rest =>
    have terms : ∀ part ∈ (first :: rest).map sortTerm, Clear part := by
      intro part member
      obtain ⟨field, -, rfl⟩ := List.mem_map.mp member
      apply Clear.name
      cases field.direction <;> exact .words (by decide) .nil
    exact @clear_intercalate ", " (by decide) ⟨_, _, rfl, rfl⟩ _ terms

private theorem clear_numbered {word : String} (free : '$' ∉ word.toList) (ends : EndsNumber [.words word])
    (value : Nat) : Clear (numbered word value) ∧ EndsNumber (numbered word value) := by
  have letters : (word ++ integerText value).toList = word.toList ++ (integerText value).toList :=
    String.toList_append
  constructor
  · apply Clear.words _ .nil
    rw [letters, List.mem_append, not_or]
    exact ⟨free, notMem_integerText (by decide) value⟩
  · obtain ⟨first, rest, same, other⟩ := ends
    refine ⟨first, rest ++ (integerText value).toList, ?_, other⟩
    rw [letters, same, List.cons_append]

private theorem clear_window (window : Window) :
    Clear (limitClause window ++ offsetClause window) ∧
      EndsNumber (limitClause window ++ offsetClause window) := by
  have limit : Clear (limitClause window) ∧ EndsNumber (limitClause window) := by
    unfold limitClause
    cases window.limit with
    | none => exact ⟨.nil, trivial⟩
    | some limit => exact clear_numbered (by decide) ⟨_, _, rfl, rfl⟩ limit
  have offset : Clear (offsetClause window) ∧ EndsNumber (offsetClause window) := by
    unfold offsetClause
    split
    · exact clear_numbered (by decide) ⟨_, _, rfl, rfl⟩ window.start
    · exact ⟨.nil, trivial⟩
  exact ⟨limit.1.append offset.1 offset.2, limit.2.append offset.2⟩

/-- A statement with the conditions of predicates, and nothing bound in front of them or behind them. -/
structure Framed (table : Table) (predicates : List Predicate) (statement head tail : Statement) : Prop where
  split : statement = head ++ whereClause table predicates ++ tail
  front : head.operands = []
  back : tail.operands = []
  clear : Clear head
  clear' : Clear tail
  ends : EndsNumber tail

section

variable (schema : String) (table : Table) (predicates : List Predicate)

def selectHead : Statement :=
  .words "SELECT " :: (selectList table ++ .words " FROM " :: source schema table)

def selectTail (sort : List SortField) (window : Window) : Statement :=
  .words " ORDER BY " :: (orderTerms table sort ++ (limitClause window ++ offsetClause window))

def countHead : Statement :=
  .words "SELECT COUNT(*) FROM " :: source schema table

theorem framed_select (sort : List SortField) (window : Window) :
    Framed table predicates (select schema table ⟨predicates, sort, window⟩) (selectHead schema table)
      (selectTail table sort window) where
  split := by simp [select, selectWhere, selectHead, selectTail]
  front := by
    rw [selectHead, operands_words, operands_append, operands_selectList]
    rfl
  back := by
    rw [selectTail, operands_words, operands_append, operands_orderTerms, (window_clauses window).2]
    rfl
  clear := by
    apply Clear.words (by decide)
    apply (clear_selectList table).append
    · exact .words (by decide) (.name (.words (by decide) (.name .nil)))
    · exact ⟨_, _, rfl, rfl⟩
  clear' := by
    apply Clear.words (by decide)
    obtain ⟨clear, ends⟩ := clear_window window
    exact (clear_orderTerms table sort).append clear ends
  ends := ⟨_, _, rfl, rfl⟩

theorem framed_count :
    Framed table predicates (count schema table predicates) (countHead schema table) [] where
  split := by rw [List.append_nil]; rfl
  front := rfl
  back := rfl
  clear := .words (by decide) (.name (.words (by decide) (.name .nil)))
  clear' := .nil
  ends := trivial

end

private theorem intercalate_split (separator : String) (before : List Statement) (part : Statement)
    (after : List Statement) : ∃ front back : Statement,
      [Piece.words separator].intercalate (before ++ part :: after) = front ++ part ++ back ∧
        front.operands = before.flatMap Statement.operands := by
  induction before with
  | nil =>
    cases after with
    | nil => exact ⟨[], [], by simp, rfl⟩
    | cons next rest =>
      refine ⟨[], .words separator :: [Piece.words separator].intercalate (next :: rest), ?_, rfl⟩
      rw [List.nil_append, List.intercalate_cons_cons, List.append_assoc]
      rfl
  | cons first rest ih =>
    obtain ⟨front, back, split, bound⟩ := ih
    refine ⟨first ++ .words separator :: front, back, ?_, ?_⟩
    · obtain ⟨next, others, same⟩ := List.exists_cons_of_ne_nil (by simp : rest ++ part :: after ≠ [])
      rw [List.cons_append, same, List.intercalate_cons_cons, ← same, split]
      simp
    · rw [operands_append, operands_words, bound, List.flatMap_cons]

private theorem clause_split (before : List Statement) (condition : Statement) (after : List Statement) :
    ∃ front back : Statement, clause (before ++ condition :: after) = front ++ condition ++ back ∧
      front.operands = before.flatMap Statement.operands := by
  obtain ⟨front, back, split, bound⟩ := intercalate_split " AND " before condition after
  refine ⟨.words " WHERE " :: front, back, ?_, bound⟩
  rw [List.cons_append, List.cons_append, ← split]
  cases before <;> rfl

namespace Framed

variable {table : Table} {predicates : List Predicate} {statement head tail : Statement}

theorem operands_eq (framed : Framed table predicates statement head tail) :
    statement.operands = predicates.flatMap (bindings table) := by
  rw [framed.split, operands_append, operands_append, framed.front, framed.back, List.nil_append,
    List.append_nil, operands_whereClause]

private theorem clear_statement (framed : Framed table predicates statement head tail) : Clear statement := by
  rw [framed.split]
  apply Clear.append _ framed.clear' framed.ends
  exact framed.clear.append clear_whereClause endsNumber_whereClause

/-- The numbers of a condition follow those of the conditions in front of it. -/
private theorem condition_numbers (framed : Framed table predicates statement head tail)
    {before after : List Predicate} {predicate : Predicate} {condition : Statement}
    (listed : predicates = before ++ predicate :: after)
    (stated : condition? table predicate = some condition) :
    ∃ front back, tokensFrom 1 statement = front ++
      tokensFrom ((before.flatMap (bindings table)).length + 1) condition ++ back := by
  have parts : conditions table predicates =
      conditions table before ++ condition :: conditions table after := by
    rw [listed, conditions, List.filterMap_append, List.filterMap_cons, stated]
    rfl
  obtain ⟨front, back, split, bound⟩ := clause_split (conditions table before) condition
    (conditions table after)
  have numbered : (head ++ front).operands.length = (before.flatMap (bindings table)).length := by
    rw [operands_append, framed.front, List.nil_append, bound, operands_conditions]
  have whole : statement = (head ++ front) ++ (condition ++ (back ++ tail)) := by
    rw [framed.split, whereClause_eq, parts, split]
    simp only [List.append_assoc]
  have split (front condition back : Statement) : tokensFrom 1 (front ++ (condition ++ back)) =
      tokensFrom 1 front ++ tokensFrom (front.operands.length + 1) condition ++
        tokensFrom (front.operands.length + 1 + condition.operands.length) back := by
    rw [tokensFrom_append, tokensFrom_append, Nat.add_comm 1, List.append_assoc]
  rw [whole, split, numbered]
  exact ⟨_, _, rfl⟩

end Framed

/-- A statement whose placeholders and operands match, and a writer of it. -/
structure Numbered (table : Table) (predicates : List Predicate) (statement : Statement)
    (writer : Writer String) : Prop where
  /-- The operands are what the predicates bind, in their order. -/
  bound : statement.operands = predicates.flatMap (bindings table)
  /-- A predicate without a condition leaves no operand behind. -/
  dropped : ∀ predicate, condition? table predicate = none → bindings table predicate = []
  /-- There is one placeholder for each operand, and they count from one on. -/
  counted : placeholders? statement.text = some ((List.range' 1 statement.operands.length).map digits)
  /-- The placeholders of a condition have the numbers of what its predicate binds. -/
  placed : ∀ before predicate after condition, predicates = before ++ predicate :: after →
    condition? table predicate = some condition → ∃ native front back,
      condition = leftSide native predicate.column ++
        comparison predicate.operator (bindings table predicate) ∧
      scan .outside statement.text.toList = some (front ++
        tokensFrom ((before.flatMap (bindings table)).length + 1) condition ++ back)
  /-- What is written and bound in one pass is the text with its operands. -/
  written : writer.run [] = (statement.text, statement.operands)

private theorem numbered_of_framed {table : Table} {predicates : List Predicate}
    {statement head tail : Statement} (framed : Framed table predicates statement head tail)
    {names : List String} (spaced : Spaced statement names) {writer : Writer String}
    (written : writer.run [] = (statement.text, statement.operands)) :
    Numbered table predicates statement writer := by
  have scanned : scan .outside statement.text.toList = some (tokensFrom 1 statement) := by
    rw [Statement.text, String.toList_ofList, spaced.scan_charactersFrom]
  refine ⟨framed.operands_eq, ?_, ?_, ?_, written⟩
  · intro predicate none
    rw [bindings_eq, none]
    rfl
  · rw [placeholders?, scanned, Option.map_some, framed.clear_statement.numerals_tokensFrom]
  · intro before predicate after condition listed stated
    obtain ⟨column, -, same⟩ := condition?_eq_some stated
    obtain ⟨front, back, split⟩ := framed.condition_numbers listed stated
    exact ⟨_, front, back, same, scanned.trans (congrArg some split)⟩

/-- In each statement of a table the placeholders count from one on, without a gap or a repetition, up to the
number of operands, and the operands with the numbers of a condition are what its predicate binds; this is
nothing for a predicate that is dropped. Written in one pass, with each operand bound when its placeholder
is written and numbers of 32 bits, the statements have the same texts and the same operands. -/
theorem placeholders_stand_for_operands (schema : String) (table : Table) (predicates : List Predicate)
    (sort : List SortField) (window : Window)
    (few : (predicates.flatMap (bindings table)).length < 2 ^ 32) :
    Numbered table predicates (select schema table ⟨predicates, sort, window⟩)
        (writeSelect schema table ⟨predicates, sort, window⟩) ∧
      Numbered table predicates (count schema table predicates) (writeCount schema table predicates) ∧
      Numbered table predicates (selectFiltered schema table predicates)
        (writeSelectFiltered schema table predicates) := by
  obtain ⟨selected, counted, related⟩ := written_statements schema table predicates sort window few
  refine ⟨?_, ?_, ?_⟩
  · have framed := framed_select schema table predicates sort window
    exact numbered_of_framed framed (spaced_select _ _ _) selected
  · exact numbered_of_framed (framed_count schema table predicates) (spaced_count _ _ _) counted
  · rw [selectFiltered_eq] at related ⊢
    have framed := framed_select schema table predicates [] .unbounded
    exact numbered_of_framed framed (spaced_select _ _ _) related

/-- Predicates on a missing column or without an operand are dropped, surplus operands are left out, and
dollar signs in names and operands count for nothing. -/
theorem four_of_eight_operands_are_bound :
    let table : Table := { people with name := "pay$9" }
    let predicates : List Predicate :=
      [⟨"ghost", .eq, [.integer 1]⟩, ⟨"name", .like, [.text "5%$7", .text "rest"]⟩, ⟨"name", .ne, []⟩,
        ⟨"id", .isIn, [.integer 1, .text "x"]⟩, ⟨"id", .gte, [.integer 7, .integer 8, .integer 9]⟩]
    (predicates.flatMap (bindings table)).length < 2 ^ 32 ∧
      placeholders? (count "public" table predicates).text = some [['1'], ['2'], ['3'], ['4']] ∧
      (count "public" table predicates).operands =
        [.text "%5\\%$7%", .text "1", .text "x", .integer 7] := by
  intro table predicates
  have bound : predicates.flatMap (bindings table) =
      [.text "%5\\%$7%", .text "1", .text "x", .integer 7] := by decide
  have few : (predicates.flatMap (bindings table)).length < 2 ^ 32 := by rw [bound]; decide
  obtain ⟨-, counted, -⟩ := placeholders_stand_for_operands "public" table predicates [] .unbounded few
  have operands := counted.bound.trans bound
  have numbers := counted.counted
  rw [operands] at numbers
  exact ⟨few, numbers, operands⟩

end ResourceQuery.Proofs.Placeholders
