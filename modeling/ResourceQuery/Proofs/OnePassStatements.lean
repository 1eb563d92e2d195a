import ResourceQuery.Proofs.ListedAlternatives

/-! Statements written in one pass. A writer goes through the predicates once, binds each operand when it
comes to it and numbers its placeholder by how many are bound by then. What it writes is the text of the
statement, and what it binds are the operands of the statement, each from the predicate that it belongs
to: placeholders and operands do not get out of step, wherever the writer breaks off or leaves operands
over. -/

namespace ResourceQuery.Proofs.OnePassStatements
open ListedAlternatives Number PlannedStatements QuotedNames Sql

/-- The operands that a predicate is compared with: all of several alternatives, and otherwise the
first. -/
def used (predicate : Predicate) : List Operand :=
  match predicate.operator with
  | .isIn => predicate.operands
  | _ => predicate.operands.take 1

def comparesValues (type : ColumnType) (predicate : Predicate) : Bool :=
  predicate.operator ≠ .like && isNative type predicate.operands

def rendered (type : ColumnType) (predicate : Predicate) (operand : Operand) : Operand :=
  match predicate.operator with
  | .like => .text (likePattern operand.asText)
  | _ => boundAs (isNative type predicate.operands) operand

/-- What a predicate binds. A predicate on a column that the table does not have binds nothing. -/
def bindings (table : Table) (predicate : Predicate) : List Operand :=
  match table.column? predicate.column with
  | none => []
  | some column => (used predicate).map (rendered column.type predicate)

section

variable {table : Table} {predicate : Predicate}

private theorem condition?_stated {column : Column} (found : table.column? predicate.column = some column)
    (stated : isStated table predicate = true) :
    condition? table predicate = some (leftSide (comparesValues column.type predicate) predicate.column ++
      comparison predicate.operator (bindings table predicate)) := by
  obtain ⟨name, operator, operands⟩ := predicate
  have known : table.hasColumn name = true := Option.isSome_iff_exists.mpr ⟨column, found⟩
  rw [isStated, known, Bool.true_and] at stated
  cases operator with
  | isIn =>
    rw [condition?_isIn found, bindings, found]
    rfl
  | _ =>
    cases operands with
    | nil => cases stated
    | cons first rest =>
      simp only [condition?, bindings, found, Option.bind_some, List.head?_cons, Option.map_some]
      rfl

private theorem condition?_dropped (dropped : isStated table predicate = false) :
    condition? table predicate = none := by
  rw [← Option.not_isSome_iff_eq_none, isSome_condition?, dropped]
  exact Bool.false_ne_true

private theorem dropped_cases (dropped : isStated table predicate = false) :
    table.column? predicate.column = none ∨ predicate.operator ≠ .isIn ∧ predicate.operands = [] := by
  rw [isStated, Bool.and_eq_false_iff] at dropped
  rcases dropped with missing | empty
  · exact .inl (by simpa [Table.hasColumn] using missing)
  · exact .inr (by simpa using empty)

private theorem used_single (single : predicate.operator ≠ .isIn) :
    used predicate = predicate.operands.take 1 := by
  unfold used
  split
  · exact absurd ‹_› single
  · rfl

private theorem bindings_dropped (dropped : isStated table predicate = false) : bindings table predicate = [] := by
  rw [bindings]
  rcases dropped_cases dropped with missing | ⟨single, empty⟩
  · rw [missing]
  · rw [used_single single, empty]
    cases table.column? predicate.column <;> rfl

end

/-- A writer knows what is bound so far. -/
abbrev Writer := StateM (List Operand)

/-- Binds an operand behind all others. The number of its placeholder, which has 32 bits, tells how many
operands there are then. -/
def place (operand : Operand) : Writer (List Char) := do
  modify (· ++ [operand])
  return '$' :: digits ((← get).length % 2 ^ 32)

/-- Writes a condition, if a predicate has one. Alternatives are bound as they are listed; of other operands
only the first is bound, and none for a predicate that is dropped. -/
def writeCondition? (table : Table) (predicate : Predicate) : Writer (Option (List Char)) := do
  let some column := table.column? predicate.column | return none
  let native := isNative column.type predicate.operands
  let left := quoted predicate.column ++ if native then [] else "::text".toList
  match predicate.operator, predicate.operands with
  | .isIn, operands =>
    let placeholders ← operands.mapM fun operand => place (boundAs native operand)
    return some (left ++ " IN (".toList ++ ", ".toList.intercalate placeholders ++ [')'])
  | _, [] => return none
  | .like, operand :: _ =>
    let placeholder ← place (.text (likePattern operand.asText))
    return some (quoted predicate.column ++ "::text LIKE ".toList ++ placeholder)
  | operator, operand :: _ =>
    let placeholder ← place (boundAs native operand)
    return some (left ++ (sign operator).toList ++ placeholder)

def writeConditions (table : Table) : List Predicate → Writer (List (List Char))
  | [] => return []
  | predicate :: rest => do
    let condition ← writeCondition? table predicate
    return condition.toList ++ (← writeConditions table rest)

def writeClause (table : Table) (predicates : List Predicate) : Writer String := do
  match ← writeConditions table predicates with
  | [] => return ""
  | conditions => return " WHERE " ++ String.ofList (" AND ".toList.intercalate conditions)

def writeSelect (schema : String) (table : Table) (retrieval : Retrieval) : Writer String := do
  let filters ← writeClause table retrieval.predicates
  return "SELECT " ++ (selectList table).text ++ " FROM " ++ (source schema table).text ++ filters ++
    " ORDER BY " ++ (orderTerms table retrieval.sort).text ++ windowText retrieval.window

def writeCount (schema : String) (table : Table) (predicates : List Predicate) : Writer String := do
  let filters ← writeClause table predicates
  return "SELECT COUNT(*) FROM " ++ (source schema table).text ++ filters

def writeSelectFiltered (schema : String) (table : Table) (predicates : List Predicate) :
    Writer String := do
  let filters ← writeClause table predicates
  return "SELECT " ++ (selectList table).text ++ " FROM " ++ (source schema table).text ++ filters ++
    " ORDER BY " ++ String.ofList (quoted table.primaryKey)

def placeholdersFrom (next count : Nat) : List (List Char) :=
  (List.range' next count).map fun number => '$' :: digits number

section

variable {First Second : Type} {bound : List Operand}

private theorem run_bind (first : Writer First) (next : First → Writer Second) :
    (first >>= next).run bound = (next (first.run bound).1).run (first.run bound).2 :=
  rfl

private theorem run_pure (result : First) : (pure result : Writer First).run bound = (result, bound) :=
  rfl

private theorem run_place (operand : Operand) (few : bound.length + 1 < 2 ^ 32) :
    (place operand).run bound = ('$' :: digits (bound.length + 1), bound ++ [operand]) := by
  have placed : (place operand).run bound =
      ('$' :: digits ((bound ++ [operand]).length % 2 ^ 32), bound ++ [operand]) := rfl
  rw [placed, List.length_append, List.length_singleton, Nat.mod_eq_of_lt few]

private theorem run_placeAll (render : Operand → Operand) (operands : List Operand)
    (few : bound.length + operands.length < 2 ^ 32) :
    (operands.mapM fun operand => place (render operand)).run bound =
      (placeholdersFrom (bound.length + 1) operands.length, bound ++ operands.map render) := by
  induction operands generalizing bound with
  | nil => rw [List.mapM_nil, run_pure, List.map_nil, List.append_nil]; rfl
  | cons operand rest ih =>
    rw [List.length_cons] at few
    have first := @run_place bound (render operand) (by omega)
    have others := @ih (bound ++ [render operand]) (by simp; omega)
    rw [List.mapM_cons, run_bind, first, run_bind, others, run_pure, List.append_assoc]
    simp [placeholdersFrom, List.range'_succ]

end

/-- Parts of a statement, each written with the numbers that follow those of the parts before it. -/
def writtenFrom (next : Nat) : List Statement → List (List Char)
  | [] => []
  | part :: rest => part.charactersFrom next :: writtenFrom (next + part.operands.length) rest

private theorem charactersFrom_intercalate (next : Nat) (separator : String) (parts : List Statement) :
    Statement.charactersFrom next ([Piece.words separator].intercalate parts) =
      separator.toList.intercalate (writtenFrom next parts) := by
  induction parts generalizing next with
  | nil => rfl
  | cons part rest ih =>
    cases rest with
    | nil => simp [writtenFrom]
    | cons other rest =>
      have separated : (part ++ [Piece.words separator]).operands = part.operands :=
        (operands_append _ _).trans (List.append_nil _)
      rw [List.intercalate_cons_cons, charactersFrom_append, separated, ih, charactersFrom_append]
      simp [Statement.charactersFrom, writtenFrom]

private theorem writtenFrom_bound (next : Nat) (bound : List Operand) :
    writtenFrom next (bound.map fun operand => [.bound operand]) =
      placeholdersFrom next bound.length := by
  induction bound generalizing next with
  | nil => rfl
  | cons operand rest ih =>
    have counted : Statement.operands [.bound operand] = [operand] := rfl
    rw [List.map_cons, writtenFrom, counted, List.length_singleton, ih]
    simp [Statement.charactersFrom, placeholdersFrom, List.range'_succ]

/-- Single pieces are separated like parts. -/
theorem intersperse_eq (separator : Piece) (pieces : Statement) :
    pieces.intersperse separator = [separator].intercalate (pieces.map ([·])) := by
  induction pieces with
  | nil => rfl
  | cons piece rest ih =>
    cases rest with
    | nil => rfl
    | cons next rest =>
      rw [List.intersperse_cons_cons, ih]
      simp only [List.map_cons, List.intercalate_cons_cons, List.cons_append, List.nil_append]

private theorem charactersFrom_placeholders (next : Nat) (bound : List Operand) :
    Statement.charactersFrom next ((bound.map .bound).intersperse (.words ", ")) =
      ", ".toList.intercalate (placeholdersFrom next bound.length) := by
  rw [intersperse_eq, List.map_map, charactersFrom_intercalate]
  exact congrArg _ (writtenFrom_bound next bound)

private theorem charactersFrom_leftSide (next : Nat) (native : Bool) (name : String) (rest : Statement) :
    Statement.charactersFrom next (leftSide native name ++ rest) =
      (quoted name ++ if native then [] else "::text".toList) ++ Statement.charactersFrom next rest := by
  cases native with
  | true => simp [leftSide, Statement.charactersFrom]
  | false => simp [leftSide, Statement.charactersFrom]

private theorem charactersFrom_isIn (next : Nat) (bound : List Operand) :
    Statement.charactersFrom next (comparison .isIn bound) =
      " IN (".toList ++ ", ".toList.intercalate (placeholdersFrom next bound.length) ++ [')'] := by
  rw [comparison, List.cons_append, Statement.charactersFrom, charactersFrom_append,
    charactersFrom_placeholders, List.append_assoc]
  rfl

private theorem charactersFrom_single (next : Nat) {operator : Operator} (several : operator ≠ .isIn)
    (operand : Operand) : Statement.charactersFrom next (comparison operator [operand]) =
      (sign operator).toList ++ '$' :: digits next := by
  cases operator with
  | isIn => exact absurd rfl several
  | _ => simp [comparison, Statement.charactersFrom]

section

variable {table : Table} {bound : List Operand} {name : String} {column : Column}

private theorem run_isIn (found : table.column? name = some column) (operands : List Operand)
    (few : bound.length + operands.length < 2 ^ 32) :
    let native := isNative column.type operands
    (writeCondition? table ⟨name, .isIn, operands⟩).run bound =
      (some (Statement.charactersFrom (bound.length + 1)
          (leftSide native name ++ comparison .isIn (operands.map (boundAs native)))),
        bound ++ operands.map (boundAs native)) := by
  intro native
  have all := run_placeAll (boundAs native) operands few
  simp only [writeCondition?, found]
  rw [run_bind, all, run_pure, charactersFrom_leftSide, charactersFrom_isIn, List.length_map]
  simp only [native, List.append_assoc]

private theorem writeCondition?_single (found : table.column? name = some column) {operator : Operator}
    (several : operator ≠ .isIn) (operand : Operand) (rest : List Operand) :
    let predicate : Predicate := ⟨name, operator, operand :: rest⟩
    writeCondition? table predicate = do
      let placeholder ← place (rendered column.type predicate operand)
      return some ((quoted name ++ if comparesValues column.type predicate then [] else "::text".toList) ++
        ((sign operator).toList ++ placeholder)) := by
  intro predicate
  cases operator with
  | isIn => exact absurd rfl several
  | like =>
    have words : "::text LIKE ".toList = "::text".toList ++ (sign .like).toList := rfl
    simp only [writeCondition?, predicate, found, words, List.append_assoc]
    rfl
  | _ =>
    simp only [writeCondition?, predicate, found, List.append_assoc]
    rfl

private theorem run_single (found : table.column? name = some column) {operator : Operator}
    (several : operator ≠ .isIn) (operand : Operand) (rest : List Operand)
    (few : bound.length + 1 < 2 ^ 32) :
    let predicate : Predicate := ⟨name, operator, operand :: rest⟩
    (writeCondition? table predicate).run bound =
      (some (Statement.charactersFrom (bound.length + 1)
          (leftSide (comparesValues column.type predicate) name ++
            comparison operator [rendered column.type predicate operand])),
        bound ++ [rendered column.type predicate operand]) := by
  intro predicate
  have one := run_place (rendered column.type predicate operand) few
  rw [writeCondition?_single found several, run_bind, one, run_pure, charactersFrom_leftSide,
    charactersFrom_single _ several]

private theorem run_dropped {predicate : Predicate} (dropped : isStated table predicate = false) :
    (writeCondition? table predicate).run bound = (none, bound) := by
  rw [writeCondition?]
  rcases dropped_cases dropped with missing | ⟨single, empty⟩
  · rw [missing]
    rfl
  · rw [empty]
    cases table.column? predicate.column with
    | none => rfl
    | some column =>
      obtain ⟨name, operator, operands⟩ := predicate
      cases operator with
      | isIn => exact absurd rfl single
      | _ => rfl

private theorem run_writeCondition? (predicate : Predicate)
    (few : bound.length + (bindings table predicate).length < 2 ^ 32) :
    (writeCondition? table predicate).run bound =
      ((condition? table predicate).map (Statement.charactersFrom (bound.length + 1)),
        bound ++ bindings table predicate) := by
  cases stated : isStated table predicate with
  | false =>
    rw [run_dropped stated, condition?_dropped stated, bindings_dropped stated, List.append_nil]
    rfl
  | true =>
    obtain ⟨known, compared⟩ := Bool.and_eq_true_iff.mp stated
    obtain ⟨column, found⟩ := Option.isSome_iff_exists.mp known
    rw [condition?_stated found stated, Option.map_some]
    obtain ⟨name, operator, operands⟩ := predicate
    simp only [bindings, found] at few ⊢
    by_cases several : operator = .isIn
    · subst several
      have short : bound.length + operands.length < 2 ^ 32 := by simpa [used] using few
      exact run_isIn found operands short
    · cases operands with
      | nil => simp [several] at compared
      | cons operand rest =>
        rw [used_single several] at few ⊢
        exact run_single found several operand rest few

end

section

variable {table : Table}

/-- A condition has the left side of its predicate and what the predicate binds. -/
theorem condition?_eq_some {predicate : Predicate} {condition : Statement}
    (stated : condition? table predicate = some condition) :
    ∃ column, table.column? predicate.column = some column ∧
      condition = leftSide (comparesValues column.type predicate) predicate.column ++
        comparison predicate.operator (bindings table predicate) := by
  have some : isStated table predicate = true := by
    rw [← isSome_condition?, stated]
    rfl
  obtain ⟨column, found⟩ := Option.isSome_iff_exists.mp (Bool.and_eq_true_iff.mp some).1
  rw [condition?_stated found some, Option.some.injEq] at stated
  exact ⟨column, found, stated.symm⟩

private theorem operands_of_condition? {predicate : Predicate} {condition : Statement}
    (stated : condition? table predicate = some condition) :
    condition.operands = bindings table predicate := by
  obtain ⟨column, -, rfl⟩ := condition?_eq_some stated
  rw [operands_append, operands_comparison]
  cases comparesValues column.type predicate <;> rfl

/-- A predicate without a condition binds nothing. -/
theorem bindings_eq (predicate : Predicate) :
    bindings table predicate = (condition? table predicate).toList.flatMap Statement.operands := by
  cases stated : condition? table predicate with
  | none =>
    apply bindings_dropped
    rw [← isSome_condition?, stated]
    rfl
  | some condition =>
    rw [← operands_of_condition? stated]
    exact (List.flatMap_singleton _ _).symm

theorem conditions_cons (predicate : Predicate) (rest : List Predicate) :
    conditions table (predicate :: rest) = (condition? table predicate).toList ++ conditions table rest := by
  rw [conditions, List.filterMap_cons]
  cases condition? table predicate <;> rfl

theorem operands_conditions (predicates : List Predicate) :
    (conditions table predicates).flatMap Statement.operands = predicates.flatMap (bindings table) := by
  induction predicates with
  | nil => rfl
  | cons predicate rest ih =>
    rw [conditions_cons, List.flatMap_append, ih, ← bindings_eq, List.flatMap_cons]

theorem operands_whereClause (predicates : List Predicate) :
    (whereClause table predicates).operands = predicates.flatMap (bindings table) := by
  rw [whereClause_eq, operands_clause, operands_conditions]

/-- From one predicate to the next, the conditions written so far and the operands bound so far stay in
step. -/
private theorem run_writeConditions {bound : List Operand} (predicates : List Predicate)
    (few : bound.length + (predicates.flatMap (bindings table)).length < 2 ^ 32) :
    (writeConditions table predicates).run bound =
      (writtenFrom (bound.length + 1) (conditions table predicates),
        bound ++ predicates.flatMap (bindings table)) := by
  induction predicates generalizing bound with
  | nil => exact congrArg (_, ·) (List.append_nil bound).symm
  | cons predicate rest ih =>
    rw [List.flatMap_cons, List.length_append] at few
    have first := @run_writeCondition? table bound predicate (by omega)
    have others := @ih (bound ++ bindings table predicate) (by rw [List.length_append]; omega)
    rw [writeConditions, run_bind, first, run_bind, others, run_pure, conditions_cons, List.flatMap_cons]
    simp only [List.append_assoc, List.length_append, bindings_eq predicate]
    cases condition? table predicate with
    | none => rfl
    | some condition => simp [writtenFrom, Nat.add_right_comm]

private theorem run_writeClause (predicates : List Predicate)
    (few : (predicates.flatMap (bindings table)).length < 2 ^ 32) :
    (writeClause table predicates).run [] =
      ((whereClause table predicates).text, predicates.flatMap (bindings table)) := by
  have all := @run_writeConditions table [] predicates (by simpa using few)
  rw [writeClause, run_bind, all, whereClause_eq]
  cases listed : conditions table predicates with
  | nil => rfl
  | cons first rest =>
    have text := charactersFrom_intercalate 1 " AND " (first :: rest)
    rw [clause, text_words, Statement.text, text]
    · rfl
    · exact List.cons_ne_nil _ _

end

theorem selectFiltered_eq (schema : String) (table : Table) (predicates : List Predicate) :
    selectFiltered schema table predicates = select schema table ⟨predicates, [], .unbounded⟩ := by
  simp [selectFiltered, select, orderTerms, limitClause, offsetClause, Window.limit, Window.unbounded]

/-- Written in one pass, each of the statements of a table has its own text and its own operands. -/
theorem written_statements (schema : String) (table : Table) (predicates : List Predicate)
    (sort : List SortField) (window : Window)
    (few : (predicates.flatMap (bindings table)).length < 2 ^ 32) :
    (writeSelect schema table ⟨predicates, sort, window⟩).run [] =
        ((select schema table ⟨predicates, sort, window⟩).text,
          (select schema table ⟨predicates, sort, window⟩).operands) ∧
      (writeCount schema table predicates).run [] =
        ((count schema table predicates).text, (count schema table predicates).operands) ∧
      (writeSelectFiltered schema table predicates).run [] =
        ((selectFiltered schema table predicates).text,
          (selectFiltered schema table predicates).operands) := by
  have clause := run_writeClause predicates few
  have selected (sort : List SortField) (window : Window) :=
    select_eq schema table ⟨predicates, sort, window⟩
  have counted := count_eq schema table predicates
  refine ⟨?_, ?_, ?_⟩
  · rw [writeSelect, run_bind, clause, run_pure, (selected _ _).1, (selected _ _).2, operands_whereClause]
  · rw [writeCount, run_bind, clause, run_pure, counted.1, counted.2, operands_whereClause]
  · rw [writeSelectFiltered, run_bind, clause, run_pure, selectFiltered_eq, (selected _ _).1,
      (selected _ _).2, operands_whereClause]
    have key : (orderTerms table []).text = String.ofList (quoted table.primaryKey) := by
      simp [orderTerms, Statement.text, Statement.charactersFrom]
    have bounds : windowText .unbounded = "" := rfl
    rw [key, bounds, String.append_empty]

end ResourceQuery.Proofs.OnePassStatements
