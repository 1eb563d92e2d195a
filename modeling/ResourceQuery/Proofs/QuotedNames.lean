import Mathlib.Data.List.Forall2
import ResourceQuery.Proofs.Numerals
import ResourceQuery.Sql.Query

/-! Names in statements. A scan that knows nothing of SQL but how names are quoted finds exactly the
names that a statement is about, whatever these names are, and what it finds outside of them does not
depend on the names. So no name can end its quotes early. -/

namespace ResourceQuery.Proofs.QuotedNames
open Numerals Number Sql

inductive Token where
  | outside (character : Char)
  | name (identifier : String)

def Token.identifier? : Token → Option String
  | outside _ => none
  | name identifier => some identifier

/-- A character outside of names, or the gap that a name leaves. -/
def Token.gap : Token → Option Char
  | outside character => some character
  | name _ => none

/-- Where a scan stands. The letters of an unfinished name are kept last first. -/
inductive Place where
  | outside
  | inside (letters : List Char)
  /-- Behind a quote that closes the name, unless another one follows. -/
  | atQuote (letters : List Char)

/-- Reads a text from left to right: a quote opens a name, a doubled quote inside stands for one, and a
single one closes the name. A name that is never closed is no name. -/
def scan : Place → List Char → Option (List Token)
  | .outside, [] => some []
  | .inside _, [] => none
  | .atQuote letters, [] => some [.name (String.ofList letters.reverse)]
  | .outside, character :: rest =>
    if character = '"' then scan (.inside []) rest
    else (scan .outside rest).map (.outside character :: ·)
  | .inside letters, character :: rest =>
    if character = '"' then scan (.atQuote letters) rest
    else scan (.inside (character :: letters)) rest
  | .atQuote letters, character :: rest =>
    if character = '"' then scan (.inside ('"' :: letters)) rest
    else (scan .outside rest).map fun tokens =>
      .name (String.ofList letters.reverse) :: .outside character :: tokens

/-- The names in a text, decoded, in the order in which they stand. -/
def identifiers? (text : String) : Option (List String) :=
  (scan .outside text.toList).map (·.filterMap Token.identifier?)

/-- The characters of a text outside of names, with a gap for each name. -/
def outside? (text : String) : Option (List (Option Char)) :=
  (scan .outside text.toList).map (·.map Token.gap)

private theorem scan_inside (letters name rest : List Char) :
    scan (.inside letters)
        (name.flatMap (fun letter => if letter = '"' then ['"', '"'] else [letter]) ++ '"' :: rest) =
      scan (.atQuote (name.reverse ++ letters)) rest := by
  induction name generalizing letters with
  | nil => rfl
  | cons letter others ih =>
    by_cases quote : letter = '"'
    · subst quote
      simpa [scan] using ih ('"' :: letters)
    · simpa [scan, quote] using ih (letter :: letters)

private theorem scan_quoted (identifier : String) {rest : List Char} (apart : rest.head? ≠ some '"') :
    scan .outside (quoted identifier ++ rest) =
      (scan .outside rest).map (.name identifier :: ·) := by
  have opened : scan .outside (quoted identifier ++ rest) =
      scan (.atQuote identifier.toList.reverse) rest := by
    have inside := scan_inside [] identifier.toList rest
    rw [List.append_nil] at inside
    simpa [quoted, scan] using inside
  rw [opened]
  cases rest with
  | nil => simp [scan]
  | cons character rest =>
    have other : character ≠ '"' := by simpa using apart
    simp [scan, other, Function.comp_def]

private theorem scan_outside {text : List Char} (free : '"' ∉ text) (rest : List Char) :
    scan .outside (text ++ rest) = (scan .outside rest).map (text.map .outside ++ ·) := by
  induction text with
  | nil => simp
  | cons character text ih =>
    simp only [List.mem_cons, not_or] at free
    simp [scan, ih free.2, Ne.symm free.1, Function.comp_def]

/-- A statement with these names. None of them stands right behind another one, and the words between
them have no quotes. -/
inductive Spaced : Statement → List String → Prop where
  | nil : Spaced [] []
  | words {text : String} {rest : Statement} {names : List String} (some : text ≠ "")
    (free : '"' ∉ text.toList) (after : Spaced rest names) : Spaced (.words text :: rest) names
  | name {identifier : String} {rest : Statement} {names : List String}
    (apart : ∀ other, rest.head? ≠ some (.name other)) (after : Spaced rest names) :
    Spaced (.name identifier :: rest) (identifier :: names)
  | bound {operand : Operand} {rest : Statement} {names : List String} (after : Spaced rest names) :
    Spaced (.bound operand :: rest) names

theorem Spaced.append {first second : Statement} {names others : List String}
    (spaced : Spaced first names) (after : Spaced second others)
    (apart : ∀ other, second.head? ≠ some (.name other)) :
    Spaced (first ++ second) (names ++ others) := by
  induction spaced with
  | nil => exact after
  | words some free _ ih => exact .words some free ih
  | bound _ ih => exact .bound ih
  | @name identifier rest names alone _ ih =>
    refine .name ?_ ih
    cases rest with
    | nil => exact apart
    | cons piece rest => exact alone

theorem Spaced.intercalate {separator : String} (some : separator ≠ "")
    (free : '"' ∉ separator.toList) {parts : List Statement} {names : List (List String)}
    (spaced : List.Forall₂ Spaced parts names) :
    Spaced ([Piece.words separator].intercalate parts) names.flatten := by
  induction spaced with
  | nil => exact .nil
  | @cons part partNames rest restNames first others ih =>
    cases others with
    | nil => simpa using first
    | cons _ _ =>
      rw [List.intercalate_cons_cons, List.append_assoc, List.flatten_cons]
      apply first.append
      · exact .words some free ih
      · simp

private theorem Spaced.intercalate_map {Item : Type} {separator : String} (some : separator ≠ "")
    (free : '"' ∉ separator.toList) {part : Item → Statement} {names : Item → List String}
    (spaced : ∀ item, Spaced (part item) (names item)) (items : List Item) :
    Spaced ([Piece.words separator].intercalate (items.map part)) (items.flatMap names) := by
  apply Spaced.intercalate some free
  rw [List.forall₂_map_left_iff, List.forall₂_map_right_iff, List.forall₂_same]
  exact fun item _ => spaced item

def tokensFrom (next : Nat) : Statement → List Token
  | [] => []
  | .words text :: rest => text.toList.map .outside ++ tokensFrom next rest
  | .name identifier :: rest => .name identifier :: tokensFrom next rest
  | .bound _ :: rest => ('$' :: digits next).map .outside ++ tokensFrom (next + 1) rest

private theorem free_placeholder (number : Nat) : '"' ∉ '$' :: digits number := by
  intro member
  rcases List.mem_cons.mp member with equal | member
  · exact absurd equal (by decide)
  · exact absurd (isDigit_of_mem_digits member) (by decide)

theorem Spaced.scan_charactersFrom {statement : Statement} {names : List String}
    (spaced : Spaced statement names) (next : Nat) :
    scan .outside (statement.charactersFrom next) = some (tokensFrom next statement) := by
  induction spaced generalizing next with
  | nil => rfl
  | words _ free _ ih =>
    rw [Statement.charactersFrom, scan_outside free, ih, Option.map_some, tokensFrom]
  | bound _ ih =>
    rw [Statement.charactersFrom, scan_outside (free_placeholder next), ih, Option.map_some,
      tokensFrom]
  | @name identifier rest names alone after ih =>
    have apart : (Statement.charactersFrom next rest).head? ≠ some '"' := by
      cases after with
      | nil => simp [Statement.charactersFrom]
      | @words text rest names some free _ =>
        obtain ⟨first, others, same⟩ := List.exists_cons_of_ne_nil
          (fun none => some (String.toList_inj.mp none) : text.toList ≠ [])
        rw [same] at free
        simpa [Statement.charactersFrom, same, eq_comm] using List.ne_of_not_mem_cons free
      | bound _ => simp [Statement.charactersFrom]
      | name _ _ => exact absurd rfl (alone _)
    rw [Statement.charactersFrom, scan_quoted identifier apart, ih, Option.map_some, tokensFrom]

private theorem Spaced.identifiers?_text {statement : Statement} {names : List String}
    (spaced : Spaced statement names) : identifiers? statement.text = some names := by
  have found (next : Nat) : (tokensFrom next statement).filterMap Token.identifier? = names := by
    induction spaced generalizing next with
    | nil => rfl
    | words _ _ _ ih => simp [tokensFrom, Token.identifier?, Function.comp_def, ih]
    | name _ _ ih => simp [tokensFrom, Token.identifier?, ih]
    | bound _ ih => simp [tokensFrom, List.filterMap_cons, Token.identifier?, Function.comp_def, ih]
  rw [identifiers?, Statement.text, String.toList_ofList, spaced.scan_charactersFrom, Option.map_some,
    found]

def blank : Piece → Piece
  | .name _ => .name ""
  | piece => piece

private theorem map_gap_tokensFrom (next : Nat) (statement : Statement) :
    (tokensFrom next statement).map Token.gap = (tokensFrom next (statement.map blank)).map Token.gap := by
  induction statement generalizing next with
  | nil => rfl
  | cons piece rest ih => cases piece <;> simp [tokensFrom, Token.gap, blank, ih]

/-- Statements that differ in names alone look alike outside of them. -/
private theorem Spaced.outside?_text {first second : Statement} {names others : List String}
    (spaced : Spaced first names) (also : Spaced second others)
    (same : first.map blank = second.map blank) : outside? first.text = outside? second.text := by
  rw [outside?, outside?, Statement.text, Statement.text, String.toList_ofList, String.toList_ofList,
    spaced.scan_charactersFrom, also.scan_charactersFrom, Option.map_some, Option.map_some,
    map_gap_tokensFrom 1 first, map_gap_tokensFrom 1 second, same]

private theorem spaced_leftSide (native : Bool) (column : String) {rest : Statement} (after : Spaced rest [])
    (apart : ∀ other, rest.head? ≠ some (.name other)) :
    Spaced (leftSide native column ++ rest) [column] := by
  cases native with
  | true => exact .name apart after
  | false => exact .name (by simp) (.words (by decide) (by decide) after)

private theorem spaced_placeholders (native : Bool) (operands : List Operand) :
    Spaced ((operands.map (rightSide native)).intersperse (.words ", ")) [] := by
  induction operands with
  | nil => exact .nil
  | cons operand rest ih =>
    cases rest with
    | nil => exact .bound .nil
    | cons next rest => exact .bound (.words (by decide) (by decide) ih)

private theorem spaced_condition {table : Table} {predicate : Predicate} {condition : Statement}
    (stated : condition? table predicate = some condition) : Spaced condition [predicate.column] := by
  have single (native : Bool) (operator : Operator) (operand : Operand) :
      Spaced (leftSide native predicate.column ++ [.words (sign operator), .bound operand])
        [predicate.column] := by
    apply spaced_leftSide
    · cases operator <;> exact .words (by decide) (by decide) (.bound .nil)
    · simp
  obtain ⟨column, -, stated⟩ := Option.bind_eq_some_iff.mp stated
  simp only at stated
  split at stated
  next =>
    obtain ⟨operand, -, rfl⟩ := Option.map_eq_some_iff.mp stated
    exact single false .like _
  next =>
    cases stated
    rw [List.append_assoc]
    apply spaced_leftSide
    · apply Spaced.words (by decide) (by decide)
      apply (spaced_placeholders _ _).append
      · exact .words (by decide) (by decide) .nil
      · simp
    · simp
  next =>
    obtain ⟨operand, -, rfl⟩ := Option.map_eq_some_iff.mp stated
    exact single _ _ _

/-- Whether a predicate has a condition: its column exists, and there is something to compare with. -/
def isStated (table : Table) (predicate : Predicate) : Bool :=
  table.hasColumn predicate.column && (predicate.operator = .isIn || !predicate.operands.isEmpty)

theorem isSome_condition? (table : Table) (predicate : Predicate) :
    (condition? table predicate).isSome = isStated table predicate := by
  obtain ⟨column, operator, operands⟩ := predicate
  simp only [condition?, isStated, Table.hasColumn]
  cases table.column? column with
  | none => rfl
  | some found => cases operator <;> cases operands <;> simp

/-- The columns of the conditions, one for each predicate that has one. -/
def conditionNames (table : Table) (predicates : List Predicate) : List String :=
  (predicates.filter (isStated table)).map (·.column)

private theorem spaced_conditions (table : Table) (predicates : List Predicate) :
    List.Forall₂ Spaced (conditions table predicates)
      ((conditionNames table predicates).map ([·])) := by
  induction predicates with
  | nil => exact .nil
  | cons predicate rest ih =>
    have stated := isSome_condition? table predicate
    rw [conditions, List.filterMap_cons, conditionNames, List.filter_cons, ← stated]
    cases found : condition? table predicate with
    | none => exact ih
    | some condition => exact .cons (spaced_condition found) ih

def clause : List Statement → Statement
  | [] => []
  | conditions => .words " WHERE " :: [Piece.words " AND "].intercalate conditions

theorem whereClause_eq (table : Table) (predicates : List Predicate) :
    whereClause table predicates = clause (conditions table predicates) := by
  unfold whereClause
  cases conditions table predicates <;> rfl

private theorem head?_clause (conditions : List Statement) (other : String) :
    (clause conditions).head? ≠ some (.name other) := by
  cases conditions <;> simp [clause]

private theorem spaced_whereClause (table : Table) (predicates : List Predicate) :
    Spaced (whereClause table predicates) (conditionNames table predicates) := by
  have spaced := spaced_conditions table predicates
  rw [whereClause_eq]
  have all := @Spaced.intercalate " AND " (by decide) (by decide) _ _ spaced
  rw [← List.flatMap_def, List.flatMap_singleton'] at all
  cases listed : conditions table predicates with
  | nil =>
    rw [listed] at all
    exact all
  | cons first rest =>
    rw [listed] at all
    exact .words (by decide) (by decide) all

/-- The columns that are asked for. Numbers are named twice. -/
def selectedNames (table : Table) : List String :=
  table.columns.flatMap fun column =>
    if column.type = .number then [column.name, column.name] else [column.name]

/-- The columns that rows are sorted by, or else the primary key. -/
def orderNames (table : Table) (sort : List SortField) : List String :=
  match sort with
  | [] => [table.primaryKey]
  | fields => fields.map (·.column)

private theorem spaced_selectList (table : Table) : Spaced (selectList table) (selectedNames table) := by
  apply Spaced.intercalate_map (by decide) (by decide)
  intro column
  unfold selected
  split
  · exact .name (by simp) (.words (by decide) (by decide) (.name (by simp) .nil))
  · exact .name (by simp) .nil

private theorem spaced_orderTerms (table : Table) (sort : List SortField) :
    Spaced (orderTerms table sort) (orderNames table sort) := by
  have term (field : SortField) : Spaced (sortTerm field) [field.column] := by
    refine .name (by simp) ?_
    cases field.direction <;> exact .words (by decide) (by decide) .nil
  cases sort with
  | nil => exact .name (by simp) .nil
  | cons first rest =>
    have terms : Spaced (orderTerms table (first :: rest)) ((first :: rest).flatMap ([·.column])) :=
      Spaced.intercalate_map (by decide) (by decide) term (first :: rest)
    rwa [← List.map_eq_flatMap] at terms

private theorem spaced_numbered {word : String} (some : word ≠ "") (free : '"' ∉ word.toList) (value : Nat) :
    Spaced (numbered word value) [] := by
  apply Spaced.words _ _ .nil
  · intro none
    exact some (String.append_eq_empty_iff.mp none).1
  · rw [String.toList_append, List.mem_append, not_or]
    exact ⟨free, notMem_integerText (by decide) value⟩

private theorem spaced_limitClause (window : Window) : Spaced (limitClause window) [] := by
  unfold limitClause
  cases window.limit with
  | none => exact .nil
  | some limit => exact spaced_numbered (by decide) (by decide) limit

private theorem spaced_offsetClause (window : Window) : Spaced (offsetClause window) [] := by
  unfold offsetClause
  split
  · exact spaced_numbered (by decide) (by decide) window.start
  · exact .nil

private theorem spaced_selectWhere (schema : String) (table : Table) (predicates : List Predicate)
    {rest : Statement} {names : List String} (spaced : Spaced rest names) :
    Spaced (selectWhere schema table predicates ++ rest)
      (selectedNames table ++ schema :: table.name :: conditionNames table predicates ++ names) := by
  have source : Spaced (source schema table) [schema, table.name] :=
    .name (by simp) (.words (by decide) (by decide) (.name (by simp) .nil))
  have ordered : Spaced (.words " ORDER BY " :: rest) names := .words (by decide) (by decide) spaced
  have filtered := (spaced_whereClause table predicates).append ordered (by simp)
  have sourced := source.append filtered (by
    rw [whereClause_eq]
    cases conditions table predicates <;> simp [clause])
  have named := Spaced.words (by decide : " FROM " ≠ "") (by decide) sourced
  have listed := (spaced_selectList table).append named (by simp)
  have all : Spaced (.words "SELECT " :: _) _ := .words (by decide) (by decide) listed
  simpa [selectWhere] using all

theorem spaced_select (schema : String) (table : Table) (retrieval : Retrieval) :
    Spaced (select schema table retrieval)
      (selectedNames table ++ schema :: table.name :: conditionNames table retrieval.predicates ++
        orderNames table retrieval.sort) := by
  have offset := spaced_offsetClause retrieval.window
  have bounds := (spaced_limitClause retrieval.window).append offset (by
    simp only [offsetClause, numbered]
    split <;> simp)
  have ordered := (spaced_orderTerms table retrieval.sort).append bounds (by
    simp only [offsetClause, limitClause, numbered]
    cases retrieval.window.limit <;> by_cases started : 0 < retrieval.window.start <;> simp [started])
  have all := spaced_selectWhere schema table retrieval.predicates ordered
  simpa [select] using all

theorem spaced_count (schema : String) (table : Table) (predicates : List Predicate) :
    Spaced (count schema table predicates)
      (schema :: table.name :: conditionNames table predicates) := by
  have filtered := spaced_whereClause table predicates
  have sourced : Spaced (source schema table ++ whereClause table predicates) _ :=
    .name (by simp) (.words (by decide) (by decide) (.name (by
      rw [whereClause_eq]
      exact head?_clause _) filtered))
  exact .words (by decide) (by decide) sourced

private theorem spaced_selectFiltered (schema : String) (table : Table) (predicates : List Predicate) :
    Spaced (selectFiltered schema table predicates)
      (selectedNames table ++ schema :: table.name :: conditionNames table predicates ++
        [table.primaryKey]) :=
  spaced_selectWhere schema table predicates (.name (by simp) .nil)

/-- New names for a schema, its table and the columns of the table. Different columns have different new
names. -/
structure Renaming where
  schema : String → String
  table : String → String
  column : String → String
  injective : Function.Injective column

namespace Renaming

variable (fresh : Renaming)

def ofColumn (column : Column) : Column :=
  { column with name := fresh.column column.name }

def ofTable (table : Table) : Table :=
  { table with
    name := fresh.table table.name
    columns := table.columns.map fresh.ofColumn
    primaryKey := fresh.column table.primaryKey }

def ofPredicate (predicate : Predicate) : Predicate :=
  { predicate with column := fresh.column predicate.column }

def ofSortField (field : SortField) : SortField :=
  { field with column := fresh.column field.column }

def ofRetrieval (retrieval : Retrieval) : Retrieval :=
  { retrieval with
    predicates := retrieval.predicates.map fresh.ofPredicate
    sort := retrieval.sort.map fresh.ofSortField }

private theorem column?_ofTable (table : Table) (name : String) :
    (fresh.ofTable table).column? (fresh.column name) =
      (table.column? name).map fresh.ofColumn := by
  have same : (fun column => decide ((fresh.ofColumn column).name = fresh.column name)) =
      fun column => decide (column.name = name) := by
    funext column
    exact decide_eq_decide.mpr fresh.injective.eq_iff
  rw [Table.column?, ofTable, List.find?_map, Table.column?, Function.comp_def, same]

private theorem blank_condition? (table : Table) (predicate : Predicate) :
    (condition? (fresh.ofTable table) (fresh.ofPredicate predicate)).map (·.map blank) =
      (condition? table predicate).map (·.map blank) := by
  have left (native : Bool) (name other : String) :
      (leftSide native name).map blank = (leftSide native other).map blank := by
    cases native <;> rfl
  obtain ⟨name, operator, operands⟩ := predicate
  simp only [condition?, ofPredicate, column?_ofTable]
  cases table.column? name with
  | none => rfl
  | some column =>
    have type : (fresh.ofColumn column).type = column.type := rfl
    simp only [Option.map_some, Option.bind_some, type]
    cases operator <;> cases operands <;>
      simp [left _ (fresh.column name) name]

private theorem blank_intercalate (separator : String) (parts : List Statement) :
    ([Piece.words separator].intercalate parts).map blank =
      [Piece.words separator].intercalate (parts.map (·.map blank)) := by
  induction parts with
  | nil => rfl
  | cons part rest ih =>
    cases rest with
    | nil => simp
    | cons next rest =>
      simp only [List.map_cons] at ih ⊢
      rw [List.intercalate_cons_cons, List.intercalate_cons_cons, List.map_append, List.map_append, ih]
      rfl

private theorem blank_clause (conditions : List Statement) :
    (clause conditions).map blank = clause (conditions.map (·.map blank)) := by
  cases conditions with
  | nil => rfl
  | cons first rest => exact congrArg (_ :: ·) (blank_intercalate " AND " (first :: rest))

private theorem blank_whereClause (table : Table) (predicates : List Predicate) :
    (whereClause (fresh.ofTable table) (predicates.map fresh.ofPredicate)).map blank =
      (whereClause table predicates).map blank := by
  rw [whereClause_eq, whereClause_eq, blank_clause, blank_clause, conditions, conditions,
    List.map_filterMap, List.map_filterMap, List.filterMap_map]
  simp only [Function.comp_def, fresh.blank_condition?]

private theorem blank_selectList (table : Table) :
    (selectList (fresh.ofTable table)).map blank = (selectList table).map blank := by
  have same (column : Column) : (selected (fresh.ofColumn column)).map blank =
      (selected column).map blank := by
    unfold selected ofColumn
    simp only
    split <;> rfl
  simp only [selectList, blank_intercalate, ofTable, List.map_map, Function.comp_def, same]

private theorem blank_orderTerms (table : Table) (sort : List SortField) :
    (orderTerms (fresh.ofTable table) (sort.map fresh.ofSortField)).map blank =
      (orderTerms table sort).map blank := by
  cases sort with
  | nil => rfl
  | cons first rest =>
    have same (field : SortField) : (sortTerm (fresh.ofSortField field)).map blank =
        (sortTerm field).map blank := rfl
    have terms (table : Table) (first : SortField) (rest : List SortField) :
        orderTerms table (first :: rest) =
          [Piece.words ", "].intercalate ((first :: rest).map sortTerm) := rfl
    rw [List.map_cons, terms, terms, blank_intercalate, blank_intercalate, ← List.map_cons, List.map_map,
      List.map_map, List.map_map]
    simp only [Function.comp_def, same]

private theorem blank_source (schema : String) (table : Table) :
    (source (fresh.schema schema) (fresh.ofTable table)).map blank = (source schema table).map blank :=
  rfl

private theorem blank_selectWhere (schema : String) (table : Table) (predicates : List Predicate) :
    (selectWhere (fresh.schema schema) (fresh.ofTable table)
      (predicates.map fresh.ofPredicate)).map blank =
        (selectWhere schema table predicates).map blank := by
  simp only [selectWhere, List.map_append, List.map_cons, blank_selectList, blank_source,
    blank_whereClause]

end Renaming

/-- A scan of any of the statements of a table finds the names of the schema, the table and its columns
where the statement uses them and no others, and under other names it finds the same text between
them. -/
theorem statements_keep_names_apart (schema : String) (table : Table) (retrieval : Retrieval)
    (predicates : List Predicate) :
    (identifiers? (select schema table retrieval).text =
        some (selectedNames table ++ schema :: table.name ::
          conditionNames table retrieval.predicates ++ orderNames table retrieval.sort) ∧
      identifiers? (count schema table predicates).text =
        some (schema :: table.name :: conditionNames table predicates) ∧
      identifiers? (selectFiltered schema table predicates).text =
        some (selectedNames table ++ schema :: table.name :: conditionNames table predicates ++
          [table.primaryKey])) ∧
    ∀ fresh : Renaming,
      outside? (select (fresh.schema schema) (fresh.ofTable table) (fresh.ofRetrieval retrieval)).text =
        outside? (select schema table retrieval).text ∧
      outside? (count (fresh.schema schema) (fresh.ofTable table)
          (predicates.map fresh.ofPredicate)).text =
        outside? (count schema table predicates).text ∧
      outside? (selectFiltered (fresh.schema schema) (fresh.ofTable table)
          (predicates.map fresh.ofPredicate)).text =
        outside? (selectFiltered schema table predicates).text := by
  refine ⟨⟨?_, ?_, ?_⟩, fun fresh => ⟨?_, ?_, ?_⟩⟩
  · exact (spaced_select schema table retrieval).identifiers?_text
  · exact (spaced_count schema table predicates).identifiers?_text
  · exact (spaced_selectFiltered schema table predicates).identifiers?_text
  · apply (spaced_select _ _ _).outside?_text (spaced_select _ _ _)
    have order := fresh.blank_orderTerms table retrieval.sort
    have rows := fresh.blank_selectWhere schema table retrieval.predicates
    simp only [select, List.map_append]
    rw [← order, ← rows]
    rfl
  · apply (spaced_count _ _ _).outside?_text (spaced_count _ _ _)
    simp only [count, List.map_append, List.map_cons, fresh.blank_source, fresh.blank_whereClause]
  · apply (spaced_selectFiltered _ _ _).outside?_text (spaced_selectFiltered _ _ _)
    simp only [selectFiltered, List.map_append, fresh.blank_selectWhere]
    rfl

/-- Names that would end their own quotes, were a quote in a name not written twice. -/
def hostile : Renaming where
  schema := (· ++ "\"")
  table := ("notes\"; DROP TABLE \"" ++ ·)
  column := ("\" OR \"" ++ ·)
  injective _ _ := (String.append_right_inj _).mp

def notes : Table where
  name := "notes"
  resource := "notes"
  columns := [⟨"id", .integer, false, true, none⟩, ⟨"ti\"tle", .text, true, false, none⟩]
  primaryKey := "id"
  relations := []

private theorem hostile_names_stay_in_their_quotes :
    let retrieval : Retrieval :=
      ⟨[⟨"ti\"tle", .eq, [.text "a\"b"]⟩], [⟨"ti\"tle", .descending⟩], ⟨0, some 10⟩⟩
    let renamed :=
      select (hostile.schema "public") (hostile.ofTable notes) (hostile.ofRetrieval retrieval)
    identifiers? renamed.text =
        some ["\" OR \"id", "\" OR \"ti\"tle", "public\"", "notes\"; DROP TABLE \"notes",
          "\" OR \"ti\"tle", "\" OR \"ti\"tle"] ∧
      outside? renamed.text = outside? (select "public" notes retrieval).text := by
  intro retrieval renamed
  obtain ⟨⟨names, -⟩, -⟩ := statements_keep_names_apart (hostile.schema "public")
    (hostile.ofTable notes) (hostile.ofRetrieval retrieval) []
  obtain ⟨-, renames⟩ := statements_keep_names_apart "public" notes retrieval []
  exact ⟨names.trans (by decide), (renames hostile).1⟩

end ResourceQuery.Proofs.QuotedNames
