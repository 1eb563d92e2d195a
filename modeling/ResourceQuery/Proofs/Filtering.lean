import ResourceQuery.Proofs.MemoryAnswers
import ResourceQuery.Proofs.RepeatedKeys

/-! What filters leave. Each key of a request asks something of a row on its own: one of several values
for a column, or all of several bounds for a column with an operator after it. -/

namespace ResourceQuery.Proofs.Filtering
open MemoryAnswers RepeatedKeys StableSorts

/-- What an operator with a raw text asks of a cell. -/
def Asks (cell : Json) (type : ColumnType) (raw : String) : Operator → Prop
  | .eq | .isIn => cell.orderOperand? (.coerce type raw) = some .eq
  | .ne => ∃ found, cell.orderOperand? (.coerce type raw) = some found ∧ found ≠ .eq
  | .gte => ∃ found, cell.orderOperand? (.coerce type raw) = some found ∧ found ≠ .lt
  | .lte => ∃ found, cell.orderOperand? (.coerce type raw) = some found ∧ found ≠ .gt
  | .like => cell.isNull = false ∧ raw.toList <:+: cell.plainText.toList

/-- The parts of the values of an equality: a value with commas counts as its trimmed parts without
the blank ones, any other value as a whole. -/
def parts (values : List String) : List String :=
  values.flatMap fun value =>
    if ',' ∈ value.toList then ((Text.split ',' value).map Text.trim).filter (· != "") else [value]

/-- A key is a column with an operator after it. A column has a name, on one line. -/
def Ends (key column : String) (operator : Operator) : Prop :=
  ∃ ending, (ending, operator) ∈ Operator.endings ∧ key = column ++ ending ∧ column ≠ "" ∧
    '\n' ∉ column.toList

/-- What a key with its values asks of a row. -/
def Satisfies (table : Table) (row : Row) (key : String) (values : List String) : Prop :=
  match table.column? key with
  | some column =>
    parts values = [] ∨ ∃ part ∈ parts values, Asks (row.get key) column.type part .eq
  | none =>
    ∀ name operator, Ends key name operator → ∀ column, table.column? name = some column →
      ∀ value ∈ values, Asks (row.get name) column.type value operator

/-- Null asks for nothing that it could satisfy. -/
theorem not_asks_null (type : ColumnType) (raw : String) (operator : Operator) :
    ¬ Asks .null type raw operator := by
  cases operator <;> simp [Asks, Json.orderOperand?, Json.isNull]

private theorem endings_apart : ∀ first ∈ Operator.endings, ∀ second ∈ Operator.endings,
    first.1.toList <:+ second.1.toList → first = second := by
  decide

theorem Ends.unique {key name other : String} {operator operator' : Operator}
    (first : Ends key name operator) (second : Ends key other operator') :
    name = other ∧ operator = operator' := by
  obtain ⟨ending, member, rfl, -⟩ := first
  obtain ⟨ending', member', same, -⟩ := second
  have texts := congrArg String.toList same
  simp only [String.toList_append] at texts
  have whole : ending.toList <:+ name.toList ++ ending.toList := List.suffix_append _ _
  have whole' : ending'.toList <:+ name.toList ++ ending.toList := texts ▸ List.suffix_append _ _
  have equal : (ending, operator) = (ending', operator') := by
    rcases List.suffix_or_suffix_of_suffix whole whole' with inside | inside
    · exact endings_apart _ member _ member' inside
    · exact (endings_apart _ member' _ member inside).symm
  cases equal
  exact ⟨String.toList_inj.mp (List.append_cancel_right texts), rfl⟩

/-- Splitting finds the column and the operator exactly when the key is the two together. -/
theorem split?_eq_some_iff {key name : String} {operator : Operator} :
    Operator.split? key = some (name, operator) ↔ Ends key name operator := by
  have sound {name : String} {operator : Operator} (found : Operator.split? key = some (name, operator)) :
      Ends key name operator := by
    obtain ⟨⟨ending, operator'⟩, member, found⟩ := List.exists_of_findSome?_eq_some found
    simp only [Option.map_eq_some_iff, Option.filter_eq_some_iff] at found
    obtain ⟨name', ⟨dropped, accepted⟩, same⟩ := found
    cases same
    simp only [bne_iff_ne, ne_eq, Bool.and_eq_true, decide_eq_true_eq] at accepted
    exact ⟨ending, member, Text.dropEnding?_eq_some_iff.mp dropped, accepted⟩
  constructor
  · exact sound
  · intro ends
    obtain ⟨ending, member, same, accepted⟩ := id ends
    have some : (Operator.split? key).isSome := by
      rw [Operator.split?, List.findSome?_isSome_iff]
      refine ⟨(ending, operator), member, ?_⟩
      simp [Text.dropEnding?_eq_some_iff.mpr same, accepted]
    obtain ⟨⟨name', operator'⟩, found⟩ := Option.isSome_iff_exists.mp some
    obtain ⟨rfl, rfl⟩ := (sound found).unique ends
    exact found

theorem compares_iff (accepted : Ordering → Bool) (cell : Json) (operand : Operand) :
    Predicate.compares accepted cell [operand] = true ↔
      ∃ found, cell.orderOperand? operand = some found ∧ accepted found = true := by
  simp only [Predicate.compares, List.head?_cons]
  cases cell.orderOperand? operand <;> simp

private theorem searches_iff (cell : Json) (raw : String) :
    Predicate.searches cell [.text raw] = true ↔
      cell.isNull = false ∧ raw.toList <:+: cell.plainText.toList := by
  have searched : (Operand.text raw).asText = raw := rfl
  simp only [Predicate.searches, Json.cellText?, List.head?_cons]
  cases cell.isNull <;> simp [searched, Text.contains]

theorem holds_iff (row : Row) (name : String) (operator : Operator) (type : ColumnType)
    (raw : String) :
    Predicate.holds row ⟨name, operator, [Predicate.operandOf operator type raw]⟩ = true ↔
      Asks (row.get name) type raw operator := by
  cases operator with
  | eq =>
    refine (compares_iff _ _ _).trans ⟨?_, fun equal => ⟨.eq, equal, rfl⟩⟩
    rintro ⟨found, equal, accepted⟩
    exact equal.trans (congrArg some (by cases found <;> simp_all))
  | isIn => simp [Predicate.holds, Asks, Predicate.operandOf]
  | ne =>
    refine (compares_iff _ _ _).trans (exists_congr fun found => and_congr_right fun _ => ?_)
    cases found <;> simp [Ordering.isNe]
  | gte =>
    refine (compares_iff _ _ _).trans (exists_congr fun found => and_congr_right fun _ => ?_)
    cases found <;> simp [Ordering.isGE]
  | lte =>
    refine (compares_iff _ _ _).trans (exists_congr fun found => and_congr_right fun _ => ?_)
    cases found <;> simp [Ordering.isLE]
  | like => exact searches_iff _ _

private theorem alternatives_hold_iff (row : Row) (name : String) (operands : List Operand) :
    (Predicate.ofAlternatives name operands).all (·.holds row) = true ↔
      operands = [] ∨
        ∃ operand ∈ operands, (row.get name).orderOperand? operand = some .eq := by
  match operands with
  | [] => simp [Predicate.ofAlternatives]
  | [operand] =>
    have equal := compares_iff (·.isEq) (row.get name) operand
    simp only [Predicate.ofAlternatives, Predicate.holds, List.all_cons, List.all_nil, Bool.and_true,
      equal, Ordering.isEq_iff_eq_eq]
    simp
  | first :: second :: rest => simp [Predicate.ofAlternatives, Predicate.holds]

private theorem filter_holds_iff (table : Table) (row : Row) (key : String) (values : List String) :
    (Predicate.ofFilter table ⟨key, collapsed values⟩).all (·.holds row) = true ↔
      Satisfies table row key values := by
  simp only [Predicate.ofFilter, Satisfies, collapsed_values]
  cases known : table.column? key with
  | some column =>
    have name := Table.name_of_column? known
    have same : Predicate.alternatives values = parts values := rfl
    simp only [alternatives_hold_iff, List.map_eq_nil_iff, List.mem_map, exists_exists_and_eq_and,
      name, same, Asks]
  | none =>
    cases split : Operator.split? key with
    | none =>
      simp only [List.all_nil, true_iff]
      intro name operator ends
      rw [split?_eq_some_iff.mpr ends] at split
      cases split
    | some found =>
      obtain ⟨name, operator⟩ := found
      have ends := split?_eq_some_iff.mp split
      cases typed : table.column? name with
      | none =>
        simp only [typed, List.all_nil, true_iff]
        intro other operator' ends'
        obtain ⟨rfl, rfl⟩ := ends.unique ends'
        simp [typed]
      | some column =>
        have named := Table.name_of_column? typed
        simp only [typed, List.all_map, List.all_eq_true, Function.comp_apply, named, holds_iff]
        constructor
        · intro all other operator' ends' column' typed' value member
          obtain ⟨rfl, rfl⟩ := ends.unique ends'
          rw [typed] at typed'
          cases typed'
          exact all value member
        · exact fun all => all name operator ends column typed

/-- What the pairs of a request ask of a row, reserved keys apart. -/
def Admits (table : Table) (pairs : List (String × String)) (row : Row) : Prop :=
  ∀ key ∈ keysOf pairs, key ∉ Intent.reserved → Satisfies table row key (valuesOf pairs key)

theorem predicates_hold_iff (table : Table) (pairs : List (String × String)) (row : Row) :
    (Plan.ofIntent table (.parse (.ofPairs pairs))).retrieval.predicates.all (·.holds row) = true ↔
      Admits table pairs row := by
  have filters : (Plan.ofIntent table (.parse (.ofPairs pairs))).retrieval.predicates =
      Predicate.ofFilters table (Intent.parse (.ofPairs pairs)).filters := rfl
  rw [filters, filters_parse]
  simp only [Predicate.ofFilters, Admits, ← filter_holds_iff, List.flatMap_map, List.all_flatMap,
    List.all_eq_true, List.mem_filter, decide_eq_true_eq, and_imp]

open Classical in
/-- A list from memory counts the rows that are as all keys ask, and without a window, an order and
attached rows it holds exactly these, in the order of the document. It is answered whenever the sort does
not give up, so at least if the fields that it sorts by, if any, put these rows in a total preorder. Null
satisfies nothing. -/
theorem list_holds_admitted_rows {sort : RowSort Option} (stable : Stable sort) (service : Service)
    (memory : Memory) (resource : String) (pairs : List (String × String)) (table : Table)
    (found : service.catalog.table? resource = some table) :
    let intent := Intent.parse (.ofPairs pairs)
    let retrieval := (Plan.ofIntent table intent).retrieval
    let admitted := (memory.rows table).filter fun row => Admits table pairs row
    let answer := resultBy sort memory (service.list resource (.ofPairs pairs))
    (answer.isSome ↔ (sortBy sort retrieval.sort admitted).isSome) ∧
    (Coherent (SortField.orderAll retrieval.sort) admitted → answer.isSome) ∧
    (∀ result, answer = some result → ∃ listed, result = .ok listed ∧
      listed.total = admitted.length ∧
      (retrieval.window = .unbounded ∧ retrieval.sort = [] ∧ intent.embed = [] →
        listed.rows = admitted)) ∧
    ∀ type raw operator, ¬ Asks .null type raw operator := by
  intro intent retrieval admitted answer
  have filtered : memory.filtered table retrieval.predicates = admitted := by
    apply List.filter_congr
    intro row _
    rw [Bool.eq_iff_iff, decide_eq_true_iff]
    exact predicates_hold_iff table pairs row
  rw [← filtered]
  refine ⟨isSome_list_iff sort found, isSome_list stable found, fun result ended => ?_, not_asks_null⟩
  obtain ⟨listed, sorted, rfl, sorts, total, -, rows⟩ := list_of_resultBy found ended
  refine ⟨listed, rfl, total, ?_⟩
  intro ⟨unbounded, unsorted, unattached⟩
  rw [unsorted] at sorts
  cases sorts
  rw [rows unattached, unbounded]
  rfl

def people : Table where
  name := "people"
  resource := "people"
  columns := [⟨"id", .integer, false, true, none⟩, ⟨"name", .text, true, false, none⟩]
  primaryKey := "id"
  relations := []

open Classical in
theorem people_with_alternatives :
    let service : Service := ⟨⟨[people]⟩, .regular⟩
    let memory : Memory := ⟨[("people", [[("id", .ofInt 1), ("name", .string "Ann, Bo")],
      [("id", .ofInt 2), ("name", .null)], [("id", .string "03")]])]⟩
    let pairs := [("id", "1, ,2"), ("_start", "0"), ("name_like", "n, "), ("id", "3")]
    Stable insertion ∧ service.catalog.table? "people" = some people ∧
      ∃ listed, resultOf memory (service.list "people" (.ofPairs pairs)) = .ok listed ∧
        listed.rows = (memory.rows people).filter fun row => Admits people pairs row := by
  intro service memory pairs
  have found : service.catalog.table? "people" = some people := by decide
  obtain ⟨-, -, holds, -⟩ :=
    list_holds_admitted_rows stable_insertion service memory "people" pairs people found
  obtain ⟨listed, answered, -, rows⟩ := holds _ (resultBy_insertion memory _)
  refine ⟨stable_insertion, found, listed, answered, rows ⟨?_, ?_, ?_⟩⟩
  · decide +kernel
  · decide +kernel
  · decide +kernel

end ResourceQuery.Proofs.Filtering
