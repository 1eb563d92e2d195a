import Mathlib.Data.List.TakeWhile
import ResourceQuery.Proofs.Filtering
import ResourceQuery.Proofs.InferredTables
import ResourceQuery.Proofs.Rounding

/-! Bounds on columns of numbers. The first number of a column decides which texts a bound may be read
from. A bound that is read compares as a number, up to rounding, and any other one as a text. -/

namespace ResourceQuery.Proofs.NumericBounds
open Filtering InferredTables MemoryAnswers Number OrderedJson RepeatedKeys Rounding StableSorts

def numberValue : Json.Number → ℚ
  | .integer value _ => value
  | .real value => Rounding.value value

theorem roundsTo_toBinary64 (number : Json.Number) :
    RoundsTo (numberValue number) number.toBinary64 := by
  cases number with
  | real value => exact roundsTo_value value
  | integer value fits =>
    obtain ⟨low, high⟩ := fits
    exact roundsTo_ofInt (by omega)

inductive Bound where
  | least
  | greatest

namespace Bound

def ending : Bound → String
  | least => "_gte"
  | greatest => "_lte"

def operator : Bound → Operator
  | least => .gte
  | greatest => .lte

/-- A cell is on the right side of a limit, or at it. -/
def Admits {Value : Type} (bound : Bound) (upTo : Value → Value → Prop) (cell limit : Value) : Prop :=
  match bound with
  | least => upTo limit cell
  | greatest => upTo cell limit

def Accepts : Bound → Ordering → Prop
  | least, order => order ≠ .lt
  | greatest, order => order ≠ .gt

theorem ends (bound : Bound) {column : String} (named : column ≠ "") (line : '\n' ∉ column.toList) :
    Ends (column ++ bound.ending) column bound.operator := by
  refine ⟨bound.ending, ?_, rfl, named, line⟩
  cases bound <;> simp [Operator.endings, ending, operator]

private theorem asks_iff (bound : Bound) (cell : Json) (type : ColumnType) (raw : String) :
    Asks cell type raw bound.operator ↔
      ∃ order, cell.orderOperand? (.coerce type raw) = some order ∧ bound.Accepts order := by
  cases bound <;> rfl

private theorem accepts_compare (bound : Bound) (cell limit : Int) :
    bound.Accepts (compare cell limit) ↔ bound.Admits (· ≤ ·) cell limit := by
  cases bound with
  | least => exact (not_congr compare_lt_iff_lt).trans not_lt
  | greatest => exact (not_congr compare_gt_iff_gt).trans not_lt

end Bound

/-- A text comes before another by code points, or is the same. -/
def TextUpTo (left right : String) : Prop :=
  Text.order left right ≠ .gt

private theorem Bound.accepts_text (bound : Bound) (cell limit : String) :
    bound.Accepts (Text.order cell limit) ↔ bound.Admits TextUpTo cell limit := by
  cases bound with
  | least => exact not_congr Std.OrientedCmp.gt_iff_lt.symm
  | greatest => exact .rfl

private theorem Bound.accepts_rounded (bound : Bound) {number limit : ℚ} {cell operand : Binary64}
    (first : RoundsTo number cell) (second : RoundsTo limit operand) :
    bound.Accepts (cell.order operand) ↔ bound.Admits (· ≤ ·) number limit ∨ Alike number limit := by
  rw [Binary64.order, accepts_compare]
  cases bound with
  | least => exact (second.key_le_iff first).trans (or_congr_right ⟨Alike.symm, Alike.symm⟩)
  | greatest => exact first.key_le_iff second

/-- Whether a bound is read as a number. A column whose first number is an integer reads integers of 63
bits and a sign, any other column of numbers reads whatever is not too great for binary64. -/
def Reads (first : Json.Number) (numeral : List Char) (limit : ℚ) : Prop :=
  match first with
  | .integer .. => ∃ value, integer? numeral = some value ∧ Intent.IsWord value
  | .real _ => |limit| < overflow

/-- Integers of 63 bits and a sign are not rounded in a column whose first number is an integer. -/
def Exact (first number : Json.Number) : Prop :=
  match first, number with
  | .integer .., .integer value _ => Intent.IsWord value
  | _, _ => False

def Meets (bound : Bound) (first : Json.Number) (raw : String) (limit : ℚ) (number : Json.Number) :
    Prop :=
  (Reads first (Text.trim raw).toList limit ∧
    (bound.Admits (· ≤ ·) (numberValue number) limit ∨
      ¬ Exact first number ∧ Alike (numberValue number) limit)) ∨
  (¬ Reads first (Text.trim raw).toList limit ∧ bound.Admits TextUpTo number.text raw)

theorem scaled?_of_integer? {numeral : List Char} {value : Int} (read : integer? numeral = some value) :
    ∃ negative magnitude, scaled? numeral = some ⟨negative, magnitude, 0⟩ ∧
      value = if negative then -(magnitude : Int) else magnitude := by
  obtain ⟨negative, digits, split⟩ : ∃ negative digits, splitSign numeral = (negative, digits) :=
    ⟨_, _, rfl⟩
  simp only [integer?, scaled?, split] at read ⊢
  obtain ⟨magnitude, natural, rfl⟩ := Option.map_eq_some_iff.mp read
  unfold natural? at natural
  by_cases none : digits.isEmpty = true
  · simp [none] at natural
  by_cases all : digits.all Char.isDigit = true
  · have each := List.all_eq_true.mp all
    simp only [none, all, ↓reduceIte] at natural
    cases natural
    refine ⟨negative, digitsValue digits 0, ?_, rfl⟩
    simp [List.takeWhile_eq_self_iff.mpr each, List.dropWhile_eq_nil_iff.mpr each, splitFraction,
      exponent?, show digits ≠ [] by simpa using none]
  · simp [none, all] at natural

theorem decimalValue_of_integer? {numeral : List Char} {value : Int} {decimal : Scaled}
    (integer : integer? numeral = some value) (read : scaled? numeral = some decimal) :
    decimalValue decimal = value := by
  obtain ⟨negative, magnitude, same, rfl⟩ := scaled?_of_integer? integer
  rw [same] at read
  cases read
  cases negative <;> simp [decimalValue, signed]

def columnType : Json.Number → ColumnType
  | .integer .. => .integer
  | .real _ => .number

private theorem coerce_unread {first : Json.Number} {raw : String} {decimal : Scaled}
    (written : scaled? (Text.trim raw).toList = some decimal)
    (unread : ¬ Reads first (Text.trim raw).toList (decimalValue decimal)) :
    Operand.coerce (columnType first) raw = .text raw := by
  cases first with
  | integer first fits =>
    have unread : Intent.word? (Text.trim raw) = none := by
      rw [Intent.word?, Option.filter_eq_none_iff]
      intro value read
      simpa using fun word => unread ⟨value, read, word⟩
    simp [Operand.coerce, Operand.read?, columnType, unread]
  | real first =>
    have rounds := rounds_ofScaled? decimal
    cases rounded : Binary64.ofScaled? decimal with
    | none => simp [Operand.coerce, Operand.read?, columnType, Binary64.ofNumeral?, written, rounded]
    | some operand =>
      rw [rounded] at rounds
      exact absurd rounds.2 unread

private theorem signed?_of_exact {first : Int} {fits : Json.FitsInteger first} {number : Json.Number}
    (exact : Exact (.integer first fits) number) :
    ∃ value : Int, number.signed? = some value ∧ numberValue number = value := by
  cases number with
  | real value => cases exact
  | integer value _ => exact ⟨value, if_pos exact.2, rfl⟩

private theorem signed?_of_inexact {first : Int} {fits : Json.FitsInteger first} {number : Json.Number}
    (inexact : ¬ Exact (.integer first fits) number) : number.signed? = none := by
  cases number with
  | real value => rfl
  | integer value fits => exact if_neg fun short => inexact ⟨fits.1, short⟩

private theorem accepts_integer (bound : Bound) {first : Int} {fits : Json.FitsInteger first}
    {number : Json.Number} {operand : Int} (word : Intent.IsWord operand) :
    bound.Accepts (number.orderInt operand) ↔
      bound.Admits (· ≤ ·) (numberValue number) operand ∨
        ¬ Exact (.integer first fits) number ∧ Alike (numberValue number) operand := by
  by_cases exact : Exact (.integer first fits) number
  · obtain ⟨value, signed, same⟩ := signed?_of_exact exact
    rw [Json.Number.orderInt, signed, same]
    refine (bound.accepts_compare value operand).trans ?_
    cases bound <;> simp [Bound.Admits, exact]
  · have short : operand.natAbs < 2 ^ 65 := by
      obtain ⟨low, high⟩ := word
      simp only [Intent.minWord, Intent.maxWord] at low high
      omega
    rw [Json.Number.orderInt, signed?_of_inexact exact]
    refine (bound.accepts_rounded (roundsTo_toBinary64 number) (roundsTo_ofInt short)).trans ?_
    simp [exact]

private theorem accepts_read (bound : Bound) {first number : Json.Number} {raw : String} {decimal : Scaled}
    (written : scaled? (Text.trim raw).toList = some decimal)
    (read : Reads first (Text.trim raw).toList (decimalValue decimal)) :
    (∃ order, (Json.number number).orderOperand? (.coerce (columnType first) raw) = some order ∧
      bound.Accepts order) ↔
      bound.Admits (· ≤ ·) (numberValue number) (decimalValue decimal) ∨
        ¬ Exact first number ∧ Alike (numberValue number) (decimalValue decimal) := by
  cases first with
  | real first =>
    have rounds := rounds_ofScaled? decimal
    cases rounded : Binary64.ofScaled? decimal with
    | none =>
      rw [rounded] at rounds
      exact absurd read (not_lt.mpr rounds)
    | some operand =>
      rw [rounded] at rounds
      have coerced : Operand.coerce .number raw = .float operand := by
        simp [Operand.coerce, Operand.read?, Binary64.ofNumeral?, written, rounded]
      have inexact : ¬ Exact (.real first) number := fun exact => exact
      simp [columnType, coerced, Json.orderOperand?, inexact,
        bound.accepts_rounded (roundsTo_toBinary64 number) rounds.1]
  | integer first fits =>
    obtain ⟨operand, integer, word⟩ := read
    have coerced : Operand.coerce .integer raw = .integer operand := by
      have read : Intent.word? (Text.trim raw) = some operand := by
        rw [Intent.word?, integer, Option.filter_some, if_pos (decide_eq_true word)]
      simp [Operand.coerce, Operand.read?, read]
    rw [decimalValue_of_integer? integer written]
    simp only [columnType, coerced, Json.orderOperand?, Option.some.injEq, exists_eq_left']
    exact accepts_integer bound word

private theorem asks_number_iff (bound : Bound) {first number : Json.Number} {raw : String} {decimal : Scaled}
    (written : scaled? (Text.trim raw).toList = some decimal) :
    Asks (.number number) (columnType first) raw bound.operator ↔
      Meets bound first raw (decimalValue decimal) number := by
  rw [bound.asks_iff, Meets]
  by_cases read : Reads first (Text.trim raw).toList (decimalValue decimal)
  · simp only [read, accepts_read bound written read, true_and, not_true_eq_false, false_and, or_false]
  · have text : (Json.number number).plainText = number.text := by
      simp [Json.plainText, Json.text, Json.characters]
    simp only [read, coerce_unread written read, Json.orderOperand?, text, Operand.asText,
      Option.some.injEq, exists_eq_left', bound.accepts_text, not_false_eq_true, false_and, true_and,
      false_or]

def cellNumber? : Json → Option Json.Number
  | .number value => some value
  | _ => none

def firstNumber? (rows : List Row) (column : String) : Option Json.Number :=
  rows.findSome? fun row => cellNumber? (row.get column)

def Numeric (rows : List Row) (column : String) : Prop :=
  ∀ row ∈ rows, row.get column = .null ∨ ∃ number, row.get column = .number number

private theorem numeric_iff {rows : List Row} {column : String} :
    Numeric rows column ↔
      ∀ row ∈ rows, (row.get column).isNull = true ∨ (cellNumber? (row.get column)).isSome = true := by
  refine forall₂_congr fun row _ => or_congr ?_ ?_
  · cases row.get column <;> simp [Json.isNull]
  · cases row.get column <;> simp [cellNumber?]

instance (rows : List Row) (column : String) : Decidable (Numeric rows column) :=
  decidable_of_iff _ numeric_iff.symm

private theorem ofDeclared_suggested {number : Json.Number} {suggested : String}
    (type : suggestedType? (.number number) = some suggested) :
    ColumnType.ofDeclared suggested = columnType number := by
  have integer : ColumnType.ofDeclared "integer" = .integer := by decide +kernel
  have real : ColumnType.ofDeclared "number" = .number := by decide +kernel
  cases number with
  | integer value fits => cases type; exact integer
  | real value => cases type; exact real

private theorem type_of_first {rows : List Row} {column : String} (numeric : Numeric rows column)
    {first : Json.Number} (found : firstNumber? rows column = some first) :
    ColumnType.ofDeclared
      ((rows.findSome? fun row => suggestedType? (row.get column)).getD "text") = columnType first := by
  induction rows with
  | nil => cases found
  | cons row rest ih =>
    obtain ⟨cell, numeric⟩ := List.forall_mem_cons.mp numeric
    rw [firstNumber?, List.findSome?_cons] at found
    rw [List.findSome?_cons]
    rcases cell with null | ⟨number, same⟩
    · rw [null] at found ⊢
      exact ih numeric found
    · rw [same] at found ⊢
      cases found
      cases suggested : suggestedType? (.number first) with
      | none => cases first <;> cases suggested
      | some type => exact ofDeclared_suggested suggested

private theorem firstNumber?_of_mem {rows : List Row} {column : String} {row : Row} (member : row ∈ rows)
    {number : Json.Number} (cell : row.get column = .number number) :
    ∃ first, firstNumber? rows column = some first := by
  apply Option.isSome_iff_exists.mp
  refine List.findSome?_isSome_iff.mpr ⟨row, member, ?_⟩
  rw [cell]
  rfl

private theorem admits_single {table : Table} {pairs : List (String × String)} {key raw : String}
    (single : pairs.filter (·.1 ∉ Intent.reserved) = [(key, raw)]) (row : Row) :
    Admits table pairs row ↔ Satisfies table row key [raw] := by
  have member : (key, raw) ∈ pairs.filter (·.1 ∉ Intent.reserved) := by
    rw [single]
    exact List.mem_singleton_self _
  have free : key ∉ Intent.reserved := of_decide_eq_true (List.mem_filter.mp member).2
  have values {other : String} (free : other ∉ Intent.reserved) :
      valuesOf pairs other = valuesOf [(key, raw)] other := by
    rw [← single, valuesOf, valuesOf, List.filter_filter]
    congr 1
    apply List.filter_congr
    intro pair _
    by_cases same : pair.1 = other <;> simp [same, free]
  have own : valuesOf [(key, raw)] key = [raw] := by simp [valuesOf]
  constructor
  · intro admits
    have given : key ∈ keysOf pairs := by
      rw [mem_keysOf_iff, values free, own]
      exact List.cons_ne_nil _ _
    have satisfied := admits key given free
    rwa [values free, own] at satisfied
  · intro satisfied other known free
    rw [mem_keysOf_iff, values free] at known
    by_cases same : other = key
    · rw [values free, same, own]
      exact satisfied
    · exact absurd (by simp [valuesOf, Ne.symm same]) known

private theorem satisfies_bound {table : Table} {name : String} {column : Column} {bound : Bound} {raw : String}
    (found : table.column? name = some column) (named : name ≠ "") (line : '\n' ∉ name.toList)
    (free : table.hasColumn (name ++ bound.ending) = false) (row : Row) :
    Satisfies table row (name ++ bound.ending) [raw] ↔
      Asks (row.get name) column.type raw bound.operator := by
  have ends := bound.ends named line
  have absent : table.column? (name ++ bound.ending) = none := by simpa [Table.hasColumn] using free
  simp only [Satisfies, absent, List.mem_singleton, forall_eq]
  constructor
  · intro all
    exact all name bound.operator ends column found
  · intro asks other operator ends' column' found'
    obtain ⟨rfl, rfl⟩ := ends.unique ends'
    rw [found] at found'
    cases found'
    exact asks

/-- The tables that a document is given, served over the rows of the document. -/
def serve? (naming : Naming) (text : String) : Option (Service × Memory) := do
  let document ← Json.parse? text
  let memory ← (Memory.ofDocument document).toOption
  return (⟨(extractTables naming (.infer document)).catalog, naming⟩, memory)

private theorem type_of_served {naming : Naming} {text : String} {service : Service} {memory : Memory}
    (served : serve? naming text = some (service, memory)) {resource : String} {table : Table}
    (found : service.catalog.table? resource = some table) {name : String} {column : Column}
    (known : table.column? name = some column) (numeric : Numeric (memory.rows table) name)
    {first : Json.Number} (before : firstNumber? (memory.rows table) name = some first) :
    column.type = columnType first := by
  obtain ⟨document, read, served⟩ := Option.bind_eq_some_iff.mp served
  obtain ⟨memory, stored, served⟩ := Option.bind_eq_some_iff.mp served
  cases served
  have stored : Memory.ofDocument document = .ok memory := by
    cases loaded : Memory.ofDocument document with
    | error failure => rw [loaded] at stored; cases stored
    | ok loaded' => rw [loaded] at stored; cases stored; rfl
  have type := inferred_table (ordered_of_parse? read) stored (List.mem_of_find?_eq_some found) known
  rw [type, type_of_first numeric before]

/-- The rows that a bound leaves: those with a number that is as the bound asks. -/
def Keeps (bound : Bound) (rows : List Row) (column raw : String) (limit : ℚ) (row : Row) : Prop :=
  ∃ first number, firstNumber? rows column = some first ∧ row.get column = .number number ∧
    Meets bound first raw limit number

open Classical in
/-- A list from a document with nothing but a bound on a column of numbers and nulls counts the rows
that the bound leaves, and unless rows are attached it holds their window in the order asked for. It is
answered whenever the sort does not give up, so at least if the fields that it sorts by, if any, put these
rows in a total preorder. -/
theorem list_holds_bounded_rows {sort : RowSort Option} (stable : Stable sort) (naming : Naming)
    (text : String) (service : Service) (memory : Memory) (resource : String) (table : Table)
    (column : String) (bound : Bound) (pairs : List (String × String)) (raw : String) (decimal : Scaled)
    (served : serve? naming text = some (service, memory))
    (found : service.catalog.table? resource = some table)
    (known : table.hasColumn column = true)
    (numeric : Numeric (memory.rows table) column)
    (named : column ≠ "") (line : '\n' ∉ column.toList)
    (free : table.hasColumn (column ++ bound.ending) = false)
    (single : pairs.filter (·.1 ∉ Intent.reserved) = [(column ++ bound.ending, raw)])
    (written : scaled? (Text.trim raw).toList = some decimal) :
    let intent := Intent.parse (.ofPairs pairs)
    let retrieval := (Plan.ofIntent table intent).retrieval
    let kept := (memory.rows table).filter fun row =>
      Keeps bound (memory.rows table) column raw (decimalValue decimal) row
    let answer := resultBy sort memory (service.list resource (.ofPairs pairs))
    (answer.isSome ↔ (sortBy sort retrieval.sort kept).isSome) ∧
    (Coherent (SortField.orderAll retrieval.sort) kept → answer.isSome) ∧
    ∀ result, answer = some result → ∃ listed sorted, result = .ok listed ∧
      listed.total = kept.length ∧ sorted.Perm kept ∧
      (Coherent (SortField.orderAll retrieval.sort) kept → sorted = sortRows retrieval.sort kept) ∧
      (intent.embed = [] → listed.rows = retrieval.window.take sorted) := by
  intro intent retrieval kept answer
  obtain ⟨described, typed⟩ := Option.isSome_iff_exists.mp known
  have filtered : memory.filtered table retrieval.predicates = kept := by
    apply List.filter_congr
    intro row member
    rw [Bool.eq_iff_iff, decide_eq_true_iff, predicates_hold_iff, admits_single single,
      satisfies_bound typed named line free]
    rcases numeric row member with null | ⟨number, cell⟩
    · constructor
      · intro asks
        rw [null] at asks
        exact absurd asks (not_asks_null _ _ _)
      · rintro ⟨first, number, -, cell, -⟩
        rw [null] at cell
        cases cell
    · obtain ⟨first, before⟩ := firstNumber?_of_mem member cell
      rw [type_of_served served found typed numeric before, cell, asks_number_iff bound written]
      constructor
      · intro meets
        exact ⟨first, number, before, cell, meets⟩
      · rintro ⟨first', number', before', cell', meets⟩
        rw [before] at before'
        rw [cell] at cell'
        cases before'
        cases cell'
        exact meets
  rw [← filtered]
  refine ⟨isSome_list_iff sort found, isSome_list stable found, fun result ended => ?_⟩
  obtain ⟨listed, sorted, rfl, sorts, total, -, rows⟩ := list_of_resultBy found ended
  refine ⟨listed, sorted, rfl, total, sortBy_perm stable sorts, fun coherent => ?_, rows⟩
  rw [sortBy_eq stable coherent] at sorts
  exact (Option.some.inj sorts).symm

def things : String :=
  "\x7b\"things\":[\x7b\"id\":1,\"price\":0.5\x7d,\x7b\"id\":2,\"price\":3\x7d,\x7b\"id\":3\x7d]\x7d"

open Classical in
theorem things_from_a_price_on :
    let pairs := [("_start", "0"), ("price_gte", " 2.5")]
    Stable insertion ∧ ∃ service memory table listed, serve? .regular things = some (service, memory) ∧
      service.catalog.table? "things" = some table ∧
      resultOf memory (service.list "things" (.ofPairs pairs)) = .ok listed ∧
      listed.rows = (memory.rows table).filter fun row =>
        Keeps .least (memory.rows table) "price" " 2.5" (decimalValue ⟨false, 25, -1⟩) row := by
  intro pairs
  have fit : ∃ served ∈ serve? .regular things, ∃ table ∈ served.1.catalog.table? "things",
      table.hasColumn "price" = true ∧ Numeric (served.2.rows table) "price" ∧
        table.hasColumn "price_gte" = false := by
    decide +kernel
  obtain ⟨⟨service, memory⟩, served, table, found, known, numeric, free⟩ := fit
  obtain ⟨-, -, holds⟩ := list_holds_bounded_rows stable_insertion .regular things service memory
    "things" table "price" .least pairs " 2.5" ⟨false, 25, -1⟩ served found known numeric (by decide)
    (by decide) free (by decide) (by decide)
  obtain ⟨listed, sorted, answered, -, -, same, rows⟩ := holds _ (resultBy_insertion memory _)
  have plain : (Intent.parse (.ofPairs pairs)).embed = [] ∧ (Intent.parse (.ofPairs pairs)).sort = [] ∧
      Window.ofPagination (Intent.parse (.ofPairs pairs)).pagination = .unbounded := by
    decide
  obtain ⟨unattached, unsorted, unbounded⟩ := plain
  rw [Plan.ofIntent, unsorted, List.filter_nil] at same
  refine ⟨stable_insertion, service, memory, table, listed, served, found, answered, ?_⟩
  rw [rows unattached, same (coherent_unsorted _), Plan.ofIntent, unbounded]
  rfl

def numbersOf (rows : List Row) (column : String) : List Json.Number :=
  rows.filterMap fun row => cellNumber? (row.get column)

/-- A list with a bound on a column holds a number exactly if the number itself is on the right side of
the limit. -/
def HoldsExactly (text resource column : String) (bound : Bound) (raw : String) : Prop :=
  ∀ service memory table decimal listed, serve? .regular text = some (service, memory) →
    service.catalog.table? resource = some table → table.hasColumn column = true →
    Numeric (memory.rows table) column → scaled? (Text.trim raw).toList = some decimal →
    resultOf memory (service.list resource (.ofPairs [(column ++ bound.ending, raw)])) = .ok listed →
    ∀ number ∈ numbersOf (memory.rows table) column, number ∈ numbersOf listed.rows column ↔
      bound.Admits (· ≤ ·) (numberValue number) (decimalValue decimal)

private theorem not_holdsExactly {text resource column raw : String} {bound : Bound} {decimal : Scaled}
    (number : Json.Number) (shown : Bool) (written : scaled? (Text.trim raw).toList = some decimal)
    (shows : ∃ served ∈ serve? .regular text, ∃ table ∈ served.1.catalog.table? resource,
      table.hasColumn column = true ∧ Numeric (served.2.rows table) column ∧
        number ∈ numbersOf (served.2.rows table) column ∧
        ∃ listed ∈ (resultOf served.2 (served.1.list resource
            (.ofPairs [(column ++ bound.ending, raw)]))).toOption,
          decide (number ∈ numbersOf listed.rows column) = shown)
    (differs : bound.Admits (· ≤ ·) (numberValue number) (decimalValue decimal) ↔ shown = false) :
    ¬ HoldsExactly text resource column bound raw := by
  intro exact
  obtain ⟨⟨service, memory⟩, served, table, found, known, numeric, member, listed, answered, shown⟩ :=
    shows
  have answered : resultOf memory (service.list resource (.ofPairs [(column ++ bound.ending, raw)])) =
      .ok listed := by
    cases result : resultOf memory (service.list resource (.ofPairs [(column ++ bound.ending, raw)])) with
    | error failure => rw [result] at answered; cases answered
    | ok listed' => rw [result] at answered; cases answered; rfl
  have same := exact service memory table decimal listed served found known numeric written answered
    number member
  rw [differs, ← shown, decide_eq_false_iff_not] at same
  exact iff_not_self same

/-- Lists differ from the numbers where a bound stays a text, since the column reads only integers or the
bound is too great; where rounding makes two numbers one; and where the key is no bound on the column,
being itself a column, or having no name or a name of two lines before its ending. -/
theorem bounds_are_not_exact :
    ¬ HoldsExactly "\x7b\"items\":[\x7b\"id\":1,\"price\":10\x7d,\x7b\"id\":2,\"price\":9.5\x7d]\x7d"
      "items" "price" .least "9.5" ∧
    ¬ HoldsExactly "\x7b\"items\":[\x7b\"id\":1,\"price\":0.5\x7d,\x7b\"id\":2,\"price\":3\x7d]\x7d"
      "items" "price" .greatest "1e400" ∧
    ¬ HoldsExactly
      "\x7b\"items\":[\x7b\"id\":1,\"price\":0.5\x7d,\x7b\"id\":2,\"price\":9007199254740992\x7d]\x7d"
      "items" "price" .least "9007199254740993" ∧
    ¬ HoldsExactly "\x7b\"items\":[\x7b\"id\":1,\"price\":9223372036854775808\x7d]\x7d"
      "items" "price" .greatest "9223372036854775807" ∧
    ¬ HoldsExactly "\x7b\"items\":[\x7b\"id\":1,\"price\":5,\"price_gte\":7\x7d]\x7d"
      "items" "price" .least "3" ∧
    ¬ HoldsExactly "\x7b\"items\":[\x7b\"\":5,\"id\":1\x7d]\x7d" "items" "" .least "7" ∧
    ¬ HoldsExactly "\x7b\"items\":[\x7b\"a\\nb\":5,\"id\":1\x7d]\x7d" "items" "a\nb" .least "7" := by
  refine ⟨?_, ?_, ?_, ?_, ?_, ?_, ?_⟩
  · refine @not_holdsExactly _ _ _ _ _ ⟨false, 95, -1⟩ (.integer 10 (by decide)) false (by decide)
      (by decide +kernel) ?_
    norm_num [Bound.Admits, numberValue, decimalValue, signed]
  · refine @not_holdsExactly _ _ _ _ _ ⟨false, 1, 400⟩ (.integer 3 (by decide)) false (by decide)
      (by decide +kernel) ?_
    have small : (3 : ℚ) ≤ 10 ^ 400 :=
      le_trans (by norm_num : (3 : ℚ) ≤ 10 ^ 1) (pow_le_pow_right₀ (by norm_num) (by norm_num))
    simpa [Bound.Admits, numberValue, decimalValue, signed] using small
  · refine @not_holdsExactly _ _ _ _ _ ⟨false, 9007199254740993, 0⟩
      (.integer 9007199254740992 (by decide)) true (by decide) (by decide +kernel) ?_
    norm_num [Bound.Admits, numberValue, decimalValue, signed]
  · refine @not_holdsExactly _ _ _ _ _ ⟨false, 9223372036854775807, 0⟩
      (.integer 9223372036854775808 (by decide)) true (by decide) (by decide +kernel) ?_
    norm_num [Bound.Admits, numberValue, decimalValue, signed]
  · refine @not_holdsExactly _ _ _ _ _ ⟨false, 3, 0⟩ (.integer 5 (by decide)) false (by decide)
      (by decide +kernel) ?_
    norm_num [Bound.Admits, numberValue, decimalValue, signed]
  · refine @not_holdsExactly _ _ _ _ _ ⟨false, 7, 0⟩ (.integer 5 (by decide)) true (by decide)
      (by decide +kernel) ?_
    norm_num [Bound.Admits, numberValue, decimalValue, signed]
  · refine @not_holdsExactly _ _ _ _ _ ⟨false, 7, 0⟩ (.integer 5 (by decide)) true (by decide)
      (by decide +kernel) ?_
    norm_num [Bound.Admits, numberValue, decimalValue, signed]

end ResourceQuery.Proofs.NumericBounds
