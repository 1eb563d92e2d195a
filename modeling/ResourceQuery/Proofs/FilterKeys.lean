import Mathlib.Data.List.Forall2
import Mathlib.Data.List.Infix
import ResourceQuery.Proofs.Filtering

/-! Keys of filters. A key that ends in an operator can be divided in one way only, so that a search which
gives the column as much of the key as it can finds the same as any other. A filter asks something of one
column at most, which is the key itself wherever the table has such a column. -/

namespace ResourceQuery.Proofs.FilterKeys
open Filtering

/-! Division -/

def words : List (String × Operator) :=
  [("like", .like), ("ne", .ne), ("gte", .gte), ("lte", .lte)]

/-- The key is a column, an underscore and the word for an operator. A column has at least one character and
stands on one line. -/
def Divides (key column : String) (operator : Operator) : Prop :=
  ∃ word, (word, operator) ∈ words ∧ key = column ++ "_" ++ word ∧ column ≠ "" ∧ '\n' ∉ column.toList

private theorem endings_eq : Operator.endings = words.map fun (word, operator) => ("_" ++ word, operator) := by
  decide

private theorem divides_iff {key column : String} {operator : Operator} :
    Divides key column operator ↔ Ends key column operator := by
  constructor
  · rintro ⟨word, member, rfl, named⟩
    refine ⟨"_" ++ word, ?_, String.append_assoc, named⟩
    rw [endings_eq]
    exact List.mem_map.mpr ⟨_, member, rfl⟩
  · rintro ⟨ending, member, rfl, named⟩
    rw [endings_eq] at member
    obtain ⟨⟨word, operator'⟩, member, same⟩ := List.mem_map.mp member
    cases same
    exact ⟨word, member, String.append_assoc.symm, named⟩

private theorem split?_iff_divides {key column : String} {operator : Operator} :
    Operator.split? key = some (column, operator) ↔ Divides key column operator :=
  split?_eq_some_iff.trans divides_iff.symm

theorem Divides.unique {key column column' : String} {operator operator' : Operator}
    (first : Divides key column operator) (second : Divides key column' operator') :
    column = column' ∧ operator = operator' :=
  Ends.unique (divides_iff.mp first) (divides_iff.mp second)

/-- A key can only end in an operator that takes one operand. -/
theorem Divides.operator_ne {key column : String} {operator : Operator}
    (divides : Divides key column operator) : operator ≠ .isIn := by
  obtain ⟨word, listed, -⟩ := divides
  rintro rfl
  simp [words] at listed

/-- The longest column first: it takes the whole line that the key begins with, and gives back one character
after the other until an underscore and a word are left. -/
def longest? (key : String) : Option (String × Operator) :=
  (key.toList.takeWhile (· ≠ '\n')).inits.reverse.findSome? fun letters =>
    words.findSome? fun (word, operator) =>
      let column := String.ofList letters
      if column ≠ "" ∧ key = column ++ "_" ++ word then some (column, operator) else none

private theorem divides_of_longest? {key column : String} {operator : Operator}
    (found : longest? key = some (column, operator)) : Divides key column operator := by
  obtain ⟨letters, line, found⟩ := List.exists_of_findSome?_eq_some found
  obtain ⟨⟨word, operator'⟩, member, found⟩ := List.exists_of_findSome?_eq_some found
  obtain ⟨⟨nonempty, same⟩, chosen⟩ := Option.ite_none_right_eq_some.mp found
  cases chosen
  refine ⟨word, member, same, nonempty, fun broken => ?_⟩
  rw [String.toList_ofList] at broken
  rw [List.mem_reverse, List.mem_inits] at line
  simpa using List.all_eq_true.mp List.all_takeWhile _ (line.subset broken)

private theorem isSome_longest? {key column : String} {operator : Operator}
    (divides : Divides key column operator) : (longest? key).isSome = true := by
  obtain ⟨word, member, same, nonempty, unbroken⟩ := divides
  rw [longest?, List.findSome?_isSome_iff]
  refine ⟨column.toList, ?_, ?_⟩
  · have line : ∀ letter ∈ column.toList, decide (letter ≠ '\n') = true := by
      intro letter member'
      rw [decide_eq_true_iff]
      rintro rfl
      exact unbroken member'
    rw [List.mem_reverse, List.mem_inits, same, String.append_assoc, String.toList_append,
      List.takeWhile_append_of_pos line]
    exact List.prefix_append _ _
  · rw [List.findSome?_isSome_iff]
    refine ⟨(word, operator), member, ?_⟩
    simp [String.ofList_toList, nonempty, same]

private theorem longest?_eq (key : String) : longest? key = Operator.split? key := by
  cases found : longest? key with
  | some division =>
    exact (split?_iff_divides.mpr (divides_of_longest? found)).symm
  | none =>
    symm
    rw [Option.eq_none_iff_forall_ne_some]
    rintro ⟨column, operator⟩ split
    have some := isSome_longest? (split?_iff_divides.mp split)
    rw [found] at some
    cases some

example : longest? "name_like_ne" = some ("name_like", .ne) := by decide

/-! Predicates -/

/-- Equality with all operands: with a single one or with one of several, and with none there is no
predicate. -/
structure Equality (column : String) (operands : List Operand) (predicates : List Predicate) : Prop where
  single : predicates.length ≤ 1
  equal : ∀ predicate ∈ predicates, predicate.column = column ∧
    (predicate.operator = .eq ∧ predicate.operands.length = 1 ∨
      predicate.operator = .isIn ∧ 2 ≤ predicate.operands.length)
  whole : predicates.flatMap (·.operands) = operands

/-- What a filter asks of the rows of a table. -/
inductive Built (table : Table) (filter : Filter) : List Predicate → Prop
  /-- The key is a column. -/
  | column {predicates : List Predicate} (known : table.hasColumn filter.key = true)
      (equality : Equality filter.key
        ((parts filter.value.values).map (.coerce (table.typeOf filter.key))) predicates) :
      Built table filter predicates
  /-- The key is none, but a column with an operator. Each value is asked for on its own. -/
  | operator {column : String} {operator : Operator} (other : table.hasColumn filter.key = false)
      (divides : Divides filter.key column operator) (known : table.hasColumn column = true) :
      Built table filter (filter.value.values.map fun raw =>
        ⟨column, operator, [if operator = .like then .text raw else .coerce (table.typeOf column) raw]⟩)
  /-- The key is neither. -/
  | nothing (other : table.hasColumn filter.key = false)
      (unknown : ∀ column operator, Divides filter.key column operator → table.hasColumn column = false) :
      Built table filter []

theorem Equality.operands_eq {column : String} {operands : List Operand} {predicates : List Predicate}
    (equality : Equality column operands predicates) {predicate : Predicate}
    (member : predicate ∈ predicates) : predicate.operands = operands := by
  have one : predicates.length = 1 := by
    have some := List.length_pos_of_mem member
    have most := equality.single
    omega
  obtain ⟨only, rfl⟩ := List.length_eq_one_iff.mp one
  rw [List.mem_singleton.mp member, ← equality.whole, List.flatMap_singleton]

private theorem equality_ofAlternatives (column : String) (operands : List Operand) :
    Equality column operands (Predicate.ofAlternatives column operands) := by
  match operands with
  | [] => exact ⟨Nat.zero_le 1, List.forall_mem_nil _, rfl⟩
  | [operand] =>
    refine ⟨Nat.le_refl 1, fun predicate member => ?_, rfl⟩
    obtain rfl := List.mem_singleton.mp member
    exact ⟨rfl, .inl ⟨rfl, rfl⟩⟩
  | first :: second :: rest =>
    refine ⟨Nat.le_refl 1, fun predicate member => ?_, List.append_nil _⟩
    obtain rfl := List.mem_singleton.mp member
    exact ⟨rfl, .inr ⟨rfl, Nat.le_add_left 2 rest.length⟩⟩

theorem built_ofFilter (table : Table) (filter : Filter) :
    Built table filter (Predicate.ofFilter table filter) := by
  unfold Predicate.ofFilter
  split
  case h_1 column found =>
    refine .column (Table.hasColumn_of_column? found) ?_
    rw [Table.name_of_column? found, Table.typeOf_of_column? found]
    exact equality_ofAlternatives _ _
  case h_2 missing =>
    have other := Table.hasColumn_eq_false_iff.mpr missing
    split
    case h_1 whole =>
      refine .nothing other fun column operator divides => ?_
      rw [split?_iff_divides.mpr divides] at whole
      cases whole
    case h_2 name operator divided =>
      have divides := split?_iff_divides.mp divided
      split
      case h_1 unknown =>
        refine .nothing other fun column operator' divides' => ?_
        rw [← (divides.unique divides').1]
        exact Table.hasColumn_eq_false_iff.mpr unknown
      case h_2 column found =>
        obtain rfl := Table.name_of_column? found
        rw [← Table.typeOf_of_column? found]
        exact .operator other divides (Table.hasColumn_of_column? found)

/-- A key splits exactly if it is a column with an operator's word after it, which it is in one way at most,
the one with the longest column. Of a list of filters, each contributes the predicates that it asks for of its
own column. -/
theorem filters_ask_of_one_column (table : Table) :
    (∀ key column operator, Operator.split? key = some (column, operator) ↔ Divides key column operator) ∧
    (∀ key column operator column' operator', Divides key column operator →
      Divides key column' operator' → column = column' ∧ operator = operator') ∧
    (∀ key, longest? key = Operator.split? key) ∧
    ∀ filters, ∃ groups, Predicate.ofFilters table filters = groups.flatten ∧
      List.Forall₂ (Built table) filters groups := by
  refine ⟨fun _ _ _ => split?_iff_divides, fun _ _ _ _ _ => Divides.unique, longest?_eq, fun filters => ?_⟩
  refine ⟨filters.map (Predicate.ofFilter table), List.flatMap_def, ?_⟩
  rw [List.forall₂_map_right_iff, List.forall₂_same]
  exact fun filter _ => built_ofFilter table filter

end ResourceQuery.Proofs.FilterKeys
