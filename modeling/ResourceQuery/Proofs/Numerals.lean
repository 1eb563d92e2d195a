import Mathlib.Algebra.Group.Nat.Defs
import ResourceQuery.Request.Intent

/-! Numerals are read back: digits as the number they were made from, decimals by their parts, and the
text of an integer of 64 bits as that integer, wherever a request takes one. -/

namespace ResourceQuery.Proofs.Numerals
open Number

theorem isDigit_of_mem_digits {value : Nat} {character : Char} (member : character ∈ digits value) :
    character.isDigit = true :=
  Nat.isDigit_of_mem_toDigits (by decide) (by decide) member

theorem isDigit_of_mem_zeros {zeros : Nat} {character : Char}
    (member : character ∈ List.replicate zeros '0') : character.isDigit = true := by
  rw [List.eq_of_mem_replicate member]
  rfl

theorem isDigit_of_mem_padded {width value : Nat} {character : Char}
    (member : character ∈ padded width value) : character.isDigit = true := by
  rcases List.mem_append.mp member with member | member
  · exact isDigit_of_mem_zeros member
  · exact isDigit_of_mem_digits member

theorem digitsValue_digits (value : Nat) : digitsValue (digits value) 0 = value :=
  Nat.ofDigitChars_toDigits (by decide) (by decide)

theorem digitsValue_append_zeros (shown : List Char) (zeros : Nat) :
    digitsValue (shown ++ List.replicate zeros '0') 0 = digitsValue shown 0 * 10 ^ zeros := by
  rw [Nat.mul_comm]
  exact (Nat.ofDigitChars_append 0).trans Nat.ofDigitChars_replicate_zero

theorem digitsValue_zeros_append (zeros : Nat) (shown : List Char) :
    digitsValue (List.replicate zeros '0' ++ shown) 0 = digitsValue shown 0 := by
  have nothing : digitsValue (List.replicate zeros '0') 0 = 0 := Nat.ofDigitChars_replicate_zero
  exact (Nat.ofDigitChars_append 0).trans (congrArg (digitsValue shown) nothing)

theorem digits_ne_nil (value : Nat) : digits value ≠ [] :=
  Nat.toDigits_ne_nil

theorem padded_ne_nil (width value : Nat) : padded width value ≠ [] := by
  simp [padded, digits_ne_nil]

/-- A width that a number fits in is the width that it has. -/
theorem length_padded {width value : Nat} (wide : 0 < width) (small : value < 10 ^ width) :
    (padded width value).length = width := by
  have short : (digits value).length ≤ width :=
    (Nat.length_toDigits_le_iff (by decide) wide).mpr small
  simp only [padded, List.length_append, List.length_replicate]
  omega

theorem digitsValue_padded (width value : Nat) : digitsValue (padded width value) 0 = value :=
  (digitsValue_zeros_append _ _).trans (digitsValue_digits value)

theorem natural?_digits (value : Nat) : natural? (digits value) = some value := by
  have some := digits_ne_nil value
  have all : (digits value).all Char.isDigit = true :=
    List.all_eq_true.mpr fun _ member => isDigit_of_mem_digits member
  simp [natural?, some, all, digitsValue_digits]

private theorem splitSign_digits (value : Nat) : splitSign (digits value) = (false, digits value) := by
  unfold splitSign
  split
  next same => exact absurd (isDigit_of_mem_digits (same ▸ List.mem_cons_self)) (by decide)
  next same => exact absurd (isDigit_of_mem_digits (same ▸ List.mem_cons_self)) (by decide)
  next => rfl

theorem splitSign_of_digit {first : Char} (digit : first.isDigit = true) (rest : List Char) :
    splitSign (first :: rest) = (false, first :: rest) := by
  unfold splitSign
  split
  next same => cases same; cases digit
  next same => cases same; cases digit
  next => rfl

/-- A sign in front is split off, whatever digit follows it. -/
theorem splitSign_signed (negative : Bool) {first : Char} (digit : first.isDigit = true)
    (rest : List Char) :
    splitSign (if negative then '-' :: first :: rest else first :: rest) = (negative, first :: rest) := by
  cases negative with
  | false => exact splitSign_of_digit digit rest
  | true => rfl

/-- The digits in front are those up to the first other character. -/
theorem span_digits {whole rest : List Char} (all : ∀ character ∈ whole, character.isDigit = true)
    (ends : ∀ character ∈ rest.head?, character.isDigit = false) :
    (whole ++ rest).takeWhile Char.isDigit = whole ∧ (whole ++ rest).dropWhile Char.isDigit = rest := by
  rw [List.takeWhile_append_of_pos all, List.dropWhile_append_of_pos all]
  cases rest with
  | nil => simp
  | cons mark after =>
    have other : mark.isDigit = false := ends mark rfl
    simp [other]

theorem scaled?_of_parts {characters whole rest fraction tail : List Char} {negative : Bool}
    (signed : splitSign characters = (negative, whole ++ rest)) (some : whole ≠ [])
    (all : ∀ character ∈ whole, character.isDigit = true)
    (ends : ∀ character ∈ rest.head?, character.isDigit = false)
    (split : splitFraction rest = (fraction, tail)) :
    scaled? characters = (exponent? tail).map fun exponent =>
      ⟨negative, digitsValue (whole ++ fraction) 0, exponent - fraction.length⟩ := by
  obtain ⟨taken, dropped⟩ := span_digits all ends
  simp [scaled?, signed, taken, dropped, split, some]

theorem integer?_integerText (value : Int) : integer? (integerText value).toList = some value := by
  simp only [integerText, String.toList_ofList]
  by_cases negative : value < 0
  · have read : integer? ('-' :: digits value.natAbs) = some (-(value.natAbs : Int)) := by
      simp [integer?, splitSign, natural?_digits]
    rw [if_pos negative, read]
    congr 1
    omega
  · have read : integer? (digits value.natAbs) = some (value.natAbs : Int) := by
      simp [integer?, splitSign_digits, natural?_digits]
    rw [if_neg negative, read]
    congr 1
    omega

theorem digits_of_integerText (value : Nat) : (integerText value).toList = digits value := by
  simp [integerText]

theorem notMem_integerText {mark : Char} (other : mark.isDigit = false) (value : Nat) :
    mark ∉ (integerText value).toList := by
  rw [digits_of_integerText]
  intro member
  have digit := isDigit_of_mem_digits member
  simp [other] at digit

/-- What begins and ends with no blank is not trimmed. -/
theorem trimmed_of_ends {characters : List Char}
    (first : ∀ character ∈ characters.head?, Text.isBlank character = false)
    (last : ∀ character ∈ characters.getLast?, Text.isBlank character = false) :
    Text.trimmed characters = characters := by
  have kept (list : List Char) (solid : ∀ character ∈ list.head?, Text.isBlank character = false) :
      list.dropWhile Text.isBlank = list := by
    cases list with
    | nil => rfl
    | cons first rest => simp [solid first rfl]
  rw [Text.trimmed, kept characters first, kept _ (by simpa using last), List.reverse_reverse]

theorem trimmed_of_forall_mem {characters : List Char}
    (solid : ∀ character ∈ characters, Text.isBlank character = false) :
    Text.trimmed characters = characters :=
  trimmed_of_ends (fun character first => solid character (List.mem_of_mem_head? first))
    (fun character last => solid character (List.mem_of_mem_getLast? last))

theorem isBlank_of_isDigit {character : Char} (digit : character.isDigit = true) :
    Text.isBlank character = false := by
  have bounds := Char.isDigit_iff_toNat.mp digit
  simp only [Char.reduceToNat] at bounds
  simp only [Text.isBlank, Bool.or_eq_false_iff, Bool.and_eq_false_iff, decide_eq_false_iff_not,
    beq_eq_false_iff_ne]
  omega

theorem trim_integerText (value : Int) : Text.trim (integerText value) = integerText value := by
  have solid : ∀ character ∈ (integerText value).toList, Text.isBlank character = false := by
    intro character member
    simp only [integerText, String.toList_ofList] at member
    split at member
    · rcases List.mem_cons.mp member with rfl | member
      · decide
      · exact isBlank_of_isDigit (isDigit_of_mem_digits member)
    · exact isBlank_of_isDigit (isDigit_of_mem_digits member)
  rw [Text.trim, trimmed_of_forall_mem solid, String.ofList_toList]

theorem coerceInteger_integerText {value : Int} (word : Intent.IsWord value) :
    Intent.coerceInteger (integerText value) = some value := by
  simp [Intent.coerceInteger, trim_integerText, Intent.word?, integer?_integerText, word]

end ResourceQuery.Proofs.Numerals
