import ResourceQuery.Json.Number
import ResourceQuery.Proofs.Numerals
import ResourceQuery.Proofs.Ranks

/-! Shortest texts of binary64 numbers. The decimal that is written rounds to the number that it is
written for, so both texts of a number, with an exponent and without one, are read back as it. -/

namespace ResourceQuery.Proofs.ShortestTexts
open Number Numerals Ranks

private theorem fives_pos : 0 < Nat.pow 5 1074 := by
  have pow_pos (places : Nat) : 0 < Nat.pow 5 places := Nat.pow_pos (by decide)
  exact pow_pos 1074

private theorem within_of_roundsTo {below decimal numerator denominator : Nat} (positive : 0 < denominator)
    (same : numerator * Nat.pow 5 1074 = decimal * denominator)
    (rounds : roundsTo (below + 1) decimal = true) : Within (below + 1) numerator denominator := by
  have fives := fives_pos
  simp only [roundsTo, rankDecimal, Nat.add_sub_cancel, ← Nat.add_mul] at rounds
  generalize Nat.pow 5 1074 = scale at *
  have moved (bound : Nat) : bound * scale * denominator = bound * denominator * scale :=
    Nat.mul_right_comm _ _ _
  have twice : 2 * decimal * denominator = 2 * numerator * scale := by
    rw [Nat.mul_assoc, ← same, Nat.mul_assoc]
  have le_iff (bound : Nat) :
      bound * scale ≤ 2 * decimal ↔ bound * denominator ≤ 2 * numerator := by
    rw [← Nat.mul_le_mul_right_iff positive, moved, twice, Nat.mul_le_mul_right_iff fives]
  have ge_iff (bound : Nat) :
      2 * decimal ≤ bound * scale ↔ 2 * numerator ≤ bound * denominator := by
    rw [← Nat.mul_le_mul_right_iff positive, moved, twice, Nat.mul_le_mul_right_iff fives]
  have low := le_iff (middle below)
  have high := ge_iff (middle (below + 1))
  have notLow := ge_iff (middle below)
  have notHigh := le_iff (middle (below + 1))
  simp only [middle] at low high notLow notHigh
  split at rounds
  next even =>
    simp only [Bool.and_eq_true, decide_eq_true_eq] at rounds
    refine ⟨high.mp rounds.2, fun _ => even, ?_, fun _ _ _ => even⟩
    intro other next
    cases next
    exact low.mp rounds.1
  next odd =>
    simp only [Bool.and_eq_true, decide_eq_true_eq] at rounds
    refine ⟨high.mp (Nat.le_of_lt rounds.2), ?_, ?_, ?_⟩
    · intro onMiddle
      have := notHigh.mpr (Nat.le_of_eq onMiddle.symm)
      omega
    · intro other next
      cases next
      exact low.mp (Nat.le_of_lt rounds.1)
    · intro other next onMiddle
      cases next
      have := notLow.mpr (Nat.le_of_eq onMiddle.symm)
      omega

private theorem rankDecimal_strictMono : StrictMono rankDecimal := by
  intro rank other before
  exact Nat.mul_lt_mul_of_pos_right (rankUnits_strictMono before) fives_pos

private theorem roundsTo_rankDecimal {rank : Nat} (positive : 0 < rank) :
    roundsTo rank (rankDecimal rank) = true := by
  have below : rankDecimal (rank - 1) < rankDecimal rank :=
    rankDecimal_strictMono (Nat.sub_one_lt_of_lt positive)
  have above : rankDecimal rank < rankDecimal (rank + 1) := rankDecimal_strictMono (Nat.lt_succ_self _)
  simp only [roundsTo]
  split
  · simp only [Bool.and_eq_true, decide_eq_true_eq]
    omega
  · simp only [Bool.and_eq_true, decide_eq_true_eq]
    omega

private theorem roundsTo_nearestMultiple? {tie : Tie} {rank step multiple : Nat}
    (found : nearestMultiple? tie rank step = some multiple) :
    roundsTo rank (multiple * step) = true := by
  simp only [nearestMultiple?] at found
  generalize rankDecimal rank / step = low at found
  split at found
  next => cases found
  next below _ => cases found; exact below
  next _ above => cases found; exact above
  next below above =>
    have both : multiple = low ∨ multiple = low + 1 := by
      split at found
      next => exact .inl (Option.some.inj found).symm
      next =>
        split at found
        next => exact .inr (Option.some.inj found).symm
        next =>
          cases tie with
          | even =>
            have := Option.some.inj found
            omega
          | upward => exact .inr (Option.some.inj found).symm
    rcases both with rfl | rfl
    · exact below
    · exact above

private theorem roundsTo_coarsest (tie : Tie) {rank : Nat} (positive : 0 < rank) (level : Nat) :
    roundsTo rank ((coarsest tie rank level).1 * 10 ^ (coarsest tie rank level).2) = true := by
  induction level with
  | zero =>
    rw [coarsest, Nat.pow_zero, Nat.mul_one]
    exact roundsTo_rankDecimal positive
  | succ level ih =>
    rw [coarsest]
    split
    next multiple found => exact roundsTo_nearestMultiple? found
    next => exact ih

/-- A decimal is read as the number, however many zeros are written after its digits. -/
def Denotes (number : Binary64) (coefficient : Nat) (power : Int) : Prop :=
  ∀ zeros : Nat, Binary64.ofScaled? ⟨number.negative, coefficient * 10 ^ zeros, power - zeros⟩ = some number

private theorem denotes_zero {number : Binary64} (none : number.rank = 0) (power : Int) :
    Denotes number 0 power := by
  intro zeros
  obtain ⟨negative, rank, finite⟩ := number
  cases none
  rw [Nat.zero_mul]
  rfl

private theorem denotes_of_roundsTo {number : Binary64} {multiple level : Nat} (positive : 0 < number.rank)
    (rounds : roundsTo number.rank (multiple * 10 ^ level) = true) :
    Denotes number multiple ((level : Int) - 1074) := by
  intro zeros
  obtain ⟨negative, rank, finite⟩ := number
  obtain ⟨below, rfl⟩ : ∃ below, rank = below + 1 := ⟨rank - 1, by simp only at positive; omega⟩
  have scale {places up down : Nat} (balance : zeros + up + places = level + down) :
      multiple * 10 ^ zeros * 10 ^ up * 2 ^ places * Nat.pow 5 places =
        multiple * 10 ^ level * 10 ^ down := by
    have tens : 2 ^ places * Nat.pow 5 places = 10 ^ places := (Nat.mul_pow 2 5 places).symm
    rw [Nat.mul_assoc (_ * _ * _), tens, Nat.mul_assoc multiple, Nat.mul_assoc multiple,
      Nat.mul_assoc multiple, ← Nat.pow_add, ← Nat.pow_add, ← Nat.pow_add, balance]
  generalize raised : ((level : Int) - 1074 - zeros).toNat = up
  generalize lowered : (-((level : Int) - 1074 - zeros)).toNat = down
  have positive : 0 < 10 ^ down := Nat.pow_pos (by decide)
  have within := within_of_roundsTo positive (@scale 1074 up down (by omega)) rounds
  have nearest : nearestRank (unitsOf (multiple * 10 ^ zeros * 10 ^ up)) (10 ^ down) = below + 1 :=
    within.nearestRank_eq positive
  rw [ofScaled?_eq, raised, lowered, nearest]
  exact dif_pos finite

-- Between functions, and with another one for the search, so that the kernel does not start searching.
private theorem shortest_unfolded : shortest = fun tie rank =>
    match coarsest tie rank (topLevel rank) with
    | (multiple, level) => (multiple, (level : Int) - 1074) :=
  rfl

private theorem match_search (search : Tie → Nat → Nat → Nat × Nat) :
    (fun tie rank => match search tie rank (topLevel rank) with
      | (multiple, level) => (multiple, (level : Int) - 1074)) =
    fun tie rank => ((search tie rank (topLevel rank)).1,
      ((search tie rank (topLevel rank)).2 : Int) - 1074) :=
  rfl

private theorem shortest_eq (tie : Tie) (rank : Nat) : shortest tie rank =
    ((coarsest tie rank (topLevel rank)).1, ((coarsest tie rank (topLevel rank)).2 : Int) - 1074) :=
  congrFun (congrFun (shortest_unfolded.trans (match_search coarsest)) tie) rank

private theorem denotes_shortest {tie : Tie} {number : Binary64} {coefficient : Nat} {power : Int}
    (positive : 0 < number.rank) (found : shortest tie number.rank = (coefficient, power)) :
    Denotes number coefficient power := by
  have rounds := roundsTo_coarsest tie positive (topLevel number.rank)
  rw [shortest_eq] at found
  generalize coarsest tie number.rank (topLevel number.rank) = multiple at rounds found
  cases found
  exact denotes_of_roundsTo positive rounds

open Json.Number

/-- What is at the end of a text: nothing or a power of ten. -/
def Raised (tail : List Char) (exponent : Int) : Prop :=
  tail = [] ∧ exponent = 0 ∨ tail = exponentText exponent

private theorem exponent?_exponentText (power : Int) : exponent? (exponentText power) = some power := by
  have read (negative : Bool) : integer? ((if negative then '-' else '+') :: digits power.natAbs) =
      some (if negative then -(power.natAbs : Int) else power.natAbs) := by
    cases negative <;> simp [integer?, splitSign, natural?_digits]
  have read := read (decide (power < 0))
  simp only [decide_eq_true_eq] at read
  simp only [exponentText, exponent?, true_or, ↓reduceIte, read, Option.some.injEq]
  split <;> omega

def marks : List Char := ['.', 'e', '+', '-']

/-- Digits, and after them nothing or what a point or an exponent begins. -/
structure Shape (whole rest : List Char) : Prop where
  some : whole ≠ []
  all : ∀ character ∈ whole, character.isDigit = true
  mark : ∀ character ∈ rest.head?, character = '.' ∨ character = 'e'
  plain : ∀ character ∈ rest, character.isDigit = true ∨ character ∈ marks

namespace Raised

variable {tail : List Char} {exponent : Int}

private theorem exponent?_eq (raised : Raised tail exponent) : exponent? tail = some exponent := by
  rcases raised with ⟨rfl, rfl⟩ | rfl
  · rfl
  · exact exponent?_exponentText exponent

theorem mark (raised : Raised tail exponent) : ∀ character ∈ tail.head?, character = 'e' := by
  rcases raised with ⟨rfl, rfl⟩ | rfl
  · simp
  · simp [exponentText]

theorem ends (raised : Raised tail exponent) :
    ∀ character ∈ tail.head?, character.isDigit = false := by
  intro character first
  rw [raised.mark character first]
  rfl

theorem plain (raised : Raised tail exponent) :
    ∀ character ∈ tail, character.isDigit = true ∨ character ∈ marks := by
  rcases raised with ⟨rfl, rfl⟩ | rfl
  · simp
  · intro character member
    rcases List.mem_cons.mp member with rfl | member
    · exact .inr (by decide)
    rcases List.mem_cons.mp member with rfl | member
    · right
      split <;> decide
    · exact .inl (isDigit_of_mem_digits member)

end Raised

/-- A text that stands for a decimal, whatever sign is put in front. -/
structure Written (coefficient : Nat) (power : Int) (whole rest : List Char) : Prop where
  shape : Shape whole rest
  reads : ∃ zeros : Nat, ∀ negative characters, splitSign characters = (negative, whole ++ rest) →
    scaled? characters = some ⟨negative, coefficient * 10 ^ zeros, power - zeros⟩

section

variable {coefficient zeros : Nat} {power exponent : Int} {whole fraction tail : List Char}

private theorem written_point (some : whole ≠ []) (all : ∀ character ∈ whole, character.isDigit = true)
    (places : ∀ character ∈ fraction, character.isDigit = true) (raised : Raised tail exponent)
    (value : digitsValue (whole ++ fraction) 0 = coefficient * 10 ^ zeros)
    (scale : exponent - fraction.length = power - zeros) :
    Written coefficient power whole ('.' :: (fraction ++ tail)) where
  shape :=
    { some, all
      mark := by simp
      plain := by
        intro character member
        rcases List.mem_cons.mp member with rfl | member
        · exact .inr (by decide)
        rcases List.mem_append.mp member with member | member
        · exact .inl (places character member)
        · exact raised.plain character member }
  reads := by
    refine ⟨zeros, fun negative characters signed => ?_⟩
    obtain ⟨taken, dropped⟩ := span_digits places raised.ends
    have split : splitFraction ('.' :: (fraction ++ tail)) = (fraction, tail) := by
      rw [splitFraction, taken, dropped]
    have parts := scaled?_of_parts signed some all (by simp) split
    rw [parts, raised.exponent?_eq, Option.map_some, value, scale]

private theorem written_whole (some : whole ≠ []) (all : ∀ character ∈ whole, character.isDigit = true)
    (raised : Raised tail exponent) (value : digitsValue whole 0 = coefficient * 10 ^ zeros)
    (scale : exponent = power - zeros) : Written coefficient power whole tail where
  shape :=
    { some, all
      mark := fun character first => .inr (raised.mark character first)
      plain := raised.plain }
  reads := by
    refine ⟨zeros, fun negative characters signed => ?_⟩
    have split : splitFraction tail = ([], tail) := by
      unfold splitFraction
      split
      next rest => cases raised.mark '.' rfl
      next => rfl
    have parts := scaled?_of_parts signed some all raised.ends split
    rw [parts, raised.exponent?_eq, Option.map_some, List.append_nil, value, scale]
    simp

end

private theorem written_zeros (coefficient zeros : Nat) :
    let whole := digits coefficient ++ List.replicate zeros '0'
    Written coefficient zeros whole [] ∧ Written coefficient zeros whole ['.', '0'] := by
  intro whole
  have some : whole ≠ [] := by simp [whole, digits_ne_nil]
  have all : ∀ character ∈ whole, character.isDigit = true := by
    intro character member
    rcases List.mem_append.mp member with member | member
    · exact isDigit_of_mem_digits member
    · exact isDigit_of_mem_zeros member
  have raised : Raised [] 0 := .inl ⟨rfl, rfl⟩
  constructor
  · refine written_whole some all raised ?_ (Int.sub_self _).symm
    rw [digitsValue_append_zeros, digitsValue_digits]
  · have longer : whole ++ ['0'] = digits coefficient ++ List.replicate (zeros + 1) '0' := by
      rw [List.append_assoc, List.replicate_succ']
    have value : digitsValue (whole ++ ['0']) 0 = coefficient * 10 ^ (zeros + 1) := by
      rw [longer, digitsValue_append_zeros, digitsValue_digits]
    have place : ∀ character ∈ ['0'], character.isDigit = true := by simp
    exact written_point some all place raised value (by rw [List.length_singleton]; omega)

private theorem written_fraction (coefficient : Nat) {power : Int} (fractional : power < 0) :
    ∃ whole rest, positional (digits coefficient) power = whole ++ rest ∧ rest ≠ [] ∧
      Written coefficient power whole rest := by
  rw [positional, if_neg (Int.not_le.mpr fractional)]
  simp only
  generalize padding : (-power).toNat + 1 - (digits coefficient).length = zeros
  generalize shown : List.replicate zeros '0' ++ digits coefficient = filled
  have length : (-power).toNat < filled.length := by
    rw [← shown, List.length_append, List.length_replicate]
    omega
  have all : ∀ character ∈ filled, character.isDigit = true := by
    intro character member
    rw [← shown] at member
    rcases List.mem_append.mp member with member | member
    · exact isDigit_of_mem_zeros member
    · exact isDigit_of_mem_digits member
  have value : digitsValue filled 0 = coefficient * 10 ^ 0 := by
    rw [← shown, digitsValue_zeros_append, digitsValue_digits, Nat.pow_zero, Nat.mul_one]
  refine ⟨filled.take (filled.length - (-power).toNat),
    '.' :: (filled.drop (filled.length - (-power).toNat) ++ []), by simp, by simp, ?_⟩
  refine written_point ?_ (fun character member => all character (List.mem_of_mem_take member))
    (fun character member => all character (List.mem_of_mem_drop member)) (.inl ⟨rfl, rfl⟩)
    (by rw [List.take_append_drop]; exact value) ?_
  · rw [Ne, List.take_eq_nil_iff, not_or]
    exact ⟨by omega, List.ne_nil_of_length_pos (by omega)⟩
  · rw [List.length_drop]
    omega

private theorem written_scientific (coefficient : Nat) (power : Int) :
    ∃ whole rest, scientific (digits coefficient) (power + (digits coefficient).length - 1) =
        whole ++ rest ∧ rest ≠ [] ∧ Written coefficient power whole rest := by
  have value := digitsValue_digits coefficient
  have all : ∀ character ∈ digits coefficient, character.isDigit = true :=
    fun _ member => isDigit_of_mem_digits member
  have some := digits_ne_nil coefficient
  generalize digits coefficient = shown at *
  rw [← Nat.mul_one coefficient, ← Nat.pow_zero 10] at value
  match shown with
  | [] => exact absurd rfl some
  | [digit] =>
    refine ⟨[digit], exponentText power, ?_, by simp [exponentText], ?_⟩
    · simp [scientific]
    · exact written_whole (by simp) all (.inr rfl) value (by simp)
  | digit :: next :: more =>
    obtain ⟨first, others⟩ := List.forall_mem_cons.mp all
    refine ⟨[digit], _, rfl, by simp, ?_⟩
    exact written_point (by simp) (by simpa using first) others (.inr rfl) value (by simp; omega)

def withSign (negative : Bool) (magnitude : List Char) : List Char :=
  if negative then '-' :: magnitude else magnitude

theorem Shape.splitSign_eq {whole rest : List Char} (shape : Shape whole rest) (negative : Bool) :
    splitSign (withSign negative (whole ++ rest)) = (negative, whole ++ rest) := by
  match whole, shape with
  | [], shape => exact absurd rfl shape.some
  | first :: more, shape => exact splitSign_signed negative (shape.all first List.mem_cons_self) _

private theorem Written.ofNumeral?_eq {number : Binary64} {coefficient : Nat} {power : Int}
    {whole rest : List Char} (written : Written coefficient power whole rest)
    (denotes : Denotes number coefficient power) :
    Binary64.ofNumeral? (withSign number.negative (whole ++ rest)) = some number := by
  obtain ⟨zeros, reads⟩ := written.reads
  rw [Binary64.ofNumeral?, reads _ _ (written.shape.splitSign_eq number.negative), Option.bind_some]
  exact denotes zeros

/-- Without an exponent. -/
theorem written_plainText (number : Binary64) : ∃ coefficient power whole rest,
    (plainText number).toList = withSign number.negative (whole ++ rest) ∧
      Written coefficient power whole rest ∧ Denotes number coefficient power := by
  obtain ⟨coefficient, power, found, denotes⟩ : ∃ coefficient power,
      (if number.rank = 0 then (0, 0) else shortest .upward number.rank) = (coefficient, power) ∧
        Denotes number coefficient power := by
    by_cases none : number.rank = 0
    · exact ⟨0, 0, if_pos none, denotes_zero none 0⟩
    · cases found : shortest .upward number.rank with
      | mk coefficient power =>
        have denotes := denotes_shortest (Nat.pos_of_ne_zero none) found
        exact ⟨coefficient, power, if_neg none, denotes⟩
  simp only [plainText, found, String.toList_ofList]
  by_cases integral : 0 ≤ power
  · obtain ⟨zeros, rfl⟩ := Int.eq_ofNat_of_zero_le integral
    obtain ⟨written, -⟩ := written_zeros coefficient zeros
    refine ⟨coefficient, zeros, _, [], ?_, written, denotes⟩
    simp [positional, withSign]
  · obtain ⟨whole, rest, shown, -, written⟩ := written_fraction coefficient (Int.not_le.mp integral)
    exact ⟨coefficient, power, whole, rest, by rw [shown, withSign], written, denotes⟩

private theorem written_magnitudeText (number : Binary64) : ∃ coefficient power whole rest,
    magnitudeText number.rank = whole ++ rest ∧ rest ≠ [] ∧
      Written coefficient power whole rest ∧ Denotes number coefficient power := by
  unfold magnitudeText
  by_cases none : number.rank = 0
  · obtain ⟨-, written⟩ := written_zeros 0 0
    rw [if_pos none]
    exact ⟨0, 0, _, _, rfl, by simp, written, denotes_zero none 0⟩
  · cases found : shortest .even number.rank with
    | mk coefficient power =>
      have denotes := denotes_shortest (Nat.pos_of_ne_zero none) found
      simp only [if_neg none]
      split
      next =>
        by_cases integral : 0 ≤ power
        · obtain ⟨zeros, rfl⟩ := Int.eq_ofNat_of_zero_le integral
          obtain ⟨-, written⟩ := written_zeros coefficient zeros
          refine ⟨coefficient, zeros, _, _, ?_, by simp, written, denotes⟩
          simp [positional]
        · obtain ⟨whole, rest, shown, some, written⟩ :=
            written_fraction coefficient (Int.not_le.mp integral)
          refine ⟨coefficient, power, whole, rest, ?_, some, written, denotes⟩
          rw [shown, if_neg integral, List.append_nil]
      next =>
        obtain ⟨whole, rest, shown, some, written⟩ := written_scientific coefficient power
        exact ⟨coefficient, power, whole, rest, shown, some, written, denotes⟩

theorem ofNumeral?_plainText (number : Binary64) :
    Binary64.ofNumeral? (plainText number).toList = some number := by
  obtain ⟨coefficient, power, whole, rest, shown, written, denotes⟩ := written_plainText number
  rw [shown]
  exact written.ofNumeral?_eq denotes

theorem ofNumeral?_text (number : Binary64) :
    Binary64.ofNumeral? (Json.Number.text (.real number)).toList = some number := by
  obtain ⟨coefficient, power, whole, rest, shown, -, written, denotes⟩ := written_magnitudeText number
  rw [Json.Number.text, String.toList_ofList, shown]
  exact written.ofNumeral?_eq denotes

/-- The text of a number is a numeral, and it shows that a number is no integer. -/
theorem numeral_text (number : Json.Number) : ∃ negative whole rest,
    number.text.toList = withSign negative (whole ++ rest) ∧ Shape whole rest ∧
      (rest = [] ↔ ∃ value fits, number = .integer value fits) := by
  cases number with
  | integer value fits =>
    have all : ∀ character ∈ digits value.natAbs, character.isDigit = true :=
      fun _ member => isDigit_of_mem_digits member
    refine ⟨decide (value < 0), digits value.natAbs, [], ?_, ⟨digits_ne_nil _, all, ?_, ?_⟩, ?_⟩
    · simp [Json.Number.text, integerText, withSign]
    · simp
    · simp
    · simp [fits]
  | real number =>
    obtain ⟨coefficient, power, whole, rest, shown, some, written, -⟩ := written_magnitudeText number
    refine ⟨number.negative, whole, rest, ?_, written.shape, ?_⟩
    · rw [Json.Number.text, String.toList_ofList, shown, withSign]
    · simp [some]

end ResourceQuery.Proofs.ShortestTexts
