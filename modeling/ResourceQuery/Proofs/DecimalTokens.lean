import ResourceQuery.Proofs.Numerals
import ResourceQuery.Proofs.PaddedTexts
import ResourceQuery.Proofs.WholeParts

/-! Decimals as a request may spell its numbers: digits, perhaps with a sign and a point, and blanks around
them. A decimal with a point is rounded to binary64 before it is cut to its whole part, and so is one without a
point that is no word. It is told here, for decimals of any length, what this does to the number that is read. -/

namespace ResourceQuery.Proofs.DecimalTokens
open Number Numerals PaddedTexts Ranks Rounding WholeParts

def Digits (characters : List Char) : Prop :=
  characters ≠ [] ∧ ∀ character ∈ characters, character.isDigit = true

instance (characters : List Char) : Decidable (Digits characters) :=
  decidable_of_iff (characters ≠ [] ∧ characters.all Char.isDigit = true)
    (and_congr_right' List.all_eq_true)

/-- Digits, perhaps with a sign, perhaps with a point and more digits, and blanks around them. -/
structure Decimal where
  before : String := ""
  sign : List Char := []
  whole : List Char
  /-- The digits after the point, if there is a point. -/
  fraction : Option (List Char)
  after : String := ""
  blankBefore : Blank before := by decide
  blankAfter : Blank after := by decide
  signs : sign ∈ [[], ['+'], ['-']] := by decide
  wholeDigits : Digits whole := by decide
  fractionDigits : ∀ places ∈ fraction, Digits places := by decide

namespace Decimal

def rest (token : Decimal) : List Char :=
  match token.fraction with
  | none => []
  | some places => '.' :: places

def numeral (token : Decimal) : List Char :=
  token.sign ++ (token.whole ++ token.rest)

def text (token : Decimal) : String :=
  token.before ++ String.ofList token.numeral ++ token.after

def negative (token : Decimal) : Bool :=
  token.sign == ['-']

def places (token : Decimal) : List Char :=
  token.fraction.getD []

def coefficient (token : Decimal) : Nat :=
  digitsValue (token.whole ++ token.places) 0

def magnitude (token : Decimal) : ℚ :=
  token.coefficient / 10 ^ token.places.length

def value (token : Decimal) : ℚ :=
  signed token.negative token.magnitude

/-- A decimal with a point or beyond the words, which is rounded before it is cut, or one that is rounded to
itself. -/
def Rounded (token : Decimal) : Prop :=
  token.fraction ≠ none ∨ |token.value| ≤ 2 ^ 53 ∨ 2 ^ 63 ≤ |token.value|

/-- A decimal without a point, or so far below the next whole number that rounding does not reach it, or
beyond the words. -/
def Exact (token : Decimal) : Prop :=
  token.fraction = none ∨ Clear token.value ∨ 2 ^ 63 ≤ |token.value|

end Decimal

variable (token : Decimal)

private theorem magnitude_nonneg : 0 ≤ token.magnitude := by
  unfold Decimal.magnitude
  positivity

private theorem abs_value : |token.value| = token.magnitude :=
  abs_signed _ (magnitude_nonneg token)

private theorem cut_value : cut token.value = Intent.saturate
    (if token.negative then -(token.coefficient / 10 ^ token.places.length : Nat)
      else (token.coefficient / 10 ^ token.places.length : Nat)) := by
  have floor : ⌊token.magnitude⌋ = (token.coefficient / 10 ^ token.places.length : Nat) := by
    have denominator : (10 : ℚ) ^ token.places.length = (10 ^ token.places.length : Nat) := by
      rw [Nat.cast_pow, Nat.cast_ofNat]
    rw [Decimal.magnitude, denominator, Rat.floor_natCast_div_natCast, Int.natCast_ediv]
  rw [cut, Decimal.value, towardZero_signed _ (magnitude_nonneg token), floor]

/-! The numeral -/

private theorem splitSign_numeral : splitSign token.numeral = (token.negative, token.whole ++ token.rest) := by
  obtain ⟨some, digits⟩ := token.wholeDigits
  obtain ⟨first, more, shown⟩ := List.exists_cons_of_ne_nil some
  have digit : first.isDigit = true := digits first (by simp [shown])
  have signs := token.signs
  simp only [List.mem_cons, List.not_mem_nil, or_false] at signs
  unfold Decimal.numeral Decimal.negative
  rcases signs with none | plus | minus
  · rw [none, shown, List.nil_append, List.cons_append]
    exact splitSign_of_digit digit _
  · rw [plus]
    rfl
  · rw [minus]
    rfl

private theorem not_isDigit_of_head_rest : ∀ character ∈ token.rest.head?, character.isDigit = false := by
  unfold Decimal.rest
  split <;> simp

private theorem splitFraction_rest : splitFraction token.rest = (token.places, []) := by
  have digits := token.fractionDigits
  unfold Decimal.rest Decimal.places
  split
  next none =>
    rw [none]
    rfl
  next places some =>
    have all := (digits places some).2
    obtain ⟨taken, dropped⟩ := @span_digits places [] all (by simp)
    rw [List.append_nil] at taken dropped
    rw [some, splitFraction, taken, dropped]
    rfl

private theorem scaled?_numeral :
    scaled? token.numeral = some ⟨token.negative, token.coefficient, -token.places.length⟩ := by
  rw [scaled?_of_parts (splitSign_numeral token) token.wholeDigits.1 token.wholeDigits.2
    (not_isDigit_of_head_rest token) (splitFraction_rest token), exponent?, Option.map_some, Int.zero_sub]
  rfl

def rank : Nat :=
  nearestRank (unitsOf token.coefficient) (10 ^ token.places.length)

private theorem ofNumeral?_numeral :
    Binary64.ofNumeral? token.numeral = Binary64.ofRank? token.negative (rank token) := by
  rw [Binary64.ofNumeral?, scaled?_numeral, Option.bind_some, ofScaled?_eq, Int.toNat_neg_natCast,
    neg_neg, Int.toNat_natCast, Nat.pow_zero, Nat.mul_one]
  rfl

private theorem rounds_rank (negative : Bool) :
    Rounds (signed negative token.magnitude) (Binary64.ofRank? negative (rank token)) := by
  have rounds := rounds_nearestRank negative (unitsOf token.coefficient)
    (Nat.pow_pos (by decide : 0 < 10) : 0 < 10 ^ token.places.length)
  rwa [unitsOf_cast, div_right_comm, mul_div_cancel_right₀ _ (ne_of_gt unitsInOne_pos), Nat.cast_pow,
    Nat.cast_ofNat] at rounds

private theorem solid_numeral : ∀ character ∈ token.numeral, Text.isBlank character = false := by
  have signs := token.signs
  have digits := token.fractionDigits
  intro character member
  rcases List.mem_append.mp member with inSign | member
  · simp only [List.mem_cons, List.not_mem_nil, or_false] at signs
    rcases signs with sign | sign | sign <;> simp_all [Text.isBlank]
  · rcases List.mem_append.mp member with inWhole | inRest
    · exact isBlank_of_isDigit (token.wholeDigits.2 character inWhole)
    · unfold Decimal.rest at inRest
      split at inRest
      next => cases inRest
      next places some =>
        rcases List.mem_cons.mp inRest with rfl | inPlaces
        · decide
        · exact isBlank_of_isDigit ((digits places some).2 character inPlaces)

theorem trim_text : Text.trim token.text = String.ofList token.numeral := by
  have solid := solid_numeral token
  rw [trim_eq_iff]
  refine ⟨⟨?_, ?_⟩, token.before, token.after, token.blankBefore, token.blankAfter, rfl⟩
  · intro character first
    rw [String.toList_ofList] at first
    exact solid character (List.mem_of_mem_head? first)
  · intro character last
    rw [String.toList_ofList] at last
    exact solid character (List.mem_of_mem_getLast? last)

private theorem integer?_numeral : integer? token.numeral =
    if token.fraction = none then
      some (if token.negative then -(token.coefficient : Int) else token.coefficient)
    else none := by
  obtain ⟨some, digits⟩ := token.wholeDigits
  have all : token.whole.all Char.isDigit = true := List.all_eq_true.mpr digits
  rw [integer?, splitSign_numeral]
  cases shown : token.fraction with
  | none => simp [Decimal.rest, shown, natural?, all, Decimal.coefficient, Decimal.places, some]
  | some places => simp [Decimal.rest, shown, natural?]

private theorem magnitude_of_whole (whole : token.fraction = none) : token.magnitude = token.coefficient := by
  simp [Decimal.magnitude, Decimal.places, whole]

private theorem value_of_whole (whole : token.fraction = none) : token.value =
    ((if token.negative then -(token.coefficient : Int) else token.coefficient : Int) : ℚ) := by
  rw [Decimal.value, magnitude_of_whole token whole, signed]
  split <;> simp

/-! The number that is read -/

private theorem coerceInteger_text : Intent.coerceInteger token.text =
    ((integer? token.numeral).filter fun number => decide (Intent.IsWord number)).or
      ((Binary64.ofRank? token.negative (rank token)).map fun rounded => cut (Rounding.value rounded)) := by
  simp only [Intent.coerceInteger, trim_text, Intent.word?, String.toList_ofList, ofNumeral?_numeral,
    truncate_eq, cut, Option.orElse_eq_orElse, Option.orElse_eq_or]

private theorem coerceInteger_cases :
    (token.fraction = none ∧ |token.value| ≤ 2 ^ 63 ∧
      Intent.coerceInteger token.text = some (cut token.value)) ∨
    ((token.fraction ≠ none ∨ 2 ^ 63 ≤ |token.value|) ∧ Intent.coerceInteger token.text =
      (Binary64.ofRank? token.negative (rank token)).map fun rounded => cut (Rounding.value rounded)) := by
  have read := coerceInteger_text token
  rw [integer?_numeral] at read
  by_cases whole : token.fraction = none
  · have same := value_of_whole token whole
    rw [if_pos whole] at read
    generalize (if token.negative then -(token.coefficient : Int) else token.coefficient) = number at *
    by_cases word : Intent.IsWord number
    · rw [Option.filter_some, if_pos (decide_eq_true word), Option.some_or] at read
      exact .inl ⟨whole, same ▸ abs_le_of_word word, by rw [read, same, cut_of_word word]⟩
    · rw [Option.filter_some, if_neg (by simp [word]), Option.none_or] at read
      exact .inr ⟨.inr (same ▸ great_of_not_word word), read⟩
  · rw [if_neg whole, Option.filter_none, Option.none_or] at read
    exact .inr ⟨.inl whole, read⟩

section

variable {token} {rounded magnitude : Binary64}

/-- A decimal is rounded like its magnitude, but for the sign. -/
structure RoundedTo (token : Decimal) (rounded magnitude : Binary64) : Prop where
  rounds : RoundsTo token.value rounded
  unsigned : RoundsTo token.magnitude magnitude
  signs : Rounding.value rounded = signed token.negative (Rounding.value magnitude)

private theorem exists_rounded (below : |token.value| < overflow) : ∃ rounded magnitude,
    RoundedTo token rounded magnitude ∧
      Binary64.ofRank? token.negative (rank token) = some rounded := by
  have signs := rounds_rank token token.negative
  have unsigned := rounds_rank token false
  by_cases finite : rank token < rankLimit
  · rw [Binary64.ofRank?, dif_pos finite] at signs unsigned
    refine ⟨_, _, ⟨signs.1, unsigned.1, ?_⟩, dif_pos finite⟩
    rw [value_eq_signed, value_eq_signed]
    rfl
  · rw [Binary64.ofRank?, dif_neg finite] at signs
    exact absurd signs (not_le.mpr below)

private theorem ofRank?_eq_none_iff :
    Binary64.ofRank? token.negative (rank token) = none ↔ overflow ≤ |token.value| := by
  have rounds := rounds_rank token token.negative
  constructor
  · intro none
    rwa [none] at rounds
  · intro great
    by_contra some
    obtain ⟨rounded, same⟩ := Option.ne_none_iff_exists'.mp some
    rw [same] at rounds
    exact absurd rounds.2 (not_lt.mpr great)

private theorem coerceInteger_eq_none_iff :
    Intent.coerceInteger token.text = none ↔ overflow ≤ |token.value| := by
  rcases coerceInteger_cases token with ⟨-, short, read⟩ | ⟨-, read⟩
  · simp [read, lt_overflow short]
  · rw [read, Option.map_eq_none_iff, ofRank?_eq_none_iff]

private theorem read_cases {number : Int} (read : Intent.coerceInteger token.text = some number) :
    ∃ rounded magnitude, RoundedTo token rounded magnitude ∧
      (token.fraction = none ∧ number = cut token.value ∨
        (token.fraction ≠ none ∨ 2 ^ 63 ≤ |token.value|) ∧ number = cut (Rounding.value rounded)) := by
  have below : |token.value| < overflow := by
    by_contra great
    rw [coerceInteger_eq_none_iff.mpr (not_lt.mp great)] at read
    cases read
  obtain ⟨rounded, magnitude, nearest, ranked⟩ := exists_rounded below
  refine ⟨rounded, magnitude, nearest, ?_⟩
  rcases coerceInteger_cases token with ⟨whole, -, same⟩ | ⟨other, same⟩
  · exact .inl ⟨whole, Option.some.inj (read.symm.trans same)⟩
  · rw [read, ranked, Option.map_some] at same
    exact .inr ⟨other, Option.some.inj same⟩

private theorem RoundedTo.cut_eq (nearest : RoundedTo token rounded magnitude)
    (exact : Clear token.value ∨ 2 ^ 63 ≤ |token.value|) :
    cut (Rounding.value rounded) = cut token.value := by
  rcases exact with clear | great
  · have positive := magnitude_nonneg token
    have clear' : Clear token.magnitude := by
      rw [Clear, abs_value] at clear
      rwa [Clear, abs_of_nonneg positive]
    have positive' := @le_value_of_le _ _ 0 (by norm_num) nearest.unsigned (by exact_mod_cast positive)
    rw [Nat.cast_zero] at positive'
    have whole := floor_value nearest.unsigned positive clear'
    rw [cut, nearest.signs, towardZero_signed _ positive', whole, cut, Decimal.value,
      towardZero_signed _ positive]
  · exact cut_value_of_great nearest.rounds great

private theorem RoundedTo.value_eq (nearest : RoundedTo token rounded magnitude)
    (whole : token.fraction = none) (short : |token.value| ≤ 2 ^ 53) :
    Rounding.value rounded = token.value := by
  have natural := magnitude_of_whole token whole
  rw [abs_value, natural] at short
  obtain ⟨exact, same⟩ := exists_whole (by exact_mod_cast short : token.coefficient ≤ 2 ^ 53)
  rw [← natural] at same
  have itself : RoundsTo token.magnitude exact := same ▸ roundsTo_value exact
  rw [nearest.signs, value_eq_iff.mpr (nearest.unsigned.key_eq itself), same, Decimal.value]

private theorem eq_cut_of_exact {number : Int} (read : Intent.coerceInteger token.text = some number)
    (exact : token.Exact) : number = cut token.value := by
  obtain ⟨rounded, magnitude, nearest, ⟨-, same⟩ | ⟨other, same⟩⟩ := read_cases read
  · exact same
  · have near : Clear token.value ∨ 2 ^ 63 ≤ |token.value| :=
      exact.elim (fun whole => .inr (other.resolve_left fun point => point whole)) id
    exact same.trans (nearest.cut_eq near)

private theorem eq_cut_rounded {number : Int} (read : Intent.coerceInteger token.text = some number)
    (kind : token.Rounded) :
    ∃ rounded, RoundsTo token.value rounded ∧ number = cut (Rounding.value rounded) := by
  obtain ⟨rounded, magnitude, nearest, ⟨whole, same⟩ | ⟨-, same⟩⟩ := read_cases read
  · refine ⟨rounded, nearest.rounds, same.trans ?_⟩
    rcases kind with point | short | great
    · exact absurd whole point
    · rw [nearest.value_eq whole short]
    · exact (cut_value_of_great nearest.rounds great).symm
  · exact ⟨rounded, nearest.rounds, same⟩

end

/-- A decimal counts as absent exactly if it is too great to be rounded. Otherwise it is read as its whole part,
cut to a word, unless it has a point and the next whole number is within a rounding error; what has a point is
always read as the whole part of what it is rounded to. Hence what is read keeps the order of the decimals,
except between one so close to the next whole number and a word that is not rounded to itself. -/
theorem decimals_are_cut_but_for_rounding :
    (Intent.coerceInteger token.text = none ↔ overflow ≤ |token.value|) ∧
    ∀ number, Intent.coerceInteger token.text = some number →
      (token.Exact → number = cut token.value) ∧
      (token.Rounded → ∃ rounded, RoundsTo token.value rounded ∧ number = cut (Rounding.value rounded)) ∧
      ∀ (other : Decimal) (following : Int), Intent.coerceInteger other.text = some following →
        token.value ≤ other.value → token.Exact ∧ other.Exact ∨ token.Rounded ∧ other.Rounded →
          number ≤ following := by
  refine ⟨coerceInteger_eq_none_iff, fun number read => ⟨eq_cut_of_exact read, eq_cut_rounded read, ?_⟩⟩
  intro other following read' ordered alike
  rcases alike with ⟨exact, exact'⟩ | ⟨kind, kind'⟩
  · rw [eq_cut_of_exact read exact, eq_cut_of_exact read' exact']
    exact cut_le ordered
  · obtain ⟨low, rounds, rfl⟩ := eq_cut_rounded read kind
    obtain ⟨high, rounds', rfl⟩ := eq_cut_rounded read' kind'
    exact cut_le (rounded_le rounds rounds' ordered)

/-- A decimal a tenth above minus three, with blanks around it. -/
def spaced : Decimal where
  before := " "
  sign := ['-']
  whole := ['2']
  fraction := some ['9']
  after := "\t"

theorem spaced_decimal_is_cut :
    Intent.coerceInteger spaced.text = some (-2) ∧ spaced.Exact ∧ -2 = cut spaced.value := by
  have read : Intent.coerceInteger spaced.text = some (-2) := by decide +kernel
  have exact : spaced.Exact := by
    have coefficient : spaced.coefficient = 29 := by decide
    have places : spaced.places.length = 1 := by decide
    have floor : ⌊(29 / 10 : ℚ)⌋ = 2 := by
      rw [Int.floor_eq_iff]
      norm_num
    refine .inr (.inl ?_)
    rw [Clear, abs_value, Decimal.magnitude, coefficient, places, pow_one, Nat.cast_ofNat, floor]
    norm_num
  exact ⟨read, exact, ((decimals_are_cut_but_for_rounding spaced).2 (-2) read).1 exact⟩

/-- The decimal is read as its whole part, cut to a word. -/
def ReadWhole (token : Decimal) : Prop :=
  Intent.coerceInteger token.text = some (cut token.value)

/-- Twenty nines after the point, which are rounded up to one. -/
def nearlyOne : Decimal where
  whole := ['0']
  fraction := some (List.replicate 20 '9')

/-- A word in the middle between two numbers of the format, but with a point. -/
def betweenTwo : Decimal where
  whole := "9007199254740993".toList
  fraction := some ['0']

def powerOfTen (zeros : Nat) : Decimal where
  whole := '1' :: List.replicate zeros '0'
  fraction := none
  wholeDigits := ⟨List.cons_ne_nil _ _, fun _ member =>
    (List.mem_cons.mp member).elim (fun first => first ▸ rfl) isDigit_of_mem_zeros⟩
  fractionDigits := by simp

private theorem abs_powerOfTen (zeros : Nat) : |(powerOfTen zeros).value| = 10 ^ zeros := by
  have coefficient : (powerOfTen zeros).coefficient = 10 ^ zeros := by
    have shown := digitsValue_append_zeros ['1'] zeros
    rw [show digitsValue ['1'] 0 = 1 from rfl, Nat.one_mul] at shown
    rw [← shown]
    simp [Decimal.coefficient, Decimal.places, powerOfTen]
  rw [abs_value, Decimal.magnitude, coefficient]
  simp [Decimal.places, powerOfTen]

private theorem coerceInteger_powerOfTen {zeros : Nat} (many : 309 ≤ zeros) :
    Intent.coerceInteger (powerOfTen zeros).text = none := by
  have covered {bits tens : Nat} (power : 2 ^ bits ≤ 10 ^ tens) (fewer : tens ≤ zeros) :
      (2 : ℚ) ^ bits ≤ 10 ^ zeros := by
    exact_mod_cast Nat.le_trans power (Nat.pow_le_pow_right (by decide) fewer)
  have last : overflow ≤ 2 ^ 1024 := sub_le_self _ (by positivity)
  rw [coerceInteger_eq_none_iff, abs_powerOfTen]
  exact le_trans last (@covered 1024 309 (by decide +kernel) many)

theorem decimals_are_carried_or_lost :
    ¬ ReadWhole nearlyOne ∧ ¬ ReadWhole betweenTwo ∧ ¬ ReadWhole (powerOfTen 309) := by
  unfold ReadWhole
  refine ⟨?_, ?_, ?_⟩
  · rw [cut_value]
    decide +kernel
  · rw [cut_value]
    decide +kernel
  · rw [coerceInteger_powerOfTen (by decide)]
    exact (Option.some_ne_none _).symm

end ResourceQuery.Proofs.DecimalTokens
