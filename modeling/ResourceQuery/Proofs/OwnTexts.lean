import ResourceQuery.Proofs.DateReading
import ResourceQuery.Proofs.NumericBounds
import ResourceQuery.Proofs.ShortestTexts

/-! Cells and their own texts. The text of a cell, read in a column of any type, finds the cell again,
unless the cell is a text that is spelled otherwise than the value it is read as. Beside the cell it finds
all cells that have this text or, as numbers and instants, the same value. -/

namespace ResourceQuery.Proofs.OwnTexts
open Calendar DateReading Number NumericBounds Numerals Rounding ShortestTexts

theorem plainText_number (number : Json.Number) : (Json.number number).plainText = number.text := by
  simp [Json.plainText, Json.text, Json.characters]

private theorem integer?_eq_none {negative : Bool} {whole rest : List Char} (shape : Shape whole rest)
    (more : rest ≠ []) : integer? (withSign negative (whole ++ rest)) = none := by
  have part : ¬ (whole ++ rest).all Char.isDigit = true := by
    intro all
    match rest, more, shape with
    | mark :: after, _, shape =>
      have digit := List.all_eq_true.mp all mark (by simp)
      rcases shape.mark mark rfl with rfl | rfl <;> cases digit
  simp [integer?, shape.splitSign_eq, natural?, part]

private theorem word?_text (number : Json.Number) : Intent.word? number.text = number.signed? := by
  cases number with
  | integer value fits =>
    obtain ⟨low, -⟩ := fits
    simp only [Intent.word?, Json.Number.text, integer?_integerText, Option.filter_some,
      Json.Number.signed?, Intent.IsWord, Intent.minWord, Intent.maxWord, decide_eq_true_eq, low, true_and]
  | real value =>
    obtain ⟨negative, whole, rest, shown, shape, integral⟩ := numeral_text (.real value)
    have more : rest ≠ [] := by simp [integral]
    rw [Intent.word?, shown, integer?_eq_none shape more]
    rfl

theorem isWord_of_word? {text : String} {value : Int} (read : Intent.word? text = some value) :
    Intent.IsWord value := by
  simpa using (Option.filter_eq_some_iff.mp read).2

/-- A number reads as what it rounds to. -/
theorem ofNumeral?_number (number : Json.Number) : ∃ value,
    Binary64.ofNumeral? number.text.toList = some value ∧ RoundsTo (numberValue number) value := by
  cases number with
  | real value => exact ⟨value, ofNumeral?_text value, roundsTo_value value⟩
  | integer value fits =>
    have read := integer?_integerText value
    obtain ⟨negative, magnitude, scaled, size⟩ := scaled?_of_integer? read
    have short : magnitude < 2 ^ 65 := by
      obtain ⟨low, high⟩ := fits
      cases negative <;> simp only [Bool.false_eq_true, ↓reduceIte] at size <;> omega
    have finite := Ranks.nearestRank_lt_of_short short
    have rounded : Binary64.ofScaled? ⟨negative, magnitude, 0⟩ = some ⟨negative, _, finite⟩ := by
      rw [Ranks.ofScaled?_eq, Int.toNat_zero, Int.neg_zero, Int.toNat_zero, Nat.pow_zero, Nat.mul_one]
      exact dif_pos finite
    have rounds := rounds_ofScaled? ⟨negative, magnitude, 0⟩
    rw [decimalValue_of_integer? read scaled, rounded] at rounds
    refine ⟨_, ?_, rounds.1⟩
    rw [Json.Number.text, Binary64.ofNumeral?, scaled, Option.bind_some, rounded]

private theorem head_lower {text : String} {first : Char} {rest : List Char} (shown : text.toList = first :: rest)
    (ascii : first.toNat < 0x80) : ∃ more, (Text.lower text).toList = first.toLower :: more := by
  have alone : ¬ first.toNat = 0x3A3 := by omega
  refine ⟨Text.lowerAfter [first] rest, ?_⟩
  simp only [Text.lower, String.toList_ofList, shown, Text.lowerAfter, if_neg alone, Text.lowerAlone,
    if_pos ascii, List.singleton_append]

private theorem readBool?_eq_none {text : String} {first : Char} {rest : List Char}
    (shown : text.toList = first :: rest) (ascii : first.toNat < 0x80)
    (other : first.toLower ≠ 't' ∧ first.toLower ≠ 'f') : Operand.readBool? text = none := by
  obtain ⟨more, lowered⟩ := head_lower shown ascii
  unfold Operand.readBool?
  split
  next same =>
    rw [same] at lowered
    have head : some 't' = some first.toLower := congrArg List.head? lowered
    exact absurd (Option.some.inj head).symm other.1
  next same =>
    rw [same] at lowered
    have head : some 'f' = some first.toLower := congrArg List.head? lowered
    exact absurd (Option.some.inj head).symm other.2
  next => rfl

private theorem toLower_of_isDigit {character : Char} (digit : character.isDigit = true) :
    character.toLower = character := by
  have bounds := Char.isDigit_iff_toNat.mp digit
  unfold Char.toLower
  refine dif_neg fun upper => ?_
  have low : 'A'.toNat ≤ character.toNat := UInt32.le_iff_toNat_le.mp upper.1
  simp only [Char.reduceToNat] at bounds low
  omega

private theorem read?_bool (type : ColumnType) (value : Bool) :
    Operand.read? type (Json.bool value).plainText =
      if type = .boolean then some (.bool value) else none := by
  cases type <;> cases value <;> decide +kernel

private theorem read?_bracketed (type : ColumnType) {text : String} {first : Char} {rest : List Char}
    (shown : text.toList = first :: rest) (bracket : first = '[' ∨ first = '\x7b') :
    Operand.read? type text = none := by
  have undated : Instant.parse? text = none := by
    rw [Option.eq_none_iff_forall_ne_some]
    intro instant read
    have dated := dated_of_parse? (by rw [shown]; rcases bracket with rfl | rfl <;> rfl) read
    obtain ⟨more, split⟩ := dated
    rw [shown] at split
    rcases bracket with rfl | rfl <;> cases split
  have noInteger : integer? text.toList = none := by
    rw [shown]
    rcases bracket with rfl | rfl <;> rfl
  have noNumber : Binary64.ofNumeral? text.toList = none := by
    rw [shown]
    rcases bracket with rfl | rfl <;> rfl
  have noBool : Operand.readBool? text = none := by
    rcases bracket with rfl | rfl <;> exact readBool?_eq_none shown (by decide) (by decide)
  cases type <;> simp [Operand.read?, Intent.word?, undated, noInteger, noNumber, noBool]

private theorem digit_or_mark_of_shape {whole rest : List Char} (shape : Shape whole rest) (negative : Bool) :
    ∀ character ∈ withSign negative (whole ++ rest), character.isDigit = true ∨ character ∈ marks := by
  have magnitude : ∀ character ∈ whole ++ rest, character.isDigit = true ∨ character ∈ marks := by
    intro character member
    rcases List.mem_append.mp member with member | member
    · exact .inl (shape.all character member)
    · exact shape.plain character member
  intro character member
  rw [withSign] at member
  split at member
  next =>
    rcases List.mem_cons.mp member with rfl | member
    · exact .inr (by decide)
    · exact magnitude character member
  next => exact magnitude character member

private theorem solid_of_shape {whole rest : List Char} (shape : Shape whole rest) (negative : Bool) :
    ∀ character ∈ withSign negative (whole ++ rest), Text.isBlank character = false := by
  have solid : marks.all (fun character => Text.isBlank character = false) = true := by decide
  intro character member
  rcases digit_or_mark_of_shape shape negative character member with digit | mark
  · exact isBlank_of_isDigit digit
  · simpa using List.all_eq_true.mp solid character mark

private theorem digit_or_mark (number : Json.Number) :
    ∀ character ∈ number.text.toList, character.isDigit = true ∨ character ∈ marks := by
  obtain ⟨negative, whole, rest, shown, shape, -⟩ := numeral_text number
  rw [shown]
  exact digit_or_mark_of_shape shape negative

private theorem solid_text (number : Json.Number) :
    ∀ character ∈ number.text.toList, Text.isBlank character = false := by
  obtain ⟨negative, whole, rest, shown, shape, -⟩ := numeral_text number
  rw [shown]
  exact solid_of_shape shape negative

private theorem trim_float (value : Binary64) : Text.trim (plainText value) = plainText value := by
  obtain ⟨coefficient, power, whole, rest, shown, written, -⟩ := written_plainText value
  have solid : ∀ character ∈ (plainText value).toList, Text.isBlank character = false := by
    rw [shown]
    exact solid_of_shape written.shape value.negative
  rw [Text.trim, trimmed_of_forall_mem solid, String.ofList_toList]

private theorem parse?_number (number : Json.Number) : Instant.parse? number.text = none := by
  rw [Option.eq_none_iff_forall_ne_some]
  intro instant read
  obtain ⟨negative, whole, rest, shown, shape, -⟩ := numeral_text number
  have solid : number.text.toList.dropWhile Text.isBlank = number.text.toList := by
    cases characters : number.text.toList with
    | nil => rfl
    | cons first more =>
      have first := solid_text number first (by simp [characters])
      simp [first]
  obtain ⟨more, split⟩ := dated_of_parse? solid read
  have ends : ∀ character ∈ rest.head?, character.isDigit = false := by
    intro character first
    rcases shape.mark character first with rfl | rfl <;> rfl
  rw [shown, shape.splitSign_eq, (span_digits shape.all ends).2] at split
  rcases shape.mark '-' (by simp [split]) with mark | mark <;> cases mark

private theorem readBool?_number (number : Json.Number) : Operand.readBool? number.text = none := by
  obtain ⟨negative, whole, rest, shown, shape, -⟩ := numeral_text number
  match whole, shape with
  | [], shape => exact absurd rfl shape.some
  | first :: more, shape =>
    have digit := shape.all first List.mem_cons_self
    have bounds := Char.isDigit_iff_toNat.mp digit
    simp only [Char.reduceToNat] at bounds
    cases negative with
    | true => exact readBool?_eq_none shown (by decide) (by decide)
    | false =>
      refine readBool?_eq_none shown (by omega) ?_
      rw [toLower_of_isDigit digit]
      constructor <;> rintro rfl <;> cases digit

private theorem array_plainText (items : List Json) :
    (Json.array items).plainText.toList = '[' :: (Json.itemCharacters items ++ [']']) := by
  simp [Json.plainText, Json.text, Json.characters]

private theorem object_plainText (fields : Fields) :
    (Json.object fields).plainText.toList = '\x7b' :: (Json.fieldCharacters fields ++ ['\x7d']) := by
  simp [Json.plainText, Json.text, Json.characters]

private theorem trim_bracketed {text : String} {first last : Char} {inside : List Char}
    (shown : text.toList = first :: (inside ++ [last])) (opening : Text.isBlank first = false)
    (closing : Text.isBlank last = false) : Text.trim text = text := by
  have kept : Text.trimmed text.toList = text.toList := by
    rw [shown]
    refine trimmed_of_ends (by simpa using opening) ?_
    rw [← List.cons_append, List.getLast?_concat]
    simpa using closing
  rw [Text.trim, kept, String.ofList_toList]

private theorem trim_plainText {cell : Json} (unquoted : cell.string? = none) :
    Text.trim cell.plainText = cell.plainText := by
  cases cell with
  | null => decide
  | bool value => cases value <;> decide
  | string value => cases unquoted
  | number number =>
    rw [plainText_number, Text.trim, trimmed_of_forall_mem (solid_text number), String.ofList_toList]
  | array items => exact trim_bracketed (array_plainText items) rfl rfl
  | object fields => exact trim_bracketed (object_plainText fields) rfl rfl

private theorem plainText_ne_text {cell : Json} (unquoted : cell.string? = none) (instant : Instant) :
    cell.plainText ≠ instant.text := by
  intro same
  have letter := mem_text instant
  have head := head?_text instant
  rw [← same] at letter head
  cases cell with
  | null => revert letter; decide
  | bool value => cases value <;> revert letter <;> decide
  | string value => cases unquoted
  | number number =>
    rw [plainText_number] at letter
    rcases digit_or_mark number 'T' letter with digit | mark
    · cases digit
    · revert mark
      decide
  | array items =>
    rw [array_plainText] at head
    simpa using head '[' rfl
  | object fields =>
    rw [object_plainText] at head
    simpa using head _ rfl

private theorem text_of_signed? {number : Json.Number} {value : Int} (signed : number.signed? = some value) :
    number.text = integerText value := by
  cases number with
  | real value => cases signed
  | integer held fits =>
    simp only [Json.Number.signed?] at signed
    split at signed
    next => cases signed; rfl
    next => cases signed

/-- Whether a text is spelled as the value is that it is read as: the value has this text, or it is an
instant, which is read from the text without trimming. -/
def OwnText (type : ColumnType) : Json → Prop
  | .string text =>
    match Operand.read? type (Text.trim text) with
    | none => True
    | some (.timestamp instant) => Instant.parse? text = some instant
    | some operand => operand.asText = text
  | _ => True

theorem own_of_unquoted {type : ColumnType} {cell : Json} (unquoted : cell.string? = none) :
    OwnText type cell := by
  cases cell with
  | string text => cases unquoted
  | _ => trivial

/-- Whether a key finds a cell in a column of a type. -/
def SameKey (type : ColumnType) (key cell : Json) : Prop :=
  cell.isNull = false ∧
    match type with
    | .text | .json | .boolean => cell.plainText = key.plainText
    | .integer =>
      cell.plainText = key.plainText ∨
        ∃ value number, Intent.word? (Text.trim key.plainText) = some value ∧ cell = .number number ∧
          number.signed? = none ∧ Alike (numberValue number) value
    | .number =>
      match Binary64.ofNumeral? (Text.trim key.plainText).toList, cell with
      | some value, .number number => RoundsTo (numberValue number) value
      | some value, cell => cell.plainText = plainText value
      | none, cell => cell.plainText = key.plainText
    | .timestamp =>
      match Instant.parse? (Text.trim key.plainText) with
      | some instant => ∃ text, cell = .string text ∧ Instant.parse? text = some instant
      | none => cell.plainText = key.plainText

private theorem read?_number (type : ColumnType) (number : Json.Number) :
    Operand.read? type number.text = match type with
      | .integer => number.signed?.map .integer
      | .number => (Binary64.ofNumeral? number.text.toList).map .float
      | _ => none := by
  cases type <;>
    simp [Operand.read?, word?_text, parse?_number, readBool?_number]

section

variable {cell : Json}

private theorem equals_text_iff {text : String} :
    cell.orderOperand? (.text text) = some .eq ↔ cell.isNull = false ∧ cell.plainText = text := by
  cases cell <;> simp [Json.orderOperand?, Json.isNull, Operand.asText, Text.order_eq_iff]

private theorem equals_bool_iff {value : Bool} : cell.orderOperand? (.bool value) = some .eq ↔
    cell.isNull = false ∧ cell.plainText = (Operand.bool value).asText := by
  cases cell with
  | bool held => cases held <;> cases value <;> decide
  | _ => simp [Json.orderOperand?, Json.isNull, Text.order_eq_iff]

private theorem equals_float_iff {value : Binary64} : cell.orderOperand? (.float value) = some .eq ↔
    cell.isNull = false ∧ match cell with
      | .number number => RoundsTo (numberValue number) value
      | other => other.plainText = plainText value := by
  cases cell with
  | number number =>
    have rounds := roundsTo_toBinary64 number
    simp only [Json.orderOperand?, Json.isNull, Option.some.injEq, true_and, Binary64.order,
      compare_eq_iff_eq]
    exact ⟨rounds.of_key_eq, rounds.key_eq⟩
  | _ => simp [Json.orderOperand?, Json.isNull, Text.order_eq_iff, Operand.asText]

theorem equals_timestamp_iff {instant : Instant} : cell.orderOperand? (.timestamp instant) = some .eq ↔
    ∃ text, cell = .string text ∧ Instant.parse? text = some instant := by
  by_cases quoted : ∃ text, cell = .string text
  · obtain ⟨text, rfl⟩ := quoted
    simp [Json.orderOperand?, order_eq_iff]
  · have unquoted : cell.string? = none := by cases cell <;> simp [Json.string?] at quoted ⊢
    have other := plainText_ne_text unquoted instant
    have compared : cell.orderOperand? (.timestamp instant) ≠ some .eq := by
      cases cell <;> simp [Json.orderOperand?, Text.order_eq_iff, Operand.asText, other] at quoted ⊢
    simp only [compared, false_iff]
    rintro ⟨text, same, -⟩
    exact quoted ⟨text, same⟩

private theorem equals_integer_iff {value : Int} (word : Intent.IsWord value) :
    cell.orderOperand? (.integer value) = some .eq ↔
      cell.isNull = false ∧ (cell.plainText = integerText value ∨
        ∃ number, cell = .number number ∧ number.signed? = none ∧ Alike (numberValue number) value) := by
  cases cell with
  | number number =>
    have text : number.text = integerText value ↔ number.signed? = some value := by
      constructor
      · intro same
        rw [← word?_text, same]
        simp [Intent.word?, integer?_integerText, word]
      · exact text_of_signed?
    have short : value.natAbs < 2 ^ 65 := by
      obtain ⟨low, high⟩ := word
      simp only [Intent.minWord, Intent.maxWord] at low high
      omega
    simp only [Json.orderOperand?, Json.Number.orderInt, Json.isNull, plainText_number, text,
      Json.number.injEq, exists_eq_left', true_and, Option.some.injEq]
    cases signed : number.signed? with
    | some held => simp
    | none =>
      have rounds := roundsTo_toBinary64 number
      have operand := roundsTo_ofInt short
      simp only [reduceCtorEq, false_or, true_and, Binary64.order, compare_eq_iff_eq]
      constructor
      · intro same
        exact ⟨_, rounds, operand.of_key_eq same.symm⟩
      · rintro ⟨rounded, left, right⟩
        exact (rounds.key_eq left).trans (right.key_eq operand)
  | _ => simp [Json.orderOperand?, Json.isNull, Text.order_eq_iff, Operand.asText]

end

section

variable {type : ColumnType} {key cell : Json}

private theorem equals_own {operand : Operand} (own : OwnText type key)
    (read : Operand.read? type (Text.trim key.plainText) = some operand) :
    key.orderOperand? operand = some .eq := by
  cases key with
  | string text =>
    simp only [OwnText, Json.plainText] at own read
    rw [read] at own
    cases operand with
    | timestamp instant => simpa [Json.orderOperand?, order_eq_iff] using own
    | _ => simpa [Json.orderOperand?, Json.plainText, Text.order_eq_iff] using own.symm
  | null =>
    have unread : Operand.read? type (Text.trim Json.null.plainText) = none := by
      cases type <;> decide +kernel
    rw [unread] at read
    cases read
  | bool value =>
    rw [trim_plainText rfl, read?_bool] at read
    split at read
    next => cases read; simp [Json.orderOperand?]
    next => cases read
  | number number =>
    rw [trim_plainText rfl, plainText_number, read?_number] at read
    cases type with
    | integer =>
      obtain ⟨value, signed, rfl⟩ := Option.map_eq_some_iff.mp read
      simp [Json.orderOperand?, Json.Number.orderInt, signed]
    | number =>
      obtain ⟨value, read', rounds⟩ := ofNumeral?_number number
      obtain ⟨value', read, rfl⟩ := Option.map_eq_some_iff.mp read
      rw [read'] at read
      cases read
      exact equals_float_iff.mpr ⟨rfl, rounds⟩
    | _ => cases read
  | array items =>
    rw [trim_plainText rfl, read?_bracketed type (array_plainText items) (.inl rfl)] at read
    cases read
  | object fields =>
    rw [trim_plainText rfl, read?_bracketed type (object_plainText fields) (.inr rfl)] at read
    cases read

private theorem own_integer {value : Int} (own : OwnText .integer key)
    (read : Intent.word? (Text.trim key.plainText) = some value) : key.plainText = integerText value := by
  have equal := equals_own own (by rw [Operand.read?, read]; rfl)
  obtain ⟨-, same | ⟨number, rfl, unsigned, -⟩⟩ := (equals_integer_iff (isWord_of_word? read)).mp equal
  · exact same
  · rw [trim_plainText rfl, plainText_number, word?_text, unsigned] at read
    cases read

private theorem own_bool {value : Bool} (own : OwnText .boolean key)
    (read : Operand.readBool? (Text.trim key.plainText) = some value) :
    key.plainText = (Operand.bool value).asText :=
  (equals_bool_iff.mp (equals_own own (by rw [Operand.read?, read]; rfl))).2

/-- What a cell's text finds: cells with this text, and cells that are the same value of the column's
type. -/
theorem finds_iff (own : OwnText type key) :
    cell.orderOperand? (.coerce type key.plainText) = some .eq ↔ SameKey type key cell := by
  rw [Operand.coerce]
  unfold SameKey
  cases type with
  | text => exact equals_text_iff
  | json => exact equals_text_iff
  | boolean =>
    rw [Operand.read?]
    cases read : Operand.readBool? (Text.trim key.plainText) with
    | none => exact equals_text_iff
    | some value =>
      rw [own_bool own read]
      exact equals_bool_iff
  | integer =>
    rw [Operand.read?]
    cases read : Intent.word? (Text.trim key.plainText) with
    | none => simpa using equals_text_iff
    | some value =>
      rw [own_integer own read]
      simpa using equals_integer_iff (isWord_of_word? read)
  | number =>
    rw [Operand.read?]
    cases Binary64.ofNumeral? (Text.trim key.plainText).toList with
    | none => exact equals_text_iff
    | some value =>
      cases cell with
      | number number => exact equals_float_iff
      | _ => exact equals_float_iff
  | timestamp =>
    rw [Operand.read?]
    cases Instant.parse? (Text.trim key.plainText) with
    | none => exact equals_text_iff
    | some instant =>
      refine equals_timestamp_iff.trans (Iff.symm (and_iff_right_of_imp ?_))
      rintro ⟨text, rfl, -⟩
      rfl

theorem sameKey_self (keyed : key.isNull = false) (own : OwnText type key) : SameKey type key key := by
  rw [← finds_iff own, Operand.coerce]
  cases read : Operand.read? type (Text.trim key.plainText) with
  | none => exact equals_text_iff.mpr ⟨keyed, rfl⟩
  | some operand => exact equals_own own read

/-- A cell is found by the text that it is joined on. -/
theorem found_by_cellText {raw : String} (own : OwnText type cell) (text : cell.cellText? = some raw) :
    cell.orderOperand? (.coerce type raw) = some .eq := by
  obtain ⟨keyed, rfl⟩ : cell.isNull = false ∧ cell.plainText = raw := by
    simpa [Json.cellText?] using text
  exact (finds_iff own).mpr (sameKey_self keyed own)

private theorem own_string_iff {text : String} {operand : Operand}
    (read : Operand.read? type (Text.trim text) = some operand) :
    OwnText type (.string text) ↔ (Json.string text).orderOperand? operand = some .eq := by
  rw [OwnText, read]
  cases operand with
  | timestamp instant => simp [Json.orderOperand?, order_eq_iff]
  | _ =>
    simp only [Json.orderOperand?, Json.plainText, Option.some.injEq, Text.order_eq_iff]
    exact eq_comm

/-- A text that is found by a value is read as this value. -/
theorem read?_of_equals {text raw : String} {operand : Operand}
    (read : Operand.read? type raw = some operand)
    (equal : (Json.string text).orderOperand? operand = some .eq) :
    Operand.read? type (Text.trim text) = some operand := by
  cases type with
  | text => cases read
  | json => cases read
  | boolean =>
    obtain ⟨value, -, rfl⟩ := Option.map_eq_some_iff.mp read
    obtain ⟨-, same⟩ := equals_bool_iff.mp equal
    rw [Json.plainText] at same
    rw [same]
    cases value <;> decide +kernel
  | integer =>
    obtain ⟨value, found, rfl⟩ := Option.map_eq_some_iff.mp read
    have word := isWord_of_word? found
    obtain ⟨-, same | ⟨number, other, -⟩⟩ := (equals_integer_iff word).mp equal
    · rw [Json.plainText] at same
      rw [same, trim_integerText, Operand.read?, Intent.word?, integer?_integerText]
      simp [word]
    · cases other
  | number =>
    obtain ⟨value, -, rfl⟩ := Option.map_eq_some_iff.mp read
    obtain ⟨-, same⟩ := equals_float_iff.mp equal
    simp only [Json.plainText] at same
    rw [same, trim_float, Operand.read?, ofNumeral?_plainText, Option.map_some]
  | timestamp =>
    cases found : Instant.parse? raw with
    | none => rw [Operand.read?, found] at read; cases read
    | some instant =>
      rw [Operand.read?, found] at read
      cases read
      obtain ⟨_, same, parsed⟩ := equals_timestamp_iff.mp equal
      cases same
      rw [Operand.read?, parse?_trim parsed, Option.map_some]

/-- What a text finds is found by its own text. -/
theorem own_of_found {raw : String} (found : cell.orderOperand? (.coerce type raw) = some .eq) :
    OwnText type cell := by
  cases cell with
  | string text =>
    rw [Operand.coerce] at found
    cases read : Operand.read? type (Text.trim raw) with
    | none =>
      rw [read, Option.getD_none] at found
      obtain ⟨-, same⟩ := equals_text_iff.mp found
      rw [Json.plainText] at same
      rw [OwnText, same, read]
      trivial
    | some operand =>
      rw [read, Option.getD_some] at found
      exact (own_string_iff (read?_of_equals read found)).mpr found
  | _ => trivial

end

end ResourceQuery.Proofs.OwnTexts
