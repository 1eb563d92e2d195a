import ResourceQuery.Proofs.InstantTexts
import ResourceQuery.Proofs.OwnTexts

/-! Texts of operands. An operand's text, read in a column of the same type, is the operand again, unless it is
an instant in a year that four digits do not write: no form with a zone has such a year, so that its text
stays a text. -/

namespace ResourceQuery.Proofs.CanonicalTexts
open Calendar DateReading InstantTexts Number Numerals OwnTexts

private theorem countP_padded (width value : Nat) : (padded width value).countP isClockMark = 0 :=
  (taken_digits fun _ member => isDigit_of_mem_padded member).marks

private theorem countP_yearText (year : Int) : (yearText year).countP isClockMark = 0 := by
  unfold yearText
  split
  · exact countP_padded _ _
  · rw [List.countP_cons, countP_padded]
    split <;> rfl

private theorem countP_date (date : Date) : date.characters.countP isClockMark = 0 := by
  have dash : isClockMark '-' = false := rfl
  simp [Date.characters, countP_yearText, countP_padded, dash]

private theorem countP_text (instant : Instant) : instant.text.toList.countP isClockMark = 3 := by
  have ends : Unfractioned "+00:00".toList := by simp [Unfractioned]
  obtain ⟨shown, same, taken⟩ := takes_looseClock _ _ _ (looseClock_characters ends)
  obtain rfl : instant.clock.characters = shown := List.append_cancel_right same
  rw [Instant.text, String.toList_ofList, List.append_assoc, List.countP_append, countP_date,
    List.cons_append, List.countP_cons_of_neg (by decide), List.countP_append, taken.marks]
  decide

private theorem loose?_text (instant : Instant) : loose? instant.text.toList = none := by
  rw [Option.eq_none_iff_forall_ne_some]
  intro other read
  rcases taken_of_loose? read with two | none
  · exact absurd (two.marks.symm.trans (countP_text instant)) (by decide)
  · exact absurd (none.marks.symm.trans (countP_text instant)) (by decide)

private theorem zoned_signed {instant : Instant} (long : ¬ FourDigits instant.date.year) :
    Reader.zoned.whole? instant.text.toList = none := by
  rw [Option.eq_none_iff_forall_ne_some]
  intro other read
  obtain ⟨sign, rest, shown, undigit⟩ : ∃ sign rest, instant.text.toList = sign :: rest ∧
      sign.isDigit = false := by
    have year : yearText instant.date.year = _ := if_neg long
    simp only [Instant.text, Date.characters, year, String.toList_ofList, List.cons_append]
    refine ⟨_, _, rfl, ?_⟩
    split <;> rfl
  obtain ⟨year, middle, years, -⟩ := bind_reads (whole?_reads read)
  obtain ⟨digits, same, four, all⟩ := number_reads years
  cases digits with
  | nil => simp at four
  | cons first more =>
    rw [shown, List.cons_append, List.cons.injEq] at same
    have digit := all first List.mem_cons_self
    rw [← same.1, undigit] at digit
    cases digit

private theorem parse?_text_eq (instant : Instant) :
    Instant.parse? instant.text = if FourDigits instant.date.year then some instant else none := by
  split
  next plain => exact parse?_text plain
  next long => rw [parse?_eq, zoned_signed long, loose?_text, Option.none_or]

/-- An instant in a year that is written with a sign, before the year zero or of more than four digits. -/
def LongYear : Operand → Prop
  | .timestamp instant => ¬ FourDigits instant.date.year
  | _ => False

instance : DecidablePred LongYear
  | .timestamp instant => inferInstanceAs (Decidable (¬ FourDigits instant.date.year))
  | .bool _ | .integer _ | .float _ | .text _ => inferInstanceAs (Decidable False)

theorem trim_text (instant : Instant) : Text.trim instant.text = instant.text := by
  have solid : Text.trimmed instant.text.toList = instant.text.toList := by
    apply trimmed_of_ends
    · intro character first
      rcases head?_text instant character first with digit | rfl | rfl
      · exact isBlank_of_isDigit digit
      · rfl
      · rfl
    · have last : instant.text.toList.getLast? = some '0' := by
        rw [Instant.text, String.toList_ofList, List.getLast?_append_of_ne_nil _ (by decide)]
        decide
      simp [last, Text.isBlank]
  rw [Text.trim, solid, String.ofList_toList]

section

variable {type : ColumnType} {raw : String} {operand : Operand}
  (read : Operand.read? type raw = some operand)
include read

private theorem read?_asText (plain : ¬ LongYear operand) :
    Operand.read? type (Text.trim operand.asText) = some operand := by
  apply read?_of_equals read
  cases operand with
  | timestamp instant =>
    have four : FourDigits instant.date.year := Decidable.not_not.mp plain
    exact equals_timestamp_iff.mpr ⟨_, rfl, parse?_text four⟩
  | _ => simp [Json.orderOperand?, Operand.asText, Json.plainText, Text.order_eq_iff]

private theorem read?_long (long : LongYear operand) :
    Operand.read? type (Text.trim operand.asText) = none := by
  cases operand with
  | timestamp instant =>
    have dated : type = .timestamp := by cases type <;> simp [Operand.read?] at read ⊢
    rw [dated, Operand.asText, trim_text, Operand.read?, parse?_text_eq, if_neg long, Option.map_none]
  | _ => exact long.elim

end

/-- The text of the operand that a text is read as, read in the same column, is this operand. -/
def ReadBack (type : ColumnType) (raw : String) : Prop :=
  Operand.coerce type (Operand.coerce type raw).asText = Operand.coerce type raw

instance (type : ColumnType) (raw : String) : Decidable (ReadBack type raw) :=
  inferInstanceAs (Decidable (_ = _))

section

variable {type : ColumnType} {raw : String}

private theorem readBack_of_plain (plain : ¬ LongYear (.coerce type raw)) : ReadBack type raw := by
  rw [ReadBack]
  cases read : Operand.read? type (Text.trim raw) with
  | none =>
    have kept : Operand.coerce type raw = .text raw := by rw [Operand.coerce, read, Option.getD_none]
    rw [kept, Operand.asText, kept]
  | some operand =>
    have found : Operand.coerce type raw = operand := by rw [Operand.coerce, read, Option.getD_some]
    rw [found] at plain ⊢
    rw [Operand.coerce, read?_asText read plain, Option.getD_some]

private theorem coerce_of_long (long : LongYear (.coerce type raw)) :
    Operand.coerce type (Operand.coerce type raw).asText = .text (Operand.coerce type raw).asText := by
  cases read : Operand.read? type (Text.trim raw) with
  | none =>
    rw [Operand.coerce, read, Option.getD_none] at long
    exact long.elim
  | some operand =>
    have found : Operand.coerce type raw = operand := by rw [Operand.coerce, read, Option.getD_some]
    rw [found] at long ⊢
    rw [Operand.coerce, read?_long read long, Option.getD_none]

private theorem readBack_iff : ReadBack type raw ↔ ¬ LongYear (.coerce type raw) := by
  refine ⟨fun back long => ?_, readBack_of_plain⟩
  rw [ReadBack, coerce_of_long long] at back
  rw [← back] at long
  exact long.elim

end

/-- Reading the text of an operand gives the operand back, whatever it was read from, but for instants in
years that are written with a sign: their text is read as the text that it is. In either case what is read
has the same text again. -/
theorem texts_are_read_back_but_for_long_years (type : ColumnType) (raw : String) :
    let operand := Operand.coerce type raw
    let again := Operand.coerce type operand.asText
    (again = operand ↔ ¬ LongYear operand) ∧
      (LongYear operand → again = .text operand.asText) ∧ again.asText = operand.asText := by
  refine ⟨readBack_iff, coerce_of_long, ?_⟩
  by_cases long : LongYear (.coerce type raw)
  · rw [coerce_of_long long, Operand.asText]
  · exact congrArg Operand.asText (readBack_of_plain long)

/-- The first year of five digits, whether it is spelled out or reached through a zone, and the year before
the year zero. -/
theorem long_years_are_not_read_back :
    ¬ ReadBack .timestamp "+10000-01-01" ∧ ¬ ReadBack .timestamp "9999-12-31T23:30:00-01:00" ∧
      ¬ ReadBack .timestamp "-0001-12-31 12:00:00" := by
  decide +kernel

end ResourceQuery.Proofs.CanonicalTexts
