import ResourceQuery.Proofs.DateReading

/-! Texts of instants are read back. Each of the three texts, with a zone, without one, and of a date
alone, is taken by its own reader down to the last character, and by no reader that is tried before it. -/

namespace ResourceQuery.Proofs.InstantTexts
open Calendar DateReading Number Numerals

variable {rest : List Char}

private theorem reads_bind {First Second : Type} {reader : Reader First} {next : First → Reader Second}
    {characters middle : List Char} {value : First} {result : Second × List Char}
    (first : reader characters = some (value, middle)) (second : next value middle = some result) :
    (reader >>= next) characters = some result := by
  change (reader characters).bind (fun found => next found.1 found.2) = some result
  rw [first]
  exact second

private theorem number_digits {least most : Nat} {shown : List Char}
    (all : ∀ character ∈ shown, character.isDigit = true) (enough : least ≤ shown.length)
    (short : shown.length ≤ most)
    (ends : ∀ character ∈ (rest.take (most - shown.length)).head?, character.isDigit = false) :
    Reader.leadingDigits most (shown ++ rest) = shown ∧
      Reader.number least most (shown ++ rest) = some (digitsValue shown 0, rest) := by
  have front : Reader.leadingDigits most (shown ++ rest) = shown := by
    rw [Reader.leadingDigits, List.take_append, List.take_of_length_le short]
    exact (span_digits all ends).1
  refine ⟨front, ?_⟩
  simp only [Reader.number, front, if_neg (Nat.not_lt.mpr enough), List.drop_left]

private theorem number_padded {least width value : Nat} (enough : least ≤ width) (wide : 0 < width)
    (small : value < 10 ^ width) :
    Reader.number least width (padded width value ++ rest) = some (value, rest) := by
  have long := length_padded wide small
  have read : Reader.number least width (padded width value ++ rest) =
      some (digitsValue (padded width value) 0, rest) :=
    (number_digits (fun _ member => isDigit_of_mem_padded member) (enough.trans long.ge) long.le
      (by simp [long])).2
  rwa [digitsValue_padded] at read

private theorem mark_cons (mark : Char) : Reader.mark mark (mark :: rest) = some ((), rest) := by
  simp [Reader.mark]

private theorem skipBlanks_digits {shown : List Char} (some : shown ≠ [])
    (all : ∀ character ∈ shown, character.isDigit = true) :
    Reader.skipBlanks (shown ++ rest) = .some ((), shown ++ rest) := by
  match shown with
  | first :: more =>
    have solid := isBlank_of_isDigit (all first List.mem_cons_self)
    simp [Reader.skipBlanks, solid]

private theorem head?_padded {width value : Nat} {first : Char} {more : List Char}
    (same : padded width value ++ rest = first :: more) : first.isDigit = true := by
  obtain ⟨digit, others, shown⟩ := List.exists_cons_of_ne_nil (padded_ne_nil width value)
  have member : digit ∈ padded width value := by simp [shown]
  rw [shown, List.cons_append, List.cons.injEq] at same
  rw [← same.1]
  exact isDigit_of_mem_padded member

private theorem skipBlanks_padded (width value : Nat) :
    Reader.skipBlanks (padded width value ++ rest) = some ((), padded width value ++ rest) :=
  skipBlanks_digits (padded_ne_nil width value) fun _ member => isDigit_of_mem_padded member

private theorem looseNumber_padded {value : Nat} (small : value < 100) :
    Reader.looseNumber (padded 2 value ++ rest) = some (value, rest) :=
  reads_bind (skipBlanks_padded 2 value) (number_padded (by decide) (by decide) small)

/-- What does not go on with a fraction of a second. -/
def Unfractioned (rest : List Char) : Prop :=
  ∀ character ∈ rest.head?, character.isDigit = false ∧ character ≠ '.'

private theorem nanoseconds_padded {width value : Nat} (wide : 0 < width) (short : width ≤ 9)
    (small : value < 10 ^ width) (ends : ∀ character ∈ rest.head?, character.isDigit = false) :
    Reader.nanoseconds (padded width value ++ rest) = some (value * 10 ^ (9 - width), rest) := by
  have long := length_padded wide small
  have stops : ∀ character ∈ (rest.take (9 - (padded width value).length)).head?,
      character.isDigit = false := by
    intro character member
    rw [List.head?_take] at member
    split at member
    next => cases member
    next => exact ends character member
  obtain ⟨front, read⟩ := number_digits (fun _ member => isDigit_of_mem_padded member)
    (long.symm ▸ wide : 1 ≤ (padded width value).length) (long.trans_le short) stops
  have dropped : rest.dropWhile Char.isDigit = rest := (span_digits (List.forall_mem_nil _) ends).2
  refine reads_bind rfl (reads_bind read (reads_bind rfl ?_))
  rw [front, long, digitsValue_padded]
  exact congrArg (fun after => some (value * 10 ^ (9 - width), after)) dropped

private theorem fraction_fractionText {nanosecond : Nat} (small : nanosecond < 1000000000)
    (ends : Unfractioned rest) :
    Reader.fraction (fractionText nanosecond ++ rest) = some (nanosecond, rest) := by
  have digits : ∀ character ∈ rest.head?, character.isDigit = false := fun character member =>
    (ends character member).1
  have pointed {width value : Nat} (wide : 0 < width) (short : width ≤ 9) (small : value < 10 ^ width)
      (exact : value * 10 ^ (9 - width) = nanosecond) :
      Reader.fraction ('.' :: padded width value ++ rest) = some (nanosecond, rest) := by
    rw [← exact]
    exact reads_bind rfl (reads_bind rfl (nanoseconds_padded wide short small digits))
  unfold fractionText
  split
  next zero =>
    subst zero
    rw [List.nil_append]
    refine reads_bind rfl ?_
    split
    next => exact absurd rfl (ends '.' rfl).2
    next => rfl
  next =>
    split
    next => exact pointed (by decide) (by decide) (by omega) (by omega)
    next =>
      split
      next => exact pointed (by decide) (by decide) (by omega) (by omega)
      next => exact pointed (by decide) (by decide) small (Nat.mul_one _)

/-- Years that are written with four digits and no sign. -/
def FourDigits (year : Int) : Prop :=
  0 ≤ year ∧ year ≤ 9999

instance (year : Int) : Decidable (FourDigits year) :=
  inferInstanceAs (Decidable (_ ∧ _))

section

variable {year : Int} (plain : FourDigits year)
include plain

private theorem yearText_eq : yearText year = padded 4 year.toNat :=
  if_pos plain

private theorem number_yearText :
    Reader.number 4 4 (yearText year ++ rest) = some (year.toNat, rest) := by
  rw [yearText_eq plain]
  have most := plain.2
  exact number_padded (by decide) (by decide) (by omega)

private theorem looseYear_yearText : Reader.looseYear (yearText year ++ rest) = some (year, rest) := by
  rw [yearText_eq plain]
  obtain ⟨least, most⟩ := plain
  refine reads_bind (skipBlanks_padded 4 _) (reads_bind rfl ?_)
  generalize whole : padded 4 year.toNat ++ rest = characters
  split
  next => exact absurd (head?_padded whole) (by decide)
  next => exact absurd (head?_padded whole) (by decide)
  next =>
    subst whole
    refine reads_bind (number_padded (by decide) (by decide) (by omega)) ?_
    rw [Int.toNat_of_nonneg least]
    rfl

end

private theorem of?_date (date : Date) : Date.of? date.year date.month date.day = some date :=
  dif_pos date.isDate

private theorem of?_clock (clock : Clock) :
    Clock.of? clock.hour clock.minute clock.second clock.nanosecond = some clock :=
  dif_pos clock.isClock

private theorem clock_clock (clock : Clock) :
    Reader.clock clock.hour clock.minute clock.second clock.nanosecond rest = some (clock, rest) := by
  rw [Reader.clock, of?_clock]
  rfl

private theorem day_lt (date : Date) : date.month < 100 ∧ date.day < 100 := by
  obtain ⟨-, months, -, days⟩ := date.isDate
  have longest : ∀ leap : Bool, ∀ month : Fin 13, monthLength leap month ≤ 31 := by decide
  have short : monthLength (isLeap date.year) date.month ≤ 31 := longest _ ⟨date.month, by omega⟩
  exact ⟨by omega, by omega⟩

private theorem clock_lt (clock : Clock) : clock.hour < 100 ∧ clock.minute < 100 ∧ clock.second < 100 := by
  obtain ⟨hours, minutes, seconds, -⟩ := clock.isClock
  exact ⟨by omega, by omega, by omega⟩

section

variable {date : Date} (plain : FourDigits date.year)
include plain

private theorem date_date : Reader.date date.year date.month date.day rest = some (date, rest) := by
  have reach : Reader.inReach date.year = true := by
    obtain ⟨least, most⟩ := plain
    simp only [Reader.inReach, Bool.and_eq_true, decide_eq_true_eq]
    omega
  rw [Reader.date, if_pos reach, of?_date]
  rfl

private theorem looseDate_characters : Reader.looseDate (date.characters ++ rest) = some (date, rest) := by
  obtain ⟨months, days⟩ := day_lt date
  simp only [Date.characters, List.append_assoc, List.cons_append]
  exact reads_bind (looseYear_yearText plain) <| reads_bind (mark_cons '-') <|
    reads_bind (looseNumber_padded months) <| reads_bind (mark_cons '-') <|
      reads_bind (looseNumber_padded days) (date_date plain)

end

theorem looseClock_characters {clock : Clock} (ends : Unfractioned rest) :
    Reader.looseClock (clock.characters ++ rest) = some (clock, rest) := by
  obtain ⟨hours, minutes, seconds⟩ := clock_lt clock
  simp only [Clock.characters, List.append_assoc, List.cons_append]
  exact reads_bind (looseNumber_padded hours) <| reads_bind (mark_cons ':') <|
    reads_bind (looseNumber_padded minutes) <| reads_bind (mark_cons ':') <|
      reads_bind (looseNumber_padded seconds) <|
        reads_bind (fraction_fractionText clock.isClock.2.2.2 ends) (clock_clock clock)

private theorem ofLocal_zero (instant : Instant) : Instant.ofLocal instant 0 = instant := by
  obtain ⟨date, ⟨hour, minute, second, nanosecond, isClock⟩⟩ := instant
  obtain ⟨hours, minutes, -⟩ := isClock
  have early : ¬ ((hour * 60 + minute : Int) - 0 < 0) := by omega
  have late : ¬ (1440 ≤ (hour * 60 + minute : Int) - 0) := by omega
  have hour' : ((hour * 60 + minute - 0 : Int) % 1440 / 60).toNat = hour := by omega
  have minute' : ((hour * 60 + minute - 0 : Int) % 60).toNat = minute := by omega
  simp only [Instant.ofLocal, if_neg early, if_neg late, hour', minute']

section

variable {instant : Instant} (plain : FourDigits instant.date.year)
include plain

private theorem unzoned_localText :
    Reader.unzoned (Reader.mark 'T') instant.localText.toList = some (instant, []) := by
  have clock : Reader.looseClock instant.clock.characters = some (instant.clock, []) := by
    rw [← List.append_nil instant.clock.characters]
    exact looseClock_characters (by simp [Unfractioned])
  rw [Instant.localText, String.toList_ofList]
  exact reads_bind (looseDate_characters plain) <| reads_bind (mark_cons 'T') <| reads_bind clock rfl

private theorem zoned_text : Reader.zoned instant.text.toList = some (instant, []) := by
  obtain ⟨months, days⟩ := day_lt instant.date
  obtain ⟨hours, minutes, seconds⟩ := clock_lt instant.clock
  have universal : Reader.zone "+00:00".toList = some (0, []) := by decide
  have ends : Unfractioned "+00:00".toList := by simp [Unfractioned]
  have year : (instant.date.year.toNat : Int) = instant.date.year := Int.toNat_of_nonneg plain.1
  have divided (rest : List Char) : Reader.oneOf ['T', 't', ' '] ('T' :: rest) = some ((), rest) := rfl
  have date : Reader.date instant.date.year.toNat instant.date.month instant.date.day [] =
      some (instant.date, []) := by
    rw [year]
    exact date_date plain
  simp only [Instant.text, Date.characters, Clock.characters, String.toList_ofList, List.append_assoc,
    List.cons_append]
  refine reads_bind (number_yearText plain) <| reads_bind (mark_cons '-') <|
    reads_bind (number_padded (by decide) (by decide) months) <| reads_bind (mark_cons '-') <|
      reads_bind (number_padded (by decide) (by decide) days) <| reads_bind (divided _) <|
        reads_bind (number_padded (by decide) (by decide) hours) <| reads_bind (mark_cons ':') <|
          reads_bind (number_padded (by decide) (by decide) minutes) <| reads_bind (mark_cons ':') <|
            reads_bind (number_padded (by decide) (by decide) seconds) <|
              reads_bind (fraction_fractionText instant.clock.isClock.2.2.2 ends) <|
                reads_bind universal <| reads_bind date <| reads_bind (clock_clock instant.clock) ?_
  rw [ofLocal_zero]
  rfl

theorem parse?_text : Instant.parse? instant.text = some instant := by
  rw [parse?_eq, Reader.whole?, zoned_text plain, Option.some_or]

theorem parse?_localText : Instant.parse? instant.localText = some instant := by
  have loose : loose? instant.localText.toList = some instant := by
    rw [loose?, Reader.whole?, unzoned_localText plain]
    rfl
  rw [parse?_eq, zoned_of_loose? loose, Option.none_or, loose]

end

/-- A date alone has none of the marks of a time of day, so it is not read as one with a time of day. -/
theorem parse?_dateText {date : Date} (plain : FourDigits date.year) :
    Instant.parse? date.text = some ⟨date, Clock.midnight⟩ := by
  have read : Reader.looseDate date.characters = some (date, []) := by
    rw [← List.append_nil date.characters]
    exact looseDate_characters plain
  have timeless {between : Reader Unit} (clock : Takes 2 (between >>= fun _ => Reader.looseClock)) :
      (Reader.unzoned between).whole? date.characters = none := by
    rw [Option.eq_none_iff_forall_ne_some]
    intro instant timed
    have two := ((takes_unzoned clock).whole (whole?_reads timed)).marks
    exact absurd ((takes_looseDate.whole read).marks.symm.trans two) (by decide)
  have loose : loose? date.text.toList = some ⟨date, Clock.midnight⟩ := by
    rw [loose?, Date.text, String.toList_ofList,
      timeless ((takes_mark 'T' rfl).bind fun _ => takes_looseClock), timeless takes_spaced_clock,
      Reader.whole?, read]
    rfl
  rw [parse?_eq, zoned_of_loose? loose, Option.none_or, loose]

end ResourceQuery.Proofs.InstantTexts
