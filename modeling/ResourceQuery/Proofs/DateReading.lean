import Mathlib.Data.List.DropRight
import Mathlib.Data.List.TakeWhile
import ResourceQuery.Calendar.Reader
import ResourceQuery.Proofs.Numerals

/-! Reading instants. Whatever is read as an instant begins with a year and a dash, so numbers, truth
values and bracketed texts are not. Blanks may stand before it but not behind, and it is the same instant
without them. -/

namespace ResourceQuery.Proofs.DateReading
open Calendar Number Numerals

variable {characters rest : List Char}

theorem number_reads {least most found : Nat}
    (read : Reader.number least most characters = some (found, rest)) :
    ∃ shown, characters = shown ++ rest ∧ least ≤ shown.length ∧
      ∀ character ∈ shown, character.isDigit = true := by
  simp only [Reader.number] at read
  split at read
  next => cases read
  next long =>
    cases read
    have front : Reader.leadingDigits most characters <+: characters :=
      (List.takeWhile_prefix _).trans (List.take_prefix _ _)
    refine ⟨_, (List.prefix_iff_eq_append.mp front).symm, Nat.not_lt.mp long, ?_⟩
    intro character member
    exact List.mem_takeWhile_imp member

private theorem allDigits_reads {found : Nat} (read : Reader.allDigits characters = some (found, rest)) :
    ∃ shown, characters = shown ++ rest ∧ shown ≠ [] ∧
      ∀ character ∈ shown, character.isDigit = true := by
  simp only [Reader.allDigits] at read
  split at read
  next => cases read
  next some =>
    cases read
    exact ⟨_, List.takeWhile_append_dropWhile.symm, by simpa using some,
      fun _ member => List.mem_takeWhile_imp member⟩

private theorem mark_reads {expected : Char} (read : Reader.mark expected characters = some ((), rest)) :
    characters = expected :: rest := by
  unfold Reader.mark at read
  split at read
  next character rest =>
    split at read
    next same => cases read; rw [same]
    next => cases read
  next => cases read

theorem bind_reads {First Second : Type} {reader : Reader First} {next : First → Reader Second}
    {result : Second × List Char} (read : (reader >>= next) characters = some result) :
    ∃ value middle, reader characters = some (value, middle) ∧ next value middle = some result := by
  change (reader characters).bind (fun found => next found.1 found.2) = some result at read
  obtain ⟨⟨value, middle⟩, first, second⟩ := Option.bind_eq_some_iff.mp read
  exact ⟨value, middle, first, second⟩

/-- What can follow a year of digits with or without a sign. -/
def Dated (characters : List Char) : Prop :=
  ∃ more, (splitSign characters).2.dropWhile Char.isDigit = '-' :: more

private theorem looseYear_reads {year : Int} (solid : characters.dropWhile Text.isBlank = characters)
    (read : Reader.looseYear characters = some (year, rest)) :
    ∃ shown, (splitSign characters).2 = shown ++ rest ∧ shown ≠ [] ∧
      ∀ character ∈ shown, character.isDigit = true := by
  obtain ⟨_, middle, skipped, read⟩ := bind_reads read
  simp only [Reader.skipBlanks, solid] at skipped
  cases skipped
  obtain ⟨seen, middle, got, read⟩ := bind_reads read
  cases got
  split at read
  next after =>
    obtain ⟨_, middle, put, read⟩ := bind_reads read
    cases put
    obtain ⟨found, middle, digits, read⟩ := bind_reads read
    cases read
    exact allDigits_reads digits
  next after =>
    obtain ⟨_, middle, put, read⟩ := bind_reads read
    cases put
    obtain ⟨found, middle, digits, read⟩ := bind_reads read
    cases read
    exact allDigits_reads digits
  next noMinus noPlus =>
    obtain ⟨found, middle, digits, read⟩ := bind_reads read
    cases read
    obtain ⟨shown, same, long, all⟩ := number_reads digits
    refine ⟨shown, ?_, List.ne_nil_of_length_pos long, all⟩
    rw [← same]
    unfold splitSign
    split
    next => exact absurd rfl (noPlus _)
    next => exact absurd rfl (noMinus _)
    next => rfl

private theorem dated_of_append {shown more : List Char} (split : (splitSign characters).2 = shown ++ '-' :: more)
    (all : ∀ character ∈ shown, character.isDigit = true) : Dated characters := by
  have ends : ∀ character ∈ ('-' :: more).head?, character.isDigit = false := by simp
  obtain ⟨-, dropped⟩ := span_digits all ends
  exact ⟨more, by rw [split, dropped]⟩

private theorem dated_of_looseDate {date : Date} (solid : characters.dropWhile Text.isBlank = characters)
    (read : Reader.looseDate characters = some (date, rest)) : Dated characters := by
  obtain ⟨year, middle, years, read⟩ := bind_reads read
  obtain ⟨_, after, marked, -⟩ := bind_reads read
  obtain ⟨shown, split, -, all⟩ := looseYear_reads solid years
  rw [mark_reads marked] at split
  exact dated_of_append split all

private theorem dated_of_zoned {instant : Instant} (read : Reader.zoned characters = some (instant, rest)) :
    Dated characters := by
  obtain ⟨year, middle, years, read⟩ := bind_reads read
  obtain ⟨_, after, marked, -⟩ := bind_reads read
  obtain ⟨shown, same, long, all⟩ := number_reads years
  rw [mark_reads marked] at same
  match shown with
  | [] => simp at long
  | first :: more =>
    have split : (splitSign characters).2 = first :: more ++ '-' :: after := by
      rw [same]
      exact congrArg Prod.snd (splitSign_of_digit (all first List.mem_cons_self) _)
    exact dated_of_append split all

theorem whole?_reads {Value : Type} {reader : Reader Value} {value : Value}
    (read : reader.whole? characters = some value) : reader characters = some (value, []) := by
  unfold Reader.whole? at read
  split at read
  next found => cases read; exact found
  next => cases read

/-- An instant begins with a year and a dash. -/
theorem dated_of_parse? {text : String} {instant : Instant}
    (solid : text.toList.dropWhile Text.isBlank = text.toList)
    (read : Instant.parse? text = some instant) : Dated text.toList := by
  have unzoned {between : Reader Unit} {instant : Instant}
      (read : (Reader.unzoned between).whole? text.toList = some instant) : Dated text.toList := by
    obtain ⟨date, middle, dates, -⟩ := bind_reads (whole?_reads read)
    exact dated_of_looseDate solid dates
  simp only [Instant.parse?, Option.orElse_eq_orElse, Option.orElse_eq_or, Option.or_eq_some_iff,
    Option.map_eq_some_iff] at read
  rcases read with read | ⟨-, read | ⟨-, read | ⟨-, date, read, -⟩⟩⟩
  · exact dated_of_zoned (whole?_reads read)
  · exact unzoned read
  · exact unzoned read
  · exact dated_of_looseDate solid (whole?_reads read)

/-- What stands in a time of day and its zone only. -/
def isClockMark (character : Char) : Bool :=
  character = ':' ∨ character = 'Z' ∨ character = 'z'

/-- So many marks of a time of day, and no blank at the end. -/
structure Taken (count : Nat) (shown : List Char) : Prop where
  marks : shown.countP isClockMark = count
  solid : ∀ last ∈ shown.getLast?, Text.isBlank last = false

private theorem taken_nil : Taken 0 [] := ⟨rfl, by simp⟩

private theorem taken_mark {count : Nat} {mark : Char} (marks : [mark].countP isClockMark = count)
    (solid : Text.isBlank mark = false) : Taken count [mark] :=
  ⟨marks, by simpa using solid⟩

private theorem countP_marks_eq_zero {kind : Char → Bool} {shown : List Char}
    (apart : ∀ mark ∈ [':', 'Z', 'z'], kind mark = false)
    (all : ∀ character ∈ shown, kind character = true) : shown.countP isClockMark = 0 := by
  rw [List.countP_eq_zero]
  intro character member mark
  have other : kind character = false := apart character (by simpa [isClockMark] using mark)
  exact Bool.false_ne_true (other.symm.trans (all character member))

theorem taken_digits {shown : List Char} (all : ∀ character ∈ shown, character.isDigit = true) :
    Taken 0 shown := by
  refine ⟨countP_marks_eq_zero (by simp) all, fun last ends => ?_⟩
  exact isBlank_of_isDigit (all last (List.mem_of_getLast? ends))

theorem Taken.append {count count' : Nat} {shown more : List Char} (first : Taken count shown)
    (second : Taken count' more) : Taken (count + count') (shown ++ more) := by
  refine ⟨by rw [List.countP_append, first.marks, second.marks], ?_⟩
  intro last ends
  cases more with
  | nil => exact first.solid last (by simpa using ends)
  | cons head tail => exact second.solid last (by simpa using ends)

theorem Taken.after {count : Nat} {before shown : List Char} (taken : Taken count shown)
    (some : shown ≠ []) (unmarked : before.countP isClockMark = 0) : Taken count (before ++ shown) := by
  refine ⟨by rw [List.countP_append, unmarked, Nat.zero_add, taken.marks], ?_⟩
  rw [List.getLast?_append_of_ne_nil _ some]
  exact taken.solid

private theorem countP_blanks (characters : List Char) :
    (characters.takeWhile Text.isBlank).countP isClockMark = 0 :=
  countP_marks_eq_zero (by simp [Text.isBlank]) fun _ member => List.mem_takeWhile_imp member

/-- What a reader takes off the front has so many marks of a time of day, and no blank at the end. -/
def Takes {Value : Type} (count : Nat) (reader : Reader Value) : Prop :=
  ∀ characters value rest, reader characters = some (value, rest) →
    ∃ shown, characters = shown ++ rest ∧ Taken count shown

section

variable {First Second : Type}

private theorem takes_pure (value : First) : Takes 0 (pure value : Reader First) := by
  intro characters result rest read
  cases read
  exact ⟨[], rfl, taken_nil⟩

private theorem takes_lift (result : Option First) : Takes 0 (StateT.lift result : Reader First) := by
  intro characters value rest read
  cases result with
  | none => cases read
  | some found =>
    cases read
    exact ⟨[], rfl, taken_nil⟩

theorem Takes.bind {count count' : Nat} {reader : Reader First} {next : First → Reader Second}
    (first : Takes count reader) (second : ∀ value, Takes count' (next value)) :
    Takes (count + count') (reader >>= next) := by
  intro characters result rest read
  obtain ⟨value, middle, front, back⟩ := bind_reads read
  obtain ⟨shown, rfl, taken⟩ := first _ _ _ front
  obtain ⟨more, rfl, taken'⟩ := second value _ _ _ back
  exact ⟨shown ++ more, (List.append_assoc ..).symm, taken.append taken'⟩

end

private theorem takes_number (least most : Nat) : Takes 0 (Reader.number least most) := by
  intro characters value rest read
  obtain ⟨shown, same, -, all⟩ := number_reads read
  exact ⟨shown, same, taken_digits all⟩

theorem takes_mark (mark : Char) (solid : Text.isBlank mark = false) :
    Takes ([mark].countP isClockMark) (Reader.mark mark) := by
  intro characters value rest read
  exact ⟨[mark], mark_reads read, taken_mark rfl solid⟩

private theorem takes_looseNumber : Takes 0 Reader.looseNumber := by
  intro characters value rest read
  obtain ⟨_, middle, skipped, digits⟩ := bind_reads read
  cases skipped
  obtain ⟨shown, same, long, all⟩ := number_reads digits
  refine ⟨characters.takeWhile Text.isBlank ++ shown, ?_,
    (taken_digits all).after (List.ne_nil_of_length_pos long) (countP_blanks characters)⟩
  rw [List.append_assoc, ← same, List.takeWhile_append_dropWhile]

private theorem skipBlanks_skips (characters : List Char) :
    Reader.skipBlanks (characters.dropWhile Text.isBlank) = Reader.skipBlanks characters := by
  rw [Reader.skipBlanks, Reader.skipBlanks, List.dropWhile_idempotent]

private theorem looseYear_skips (characters : List Char) :
    Reader.looseYear (characters.dropWhile Text.isBlank) = Reader.looseYear characters := by
  simp only [Reader.looseYear, bind, StateT.bind, skipBlanks_skips]

private theorem splitSign_cases (characters : List Char) :
    ∃ sign, characters = sign ++ (splitSign characters).2 ∧ sign.countP isClockMark = 0 := by
  unfold splitSign
  split
  next => exact ⟨['+'], rfl, rfl⟩
  next => exact ⟨['-'], rfl, rfl⟩
  next => exact ⟨[], rfl, rfl⟩

private theorem takes_looseYear : Takes 0 Reader.looseYear := by
  intro characters value rest read
  rw [← looseYear_skips] at read
  obtain ⟨shown, split, some, all⟩ := looseYear_reads (List.dropWhile_idempotent ..) read
  obtain ⟨sign, whole, unmarked⟩ := splitSign_cases (characters.dropWhile Text.isBlank)
  refine ⟨(characters.takeWhile Text.isBlank ++ sign) ++ shown, ?_, (taken_digits all).after some ?_⟩
  · rw [List.append_assoc, List.append_assoc, ← split, ← whole, List.takeWhile_append_dropWhile]
  · rw [List.countP_append, countP_blanks, unmarked]

private theorem takes_date (year : Int) (month day : Nat) : Takes 0 (Reader.date year month day) := by
  unfold Reader.date
  split
  · exact takes_lift _
  · exact takes_lift none

private theorem takes_fraction : Takes 0 Reader.fraction := by
  intro characters value rest read
  obtain ⟨_, middle, got, read⟩ := bind_reads read
  cases got
  split at read
  next after =>
    obtain ⟨_, middle, put, read⟩ := bind_reads read
    cases put
    obtain ⟨_, middle, got, read⟩ := bind_reads read
    cases got
    obtain ⟨_, middle, digits, read⟩ := bind_reads read
    obtain ⟨_, last, dropped, read⟩ := bind_reads read
    cases dropped
    cases read
    obtain ⟨shown, rfl, -, all⟩ := number_reads digits
    have more : ∀ character ∈ middle.takeWhile Char.isDigit, character.isDigit = true :=
      fun _ member => List.mem_takeWhile_imp member
    have point : Taken 0 ['.'] := taken_mark rfl rfl
    refine ⟨['.'] ++ shown ++ middle.takeWhile Char.isDigit, ?_,
      (point.append (taken_digits all)).append (taken_digits more)⟩
    rw [List.append_assoc, List.append_assoc, List.takeWhile_append_dropWhile, List.singleton_append]
  next =>
    cases read
    exact ⟨[], rfl, taken_nil⟩

private theorem takes_zone : Takes 1 Reader.zone := by
  intro characters value rest read
  obtain ⟨_, middle, got, read⟩ := bind_reads read
  cases got
  split at read
  next after =>
    obtain ⟨_, middle, put, read⟩ := bind_reads read
    cases put
    cases read
    exact ⟨['Z'], rfl, taken_mark rfl rfl⟩
  next after =>
    obtain ⟨_, middle, put, read⟩ := bind_reads read
    cases put
    cases read
    exact ⟨['z'], rfl, taken_mark rfl rfl⟩
  next sign after _ _ _ =>
    split at read
    next signed =>
      obtain ⟨_, middle, put, read⟩ := bind_reads read
      cases put
      have shift (hours minutes : Nat) : Takes 0 (if hours < 24 ∧ minutes < 60 then
          let total : Int := hours * 60 + minutes
          return if sign = '+' then total else -total
        else failure : Reader Int) := by
        split
        · exact takes_pure _
        · exact takes_lift none
      have behind := (takes_number 2 2).bind fun hours => (takes_mark ':' rfl).bind fun _ =>
        (takes_number 2 2).bind fun minutes => shift hours minutes
      obtain ⟨shown, rfl, taken⟩ := behind _ _ _ read
      have front : Taken 0 [sign] := by
        rcases signed with rfl | rfl | rfl <;> exact taken_mark rfl rfl
      exact ⟨[sign] ++ shown, rfl, front.append taken⟩
    next => cases read
  next => cases read

theorem takes_looseDate : Takes 0 Reader.looseDate :=
  takes_looseYear.bind fun _ => (takes_mark '-' rfl).bind fun _ => takes_looseNumber.bind fun _ =>
    (takes_mark '-' rfl).bind fun _ => takes_looseNumber.bind fun _ => takes_date _ _ _

theorem takes_looseClock : Takes 2 Reader.looseClock :=
  takes_looseNumber.bind fun _ => (takes_mark ':' rfl).bind fun _ => takes_looseNumber.bind fun _ =>
    (takes_mark ':' rfl).bind fun _ => takes_looseNumber.bind fun _ => takes_fraction.bind fun _ =>
      takes_lift _

private theorem looseNumber_skips (characters : List Char) :
    Reader.looseNumber (characters.dropWhile Text.isBlank) = Reader.looseNumber characters := by
  simp only [Reader.looseNumber, bind, StateT.bind, skipBlanks_skips]

private theorem looseClock_skips (characters : List Char) :
    Reader.looseClock (characters.dropWhile Text.isBlank) = Reader.looseClock characters := by
  simp only [Reader.looseClock, bind, StateT.bind, looseNumber_skips]

private theorem looseDate_skips (characters : List Char) :
    Reader.looseDate (characters.dropWhile Text.isBlank) = Reader.looseDate characters := by
  simp only [Reader.looseDate, bind, StateT.bind, looseYear_skips]

private theorem unzoned_skips (between : Reader Unit) (characters : List Char) :
    Reader.unzoned between (characters.dropWhile Text.isBlank) =
      Reader.unzoned between characters := by
  simp only [Reader.unzoned, bind, StateT.bind, looseDate_skips]

theorem takes_unzoned {between : Reader Unit} (clock : Takes 2 (between >>= fun _ => Reader.looseClock)) :
    Takes 2 (Reader.unzoned between) := by
  have behind (date : Date) : Takes 2 (between >>= fun _ => Reader.looseClock >>= fun time =>
      pure (⟨date, time⟩ : Instant)) := by
    rw [← bind_assoc]
    exact clock.bind fun _ => takes_pure _
  exact takes_looseDate.bind behind

/-- Blanks before a time of day are part of it. -/
theorem takes_spaced_clock : Takes 2 (Reader.skipBlanks >>= fun _ => Reader.looseClock) := by
  intro characters time rest read
  obtain ⟨_, middle, skipped, read⟩ := bind_reads read
  cases skipped
  rw [looseClock_skips] at read
  exact takes_looseClock _ _ _ read

/-- A blank may divide the day from the hour, but no date ends there. -/
private theorem takes_hour : Takes 0 (Reader.oneOf ['T', 't', ' '] >>= fun _ => Reader.number 2 2) := by
  intro characters hour rest read
  obtain ⟨_, middle, divided, digits⟩ := bind_reads read
  obtain ⟨shown, rfl, long, all⟩ := number_reads digits
  unfold Reader.oneOf at divided
  split at divided
  next divider _ =>
    split at divided
    next listed =>
      cases divided
      refine ⟨[divider] ++ shown, rfl,
        (taken_digits all).after (List.ne_nil_of_length_pos (Nat.two_pos.trans_le long)) ?_⟩
      simp only [List.mem_cons, List.not_mem_nil, or_false] at listed
      rcases listed with rfl | rfl | rfl <;> rfl
    next => cases divided
  next => cases divided

private theorem takes_zoned : Takes 3 Reader.zoned := by
  have behind (year : Int) (month day hour : Nat) : Takes 3 (do
      Reader.mark ':'
      let minute ← Reader.number 2 2
      Reader.mark ':'
      let second ← Reader.number 2 2
      let nanosecond ← Reader.fraction
      let ahead ← Reader.zone
      return Instant.ofLocal ⟨← Reader.date year month day,
        ← Reader.clock hour minute second nanosecond⟩ ahead) :=
    (takes_mark ':' rfl).bind fun _ => (takes_number 2 2).bind fun _ => (takes_mark ':' rfl).bind fun _ =>
      (takes_number 2 2).bind fun _ => takes_fraction.bind fun _ => takes_zone.bind fun _ =>
        (takes_date _ _ _).bind fun _ => (takes_lift _).bind fun _ => takes_pure _
  have time (year : Int) (month day : Nat) := takes_hour.bind (behind year month day)
  simp only [bind_assoc] at time
  exact (takes_number 4 4).bind fun _ => (takes_mark '-' rfl).bind fun _ => (takes_number 2 2).bind fun _ =>
    (takes_mark '-' rfl).bind fun _ => (takes_number 2 2).bind fun _ => time _ _ _

theorem Takes.whole {Value : Type} {count : Nat} {reader : Reader Value} (takes : Takes count reader)
    {value : Value} (read : reader characters = some (value, [])) : Taken count characters := by
  obtain ⟨shown, rfl, taken⟩ := takes _ _ _ read
  rwa [List.append_nil]

theorem Taken.trimmed {count : Nat} (taken : Taken count (characters.dropWhile Text.isBlank)) :
    Text.trimmed characters = characters.dropWhile Text.isBlank := by
  refine List.rdropWhile_eq_self_iff.mpr fun some => ?_
  rw [taken.solid _ (List.getLast?_eq_some_getLast some)]
  exact Bool.false_ne_true

def loose? (characters : List Char) : Option Instant :=
  (Reader.unzoned (Reader.mark 'T')).whole? characters
    <|> (Reader.unzoned Reader.skipBlanks).whole? characters
    <|> (Reader.looseDate.whole? characters).map (⟨·, Clock.midnight⟩)

private theorem loose?_skips (characters : List Char) :
    loose? (characters.dropWhile Text.isBlank) = loose? characters := by
  simp only [loose?, Reader.whole?, unzoned_skips, looseDate_skips]

/-- Without a zone there are two colons or none. -/
theorem taken_of_loose? {instant : Instant} (read : loose? characters = some instant) :
    Taken 2 characters ∨ Taken 0 characters := by
  simp only [loose?, Option.orElse_eq_orElse, Option.orElse_eq_or, Option.or_eq_some_iff,
    Option.map_eq_some_iff] at read
  rcases read with read | ⟨-, read | ⟨-, date, read, -⟩⟩
  · have clock := (takes_mark 'T' rfl).bind fun _ => takes_looseClock
    exact .inl ((takes_unzoned clock).whole (whole?_reads read))
  · exact .inl ((takes_unzoned takes_spaced_clock).whole (whole?_reads read))
  · exact .inr (takes_looseDate.whole (whole?_reads read))

private theorem solid_of_zoned {instant : Instant} (read : Reader.zoned characters = some (instant, rest)) :
    characters.dropWhile Text.isBlank = characters := by
  obtain ⟨year, middle, years, -⟩ := bind_reads read
  obtain ⟨shown, rfl, long, all⟩ := number_reads years
  match shown with
  | [] => simp at long
  | first :: more => simp [isBlank_of_isDigit (all first List.mem_cons_self)]

theorem parse?_eq (text : String) :
    Instant.parse? text = (Reader.zoned.whole? text.toList).or (loose? text.toList) := by
  simp only [Instant.parse?, loose?, Option.orElse_eq_orElse, Option.orElse_eq_or]

/-- With a zone there would be three marks. -/
theorem zoned_of_loose? {instant : Instant} (read : loose? characters = some instant) :
    Reader.zoned.whole? characters = none := by
  rw [Option.eq_none_iff_forall_ne_some]
  intro other zoned
  have three := (takes_zoned.whole (whole?_reads zoned)).marks
  rcases taken_of_loose? read with two | none
  · exact absurd (two.marks.symm.trans three) (by decide)
  · exact absurd (none.marks.symm.trans three) (by decide)

/-- A text that is an instant is the same instant without the blanks around it. -/
theorem parse?_trim {text : String} {instant : Instant} (read : Instant.parse? text = some instant) :
    Instant.parse? (Text.trim text) = some instant := by
  have front : (Text.trim text).toList = Text.trimmed text.toList := String.toList_ofList
  rw [parse?_eq, Option.or_eq_some_iff] at read
  rw [parse?_eq, front]
  rcases read with zoned | ⟨-, loose⟩
  · have solid := solid_of_zoned (whole?_reads zoned)
    have taken := takes_zoned.whole (whole?_reads zoned)
    rw [← solid] at taken
    rw [taken.trimmed, solid, zoned, Option.some_or]
  · rw [← loose?_skips] at loose
    have trimmed : Text.trimmed text.toList = text.toList.dropWhile Text.isBlank :=
      (taken_of_loose? loose).elim Taken.trimmed Taken.trimmed
    rw [trimmed, zoned_of_loose? loose, Option.none_or, loose]

theorem order_eq_iff {left right : Instant} : left.order right = .eq ↔ left = right := by
  have fields : left.order right = .eq ↔ left.fields = right.fields :=
    @Std.LawfulEqCmp.compare_eq_iff_eq _ (List.compareLex compare) _ _ _
  rw [fields]
  constructor
  · intro same
    obtain ⟨⟨year, month, day, _⟩, ⟨hour, minute, second, nanosecond, _⟩⟩ := left
    obtain ⟨⟨year', month', day', _⟩, ⟨hour', minute', second', nanosecond', _⟩⟩ := right
    simp only [Instant.fields, List.cons.injEq, Int.natCast_inj, and_true] at same
    obtain ⟨rfl, rfl, rfl, rfl, rfl, rfl, rfl⟩ := same
    rfl
  · rintro rfl
    rfl

theorem mem_text (instant : Instant) : 'T' ∈ instant.text.toList := by
  simp [Instant.text]

theorem head?_text (instant : Instant) : ∀ character ∈ instant.text.toList.head?,
    character.isDigit = true ∨ character = '-' ∨ character = '+' := by
  have year : ∀ character ∈ yearText instant.date.year,
      character.isDigit = true ∨ character = '-' ∨ character = '+' := by
    intro character member
    unfold yearText at member
    split at member
    next => exact .inl (isDigit_of_mem_padded member)
    next =>
      rcases List.mem_cons.mp member with rfl | member
      · right
        split <;> simp
      · exact .inl (isDigit_of_mem_padded member)
  simp only [Instant.text, Date.characters, String.toList_ofList, List.append_assoc]
  cases shown : yearText instant.date.year with
  | nil => simp
  | cons first rest =>
    rw [shown] at year
    simpa using year first List.mem_cons_self

end ResourceQuery.Proofs.DateReading
