import ResourceQuery.Calendar.Date
import ResourceQuery.Number.Numeral

/-!
Instants, and their text in universal time. An instant is a date and a time of day; a leap second is
the sixtieth second of its minute. Instants are ordered field by field, the year first.
-/

namespace ResourceQuery.Calendar

open ResourceQuery.Number

def IsClock (hour minute second nanosecond : Nat) : Prop :=
  hour < 24 ∧ minute < 60 ∧ second ≤ 60 ∧ nanosecond < 1000000000

instance (hour minute second nanosecond : Nat) : Decidable (IsClock hour minute second nanosecond) :=
  inferInstanceAs (Decidable (_ ∧ _ ∧ _ ∧ _))

structure Clock where
  hour : Nat
  minute : Nat
  second : Nat
  nanosecond : Nat
  isClock : IsClock hour minute second nanosecond
  deriving DecidableEq

def Clock.of? (hour minute second nanosecond : Nat) : Option Clock :=
  if isClock : IsClock hour minute second nanosecond then
    some ⟨hour, minute, second, nanosecond, isClock⟩
  else none

def Clock.midnight : Clock := ⟨0, 0, 0, 0, by decide⟩

structure Instant where
  date : Date
  clock : Clock
  deriving DecidableEq

namespace Instant

def fields (instant : Instant) : List Int :=
  [instant.date.year, instant.date.month, instant.date.day, instant.clock.hour,
    instant.clock.minute, instant.clock.second, instant.clock.nanosecond]

def order (left right : Instant) : Ordering :=
  List.compareLex compare left.fields right.fields

/-- The instant at which a clock that is this many minutes ahead of universal time shows the given
date and time. The difference is less than a day. -/
def ofLocal (shown : Instant) (ahead : Int) : Instant :=
  let minutes := (shown.clock.hour * 60 + shown.clock.minute : Int) - ahead
  let clock : Clock := ⟨(minutes % 1440 / 60).toNat, (minutes % 60).toNat, shown.clock.second,
    shown.clock.nanosecond, by
      have := shown.clock.isClock
      simp only [IsClock] at this ⊢
      omega⟩
  if minutes < 0 then ⟨shown.date.previous, clock⟩
  else if 1440 ≤ minutes then ⟨shown.date.next, clock⟩
  else ⟨shown.date, clock⟩

end Instant

/-- A year: four digits, or a sign and at least four digits when these are not enough. -/
def yearText (year : Int) : List Char :=
  if 0 ≤ year ∧ year ≤ 9999 then padded 4 year.toNat
  else (if year < 0 then '-' else '+') :: padded 4 year.natAbs

/-- The fraction of a second in the fewest groups of three digits that are exact. -/
def fractionText (nanosecond : Nat) : List Char :=
  if nanosecond = 0 then []
  else if nanosecond % 1000000 = 0 then '.' :: padded 3 (nanosecond / 1000000)
  else if nanosecond % 1000 = 0 then '.' :: padded 6 (nanosecond / 1000)
  else '.' :: padded 9 nanosecond

def Date.characters (date : Date) : List Char :=
  yearText date.year ++ '-' :: padded 2 date.month ++ '-' :: padded 2 date.day

def Clock.characters (clock : Clock) : List Char :=
  padded 2 clock.hour ++ ':' :: padded 2 clock.minute ++ ':' :: padded 2 clock.second ++
    fractionText clock.nanosecond

def Instant.localText (instant : Instant) : String :=
  String.ofList (instant.date.characters ++ 'T' :: instant.clock.characters)

def Instant.text (instant : Instant) : String :=
  String.ofList (instant.date.characters ++ 'T' :: instant.clock.characters ++ "+00:00".toList)

def Date.text (date : Date) : String :=
  String.ofList date.characters

end ResourceQuery.Calendar
