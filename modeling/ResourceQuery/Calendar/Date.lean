/-!
Calendar dates of the proleptic Gregorian calendar, with a year zero and negative years before it,
and their count in days. A day number counts from the first day of the year zero.
-/

namespace ResourceQuery.Calendar

def isLeap (year : Int) : Bool :=
  year % 4 == 0 && (year % 100 != 0 || year % 400 == 0)

def monthLengths (leap : Bool) : List Nat :=
  [31, if leap then 29 else 28, 31, 30, 31, 30, 31, 31, 30, 31, 30, 31]

def monthLength (leap : Bool) (month : Nat) : Nat :=
  ((monthLengths leap)[month - 1]?).getD 0

def IsDate (year : Int) (month day : Nat) : Prop :=
  1 ≤ month ∧ month ≤ 12 ∧ 1 ≤ day ∧ day ≤ monthLength (isLeap year) month

instance (year : Int) (month day : Nat) : Decidable (IsDate year month day) :=
  inferInstanceAs (Decidable (_ ∧ _ ∧ _ ∧ _))

structure Date where
  year : Int
  month : Nat
  day : Nat
  isDate : IsDate year month day
  deriving DecidableEq

namespace Date

def of? (year : Int) (month day : Nat) : Option Date :=
  if isDate : IsDate year month day then some ⟨year, month, day, isDate⟩ else none

def next (date : Date) : Date :=
  match of? date.year date.month (date.day + 1) with
  | some following => following
  | none =>
    match of? date.year (date.month + 1) 1 with
    | some following => following
    | none => ⟨date.year + 1, 1, 1, by simp [IsDate, monthLength, monthLengths]⟩

def previous (date : Date) : Date :=
  match of? date.year date.month (date.day - 1) with
  | some preceding => preceding
  | none =>
    match of? date.year (date.month - 1) (monthLength (isLeap date.year) (date.month - 1)) with
    | some preceding => preceding
    | none => ⟨date.year - 1, 12, 31, by simp [IsDate, monthLength, monthLengths]⟩

/-- The days before a year; every fourth year has one more, but of the full centuries only every
fourth. -/
def daysBeforeYear (year : Int) : Int :=
  365 * year + (year + 3) / 4 - (year + 99) / 100 + (year + 399) / 400

def daysBeforeMonth (leap : Bool) (month : Nat) : Nat :=
  ((monthLengths leap).take (month - 1)).foldl (· + ·) 0

def dayNumber (date : Date) : Int :=
  daysBeforeYear date.year + daysBeforeMonth (isLeap date.year) date.month + date.day - 1

/-- The year that a day number falls in: the mean length of a year gives it, but for one. -/
def yearOf (number : Int) : Int :=
  let guess := 400 * number / 146097
  if number < daysBeforeYear guess then guess - 1
  else if daysBeforeYear (guess + 1) ≤ number then guess + 1
  else guess

/-- Counts a day of the year into the months, from the given month on. -/
def locate : List Nat → Nat → Nat → Nat × Nat
  | [], month, passed => (month, passed)
  | length :: later, month, passed =>
    if passed < length then (month, passed) else locate later (month + 1) (passed - length)

def yearLength (leap : Bool) : Nat :=
  if leap then 366 else 365

private theorem daysBeforeYear_succ (year : Int) :
    daysBeforeYear (year + 1) = daysBeforeYear year + yearLength (isLeap year) := by
  unfold daysBeforeYear yearLength isLeap
  split
  case isTrue leap =>
    simp only [Bool.and_eq_true, beq_iff_eq, Bool.or_eq_true, bne_iff_ne] at leap
    omega
  case isFalse leap =>
    simp only [Bool.and_eq_true, beq_iff_eq, Bool.or_eq_true, bne_iff_ne] at leap
    omega

theorem yearOf_bounds (number : Int) :
    daysBeforeYear (yearOf number) ≤ number ∧ number < daysBeforeYear (yearOf number + 1) := by
  have step := daysBeforeYear_succ (400 * number / 146097 - 1)
  rw [Int.sub_add_cancel] at step
  unfold yearOf
  simp only
  split
  case isTrue early =>
    rw [Int.sub_add_cancel]
    refine ⟨?_, early⟩
    unfold daysBeforeYear at *
    omega
  case isFalse late =>
    split
    case isTrue far =>
      refine ⟨far, ?_⟩
      unfold daysBeforeYear at *
      omega
    case isFalse near => omega

private theorem locate_isDate : ∀ leap : Bool, ∀ passed : Fin (yearLength leap),
    let (month, rest) := locate (monthLengths leap) 1 passed
    1 ≤ month ∧ month ≤ 12 ∧ 1 ≤ rest + 1 ∧ rest + 1 ≤ monthLength leap month := by
  decide +kernel

def dayOfYear (number : Int) : Nat :=
  (number - daysBeforeYear (yearOf number)).toNat

theorem dayOfYear_lt (number : Int) :
    dayOfYear number < yearLength (isLeap (yearOf number)) := by
  have bounds := yearOf_bounds number
  rw [daysBeforeYear_succ] at bounds
  unfold dayOfYear
  omega

def ofDayNumber (number : Int) : Date :=
  let found := locate (monthLengths (isLeap (yearOf number))) 1 (dayOfYear number)
  ⟨yearOf number, found.1, found.2 + 1, locate_isDate _ ⟨dayOfYear number, dayOfYear_lt number⟩⟩

end Date

end ResourceQuery.Calendar
