import ResourceQuery.Calendar.Instant
import ResourceQuery.Text.Blank

/-!
Reading instants. Four forms are tried in turn: a full date and time with a zone, a date and time
without one (with a `T` or a space between), and a date alone; what has no zone is in universal time.
The form with a zone is strict about widths. The others let blanks stand before a number and take
numbers with fewer digits.
-/

namespace ResourceQuery.Calendar

open ResourceQuery.Number

/-- A reader of something at the front of the characters; it returns what is left. -/
abbrev Reader (Value : Type) := StateT (List Char) Option Value

namespace Reader

def mark (expected : Char) : Reader Unit := fun
  | character :: rest => if character = expected then some ((), rest) else none
  | [] => none

def oneOf (expected : List Char) : Reader Unit := fun
  | character :: rest => if character ∈ expected then some ((), rest) else none
  | [] => none

def skipBlanks : Reader Unit := fun characters =>
  some ((), characters.dropWhile Text.isBlank)

def leadingDigits (limit : Nat) (characters : List Char) : List Char :=
  (characters.take limit).takeWhile Char.isDigit

def number (least most : Nat) : Reader Nat := fun characters =>
  let found := leadingDigits most characters
  if found.length < least then none
  else some (digitsValue found 0, characters.drop found.length)

/-- A number after blanks, with one digit or two. -/
def looseNumber : Reader Nat := do
  skipBlanks
  number 1 2

def allDigits : Reader Nat := fun characters =>
  let found := characters.takeWhile Char.isDigit
  if found.isEmpty then none else some (digitsValue found 0, characters.dropWhile Char.isDigit)

/-- A year after blanks: up to four digits, or a sign and any number of them. -/
def looseYear : Reader Int := do
  skipBlanks
  match ← get with
  | '-' :: rest => set rest; return -(← allDigits)
  | '+' :: rest => set rest; return ← allDigits
  | _ => return ← number 1 4

/-- The digits after the point of a second; those beyond the ninth are passed over. -/
def nanoseconds : Reader Nat := do
  let found := leadingDigits 9 (← get)
  let value ← number 1 9
  modify (·.dropWhile Char.isDigit)
  return value * Nat.pow 10 (9 - found.length)

def fraction : Reader Nat := do
  match ← get with
  | '.' :: rest => set rest; nanoseconds
  | _ => return 0

/-- A zone: universal time, or a sign, hours and minutes. The answer counts the minutes ahead. -/
def zone : Reader Int := do
  match ← get with
  | 'Z' :: rest | 'z' :: rest => set rest; return 0
  | sign :: rest =>
    if sign = '+' ∨ sign = '-' ∨ sign = Char.ofNat 0x2212 then
      set rest
      let hours ← number 2 2
      mark ':'
      let minutes ← number 2 2
      if hours < 24 ∧ minutes < 60 then
        let total : Int := hours * 60 + minutes
        return if sign = '+' then total else -total
      else failure
    else failure
  | [] => failure

def inReach (year : Int) : Bool :=
  -262143 ≤ year && year ≤ 262142

def date (year : Int) (month day : Nat) : Reader Date :=
  if inReach year then StateT.lift (Date.of? year month day) else failure

def clock (hour minute second nanosecond : Nat) : Reader Clock :=
  StateT.lift (Clock.of? hour minute second nanosecond)

def zoned : Reader Instant := do
  let year ← number 4 4
  mark '-'
  let month ← number 2 2
  mark '-'
  let day ← number 2 2
  oneOf ['T', 't', ' ']
  let hour ← number 2 2
  mark ':'
  let minute ← number 2 2
  mark ':'
  let second ← number 2 2
  let nanosecond ← fraction
  let ahead ← zone
  return Instant.ofLocal ⟨← date year month day, ← clock hour minute second nanosecond⟩ ahead

def looseDate : Reader Date := do
  let year ← looseYear
  mark '-'
  let month ← looseNumber
  mark '-'
  let day ← looseNumber
  date year month day

def looseClock : Reader Clock := do
  let hour ← looseNumber
  mark ':'
  let minute ← looseNumber
  mark ':'
  let second ← looseNumber
  let nanosecond ← fraction
  clock hour minute second nanosecond

/-- A date and a time of day, with something between. -/
def unzoned (between : Reader Unit) : Reader Instant := do
  let date ← looseDate
  between
  return ⟨date, ← looseClock⟩

def whole? {Value : Type} (reader : Reader Value) (characters : List Char) : Option Value :=
  match reader characters with
  | some (value, []) => some value
  | _ => none

end Reader

open Reader

def Instant.parse? (text : String) : Option Instant :=
  let characters := text.toList
  zoned.whole? characters
    <|> (unzoned (mark 'T')).whole? characters
    <|> (unzoned skipBlanks).whole? characters
    <|> (looseDate.whole? characters).map (⟨·, Clock.midnight⟩)

end ResourceQuery.Calendar
