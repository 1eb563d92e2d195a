import ResourceQuery.Calendar.Instant

/-!
Dates and instants as the database counts them: in days, and in microseconds, from the first of
January 2000 on.
-/

namespace ResourceQuery.Postgres

open ResourceQuery.Calendar

def epochDay : Int := 730485

def daySeconds : Int := 86400

def dateOf (days : Int) : Date :=
  .ofDayNumber (epochDay + days)

/-- The nanoseconds from the epoch to an instant. A leap second counts as the second after it. -/
def nanoseconds (instant : Instant) : Int :=
  let seconds := (instant.date.dayNumber - epochDay) * daySeconds +
    (instant.clock.hour * 3600 + instant.clock.minute * 60 + instant.clock.second : Nat)
  seconds * 1000000000 + instant.clock.nanosecond

/-- The whole microseconds from the epoch to an instant, without their fraction. -/
def microseconds (instant : Instant) : Int :=
  (nanoseconds instant).tdiv 1000

def clockAt (passed : Int) : Clock where
  hour := (passed / (3600 * 1000000) % 24).toNat
  minute := (passed / (60 * 1000000) % 60).toNat
  second := (passed / 1000000 % 60).toNat
  nanosecond := (passed % 1000000).toNat * 1000
  isClock := by
    simp only [IsClock]
    omega

def instantOf (microseconds : Int) : Instant :=
  let day := daySeconds * 1000000
  ⟨dateOf (microseconds / day), clockAt (microseconds % day)⟩

end ResourceQuery.Postgres
