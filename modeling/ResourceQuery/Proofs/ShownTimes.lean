import ResourceQuery.Postgres.Parameter
import ResourceQuery.Postgres.Reply
import ResourceQuery.Proofs.InstantTexts
import ResourceQuery.Proofs.ListedAlternatives

/-! Times from the database as operands. The text that a date or a time is shown with is read, as an
operand of a column of instants, as the microsecond that the database counted, and this count is bound
again. -/

namespace ResourceQuery.Proofs.ShownTimes
open Calendar InstantTexts ListedAlternatives PlannedStatements Postgres Sql

private theorem locate_sum : ∀ leap : Bool, ∀ passed : Fin (Date.yearLength leap),
    let (month, rest) := Date.locate (monthLengths leap) 1 passed
    Date.daysBeforeMonth leap month + rest = passed := by
  decide +kernel

private theorem dayNumber_ofDayNumber (number : Int) : (Date.ofDayNumber number).dayNumber = number := by
  have within := locate_sum _ ⟨Date.dayOfYear number, Date.dayOfYear_lt number⟩
  have year := (Date.yearOf_bounds number).1
  simp only [Date.dayNumber, Date.ofDayNumber] at within ⊢
  simp only [Date.dayOfYear] at within ⊢
  omega

private theorem clockAt_counts {passed : Int} (early : 0 ≤ passed) (late : passed < 86400000000) :
    (((clockAt passed).hour * 3600 + (clockAt passed).minute * 60 + (clockAt passed).second : Nat) : Int) =
        passed / 1000000 ∧
      ((clockAt passed).nanosecond : Int) = passed % 1000000 * 1000 := by
  simp only [clockAt]
  omega

private theorem nanoseconds_instantOf (count : Int) : nanoseconds (instantOf count) = count * 1000 := by
  have early : 0 ≤ count % 86400000000 := Int.emod_nonneg _ (by decide)
  have late : count % 86400000000 < 86400000000 := Int.emod_lt_of_pos _ (by decide)
  have split : instantOf count = ⟨dateOf (count / 86400000000), clockAt (count % 86400000000)⟩ := rfl
  obtain ⟨seconds, fraction⟩ := clockAt_counts early late
  simp only [nanoseconds, split, dateOf, dayNumber_ofDayNumber, daySeconds, seconds, fraction]
  omega

private theorem nanoseconds_midnight (days : Int) :
    nanoseconds ⟨dateOf days, Clock.midnight⟩ = days * 86400000000 * 1000 := by
  simp only [nanoseconds, dateOf, dayNumber_ofDayNumber, daySeconds, Clock.midnight]
  omega

private theorem microseconds_eq {instant : Instant} {count : Int} (exact : nanoseconds instant = count * 1000) :
    microseconds instant = count := by
  rw [microseconds, exact, Int.mul_tdiv_cancel _ (by decide)]

/-- A cell is a text that, as an operand of a column of instants, is the instant so many microseconds after
the epoch, and wherever such a column is compared with it this count is bound. -/
def BoundAt (cell : Json) (count : Int) : Prop :=
  ∃ text instant, cell = .string text ∧ Operand.coerce .timestamp text = .timestamp instant ∧
    nanoseconds instant = count * 1000 ∧
    Parameter.ofOperand (.timestamp instant) = ⟨"timestamptz", word count⟩ ∧
    ∀ (table : Table) (name : String) (column : Column), table.column? name = some column →
      column.type = .timestamp → ∀ operator, operator ≠ .like →
        condition? table ⟨name, operator, [.coerce column.type text]⟩ =
          some (.name name :: comparison operator [.timestamp instant])

theorem coerce_of_parse? {text : String} {instant : Instant}
    (read : Instant.parse? text = some instant) :
    Operand.coerce .timestamp text = .timestamp instant := by
  rw [Operand.coerce, Operand.read?, DateReading.parse?_trim read]
  rfl

private theorem condition?_timestamp {table : Table} {name : String} {column : Column}
    (found : table.column? name = some column) (type : column.type = .timestamp) {operator : Operator}
    (pattern : operator ≠ .like) (instant : Instant) :
    condition? table ⟨name, operator, [.timestamp instant]⟩ =
      some (.name name :: comparison operator [.timestamp instant]) := by
  have native : isNative column.type [.timestamp instant] = true := by
    rw [isNative_singleton, type]
    exact ⟨rfl, rfl⟩
  by_cases several : operator = .isIn
  · subst several
    rw [condition?_isIn found, native]
    rfl
  · rw [condition?_single found several pattern, native]
    rfl

private theorem boundAt_of_parse? {text : String} {instant : Instant} {count : Int}
    (read : Instant.parse? text = some instant) (exact : nanoseconds instant = count * 1000) :
    BoundAt (.string text) count := by
  have coerced := coerce_of_parse? read
  refine ⟨text, instant, rfl, coerced, exact, ?_, ?_⟩
  · rw [Parameter.ofOperand, microseconds_eq exact]
  · intro table name column found type operator pattern
    rw [type, coerced]
    exact condition?_timestamp found type pattern instant

/-- Every time shown in a year of four digits can be asked for. The text of an instant, with a zone or
without one, is read as an operand of a column of instants as the very microsecond that was counted, and
the text of a date as that of its midnight in universal time; this microsecond is what is bound, by the
type of the column and not as text, under every operator but the search for a pattern. -/
theorem shown_times_are_bound_as_counted (count : Int) (fits : Json.FitsInteger count) :
    (FourDigits (instantOf count).date.year →
      BoundAt (decodeCell .timestamptz (.number (.integer count fits))) count ∧
        BoundAt (decodeCell .timestamp (.number (.integer count fits))) count) ∧
      (FourDigits (dateOf count).year →
        BoundAt (decodeCell .date (.number (.integer count fits))) (count * 86400000000)) := by
  refine ⟨fun plain => ⟨?_, ?_⟩, fun plain => ?_⟩
  · exact boundAt_of_parse? (parse?_text plain) (nanoseconds_instantOf count)
  · exact boundAt_of_parse? (parse?_localText plain) (nanoseconds_instantOf count)
  · exact boundAt_of_parse? (parse?_dateText plain) (nanoseconds_midnight count)

theorem last_microsecond_before_2000 : ∃ fits : Json.FitsInteger (-1),
    let cell : Json := .number (.integer (-1) fits)
    decodeCell .timestamptz cell = .string "1999-12-31T23:59:59.999999+00:00" ∧
      decodeCell .timestamp cell = .string "1999-12-31T23:59:59.999999" ∧
      decodeCell .date cell = .string "1999-12-31" ∧
      FourDigits (instantOf (-1)).date.year ∧ FourDigits (dateOf (-1)).year ∧
      BoundAt (.string "1999-12-31T23:59:59.999999+00:00") (-1) ∧
      BoundAt (.string "1999-12-31T23:59:59.999999") (-1) ∧
      BoundAt (.string "1999-12-31") (-86400000000) := by
  have fits : Json.FitsInteger (-1) := by decide
  have texts : (instantOf (-1)).text = "1999-12-31T23:59:59.999999+00:00" ∧
      (instantOf (-1)).localText = "1999-12-31T23:59:59.999999" ∧ (dateOf (-1)).text = "1999-12-31" := by
    decide +kernel
  have plain : FourDigits (instantOf (-1)).date.year ∧ FourDigits (dateOf (-1)).year := by
    decide +kernel
  obtain ⟨zone, noZone, day⟩ := texts
  obtain ⟨instants, dates⟩ := shown_times_are_bound_as_counted (-1) fits
  obtain ⟨zoned, unzoned⟩ := instants plain.1
  exact ⟨fits, congrArg _ zone, congrArg _ noZone, congrArg _ day, plain.1, plain.2, zone ▸ zoned,
    noZone ▸ unzoned, day ▸ dates plain.2⟩

end ResourceQuery.Proofs.ShownTimes
