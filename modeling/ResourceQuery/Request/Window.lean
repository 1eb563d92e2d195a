import ResourceQuery.Request.Intent

/-!
The window of rows that a request is answered with: half open, and possibly without an end. Its
bounds fit a signed 64-bit word, whatever was asked for.
-/

namespace ResourceQuery

/-- The rows from `start` on, up to but not including `stop` if there is one. -/
structure Window where
  start : Nat
  stop : Option Nat
  deriving DecidableEq, Repr

namespace Window

def unbounded : Window := ⟨0, none⟩

def limit (window : Window) : Option Nat :=
  window.stop.map (· - window.start)

def maxOffset : Nat := 0x7FFFFFFFFFFFFFFF

def maxUnsigned : Nat := 0xFFFFFFFFFFFFFFFF

/-- The result, or the greatest unsigned 64-bit number when it is beyond. -/
def capped (value : Nat) : Nat :=
  min value maxUnsigned

/-- Any of the bounds takes precedence over the page: an end counts as it stands, and a limit from the
start that was asked for, even a negative one. -/
def ofPagination (pagination : Pagination) : Window :=
  if pagination.isRange then
    let asked := pagination.start.getD 0
    let start := (max asked 0).toNat
    let stop : Option Nat := match pagination.stop, pagination.limit with
      | some stop, _ => some (max stop 0).toNat
      | none, some limit => some (max (Intent.saturate (asked + max limit 0)) 0).toNat
      | none, none => none
    ⟨min start maxOffset, stop.map fun stop => min (max stop start) maxOffset⟩
  else
    let start := min (capped ((pagination.page - 1) * pagination.perPage)) maxOffset
    ⟨start, some (min (capped (start + pagination.perPage)) maxOffset)⟩

/-- No window ends before it starts, and its bounds are signed words. -/
theorem ofPagination_ordered (pagination : Pagination) :
    (ofPagination pagination).start ≤ maxOffset ∧
      ∀ stop ∈ (ofPagination pagination).stop,
        (ofPagination pagination).start ≤ stop ∧ stop ≤ maxOffset := by
  cases ranged : pagination.isRange with
  | true =>
    simp only [ofPagination, ranged, ↓reduceIte]
    refine ⟨Nat.min_le_right _ _, fun stop reached => ?_⟩
    obtain ⟨asked, -, rfl⟩ := Option.map_eq_some_iff.mp reached
    omega
  | false =>
    simp only [ofPagination, ranged, Bool.false_eq_true, ↓reduceIte, capped, maxUnsigned, maxOffset]
    refine ⟨Nat.min_le_right _ _, fun stop reached => ?_⟩
    obtain rfl := Option.some.inj reached
    omega

end Window

end ResourceQuery
