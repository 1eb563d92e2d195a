import ResourceQuery.Proofs.OwnTexts
import ResourceQuery.Proofs.Paging

/-! Windows in 64-bit words. The window of a request is the one that whole numbers of any size give, cut
off at the greatest signed word, and no step on the way to it leaves the words. -/

namespace ResourceQuery.Proofs.ExactWindows
open RepeatedKeys

/-- The bounds of a window, as whole numbers of any size. -/
structure Bounds where
  start : Int
  stop : Option Int

namespace Bounds

def ofWindow (window : Window) : Bounds :=
  ⟨window.start, window.stop.map fun stop : Nat => (stop : Int)⟩

def cut (bounds : Bounds) : Bounds :=
  ⟨min bounds.start Intent.maxWord, bounds.stop.map (min · Intent.maxWord)⟩

def ofPage (page perPage : Int) : Bounds :=
  ⟨(page - 1) * perPage, some (page * perPage)⟩

/-- An end overrides a limit. A limit counts from the start that was asked for, even a negative one. -/
def ofRange (start stop limit : Option Int) : Bounds :=
  let asked := start.getD 0
  let first := max 0 asked
  match stop, limit with
  | some stop, _ => ⟨first, some (max first stop)⟩
  | none, some limit => ⟨first, some (max first (asked + max 0 limit))⟩
  | none, none => ⟨first, none⟩

/-- Any of the three keys of a range takes precedence over the page. -/
def requested (start stop limit : Option Int) (page perPage : Nat) : Bounds :=
  if start = none ∧ stop = none ∧ limit = none then ofPage page perPage else ofRange start stop limit

end Bounds

section Words

def signed? (value : Int) : Option Int :=
  if Intent.IsWord value then some value else none

def unsigned? (value : Int) : Option Int :=
  if 0 ≤ value ∧ value ≤ Window.maxUnsigned then some value else none

def saturated (value : Int) : Int :=
  max 0 (min value Window.maxUnsigned)

/-- The bounds of a range, word by word: the sum stops at the bounds of signed words, and the steps fail
when anything else leaves its words. -/
def rangeInWords? (start : Int) (stop limit : Option Int) : Option Bounds := do
  let asked ← signed? start
  let first ← unsigned? (max asked 0)
  let last ← match stop, limit with
    | some stop, _ => do
      let stop ← signed? stop
      (unsigned? (max stop 0)).map some
    | none, some limit => do
      let limit ← signed? limit
      let sum := Intent.saturate (asked + max limit 0)
      (unsigned? (max sum 0)).map some
    | none, none => some none
  return ⟨min first Intent.maxWord, last.map fun last => min (max last first) Intent.maxWord⟩

/-- The bounds of a page, word by word: product and sum stop at the greatest unsigned word, and the steps
fail when anything else leaves its words. -/
def pageInWords? (page perPage : Int) : Option Bounds := do
  let page ← unsigned? page
  let perPage ← unsigned? perPage
  let skipped ← unsigned? (page - 1)
  let start := min (saturated (skipped * perPage)) Intent.maxWord
  return ⟨start, some (min (saturated (start + perPage)) Intent.maxWord)⟩

def inWords? (pagination : Pagination) : Option Bounds :=
  if pagination.isRange then
    rangeInWords? (pagination.start.getD 0) pagination.stop pagination.limit
  else pageInWords? pagination.page pagination.perPage

end Words

private theorem signed?_eq {value : Int} (word : Intent.IsWord value) : signed? value = some value :=
  if_pos word

private theorem unsigned?_eq {value : Int} (low : 0 ≤ value) (high : value ≤ Window.maxUnsigned) :
    unsigned? value = some value :=
  if_pos ⟨low, high⟩

/-- Pages are counted from one, and every number is a signed word. -/
structure Fits (pagination : Pagination) : Prop where
  page : 1 ≤ pagination.page ∧ pagination.page ≤ Window.maxOffset
  perPage : 1 ≤ pagination.perPage ∧ pagination.perPage ≤ 100
  start : ∀ value ∈ pagination.start, Intent.IsWord value
  stop : ∀ value ∈ pagination.stop, Intent.IsWord value
  limit : ∀ value ∈ pagination.limit, Intent.IsWord value

private theorem isWord_saturate (value : Int) : Intent.IsWord (Intent.saturate value) := by
  simp only [Intent.IsWord, Intent.saturate, Intent.minWord, Intent.maxWord]
  omega

private theorem isWord_coerceInteger {text : String} {value : Int}
    (read : Intent.coerceInteger text = some value) : Intent.IsWord value := by
  rcases (Option.orElse_eq_some _ _ _).mp read with whole | ⟨-, rounded⟩
  · exact OwnTexts.isWord_of_word? whole
  · obtain ⟨number, -, rfl⟩ := Option.map_eq_some_iff.mp rounded
    exact isWord_saturate _

private theorem fits_parse (pairs : List (String × String)) :
    Fits (Intent.parse (.ofPairs pairs)).pagination := by
  have word {key : String} : ∀ value ∈ number? pairs key, Intent.IsWord value := by
    intro value read
    obtain ⟨text, -, read⟩ := Option.bind_eq_some_iff.mp read
    exact isWord_coerceInteger read
  refine ⟨⟨Paging.page_pos _, ?_⟩, Paging.perPage_bounds _, ?_, ?_, ?_⟩
  · rw [pagination_parse]
    cases read : number? pairs "_page" with
    | none => exact show 1 ≤ Window.maxOffset by decide
    | some value =>
      obtain ⟨-, high⟩ := word value read
      simp only [Intent.maxWord] at high
      simp only [Option.map_some, Option.getD_some, Window.maxOffset]
      omega
  all_goals
    rw [pagination_parse]
    exact word

section

variable {pagination : Pagination}

private theorem page_units (fits : Fits pagination) : ∃ skipped : Nat,
    (pagination.page - 1) * pagination.perPage = skipped ∧
      ((pagination.page : Int) - 1) * pagination.perPage = skipped ∧
      (pagination.page : Int) * pagination.perPage = skipped + pagination.perPage := by
  obtain ⟨before, same⟩ : ∃ before, pagination.page = before + 1 :=
    Nat.exists_eq_add_of_le' fits.page.1
  refine ⟨before * pagination.perPage, ?_, ?_, ?_⟩
  · rw [same, Nat.add_sub_cancel]
  · rw [same]
    push_cast
    ring
  · rw [same]
    push_cast
    ring

private theorem window_of_page (fits : Fits pagination) (paged : pagination.isRange = false) :
    .ofWindow (Window.ofPagination pagination) =
      (Bounds.ofPage pagination.page pagination.perPage).cut := by
  obtain ⟨skipped, counted, start, stop⟩ := page_units fits
  obtain ⟨-, few⟩ := fits.perPage
  simp only [Window.ofPagination, paged, Bool.false_eq_true, ↓reduceIte, Bounds.ofWindow, Bounds.cut,
    Bounds.ofPage, counted, start, stop, Option.map_some, Bounds.mk.injEq, Option.some.injEq,
    Window.capped, Window.maxUnsigned, Window.maxOffset, Intent.maxWord]
  omega

private theorem page_in_words (fits : Fits pagination) :
    pageInWords? pagination.page pagination.perPage =
      some (Bounds.ofPage pagination.page pagination.perPage).cut := by
  obtain ⟨skipped, -, start, stop⟩ := page_units fits
  obtain ⟨first, last⟩ := fits.page
  obtain ⟨-, few⟩ := fits.perPage
  simp only [Window.maxOffset] at last
  have page : unsigned? pagination.page = some (pagination.page : Int) :=
    unsigned?_eq (by omega) (by simp only [Window.maxUnsigned]; omega)
  have perPage : unsigned? pagination.perPage = some (pagination.perPage : Int) :=
    unsigned?_eq (by omega) (by simp only [Window.maxUnsigned]; omega)
  have before : unsigned? (pagination.page - 1) = some (pagination.page - 1 : Int) :=
    unsigned?_eq (by omega) (by simp only [Window.maxUnsigned]; omega)
  simp only [pageInWords?, page, perPage, before, Option.bind_eq_bind, Option.bind_some, Bounds.cut,
    Bounds.ofPage, start, stop, Option.map_some, saturated, Option.pure_def, Option.some.injEq,
    Bounds.mk.injEq, Window.maxUnsigned, Intent.maxWord]
  omega

private theorem cut_saturate {first : Int} (positive : 0 ≤ first) (value : Int) :
    min (max first (Intent.saturate value)) Intent.maxWord = min (max first value) Intent.maxWord := by
  simp only [Intent.saturate, Intent.minWord, Intent.maxWord]
  omega

private theorem max_joined (asked stop : Int) : max (max stop 0) (max asked 0) = max (max 0 asked) stop := by
  omega

private theorem cast_start (asked : Int) :
    ((min (max asked 0).toNat Window.maxOffset : Nat) : Int) = min (max 0 asked) Intent.maxWord := by
  rw [Nat.cast_min, Int.toNat_of_nonneg (Int.le_max_right _ _), max_comm asked]
  rfl

private theorem cast_stop (asked stop : Int) :
    ((min (max (max stop 0).toNat (max asked 0).toNat) Window.maxOffset : Nat) : Int) =
      min (max (max 0 asked) stop) Intent.maxWord := by
  rw [Nat.cast_min, Nat.cast_max, Int.toNat_of_nonneg (Int.le_max_right _ _),
    Int.toNat_of_nonneg (Int.le_max_right _ _), max_joined]
  rfl

private theorem window_of_range (ranged : pagination.isRange = true) :
    .ofWindow (Window.ofPagination pagination) =
      (Bounds.ofRange pagination.start pagination.stop pagination.limit).cut := by
  simp only [Window.ofPagination, ranged, ↓reduceIte, Bounds.ofWindow, Bounds.ofRange]
  generalize pagination.start.getD 0 = asked
  cases pagination.stop with
  | some stop =>
    simp only [Bounds.cut, Option.map_some, Bounds.mk.injEq, Option.some.injEq]
    exact ⟨cast_start asked, cast_stop asked stop⟩
  | none =>
    cases pagination.limit with
    | none =>
      simp only [Bounds.cut, Option.map_none, Bounds.mk.injEq, and_true]
      exact cast_start asked
    | some limit =>
      simp only [Bounds.cut, Option.map_some, Bounds.mk.injEq, Option.some.injEq]
      rw [max_comm 0 limit]
      exact ⟨cast_start asked, (cast_stop asked _).trans (cut_saturate (Int.le_max_left _ _) _)⟩

private theorem unsigned?_word {value : Int} (word : Intent.IsWord value) :
    unsigned? (max value 0) = some (max value 0) := by
  obtain ⟨-, high⟩ := word
  simp only [Intent.maxWord] at high
  refine unsigned?_eq (by omega) ?_
  simp only [Window.maxUnsigned]
  omega

private theorem range_in_words (fits : Fits pagination) :
    rangeInWords? (pagination.start.getD 0) pagination.stop pagination.limit =
      some (Bounds.ofRange pagination.start pagination.stop pagination.limit).cut := by
  have start : Intent.IsWord (pagination.start.getD 0) := by
    cases asked : pagination.start with
    | none => decide
    | some value => exact fits.start value asked
  cases stop : pagination.stop with
  | some last =>
    have word := fits.stop last stop
    simp only [rangeInWords?, signed?_eq start, signed?_eq word, unsigned?_word start,
      unsigned?_word word, Option.bind_eq_bind, Option.bind_some, Option.map_some, Option.pure_def,
      Bounds.ofRange, Bounds.cut, max_joined]
    rw [max_comm 0]
  | none =>
    cases limit : pagination.limit with
    | none =>
      simp only [rangeInWords?, signed?_eq start, unsigned?_word start, Option.bind_eq_bind,
        Option.bind_some, Option.map_none, Option.pure_def, Bounds.ofRange, Bounds.cut]
      rw [max_comm 0]
    | some count =>
      have word := fits.limit count limit
      have sum := isWord_saturate (pagination.start.getD 0 + max count 0)
      simp only [rangeInWords?, signed?_eq start, signed?_eq word, unsigned?_word start,
        unsigned?_word sum, Option.bind_eq_bind, Option.bind_some, Option.map_some, Option.pure_def,
        Bounds.ofRange, Bounds.cut, max_joined, cut_saturate (Int.le_max_left _ _)]
      rw [max_comm 0 count, max_comm 0]

private theorem in_words (fits : Fits pagination) :
    inWords? pagination = some (.ofWindow (Window.ofPagination pagination)) := by
  unfold inWords?
  split
  next ranged => rw [range_in_words fits, window_of_range ranged]
  next paged => rw [page_in_words fits, window_of_page fits (by simpa using paged)]

private theorem isRange_parse (pairs : List (String × String)) :
    (Intent.parse (.ofPairs pairs)).pagination.isRange = false ↔
      number? pairs "_start" = none ∧ number? pairs "_end" = none ∧ number? pairs "_limit" = none := by
  simp [pagination_parse, Pagination.isRange, and_assoc]

end

def paginationOf (pairs : List (String × String)) : Pagination :=
  (Intent.parse (.ofPairs pairs)).pagination

/-- The window of a request is the one that whole numbers of any size give, without what is beyond the
signed words; from the bounds that are asked for to those of the window no step leaves the words. Pages
are counted from one and have at most a hundred rows, and no window ends before it starts. -/
theorem windows_are_exact (pairs : List (String × String)) :
    (1 ≤ (paginationOf pairs).page ∧ 1 ≤ (paginationOf pairs).perPage ∧
      (paginationOf pairs).perPage ≤ 100) ∧
    .ofWindow (Window.ofPagination (paginationOf pairs)) =
      (Bounds.requested (number? pairs "_start") (number? pairs "_end") (number? pairs "_limit")
        (paginationOf pairs).page (paginationOf pairs).perPage).cut ∧
    inWords? (paginationOf pairs) = some (.ofWindow (Window.ofPagination (paginationOf pairs))) ∧
    (Window.ofPagination (paginationOf pairs)).start ≤ Window.maxOffset ∧
    ∀ stop ∈ (Window.ofPagination (paginationOf pairs)).stop,
      (Window.ofPagination (paginationOf pairs)).start ≤ stop ∧ stop ≤ Window.maxOffset := by
  have fits : Fits (paginationOf pairs) := fits_parse pairs
  refine ⟨⟨fits.page.1, fits.perPage⟩, ?_, in_words fits,
    Window.ofPagination_ordered (paginationOf pairs)⟩
  unfold Bounds.requested
  split
  next unbounded => exact window_of_page fits ((isRange_parse pairs).mpr unbounded)
  next bounded =>
    have ranged : (paginationOf pairs).isRange = true := by
      rw [← Bool.not_eq_false]
      exact mt (isRange_parse pairs).mp bounded
    have asked : paginationOf pairs = _ := pagination_parse pairs
    rw [window_of_range ranged]
    simp only [asked]

end ResourceQuery.Proofs.ExactWindows
