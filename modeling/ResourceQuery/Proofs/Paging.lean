import ResourceQuery.Http.Response
import ResourceQuery.Proofs.LinkReading
import ResourceQuery.Proofs.MemoryAnswers
import ResourceQuery.Proofs.RepeatedKeys
import ResourceQuery.Proofs.SortedRows

/-! Pages cover a list. A client that follows the links to the next page sees every page once, and the
rows of these pages, one after the other, are the rows that the filters leave, in their order. -/

namespace ResourceQuery.Proofs.Paging
open Http LinkReading MemoryAnswers RepeatedKeys SortedRows StableSorts

/-- The pairs of a request for another page of the same list. -/
def atPage (pairs : List (String × String)) (page : Nat) : List (String × String) :=
  pairs.filter (·.1 ≠ "_page") ++ [("_page", Number.integerText page)]

private theorem unpaged_atPage (pairs : List (String × String)) (page : Nat) :
    unpaged (atPage pairs page) = unpaged pairs := by
  have paging : "_page" ∈ pageKeys := by decide
  have added : unpaged [("_page", Number.integerText page)] = [] := by simp [unpaged, paging]
  rw [unpaged, atPage, List.filter_append]
  refine (congrArg _ added).trans ?_
  rw [List.append_nil, List.filter_filter]
  apply List.filter_congr
  intro pair _
  by_cases same : pair.1 = "_page" <;> simp [same, paging]

private theorem valuesOf_atPage {key : String} (other : key ≠ "_page") (pairs : List (String × String))
    (page : Nat) : valuesOf (atPage pairs page) key = valuesOf pairs key := by
  rw [atPage, valuesOf_concat_other _ _ other, valuesOf, List.filter_filter]
  congr 1
  apply List.filter_congr
  intro pair _
  by_cases same : pair.1 = key <;> simp [same, other]

private theorem parse_atPage (pairs : List (String × String)) {page : Nat} (first : 1 ≤ page)
    (word : (page : Int) ≤ Intent.maxWord) :
    Intent.parse (.ofPairs (atPage pairs page)) =
      { Intent.parse (.ofPairs pairs) with
        pagination := { (Intent.parse (.ofPairs pairs)).pagination with page } } := by
  have read : Intent.coerceInteger (Number.integerText page) = some (page : Int) := by
    apply Numerals.coerceInteger_integerText
    constructor
    · simp only [Intent.minWord]
      omega
    · exact word
  have asked : (Intent.parse (.ofPairs (atPage pairs page))).pagination.page = page := by
    have values : valuesOf (atPage pairs page) "_page" = [Number.integerText page] := by
      rw [atPage, valuesOf_concat_same]
      simp [valuesOf]
    have clamped : (max (page : Int) 1).toNat = page := by omega
    simp [pagination_parse, number?, values, read, clamped]
  have perPage : (Intent.parse (.ofPairs (atPage pairs page))).pagination.perPage =
      (Intent.parse (.ofPairs pairs)).pagination.perPage := by
    have values := valuesOf_atPage (show "_per_page" ≠ "_page" by decide) pairs page
    simp only [pagination_parse, number?, values]
  have same := parse_of_unpaged_eq (unpaged_atPage pairs page).symm
  simp only [asked, perPage] at same
  exact same

def pageOf (rows : List Row) (perPage page : Nat) : List Row :=
  (rows.drop ((page - 1) * perPage)).take perPage

private theorem take_page {rows : List Row} (few : rows.length ≤ Window.maxOffset)
    {pagination : Pagination} (paged : pagination.isRange = false) (small : pagination.perPage ≤ 100) :
    (Window.ofPagination pagination).take rows = pageOf rows pagination.perPage pagination.page := by
  simp only [Window.ofPagination, paged, Bool.false_eq_true, ↓reduceIte, Window.take, Window.limit,
    Option.map_some, Window.capped, pageOf]
  generalize (pagination.page - 1) * pagination.perPage = start
  have offset : Window.maxOffset = 2 ^ 63 - 1 := rfl
  have unsigned : Window.maxUnsigned = 2 ^ 64 - 1 := rfl
  by_cases inside : start ≤ rows.length
  · have kept : min (min start Window.maxUnsigned) Window.maxOffset = start := by omega
    have fits : (rows.drop start).length ≤ Window.maxOffset - start := by
      rw [List.length_drop]
      omega
    rw [kept]
    by_cases room : pagination.perPage ≤ Window.maxOffset - start
    · congr 1
      omega
    · rw [List.take_of_length_le (by omega), List.take_of_length_le (by omega)]
  · rw [List.drop_eq_nil_of_le (by omega), List.drop_eq_nil_of_le (by omega), List.take_nil,
      List.take_nil]

theorem page_pos (parameters : Parameters) : 1 ≤ (Intent.parse parameters).pagination.page := by
  simp only [Intent.parse, Intent.parsePagination]
  generalize (Option.bind (parameters.get? "_page") _ : Option Int) = asked
  cases asked with
  | none => exact Nat.le_refl 1
  | some value =>
    simp only [Option.map_some, Option.getD_some]
    omega

theorem perPage_bounds (parameters : Parameters) :
    1 ≤ (Intent.parse parameters).pagination.perPage ∧
      (Intent.parse parameters).pagination.perPage ≤ 100 := by
  simp only [Intent.parse, Intent.parsePagination, Intent.maxPerPage]
  generalize (Option.bind (parameters.get? "_per_page") _ : Option Int) = asked
  cases asked with
  | none => decide
  | some value =>
    simp only [Option.map_some, Option.getD_some]
    omega

private theorem le_lastPage_mul (total : Nat) {perPage : Nat} (positive : 1 ≤ perPage) :
    total ≤ lastPage total perPage * perPage := by
  simp only [lastPage, Nat.ne_of_gt positive, ↓reduceIte]
  have reached := Nat.lt_mul_div_succ (total + perPage - 1) positive
  rw [Nat.mul_add, Nat.mul_one, Nat.mul_comm] at reached
  have covered : total ≤ (total + perPage - 1) / perPage * perPage := by omega
  exact Nat.le_trans covered (Nat.mul_le_mul_right perPage (Nat.le_max_left _ 1))

private theorem lt_of_lt_lastPage {page total perPage : Nat} (positive : 1 ≤ perPage) (first : 1 ≤ page)
    (before : page < lastPage total perPage) : page * perPage < total := by
  simp only [lastPage, Nat.ne_of_gt positive, ↓reduceIte] at before
  have divided : page + 1 ≤ (total + perPage - 1) / perPage := by omega
  have multiplied := (Nat.le_div_iff_mul_le positive).mp divided
  rw [Nat.add_mul] at multiplied
  omega

theorem lastPage_le (total : Nat) {perPage : Nat} (positive : 1 ≤ perPage) :
    lastPage total perPage ≤ max total 1 := by
  by_contra beyond
  have before : lastPage total perPage - 1 < lastPage total perPage := by omega
  have reached := lt_of_lt_lastPage positive (by omega) before
  have grown := Nat.le_mul_of_pos_right (lastPage total perPage - 1) positive
  omega

private theorem one_le_lastPage (total perPage : Nat) : 1 ≤ lastPage total perPage := by
  rw [lastPage]
  split <;> omega

section Pages

variable {rows : List Row} {perPage page : Nat}

private theorem flatMap_pageOf (rows : List Row) (perPage count : Nat) :
    (List.range' 1 count).flatMap (pageOf rows perPage) = rows.take (count * perPage) := by
  induction count with
  | zero => simp
  | succ count ih =>
    rw [List.range'_1_concat, List.flatMap_append, ih, Nat.succ_mul, List.take_add,
      List.flatMap_singleton, pageOf, Nat.add_sub_cancel_left]

/-- The pages up to the last one hold all rows. -/
theorem flatMap_pages (positive : 1 ≤ perPage) :
    (List.range' 1 (lastPage rows.length perPage)).flatMap (pageOf rows perPage) = rows := by
  rw [flatMap_pageOf, List.take_of_length_le (le_lastPage_mul rows.length positive)]

/-- Every page before the last one is full. -/
theorem length_pageOf (positive : 1 ≤ perPage) (first : 1 ≤ page)
    (before : page < lastPage rows.length perPage) : (pageOf rows perPage page).length = perPage := by
  have left := lt_of_lt_lastPage positive first before
  obtain ⟨earlier, rfl⟩ := Nat.exists_eq_add_of_le' first
  rw [Nat.add_mul] at left
  rw [pageOf, List.length_take, List.length_drop, Nat.add_sub_cancel]
  omega

theorem pageOf_beyond (positive : 1 ≤ perPage) (beyond : lastPage rows.length perPage < page) :
    pageOf rows perPage page = [] := by
  have covered := le_lastPage_mul rows.length positive
  have skipped : lastPage rows.length perPage * perPage ≤ (page - 1) * perPage :=
    Nat.mul_le_mul_right _ (by omega)
  rw [pageOf, List.drop_eq_nil_of_le (by omega), List.take_nil]

end Pages

/-- Moving from a page to the next one that it names, for as long as it names one. -/
inductive Visits (next : Nat → Option Nat) : Nat → List Nat → Prop where
  | stops {page : Nat} (ended : next page = none) : Visits next page [page]
  | moves {page following : Nat} {others : List Nat} (named : next page = some following)
      (onward : Visits next following others) : Visits next page (page :: others)

/-- When pages before the last one name their successors, one visits all pages from the first one
on, and cannot visit any others. -/
private theorem visits_iff {next : Nat → Option Nat} {last : Nat}
    (names : ∀ page, 1 ≤ page → page ≤ last → next page = if page < last then some (page + 1) else none)
    {page : Nat} (first : 1 ≤ page) (inside : page ≤ last) (pages : List Nat) :
    Visits next page pages ↔ pages = List.range' page (last + 1 - page) := by
  induction h : last - page generalizing page pages with
  | zero =>
    obtain rfl : page = last := by omega
    have ended : next page = none := by simp [names page first inside]
    have single : page + 1 - page = 1 := by omega
    rw [single, List.range'_one]
    constructor
    · intro visits
      cases visits with
      | stops => rfl
      | moves named => rw [ended] at named; cases named
    · rintro rfl
      exact .stops ended
  | succ left ih =>
    have named : next page = some (page + 1) := by
      rw [names page first inside, if_pos (by omega)]
    have size : last + 1 - page = (last + 1 - (page + 1)) + 1 := by omega
    rw [size, List.range'_succ]
    constructor
    · intro visits
      cases visits with
      | stops ended => rw [named] at ended; cases ended
      | moves named' onward =>
        rw [named] at named'
        cases named'
        rw [(ih (by omega) (by omega) _ (by omega)).mp onward]
    · rintro rfl
      exact .moves named ((ih (by omega) (by omega) _ (by omega)).mpr rfl)

private theorem lookup_linkedPages (page last : Nat) :
    (linkedPages page last).lookup "next" = (if page < last then some (page + 1) else none) ∧
      (linkedPages page last).lookup "last" = some last := by
  simp only [linkedPages]
  split <;> split <;> simp [List.lookup_cons]

section Walk

variable (sort : RowSort Option) (service : Service) (memory : Memory) (resource : String) (table : Table)
  (target : Target) (pairs : List (String × String))

def linksAt (page : Nat) : Option String :=
  match resultBy sort memory (service.list resource (.ofPairs (atPage pairs page))) with
  | some (.ok listed) => listLink target.path target.query listed.mode listed.total
  | _ => none

def linkedFrom (name : String) (page : Nat) : Option Nat :=
  (linksAt sort service memory resource target pairs page).bind (namedPage? name)

def rowsAt (page : Nat) : Option (List Row) :=
  memory.answerBy sort
    (.fetch table (Plan.ofIntent table (.parse (.ofPairs (atPage pairs page)))).retrieval)

/-- The rows without a window. -/
def allRows : Option (List Row) :=
  memory.answerBy sort (.fetch table
    { (Plan.ofIntent table (.parse (.ofPairs pairs))).retrieval with window := .unbounded })

variable {sort service memory resource table target pairs} {all : List Row}

private theorem allRows_eq :
    allRows sort memory table pairs =
      sortBy sort (Plan.ofIntent table (.parse (.ofPairs pairs))).retrieval.sort
        (memory.filtered table (Plan.ofIntent table (.parse (.ofPairs pairs))).retrieval.predicates) := by
  rw [allRows, answerBy_fetch]
  exact Option.map_id'

private theorem allRows_perm (stable : Stable sort) (ended : allRows sort memory table pairs = some all) :
    all.Perm (memory.filtered table
      (Plan.ofIntent table (.parse (.ofPairs pairs))).retrieval.predicates) :=
  sortBy_perm stable (allRows_eq.symm.trans ended)

private theorem length_all_le (stable : Stable sort) (ended : allRows sort memory table pairs = some all) :
    all.length ≤ (memory.rows table).length := by
  rw [(allRows_perm stable ended).length_eq]
  exact List.length_filter_le _ _

private theorem isRange_eq_false {pagination : Pagination} {asked perPage : Nat}
    (paged : Plan.modeOf pagination = .page asked perPage) :
    pagination.isRange = false ∧ pagination.perPage = perPage := by
  unfold Plan.modeOf at paged
  split at paged
  next => cases paged
  next paging => cases paged; exact ⟨by simpa using paging, rfl⟩

private theorem rowsAt_eq {page perPage asked : Nat} (stable : Stable sort)
    (ended : allRows sort memory table pairs = some all)
    (few : (memory.rows table).length ≤ Window.maxOffset)
    (paged : Plan.modeOf (Intent.parse (.ofPairs pairs)).pagination = .page asked perPage)
    (first : 1 ≤ page) (word : (page : Int) ≤ Intent.maxWord) :
    rowsAt sort memory table pairs page = some (pageOf all perPage page) := by
  obtain ⟨paging, rfl⟩ := isRange_eq_false paged
  have fewer := Nat.le_trans (length_all_le stable ended) few
  rw [rowsAt, parse_atPage pairs first word]
  let pagination := { (Intent.parse (.ofPairs pairs)).pagination with page }
  have still : pagination.isRange = false := paging
  have taken := take_page fewer still (perPage_bounds _).2
  rw [answerBy_fetch, ← taken]
  exact congrArg (Option.map _) (allRows_eq.symm.trans ended)

private theorem linksAt_eq {page perPage asked : Nat} (stable : Stable sort)
    (found : service.catalog.table? resource = some table)
    (ended : allRows sort memory table pairs = some all)
    (paged : Plan.modeOf (Intent.parse (.ofPairs pairs)).pagination = .page asked perPage)
    (first : 1 ≤ page) (word : (page : Int) ≤ Intent.maxWord) :
    linksAt sort service memory resource target pairs page =
      some (linkText target.path (target.query.getD "") page perPage all.length) := by
  obtain ⟨paging, rfl⟩ := isRange_eq_false paged
  have mode : Plan.modeOf { (Intent.parse (.ofPairs pairs)).pagination with page } =
      .page page (Intent.parse (.ofPairs pairs)).pagination.perPage := by
    have still : { (Intent.parse (.ofPairs pairs)).pagination with page }.isRange = false := paging
    simp [Plan.modeOf, still]
  have sorts := allRows_eq.symm.trans ended
  rw [(allRows_perm stable ended).length_eq, linksAt, resultBy_list sort service memory found,
    parse_atPage pairs first word]
  simp only [Plan.ofIntent] at sorts ⊢
  rw [sorts]
  simp only [Option.map_some, mode, listLink]

private theorem linkedFrom_eq {address name : String} {page perPage asked : Nat} (stable : Stable sort)
    (found : service.catalog.table? resource = some table)
    (ended : allRows sort memory table pairs = some all) (few : all.length ≤ Window.maxOffset)
    (paged : Plan.modeOf (Intent.parse (.ofPairs pairs)).pagination = .page asked perPage)
    (read : Target.parse? address = some target) (first : 1 ≤ page)
    (inside : page ≤ lastPage all.length perPage) :
    linkedFrom sort service memory resource target pairs name page =
      (linkedPages page (lastPage all.length perPage)).lookup name := by
  have positive : 1 ≤ perPage := (isRange_eq_false paged).2 ▸ (perPage_bounds _).1
  have bounded := lastPage_le all.length positive
  have word : (page : Int) ≤ Intent.maxWord := by
    have offset : Window.maxOffset = 2 ^ 63 - 1 := rfl
    rw [Intent.maxWord]
    omega
  rw [linkedFrom, linksAt_eq stable found ended paged first word, Option.bind_some,
    namedPage?_linkText (readable_of_parse? read)]

/-- A client that goes from the first page to the page that the link to the next one names, for as
long as there is one, sees exactly the pages up to the one that is named as the last. Their rows, one
after the other, are all rows that the filters leave, in order; every page but the last is full, and
there is nothing behind the last. There is an answer whenever the sort does not give up, so at least if the
fields that it sorts by, if any, put these rows in a total preorder. -/
theorem pages_cover_list {sort : RowSort Option} (stable : Stable sort) {service : Service}
    {memory : Memory} {resource : String} {table : Table} {address : String} {target : Target}
    {pairs : List (String × String)} {asked perPage : Nat}
    (found : service.catalog.table? resource = some table)
    (few : (memory.rows table).length ≤ Window.maxOffset)
    (paged : Plan.modeOf (Intent.parse (.ofPairs pairs)).pagination = .page asked perPage)
    (read : Target.parse? address = some target) :
    let retrieval := (Plan.ofIntent table (.parse (.ofPairs pairs))).retrieval
    let kept := memory.filtered table retrieval.predicates
    let answer := resultBy sort memory (service.list resource (.ofPairs pairs))
    (answer.isSome ↔ (allRows sort memory table pairs).isSome) ∧
    (Coherent (SortField.orderAll retrieval.sort) kept →
      answer.isSome ∧ allRows sort memory table pairs = some (sortRows retrieval.sort kept)) ∧
    ∀ result, answer = some result →
      ∃ listed all, ∃ rows : Nat → List Row,
        result = .ok listed ∧ listed.total = kept.length ∧
        allRows sort memory table pairs = some all ∧ all.Perm kept ∧
        (∀ page : Nat, 1 ≤ page → (page : Int) ≤ Intent.maxWord →
          rowsAt sort memory table pairs page = some (rows page)) ∧
        let last := lastPage listed.total perPage
        let linked := linkedFrom sort service memory resource target pairs
        (∀ pages, Visits (linked "next") 1 pages ↔ pages = List.range' 1 last) ∧
        (∀ page, 1 ≤ page → page ≤ last → linked "last" page = some last) ∧
        (List.range' 1 last).flatMap rows = all ∧
        (∀ page, 1 ≤ page → page < last → (rows page).length = perPage) ∧
        (∀ page : Nat, last < page → (page : Int) ≤ Intent.maxWord → rows page = []) := by
  intro retrieval kept answer
  have positive : 1 ≤ perPage := (isRange_eq_false paged).2 ▸ (perPage_bounds _).1
  refine ⟨?_, fun coherent => ?_, fun result answered => ?_⟩
  · rw [allRows_eq]
    exact isSome_list_iff sort found
  · exact ⟨isSome_list stable found coherent, allRows_eq.trans (sortBy_eq stable coherent)⟩
  obtain ⟨listed, all, rfl, sorts, total, -, -⟩ := list_of_resultBy found answered
  have ended : allRows sort memory table pairs = some all := allRows_eq.trans sorts
  have perm := allRows_perm stable ended
  have fewer := Nat.le_trans (length_all_le stable ended) few
  refine ⟨listed, all, pageOf all perPage, rfl, total, ended, perm,
    fun page first word => rowsAt_eq stable ended few paged first word, ?_⟩
  rw [total, ← perm.length_eq]
  have linked {page : Nat} (first : 1 ≤ page) (inside : page ≤ lastPage all.length perPage)
      (name : String) : linkedFrom sort service memory resource target pairs name page =
        (linkedPages page (lastPage all.length perPage)).lookup name :=
    linkedFrom_eq stable found ended fewer paged read first inside
  refine ⟨?_, ?_, flatMap_pages positive, fun page => length_pageOf positive,
    fun page beyond _ => pageOf_beyond positive beyond⟩
  · have names : ∀ page, 1 ≤ page → page ≤ lastPage all.length perPage →
        linkedFrom sort service memory resource target pairs "next" page =
          if page < lastPage all.length perPage then some (page + 1) else none := by
      intro page first inside
      rw [linked first inside, (lookup_linkedPages page _).1]
    exact visits_iff names (Nat.le_refl 1) (one_le_lastPage all.length perPage)
  · intro page first inside
    rw [linked first inside, (lookup_linkedPages page _).2]

end Walk

theorem sums_on_two_pages :
    let sums : Table :=
      ⟨"sums", "sums", [⟨"id", .integer, false, true, none⟩, ⟨"paid", .integer, true, false, none⟩],
        "id", []⟩
    let service : Service := ⟨⟨[sums]⟩, .regular⟩
    let memory : Memory := ⟨[("sums", [[("id", .ofInt 1), ("paid", .ofInt 30)],
      [("id", .ofInt 2), ("paid", .null)], [("id", .ofInt 3), ("paid", .ofInt 10)],
      [("id", .ofInt 4), ("paid", .ofInt 20)]])]⟩
    let pairs := [("_per_page", "2"), ("_sort", "paid"), ("_page", "9"), ("paid_gte", "1")]
    Stable insertion ∧ (memory.rows sums).length ≤ Window.maxOffset ∧
      Plan.modeOf (Intent.parse (.ofPairs pairs)).pagination = .page 9 2 ∧
      ∃ target, Target.parse? "/sums?_per_page=2&_sort=paid&_page=9&paid_gte=1" = some target ∧
        ∃ listed, resultBy insertion memory (service.list "sums" (.ofPairs pairs)) = some (.ok listed) ∧
          ∀ pages, Visits (linkedFrom insertion service memory "sums" target pairs "next") 1 pages ↔
            pages = List.range' 1 (lastPage listed.total 2) := by
  intro sums service memory pairs
  have found : service.catalog.table? "sums" = some sums := by decide
  have few : (memory.rows sums).length ≤ Window.maxOffset := by decide
  have paged : Plan.modeOf (Intent.parse (.ofPairs pairs)).pagination = .page 9 2 := by
    decide +kernel
  have read : (Target.parse? "/sums?_per_page=2&_sort=paid&_page=9&paid_gte=1").isSome := by
    decide +kernel
  obtain ⟨target, read⟩ := Option.isSome_iff_exists.mp read
  obtain ⟨-, answers, pages⟩ := pages_cover_list stable_insertion found few paged read
  have free : ∀ field ∈ (Plan.ofIntent sums (.parse (.ofPairs pairs))).retrieval.sort,
      CircleFree field.column (memory.filtered sums
        (Plan.ofIntent sums (.parse (.ofPairs pairs))).retrieval.predicates) := by
    decide +kernel
  obtain ⟨result, answered⟩ := Option.isSome_iff_exists.mp (answers (coherent_orderAll free)).1
  obtain ⟨listed, all, rows, rfl, -, -, -, -, visits, -⟩ := pages result answered
  exact ⟨stable_insertion, few, paged, target, read, listed, answered, visits⟩

end ResourceQuery.Proofs.Paging
