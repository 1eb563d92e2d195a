import ResourceQuery.Proofs.RepeatedKeys
import ResourceQuery.Proofs.RequestCalls

/-! Responses mirror what the store answered. Whatever a store does, the status of a response tells whether
a call failed, and whether something was missing; only a list that was found carries its total and
its links. -/

namespace ResourceQuery.Proofs.HttpOutcomes
open Http RepeatedKeys RequestCalls StoreRuns

def served (service : Service) (store : Answering) (target : Target) : Response × List Call :=
  Http.answer service (recording store) "GET" target []

def pairsOf (target : Target) : List (String × String) :=
  decodeQuery (target.query.getD "")

def errorBody (code message : String) : String :=
  (Json.object [("error", .object [("code", .string code), ("message", .string message)])]).text

/-- A response tells by its status how the calls for it went, and whether something is missing. If it
does not show what was asked for, it has an error for a body and neither of the headers of a list. -/
structure Mirrors (store : Answering) (calls : List Call) (missing : Prop) (response : Response) :
    Prop where
  failed : response.status = 500 ↔ ¬ Answered store calls
  missed : response.status = 404 ↔ Answered store calls ∧ missing
  found : response.status = 200 ↔ Answered store calls ∧ ¬ missing
  bare : response.status ≠ 200 → (∃ code message, response.body = errorBody code message) ∧
    response.totalCount = none ∧ response.link = none

section

variable {store : Answering} {Found : Type}

private theorem mirrors_of_run (respond : Except StoreFailure (Except NotFound Found) → Response)
    {program : Program (Except NotFound Found)} {missing : Prop}
    (told : ∀ result, (observe store [] program).1 = .ok result →
      (missing ↔ ∃ what, result = .error what))
    (found : ∀ result, (respond (.ok (.ok result))).status = 200)
    (missed : ∀ what, respond (.ok (.error what)) = .notFound what)
    (failed : ∀ failure, respond (.error failure) = .storeFailure failure) :
    Mirrors store (observe store [] program).2 missing (respond (observe store [] program).1) := by
  have answered := answered_iff store program
  revert told answered
  rcases observe store [] program with ⟨failure | what | result, calls⟩
  · intro told answered
    have unanswered : ¬ Answered store calls := by simp [answered]
    have status : (Response.storeFailure failure).status = 500 := rfl
    simp only [failed]
    exact ⟨by simp [status, unanswered], by simp [status, unanswered], by simp [status, unanswered],
      fun _ => ⟨⟨_, _, rfl⟩, rfl, rfl⟩⟩
  · intro told answered
    have answers : Answered store calls := answered.mpr ⟨_, rfl⟩
    have gone : missing := (told _ rfl).mpr ⟨_, rfl⟩
    have status : (Response.notFound what).status = 404 := rfl
    simp only [missed]
    exact ⟨by simp [status, answers], by simp [status, answers, gone], by simp [status, gone],
      fun _ => ⟨⟨_, _, rfl⟩, rfl, rfl⟩⟩
  · intro told answered
    have answers : Answered store calls := answered.mpr ⟨_, rfl⟩
    have there : ¬ missing := by simp [told _ rfl]
    have status := found result
    exact ⟨by simp [status, answers], by simp [status, there], by simp [status, answers, there],
      fun other => absurd status other⟩

end

section

variable {segment second : String}

private theorem ofPath?_list (clean : '/' ∉ segment.toList)
    (free : segment ∉ ["", "health", "ready", "version"]) :
    Route.ofPath? ("/" ++ segment) = some (.list segment) := by
  have split : Text.split '/' (Text.join "/" ["", segment]) = ["", segment] :=
    split_join rfl (by simpa using clean) (by simp)
  have joined : Text.join "/" ["", segment] = "/" ++ segment := by simp [Text.join]
  simp only [List.mem_cons, List.not_mem_nil, or_false, not_or] at free
  obtain ⟨some, health, ready, version⟩ := free
  rw [joined] at split
  simp [Route.ofPath?, split, some]

private theorem ofPath?_read (clean : '/' ∉ segment.toList) (clean' : '/' ∉ second.toList)
    (some : second ≠ "") :
    Route.ofPath? ("/" ++ segment ++ "/" ++ second) = .some (.read segment second) := by
  have split : Text.split '/' (Text.join "/" ["", segment, second]) = ["", segment, second] :=
    split_join rfl (by simp [clean, clean']) (by simp)
  have joined : Text.join "/" ["", segment, second] = "/" ++ segment ++ "/" ++ second := by
    simp [Text.join, ← String.toList_inj]
  rw [joined] at split
  simp only [Route.ofPath?, split, if_neg some]

end

section

variable {service : Service} {store : Answering} {target : Target} {resource : String}

private theorem served_list {segment : String} (route : Route.ofPath? target.path = some (.list segment))
    (decoded : decodeSegment? segment = some resource) :
    served service store target =
      let run := observe store [] (service.list resource (.ofPairs (pairsOf target)))
      (listResponse target run.1, run.2) := by
  simp only [served, Http.answer, route, if_pos, answerRoute, decoded]
  rfl

private theorem served_read {first second id : String}
    (route : Route.ofPath? target.path = some (.read first second))
    (decoded : decodeSegment? first = some resource) (decoded' : decodeSegment? second = some id) :
    served service store target =
      let run := observe store [] (service.read resource id (.ofPairs (pairsOf target)))
      (readResponse run.1, run.2) := by
  simp only [served, Http.answer, route, if_pos, answerRoute, decoded, decoded']
  rfl

private theorem served_ready (route : Route.ofPath? target.path = some .ready) :
    served service store target =
      let run := observe store [] Program.ping
      (readyResponse service.catalog.tables.length run.1, run.2) := by
  simp only [served, Http.answer, route, if_pos, answerRoute]
  rfl

private theorem list_missing (parameters : Parameters) :
    ∀ result, (observe store [] (service.list resource parameters)).1 = .ok result →
      (service.catalog.table? resource = none ↔ ∃ what, result = .error what) := by
  intro result ended
  cases found : service.catalog.table? resource with
  | none =>
    simp only [Service.list, found] at ended
    cases ended
    simp
  | some table =>
    obtain ⟨listed, rfl⟩ := (list_follows store service resource parameters found).listed store ended
    simp

/-- What a read misses: the resource, or the row with the key. -/
def Missed (service : Service) (store : Answering) (resource id : String) (calls : List Call) : Prop :=
  service.catalog.table? resource = none ∨
    ∃ table, service.catalog.table? resource = some table ∧
      calls = [.fetch table (Service.retrievalOf table id)] ∧
      store [] (.fetch table (Service.retrievalOf table id)) = .ok []

private theorem read_missing (id : String) (parameters : Parameters) :
    let run := observe store [] (service.read resource id parameters)
    ∀ result, run.1 = .ok result →
      (Missed service store resource id run.2 ↔ ∃ what, result = .error what) := by
  intro run result ended
  cases found : service.catalog.table? resource with
  | none =>
    simp only [run, Service.read, found] at ended
    cases ended
    simp [Missed, found]
  | some table =>
    have follows : ReadFollows store service table resource id parameters run :=
      read_follows store service resource id parameters found
    simp only [ReadFollows] at follows
    split at follows
    next =>
      rw [follows] at ended
      cases ended
    next heard =>
      rw [follows] at ended ⊢
      cases ended
      exact ⟨fun _ => ⟨_, rfl⟩, fun _ => .inr ⟨table, found, rfl, heard⟩⟩
    next rows some heard =>
      obtain ⟨row, rfl⟩ := follows.reached ended
      have present : ¬ Missed service store resource id run.2 := by
        rintro (unknown | ⟨other, known, -, none⟩)
        · rw [found] at unknown
          cases unknown
        · obtain rfl : table = other := Option.some.inj (found.symm.trans known)
          exact some (Except.ok.inj (heard.symm.trans none))
      simp [present]

private theorem observe_fetch (store : Answering) (made : List Call) (table : Table) (retrieval : Retrieval) :
    observe store made (Program.fetch table retrieval) =
      (store made (.fetch table retrieval), made ++ [.fetch table retrieval]) :=
  observe_call store made _

private theorem observe_count (store : Answering) (made : List Call) (table : Table)
    (predicates : List Predicate) :
    observe store made (Program.count table predicates) =
      (store made (.count table predicates), made ++ [.count table predicates]) :=
  observe_call store made _

private theorem list_ended {parameters : Parameters} {result : ListResult}
    (ended : (observe store [] (service.list resource parameters)).1 = .ok (.ok result)) :
    ∃ table rest, service.catalog.table? resource = some table ∧
      let plan := Plan.ofIntent table (.parse parameters)
      (observe store [] (service.list resource parameters)).2 =
          .fetch table plan.retrieval :: .count table plan.countPredicates :: rest ∧
        store [.fetch table plan.retrieval] (.count table plan.countPredicates) = .ok result.total ∧
        result.mode = plan.mode := by
  cases found : service.catalog.table? resource with
  | none =>
    simp only [Service.list, found] at ended
    cases ended
  | some table =>
    simp only [Service.list, found] at ended ⊢
    obtain ⟨fetched, -, fetching⟩ := bind_ended ended
    rw [fetching] at ended ⊢
    obtain ⟨total, counted, counting⟩ := bind_ended ended
    rw [counting] at ended ⊢
    obtain ⟨rows, -, attaching⟩ := bind_ended ended
    rw [attaching] at ended ⊢
    rw [observe_fetch, observe_count] at counted
    rw [observe_fetch, observe_count, observe_pure] at ended ⊢
    cases ended
    obtain ⟨rest, calls⟩ := prefix_observe store _
      (Embed.resolve service.catalog service.naming table fetched (Intent.parse parameters).embed)
    exact ⟨table, rest, rfl, calls.symm, counted, rfl⟩

end

/-- A request for the rows of a resource: one segment that is no fixed route, and decodes to the name of
the resource. -/
def AsksFor (target : Target) (resource : String) : Prop :=
  ∃ segment, target.path = "/" ++ segment ∧ '/' ∉ segment.toList ∧
    segment ∉ ["", "health", "ready", "version"] ∧ decodeSegment? segment = some resource

/-- A request for one row: two segments, which decode to the name of the resource and the key. -/
def AsksForRow (target : Target) (resource id : String) : Prop :=
  ∃ first second, target.path = "/" ++ first ++ "/" ++ second ∧ '/' ∉ first.toList ∧
    '/' ∉ second.toList ∧ second ≠ "" ∧ decodeSegment? first = some resource ∧
    decodeSegment? second = some id

def rangeKeys : List String := ["_start", "_end", "_limit"]

def pageLinks (target : Target) (total : Nat) : String :=
  let asked := (Intent.parse (.ofPairs (pairsOf target))).pagination
  linkText target.path (target.query.getD "") asked.page asked.perPage total

/-- The headers of a list: the total that the store counted, whatever rows it gave, and the links of a
page unless a range was asked for or they are no legal header. -/
def Headed (service : Service) (store : Answering) (target : Target) (resource : String)
    (response : Response) (calls : List Call) : Prop :=
  ∃ table total rest, service.catalog.table? resource = some table ∧
    let plan := Plan.ofIntent table (.parse (.ofPairs (pairsOf target)))
    calls = .fetch table plan.retrieval :: .count table plan.countPredicates :: rest ∧
      store [.fetch table plan.retrieval] (.count table plan.countPredicates) = .ok total ∧
      response.totalCount = some total ∧
      response.link =
        if (∀ key ∈ rangeKeys, number? (pairsOf target) key = none) ∧ isHeaderValue (pageLinks target total)
        then some (pageLinks target total) else none

private theorem paged_iff (pairs : List (String × String)) :
    (Intent.parse (.ofPairs pairs)).pagination.isRange = false ↔
      ∀ key ∈ rangeKeys, number? pairs key = none := by
  rw [pagination_parse]
  simp [Pagination.isRange, rangeKeys, and_assoc]

section

variable {service : Service} {store : Answering} {target : Target} {resource : String}

private theorem link_of_mode (total : Nat) :
    (listLink target.path target.query
        (Plan.modeOf (Intent.parse (.ofPairs (pairsOf target))).pagination) total).filter isHeaderValue =
      if (∀ key ∈ rangeKeys, number? (pairsOf target) key = none) ∧ isHeaderValue (pageLinks target total)
      then some (pageLinks target total) else none := by
  have paged := paged_iff (pairsOf target)
  rw [Plan.modeOf]
  cases range : (Intent.parse (.ofPairs (pairsOf target))).pagination.isRange with
  | true =>
    rw [range] at paged
    have other : ¬ ∀ key ∈ rangeKeys, number? (pairsOf target) key = none :=
      fun none => Bool.noConfusion (paged.mpr none)
    rw [if_neg (not_and_of_not_left _ other)]
    rfl
  | false =>
    rw [if_congr (and_iff_right (paged.mp range)) rfl rfl]
    rfl

private theorem headed_of_found
    (status : (listResponse target (observe store []
      (service.list resource (.ofPairs (pairsOf target)))).1).status = 200) :
    Headed service store target resource
      (listResponse target (observe store [] (service.list resource (.ofPairs (pairsOf target)))).1)
      (observe store [] (service.list resource (.ofPairs (pairsOf target)))).2 := by
  match ended : (observe store [] (service.list resource (.ofPairs (pairsOf target)))).1 with
  | .error failure =>
    rw [ended] at status
    cases status
  | .ok (.error what) =>
    rw [ended] at status
    cases status
  | .ok (.ok result) =>
    obtain ⟨table, rest, found, calls, counted, mode⟩ := list_ended ended
    refine ⟨table, result.total, rest, found, calls, counted, rfl, ?_⟩
    rw [← link_of_mode, listResponse, mode]
    rfl

end

/-- Whatever the catalog is and whatever the store answers, the response to a request says what came of
it. Its status is 500 exactly if some call for it failed, at whatever point; 404 exactly if none failed
but the resource is unknown, or no row was fetched for a read; and 200 otherwise. A list carries the total
that was counted and the links of its page, an error neither. The readiness check tells whether a ping
failed by a status of its own. -/
theorem responses_mirror_the_store (service : Service) (store : Answering) (target : Target) :
    let run := served service store target
    (∀ resource, AsksFor target resource →
        Mirrors store run.2 (service.catalog.table? resource = none) run.1 ∧
          (run.1.status = 200 → Headed service store target resource run.1 run.2)) ∧
      (∀ resource id, AsksForRow target resource id →
        Mirrors store run.2 (Missed service store resource id run.2) run.1) ∧
      (target.path = "/ready" → run.2 = [.ping] ∧
        (run.1.status = 503 ↔ ∃ failure, store [] .ping = .error failure) ∧
        (run.1.status = 200 ↔ store [] .ping = .ok ())) := by
  intro run
  refine ⟨?_, ?_, ?_⟩
  · rintro resource ⟨segment, path, clean, free, decoded⟩
    rw [show run = _ from served_list (path ▸ ofPath?_list clean free) decoded]
    exact ⟨mirrors_of_run (listResponse target) (list_missing _) (fun _ => rfl) (fun _ => rfl) fun _ => rfl,
      headed_of_found⟩
  · rintro resource id ⟨first, second, path, clean, clean', some, decoded, decoded'⟩
    rw [show run = _ from served_read (path ▸ ofPath?_read clean clean' some) decoded decoded']
    exact mirrors_of_run readResponse (read_missing id _) (fun _ => rfl) (fun _ => rfl) fun _ => rfl
  · intro path
    have route : Route.ofPath? target.path = some .ready := by
      rw [path]
      decide
    rw [show run = _ from served_ready route, Program.ping, observe_call]
    cases store [] .ping with
    | error failure => simp [readyResponse, Response.degraded, Response.json]
    | ok answer => simp [readyResponse, Response.ready, Response.json]

def library : Service where
  catalog := ⟨[⟨"books", "books", [⟨"id", .integer, false, true, none⟩], "id",
    [⟨.hasMany, "loans", "loans", "id", "bookId"⟩]⟩,
    ⟨"loans", "loans", [⟨"id", .integer, false, true, none⟩, ⟨"bookId", .integer, true, false, none⟩],
      "id", []⟩]⟩
  naming := .regular

/-- A store that has one row of two, can neither find others to attach nor be reached by a ping. -/
def failing : Answering
  | _, .fetch _ retrieval =>
    .ok (if retrieval.predicates = [] then [[("id", .number (.ofInt 1))]] else [])
  | _, .count _ _ => .ok 2
  | _, .fetchRelated _ _ | _, .ping => .error (.database .closedPool)

/-- A page of a list with its headers, a list that fails after its rows were fetched and counted, a
read of a row that is not there, and a check of a store that is not. -/
theorem books_on_a_failing_store :
    let page : Target := ⟨"/books", some "_per_page=1"⟩
    let loans : Target := ⟨"/books", some "_embed=loans"⟩
    let book : Target := ⟨"/books/3", none⟩
    let ready : Target := ⟨"/ready", none⟩
    let response (target : Target) := (served library failing target).1
    AsksFor page "books" ∧ AsksFor loans "books" ∧ AsksForRow book "books" "3" ∧
      (response page).status = 200 ∧ (response page).totalCount = some 2 ∧ (response page).link.isSome ∧
      (response loans).status = 500 ∧ (served library failing loans).2.length = 3 ∧
      (response loans).totalCount = none ∧ (response book).status = 404 ∧
      Answered failing (served library failing book).2 ∧ (response ready).status = 503 := by
  intro page loans book ready response
  have asked : AsksFor page "books" := ⟨"books", by decide +kernel⟩
  have asked' : AsksFor loans "books" := ⟨"books", by decide +kernel⟩
  have wanted : AsksForRow book "books" "3" := ⟨"books", "3", by decide +kernel⟩
  have fit : (response page).status = 200 ∧ (response page).link.isSome ∧ (response loans).status = 500 ∧
      (served library failing loans).2.length = 3 ∧ (response book).status = 404 := by
    decide +kernel
  obtain ⟨found, linked, failed, calls, missed⟩ := fit
  obtain ⟨-, headed⟩ := (responses_mirror_the_store library failing page).1 "books" asked
  obtain ⟨table, total, rest, -, -, counted, header, -⟩ := headed found
  cases counted
  obtain ⟨mirrors, -⟩ := (responses_mirror_the_store library failing loans).1 "books" asked'
  obtain ⟨-, bare, -⟩ := mirrors.bare (by rw [failed]; decide)
  obtain ⟨-, checked, -⟩ := (responses_mirror_the_store library failing ready).2.2 rfl
  have read := (responses_mirror_the_store library failing book).2.1 "books" "3" wanted
  exact ⟨asked, asked', wanted, found, header, linked, failed, calls, bare, missed,
    (read.missed.mp missed).1, checked.mpr ⟨_, rfl⟩⟩

end ResourceQuery.Proofs.HttpOutcomes
