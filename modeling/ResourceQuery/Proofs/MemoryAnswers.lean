import ResourceQuery.Proofs.StableSorts
import ResourceQuery.Service

/-! Requests answered from memory. Only the sort of a list can give up: then there is no answer, and
otherwise what a list holds and counts can be read off the rows in memory. With rows sorted by insertion
every request comes to its result. -/

namespace ResourceQuery.Proofs.MemoryAnswers
open StableSorts

variable {First Second Result : Type}

/-- What a program results in when its calls are answered from memory. -/
def resultOf (memory : Memory) (program : Program Result) : Result :=
  Id.run (program.run fun call => pure (memory.answer call))

/-- What a program results in when a sort is used to answer its calls from memory. There is no result
if the sort gives up. -/
def resultBy (sort : RowSort Option) (memory : Memory) (program : Program Result) : Option Result :=
  program.run (memory.answerBy sort)

theorem resultOf_bind (memory : Memory) (program : Program First) (next : First → Program Second) :
    resultOf memory (program >>= next) = resultOf memory (next (resultOf memory program)) := by
  change resultOf memory (program.bind next) = _
  induction program with
  | done result => rfl
  | ask call rest ih => exact ih (memory.answer call)

theorem eq_ok_of_mem_toOption {Failure : Type} {result : Except Failure Result} {value : Result}
    (member : value ∈ result.toOption) : result = .ok value := by
  cases result with
  | error failure => cases member
  | ok found => cases member; rfl

theorem list_result (service : Service) (memory : Memory) {resource : String} {table : Table}
    (found : service.catalog.table? resource = some table) (parameters : Parameters) :
    let intent := Intent.parse parameters
    let plan := Plan.ofIntent table intent
    resultOf memory (service.list resource parameters) =
      .ok
        { rows := resultOf memory (Embed.resolve service.catalog service.naming table
            (memory.answer (.fetch table plan.retrieval)) intent.embed)
          total := (memory.filtered table plan.retrieval.predicates).length
          window := plan.retrieval.window
          mode := plan.mode } := by
  simp only [Service.list, found, Program.fetch, Program.count, resultOf_bind]
  rfl

private theorem resolve_nil (service : Service) (memory : Memory) (table : Table) (rows : List Row) :
    resultOf memory (Embed.resolve service.catalog service.naming table rows []) = rows := rfl

private theorem rows_unattached (service : Service) (memory : Memory) {resource : String} {table : Table}
    (found : service.catalog.table? resource = some table) (parameters : Parameters)
    {listed : ListResult} (answered : resultOf memory (service.list resource parameters) = .ok listed)
    (unattached : (Intent.parse parameters).embed = []) :
    let retrieval := (Plan.ofIntent table (.parse parameters)).retrieval
    listed.rows =
      retrieval.window.take (sortRows retrieval.sort (memory.filtered table retrieval.predicates)) := by
  rw [list_result service memory found] at answered
  cases answered
  simp only [unattached, resolve_nil]
  rfl

/-- With no window, no order and nothing attached, the rows are those that the filters leave. -/
theorem rows_of_list (service : Service) (memory : Memory) {resource : String} {table : Table}
    (found : service.catalog.table? resource = some table) (parameters : Parameters)
    {listed : ListResult} (answered : resultOf memory (service.list resource parameters) = .ok listed)
    (unbounded : (Plan.ofIntent table (.parse parameters)).retrieval.window = .unbounded)
    (unsorted : (Plan.ofIntent table (.parse parameters)).retrieval.sort = [])
    (unattached : (Intent.parse parameters).embed = []) :
    listed.rows =
      memory.filtered table (Plan.ofIntent table (.parse parameters)).retrieval.predicates := by
  have rows := rows_unattached service memory found parameters answered unattached
  simp only [unbounded, unsorted] at rows
  exact rows

section Sorts

variable {sort : RowSort Option}

theorem answerBy_fetch (sort : RowSort Option) (memory : Memory) (table : Table)
    (retrieval : Retrieval) :
    memory.answerBy sort (.fetch table retrieval) =
      (sortBy sort retrieval.sort (memory.filtered table retrieval.predicates)).map
        retrieval.window.take := by
  rw [Memory.answerBy]
  cases sortBy sort retrieval.sort (memory.filtered table retrieval.predicates) <;> rfl

private theorem resultBy_ask (sort : RowSort Option) (memory : Memory) (call : Call)
    (next : call.Answer → Program Result) :
    resultBy sort memory (.ask call next) =
      Option.bind (memory.answerBy sort call) fun answer => resultBy sort memory (next answer) := rfl

private theorem resultBy_bind (sort : RowSort Option) (memory : Memory) (program : Program First)
    (next : First → Program Second) :
    resultBy sort memory (program >>= next) =
      (resultBy sort memory program).bind fun value => resultBy sort memory (next value) := by
  change resultBy sort memory (program.bind next) = _
  induction program with
  | done result => rfl
  | ask call rest ih =>
    rw [Program.bind, resultBy_ask, resultBy_ask, Option.bind_assoc]
    exact congrArg _ (funext ih)

/-- Insertion gives no program up. -/
theorem resultBy_insertion (memory : Memory) (program : Program Result) :
    resultBy insertion memory program = some (resultOf memory program) := by
  induction program with
  | done result => rfl
  | ask call next ih =>
    have answered : memory.answerBy insertion call = some (memory.answer call) := by
      cases call with
      | fetch table retrieval =>
        simp only [Memory.answer, Memory.answerBy]
        cases retrieval.sort <;> rfl
      | count => rfl
      | fetchRelated => rfl
      | ping => rfl
    rw [resultBy_ask, answered]
    exact ih (memory.answer call)

private theorem resultBy_attachments (memory : Memory) (catalog : Catalog) (relation : Relation)
    (rows : List Row) :
    resultBy sort memory (Embed.attachments catalog relation rows) =
      some (resultOf memory (Embed.attachments catalog relation rows)) := by
  unfold Embed.attachments
  cases catalog.table? relation.relatedTable with
  | none => rfl
  | some related => cases Embed.distinctKeys relation.ourKey rows <;> rfl

private theorem resultBy_collect (memory : Memory) (catalog : Catalog) (naming : Naming) (table : Table)
    (rows : List Row) (keys : List String) :
    resultBy sort memory (Embed.collect catalog naming table rows keys) =
      some (resultOf memory (Embed.collect catalog naming table rows keys)) := by
  induction keys with
  | nil => rfl
  | cons key rest ih =>
    simp only [Embed.collect]
    cases Embed.findRelation? catalog naming table key with
    | none => exact ih
    | some relation =>
      simp only [resultBy_bind, resultOf_bind, resultBy_attachments, ih, Option.bind_some]
      rfl

private theorem resultBy_resolve (memory : Memory) (catalog : Catalog) (naming : Naming) (table : Table)
    (rows : List Row) (keys : List String) :
    resultBy sort memory (Embed.resolve catalog naming table rows keys) =
      some (resultOf memory (Embed.resolve catalog naming table rows keys)) := by
  simp only [Embed.resolve, resultBy_bind, resultOf_bind, resultBy_collect, Option.bind_some]
  rfl

/-- A list is answered from its rows as the sort leaves them. -/
theorem resultBy_list (sort : RowSort Option) (service : Service) (memory : Memory) {resource : String}
    {table : Table} (found : service.catalog.table? resource = some table) (parameters : Parameters) :
    let intent := Intent.parse parameters
    let plan := Plan.ofIntent table intent
    let kept := memory.filtered table plan.retrieval.predicates
    resultBy sort memory (service.list resource parameters) =
      (sortBy sort plan.retrieval.sort kept).map fun sorted =>
        .ok
          { rows := resultOf memory (Embed.resolve service.catalog service.naming table
              (plan.retrieval.window.take sorted) intent.embed)
            total := kept.length
            window := plan.retrieval.window
            mode := plan.mode } := by
  intro intent plan kept
  have fetched : resultBy sort memory (Program.fetch table plan.retrieval) =
      (sortBy sort plan.retrieval.sort kept).map plan.retrieval.window.take := by
    rw [Program.fetch, resultBy_ask, answerBy_fetch]
    cases sortBy sort plan.retrieval.sort kept <;> rfl
  have counted : resultBy sort memory (Program.count table plan.countPredicates) = some kept.length := rfl
  simp only [Service.list, found, resultBy_bind]
  rw [fetched]
  cases sortBy sort plan.retrieval.sort kept with
  | none => rfl
  | some sorted =>
    simp only [Option.map_some, Option.bind_some]
    rw [counted]
    simp only [Option.bind_some, resultBy_resolve]
    rfl

variable {service : Service} {memory : Memory} {resource : String} {table : Table} {parameters : Parameters}

/-- A list is answered exactly if its rows can be sorted. -/
theorem isSome_list_iff (sort : RowSort Option) (found : service.catalog.table? resource = some table) :
    let retrieval := (Plan.ofIntent table (.parse parameters)).retrieval
    (resultBy sort memory (service.list resource parameters)).isSome ↔
      (sortBy sort retrieval.sort (memory.filtered table retrieval.predicates)).isSome := by
  intro retrieval
  rw [resultBy_list sort service memory found, Option.isSome_map]

/-- Rows in a total preorder can be sorted. -/
theorem isSome_list (stable : Stable sort) (found : service.catalog.table? resource = some table)
    (coherent :
      let retrieval := (Plan.ofIntent table (.parse parameters)).retrieval
      Coherent (SortField.orderAll retrieval.sort) (memory.filtered table retrieval.predicates)) :
    (resultBy sort memory (service.list resource parameters)).isSome := by
  apply (isSome_list_iff sort found).mpr
  rw [sortBy_eq stable coherent]
  rfl

/-- What an answered list says of the rows that the filters leave: their number and, with nothing
attached, the window of them as they were sorted. -/
theorem list_of_resultBy (found : service.catalog.table? resource = some table)
    {result : Except NotFound ListResult}
    (ended : resultBy sort memory (service.list resource parameters) = some result) :
    let plan := Plan.ofIntent table (.parse parameters)
    let kept := memory.filtered table plan.retrieval.predicates
    ∃ listed sorted, result = .ok listed ∧ sortBy sort plan.retrieval.sort kept = some sorted ∧
      listed.total = kept.length ∧ listed.mode = plan.mode ∧
      ((Intent.parse parameters).embed = [] → listed.rows = plan.retrieval.window.take sorted) := by
  intro plan kept
  rw [resultBy_list sort service memory found] at ended
  obtain ⟨sorted, sorts, rfl⟩ := Option.map_eq_some_iff.mp ended
  refine ⟨_, sorted, rfl, sorts, rfl, rfl, fun unattached => ?_⟩
  simp only [unattached, resolve_nil]
  rfl

end Sorts

end ResourceQuery.Proofs.MemoryAnswers
