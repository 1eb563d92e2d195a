import ResourceQuery.Proofs.StoreRuns

/-! The calls that a request makes to its store. They are known in advance from the request and the
rows that the first call answers with: nothing is asked twice, out of order or in vain, and the first
failure is the outcome of the request. -/

namespace ResourceQuery.Proofs.RequestCalls
open StoreRuns

/-- The texts of a column's cells, each once, in the order of first occurrence. Null has none. -/
def cellTexts (column : String) (rows : List Row) : List String :=
  (rows.filterMap fun row => (row.get column).cellText?).eraseDups

/-- The condition on the rows of the related table: for a foreign key of ours, that their key is the
value of one of our texts. -/
def condition (related : Table) (relation : Relation) (rows : List Row) : List Predicate :=
  match relation.kind with
  | .belongsTo =>
    [⟨relation.theirKey, .isIn,
      (cellTexts relation.ourKey rows).map (.coerce (related.typeOf relation.theirKey))⟩]
  | .hasMany => []

/-- The call for a relation. There is none when its table is missing or no row has a key. -/
def relationCall? (catalog : Catalog) (relation : Relation) (rows : List Row) : Option Call :=
  match catalog.table? relation.relatedTable with
  | none => none
  | some related =>
    if ∃ row ∈ rows, (row.get relation.ourKey).isNull = false then
      some (.fetchRelated related (condition related relation rows))
    else none

def attachmentCalls (service : Service) (table : Table) (rows : List Row) (keys : List String) :
    List Call :=
  keys.filterMap fun key =>
    (Embed.findRelation? service.catalog service.naming table key).bind fun relation =>
      relationCall? service.catalog relation rows

theorem distinctKeys_eq_nil_iff (column : String) (rows : List Row) :
    Embed.distinctKeys column rows = [] ↔ ¬ ∃ row ∈ rows, (row.get column).isNull = false := by
  have erased (texts : List String) : texts.eraseDups = [] ↔ texts = [] := by
    cases texts <;> simp [List.eraseDups_cons]
  simp only [Embed.distinctKeys, erased, List.filterMap_eq_nil_iff, not_exists, not_and]
  apply forall₂_congr
  intro row _
  cases empty : (row.get column).isNull <;> simp [Embed.joinKey?, Json.cellText?, empty]

variable (store : Answering) (made : List Call)

private theorem attachments_follows (catalog : Catalog) (relation : Relation) (rows : List Row) :
    Follows store (fun _ => True) made (relationCall? catalog relation rows).toList
      (observe store made (Embed.attachments catalog relation rows)) := by
  unfold Embed.attachments relationCall?
  cases catalog.table? relation.relatedTable with
  | none => exact .finished trivial
  | some related =>
    by_cases keyed : ∃ row ∈ rows, (row.get relation.ourKey).isNull = false
    · simp only [if_pos keyed]
      split
      next none => exact absurd keyed ((distinctKeys_eq_nil_iff _ _).mp none)
      next => exact .ask fun answer _ => .finished trivial
    · simp only [if_neg keyed, (distinctKeys_eq_nil_iff _ _).mpr keyed]
      exact .finished trivial

private theorem collect_follows (service : Service) (table : Table) (rows : List Row) (keys : List String) :
    Follows store (fun _ => True) made (attachmentCalls service table rows keys)
      (observe store made (Embed.collect service.catalog service.naming table rows keys)) := by
  induction keys generalizing made with
  | nil => exact .finished trivial
  | cons key rest ih =>
    simp only [attachmentCalls, List.filterMap_cons, Embed.collect]
    cases Embed.findRelation? service.catalog service.naming table key with
    | none => exact ih made
    | some relation =>
      have others (calls : List Call) (values : List Json) :
          Follows store (fun _ => True) calls (attachmentCalls service table rows rest)
            (observe store calls do
              return (key, values) ::
                (← Embed.collect service.catalog service.naming table rows rest)) :=
        (ih calls).map fun _ _ => trivial
      have all := (attachments_follows store made service.catalog relation rows).bind
        fun calls values _ => others calls values
      simp only [Option.bind_some]
      cases asked : relationCall? service.catalog relation rows with
      | none => rwa [asked] at all
      | some call => rwa [asked] at all

theorem resolve_follows (service : Service) (table : Table) (rows : List Row) (keys : List String) :
    Follows store (fun _ => True) made (attachmentCalls service table rows keys)
      (observe store made (Embed.resolve service.catalog service.naming table rows keys)) :=
  (collect_follows store made service table rows keys).map fun _ _ => trivial

/-- What a list asks for: first the rows, then their number, then what is to be attached to them. -/
def ListFollows (service : Service) (table : Table) (parameters : Parameters)
    (run : Run (Except NotFound ListResult)) : Prop :=
  let intent := Intent.parse parameters
  let retrieval := (Plan.ofIntent table intent).retrieval
  match store [] (.fetch table retrieval) with
  | .error failure => run = (.error failure, [.fetch table retrieval])
  | .ok rows =>
    Follows store (fun result => ∃ listed, result = .ok listed) [.fetch table retrieval]
      (.count table retrieval.predicates :: attachmentCalls service table rows intent.embed) run

/-- What a read asks for: the first row with the key, and if there is one, what is to be attached. -/
def ReadFollows (service : Service) (table : Table) (resource id : String) (parameters : Parameters)
    (run : Run (Except NotFound Row)) : Prop :=
  let equal : Predicate := ⟨table.primaryKey, .eq, [.coerce (table.typeOf table.primaryKey) id]⟩
  let retrieval : Retrieval := ⟨[equal], [], ⟨0, some 1⟩⟩
  match store [] (.fetch table retrieval) with
  | .error failure => run = (.error failure, [.fetch table retrieval])
  | .ok [] => run = (.ok (.error ⟨resource ++ "/" ++ id⟩), [.fetch table retrieval])
  | .ok rows =>
    Follows store (fun result => ∃ row, result = .ok row) [.fetch table retrieval]
      (attachmentCalls service table rows (Intent.parse parameters).embed) run

theorem list_follows (service : Service) (resource : String) (parameters : Parameters)
    {table : Table} (found : service.catalog.table? resource = some table) :
    ListFollows store service table parameters
      (observe store [] (service.list resource parameters)) := by
  simp only [ListFollows, Service.list, found, Program.fetch]
  rw [observe_ask_bind]
  cases store [] (.fetch table (Plan.ofIntent table (.parse parameters)).retrieval) with
  | error failure => rfl
  | ok rows =>
    apply Follows.ask
    intro total heard
    apply (resolve_follows store _ service table rows (Intent.parse parameters).embed).map
    intro rows _
    exact ⟨_, rfl⟩

theorem read_follows (service : Service) (resource id : String) (parameters : Parameters)
    {table : Table} (found : service.catalog.table? resource = some table) :
    ReadFollows store service table resource id parameters
      (observe store [] (service.read resource id parameters)) := by
  simp only [ReadFollows, Service.read, Service.retrievalOf, found, Program.fetch]
  rw [observe_ask_bind]
  split
  next failure heard => rw [heard]; rfl
  next heard => rw [heard]; rfl
  next rows present heard =>
    rw [heard]
    cases rows with
    | nil => exact (present rfl).elim
    | cons first others =>
      apply (resolve_follows store _ service table (first :: others) (Intent.parse parameters).embed).map
      intro rows _
      exact ⟨_, rfl⟩

theorem ListFollows.listed {service : Service} {table : Table} {parameters : Parameters}
    {run : Run (Except NotFound ListResult)} (follows : ListFollows store service table parameters run)
    {result : Except NotFound ListResult} (ended : run.1 = .ok result) :
    ∃ listed, result = .ok listed := by
  simp only [ListFollows] at follows
  split at follows
  next => subst follows; cases ended
  next => exact follows.reached ended

/-- A request makes exactly the calls that its plan, its keys and the rows of its first call need, up
to the first that fails; it succeeds exactly when none failed, and otherwise fails in the same way. An
unknown resource is not asked for. -/
theorem requests_make_the_planned_calls (service : Service) (resource id : String)
    (parameters : Parameters) :
    let list := observe store [] (service.list resource parameters)
    let read := observe store [] (service.read resource id parameters)
    match service.catalog.table? resource with
    | none => list = (.ok (.error ⟨resource⟩), []) ∧ read = (.ok (.error ⟨resource⟩), [])
    | some table =>
      ListFollows store service table parameters list ∧
      ((∃ listed, list.1 = .ok (.ok listed)) ↔ Answered store list.2) ∧
      (∀ failure, list.1 = .error failure ↔ Failed store list.2 failure) ∧
      ReadFollows store service table resource id parameters read ∧
      (∀ failure, read.1 = .error failure ↔ Failed store read.2 failure) := by
  intro list read
  split
  next unknown =>
    refine ⟨?_, ?_⟩
    · simp only [list, Service.list, unknown, observe_pure]
    · simp only [read, Service.read, unknown, observe_pure]
  next table found =>
    have follows := list_follows store service resource parameters found
    refine ⟨follows, ?_, ?_, read_follows store service resource id parameters found, ?_⟩
    · rw [answered_iff]
      constructor
      · exact fun ⟨listed, ended⟩ => ⟨_, ended⟩
      · rintro ⟨result, ended⟩
        obtain ⟨listed, rfl⟩ := follows.listed store ended
        exact ⟨listed, ended⟩
    · exact fun failure => (failed_iff store _ failure).symm
    · exact fun failure => (failed_iff store _ failure).symm

end ResourceQuery.Proofs.RequestCalls
