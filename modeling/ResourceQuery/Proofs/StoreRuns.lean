import ResourceQuery.Http.Server

/-! Runs of programs against stores of every kind. What a store answers may depend on all calls made
before, and any call may fail; the run keeps a record of the calls. -/

namespace ResourceQuery.Proofs.StoreRuns

/-- What a store answers to a call, after the calls made before. -/
abbrev Answering := List Call → (call : Call) → Except StoreFailure call.Answer

def recording (store : Answering) (call : Call) :
    StateM (List Call) (Except StoreFailure call.Answer) :=
  fun made => (store made call, made ++ [call])

variable {First Second Result : Type}

abbrev Run (Result : Type) := Except StoreFailure Result × List Call

def observe (store : Answering) (made : List Call) (program : Program Result) : Run Result :=
  Http.attempt (recording store) program made

theorem observe_pure (store : Answering) (made : List Call) (result : Result) :
    observe store made (pure result) = (.ok result, made) := rfl

theorem observe_ask (store : Answering) (made : List Call) (call : Call)
    (next : call.Answer → Program Result) :
    observe store made (.ask call next) =
      match store made call with
      | .ok answer => observe store (made ++ [call]) (next answer)
      | .error failure => (.error failure, made ++ [call]) := by
  have heard : recording store call made = (store made call, made ++ [call]) := rfl
  simp only [observe, Http.attempt, Program.run, bind, ExceptT.bind, ExceptT.mk, ExceptT.run,
    StateT.bind, heard]
  cases store made call <;> rfl

theorem observe_ask_bind (store : Answering) (made : List Call) (call : Call)
    (next : call.Answer → Program Result) :
    observe store made (Program.ask call .done >>= next) =
      match store made call with
      | .ok answer => observe store (made ++ [call]) (next answer)
      | .error failure => (.error failure, made ++ [call]) :=
  observe_ask store made call next

private theorem observe_bind (store : Answering) (made : List Call) (program : Program First)
    (next : First → Program Second) :
    observe store made (program >>= next) =
      match observe store made program with
      | (.ok answer, calls) => observe store calls (next answer)
      | (.error failure, calls) => (.error failure, calls) := by
  change observe store made (program.bind next) = _
  induction program generalizing made with
  | done result => rfl
  | ask call rest ih =>
    simp only [Program.bind, observe_ask]
    cases store made call with
    | ok answer => exact ih answer _
    | error failure => rfl

theorem observe_call (store : Answering) (made : List Call) (call : Call) :
    observe store made (.ask call .done) = (store made call, made ++ [call]) := by
  rw [observe_ask]
  cases store made call <;> rfl

/-- A run that came to a result went on from a value of its first part. -/
theorem bind_ended {store : Answering} {made : List Call} {program : Program First}
    {next : First → Program Second} {result : Second}
    (ended : (observe store made (program >>= next)).1 = .ok result) :
    ∃ value, (observe store made program).1 = .ok value ∧
      observe store made (program >>= next) = observe store (observe store made program).2 (next value) := by
  rw [observe_bind] at ended ⊢
  revert ended
  rcases observe store made program with ⟨failure | value, calls⟩
  · intro ended
    cases ended
  · exact fun _ => ⟨value, rfl, rfl⟩

/-- The calls made before are the first of all calls. -/
theorem prefix_observe (store : Answering) (made : List Call)
    (program : Program Result) : made <+: (observe store made program).2 := by
  induction program generalizing made with
  | done result => exact List.prefix_rfl
  | ask call next ih =>
    rw [observe_ask]
    cases store made call with
    | ok answer => exact (List.prefix_append _ _).trans (ih answer _)
    | error failure => exact List.prefix_append _ _

/-- The store answered every call, after those made before it. -/
def Answered (store : Answering) (calls : List Call) : Prop :=
  ∀ before call after, calls = before ++ call :: after → ∃ answer, store before call = .ok answer

/-- The last call failed, and no call before it did. -/
def Failed (store : Answering) (calls : List Call) (failure : StoreFailure) : Prop :=
  ∃ before call, calls = before ++ [call] ∧ Answered store before ∧
    store before call = .error failure

private theorem answered_nil (store : Answering) : Answered store [] := by
  intro before call after same
  simp at same

private theorem Answered.snoc {store : Answering} {made : List Call} (answered : Answered store made)
    {call : Call} {answer : call.Answer} (heard : store made call = .ok answer) :
    Answered store (made ++ [call]) := by
  intro before other after same
  obtain rfl | ⟨rest, last, rfl⟩ := after.eq_nil_or_concat
  · obtain ⟨rfl, found⟩ := List.append_inj' same rfl
    cases found
    exact ⟨answer, heard⟩
  · rw [List.concat_eq_append, ← List.cons_append, ← List.append_assoc] at same
    exact answered before other rest (List.append_inj' same rfl).1

private theorem Failed.not_answered {store : Answering} {calls : List Call} {failure : StoreFailure}
    (failed : Failed store calls failure) : ¬ Answered store calls := by
  obtain ⟨before, call, rfl, -, heard⟩ := failed
  intro answered
  obtain ⟨answer, other⟩ := answered before call [] rfl
  rw [heard] at other
  cases other

theorem Failed.unique {store : Answering} {calls : List Call} {first second : StoreFailure}
    (one : Failed store calls first) (other : Failed store calls second) : first = second := by
  obtain ⟨before, call, rfl, -, heard⟩ := one
  obtain ⟨before', call', same, -, heard'⟩ := other
  obtain ⟨rfl, found⟩ := List.append_inj' same rfl
  cases found
  rw [heard] at heard'
  cases heard'
  rfl

private theorem observe_ends (store : Answering) (made : List Call) (program : Program Result)
    (answered : Answered store made) :
    match observe store made program with
    | (.ok _, calls) => Answered store calls
    | (.error failure, calls) => Failed store calls failure := by
  induction program generalizing made with
  | done result => exact answered
  | ask call next ih =>
    rw [observe_ask]
    cases heard : store made call with
    | ok answer => exact ih answer _ (answered.snoc heard)
    | error failure => exact ⟨made, call, rfl, answered, heard⟩

/-- No call failed exactly when there is a result. -/
theorem answered_iff (store : Answering) (program : Program Result) :
    Answered store (observe store [] program).2 ↔
      ∃ result, (observe store [] program).1 = .ok result := by
  have ends := observe_ends store [] program (answered_nil store)
  revert ends
  rcases observe store [] program with ⟨_ | result, calls⟩
  · intro failed
    simp [failed.not_answered]
  · intro answered
    simp [answered]

/-- The run ended with a failure exactly when its last call failed in this way. -/
theorem failed_iff (store : Answering) (program : Program Result) (failure : StoreFailure) :
    Failed store (observe store [] program).2 failure ↔
      (observe store [] program).1 = .error failure := by
  have ends := observe_ends store [] program (answered_nil store)
  revert ends
  rcases observe store [] program with ⟨other | result, calls⟩
  · intro ended
    simp only [Except.error.injEq]
    constructor
    · exact fun failed => ended.unique failed
    · rintro rfl
      exact ended
  · intro answered
    simp only [reduceCtorEq, iff_false]
    exact fun failed => failed.not_answered answered

/-- A run made the planned calls after those made before: all of them, to end as is wanted, or those
up to the first that failed, to end with its failure. -/
inductive Follows (store : Answering) (wanted : Result → Prop) :
    List Call → List Call → Run Result → Prop where
  | finished {made : List Call} {result : Result} (reached : wanted result) :
      Follows store wanted made [] (.ok result, made)
  | failed {made rest : List Call} {call : Call} {failure : StoreFailure}
      (heard : store made call = .error failure) :
      Follows store wanted made (call :: rest) (.error failure, made ++ [call])
  | answered {made rest : List Call} {call : Call} {answer : call.Answer} {run : Run Result}
      (heard : store made call = .ok answer)
      (remaining : Follows store wanted (made ++ [call]) rest run) :
      Follows store wanted made (call :: rest) run

theorem Follows.reached {store : Answering} {wanted : Result → Prop} {made planned : List Call}
    {run : Run Result} (follows : Follows store wanted made planned run) {result : Result}
    (ended : run.1 = .ok result) : wanted result := by
  induction follows with
  | finished reached => cases ended; exact reached
  | failed _ => cases ended
  | answered _ _ ih => exact ih ended

/-- A run in which every planned call is answered comes to a result. -/
theorem Follows.succeeds {store : Answering} {wanted : Result → Prop} {made planned : List Call}
    {run : Run Result} (follows : Follows store wanted made planned run)
    (answers : ∀ call ∈ planned, ∀ made, ∃ answer, store made call = .ok answer) :
    ∃ result, run.1 = .ok result := by
  induction follows with
  | finished _ => exact ⟨_, rfl⟩
  | failed heard =>
    obtain ⟨answer, other⟩ := answers _ List.mem_cons_self _
    rw [heard] at other
    cases other
  | answered _ _ ih => exact ih fun call member => answers call (List.mem_cons_of_mem _ member)

theorem Follows.ask {store : Answering} {wanted : Result → Prop} {made rest : List Call}
    {call : Call} {next : call.Answer → Program Result}
    (remaining : ∀ answer, store made call = .ok answer →
      Follows store wanted (made ++ [call]) rest (observe store (made ++ [call]) (next answer))) :
    Follows store wanted made (call :: rest) (observe store made (.ask call next)) := by
  rw [observe_ask]
  cases heard : store made call with
  | ok answer => exact .answered heard (remaining answer heard)
  | error failure => exact .failed heard

theorem Follows.bind {store : Answering} {reached : First → Prop} {wanted : Second → Prop}
    {made planned rest : List Call} {program : Program First} {next : First → Program Second}
    (first : Follows store reached made planned (observe store made program))
    (remaining : ∀ calls value, reached value →
      Follows store wanted calls rest (observe store calls (next value))) :
    Follows store wanted made (planned ++ rest) (observe store made (program >>= next)) := by
  rw [observe_bind]
  generalize observe store made program = run at first
  induction first with
  | finished holds => exact remaining _ _ holds
  | failed heard => exact .failed heard
  | answered heard _ ih => exact .answered heard ih

/-- Nothing is asked to make something else of the result. -/
theorem Follows.map {store : Answering} {reached : First → Prop} {wanted : Second → Prop}
    {made planned : List Call} {program : Program First} {make : First → Second}
    (first : Follows store reached made planned (observe store made program))
    (holds : ∀ value, reached value → wanted (make value)) :
    Follows store wanted made planned
      (observe store made (program >>= fun value => pure (make value))) := by
  rw [← List.append_nil planned]
  exact first.bind fun calls value reached => .finished (holds value reached)

end ResourceQuery.Proofs.StoreRuns
