import AlphE.Coordinator.Authorisation

/-!
What is undone after a partial failure. The executor is an oracle that may raise
on any call. When the intent at some index raises, the loop stops there with that
one intent as the failed one, and that one is compensated: what the intents
before it did is left as it is.
-/

namespace AlphE.Coordinator

/-- An executor whose compensations are rollbacks. -/
structure RollbackExecutor (σ : Type) extends Executor σ where
  compensate_type : ∀ ex intent p, (compensate ex intent).1 = .ok p → p.2.type = .rollback

/-- A forward execution that came back, with its record and its action. -/
structure Executed where
  intent : ActionIntent
  record : ExecutionRecord
  action : Action

def Executed.call (e : Executed) : ExecutorCall := .execute e.intent (.ok (e.record, e.action))

section Failure

variable {σ : Type} (executor : Executor σ)

/-- The executor comes back from these executions, one after the other. -/
def ComesBack : σ → List Executed → σ → Prop
  | ex, [], ex' => ex = ex'
  | ex, e :: done, ex' =>
      ∃ ex₁, executor.execute ex e.intent = (.ok (e.record, e.action), ex₁) ∧
        ComesBack ex₁ done ex'

/-- Execution raises at the index after `done`: the intents before come back, the
next one raises. -/
structure RaisesAfter (intents : List ActionIntent) (done : List Executed)
    (failed : ActionIntent) (exc : String) (after : List ActionIntent) : Prop where
  intents_eq : intents = done.map Executed.intent ++ failed :: after
  raises : ∃ ex ex', ComesBack executor executor.init done ex ∧
    executor.execute ex failed = (.error exc, ex')

/-- The loop up to the intent that raises. -/
theorem executeIntents_of_raises (env : CoordinatorEnv) (done : List Executed)
    {failed : ActionIntent} {exc : String} (after : List ActionIntent) {ex ex' : σ}
    (loop : ExecLoop σ) (hdone : ComesBack executor loop.executor done ex)
    (hraises : executor.execute ex failed = (.error exc, ex')) :
    let loop' := executeIntents env executor (done.map Executed.intent ++ failed :: after) loop
    loop'.executor = ex' ∧
    loop'.actionsTaken =
      loop.actionsTaken ++ done.map Executed.action ++ [execFailAction env failed exc] ∧
    loop'.calls = loop.calls ++ done.map Executed.call ++ [.execute failed (.error exc)] ∧
    loop'.failedIntent = some failed := by
  induction done generalizing loop with
  | nil =>
      have heq : loop.executor = ex := hdone
      simp only [List.map_nil, List.nil_append, executeIntents, heq, hraises,
        List.append_nil]
      exact ⟨trivial, trivial, trivial, trivial⟩
  | cons e done ih =>
      obtain ⟨ex₁, hcall, hrest⟩ := hdone
      simp only [List.map_cons, List.cons_append, executeIntents, hcall]
      obtain ⟨hex, hactions, hcalls, hfailed⟩ := ih
        { loop with
          executor := ex₁
          actionsTaken := loop.actionsTaken ++ [e.action]
          timeline := loop.timeline ++
            [makeEvent env "coordinator.executed" (some e.intent.hash)]
          calls := loop.calls ++ [.execute e.intent (.ok (e.record, e.action))] } hrest
      refine ⟨hex, ?_, ?_, hfailed⟩
      · rw [hactions, List.append_assoc loop.actionsTaken]
        rfl
      · rw [hcalls, List.append_assoc loop.calls]
        rfl

/-- Either the executor comes back from every intent, and the loop found no failure, or
it raises at some index. -/
theorem executeIntents_cases (env : CoordinatorEnv) (intents : List ActionIntent)
    (loop : ExecLoop σ) :
    ((executeIntents env executor intents loop).failedIntent = loop.failedIntent ∧
      (executeIntents env executor intents loop).failureReasons = loop.failureReasons) ∨
    ∃ done failed exc after ex ex',
      intents = List.map Executed.intent done ++ failed :: after ∧
        ComesBack executor loop.executor done ex ∧
        executor.execute ex failed = (.error exc, ex') := by
  induction intents generalizing loop with
  | nil => exact .inl ⟨rfl, rfl⟩
  | cons intent intents ih =>
      rcases hcall : executor.execute loop.executor intent with
        ⟨exc | ⟨record, action⟩, ex₁⟩
      · exact .inr ⟨[], intent, exc, intents, loop.executor, ex₁, rfl, rfl, hcall⟩
      · simp only [executeIntents, hcall]
        obtain hran | ⟨done, failed, exc, after, ex, ex', hintents, hdone, hraises⟩ := ih
          { loop with
            executor := ex₁
            actionsTaken := loop.actionsTaken ++ [action]
            timeline := loop.timeline ++
              [makeEvent env "coordinator.executed" (some intent.hash)]
            calls := loop.calls ++ [.execute intent (.ok (record, action))] }
        · exact .inl hran
        · refine .inr ⟨⟨intent, record, action⟩ :: done, failed, exc, after, ex, ex', ?_, ?_,
            hraises⟩
          · rw [hintents]
            rfl
          · exact ⟨ex₁, hcall, hdone⟩

/-- What a compensation adds to `actions_taken`. -/
def addedBy : ExecOutcome → List Action
  | .ok (_, action) => [action]
  | .error _ => []

/-- What an invocation ends in when its compensation came out like this. -/
structure Compensates (state : IncidentState) (result : CoordinatorResult)
    (failed : ActionIntent) (outcome : ExecOutcome) (calls : List ExecutorCall)
    (actions : List Action) : Prop where
  phase : result.update.phase = .escalated
  calls_eq : result.calls = calls ++ [.compensate failed outcome]
  actionsTaken_eq : result.update.actionsTaken = actions ++ addedBy outcome
  escalation_eq : ∃ reasons, result.escalation =
    some (buildEscalationPackage state reasons
      ["Verify compensation was effective before retrying."] (some result.update.actionsTaken))

theorem compensates_compensateFailed (env : CoordinatorEnv) (state : IncidentState)
    (loop : ExecLoop σ) (failed : ActionIntent) :
    Compensates state (compensateFailed env executor state loop failed) failed
      (executor.compensate loop.executor failed).1 loop.calls loop.actionsTaken := by
  unfold compensateFailed
  rcases executor.compensate loop.executor failed with ⟨exc | ⟨record, action⟩, ex⟩
  · exact ⟨rfl, rfl, (List.append_nil _).symm, _, rfl⟩
  · exact ⟨rfl, rfl, rfl, _, rfl⟩

/-- Where the invocation ends when execution raises at some index: the failed
intent, and no other one, is compensated. -/
theorem compensates_coordinatorAsync (env : CoordinatorEnv)
    {verify : ActionIntent → Except String Unit} {state : IncidentState}
    {done : List Executed} {failed : ActionIntent} {exc : String} {after : List ActionIntent}
    {ex ex' : σ} (hverified : AllVerified verify state.actionIntents)
    (hconf : HasConfirmed state)
    (hintents : state.actionIntents = done.map Executed.intent ++ failed :: after)
    (hdone : ComesBack executor executor.init done ex)
    (hexec : executor.execute ex failed = (.error exc, ex')) :
    Compensates state (coordinatorAsync env verify executor state) failed
      (executor.compensate ex' failed).1
      (done.map Executed.call ++ [.execute failed (.error exc)])
      (state.actionsTaken ++ done.map Executed.action ++ [execFailAction env failed exc]) := by
  have hok : (checkPreflight state state.actionIntents).outcome = .ok := by
    rw [checkPreflight_ok_iff, hintents]
    exact ⟨by simp, hconf⟩
  rw [coordinatorAsync_of_allVerified env _ hverified, afterVerification_of_ok _ _ _ _ _ hok]
  generalize startedTimeline env state ++
    [makeEvent env ("coordinator.preflight." ++ "ok") none] = timeline
  let loop₀ : ExecLoop σ :=
    { executor := executor.init, actionsTaken := state.actionsTaken, timeline := timeline }
  obtain ⟨hex, hactions, hcalls, hfailed⟩ :=
    executeIntents_of_raises executor env done after loop₀ hdone hexec
  rw [← hintents] at hex hactions hcalls hfailed
  have hcompensates := compensates_compensateFailed executor env state
    (executeIntents env executor state.actionIntents loop₀) failed
  rw [hex, hactions, hcalls] at hcompensates
  simp only [executeVerified, loop₀, hfailed]
  exact hcompensates

end Failure

/-! ### The outcome -/

/-- The compensation recorded for a hash: a rollback bound to it, or, when
`compensate` raised, a failed action for it. -/
def Undone (result : CoordinatorResult) (hash : String) : Prop :=
  ∃ intent outcome, ExecutorCall.compensate intent outcome ∈ result.calls ∧
    intent.hash = hash ∧
    match outcome with
    | .ok (_, action) => action ∈ result.update.actionsTaken ∧ action.type = .rollback ∧
        action.intentHash = some hash
    | .error _ => ∃ action ∈ result.update.actionsTaken, action.status = .failed ∧
        action.intentHash = some hash

/-- The intents the executor was asked to execute, in order. -/
def CoordinatorResult.executedIntents (result : CoordinatorResult) : List ActionIntent :=
  result.calls.filterMap fun call =>
    match call with
    | .execute intent _ => some intent
    | .compensate _ _ => none

/-- The failure is contained: it is escalated, nothing after the failed intent is
executed, and what was recorded as succeeded before is undone. -/
structure Contained (result : CoordinatorResult) (done : List Executed)
    (failed : ActionIntent) : Prop where
  escalated : result.update.phase = .escalated
  stopped : result.executedIntents = done.map Executed.intent ++ [failed]
  undone : ∀ e ∈ done, e.action.status = .succeeded → Undone result e.intent.hash

section Node

variable {σ : Type} (env : CoordinatorEnv) (verify : ActionIntent → Except String Unit)
  (executor : RollbackExecutor σ) (state : IncidentState)

/-- The same, for what the index says only. -/
theorem coordinatorAsync_of_raises {done : List Executed} {failed : ActionIntent}
    {exc : String} {after : List ActionIntent}
    (hverified : AllVerified verify state.actionIntents) (hconf : HasConfirmed state)
    (hraises : RaisesAfter executor.toExecutor state.actionIntents done failed exc after) :
    ∃ ex, let result := coordinatorAsync env verify executor.toExecutor state
      result.update.phase = .escalated ∧
      result.calls = done.map Executed.call ++ [.execute failed (.error exc),
        .compensate failed (executor.compensate ex failed).1] ∧
      result.update.actionsTaken = state.actionsTaken ++ done.map Executed.action ++
        [execFailAction env failed exc] ++
        (match (executor.compensate ex failed).1 with
        | .ok (_, action) => [action]
        | .error _ => []) := by
  obtain ⟨hintents, ex, ex', hdone, hexec⟩ := hraises
  have hcompensates := compensates_coordinatorAsync executor.toExecutor env hverified hconf
    hintents hdone hexec
  refine ⟨ex', hcompensates.phase, ?_, ?_⟩
  · rw [hcompensates.calls_eq, List.append_assoc]
    rfl
  · rw [hcompensates.actionsTaken_eq]
    rfl

theorem filterMap_executed_call (done : List Executed) :
    (done.map Executed.call).filterMap (fun call =>
      match call with
      | .execute intent _ => some intent
      | .compensate _ _ => none) = done.map Executed.intent := by
  induction done with
  | nil => rfl
  | cons e done ih =>
      rw [List.map_cons, List.filterMap_cons, ih]
      rfl

variable {env verify executor state}

theorem undone_iff {done : List Executed} {failed : ActionIntent} {exc : String}
    {after : List ActionIntent} (hverified : AllVerified verify state.actionIntents)
    (hconf : HasConfirmed state)
    (hraises : RaisesAfter executor.toExecutor state.actionIntents done failed exc after)
    (hash : String) :
    Undone (coordinatorAsync env verify executor.toExecutor state) hash ↔
      hash = failed.hash := by
  obtain ⟨ex, -, hcalls, hactions⟩ :=
    coordinatorAsync_of_raises env verify executor state hverified hconf hraises
  constructor
  · rintro ⟨intent, outcome, hmem, rfl, -⟩
    rw [hcalls, List.mem_append] at hmem
    rcases hmem with hmem | hmem
    · obtain ⟨e, -, he⟩ := List.mem_map.mp hmem
      cases he
    · simp only [List.mem_cons, reduceCtorEq, ExecutorCall.compensate.injEq, List.not_mem_nil,
        or_false, false_or] at hmem
      rw [hmem.1]
  · rintro rfl
    refine ⟨failed, (executor.compensate ex failed).1, ?_, rfl, ?_⟩
    · rw [hcalls]
      simp
    · cases hcompensate : (executor.compensate ex failed).1 with
      | error exc' =>
          -- The failed action of the execution is there.
          refine ⟨execFailAction env failed exc, ?_, rfl, rfl⟩
          rw [hactions]
          simp
      | ok p =>
          obtain ⟨record, action⟩ := p
          refine ⟨?_, executor.compensate_type ex failed _ hcompensate,
            executor.compensate_binds ex failed _ hcompensate⟩
          rw [hactions, hcompensate]
          simp

/-- **When a partial failure is contained.** It is escalated and nothing after
the failed intent runs; but only the failed intent is compensated, so what was
done before is undone exactly when it was done under the same hash. -/
theorem coordinatorAsync_contained_iff {done : List Executed} {failed : ActionIntent}
    {exc : String} {after : List ActionIntent}
    (hverified : AllVerified verify state.actionIntents)
    (hpreflight : (checkPreflight state state.actionIntents).outcome = .ok)
    (hraises : RaisesAfter executor.toExecutor state.actionIntents done failed exc after) :
    Contained (coordinatorAsync env verify executor.toExecutor state) done failed ↔
      ∀ e ∈ done, e.action.status = .succeeded → e.intent.hash = failed.hash := by
  have hconf : HasConfirmed state := ((checkPreflight_ok_iff _ _).mp hpreflight).2
  constructor
  · intro h e he hsucceeded
    rw [← undone_iff hverified hconf hraises]
    exact h.undone e he hsucceeded
  · intro h
    obtain ⟨ex, hphase, hcalls, -⟩ :=
      coordinatorAsync_of_raises env verify executor state hverified hconf hraises
    refine ⟨hphase, ?_, ?_⟩
    · rw [CoordinatorResult.executedIntents, hcalls, List.filterMap_append,
        filterMap_executed_call]
      rfl
    · intro e he hsucceeded
      rw [undone_iff hverified hconf hraises]
      exact h e he hsucceeded

end Node

/-! ### Two intents, the second of which raises -/

/-- The executor of the Coordinator with a target that cannot be reached. -/
def unreachableExecutor (env : ExecEnv) (target : String) :
    RollbackExecutor IdempotentExecutor where
  init := .new none ∅
  execute ex intent :=
    if intent.target = target then (.error "connection refused", ex)
    else (.ok (ex.execute env intent).1, (ex.execute env intent).2)
  compensate ex intent := (.ok (ex.compensate env intent).1, (ex.compensate env intent).2)
  execute_binds := by
    intro ex intent p h
    split at h
    · cases h
    · cases h
      exact IdempotentExecutor.execute_intentHash env ex intent
  compensate_binds := (coordinatorExecutor env).compensate_binds
  compensate_type := by
    intro ex intent p h
    cases h
    rfl

theorem execute_unreachable (env : ExecEnv) (intent : ActionIntent)
    (ex : IdempotentExecutor) :
    (unreachableExecutor env intent.target).execute ex intent =
      (.error "connection refused", ex) :=
  if_pos rfl

theorem execute_reachable (env : ExecEnv) {intent : ActionIntent} {target : String}
    (ex : IdempotentExecutor) (h : intent.target ≠ target) :
    (unreachableExecutor env target).execute ex intent =
      (.ok (ex.execute env intent).1, (ex.execute env intent).2) :=
  if_neg h

def testSecond : ActionIntent :=
  { testIntent with hash := "0badc0de", target := "k8s:demo/leaky-cache" }

/-- The first intent, executed. -/
def testDone : Executed :=
  let p := (IdempotentExecutor.new none ∅).execute testEnv.toExecEnv testIntent
  { intent := testIntent, record := p.1.1, action := p.1.2 }

theorem raisesAfter_testSecond :
    RaisesAfter (unreachableExecutor testEnv.toExecEnv testSecond.target).toExecutor
      [testIntent, testSecond] [testDone] testSecond "connection refused" [] := by
  let ex := ((IdempotentExecutor.new none ∅).execute testEnv.toExecEnv testIntent).2
  refine ⟨rfl, ex, ex, ⟨ex, ?_, rfl⟩, execute_unreachable _ _ _⟩
  exact execute_reachable _ _ (by decide)

theorem coordinatorAsync_contained_iff_testSecond :
    Contained (coordinatorAsync testEnv (fun _ => .ok ())
        (unreachableExecutor testEnv.toExecEnv testSecond.target).toExecutor
        (testState [testHypothesis .confirmed] [testIntent, testSecond]))
      [testDone] testSecond ↔
    ∀ e ∈ [testDone], e.action.status = .succeeded → e.intent.hash = testSecond.hash :=
  coordinatorAsync_contained_iff (fun _ _ => rfl) (by decide) raisesAfter_testSecond

/-- The first action stays as it is. -/
theorem not_coordinatorAsync_contained :
    ¬ ∀ (executor : RollbackExecutor IdempotentExecutor) (state : IncidentState)
      (done : List Executed) (failed : ActionIntent) (exc : String)
      (after : List ActionIntent),
      (checkPreflight state state.actionIntents).outcome = .ok →
      RaisesAfter executor.toExecutor state.actionIntents done failed exc after →
      Contained (coordinatorAsync testEnv (fun _ => .ok ()) executor.toExecutor state) done
        failed := by
  intro h
  have hcontained := h (unreachableExecutor testEnv.toExecEnv testSecond.target)
    (testState [testHypothesis .confirmed] [testIntent, testSecond]) [testDone] testSecond
    "connection refused" [] (by decide) raisesAfter_testSecond
  have hundone := hcontained.undone testDone List.mem_cons_self
    (IdempotentExecutor.execute_status _ _ _)
  rw [undone_iff (fun _ _ => rfl) (by decide) raisesAfter_testSecond] at hundone
  exact absurd hundone (by decide)

end AlphE.Coordinator
