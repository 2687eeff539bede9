import AlphE.Coordinator.Exits
import AlphE.Lib.Protocol

/-!
The Coordinator as the state machine it says it is. What an invocation does is
told by the events it records, and the events follow a protocol: a verification,
a precondition re-check, the executions, and one way out. From the events alone
can be read which calls the executor got and how each of them ended, which
actions were added, the phase the incident is left in, and whether somebody was
called.

The executor is any executor; it may raise at any call.
-/

namespace AlphE.Coordinator

/-! ### The events -/

inductive CoordinatorEvent
  | started
  | verificationFailed (hash : String)
  | preflight (outcome : PreflightOutcome)
  | executed (hash : String)
  | executionFailed (hash : String)
  | compensated (hash : String)
  | compensationFailed (hash : String)
  | escalated (incidentId : String)
  | resolved
  | resolvedNoOp
  deriving DecidableEq, Repr

namespace CoordinatorEvent

def eventType : CoordinatorEvent → String
  | started => "coordinator.started"
  | verificationFailed _ => "coordinator.verification_failed"
  | preflight outcome => "coordinator.preflight." ++ outcome.value
  | executed _ => "coordinator.executed"
  | executionFailed _ => "coordinator.execution_failed"
  | compensated _ => "coordinator.compensated"
  | compensationFailed _ => "coordinator.compensation_failed"
  | escalated _ => "coordinator.escalated"
  | resolved => "coordinator.resolved"
  | resolvedNoOp => "coordinator.resolved.no_op"

def refId : CoordinatorEvent → Option String
  | verificationFailed hash => some hash
  | executed hash => some hash
  | executionFailed hash => some hash
  | compensated hash => some hash
  | compensationFailed hash => some hash
  | escalated incidentId => some incidentId
  | _ => none

/-- The line of the timeline. -/
def written (env : CoordinatorEnv) (e : CoordinatorEvent) : TimelineEvent :=
  makeEvent env e.eventType e.refId

/-- The event a line of the timeline tells of. -/
def read (line : TimelineEvent) : Option CoordinatorEvent :=
  if line.actor = actor then
    match line.eventType, line.refId with
    | "coordinator.started", none => some started
    | "coordinator.verification_failed", some hash => some (verificationFailed hash)
    | "coordinator.preflight.ok", none => some (preflight .ok)
    | "coordinator.preflight.diagnosis_invalidated", none =>
        some (preflight .diagnosisInvalidated)
    | "coordinator.preflight.parameter_drift", none => some (preflight .parameterDrift)
    | "coordinator.preflight.already_resolved", none => some (preflight .alreadyResolved)
    | "coordinator.executed", some hash => some (executed hash)
    | "coordinator.execution_failed", some hash => some (executionFailed hash)
    | "coordinator.compensated", some hash => some (compensated hash)
    | "coordinator.compensation_failed", some hash => some (compensationFailed hash)
    | "coordinator.escalated", some incidentId => some (escalated incidentId)
    | "coordinator.resolved", none => some resolved
    | "coordinator.resolved.no_op", none => some resolvedNoOp
    | _, _ => none
  else none

theorem read_written (env : CoordinatorEnv) (e : CoordinatorEvent) :
    read (e.written env) = some e := by
  cases e with
  | preflight outcome => cases outcome <;> rfl
  | _ => rfl

/-! ### What an event tells -/

/-- A call on the executor, and whether it raised. -/
def IsCall : CoordinatorEvent → Bool
  | executed _ | executionFailed _ | compensated _ | compensationFailed _ => true
  | _ => false

/-- The intent hash of the action that goes with the event; a compensation that
raised leaves no action. -/
def actionHash? : CoordinatorEvent → Option (Option String)
  | verificationFailed hash => some (some hash)
  | executed hash => some (some hash)
  | executionFailed hash => some (some hash)
  | compensated hash => some (some hash)
  | resolvedNoOp => some none
  | _ => none

end CoordinatorEvent

/-- What the timeline says about a call. -/
def ExecutorCall.event : ExecutorCall → CoordinatorEvent
  | .execute intent (.ok _) => .executed intent.hash
  | .execute intent (.error _) => .executionFailed intent.hash
  | .compensate intent (.ok _) => .compensated intent.hash
  | .compensate intent (.error _) => .compensationFailed intent.hash

/-! ### The protocol -/

inductive Stage
  | idle
  | verifying
  | rejected
  | checked (outcome : PreflightOutcome)
  | executing
  | failed (hash : String)
  | handedBack
  | settled (phase : IncidentPhase)
  deriving DecidableEq, Repr

namespace Stage

/-- The phase the incident is left in when the invocation stops here. Drift and
an invalidated diagnosis may be handed to the caller as they are. -/
def phase? : Stage → Option IncidentPhase
  | settled phase => some phase
  | checked .parameterDrift => some .planning
  | checked .diagnosisInvalidated => some .investigating
  | _ => none

end Stage

/-- What may come next in an invocation for an incident. -/
def nextStage (incidentId : String) : Stage → CoordinatorEvent → Option Stage
  | .idle, .started => some .verifying
  | .verifying, .verificationFailed _ => some .rejected
  | .verifying, .preflight outcome => some (.checked outcome)
  | .checked .alreadyResolved, .resolvedNoOp => some (.settled .resolved)
  | .checked .ok, .executed _ => some .executing
  | .checked .ok, .executionFailed hash => some (.failed hash)
  | .executing, .executed _ => some .executing
  | .executing, .executionFailed hash => some (.failed hash)
  | .executing, .resolved => some (.settled .resolved)
  | .failed hash, .compensated hash' => if hash' = hash then some .handedBack else none
  | .failed hash, .compensationFailed hash' =>
      if hash' = hash then some .handedBack else none
  | .rejected, .escalated id
  | .checked .parameterDrift, .escalated id
  | .handedBack, .escalated id =>
      if id = incidentId then some (.settled .escalated) else none
  | _, _ => none

def protocol (incidentId : String) : Protocol Stage CoordinatorEvent where
  next := nextStage incidentId

/-! ### What a part of an invocation tells

A part of an invocation goes from one stage to another. It records events, makes
calls on the executor and adds actions. -/

section Tells

structure Tells (incidentId : String) (s s' : Stage) (trace : List CoordinatorEvent)
    (calls : List ExecutorCall) (added : List Action) : Prop where
  after : (protocol incidentId).after s trace = some s'
  calls_eq : calls.map ExecutorCall.event = trace.filter CoordinatorEvent.IsCall
  added_eq : added.map Action.intentHash = trace.filterMap CoordinatorEvent.actionHash?

variable {incidentId : String} {s s' s'' : Stage}

theorem Tells.refl (s : Stage) : Tells incidentId s s [] [] [] := ⟨rfl, rfl, rfl⟩

theorem Tells.append {trace trace' : List CoordinatorEvent}
    {calls calls' : List ExecutorCall} {added added' : List Action}
    (h : Tells incidentId s s' trace calls added)
    (h' : Tells incidentId s' s'' trace' calls' added') :
    Tells incidentId s s'' (trace ++ trace') (calls ++ calls') (added ++ added') where
  after := by
    rw [Protocol.after_append_of_after h.after]
    exact h'.after
  calls_eq := by rw [List.map_append, List.filter_append, h.calls_eq, h'.calls_eq]
  added_eq := by rw [List.map_append, List.filterMap_append, h.added_eq, h'.added_eq]

/-- An event without a call. -/
theorem Tells.event {e : CoordinatorEvent} {added : List Action}
    (hnext : nextStage incidentId s e = some s') (hcall : e.IsCall = false)
    (hadded : added.map Action.intentHash = e.actionHash?.toList) :
    Tells incidentId s s' [e] [] added where
  after := by
    rw [Protocol.after_singleton]
    exact hnext
  calls_eq := by simp [hcall]
  added_eq := by
    rw [hadded]
    cases h : e.actionHash? <;> simp [h]

/-- A call, and the event of it. -/
theorem Tells.call (call : ExecutorCall) {added : List Action}
    (hnext : nextStage incidentId s call.event = some s')
    (hadded : added.map Action.intentHash = call.event.actionHash?.toList) :
    Tells incidentId s s' [call.event] [call] added where
  after := by
    rw [Protocol.after_singleton]
    exact hnext
  calls_eq := by
    have hcall : call.event.IsCall = true := by
      cases call with
      | execute intent outcome => cases outcome <;> rfl
      | compensate intent outcome => cases outcome <;> rfl
    simp [hcall]
  added_eq := by
    rw [hadded]
    cases h : call.event.actionHash? <;> simp [h]

end Tells

/-- The rest of an invocation, from a stage, the timeline, the actions and the calls
so far. The stage it stops at has the phase of the update, and somebody is called
exactly when that phase is `escalated`. -/
def Told (env : CoordinatorEnv) (incidentId : String) (s : Stage)
    (timeline : List TimelineEvent) (actionsTaken : List Action)
    (calls : List ExecutorCall) (result : CoordinatorResult) : Prop :=
  ∃ s' trace calls' added, Tells incidentId s s' trace calls' added ∧
    result.update.timeline = timeline ++ trace.map (CoordinatorEvent.written env) ∧
    result.calls = calls ++ calls' ∧
    result.update.actionsTaken = actionsTaken ++ added ∧
    s'.phase? = some result.update.phase ∧
    (result.escalation.isSome ↔ result.update.phase = .escalated)

theorem Told.of_tells {env : CoordinatorEnv} {incidentId : String} {s s' : Stage}
    {timeline : List TimelineEvent} {actionsTaken : List Action}
    {calls : List ExecutorCall} {result : CoordinatorResult}
    {trace : List CoordinatorEvent} {calls' : List ExecutorCall} {added : List Action}
    (h : Tells incidentId s s' trace calls' added)
    (hrest : Told env incidentId s' (timeline ++ trace.map (CoordinatorEvent.written env))
      (actionsTaken ++ added) (calls ++ calls') result) :
    Told env incidentId s timeline actionsTaken calls result := by
  obtain ⟨s'', trace', calls'', added', htells, htimeline, hcalls, hactions, hend⟩ := hrest
  refine ⟨s'', _, _, _, h.append htells, ?_, ?_, ?_, hend⟩
  · rw [htimeline, List.map_append, List.append_assoc]
  · rw [hcalls, List.append_assoc]
  · rw [hactions, List.append_assoc]

/-! ### Each step follows the protocol -/

section Steps

variable (env : CoordinatorEnv)

/-- The stages that hand the incident over. -/
def MayEscalate (s : Stage) : Prop :=
  s = .rejected ∨ s = .checked .parameterDrift ∨ s = .handedBack

theorem nextStage_escalated (incidentId : String) {s : Stage} (hs : MayEscalate s) :
    nextStage incidentId s (.escalated incidentId) = some (.settled .escalated) := by
  obtain rfl | rfl | rfl := hs <;> exact if_pos rfl

theorem escalate_told (state : IncidentState) {s : Stage} (hs : MayEscalate s)
    (timeline : List TimelineEvent) (actionsTaken : List Action)
    (failureReasons extra : List String) (calls : List ExecutorCall) :
    Told env state.incidentId s timeline actionsTaken calls
      (escalate env state timeline actionsTaken failureReasons extra calls) := by
  refine ⟨.settled .escalated, [.escalated state.incidentId], [], [],
    .event (nextStage_escalated _ hs) rfl rfl, rfl, ?_, ?_, rfl, ?_⟩
  · rw [List.append_nil]
    rfl
  · rw [List.append_nil]
    rfl
  · simp [escalate]

variable {σ : Type} (executor : Executor σ)

/-- Executions may start after the re-check and go on after one another. -/
def MayExecute (s : Stage) : Prop := s = .checked .ok ∨ s = .executing

/-- The execution loop: it runs to its end, or stops at a call that raised. -/
theorem executeIntents_tells (incidentId : String) (intents : List ActionIntent)
    (loop : ExecLoop σ) (hloop : loop.failedIntent = none) {s : Stage} (hs : MayExecute s) :
    ∃ s' trace calls added, Tells incidentId s s' trace calls added ∧
      (executeIntents env executor intents loop).timeline =
        loop.timeline ++ trace.map (CoordinatorEvent.written env) ∧
      (executeIntents env executor intents loop).calls = loop.calls ++ calls ∧
      (executeIntents env executor intents loop).actionsTaken =
        loop.actionsTaken ++ added ∧
      (((executeIntents env executor intents loop).failedIntent = none ∧
          (executeIntents env executor intents loop).failureReasons = loop.failureReasons ∧
          s' = if intents = [] then s else .executing) ∨
        ∃ failed, (executeIntents env executor intents loop).failedIntent = some failed ∧
          s' = .failed failed.hash) := by
  induction intents generalizing loop s with
  | nil =>
      refine ⟨s, [], [], [], .refl s, ?_, ?_, ?_, .inl ⟨hloop, rfl, rfl⟩⟩ <;>
        simp [executeIntents]
  | cons intent intents ih =>
      rcases hcall : executor.execute loop.executor intent with
        ⟨exc | ⟨record, action⟩, ex⟩
      · -- The call raised, and the loop is left.
        have hnext : nextStage incidentId s (.executionFailed intent.hash) =
            some (.failed intent.hash) := by
          obtain rfl | rfl := hs <;> rfl
        refine ⟨.failed intent.hash, _, _, [execFailAction env intent exc],
          .call (.execute intent (.error exc)) hnext rfl, ?_, ?_, ?_,
          .inr ⟨intent, ?_, rfl⟩⟩ <;> simp only [executeIntents, hcall]
        rfl
      · have hnext : nextStage incidentId s (.executed intent.hash) = some .executing := by
          obtain rfl | rfl := hs <;> rfl
        have hbinds : action.intentHash = some intent.hash :=
          executor.execute_binds loop.executor intent (record, action) (by rw [hcall])
        have hstep : Tells incidentId s .executing [.executed intent.hash]
            [.execute intent (.ok (record, action))] [action] :=
          .call (.execute intent (.ok (record, action))) hnext
            (congrArg (fun h => [h]) hbinds)
        obtain ⟨s', trace, calls, added, htells, htimeline, hcalls, hactions, hend⟩ :=
          ih { loop with
            executor := ex
            actionsTaken := loop.actionsTaken ++ [action]
            timeline := loop.timeline ++
              [makeEvent env "coordinator.executed" (some intent.hash)]
            calls := loop.calls ++ [.execute intent (.ok (record, action))] } hloop
            (.inr rfl : MayExecute .executing)
        refine ⟨s', _, _, _, hstep.append htells, ?_, ?_, ?_, ?_⟩ <;>
          simp only [executeIntents, hcall]
        · rw [htimeline, List.append_assoc]
          rfl
        · rw [hcalls, List.append_assoc]
        · rw [hactions, List.append_assoc]
        · obtain ⟨hfailed, hreasons, rfl⟩ | hfailed := hend
          · refine .inl ⟨hfailed, hreasons, ?_⟩
            rw [if_neg (List.cons_ne_nil intent intents)]
            exact ite_self _
          · exact .inr hfailed

/-- The compensation of the intent that failed. -/
theorem compensateFailed_told (state : IncidentState) (loop : ExecLoop σ)
    (failed : ActionIntent) :
    Told env state.incidentId (.failed failed.hash) loop.timeline loop.actionsTaken loop.calls
      (compensateFailed env executor state loop failed) := by
  have hescalated : MayEscalate .handedBack := .inr (.inr rfl)
  rcases hcall : executor.compensate loop.executor failed with
    ⟨exc | ⟨record, action⟩, ex⟩
  · have hstep : Tells state.incidentId (.failed failed.hash) .handedBack
        [.compensationFailed failed.hash] [.compensate failed (.error exc)] [] :=
      .call (.compensate failed (.error exc)) (if_pos rfl) rfl
    simp only [compensateFailed, hcall]
    apply Told.of_tells hstep
    rw [List.append_nil]
    exact escalate_told env state hescalated _ _ _ _ _
  · have hbinds : action.intentHash = some failed.hash :=
      executor.compensate_binds loop.executor failed (record, action) (by rw [hcall])
    have hstep : Tells state.incidentId (.failed failed.hash) .handedBack
        [.compensated failed.hash] [.compensate failed (.ok (record, action))] [action] :=
      .call (.compensate failed (.ok (record, action))) (if_pos rfl)
        (congrArg (fun h => [h]) hbinds)
    simp only [compensateFailed, hcall]
    apply Told.of_tells hstep
    exact escalate_told env state hescalated _ _ _ _ _

theorem executeVerified_told (state : IncidentState) (timeline : List TimelineEvent)
    {verified : List ActionIntent} (hne : verified ≠ []) :
    Told env state.incidentId (.checked .ok) timeline state.actionsTaken []
      (executeVerified env executor state timeline verified) := by
  let loop₀ : ExecLoop σ :=
    { executor := executor.init, actionsTaken := state.actionsTaken, timeline := timeline }
  obtain ⟨s', trace, calls, added, htells, htimeline, hcalls, hactions, hend⟩ :=
    executeIntents_tells env executor state.incidentId verified loop₀ rfl
      (.inl rfl : MayExecute (.checked .ok))
  apply Told.of_tells htells
  obtain ⟨hfailed, hreasons, rfl⟩ | ⟨failed, hfailed, rfl⟩ := hend
  · -- Every call returned; no reason to escalate was collected.
    have hreasons' : (executeIntents env executor verified loop₀).failureReasons.isEmpty =
        true := by
      rw [hreasons]
      rfl
    rw [if_neg hne]
    refine ⟨.settled .resolved, [.resolved], [], [], .event rfl rfl rfl, ?_⟩
    simp only [executeVerified, loop₀] at hfailed hreasons' ⊢
    rw [hfailed]
    simp only [hreasons', if_true]
    refine ⟨?_, ?_, ?_, rfl, by simp⟩
    · rw [htimeline]
      rfl
    · rw [hcalls, List.append_nil]
    · rw [hactions, List.append_nil]
  · have htold := compensateFailed_told env executor state
      (executeIntents env executor verified loop₀) failed
    rw [htimeline, hcalls, hactions] at htold
    simp only [executeVerified, loop₀] at hfailed htold ⊢
    rw [hfailed]
    exact htold

theorem afterVerification_told (state : IncidentState) (timeline : List TimelineEvent) :
    Told env state.incidentId .verifying timeline state.actionsTaken []
      (afterVerification env executor state timeline state.actionIntents) := by
  have hstep : Tells state.incidentId .verifying
      (.checked (checkPreflight state state.actionIntents).outcome)
      [.preflight (checkPreflight state state.actionIntents).outcome] [] [] :=
    .event rfl rfl rfl
  apply Told.of_tells hstep
  rw [List.append_nil, List.append_nil]
  cases hout : (checkPreflight state state.actionIntents).outcome with
  | ok =>
      rw [afterVerification_of_ok env executor state _ _ hout]
      exact executeVerified_told env executor state _ ((checkPreflight_ok_iff _ _).mp hout).1
  | diagnosisInvalidated =>
      simp only [afterVerification, hout]
      refine ⟨.checked .diagnosisInvalidated, [], [], [], .refl _, ?_, ?_, ?_, rfl, by simp⟩
      · rw [List.map_nil, List.append_nil]
        rfl
      · rfl
      · rw [List.append_nil]
  | parameterDrift =>
      simp only [afterVerification, hout]
      split
      · exact escalate_told env state (.inr (.inl rfl)) _ _ _ _ _
      · refine ⟨.checked .parameterDrift, [], [], [], .refl _, ?_, ?_, ?_, rfl, by simp⟩
        · rw [List.map_nil, List.append_nil]
          rfl
        · rfl
        · rw [List.append_nil]
  | alreadyResolved =>
      simp only [afterVerification, hout]
      refine ⟨.settled .resolved, [.resolvedNoOp], [], [noOpAction env],
        .event rfl rfl rfl, ?_, rfl, rfl, rfl, by simp⟩
      rfl

/-- A whole invocation. -/
theorem coordinatorAsync_told (verify : ActionIntent → Except String Unit)
    (state : IncidentState) :
    Told env state.incidentId .idle state.timeline state.actionsTaken []
      (coordinatorAsync env verify executor state) := by
  have hstarted : Tells state.incidentId .idle .verifying [.started] [] [] :=
    .event rfl rfl rfl
  apply Told.of_tells hstarted
  rw [List.append_nil, List.append_nil]
  rcases coordinatorAsync_cases env verify executor state with
    ⟨bad, exc, -, hrun⟩ | ⟨-, hrun⟩
  · rw [hrun, rejectIntent]
    have hrejected : Tells state.incidentId .verifying .rejected
        [.verificationFailed bad.hash] [] [verifyFailAction env bad exc] :=
      .event rfl rfl rfl
    apply Told.of_tells hrejected
    exact escalate_told env state (.inl rfl) _ _ _ _ _
  · rw [hrun]
    exact afterVerification_told env executor state _

/-- **The Coordinator follows its protocol.** Whatever the state, the verifier and the
executor: the lines that an invocation adds to the timeline are read as a trace of the
protocol, and from the trace can be read the calls that were made and how each of them
ended, the intents the added actions are bound to, the phase, and whether an escalation
package was handed over. -/
theorem coordinatorAsync_log (verify : ActionIntent → Except String Unit)
    (state : IncidentState) :
    let result := coordinatorAsync env verify executor state
    let lines := result.update.timeline.drop state.timeline.length
    let trace := lines.filterMap CoordinatorEvent.read
    state.timeline <+: result.update.timeline ∧
    state.actionsTaken <+: result.update.actionsTaken ∧
    ∃ s, ((protocol state.incidentId).reading CoordinatorEvent.read).after .idle lines =
        some s ∧
      result.calls.map ExecutorCall.event = trace.filter CoordinatorEvent.IsCall ∧
      (result.update.actionsTaken.drop state.actionsTaken.length).map Action.intentHash =
        trace.filterMap CoordinatorEvent.actionHash? ∧
      s.phase? = some result.update.phase ∧
      (result.escalation.isSome ↔ result.update.phase = .escalated) := by
  intro result lines trace
  obtain ⟨s, events, calls, added, htells, htimeline, hcalls, hactions, hphase, hescalated⟩ :=
    coordinatorAsync_told env executor verify state
  have hlines : lines = events.map (CoordinatorEvent.written env) := by
    show result.update.timeline.drop state.timeline.length = _
    rw [htimeline, List.drop_left]
  have htrace : trace = events := by
    show lines.filterMap CoordinatorEvent.read = events
    rw [hlines, List.filterMap_map]
    have hread : CoordinatorEvent.read ∘ CoordinatorEvent.written env = some :=
      funext (CoordinatorEvent.read_written env)
    rw [hread, List.filterMap_some]
  refine ⟨htimeline ▸ List.prefix_append _ _, hactions ▸ List.prefix_append _ _, s, ?_, ?_, ?_,
    hphase, hescalated⟩
  · have hwritten : List.Forall₂ (fun line e => CoordinatorEvent.read line = some e)
        (events.map (CoordinatorEvent.written env)) events := by
      rw [List.forall₂_map_left_iff, List.forall₂_same]
      exact fun e _ => CoordinatorEvent.read_written env e
    rw [hlines, Protocol.after_reading _ hwritten, htells.after]
  · rw [htrace, ← htells.calls_eq, hcalls, List.nil_append]
  · rw [htrace, ← htells.added_eq, hactions, List.drop_left]

end Steps

end AlphE.Coordinator
