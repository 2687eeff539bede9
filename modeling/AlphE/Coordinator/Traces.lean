import AlphE.Coordinator.Protocol

/-!
Which traces occur. The protocol of the Coordinator allows nothing that cannot
happen: every trace that stops where an invocation may stop is recorded by some
invocation. For each of them there is a state, a verifier and an executor here; the
executor follows a script, which says how many executions it lets through before one
raises, and whether its compensation raises.
-/

namespace AlphE.Coordinator

/-- Some invocation for the incident records the trace. -/
def Occurs (incidentId : String) (trace : List CoordinatorEvent) : Prop :=
  ∃ (σ : Type) (env : CoordinatorEnv) (verify : ActionIntent → Except String Unit)
    (executor : Executor σ) (state : IncidentState), state.incidentId = incidentId ∧
    (coordinatorAsync env verify executor state).update.timeline =
      state.timeline ++ trace.map (CoordinatorEvent.written env)

/-- The protocol allows the trace, and the invocation may stop after it. -/
def Complete (incidentId : String) (trace : List CoordinatorEvent) : Prop :=
  ∃ s, (protocol incidentId).after .idle trace = some s ∧ s.phase?.isSome

theorem written_injective (env : CoordinatorEnv) :
    Function.Injective (CoordinatorEvent.written env) := by
  intro e e' h
  have hread := congrArg CoordinatorEvent.read h
  rw [CoordinatorEvent.read_written, CoordinatorEvent.read_written] at hread
  exact Option.some.inj hread

theorem Occurs.complete {incidentId : String} {trace : List CoordinatorEvent}
    (h : Occurs incidentId trace) : Complete incidentId trace := by
  obtain ⟨σ, env, verify, executor, state, rfl, htrace⟩ := h
  obtain ⟨s, trace', calls, added, htells, htimeline, -, -, hphase, -⟩ :=
    coordinatorAsync_told env executor verify state
  rw [htimeline, List.append_cancel_left_eq] at htrace
  have heq : trace' = trace := (written_injective env).list_map htrace
  exact ⟨s, heq ▸ htells.after, Option.isSome_iff_exists.mpr ⟨_, hphase⟩⟩

/-! ### Invocations on order -/

section Orders

def scriptedRecord (intent : ActionIntent) : ExecutionRecord × Action :=
  ({ recordId := "", intentHash := intent.hash, actionType := intent.actionType,
     target := intent.target, executedAt := testNow },
   { id := "", type := intent.actionType, description := "", status := .succeeded,
     intentHash := some intent.hash })

/-- An executor that lets as many executions through as its state says. -/
def scripted (through : ℕ) (compensates : Bool) : Executor ℕ where
  init := through
  execute
    | 0, _ => (.error "", 0)
    | n + 1, intent => (.ok (scriptedRecord intent), n)
  compensate n intent :=
    (if compensates then .ok (scriptedRecord intent) else .error "", n)
  execute_binds := by
    intro n intent p h
    cases n with
    | zero => cases h
    | succ n =>
        cases h
        rfl
  compensate_binds := by
    intro n intent p h
    cases compensates with
    | true =>
        cases h
        rfl
    | false => cases h

def orderedIntent (hash : String) : ActionIntent := { testIntent with hash := hash }

/-- A state of the incident with these hypotheses and intents. -/
def orderedState (incidentId : String) (statuses : List HypothesisStatus)
    (hashes : List String) : IncidentState :=
  { testState (statuses.map testHypothesis) (hashes.map orderedIntent) with
    incidentId := incidentId }

/-- What an invocation records on a state without a timeline. -/
theorem Occurs.of_eq {incidentId : String} {trace : List CoordinatorEvent}
    (verify : ActionIntent → Except String Unit) (through : ℕ) (compensates : Bool)
    (statuses : List HypothesisStatus) (hashes : List String)
    (h : (coordinatorAsync testEnv verify (scripted through compensates)
        (orderedState incidentId statuses hashes)).update.timeline =
      trace.map (CoordinatorEvent.written testEnv)) : Occurs incidentId trace :=
  ⟨ℕ, testEnv, verify, scripted through compensates,
    orderedState incidentId statuses hashes, rfl, h⟩

variable (incidentId : String)

theorem occurs_rejected (hash : String) :
    Occurs incidentId
      [.started, .verificationFailed hash, .escalated incidentId] :=
  .of_eq (fun _ => .error "") 0 false [] [hash] rfl

theorem occurs_drifted_escalated :
    Occurs incidentId
      [.started, .preflight .parameterDrift, .escalated incidentId] :=
  .of_eq (fun _ => .ok ()) 0 false [.«open»] [] rfl

theorem occurs_drifted : Occurs incidentId [.started, .preflight .parameterDrift] :=
  .of_eq (fun _ => .ok ()) 0 false [.«open»] [""] rfl

theorem occurs_invalidated : Occurs incidentId [.started, .preflight .diagnosisInvalidated] :=
  .of_eq (fun _ => .ok ()) 0 false [.refuted] [""] rfl

theorem occurs_no_op :
    Occurs incidentId [.started, .preflight .alreadyResolved, .resolvedNoOp] :=
  .of_eq (fun _ => .ok ()) 0 false [] [] rfl

/-- Executions that are let through. -/
theorem executeIntents_scripted (n : ℕ) (compensates : Bool) (hashes : List String)
    (intents : List ActionIntent) (through : ℕ) (loop : ExecLoop ℕ)
    (hloop : loop.executor = hashes.length + through) :
    ∃ actions calls,
      executeIntents testEnv (scripted n compensates)
          (hashes.map orderedIntent ++ intents) loop =
        executeIntents testEnv (scripted n compensates) intents
          { loop with
            executor := through
            timeline := loop.timeline ++ (hashes.map CoordinatorEvent.executed).map
              (CoordinatorEvent.written testEnv)
            actionsTaken := actions
            calls := calls } := by
  induction hashes generalizing loop with
  | nil =>
      rw [List.length_nil, Nat.zero_add] at hloop
      refine ⟨loop.actionsTaken, loop.calls, ?_⟩
      rw [List.map_nil, List.nil_append, List.map_nil, List.map_nil, List.append_nil, ← hloop]
  | cons hash hashes ih =>
      have hexec : loop.executor = (hashes.length + through) + 1 := by
        rw [hloop, List.length_cons]
        omega
      have hcall : (scripted n compensates).execute loop.executor (orderedIntent hash) =
          (.ok (scriptedRecord (orderedIntent hash)), hashes.length + through) := by
        rw [hexec]
        rfl
      rw [List.map_cons, List.cons_append, executeIntents, hcall]
      obtain ⟨actions, calls, heq⟩ := ih
        { loop with
          executor := hashes.length + through
          actionsTaken := loop.actionsTaken ++ [(scriptedRecord (orderedIntent hash)).2]
          timeline := loop.timeline ++ [makeEvent testEnv "coordinator.executed" (some hash)]
          calls := loop.calls ++
            [.execute (orderedIntent hash) (.ok (scriptedRecord (orderedIntent hash)))] } rfl
      refine ⟨actions, calls, heq.trans ?_⟩
      rw [List.map_cons, List.map_cons, List.append_assoc]
      rfl

/-- The beginning of an invocation that executes. -/
def executing (hashes : List String) : List CoordinatorEvent :=
  .started :: .preflight .ok :: hashes.map .executed

theorem executing_written (hashes : List String) :
    (executing []).map (CoordinatorEvent.written testEnv) ++
        (hashes.map CoordinatorEvent.executed).map (CoordinatorEvent.written testEnv) =
      (executing hashes).map (CoordinatorEvent.written testEnv) := rfl

theorem coordinatorAsync_ordered (through : ℕ) (compensates : Bool) {hashes : List String}
    (hne : hashes ≠ []) :
    coordinatorAsync testEnv (fun _ => .ok ()) (scripted through compensates)
        (orderedState incidentId [.confirmed] hashes) =
      executeVerified testEnv (scripted through compensates)
        (orderedState incidentId [.confirmed] hashes)
        ((executing []).map (CoordinatorEvent.written testEnv))
        (hashes.map orderedIntent) := by
  have hall : AllVerified (fun _ => .ok ())
      (orderedState incidentId [.confirmed] hashes).actionIntents := fun _ _ => rfl
  have hok : (checkPreflight (orderedState incidentId [.confirmed] hashes)
      (orderedState incidentId [.confirmed] hashes).actionIntents).outcome = .ok := by
    rw [checkPreflight_ok_iff]
    refine ⟨?_, testHypothesis .confirmed, List.mem_singleton.mpr rfl, rfl⟩
    intro hnil
    exact hne (List.map_eq_nil_iff.mp hnil)
  rw [coordinatorAsync_of_allVerified _ _ hall, afterVerification_of_ok _ _ _ _ _ hok]
  rfl

theorem occurs_resolved {hashes : List String} (hne : hashes ≠ []) :
    Occurs incidentId (executing hashes ++ [.resolved]) := by
  apply Occurs.of_eq (fun _ => .ok ()) hashes.length false [.confirmed] hashes
  rw [coordinatorAsync_ordered incidentId hashes.length false hne]
  obtain ⟨actions, calls, hloop⟩ := executeIntents_scripted hashes.length false hashes [] 0
    { executor := (scripted hashes.length false).init
      actionsTaken := []
      timeline := (executing []).map (CoordinatorEvent.written testEnv) } rfl
  rw [List.append_nil] at hloop
  have hactions : (orderedState incidentId [.confirmed] hashes).actionsTaken = [] := rfl
  rw [executeVerified, hactions, hloop]
  simp only [executeIntents, List.isEmpty_nil, if_true]
  rw [executing_written, List.map_append]
  rfl

theorem compensateFailed_scripted (n : ℕ) (compensates : Bool) (state : IncidentState)
    (loop : ExecLoop ℕ) (failed : ActionIntent) :
    (compensateFailed testEnv (scripted n compensates) state loop failed).update.timeline =
      loop.timeline ++
        [if compensates then .compensated failed.hash else .compensationFailed failed.hash,
          .escalated state.incidentId].map (CoordinatorEvent.written testEnv) := by
  cases compensates with
  | true => exact List.append_assoc _ _ _
  | false => exact List.append_assoc _ _ _

/-- The executor raises on the last intent, and the Coordinator asks for its
compensation. -/
theorem occurs_compensated (hashes : List String) (hash : String) (compensates : Bool) :
    Occurs incidentId (executing hashes ++
      [.executionFailed hash,
        if compensates then .compensated hash else .compensationFailed hash,
        .escalated incidentId]) := by
  apply Occurs.of_eq (fun _ => .ok ()) hashes.length compensates [.confirmed]
    (hashes ++ [hash])
  have hne : hashes ++ [hash] ≠ [] := List.append_ne_nil_of_right_ne_nil _ (by simp)
  rw [coordinatorAsync_ordered incidentId hashes.length compensates hne]
  obtain ⟨actions, calls, hloop⟩ := executeIntents_scripted hashes.length compensates hashes
    [orderedIntent hash] 0
    { executor := (scripted hashes.length compensates).init
      actionsTaken := []
      timeline := (executing []).map (CoordinatorEvent.written testEnv) } rfl
  have hactions : (orderedState incidentId [.confirmed] (hashes ++ [hash])).actionsTaken = [] :=
    rfl
  rw [executeVerified, hactions, List.map_append, List.map_singleton, hloop]
  have hraise : (scripted hashes.length compensates).execute 0 (orderedIntent hash) =
      (.error "", 0) := rfl
  simp only [executeIntents, hraise]
  rw [executing_written, compensateFailed_scripted, List.append_assoc, List.map_append]
  rfl

end Orders

/-! ### What is left of a trace

From each stage, the ways an invocation can go on from there until it stops. -/

section Rest

variable {incidentId : String} {s : Stage} {trace : List CoordinatorEvent}

theorem rest_settled {phase : IncidentPhase}
    (h : (protocol incidentId).after (.settled phase) trace = some s) : trace = [] := by
  cases trace with
  | nil => rfl
  | cons e trace =>
      obtain ⟨s', hnext, -⟩ := Protocol.exists_of_after_cons h
      cases e <;> cases hnext

theorem rest_escalating {s₀ : Stage} (hs₀ : MayEscalate s₀)
    (h : (protocol incidentId).after s₀ trace = some s) :
    trace = [] ∨ trace = [.escalated incidentId] := by
  cases trace with
  | nil => exact .inl rfl
  | cons e trace =>
      obtain ⟨s', hnext, hrest⟩ := Protocol.exists_of_after_cons h
      have hid : e = .escalated incidentId ∧ s' = .settled .escalated := by
        obtain rfl | rfl | rfl := hs₀ <;> cases e <;>
          simp_all [protocol, nextStage]
      obtain ⟨rfl, rfl⟩ := hid
      rw [rest_settled hrest]
      exact .inr rfl

/-- An invocation stops nowhere on the way to an escalation but at a drift. -/
theorem rest_escalated {s₀ : Stage} (hs₀ : MayEscalate s₀) (hphase₀ : s₀.phase? = none)
    (h : (protocol incidentId).after s₀ trace = some s) (hphase : s.phase?.isSome) :
    trace = [.escalated incidentId] := by
  obtain rfl | htrace := rest_escalating hs₀ h
  · rw [Protocol.after_nil, Option.some.injEq] at h
    rw [← h, hphase₀] at hphase
    cases hphase
  · exact htrace

theorem rest_failed {hash : String}
    (h : (protocol incidentId).after (.failed hash) trace = some s) (hphase : s.phase?.isSome) :
    ∃ compensates : Bool, trace =
      [if compensates then .compensated hash else .compensationFailed hash,
        .escalated incidentId] := by
  cases trace with
  | nil =>
      cases h
      cases hphase
  | cons e trace =>
      obtain ⟨s', hnext, hrest⟩ := Protocol.exists_of_after_cons h
      have hcall : s' = .handedBack ∧ (e = .compensated hash ∨ e = .compensationFailed hash) := by
        cases e <;> simp_all [protocol, nextStage]
      obtain ⟨rfl, he⟩ := hcall
      have htrace := rest_escalated (.inr (.inr rfl)) rfl hrest hphase
      obtain rfl | rfl := he
      · exact ⟨true, by rw [htrace]; rfl⟩
      · exact ⟨false, by rw [htrace]; rfl⟩

/-- Executions so far, and what is left of the trace. -/
theorem occurs_of_executing (hashes : List String) {s₀ : Stage}
    (hs₀ : s₀ = if hashes = [] then .checked .ok else .executing)
    (h : (protocol incidentId).after s₀ trace = some s) (hphase : s.phase?.isSome) :
    Occurs incidentId (executing hashes ++ trace) := by
  induction trace generalizing hashes s₀ with
  | nil =>
      -- The invocation does not stop here.
      rw [Protocol.after_nil, Option.some.injEq] at h
      rw [← h, hs₀] at hphase
      split at hphase <;> cases hphase
  | cons e trace ih =>
      obtain ⟨s', hnext, hrest⟩ := Protocol.exists_of_after_cons h
      have hmay : MayExecute s₀ := by
        rw [hs₀]
        split
        · exact .inl rfl
        · exact .inr rfl
      cases e with
      | executed hash =>
          have hs' : s' = .executing := by
            obtain rfl | rfl := hmay <;> cases hnext <;> rfl
          have hnew : s' = if hashes ++ [hash] = [] then .checked .ok else .executing := by
            rw [hs', if_neg (List.concat_ne_nil hash hashes)]
          have hmore := ih (hashes ++ [hash]) hnew hrest
          rw [executing, List.map_append] at hmore
          simpa [executing] using hmore
      | executionFailed hash =>
          have hs' : s' = .failed hash := by
            obtain rfl | rfl := hmay <;> cases hnext <;> rfl
          rw [hs'] at hrest
          obtain ⟨compensates, rfl⟩ := rest_failed hrest hphase
          exact occurs_compensated incidentId hashes hash compensates
      | resolved =>
          have hne : hashes ≠ [] := by
            intro hnil
            rw [hs₀, if_pos hnil] at hnext
            cases hnext
          have hs' : s' = .settled .resolved := by
            obtain rfl | rfl := hmay <;> cases hnext
            rfl
          rw [hs'] at hrest
          rw [rest_settled hrest]
          exact occurs_resolved incidentId hne
      | _ => obtain rfl | rfl := hmay <;> cases hnext

theorem occurs_of_checked {outcome : PreflightOutcome}
    (h : (protocol incidentId).after (.checked outcome) trace = some s)
    (hphase : s.phase?.isSome) :
    Occurs incidentId (.started :: .preflight outcome :: trace) := by
  cases outcome with
  | ok => exact occurs_of_executing [] rfl h hphase
  | parameterDrift =>
      obtain rfl | rfl := rest_escalating (.inr (.inl rfl)) h
      · exact occurs_drifted incidentId
      · exact occurs_drifted_escalated incidentId
  | diagnosisInvalidated =>
      cases trace with
      | nil => exact occurs_invalidated incidentId
      | cons e trace =>
          obtain ⟨s', hnext, -⟩ := Protocol.exists_of_after_cons h
          cases e <;> cases hnext
  | alreadyResolved =>
      cases trace with
      | nil =>
          cases h
          cases hphase
      | cons e trace =>
          obtain ⟨s', hnext, hrest⟩ := Protocol.exists_of_after_cons h
          cases e with
          | resolvedNoOp =>
              cases hnext
              rw [rest_settled hrest]
              exact occurs_no_op incidentId
          | _ => cases hnext

theorem Complete.occurs (h : Complete incidentId trace) : Occurs incidentId trace := by
  obtain ⟨s, hafter, hphase⟩ := h
  cases trace with
  | nil =>
      cases hafter
      cases hphase
  | cons e trace =>
      obtain ⟨s', hnext, hrest⟩ := Protocol.exists_of_after_cons hafter
      cases e with
      | started =>
          cases hnext
          cases trace with
          | nil =>
              cases hrest
              cases hphase
          | cons e trace =>
              obtain ⟨s', hnext, hrest⟩ := Protocol.exists_of_after_cons hrest
              cases e with
              | verificationFailed hash =>
                  cases hnext
                  rw [rest_escalated (.inl rfl) rfl hrest hphase]
                  exact occurs_rejected incidentId hash
              | preflight outcome =>
                  cases hnext
                  exact occurs_of_checked hrest hphase
              | _ => cases hnext
      | _ => cases hnext

end Rest

/-- **The traces of the Coordinator.** Over all states of the incident, all verifiers
and all executors, the traces that invocations record are exactly those that the
protocol allows and that stop where an invocation may stop. -/
theorem occurs_iff (incidentId : String) (trace : List CoordinatorEvent) :
    Occurs incidentId trace ↔
      ∃ s, (protocol incidentId).after .idle trace = some s ∧ s.phase?.isSome :=
  ⟨Occurs.complete, Complete.occurs⟩

end AlphE.Coordinator
