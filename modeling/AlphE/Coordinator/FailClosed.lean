import AlphE.Coordinator.Exits

/-!
The Coordinator fails closed: one rejected intent, wherever it stands in the
list, and nothing runs. The executor is arbitrary here, and so is the
verifier.
-/

namespace AlphE.Coordinator

/-- What failing closed on the intent `bad` means for the returned update and
for the executor. -/
structure FailedClosed (state : IncidentState) (bad : ActionIntent)
    (result : CoordinatorResult) : Prop where
  phase_eq : result.update.phase = .escalated
  calls_eq : result.calls = []
  actionsTaken_eq : ∃ action,
    result.update.actionsTaken = state.actionsTaken ++ [action] ∧
    action.status = .failed ∧ action.intentHash = some bad.hash
  timeline_eq : ∃ events, result.update.timeline = state.timeline ++ events ∧
    ∀ event ∈ events, event.eventType ≠ "coordinator.executed"

theorem rejectIntent_failedClosed (env : CoordinatorEnv) (state : IncidentState)
    (bad : ActionIntent) (exc : String) :
    FailedClosed state bad
      (rejectIntent env state (startedTimeline env state) bad exc) where
  phase_eq := rfl
  calls_eq := rfl
  actionsTaken_eq := ⟨verifyFailAction env bad exc, rfl, rfl, rfl⟩
  timeline_eq := by
    refine ⟨[makeEvent env "coordinator.started" none,
      makeEvent env "coordinator.verification_failed" (some bad.hash),
      makeEvent env "coordinator.escalated" (some state.incidentId)], ?_, ?_⟩
    · simp [rejectIntent, escalate, startedTimeline, buildEscalationPackage]
    · intro event hevent
      simp only [List.mem_cons, List.not_mem_nil, or_false] at hevent
      rcases hevent with rfl | rfl | rfl <;> simp [makeEvent]

/-- The license under which a succeeded action bound to a hash may be added:
the hash is that of an intent of the state, every intent is verified, and the
preflight came out `ok`. -/
def Licensed (verify : ActionIntent → Except String Unit) (state : IncidentState)
    (hash : String) : Prop :=
  (∃ intent ∈ state.actionIntents, intent.hash = hash) ∧
    AllVerified verify state.actionIntents ∧
    (checkPreflight state state.actionIntents).outcome = .ok

/-- Whatever the exit, the actions grow at the end, and each succeeded action
that is bound to a hash is licensed. -/
theorem coordinatorAsync_licensed {σ : Type} (env : CoordinatorEnv)
    (verify : ActionIntent → Except String Unit) (executor : Executor σ)
    (state : IncidentState) :
    ∃ added,
      (coordinatorAsync env verify executor state).update.actionsTaken =
        state.actionsTaken ++ added ∧
      ∀ action ∈ added, action.status = .succeeded →
        ∀ hash, action.intentHash = some hash → Licensed verify state hash := by
  rcases coordinatorAsync_cases env verify executor state with
    ⟨bad, exc, -, hrun⟩ | ⟨hall, hrun⟩
  · rw [hrun]
    obtain ⟨action, hadded, hstatus, -⟩ :=
      (rejectIntent_failedClosed env state bad exc).actionsTaken_eq
    refine ⟨[action], hadded, ?_⟩
    intro a ha hsucceeded
    rw [List.mem_singleton] at ha
    rw [ha, hstatus] at hsucceeded
    cases hsucceeded
  · -- Bound actions come out of the execution loop only.
    rw [hrun]
    by_cases hok : (checkPreflight state state.actionIntents).outcome = .ok
    · rw [afterVerification_of_ok env executor state _ _ hok]
      obtain ⟨added, hadded, hbound⟩ := executeVerified_actionsTaken env executor state
        (startedTimeline env state ++
          [makeEvent env ("coordinator.preflight." ++ "ok") none]) state.actionIntents
      refine ⟨added, hadded, ?_⟩
      intro a ha _ hash hhash
      obtain ⟨intent, hmem, hintent⟩ := hbound a ha
      refine ⟨⟨intent, hmem, ?_⟩, hall, hok⟩
      rw [hintent] at hhash
      exact Option.some.inj hhash
    · obtain ⟨-, added, hadded, hunbound⟩ :=
        afterVerification_of_ne_ok env executor state (startedTimeline env state) _ hok
      refine ⟨added, hadded, ?_⟩
      intro a ha _ hash hhash
      rw [hunbound a ha] at hhash
      cases hhash

/-- **The Coordinator fails closed.** If some intent is rejected, the
invocation fails closed on the first one; and in every case only licensed
actions are added as succeeded. -/
theorem coordinatorAsync_failsClosed {σ : Type} (env : CoordinatorEnv)
    (verify : ActionIntent → Except String Unit) (executor : Executor σ)
    (state : IncidentState) :
    ((∃ intent ∈ state.actionIntents, ∃ exc, verify intent = .error exc) →
      ∃ bad exc, FirstRejected verify state.actionIntents bad exc ∧
        FailedClosed state bad (coordinatorAsync env verify executor state)) ∧
    ∃ added,
      (coordinatorAsync env verify executor state).update.actionsTaken =
        state.actionsTaken ++ added ∧
      ∀ action ∈ added, action.status = .succeeded →
        ∀ hash, action.intentHash = some hash → Licensed verify state hash := by
  refine ⟨?_, coordinatorAsync_licensed env verify executor state⟩
  rintro ⟨intent, hmem, exc, hexc⟩
  have hnot : ¬ AllVerified verify state.actionIntents := by
    intro hall
    have hok := hall intent hmem
    rw [hexc] at hok
    cases hok
  obtain ⟨bad, exc', hbad, hrun⟩ :=
    coordinatorAsync_of_not_allVerified env executor hnot
  exact ⟨bad, exc', hbad, hrun ▸ rejectIntent_failedClosed env state bad exc'⟩

/-- An accepted intent followed by a rejected one and another accepted one. -/
theorem coordinatorAsync_failsClosed_second :
    let verify := fun intent : ActionIntent =>
      if intent.signature = "BADSIG000000" then Except.error "BADSIG000000" else .ok ()
    let bad := { testIntent with hash := "0badc0de", signature := "BADSIG000000" }
    ∃ bad' exc, FirstRejected verify [testIntent, bad, testIntent] bad' exc ∧
      FailedClosed (testState [testHypothesis .confirmed] [testIntent, bad, testIntent])
        bad' (coordinatorAsync testEnv verify (coordinatorExecutor testEnv.toExecEnv)
          (testState [testHypothesis .confirmed] [testIntent, bad, testIntent])) := by
  intro verify bad
  exact (coordinatorAsync_failsClosed testEnv verify (coordinatorExecutor testEnv.toExecEnv)
    (testState [testHypothesis .confirmed] [testIntent, bad, testIntent])).1
    ⟨bad, by simp [testState], "BADSIG000000", rfl⟩

end AlphE.Coordinator
