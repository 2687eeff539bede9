import AlphE.Coordinator.Exits
import AlphE.Lib.SeenSet

/-!
What the Coordinator executes forward, with the executor it constructs. The
executor never raises, so the loop runs through the whole list and the node
resolves; the outcome labels are those of a scan of the list with the
executor's seen-set, which starts empty in every invocation.
-/

namespace AlphE.Coordinator

/-- The outcome label of a forward execution, by whether the hash is fresh. -/
def outcomeLabel (fresh : Bool) : String :=
  if fresh then "dry_run_success" else "skipped_idempotent"

theorem outcomeLabel_injective : Function.Injective outcomeLabel := by
  intro a b h
  cases a <;> cases b <;> first | rfl | exact absurd h (by decide)

/-- The intent and the label of a forward execution that produced a record. -/
def ExecutorCall.forward? : ExecutorCall → Option (ActionIntent × String)
  | .execute intent (.ok (record, _)) => some (intent, record.outcome)
  | _ => none

/-- The forward executions of an invocation, in order. -/
def CoordinatorResult.forward (result : CoordinatorResult) :
    List (ActionIntent × String) :=
  result.calls.filterMap ExecutorCall.forward?

/-- The forward executions of a list of intents by an executor that has seen
the hashes `seen`. -/
def forwardOutcomes (seen : Finset String) (intents : List ActionIntent) :
    List (ActionIntent × String) :=
  (SeenSet.scan ActionIntent.hash seen intents).map fun p => (p.1, outcomeLabel p.2)

theorem forwardOutcomes_cons (seen : Finset String) (intent : ActionIntent)
    (intents : List ActionIntent) :
    forwardOutcomes seen (intent :: intents) =
      (intent, if intent.hash ∈ seen then "skipped_idempotent" else "dry_run_success") ::
        forwardOutcomes (insert intent.hash seen) intents := by
  by_cases h : intent.hash ∈ seen <;> simp [forwardOutcomes, SeenSet.scan, outcomeLabel, h]

section Loop

variable (env : CoordinatorEnv)

/-- What the loop leaves behind when it runs on the Coordinator's own
executor. -/
theorem executeIntents_forward (intents : List ActionIntent)
    (loop : ExecLoop IdempotentExecutor) :
    let loop' := executeIntents env (coordinatorExecutor env.toExecEnv) intents loop
    loop'.calls.filterMap ExecutorCall.forward? =
      loop.calls.filterMap ExecutorCall.forward? ++
        forwardOutcomes loop.executor.executedHashes intents ∧
    loop'.failedIntent = loop.failedIntent ∧
    loop'.failureReasons = loop.failureReasons := by
  induction intents generalizing loop with
  | nil => simp [executeIntents, forwardOutcomes, SeenSet.scan]
  | cons intent intents ih =>
      -- The Coordinator's own executor never raises, so the loop goes on.
      obtain ⟨hcalls, hfailed, hreasons⟩ := ih
        { loop with
          executor := (loop.executor.execute env.toExecEnv intent).2
          actionsTaken := loop.actionsTaken ++
            [(loop.executor.execute env.toExecEnv intent).1.2]
          timeline := loop.timeline ++
            [makeEvent env "coordinator.executed" (some intent.hash)]
          calls := loop.calls ++
            [.execute intent (.ok (loop.executor.execute env.toExecEnv intent).1)] }
      refine ⟨?_, hfailed, hreasons⟩
      rw [IdempotentExecutor.executedHashes_execute, List.filterMap_append,
        List.append_assoc] at hcalls
      rw [forwardOutcomes_cons, ← IdempotentExecutor.execute_outcome env.toExecEnv]
      exact hcalls

theorem executeVerified_forward (state : IncidentState) (timeline : List TimelineEvent)
    (verified : List ActionIntent) :
    let result := executeVerified env (coordinatorExecutor env.toExecEnv) state timeline
      verified
    result.forward = forwardOutcomes ∅ verified ∧ result.update.phase = .resolved ∧
      result.escalation = none := by
  obtain ⟨hcalls, hfailed, hreasons⟩ := executeIntents_forward env verified
    { executor := (coordinatorExecutor env.toExecEnv).init
      actionsTaken := state.actionsTaken
      timeline := timeline }
  simp only [executeVerified, hfailed, hreasons, List.isEmpty_nil, if_true]
  exact ⟨hcalls, trivial, trivial⟩

end Loop

/-- **What an invocation executes.** Everything, once all intents are verified
and a hypothesis is confirmed; otherwise nothing. -/
theorem coordinatorNode_forward (env : CoordinatorEnv)
    (verify : ActionIntent → Except String Unit) (state : IncidentState) :
    (coordinatorNode env verify state).forward =
      if AllVerified verify state.actionIntents ∧ HasConfirmed state then
        forwardOutcomes ∅ state.actionIntents
      else [] := by
  rw [coordinatorNode]
  by_cases hall : AllVerified verify state.actionIntents
  · rw [coordinatorAsync_of_allVerified env _ hall]
    by_cases hok : (checkPreflight state state.actionIntents).outcome = .ok
    · rw [afterVerification_of_ok env _ state _ _ hok,
        if_pos ⟨hall, ((checkPreflight_ok_iff _ _).mp hok).2⟩]
      exact (executeVerified_forward env state _ _).1
    · have hcalls := (afterVerification_of_ne_ok env
        (coordinatorExecutor env.toExecEnv) state (startedTimeline env state) _ hok).1
      rw [CoordinatorResult.forward, hcalls, List.filterMap_nil]
      split
      · next h =>
          -- A confirmed hypothesis was not enough: there is no intent.
          have hnil : state.actionIntents = [] := by
            by_contra hne
            exact hok ((checkPreflight_ok_iff _ _).mpr ⟨hne, h.2⟩)
          rw [hnil]
          rfl
      · rfl
  · obtain ⟨bad, exc, -, hrun⟩ := coordinatorAsync_of_not_allVerified env
      (coordinatorExecutor env.toExecEnv) hall
    rw [hrun, if_neg (fun h => hall h.1)]
    rfl

/-! ### How an invocation ends -/

section Ends

variable (env : CoordinatorEnv) (verify : ActionIntent → Except String Unit)
  {state : IncidentState}

/-- Without intents the hypotheses decide: with none of them the incident counts
as resolved, otherwise it is escalated. -/
theorem coordinatorNode_of_no_intents (hintents : state.actionIntents = []) :
    if state.hypotheses = [] then
      (coordinatorNode env verify state).update.phase = .resolved
    else
      (coordinatorNode env verify state).update.phase = .escalated ∧
        (coordinatorNode env verify state).escalation.isSome := by
  have hall : AllVerified verify state.actionIntents := by
    rw [hintents]
    intro intent hmem
    cases hmem
  rw [coordinatorNode, coordinatorAsync_of_allVerified env _ hall, hintents]
  cases hhyps : state.hypotheses with
  | nil =>
      rw [if_pos rfl]
      have hpre : (checkPreflight state []).outcome = .alreadyResolved := by
        rw [checkPreflight_nil, hhyps]
        rfl
      simp only [afterVerification, hpre]
  | cons h hs =>
      -- Drift without an intent is not planned again.
      rw [if_neg (List.cons_ne_nil h hs)]
      have hpre : (checkPreflight state []).outcome = .parameterDrift := by
        rw [checkPreflight_nil, hhyps]
        rfl
      simp only [afterVerification, hpre, hintents, List.isEmpty_nil, if_true]
      exact ⟨rfl, rfl⟩

/-- With a confirmed hypothesis, resolving means having executed a verified
intent. -/
theorem coordinatorNode_resolved_of_confirmed (hconf : HasConfirmed state)
    (hphase : (coordinatorNode env verify state).update.phase = .resolved) :
    ∃ intent, (intent, "dry_run_success") ∈ (coordinatorNode env verify state).forward ∧
      verify intent = .ok () := by
  cases hintents : state.actionIntents with
  | nil =>
      have hend := coordinatorNode_of_no_intents env verify hintents
      rw [if_neg hconf.hypotheses_ne_nil, hphase] at hend
      exact absurd hend.1 (by simp)
  | cons intent intents =>
      have hall : AllVerified verify state.actionIntents := by
        by_contra hnot
        obtain ⟨bad, exc, -, hrun⟩ := coordinatorAsync_of_not_allVerified env
          (coordinatorExecutor env.toExecEnv) hnot
        rw [coordinatorNode, hrun] at hphase
        cases hphase
      rw [coordinatorNode_forward, if_pos ⟨hall, hconf⟩, hintents, forwardOutcomes_cons]
      refine ⟨intent, List.mem_cons_self, hall intent ?_⟩
      rw [hintents]
      exact List.mem_cons_self

/-- Without an intent, or with a confirmed hypothesis, an invocation escalates or
resolves. -/
theorem coordinatorNode_settles (h : state.actionIntents = [] ∨ HasConfirmed state) :
    (coordinatorNode env verify state).update.phase = .escalated ∨
      (coordinatorNode env verify state).update.phase = .resolved := by
  by_cases hintents : state.actionIntents = []
  · have hend := coordinatorNode_of_no_intents env verify hintents
    split at hend
    · exact .inr hend
    · exact .inl hend.1
  · have hconf := h.resolve_left hintents
    rw [coordinatorNode]
    by_cases hall : AllVerified verify state.actionIntents
    · have hok := (checkPreflight_ok_iff state state.actionIntents).mpr ⟨hintents, hconf⟩
      rw [coordinatorAsync_of_allVerified env _ hall, afterVerification_of_ok _ _ _ _ _ hok]
      exact .inr (executeVerified_forward env state _ _).2.1
    · obtain ⟨bad, exc, -, hrun⟩ := coordinatorAsync_of_not_allVerified env
        (coordinatorExecutor env.toExecEnv) hall
      rw [hrun]
      exact .inl rfl

end Ends

end AlphE.Coordinator
