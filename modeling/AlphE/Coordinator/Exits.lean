import AlphE.Coordinator.Node

/-!
What one invocation of the Coordinator can do. The two loops of the node get
one specification each, by induction over the list of intents; the node itself
gets one case lemma, whose cases are its exits. Everything proved about the
node goes through these and never unfolds it again.
-/

namespace AlphE.Coordinator

/-! ### The verification loop -/

/-- Every intent of the list is accepted. -/
def AllVerified (verify : ActionIntent → Except String Unit)
    (intents : List ActionIntent) : Prop :=
  ∀ intent ∈ intents, verify intent = .ok ()

instance (verify : ActionIntent → Except String Unit) (intents : List ActionIntent) :
    Decidable (AllVerified verify intents) :=
  List.decidableBAll (fun intent => verify intent = .ok ()) intents

theorem allVerified_singleton {verify : ActionIntent → Except String Unit}
    {intent : ActionIntent} : AllVerified verify [intent] ↔ verify intent = .ok () :=
  List.forall_mem_singleton

/-- `bad` is the first intent of the list that is rejected, with text `exc`. -/
def FirstRejected (verify : ActionIntent → Except String Unit)
    (intents : List ActionIntent) (bad : ActionIntent) (exc : String) : Prop :=
  ∃ before after, intents = before ++ bad :: after ∧
    AllVerified verify before ∧ verify bad = .error exc

theorem FirstRejected.mem {verify : ActionIntent → Except String Unit}
    {intents : List ActionIntent} {bad : ActionIntent} {exc : String}
    (h : FirstRejected verify intents bad exc) : bad ∈ intents := by
  obtain ⟨before, after, rfl, -, -⟩ := h
  simp

theorem FirstRejected.not_allVerified {verify : ActionIntent → Except String Unit}
    {intents : List ActionIntent} {bad : ActionIntent} {exc : String}
    (h : FirstRejected verify intents bad exc) : ¬ AllVerified verify intents := by
  intro hall
  have hok := hall bad h.mem
  obtain ⟨-, -, -, -, hbad⟩ := h
  rw [hbad] at hok
  cases hok

/-- There is one first rejected intent only. -/
theorem FirstRejected.unique {verify : ActionIntent → Except String Unit}
    {intents : List ActionIntent} {bad bad' : ActionIntent} {exc exc' : String}
    (h : FirstRejected verify intents bad exc) (h' : FirstRejected verify intents bad' exc') :
    bad = bad' ∧ exc = exc' := by
  obtain ⟨before, after, rfl, hbefore, hbad⟩ := h
  obtain ⟨before', after', hintents', hbefore', hbad'⟩ := h'
  -- Neither of the two can stand before the other one.
  induction before generalizing before' with
  | nil =>
      cases before' with
      | nil =>
          obtain ⟨rfl, -⟩ := List.cons.inj hintents'
          rw [hbad, Except.error.injEq] at hbad'
          exact ⟨rfl, hbad'⟩
      | cons intent rest =>
          obtain ⟨rfl, -⟩ := List.cons.inj hintents'
          have hok := hbefore' bad List.mem_cons_self
          rw [hbad] at hok
          cases hok
  | cons intent before ih =>
      cases before' with
      | nil =>
          obtain ⟨rfl, -⟩ := List.cons.inj hintents'
          have hok := hbefore intent List.mem_cons_self
          rw [hbad'] at hok
          cases hok
      | cons intent' rest =>
          obtain ⟨rfl, hrest⟩ := List.cons.inj hintents'
          refine ih ?_ rest hrest ?_
          · exact fun i hi => hbefore i (List.mem_cons_of_mem _ hi)
          · exact fun i hi => hbefore' i (List.mem_cons_of_mem _ hi)

/-- The loop returns the whole list when every intent is accepted, and the
first rejected intent otherwise. The verified prefix rides along in the
accumulator. -/
theorem verifyIntents_cases (verify : ActionIntent → Except String Unit)
    (intents verified : List ActionIntent) :
    (AllVerified verify intents ∧
      verifyIntents verify intents verified = .ok (verified ++ intents)) ∨
    (∃ bad exc, FirstRejected verify intents bad exc ∧
      verifyIntents verify intents verified = .error (bad, exc)) := by
  induction intents generalizing verified with
  | nil =>
      left
      refine ⟨?_, by simp [verifyIntents]⟩
      intro intent hmem
      cases hmem
  | cons intent intents ih =>
      cases hv : verify intent with
      | error exc =>
          right
          refine ⟨intent, exc, ⟨[], intents, rfl, ?_, hv⟩, by simp [verifyIntents, hv]⟩
          intro i hmem
          cases hmem
      | ok u =>
          have hstep : verifyIntents verify (intent :: intents) verified =
              verifyIntents verify intents (verified ++ [intent]) := by
            simp [verifyIntents, hv]
          rcases ih (verified ++ [intent]) with ⟨hall, hrun⟩ | ⟨bad, exc, hbad, hrun⟩
          · left
            refine ⟨?_, by rw [hstep, hrun, List.append_assoc]; rfl⟩
            intro i hmem
            rcases List.mem_cons.mp hmem with rfl | hmem
            · exact hv
            · exact hall i hmem
          · -- The first rejected one comes later; this one stands before it.
            right
            obtain ⟨before, after, rfl, hbefore, herr⟩ := hbad
            refine ⟨bad, exc, ⟨intent :: before, after, rfl, ?_, herr⟩,
              by rw [hstep, hrun]⟩
            intro i hmem
            rcases List.mem_cons.mp hmem with rfl | hmem
            · exact hv
            · exact hbefore i hmem

/-! ### The execution loop -/

section ExecutionLoop

variable {σ : Type} (env : CoordinatorEnv) (executor : Executor σ)

/-- Everything the loop adds to `actions_taken` is bound to the hash of an
intent it was given. -/
theorem executeIntents_actionsTaken (intents : List ActionIntent) (loop : ExecLoop σ) :
    ∃ added,
      (executeIntents env executor intents loop).actionsTaken =
        loop.actionsTaken ++ added ∧
      ∀ action ∈ added, ∃ intent ∈ intents, action.intentHash = some intent.hash := by
  induction intents generalizing loop with
  | nil => exact ⟨[], by simp [executeIntents], by simp⟩
  | cons intent intents ih =>
      rcases hcall : executor.execute loop.executor intent with
        ⟨exc | ⟨record, action⟩, ex⟩
      · -- The executor raised: the loop breaks, and the rest is not tried.
        refine ⟨[execFailAction env intent exc], by simp [executeIntents, hcall], ?_⟩
        intro a ha
        rw [List.mem_singleton] at ha
        exact ⟨intent, List.mem_cons_self, by rw [ha]; rfl⟩
      · have hbinds := executor.execute_binds loop.executor intent (record, action)
          (by rw [hcall])
        simp only [executeIntents, hcall]
        obtain ⟨added, hadded, hbound⟩ := ih _
        refine ⟨action :: added, by rw [hadded]; simp, ?_⟩
        intro a ha
        rcases List.mem_cons.mp ha with rfl | ha
        · exact ⟨intent, List.mem_cons_self, hbinds⟩
        · obtain ⟨i, hi, hhash⟩ := hbound a ha
          exact ⟨i, List.mem_cons_of_mem _ hi, hhash⟩

/-- The intent carried out of the loop as the failed one is one of those it
was given. -/
theorem executeIntents_failedIntent (intents : List ActionIntent) (loop : ExecLoop σ)
    (hloop : loop.failedIntent = none) {failed : ActionIntent}
    (h : (executeIntents env executor intents loop).failedIntent = some failed) :
    failed ∈ intents := by
  induction intents generalizing loop with
  | nil =>
      rw [executeIntents, hloop] at h
      cases h
  | cons intent intents ih =>
      rcases hcall : executor.execute loop.executor intent with
        ⟨exc | ⟨record, action⟩, ex⟩
      · simp only [executeIntents, hcall, Option.some.injEq] at h
        exact h ▸ List.mem_cons_self
      · simp only [executeIntents, hcall] at h
        refine List.mem_cons_of_mem _ (ih _ ?_ h)
        exact hloop

theorem executeVerified_actionsTaken (state : IncidentState)
    (timeline : List TimelineEvent) (verified : List ActionIntent) :
    ∃ added,
      (executeVerified env executor state timeline verified).update.actionsTaken =
        state.actionsTaken ++ added ∧
      ∀ action ∈ added, ∃ intent ∈ verified, action.intentHash = some intent.hash := by
  let loop₀ : ExecLoop σ :=
    { executor := executor.init, actionsTaken := state.actionsTaken, timeline := timeline }
  obtain ⟨added, hadded, hbound⟩ := executeIntents_actionsTaken env executor verified loop₀
  cases hfailed : (executeIntents env executor verified loop₀).failedIntent with
  | none =>
      refine ⟨added, ?_, hbound⟩
      simp only [executeVerified, loop₀, hfailed]
      split <;> exact hadded
  | some failed =>
      have hmem := executeIntents_failedIntent env executor verified loop₀ rfl hfailed
      rcases hcall : executor.compensate
          (executeIntents env executor verified loop₀).executor failed with
        ⟨exc | ⟨record, action⟩, ex⟩
      · -- A compensation that raised leaves no action behind.
        refine ⟨added, ?_, hbound⟩
        simp only [executeVerified, loop₀, hfailed, compensateFailed] at hcall ⊢
        rw [hcall]
        exact hadded
      · have hbinds := executor.compensate_binds _ failed (record, action) (by rw [hcall])
        refine ⟨added ++ [action], ?_, ?_⟩
        · simp only [executeVerified, loop₀, hfailed, compensateFailed] at hcall ⊢
          rw [hcall]
          simp only [escalate]
          rw [hadded, List.append_assoc]
        · intro a ha
          rcases List.mem_append.mp ha with ha | ha
          · exact hbound a ha
          · rw [List.mem_singleton] at ha
            exact ⟨failed, hmem, ha ▸ hbinds⟩

/-! The timeline grows at the end. -/

theorem executeIntents_timeline (intents : List ActionIntent) (loop : ExecLoop σ) :
    loop.timeline <+: (executeIntents env executor intents loop).timeline := by
  induction intents generalizing loop with
  | nil => exact List.prefix_rfl
  | cons intent intents ih =>
      rcases hcall : executor.execute loop.executor intent with
        ⟨exc | ⟨record, action⟩, ex⟩
      · simp only [executeIntents, hcall]
        exact List.prefix_append _ _
      · simp only [executeIntents, hcall]
        refine List.IsPrefix.trans ?_ (ih _)
        exact List.prefix_append _ _

theorem escalate_timeline (state : IncidentState) (timeline : List TimelineEvent)
    (actionsTaken : List Action) (failureReasons extra : List String)
    (calls : List ExecutorCall) :
    timeline <+: (escalate env state timeline actionsTaken failureReasons extra
      calls).update.timeline :=
  List.prefix_append _ _

theorem executeVerified_timeline (state : IncidentState) (timeline : List TimelineEvent)
    (verified : List ActionIntent) :
    timeline <+:
      (executeVerified env executor state timeline verified).update.timeline := by
  let loop₀ : ExecLoop σ :=
    { executor := executor.init, actionsTaken := state.actionsTaken, timeline := timeline }
  have hloop : timeline <+: (executeIntents env executor verified loop₀).timeline :=
    executeIntents_timeline env executor verified loop₀
  cases hfailed : (executeIntents env executor verified loop₀).failedIntent with
  | none =>
      simp only [executeVerified, loop₀, hfailed]
      split
      · exact hloop.trans (List.prefix_append _ _)
      · exact hloop.trans (escalate_timeline env state _ _ _ _ _)
  | some failed =>
      simp only [executeVerified, loop₀, hfailed, compensateFailed]
      split
      · exact (hloop.trans (List.prefix_append _ _)).trans
          (escalate_timeline env state _ _ _ _ _)
      · exact (hloop.trans (List.prefix_append _ _)).trans
          (escalate_timeline env state _ _ _ _ _)

end ExecutionLoop

/-! ### The exits -/

section Exits

variable {σ : Type} (env : CoordinatorEnv)
  (verify : ActionIntent → Except String Unit) (executor : Executor σ)
  (state : IncidentState)

def startedTimeline : List TimelineEvent :=
  state.timeline ++ [makeEvent env "coordinator.started" none]

/-- **The exits of the node.** Either some intent is rejected and the first
such intent fails the invocation closed; or all are accepted and the
preflight outcome decides, with executor calls in the `ok` case only. -/
theorem coordinatorAsync_cases :
    (∃ bad exc, FirstRejected verify state.actionIntents bad exc ∧
      coordinatorAsync env verify executor state =
        rejectIntent env state (startedTimeline env state) bad exc) ∨
    (AllVerified verify state.actionIntents ∧
      coordinatorAsync env verify executor state =
        afterVerification env executor state (startedTimeline env state)
          state.actionIntents) := by
  rcases verifyIntents_cases verify state.actionIntents [] with
    ⟨hall, hrun⟩ | ⟨bad, exc, hbad, hrun⟩
  · right
    refine ⟨hall, ?_⟩
    simp only [coordinatorAsync, hrun]
    rfl
  · left
    refine ⟨bad, exc, hbad, ?_⟩
    simp only [coordinatorAsync, hrun]
    rfl

variable {verify state}

theorem coordinatorAsync_of_allVerified (hall : AllVerified verify state.actionIntents) :
    coordinatorAsync env verify executor state =
      afterVerification env executor state (startedTimeline env state)
        state.actionIntents := by
  rcases coordinatorAsync_cases env verify executor state with
    ⟨bad, exc, hbad, -⟩ | ⟨-, h⟩
  · exact absurd hall hbad.not_allVerified
  · exact h

theorem coordinatorAsync_of_not_allVerified
    (hnot : ¬ AllVerified verify state.actionIntents) :
    ∃ bad exc, FirstRejected verify state.actionIntents bad exc ∧
      coordinatorAsync env verify executor state =
        rejectIntent env state (startedTimeline env state) bad exc := by
  rcases coordinatorAsync_cases env verify executor state with h | ⟨hall, -⟩
  · exact h
  · exact absurd hall hnot

variable (state)

/-- Without the preflight's `ok` the executor is not called, and the only
action that may be added is the unbound no-op. -/
theorem afterVerification_of_ne_ok (timeline : List TimelineEvent)
    (verified : List ActionIntent)
    (h : (checkPreflight state verified).outcome ≠ .ok) :
    (afterVerification env executor state timeline verified).calls = [] ∧
    ∃ added,
      (afterVerification env executor state timeline verified).update.actionsTaken =
        state.actionsTaken ++ added ∧
      ∀ action ∈ added, action.intentHash = none := by
  simp only [afterVerification]
  cases hout : (checkPreflight state verified).outcome with
  | ok => exact absurd hout h
  | diagnosisInvalidated => exact ⟨rfl, [], by simp, by simp⟩
  | parameterDrift =>
      -- Escalated or planned again, no action is added.
      simp only
      split <;> exact ⟨rfl, [], by simp [escalate], by simp⟩
  | alreadyResolved =>
      refine ⟨rfl, [noOpAction env], rfl, ?_⟩
      intro a ha
      rw [List.mem_singleton] at ha
      rw [ha]
      rfl

/-- With it, there is an intent to execute. -/
theorem afterVerification_of_ok (timeline : List TimelineEvent)
    (verified : List ActionIntent)
    (h : (checkPreflight state verified).outcome = .ok) :
    afterVerification env executor state timeline verified =
      executeVerified env executor state
        (timeline ++ [makeEvent env ("coordinator.preflight." ++ "ok") none])
        verified := by
  have hne : verified ≠ [] := ((checkPreflight_ok_iff state verified).mp h).1
  have hempty : verified.isEmpty = false := by
    rw [List.isEmpty_eq_false_iff]
    exact hne
  simp only [afterVerification, h, hempty, Bool.false_eq_true, if_false]
  rfl

theorem afterVerification_timeline (timeline : List TimelineEvent)
    (verified : List ActionIntent) :
    timeline <+:
      (afterVerification env executor state timeline verified).update.timeline := by
  have hpreflight := List.prefix_append timeline
    [makeEvent env ("coordinator.preflight." ++ (checkPreflight state verified).outcome.value)
      none]
  simp only [afterVerification]
  split
  · exact hpreflight
  · split
    · exact hpreflight.trans (escalate_timeline env state _ _ _ _ _)
    · exact hpreflight
  · exact hpreflight.trans (List.prefix_append _ _)
  · split
    · exact hpreflight.trans (escalate_timeline env state _ _ _ _ _)
    · exact hpreflight.trans (executeVerified_timeline env executor state _ _)

/-- Whatever the exit, the invocation records its start and keeps what was
recorded before. -/
theorem coordinatorAsync_timeline (verify : ActionIntent → Except String Unit) :
    startedTimeline env state <+:
      (coordinatorAsync env verify executor state).update.timeline := by
  rcases coordinatorAsync_cases env verify executor state with
    ⟨bad, exc, -, hrun⟩ | ⟨-, hrun⟩
  · rw [hrun]
    exact (List.prefix_append _ _).trans (escalate_timeline env state _ _ _ _ _)
  · rw [hrun]
    exact afterVerification_timeline env executor state _ _

end Exits

end AlphE.Coordinator
