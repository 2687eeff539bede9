import AlphE.Coordinator.Compensation

/-!
Whether the handoff tells the truth about compensation. The package builder has the
actions only, and takes every one of type rollback for a compensation: those an
intent asked for, those that failed, and those the verifier turned down.
-/

namespace AlphE.Coordinator

/-- An entry of `actions_taken`, and whether `compensate` made it. -/
structure Taken where
  action : Action
  compensation : Bool
  type_eq : compensation = true → action.type = .rollback

/-- An executor whose forward actions have the type of their intent. -/
structure TypedExecutor (σ : Type) extends RollbackExecutor σ where
  execute_type : ∀ ex intent p, (execute ex intent).1 = .ok p → p.2.type = intent.actionType

/-- An action that `compensate` made is in the final list: one from before, or the one
of this invocation. -/
def CompensationTaken (history : List Taken) (result : CoordinatorResult) : Prop :=
  (∃ t ∈ history, t.compensation = true) ∨
    ∃ intent record action, ExecutorCall.compensate intent (.ok (record, action)) ∈ result.calls ∧
      action ∈ result.update.actionsTaken

/-- The package says that there was a compensating rollback just when there was
one. -/
def TruthfulHandoff (history : List Taken) (result : CoordinatorResult) : Prop :=
  ∀ package, result.escalation = some package →
    (compensationHint ∈ package.suggestedNextSteps ↔ CompensationTaken history result)

/-! ### What the package says -/

theorem head?_compensationHint : compensationHint.toList.head? = some 'A' := by decide

theorem ne_compensationHint {s t : String} {c : Char} (hs : s.toList.head? = some c)
    (hc : c ≠ 'A') : s ++ t ≠ compensationHint := by
  intro h
  have hhead := head?_compensationHint
  rw [← h, String.toList_append, List.head?_append, hs, Option.some_or, Option.some.injEq]
    at hhead
  exact hc hhead

theorem compensationHint_not_mem_unless {p : Prop} [Decidable p] {s : String}
    (h : s ≠ compensationHint) : compensationHint ∉ (if p then [] else [s]) := by
  split
  · exact List.not_mem_nil
  · intro hmem
    exact h (List.mem_singleton.mp hmem).symm

theorem compensationHint_mem_orManualReview_iff (steps : List String) :
    compensationHint ∈ orManualReview steps ↔ compensationHint ∈ steps := by
  cases steps with
  | nil =>
      have hmanual : compensationHint ≠
          "Manually review the incident timeline and alert labels." := by decide
      simp [orManualReview, hmanual]
  | cons step steps => rfl

/-- No other step reads like the hint. -/
theorem compensationHint_mem_nextSteps_iff {state : IncidentState}
    {reasons extra : List String} {actions : List Action} (hextra : compensationHint ∉ extra) :
    compensationHint ∈ nextSteps state reasons extra actions ↔
      ∃ action ∈ actions, action.type = .rollback := by
  have hconfirmed : ∀ h : Hypothesis,
      "Review confirmed hypothesis: " ++ h.text ≠ compensationHint :=
    fun h => ne_compensationHint (c := 'R') (by decide) (by decide)
  have hopen : ∀ h : Hypothesis, "Investigate open hypothesis: " ++ h.text ++ " (score=" ++
      PyText.format2f h.score ++ ")" ≠ compensationHint := by
    intro h
    rw [String.append_assoc, String.append_assoc, String.append_assoc]
    exact ne_compensationHint (c := 'I') (by decide) (by decide)
  have htouched : "Inspect recently touched services: " ++
      PyText.join ", " state.servicesTouched ≠ compensationHint :=
    ne_compensationHint (c := 'I') (by decide) (by decide)
  have hreasons : "Review automated attempt failure reasons listed above." ≠
      compensationHint := by decide
  rw [nextSteps, compensationHint_mem_orManualReview_iff]
  simp only [List.mem_append, List.mem_map, hextra, or_false, hconfirmed, hopen, and_false,
    exists_false, false_or]
  rw [or_iff_right (compensationHint_not_mem_unless hreasons),
    or_iff_right (compensationHint_not_mem_unless htouched)]
  by_cases hany : ∃ action ∈ actions, action.type = .rollback
  · have hsome : (actions.any fun a => a.type = .rollback) = true := by simpa using hany
    rw [if_pos hsome]
    exact iff_of_true List.mem_cons_self hany
  · have hnone : ¬ (actions.any fun a => a.type = .rollback) = true := by simpa using hany
    rw [if_neg hnone]
    exact iff_of_false List.not_mem_nil hany

/-! ### The exits that escalate -/

section Exits

variable {σ : Type} (verify : ActionIntent → Except String Unit) (executor : Executor σ)
  (state : IncidentState)

/-- How an invocation comes to escalate: the intents it recorded an action for, and
what `compensate` came to, where it was called. -/
inductive Escalates : List ActionIntent → Option ExecOutcome → Prop
  | rejected {bad : ActionIntent} {exc : String}
      (hbad : FirstRejected verify state.actionIntents bad exc) : Escalates [bad] none
  | nothing (hintents : state.actionIntents = []) (hhyps : state.hypotheses ≠ []) :
      Escalates [] none
  | raised {done : List Executed} {failed : ActionIntent} {exc : String}
      {after : List ActionIntent} {ex ex' : σ}
      (hverified : AllVerified verify state.actionIntents) (hconf : HasConfirmed state)
      (hintents : state.actionIntents = done.map Executed.intent ++ failed :: after)
      (hdone : ComesBack executor executor.init done ex)
      (hexec : executor.execute ex failed = (.error exc, ex')) :
      Escalates (done.map Executed.intent ++ [failed])
        (some (executor.compensate ex' failed).1)

variable {verify executor state}

variable (verify executor) in
/-- Without intents the invocation escalates what it knows. -/
theorem coordinatorAsync_of_nothing (env : CoordinatorEnv) (hintents : state.actionIntents = [])
    (hhyps : state.hypotheses ≠ []) :
    ∃ timeline reasons, coordinatorAsync env verify executor state =
      escalate env state timeline state.actionsTaken reasons [] [] := by
  have hall : AllVerified verify state.actionIntents := by
    rw [hintents]
    intro intent hmem
    cases hmem
  have hempty : state.hypotheses.isEmpty = false := by
    rw [List.isEmpty_eq_false_iff]
    exact hhyps
  have hdrift : (checkPreflight state state.actionIntents).outcome = .parameterDrift := by
    rw [hintents, checkPreflight_nil, hempty]
    rfl
  have hnone : state.actionIntents.isEmpty = true := by
    rw [hintents]
    rfl
  rw [coordinatorAsync_of_allVerified env executor hall]
  simp only [afterVerification, hdrift, hnone, if_true]
  exact ⟨_, _, rfl⟩

/-- There are no other ones. -/
theorem exists_escalates {env : CoordinatorEnv} {package : EscalationPackage}
    (h : (coordinatorAsync env verify executor state).escalation = some package) :
    ∃ attempted outcome, Escalates verify executor state attempted outcome := by
  rcases coordinatorAsync_cases env verify executor state with
    ⟨bad, exc, hbad, -⟩ | ⟨hall, hrun⟩
  · exact ⟨_, _, .rejected hbad⟩
  · rw [hrun] at h
    cases hout : (checkPreflight state state.actionIntents).outcome with
    | diagnosisInvalidated =>
        simp only [afterVerification, hout] at h
        cases h
    | alreadyResolved =>
        simp only [afterVerification, hout] at h
        cases h
    | parameterDrift =>
        by_cases hintents : state.actionIntents = []
        · refine ⟨_, _, .nothing hintents ?_⟩
          intro hhyps
          rw [hintents, checkPreflight_nil, hhyps] at hout
          cases hout
        · have hempty : state.actionIntents.isEmpty = false := by
            rw [List.isEmpty_eq_false_iff]
            exact hintents
          simp only [afterVerification, hout, hempty, Bool.false_eq_true, if_false] at h
          cases h
    | ok =>
        have hconf := ((checkPreflight_ok_iff _ _).mp hout).2
        rw [afterVerification_of_ok env executor state _ _ hout, executeVerified] at h
        obtain ⟨hfailed, hreasons⟩ | ⟨done, failed, exc, after, ex, ex', hintents, hdone, hexec⟩ :=
          executeIntents_cases executor env state.actionIntents
            { executor := executor.init
              actionsTaken := state.actionsTaken
              timeline := startedTimeline env state ++
                [makeEvent env ("coordinator.preflight." ++ "ok") none] }
        · -- The loop ran to its end, and the incident is resolved.
          simp only [hfailed, hreasons, List.isEmpty_nil, if_true] at h
          cases h
        · exact ⟨_, _, .raised hall hconf hintents hdone hexec⟩

end Exits

/-! ### What each exit says and did -/

section Handoff

variable {σ : Type} {env : CoordinatorEnv} {verify : ActionIntent → Except String Unit}
  {executor : TypedExecutor σ} {state : IncidentState} {history : List Taken}

/-- An action of type rollback is in the history, or an intent of that type among those
attempted. -/
def RollbackAmong (history : List Taken) (attempted : List ActionIntent) : Prop :=
  (∃ t ∈ history, t.action.type = .rollback) ∨
    ∃ intent ∈ attempted, intent.actionType = .rollback

/-- `compensate` was called and came back. -/
def Compensated (outcome : Option ExecOutcome) : Prop := ∃ p, outcome = some (.ok p)

/-- The actions that came back have the types of their intents. -/
theorem type_of_comesBack {done : List Executed} {ex ex' : σ}
    (h : ComesBack executor.toExecutor ex done ex') :
    done.map (fun e => e.action.type) = done.map fun e => e.intent.actionType := by
  induction done generalizing ex with
  | nil => rfl
  | cons e done ih =>
      obtain ⟨ex₁, hcall, hrest⟩ := h
      have htype := executor.execute_type ex e.intent (e.record, e.action) (by rw [hcall])
      rw [List.map_cons, List.map_cons, ih hrest, htype]

theorem rollbackAmong_iff {attempted : List ActionIntent} {actions : List Action}
    (htypes : actions.map Action.type = attempted.map ActionIntent.actionType) :
    (∃ action ∈ history.map Taken.action ++ actions, action.type = .rollback) ↔
      RollbackAmong history attempted := by
  have hmem : (∃ action ∈ actions, action.type = .rollback) ↔
      ∃ intent ∈ attempted, intent.actionType = .rollback := by
    have hleft : (∃ action ∈ actions, action.type = .rollback) ↔
        ActionType.rollback ∈ actions.map Action.type := by simp
    rw [hleft, htypes]
    simp
  rw [RollbackAmong, ← hmem]
  constructor
  · rintro ⟨action, haction, htype⟩
    obtain hold | hnew := List.mem_append.mp haction
    · obtain ⟨t, ht, rfl⟩ := List.mem_map.mp hold
      exact .inl ⟨t, ht, htype⟩
    · exact .inr ⟨action, hnew, htype⟩
  · rintro (⟨t, ht, htype⟩ | ⟨action, haction, htype⟩)
    · exact ⟨t.action, List.mem_append_left _ (List.mem_map_of_mem ht), htype⟩
    · exact ⟨action, List.mem_append_right _ haction, htype⟩

/-- What the package of an exit says, and what was done there. -/
structure Says (history : List Taken) (result : CoordinatorResult)
    (attempted : List ActionIntent) (outcome : Option ExecOutcome) : Prop where
  hint : ∃ package, result.escalation = some package ∧
    (compensationHint ∈ package.suggestedNextSteps ↔
      RollbackAmong history attempted ∨ Compensated outcome)
  taken : CompensationTaken history result ↔
    (∃ t ∈ history, t.compensation = true) ∨ Compensated outcome

theorem not_compensated_none : ¬ Compensated none := by
  rintro ⟨p, hp⟩
  cases hp

/-- An exit without a call of the executor. -/
theorem says_escalate (hstate : state.actionsTaken = history.map Taken.action)
    (timeline : List TimelineEvent) {attempted : List ActionIntent} {actions : List Action}
    (htypes : actions.map Action.type = attempted.map ActionIntent.actionType)
    (reasons : List String) {extra : List String} (hextra : compensationHint ∉ extra) :
    Says history (escalate env state timeline (state.actionsTaken ++ actions) reasons extra [])
      attempted none := by
  refine ⟨⟨_, rfl, ?_⟩, ?_⟩
  · rw [or_iff_left not_compensated_none, ← rollbackAmong_iff htypes, ← hstate]
    exact compensationHint_mem_nextSteps_iff hextra
  · rw [or_iff_left not_compensated_none]
    apply or_iff_left
    rintro ⟨intent, record, action, hmem, -⟩
    cases hmem

/-- The exit after an intent that raised. -/
theorem says_raised (hstate : state.actionsTaken = history.map Taken.action)
    {done : List Executed} {failed : ActionIntent} {exc : String} {after : List ActionIntent}
    {ex ex' : σ} (hverified : AllVerified verify state.actionIntents)
    (hconf : HasConfirmed state)
    (hintents : state.actionIntents = done.map Executed.intent ++ failed :: after)
    (hdone : ComesBack executor.toExecutor executor.init done ex)
    (hexec : executor.execute ex failed = (.error exc, ex')) :
    Says history (coordinatorAsync env verify executor.toExecutor state)
      (done.map Executed.intent ++ [failed]) (some (executor.compensate ex' failed).1) := by
  have hcompensates := compensates_coordinatorAsync executor.toExecutor env hverified hconf
    hintents hdone hexec
  have htypes : (done.map Executed.action ++ [execFailAction env failed exc]).map Action.type =
      (done.map Executed.intent ++ [failed]).map ActionIntent.actionType := by
    have hdoneTypes := type_of_comesBack hdone
    simp only [List.map_append, List.map_map, List.map_cons, List.map_nil]
    exact congrArg (· ++ [failed.actionType]) hdoneTypes
  have hactions := hcompensates.actionsTaken_eq
  rw [hstate, List.append_assoc (history.map Taken.action)] at hactions
  obtain ⟨reasons, hescalation⟩ := hcompensates.escalation_eq
  refine ⟨⟨_, hescalation, ?_⟩, ?_⟩
  · have hextra : compensationHint ∉ ["Verify compensation was effective before retrying."] := by
      decide
    refine (compensationHint_mem_nextSteps_iff hextra).trans ?_
    rw [Option.getD_some, hactions, ← rollbackAmong_iff htypes]
    cases hcompensate : (executor.compensate ex' failed).1 with
    | error exc' =>
        have hnot : ¬ Compensated (some (.error exc')) := by
          rintro ⟨p, hp⟩
          cases hp
        rw [addedBy, List.append_nil, or_iff_left hnot]
    | ok p =>
        refine iff_of_true ⟨p.2, ?_, executor.compensate_type ex' failed p hcompensate⟩
          (.inr ⟨p, rfl⟩)
        exact List.mem_append_right _ List.mem_cons_self
  · apply or_congr Iff.rfl
    rw [hcompensates.calls_eq]
    constructor
    · rintro ⟨intent, record, action, hmem, -⟩
      obtain hmem | hmem := List.mem_append.mp hmem
      · obtain hmem | hmem := List.mem_append.mp hmem
        · obtain ⟨e, -, he⟩ := List.mem_map.mp hmem
          cases he
        · cases List.mem_singleton.mp hmem
      · have hcall := List.mem_singleton.mp hmem
        rw [ExecutorCall.compensate.injEq] at hcall
        exact ⟨(record, action), by rw [← hcall.2]⟩
    · rintro ⟨⟨record, action⟩, hp⟩
      rw [Option.some.injEq] at hp
      refine ⟨failed, record, action, ?_, ?_⟩
      · rw [hp]
        exact List.mem_append_right _ List.mem_cons_self
      · rw [hactions, hp]
        exact List.mem_append_right _ List.mem_cons_self

theorem Escalates.says (env : CoordinatorEnv)
    (hstate : state.actionsTaken = history.map Taken.action)
    {attempted : List ActionIntent} {outcome : Option ExecOutcome}
    (h : Escalates verify executor.toExecutor state attempted outcome) :
    Says history (coordinatorAsync env verify executor.toExecutor state) attempted outcome := by
  cases h with
  | @rejected bad exc hbad =>
      obtain ⟨bad', exc', hbad', hrun⟩ := coordinatorAsync_of_not_allVerified env
        executor.toExecutor hbad.not_allVerified
      obtain ⟨rfl, rfl⟩ := hbad.unique hbad'
      rw [hrun]
      exact says_escalate hstate _ rfl _ (by decide)
  | nothing hintents hhyps =>
      obtain ⟨timeline, reasons, hrun⟩ := coordinatorAsync_of_nothing verify
        executor.toExecutor env hintents hhyps
      rw [hrun, ← List.append_nil state.actionsTaken]
      exact says_escalate hstate _ rfl _ List.not_mem_nil
  | raised hverified hconf hintents hdone hexec =>
      exact says_raised hstate hverified hconf hintents hdone hexec

end Handoff

/-- **When the handoff tells the truth about compensation.** Exactly when, on every exit
that escalates without a compensation of its own, an earlier one is in the history, or
there is no rollback in it and none among the intents that an action was recorded
for. -/
theorem truthfulHandoff_iff {σ : Type} (env : CoordinatorEnv)
    (verify : ActionIntent → Except String Unit) (executor : TypedExecutor σ)
    {state : IncidentState} {history : List Taken}
    (hstate : state.actionsTaken = history.map Taken.action) :
    TruthfulHandoff history (coordinatorAsync env verify executor.toExecutor state) ↔
      ∀ attempted outcome, Escalates verify executor.toExecutor state attempted outcome →
        ¬ Compensated outcome →
        (∃ t ∈ history, t.compensation = true) ∨ ¬ RollbackAmong history attempted := by
  have hearlier : ∀ attempted, (∃ t ∈ history, t.compensation = true) →
      RollbackAmong history attempted := by
    rintro attempted ⟨t, ht, hcomp⟩
    exact .inl ⟨t, ht, t.type_eq hcomp⟩
  constructor
  · intro h attempted outcome hescalates hnot
    obtain ⟨⟨package, hpackage, hhint⟩, htaken⟩ := hescalates.says env hstate
    have htruth := h package hpackage
    rw [hhint, htaken, or_iff_left hnot, or_iff_left hnot] at htruth
    by_cases hrollback : RollbackAmong history attempted
    · exact .inl (htruth.mp hrollback)
    · exact .inr hrollback
  · intro h package hpackage
    obtain ⟨attempted, outcome, hescalates⟩ := exists_escalates hpackage
    obtain ⟨⟨package', hpackage', hhint⟩, htaken⟩ := hescalates.says env hstate
    rw [hpackage, Option.some.injEq] at hpackage'
    subst hpackage'
    rw [hhint, htaken]
    by_cases hcomp : Compensated outcome
    · exact iff_of_true (.inr hcomp) (.inr hcomp)
    · rw [or_iff_left hcomp, or_iff_left hcomp]
      refine ⟨fun hrollback => ?_, hearlier attempted⟩
      obtain hold | hnone := h attempted outcome hescalates hcomp
      · exact hold
      · exact absurd hrollback hnone

/-! ### A rollback that the verifier turns down -/

/-- The executor of the Coordinator. -/
def coordinatorTyped (env : ExecEnv) : TypedExecutor IdempotentExecutor where
  toExecutor := coordinatorExecutor env
  compensate_type := by
    intro ex intent p h
    cases h
    rfl
  execute_type := by
    intro ex intent p h
    cases h
    show (ex.execute env intent).1.2.type = intent.actionType
    unfold IdempotentExecutor.execute
    split <;> rfl

def testRollback : ActionIntent := { testIntent with actionType := .rollback }

def testUnsigned : IncidentState := testState [testHypothesis .confirmed] [testRollback]

theorem truthfulHandoff_iff_testUnsigned :
    TruthfulHandoff [] (coordinatorAsync testEnv (fun _ => .error "bad signature")
        (coordinatorTyped testEnv.toExecEnv).toExecutor testUnsigned) ↔
      ∀ attempted outcome, Escalates (fun _ => .error "bad signature")
        (coordinatorTyped testEnv.toExecEnv).toExecutor testUnsigned attempted outcome →
        ¬ Compensated outcome →
        (∃ t ∈ ([] : List Taken), t.compensation = true) ∨ ¬ RollbackAmong [] attempted :=
  truthfulHandoff_iff testEnv (fun _ => .error "bad signature")
    (coordinatorTyped testEnv.toExecEnv) rfl

theorem escalates_testUnsigned :
    Escalates (fun _ => .error "bad signature")
      (coordinatorTyped testEnv.toExecEnv).toExecutor testUnsigned [testRollback] none := by
  have hbad : FirstRejected (fun _ => .error "bad signature") testUnsigned.actionIntents
      testRollback "bad signature" := by
    refine ⟨[], [], rfl, ?_, rfl⟩
    intro intent hmem
    cases hmem
  exact .rejected hbad

/-- Nothing ran, and the engineer is told that a compensating rollback was
performed. -/
theorem not_truthfulHandoff :
    ¬ ∀ (verify : ActionIntent → Except String Unit) (executor : TypedExecutor IdempotentExecutor)
      (state : IncidentState) (history : List Taken),
      state.actionsTaken = history.map Taken.action →
      TruthfulHandoff history (coordinatorAsync testEnv verify executor.toExecutor state) := by
  intro h
  have htruth := h (fun _ => .error "bad signature") (coordinatorTyped testEnv.toExecEnv)
    testUnsigned [] rfl
  obtain ⟨⟨package, hpackage, hhint⟩, htaken⟩ :=
    escalates_testUnsigned.says testEnv (rfl : _ = List.map Taken.action [])
  have hsaid := hhint.mpr (.inl (.inr ⟨testRollback, List.mem_singleton_self _, rfl⟩))
  obtain ⟨t, ht, -⟩ | hcomp := htaken.mp ((htruth package hpackage).mp hsaid)
  · cases ht
  · exact not_compensated_none hcomp

end AlphE.Coordinator
