import AlphE.Nodes.Planner
import AlphE.Coordinator.Forward
import AlphE.Security.Integrity
import AlphE.Lib.Operations

/-!
From the decision to the execution. Between the Planner, which signs an intent, and
the Coordinator, which executes it, the incident lies in a checkpoint that others can
write. The three take turns in any order. Whoever writes the checkpoint may put any
incident there, with any hypotheses and any intents; what is out of reach is a
signature that the Planner did not make.

Whatever is done to the checkpoint, the executor is called with effects only that the
Planner decided on; and when nobody interferes, what the Planner decided on is what
is executed.
-/

namespace AlphE.Orchestrator

open Nodes Coordinator

/-! ### The turns -/

inductive Turn
  | plan (now : DateTime) (decision : LLMPlannerDecision)
  | coordinate (env : CoordinatorEnv)
  | tamper (state : IncidentState)

/-- The checkpoint, the decisions that were made, the intents that were signed, and the
calls the executors got. -/
structure Custody where
  state : IncidentState
  decided : List LLMPlannerDecision := []
  issued : List ActionIntent := []
  calls : List ExecutorCall := []

def ExecutorCall.intent : ExecutorCall → ActionIntent
  | .execute intent _ => intent
  | .compensate intent _ => intent

section Turns

variable {κ ν σ : Type} (sha256 : Bytes → String) (ed25519 : SignatureScheme κ ν)
  (isprintable : Char → Bool) (key : κ) (executor : CoordinatorEnv → Executor σ)

def Custody.turn (c : Custody) : Turn → Custody
  | .plan now decision =>
      { c with
        state := c.state.merge
          (plannerNode now (Security.sign sha256 ed25519 key) decision c.state)
        decided := c.decided ++ [decision]
        issued := c.issued ++
          newIntents decision (Security.sign sha256 ed25519 key) now }
  | .coordinate env =>
      let result := coordinatorAsync env
        (Security.check sha256 ed25519 isprintable (ed25519.publicKey key)) (executor env)
        c.state
      { c with
        state := c.state.merge result.update.toStateUpdate
        calls := c.calls ++ result.calls }
  | .tamper state => { c with state := state }

/-- Every signature among the intents that verifies on anything was made for an intent
that was issued. -/
def SignaturesIssued (issued intents : List ActionIntent) : Prop :=
  ∀ intent ∈ intents, ∀ raw m, Base64.b64decode intent.signature = .ok raw →
    ed25519.verify (ed25519.publicKey key) raw m = true →
    ∃ j ∈ issued, raw = ed25519.sign key j.hash.encodeUtf8

/-- What can be put into the checkpoint. -/
def Feasible (c : Custody) : Turn → Prop
  | .tamper state => SignaturesIssued ed25519 key c.issued state.actionIntents
  | _ => True

end Turns

/-! ### The calls of one invocation -/

section Calls

variable {σ : Type} (env : CoordinatorEnv) (executor : Executor σ)

theorem calls_executeIntents (intents : List ActionIntent) (loop : ExecLoop σ) :
    ∀ call ∈ (executeIntents env executor intents loop).calls,
      call ∈ loop.calls ∨ ExecutorCall.intent call ∈ intents := by
  induction intents generalizing loop with
  | nil =>
      intro call hcall
      exact .inl hcall
  | cons intent intents ih =>
      rcases hexec : executor.execute loop.executor intent with
        ⟨exc | ⟨record, action⟩, ex⟩
      · simp only [executeIntents, hexec, List.mem_append, List.mem_singleton]
        rintro call (hcall | rfl)
        · exact .inl hcall
        · exact .inr List.mem_cons_self
      · simp only [executeIntents, hexec]
        intro call hcall
        obtain hcall | hcall := ih _ call hcall
        · rw [List.mem_append, List.mem_singleton] at hcall
          obtain hcall | rfl := hcall
          · exact .inl hcall
          · exact .inr List.mem_cons_self
        · exact .inr (List.mem_cons_of_mem _ hcall)

theorem calls_executeVerified (state : IncidentState) (timeline : List TimelineEvent)
    (verified : List ActionIntent) :
    ∀ call ∈ (executeVerified env executor state timeline verified).calls,
      ExecutorCall.intent call ∈ verified := by
  let loop₀ : ExecLoop σ :=
    { executor := executor.init, actionsTaken := state.actionsTaken, timeline := timeline }
  have hloop : ∀ call ∈ (executeIntents env executor verified loop₀).calls,
      ExecutorCall.intent call ∈ verified := by
    intro call hcall
    obtain hnil | hmem := calls_executeIntents env executor verified loop₀ call hcall
    · cases hnil
    · exact hmem
  cases hfailed : (executeIntents env executor verified loop₀).failedIntent with
  | none =>
      simp only [executeVerified, loop₀, hfailed]
      split <;> exact hloop
  | some failed =>
      have hmem := executeIntents_failedIntent env executor verified loop₀ rfl hfailed
      simp only [executeVerified, loop₀, hfailed, compensateFailed]
      split
      all_goals
        simp only [escalate, List.mem_append, List.mem_singleton]
        rintro call (hcall | rfl)
        · exact hloop call hcall
        · exact hmem

/-- An executor is called with intents of the state, once all of them are verified. -/
theorem calls_coordinatorAsync (verify : ActionIntent → Except String Unit)
    (state : IncidentState) :
    ∀ call ∈ (coordinatorAsync env verify executor state).calls,
      ExecutorCall.intent call ∈ state.actionIntents ∧
        verify (ExecutorCall.intent call) = .ok () := by
  intro call hcall
  rcases coordinatorAsync_cases env verify executor state with
    ⟨bad, exc, -, hrun⟩ | ⟨hall, hrun⟩
  · rw [hrun] at hcall
    cases hcall
  · rw [hrun] at hcall
    have hmem : ExecutorCall.intent call ∈ state.actionIntents := by
      by_cases hok : (checkPreflight state state.actionIntents).outcome = .ok
      · rw [afterVerification_of_ok _ _ _ _ _ hok] at hcall
        exact calls_executeVerified env executor state _ _ call hcall
      · rw [(afterVerification_of_ne_ok _ _ _ _ _ hok).1] at hcall
        cases hcall
    exact ⟨hmem, hall _ hmem⟩

end Calls

/-! ### What is signed -/

section Signing

variable {κ ν : Type} {sha256 : Bytes → String} {ed25519 : SignatureScheme κ ν}

/-- The effect of an intent is what the decision says. -/
structure Carries (decision : LLMPlannerDecision) (intent : ActionIntent) : Prop where
  confident : confidenceThreshold ≤ decision.confidence.val
  actionType_eq :
    planToActionType decision.planType.toRemediationType = some intent.actionType
  target_eq : intent.target = decision.actionTarget
  parameters_equiv : intent.parameters.Equiv decision.actionParameters
  expectedEffect_eq : intent.expectedEffect = decision.expectedEffect
  rollbackHint_eq : intent.rollbackHint = decision.rollbackHint

/-- What a decision has signed carries it. -/
theorem mem_newIntents {decision : LLMPlannerDecision} {key : κ} {now : DateTime}
    {j : ActionIntent}
    (h : j ∈ newIntents decision (Security.sign sha256 ed25519 key) now) :
    Carries decision j ∧ ∃ i, j = Security.sign sha256 ed25519 key i := by
  have hconf : confidenceThreshold ≤ decision.confidence.val := by
    by_contra hlow
    rw [newIntents_of_low_confidence _ _ (not_le.mp hlow)] at h
    cases h
  rw [newIntents, gatedPlan_of_confident hconf] at h
  cases htype : planToActionType (decisionToPlan decision).type with
  | none =>
      rw [htype] at h
      cases h
  | some actionType =>
      rw [htype, List.mem_singleton] at h
      subst h
      exact ⟨⟨hconf, htype, rfl, fun _ => rfl, rfl, rfl⟩, _, rfl⟩

/-- An intent with the same effect carries the same decision. -/
theorem Carries.congr {decision : LLMPlannerDecision} {i j : ActionIntent}
    (h : Carries decision j) (heffect : Security.SameEffect i j) : Carries decision i where
  confident := h.confident
  actionType_eq := by rw [heffect.actionType_eq, h.actionType_eq]
  target_eq := heffect.target_eq.trans h.target_eq
  parameters_equiv k := (heffect.parameters_equiv k).trans (h.parameters_equiv k)
  expectedEffect_eq := heffect.expectedEffect_eq.trans h.expectedEffect_eq
  rollbackHint_eq := heffect.rollbackHint_eq.trans h.rollbackHint_eq

theorem check_eq_ok_iff (isprintable : Char → Bool) (publicKey : ν) (i : ActionIntent) :
    Security.check sha256 ed25519 isprintable publicKey i = .ok () ↔
      Security.verify sha256 ed25519 isprintable publicKey i = .ok true := by
  rw [Security.check]
  rcases Security.verify_eq_ok_or_error sha256 ed25519 isprintable publicKey i with
    hok | ⟨err, herr⟩
  · simp [hok]
  · simp [herr]

/-- What was signed is verified under the paired key. -/
theorem check_sign (hideal : ed25519.Ideal) (isprintable : Char → Bool) (key : κ)
    (i : ActionIntent) :
    Security.check sha256 ed25519 isprintable (ed25519.publicKey key)
      (Security.sign sha256 ed25519 key i) = .ok () := by
  rw [check_eq_ok_iff, Security.verify_transplant_iff isprintable hideal key i _ rfl]
  exact ⟨rfl, rfl⟩

/-- An intent that is verified has the hash and the effect of one that was issued, when
its signature was made for an issued one. -/
theorem exists_issued (hsha : Function.Injective sha256) (hideal : ed25519.Ideal)
    {isprintable : Char → Bool} {key : κ} {issued intents : List ActionIntent}
    (hsigned : ∀ j ∈ issued, ∃ i, j = Security.sign sha256 ed25519 key i)
    (hissued : SignaturesIssued ed25519 key issued intents) {i : ActionIntent}
    (hmem : i ∈ intents)
    (hok : Security.check sha256 ed25519 isprintable (ed25519.publicKey key) i = .ok ()) :
    ∃ j ∈ issued, i.hash = j.hash ∧ Security.SameEffect i j := by
  rw [check_eq_ok_iff, Security.verify_eq_ok_iff] at hok
  obtain ⟨hhash, raw, hraw, hverify⟩ := hok
  obtain ⟨j, hj, rfl⟩ := hissued i hmem raw _ hraw hverify
  obtain ⟨i₀, rfl⟩ := hsigned j hj
  -- The signature is on one hash only, and the hash has one effect only.
  have hbytes := hideal.unforgeable _ _ _ hverify
  have hsame : i.hash = Security.intentHash sha256 i₀ :=
    String.encodeUtf8_injective hbytes
  refine ⟨_, hj, hsame, ?_⟩
  rw [Security.sameEffect_sign_iff, ← Security.intentHash_eq_iff hsha, ← hhash, hsame]

end Signing

/-! ### Any interference -/

section Runs

variable {κ ν σ : Type} {sha256 : Bytes → String} {ed25519 : SignatureScheme κ ν}
  {isprintable : Char → Bool} {key : κ} {executor : CoordinatorEnv → Executor σ}

variable (sha256 ed25519 key) in
/-- What holds of the checkpoint, of the intents that were issued and of the calls. -/
structure Kept (c : Custody) : Prop where
  signed : ∀ j ∈ c.issued, ∃ i, j = Security.sign sha256 ed25519 key i
  carried : ∀ j ∈ c.issued, ∃ decision ∈ c.decided, Carries decision j
  signatures : SignaturesIssued ed25519 key c.issued c.state.actionIntents
  calls : ∀ call ∈ c.calls, ∃ j ∈ c.issued,
    (ExecutorCall.intent call).hash = j.hash ∧
      Security.SameEffect (ExecutorCall.intent call) j

theorem Kept.plan {c : Custody} (h : Kept sha256 ed25519 key c) (now : DateTime)
    (decision : LLMPlannerDecision) :
    Kept sha256 ed25519 key
      (c.turn sha256 ed25519 isprintable key executor (.plan now decision)) where
  signed := by
    intro j hj
    obtain hj | hj := List.mem_append.mp hj
    · exact h.signed j hj
    · exact (mem_newIntents hj).2
  carried := by
    intro j hj
    obtain hj | hj := List.mem_append.mp hj
    · obtain ⟨d, hd, hcarries⟩ := h.carried j hj
      exact ⟨d, List.mem_append_left _ hd, hcarries⟩
    · exact ⟨decision, List.mem_append_right _ (List.mem_singleton.mpr rfl),
        (mem_newIntents hj).1⟩
  signatures := by
    intro i hi raw m hraw hverify
    obtain hi | hi := List.mem_append.mp hi
    · obtain ⟨j, hj, hsig⟩ := h.signatures i hi raw m hraw hverify
      exact ⟨j, List.mem_append_left _ hj, hsig⟩
    · -- A signature that was just made is the one of its own intent.
      obtain ⟨i₀, rfl⟩ := (mem_newIntents hi).2
      rw [Security.sign_signature, Base64.b64decode_b64encode, Except.ok.injEq] at hraw
      exact ⟨_, List.mem_append_right _ hi, hraw.symm⟩
  calls := by
    intro call hcall
    obtain ⟨j, hj, hsame⟩ := h.calls call hcall
    exact ⟨j, List.mem_append_left _ hj, hsame⟩

theorem Kept.coordinate (hsha : Function.Injective sha256) (hideal : ed25519.Ideal)
    {c : Custody} (h : Kept sha256 ed25519 key c) (env : CoordinatorEnv) :
    Kept sha256 ed25519 key
      (c.turn sha256 ed25519 isprintable key executor (.coordinate env)) where
  signed := h.signed
  carried := h.carried
  signatures := h.signatures
  calls := by
    intro call hcall
    obtain hcall | hcall := List.mem_append.mp hcall
    · exact h.calls call hcall
    · obtain ⟨hmem, hok⟩ := calls_coordinatorAsync env (executor env) _ c.state call hcall
      exact exists_issued hsha hideal h.signed h.signatures hmem hok

theorem Kept.turn (hsha : Function.Injective sha256) (hideal : ed25519.Ideal) {c : Custody}
    (h : Kept sha256 ed25519 key c) {t : Turn} (hfeasible : Feasible ed25519 key c t) :
    Kept sha256 ed25519 key (c.turn sha256 ed25519 isprintable key executor t) := by
  cases t with
  | plan now decision => exact h.plan now decision
  | coordinate env => exact h.coordinate hsha hideal env
  | tamper state => exact ⟨h.signed, h.carried, hfeasible, h.calls⟩

/-- **Nothing runs that was not decided.** Planning, coordinating and rewriting the
checkpoint take turns in any order. With an ideal hash and an ideal signature scheme,
and any executor, every call an executor gets is for an effect that the Planner decided
on, in an earlier turn and confidently enough, and under the hash that was signed. -/
theorem calls_decided (hsha : Function.Injective sha256) (hideal : ed25519.Ideal)
    (isprintable : Char → Bool) (key : κ) (executor : CoordinatorEnv → Executor σ)
    {seed : IncidentState} (hseed : seed.actionIntents = []) (turns : List Turn)
    (hfeasible : Operations.Along
      (Custody.turn sha256 ed25519 isprintable key executor) (Feasible ed25519 key)
      { state := seed } turns) :
    let c := turns.foldl (Custody.turn sha256 ed25519 isprintable key executor)
      { state := seed }
    ∀ call ∈ c.calls, ∃ decision ∈ c.decided,
      Carries decision (ExecutorCall.intent call) ∧
        ∃ j ∈ c.issued, (ExecutorCall.intent call).hash = j.hash := by
  have hinit : Kept sha256 ed25519 key { state := seed } := by
    refine ⟨by simp, by simp, ?_, by simp⟩
    intro i hi
    rw [show ({ state := seed } : Custody).state.actionIntents = [] from hseed] at hi
    cases hi
  have hkept : Kept sha256 ed25519 key
      (turns.foldl (Custody.turn sha256 ed25519 isprintable key executor) { state := seed }) :=
    Operations.invariant_foldl (fun _ _ h hfeasible => h.turn hsha hideal hfeasible) hinit
      hfeasible
  intro c call hcall
  obtain ⟨j, hj, hhash, heffect⟩ := hkept.calls call hcall
  obtain ⟨decision, hdecided, hcarries⟩ := hkept.carried j hj
  exact ⟨decision, hdecided, hcarries.congr heffect, j, hj, hhash⟩

end Runs

/-! ### No interference -/

section Honest

variable {κ ν σ : Type} {sha256 : Bytes → String} {ed25519 : SignatureScheme κ ν}
  {isprintable : Char → Bool} {key : κ} {executor : CoordinatorEnv → Executor σ}

variable (sha256 ed25519 key) in
/-- The intents a turn signs. -/
def signedBy : Turn → List ActionIntent
  | .plan now decision => newIntents decision (Security.sign sha256 ed25519 key) now
  | _ => []

/-- Nobody else writes the checkpoint. -/
def Turn.Honest : Turn → Prop
  | .tamper _ => False
  | _ => True

/-- The intents of the checkpoint are those that were signed, and the hypotheses stay. -/
theorem state_of_honest (turns : List Turn) (honest : ∀ t ∈ turns, t.Honest) (c : Custody) :
    let c' := turns.foldl (Custody.turn sha256 ed25519 isprintable key executor) c
    c'.state.actionIntents =
      c.state.actionIntents ++ turns.flatMap (signedBy sha256 ed25519 key) ∧
    c'.state.hypotheses = c.state.hypotheses := by
  induction turns generalizing c with
  | nil => exact ⟨(List.append_nil _).symm, rfl⟩
  | cons t turns ih =>
      rw [List.forall_mem_cons] at honest
      obtain ⟨hintents, hhyps⟩ :=
        ih honest.2 (c.turn sha256 ed25519 isprintable key executor t)
      have hstep : (c.turn sha256 ed25519 isprintable key executor t).state.actionIntents =
            c.state.actionIntents ++ signedBy sha256 ed25519 key t ∧
          (c.turn sha256 ed25519 isprintable key executor t).state.hypotheses =
            c.state.hypotheses := by
        cases t with
        | plan now decision => exact ⟨rfl, rfl⟩
        | coordinate env => exact ⟨(List.append_nil _).symm, rfl⟩
        | tamper state => exact honest.1.elim
      refine ⟨?_, hhyps.trans hstep.2⟩
      rw [List.foldl_cons, hintents, hstep.1, List.flatMap_cons, List.append_assoc]

theorem check_signedBy (hideal : ed25519.Ideal) {t : Turn} {j : ActionIntent}
    (h : j ∈ signedBy sha256 ed25519 key t) :
    Security.check sha256 ed25519 isprintable (ed25519.publicKey key) j = .ok () := by
  cases t with
  | plan now decision =>
      obtain ⟨i, rfl⟩ := (mem_newIntents h).2
      exact check_sign hideal isprintable key i
  | coordinate env => cases h
  | tamper state => cases h

/-- **What was decided runs.** When nobody else writes the checkpoint, the Coordinator
finds every intent in order, however often it was run before: with a confirmed
hypothesis it executes what the decisions signed, in that order and each hash once, and
without one it executes nothing. -/
theorem honest_forward (hideal : ed25519.Ideal) (isprintable : Char → Bool) (key : κ)
    (executor : CoordinatorEnv → Executor σ) {seed : IncidentState}
    (hseed : seed.actionIntents = []) (turns : List Turn)
    (honest : ∀ t ∈ turns, t.Honest) (env : CoordinatorEnv) :
    let c := turns.foldl (Custody.turn sha256 ed25519 isprintable key executor)
      { state := seed }
    (coordinatorNode env
        (Security.check sha256 ed25519 isprintable (ed25519.publicKey key)) c.state).forward =
      if HasConfirmed seed then
        forwardOutcomes ∅ (turns.flatMap (signedBy sha256 ed25519 key))
      else [] := by
  intro c
  obtain ⟨hintents, hhyps⟩ :
      c.state.actionIntents =
        seed.actionIntents ++ turns.flatMap (signedBy sha256 ed25519 key) ∧
      c.state.hypotheses = seed.hypotheses :=
    state_of_honest turns honest { state := seed }
  rw [hseed, List.nil_append] at hintents
  have hall : AllVerified
      (Security.check sha256 ed25519 isprintable (ed25519.publicKey key))
      c.state.actionIntents := by
    intro j hj
    rw [hintents] at hj
    obtain ⟨t, -, hj⟩ := List.mem_flatMap.mp hj
    exact check_signedBy hideal hj
  have hconf : HasConfirmed c.state ↔ HasConfirmed seed := hasConfirmed_congr hhyps
  rw [coordinatorNode_forward, hintents]
  by_cases h : HasConfirmed seed
  · rw [if_pos h, if_pos ⟨hintents ▸ hall, hconf.mpr h⟩]
  · rw [if_neg h, if_neg (fun hboth => h (hconf.mp hboth.2))]

end Honest

/-! ### A rewritten checkpoint

The Planner decides to scale the leaky service to zero. Before the Coordinator gets to
it, the checkpoint is rewritten: the intent gets another expiry, and a hypothesis
becomes confirmed. -/

section Example

open Security

def testDecision : LLMPlannerDecision :=
  { planId := "plan_1"
    planType := .scale
    rationale := ""
    confidence := (testHypothesis .confirmed).score
    actionTarget := testIntent.target
    actionParameters := testIntent.parameters
    expectedEffect := testIntent.expectedEffect
    rollbackHint := testIntent.rollbackHint
    reasoning := "" }

def testTurns : List Turn :=
  [.plan testNow testDecision,
    .tamper (testState [testHypothesis .confirmed] [testExtended]),
    .coordinate testEnv]

def testTurn : Custody → Turn → Custody :=
  Custody.turn testSha256 testEd25519 (fun _ => true) () fun env =>
    coordinatorExecutor env.toExecEnv

theorem signedBy_testDecision :
    signedBy testSha256 testEd25519 () (.plan testNow testDecision) = [testSigned] := by
  have hconf : confidenceThreshold ≤ testDecision.confidence.val := by
    norm_num [confidenceThreshold, testDecision, testHypothesis]
  rw [signedBy, newIntents, gatedPlan_of_confident hconf]
  rfl

theorem feasible_testTurns :
    Operations.Along testTurn (Feasible testEd25519 ()) { state := testState [] [] }
      testTurns := by
  refine ⟨trivial, ?_, trivial, trivial⟩
  have hissued : (testTurn { state := testState [] [] }
      (.plan testNow testDecision)).issued = [testSigned] := signedBy_testDecision
  intro i hi raw m hraw _
  obtain rfl := List.mem_singleton.mp hi
  have hsig : testExtended.signature = testSigned.signature := rfl
  rw [hsig, testSigned, sign_signature, Base64.b64decode_b64encode, Except.ok.injEq] at hraw
  rw [hissued]
  exact ⟨testSigned, List.mem_singleton.mpr rfl, hraw.symm⟩

/-- The rewritten intent runs, and its effect was decided. -/
theorem calls_decided_testTurns :
    let c := testTurns.foldl testTurn { state := testState [] [] }
    (testExtended, "dry_run_success") ∈ c.calls.filterMap ExecutorCall.forward? ∧
      ∀ call ∈ c.calls, ∃ decision ∈ c.decided,
        Carries decision (ExecutorCall.intent call) ∧
          ∃ j ∈ c.issued, (ExecutorCall.intent call).hash = j.hash := by
  refine ⟨?_, calls_decided testSha256_injective testEd25519_ideal (fun _ => true) ()
    (fun env => coordinatorExecutor env.toExecEnv)
    (show (testState [] []).actionIntents = [] from rfl) testTurns feasible_testTurns⟩
  have hall : AllVerified testCheck [testExtended] := by
    rw [allVerified_singleton, testCheck, check_eq_ok_iff]
    exact verify_withWindow_sign testSha256 testEd25519_ideal _ () testIntent _ _
  have hconf : HasConfirmed (testState [testHypothesis .confirmed] [testExtended]) :=
    ⟨testHypothesis .confirmed, List.mem_singleton.mpr rfl, rfl⟩
  have hforward := coordinatorNode_forward testEnv testCheck
    (testState [testHypothesis .confirmed] [testExtended])
  rw [if_pos ⟨hall, hconf⟩] at hforward
  have hcalls : ∀ c : Custody, (testTurn (testTurn c
        (.tamper (testState [testHypothesis .confirmed] [testExtended])))
        (.coordinate testEnv)).calls =
      c.calls ++ (coordinatorNode testEnv testCheck
        (testState [testHypothesis .confirmed] [testExtended])).calls := fun _ => rfl
  rw [testTurns, List.foldl_cons, List.foldl_cons, List.foldl_cons, List.foldl_nil, hcalls,
    List.filterMap_append]
  apply List.mem_append_right
  rw [CoordinatorResult.forward] at hforward
  rw [hforward]
  exact List.mem_cons_self

theorem honest_forward_testDecision :
    (coordinatorNode testEnv testCheck
        ([Turn.plan testNow testDecision].foldl testTurn
          { state := testState [testHypothesis .confirmed] [] }).state).forward =
      if HasConfirmed (testState [testHypothesis .confirmed] []) then
        forwardOutcomes ∅ ([Turn.plan testNow testDecision].flatMap
          (signedBy testSha256 testEd25519 ()))
      else [] :=
  honest_forward testEd25519_ideal (fun _ => true) ()
    (fun env => coordinatorExecutor env.toExecEnv)
    (show (testState [testHypothesis .confirmed] []).actionIntents = [] from rfl)
    [Turn.plan testNow testDecision] (by simp [Turn.Honest]) testEnv

end Example

end AlphE.Orchestrator
