import AlphE.Nodes.Planner
import AlphE.Llm.OutputModels
import AlphE.Security.Integrity

/-!
What the Planner lets through. The confidence gate rewrites the plan, the type
of the plan decides whether there is an intent, and the intent is built from the
decision as the LLM wrote it: which intents come out, and what they carry.
-/

namespace AlphE.Nodes

open Security

/-- `PlannerOutput`. -/
structure PlannerOutput where
  plan : RemediationPlan
  intent : Option ActionIntent
  reasoning : String
  deriving DecidableEq

/-- What `planner_node` has made of a decision when it writes its update. -/
def plannerOutput (now : DateTime) (sign : ActionIntent → ActionIntent)
    (decision : LLMPlannerDecision) : PlannerOutput :=
  let plan := gatedPlan decision
  { plan := plan
    intent := (planToActionType plan.type).map fun actionType =>
      buildIntent decision actionType sign now
    reasoning := decision.reasoning }

/-- The action a mutating plan asks for. -/
inductive MatchingAction : PlanTypeStr → ActionType → Prop
  | rollback : MatchingAction .rollback .rollback
  | scale : MatchingAction .scale .scale
  | flagFlip : MatchingAction .flagFlip .flagFlip

theorem planToActionType_eq_some_iff {planType : PlanTypeStr} {actionType : ActionType} :
    planToActionType planType.toRemediationType = some actionType ↔
      MatchingAction planType actionType := by
  constructor
  · intro h
    cases planType <;> cases h <;> constructor
  · rintro (_ | _ | _) <;> rfl

theorem exists_matchingAction_iff {planType : PlanTypeStr} :
    (∃ actionType, MatchingAction planType actionType) ↔
      planType = .rollback ∨ planType = .scale ∨ planType = .flagFlip := by
  constructor
  · rintro ⟨actionType, (_ | _ | _)⟩ <;> simp
  · rintro (rfl | rfl | rfl)
    · exact ⟨_, .rollback⟩
    · exact ⟨_, .scale⟩
    · exact ⟨_, .flagFlip⟩

section Output

variable {now : DateTime} {sign : ActionIntent → ActionIntent} {decision : LLMPlannerDecision}

/-- The intents in the update are those of the state, and the output's. -/
theorem plannerNode_actionIntents (state : IncidentState) :
    (plannerNode now sign decision state).actionIntents =
      some (state.actionIntents ++ (plannerOutput now sign decision).intent.toList) := by
  simp only [plannerNode, plannerOutput, newIntents]
  cases planToActionType (gatedPlan decision).type with
  | none => rfl
  | some actionType => rfl

/-- Below the threshold the plan is forced to `none`. -/
theorem plannerOutput_of_low_confidence
    (h : decision.confidence.val < confidenceThreshold) :
    (plannerOutput now sign decision).plan.type = .none := by
  have hlow : (decisionToPlan decision).confidence.val < confidenceThreshold := h
  simp only [plannerOutput, gatedPlan, if_pos hlow]
  rfl

/-- The gate rewrites the type and the rationale, nothing else. -/
theorem plannerOutput_requiresHumanApproval :
    (plannerOutput now sign decision).plan.requiresHumanApproval =
      decision.requiresHumanApproval := by
  simp only [plannerOutput, gatedPlan]
  split <;> rfl

/-- There is an intent exactly for a confident decision of a mutating type, and
it is built from that decision. -/
theorem plannerOutput_intent_eq_some_iff {intent : ActionIntent} :
    (plannerOutput now sign decision).intent = some intent ↔
      confidenceThreshold ≤ decision.confidence.val ∧
        ∃ actionType, MatchingAction decision.planType actionType ∧
          intent = buildIntent decision actionType sign now := by
  rcases lt_or_ge decision.confidence.val confidenceThreshold with hlow | hconfident
  · have hplan : (gatedPlan decision).type = .none :=
      @plannerOutput_of_low_confidence now sign decision hlow
    simp [plannerOutput, hplan, planToActionType, not_le.mpr hlow]
  · have hplan : (gatedPlan decision).type = decision.planType.toRemediationType := by
      rw [gatedPlan_of_confident hconfident]
      rfl
    rw [plannerOutput, hplan, Option.map_eq_some_iff, and_iff_right hconfident]
    constructor
    · rintro ⟨actionType, haction, rfl⟩
      exact ⟨actionType, planToActionType_eq_some_iff.mp haction, rfl⟩
    · rintro ⟨actionType, hmatch, rfl⟩
      exact ⟨actionType, planToActionType_eq_some_iff.mpr hmatch, rfl⟩

end Output

section Signed

variable {κ ν : Type} {sha256 : Bytes → String} {ed25519 : SignatureScheme κ ν}

/-- A signed intent verifies under the paired key, if a signature does. -/
theorem verify_sign (hverify : ∀ k m, ed25519.verify (ed25519.publicKey k)
      (ed25519.sign k m) m = true) (isprintable : Char → Bool) (privateKey : κ)
    (intent : ActionIntent) :
    verify sha256 ed25519 isprintable (ed25519.publicKey privateKey)
      (Security.sign sha256 ed25519 privateKey intent) = .ok true := by
  rw [verify_eq_ok_iff]
  refine ⟨rfl, _, ?_, hverify privateKey _⟩
  rw [sign_signature, Base64.b64decode_b64encode, sign_hash]

variable (sha256) (ed25519) (privateKey : κ) (now : DateTime)
  (decision : LLMPlannerDecision) (state : IncidentState)

/-- **The intents the Planner emits.** At most one intent is added to those of
the state, and one is exactly for a decision to roll back, scale or flip a flag
with a confidence of at least one half. It carries what the decision says, it
expires after a quarter of an hour, it is pending, and it verifies under the
paired key. With less confidence the plan is of type `none`. -/
theorem plannerNode_emits (hverify : ∀ k m, ed25519.verify (ed25519.publicKey k)
      (ed25519.sign k m) m = true) (isprintable : Char → Bool) :
    let sign := Security.sign sha256 ed25519 privateKey
    ∃ added : List ActionIntent,
      (plannerNode now sign decision state).actionIntents =
        some (state.actionIntents ++ added) ∧
      added.length ≤ 1 ∧
      (added ≠ [] ↔
        (decision.planType = .rollback ∨ decision.planType = .scale ∨
          decision.planType = .flagFlip) ∧ 1 / 2 ≤ decision.confidence.val) ∧
      (∀ intent ∈ added,
        MatchingAction decision.planType intent.actionType ∧
        intent.target = decision.actionTarget ∧
        intent.parameters = decision.actionParameters ∧
        intent.expectedEffect = decision.expectedEffect ∧
        intent.rollbackHint = decision.rollbackHint ∧
        intent.expiresAt = now.addMicros (DateTime.minutes 15) ∧
        intent.approvalStatus = "pending" ∧
        verify sha256 ed25519 isprintable (ed25519.publicKey privateKey) intent =
          .ok true) ∧
      (decision.confidence.val < 1 / 2 →
        (plannerOutput now sign decision).plan.type = .none) := by
  intro sign
  refine ⟨(plannerOutput now sign decision).intent.toList, plannerNode_actionIntents state,
    Option.length_toList_le, ?_, ?_, plannerOutput_of_low_confidence⟩
  · rw [← exists_matchingAction_iff, ne_eq, Option.toList_eq_nil_iff, ← ne_eq,
      Option.ne_none_iff_exists']
    simp only [plannerOutput_intent_eq_some_iff]
    constructor
    · rintro ⟨intent, hconfident, actionType, hmatch, -⟩
      exact ⟨⟨actionType, hmatch⟩, hconfident⟩
    · rintro ⟨⟨actionType, hmatch⟩, hconfident⟩
      exact ⟨_, hconfident, actionType, hmatch, rfl⟩
  · intro intent hintent
    rw [Option.mem_toList, plannerOutput_intent_eq_some_iff] at hintent
    obtain ⟨-, actionType, hmatch, rfl⟩ := hintent
    exact ⟨hmatch, rfl, rfl, rfl, rfl, rfl, rfl, verify_sign hverify isprintable privateKey _⟩

end Signed

/-- A confident decision to scale `leaky-service`. -/
def testDecision : LLMPlannerDecision :=
  { planId := "plan_1"
    planType := .scale
    rationale := "The leak is confirmed."
    confidence := UnitFloat.one
    actionTarget := "k8s:demo/leaky-service"
    actionParameters := .ofList [("replicas", .int 0)]
    expectedEffect := "Scale deployment to zero to stop the leak."
    rollbackHint := "Scale deployment back to 1 replica."
    reasoning := "hyp_1 is confirmed." }

def testPlanning : IncidentState :=
  { incidentId := "inc_1"
    alert :=
      { source := "alertmanager"
        rawMessage := "PodOOMKilled: leaky-service"
        service := "leaky-service"
        severity := .high
        firedAt := testNow }
    createdAt := testNow
    updatedAt := testNow }

theorem plannerNode_emits_testDecision :
    ∃ intent, (plannerNode testNow (Security.sign testSha256 testEd25519 ()) testDecision
        testPlanning).actionIntents = some [intent] ∧
      intent.actionType = .scale ∧
      verify testSha256 testEd25519 (fun _ => true) () intent = .ok true := by
  obtain ⟨added, hadded, hlength, hne, hcarries, -⟩ := plannerNode_emits testSha256 testEd25519
    () testNow testDecision testPlanning testEd25519_ideal.verify_sign fun _ => true
  have hmutating : added ≠ [] :=
    hne.mpr ⟨.inr (.inl rfl), by norm_num [testDecision, UnitFloat.one]⟩
  obtain ⟨intent, rfl⟩ : ∃ intent, added = [intent] :=
    List.length_eq_one_iff.mp (le_antisymm hlength (List.length_pos_iff.mpr hmutating))
  obtain ⟨hmatch, -, -, -, -, -, -, hverified⟩ := hcarries intent (List.mem_singleton.mpr rfl)
  have hscale : planToActionType .scale = some intent.actionType :=
    planToActionType_eq_some_iff.mpr hmatch
  exact ⟨intent, hadded, (Option.some.inj hscale).symm, hverified⟩

/-! ### What an intent may lack -/

section Complete

variable {κ ν : Type} (sha256 : Bytes → String) (ed25519 : SignatureScheme κ ν)
  (privateKey : κ) (now : DateTime) (decision : LLMPlannerDecision) (state : IncidentState)

/-- The Planner appends no intent but with a plan that demands approval, and
none that lacks its target, its effect or the way back. -/
def AppendsComplete : Prop :=
  ∀ intent, (plannerNode now (Security.sign sha256 ed25519 privateKey) decision
      state).actionIntents = some (state.actionIntents ++ [intent]) →
    (plannerOutput now (Security.sign sha256 ed25519 privateKey)
        decision).plan.requiresHumanApproval = true ∧
      intent.target ≠ "" ∧ intent.expectedEffect ≠ "" ∧ intent.rollbackHint ≠ ""

theorem appends_iff {sign : ActionIntent → ActionIntent} {intent : ActionIntent} :
    (plannerNode now sign decision state).actionIntents =
        some (state.actionIntents ++ [intent]) ↔
      (plannerOutput now sign decision).intent = some intent := by
  rw [plannerNode_actionIntents, Option.some.injEq, List.append_right_inj]
  cases (plannerOutput now sign decision).intent with
  | none => simp
  | some other => simp

/-- **Which decisions lead to complete intents.** The Planner copies what the
LLM wrote: what it appends is complete exactly when a confident decision of a
mutating type demands approval and names its target, its effect and the way
back. -/
theorem appendsComplete_iff :
    AppendsComplete sha256 ed25519 privateKey now decision state ↔
      ((decision.planType = .rollback ∨ decision.planType = .scale ∨
          decision.planType = .flagFlip) → 1 / 2 ≤ decision.confidence.val →
        decision.requiresHumanApproval = true ∧ decision.actionTarget ≠ "" ∧
          decision.expectedEffect ≠ "" ∧ decision.rollbackHint ≠ "") := by
  simp only [AppendsComplete, appends_iff, plannerOutput_requiresHumanApproval,
    plannerOutput_intent_eq_some_iff]
  rw [← exists_matchingAction_iff]
  constructor
  · rintro hcomplete ⟨actionType, hmatch⟩ hconfident
    exact hcomplete _ ⟨hconfident, actionType, hmatch, rfl⟩
  · rintro hdecision intent ⟨hconfident, actionType, hmatch, rfl⟩
    exact hdecision ⟨actionType, hmatch⟩ hconfident

/-- The LLM waives the approval and leaves the fields of the action out. -/
def testWaived : LLMPlannerDecision :=
  { planId := "plan_1"
    planType := .rollback
    rationale := "Roll back at once."
    confidence := UnitFloat.one
    requiresHumanApproval := false
    reasoning := "No time to ask." }

/-- The decision is accepted, and signed as it is. -/
theorem not_appendsComplete :
    ¬ ∀ (raw : Llm.WireValue) (decision : LLMPlannerDecision),
        Llm.llmPlannerDecision raw = .valid decision →
        ∀ state, AppendsComplete testSha256 testEd25519 () testNow decision state := by
  intro h
  have hcomplete := h _ testWaived (Llm.llmPlannerDecision_dump testWaived) testPlanning
  have hconfident : confidenceThreshold ≤ testWaived.confidence.val := by
    norm_num [confidenceThreshold, testWaived, UnitFloat.one]
  have happroval := (hcomplete _ ((appends_iff ..).mpr
    (plannerOutput_intent_eq_some_iff.mpr ⟨hconfident, .rollback, .rollback, rfl⟩))).1
  rw [plannerOutput_requiresHumanApproval] at happroval
  cases happroval

end Complete

end AlphE.Nodes
