import AlphE.Nodes.Models
import AlphE.Lib.PyText
import Mathlib.Data.Rat.Floor

/-!
The Planner node (`nodes/planner.py`): the LLM's flat decision becomes a plan,
the confidence gate may force the plan to `type=none`, and a mutating plan gets
a signed intent. The signer is a function on intents.
-/

namespace AlphE.Nodes

/-- `_decision_to_plan`. -/
def decisionToPlan (decision : LLMPlannerDecision) : RemediationPlan :=
  { id := decision.planId
    type := decision.planType.toRemediationType
    rationale := decision.rationale
    confidence := decision.confidence
    requiresHumanApproval := decision.requiresHumanApproval
    evidenceIds := decision.evidenceIds
    targetServices := decision.targetServices
    targetRepos := decision.targetRepos
    rollbackPlan := decision.rollbackPlan }

/-- `_force_none_plan`. -/
def forceNonePlan (plan : RemediationPlan) (reason : String) : RemediationPlan :=
  { plan with
    type := .none
    rationale := "[confidence gate] " ++ reason ++ "  Original rationale: " ++
      plan.rationale }

/-- `_PLAN_TO_ACTION_TYPE`, whose keys are the mutating types. -/
def planToActionType : RemediationType → Option ActionType
  | .rollback => some .rollback
  | .scale => some .scale
  | .flagFlip => some .flagFlip
  | _ => none

def approvalWindowMinutes : Int := 15

def confidenceThreshold : ℚ := 1 / 2

/-- The plan after the confidence gate. -/
def gatedPlan (decision : LLMPlannerDecision) : RemediationPlan :=
  let plan := decisionToPlan decision
  if plan.confidence.val < confidenceThreshold then
    forceNonePlan plan ("Confidence " ++ PyText.format2f plan.confidence ++
      " is below threshold 0.5.")
  else plan

/-- `_build_intent`. -/
def buildIntent (decision : LLMPlannerDecision) (actionType : ActionType)
    (sign : ActionIntent → ActionIntent) (now : DateTime) : ActionIntent :=
  sign
    { hash := "__unsigned__"
      actionType := actionType
      target := decision.actionTarget
      parameters := decision.actionParameters
      expectedEffect := decision.expectedEffect
      rollbackHint := decision.rollbackHint
      signer := "orchestrator:planner"
      signature := "__unsigned__"
      expiresAt := now.addMicros (DateTime.minutes approvalWindowMinutes) }

/-- The intents a decision adds: one for a mutating plan, none otherwise. -/
def newIntents (decision : LLMPlannerDecision) (sign : ActionIntent → ActionIntent)
    (now : DateTime) : List ActionIntent :=
  match planToActionType (gatedPlan decision).type with
  | some actionType => [buildIntent decision actionType sign now]
  | none => []

/-- `planner_node`. The plan itself is returned under a key that is no channel
of the state, and is lost. -/
def plannerNode (now : DateTime) (sign : ActionIntent → ActionIntent)
    (decision : LLMPlannerDecision) (state : IncidentState) : StateUpdate :=
  { phase := some .planning
    timeline := some (state.timeline ++
      [{ ts := now
         actor := "orchestrator:planner"
         eventType := "planner.decided"
         refId := some (gatedPlan decision).id }])
    updatedAt := some now
    actionIntents := some (state.actionIntents ++ newIntents decision sign now) }

/-- The gate lets a confident decision through. -/
theorem gatedPlan_of_confident {decision : LLMPlannerDecision}
    (h : confidenceThreshold ≤ decision.confidence.val) :
    gatedPlan decision = decisionToPlan decision := by
  have hnot : ¬ (decisionToPlan decision).confidence.val < confidenceThreshold :=
    not_lt.mpr h
  rw [gatedPlan, if_neg hnot]

/-- Below the confidence threshold nothing is planned for execution. -/
theorem newIntents_of_low_confidence {decision : LLMPlannerDecision}
    (sign : ActionIntent → ActionIntent) (now : DateTime)
    (h : decision.confidence.val < confidenceThreshold) :
    newIntents decision sign now = [] := by
  have hplan : (gatedPlan decision).type = .none := by
    have hconf : (decisionToPlan decision).confidence.val < confidenceThreshold := h
    rw [gatedPlan, if_pos hconf]
    rfl
  rw [newIntents, hplan]
  rfl

end AlphE.Nodes
