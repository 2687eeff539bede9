import AlphE.Schemas.Remediation

/-!
The output models the reasoning nodes ask the LLM for (`nodes/_models.py`, and
the Planner's own flat model in `nodes/planner.py`).
-/

namespace AlphE

/-- What the Investigator asks for, each tick. -/
structure InvestigatorOutput where
  hypotheses : List Hypothesis
  currentFocusHypothesisId : String
  reasoning : String
  deriving DecidableEq, Repr

/-- What the Verifier asks for. -/
structure VerifierLLMOutput where
  kind : VerifierResultKind
  reasoning : String
  failures : List String := []
  deriving DecidableEq, Repr

/-- The members of the `Literal` the Reviewer decides in. -/
inductive ReviewDecision
  | approve | requestChangesOnFix | challengeRootCause
  deriving DecidableEq, Repr

/-- What the Reviewer asks for. -/
structure ReviewerOutput where
  decision : ReviewDecision
  reasoning : String
  citedEvidenceIds : List String := []
  deriving DecidableEq, Repr

/-- What the Dev node asks for. -/
structure DevLLMOutput where
  changes : List FileChange
  commitMessage : String
  prBody : String
  branchName : String
  reasoning : String
  deriving DecidableEq, Repr

/-- What the Dev node returns after a successful run. -/
structure DevOutput where
  proposal : FixProposal
  reasoning : String
  deriving DecidableEq, Repr

/-- The members of `_PlanTypeStr`. -/
inductive PlanTypeStr
  | pr | rollback | scale | flagFlip | runbook | none
  deriving DecidableEq, Repr

/-- `RemediationType(plan_type)`. -/
def PlanTypeStr.toRemediationType : PlanTypeStr → RemediationType
  | .pr => .pr
  | .rollback => .rollback
  | .scale => .scale
  | .flagFlip => .flagFlip
  | .runbook => .runbook
  | .none => .none

/-- `_LLMPlannerDecision`: primitives only, no enumeration and no model. -/
structure LLMPlannerDecision where
  planId : String
  planType : PlanTypeStr
  rationale : String
  confidence : UnitFloat
  requiresHumanApproval : Bool := true
  evidenceIds : List String := []
  targetServices : List String := []
  targetRepos : List String := []
  rollbackPlan : String := ""
  actionTarget : String := ""
  actionParameters : Parameters := ∅
  expectedEffect : String := ""
  rollbackHint : String := ""
  reasoning : String
  deriving DecidableEq, Repr

end AlphE
