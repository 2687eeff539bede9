import AlphE.Schemas.Incident

/-!
Remediation plans, verifier results and the escalation shapes
(`schemas/remediation.py`, `schemas/verifier.py`, `schemas/escalation.py`).
-/

namespace AlphE

inductive RemediationType
  | pr | rollback | scale | flagFlip | runbook | none
  deriving DecidableEq, Repr

/-- The string a `StrEnum` member formats as. -/
def RemediationType.value : RemediationType → String
  | .pr => "pr"
  | .rollback => "rollback"
  | .scale => "scale"
  | .flagFlip => "flag_flip"
  | .runbook => "runbook"
  | .none => "none"

/-- Pre-flight remediation decision; `type=none` is a valid outcome. -/
structure RemediationPlan where
  id : String
  type : RemediationType
  rationale : String
  evidenceIds : List String := []
  targetRepos : List String := []
  targetServices : List String := []
  rollbackPlan : String := ""
  confidence : UnitFloat := UnitFloat.zero
  requiresHumanApproval : Bool := true
  deriving DecidableEq, Repr

/-- A single file in a fix proposal's diff. -/
structure FileChange where
  repo : String
  path : String
  diff : String
  deriving DecidableEq, Repr

/-- What the Dev agent produces for a plan of type `pr`. -/
structure FixProposal where
  id : String
  planId : String
  branchName : String
  changes : List FileChange
  commitMessage : String
  prBody : String
  deriving DecidableEq, Repr

/-- Verifier outcomes: implementation defects are kept apart from an
invalidated diagnosis. -/
inductive VerifierResultKind
  | passed | implementationError | diagnosisInvalidated
  deriving DecidableEq, Repr

/-- What the Verifier reports; the kind is what the routing looks at. -/
structure VerifierResult where
  kind : VerifierResultKind
  checksRun : List String := []
  failures : List String := []
  dryRunOutput : String := ""
  reasoning : String := ""
  deriving DecidableEq, Repr

/-- Structured handoff to an on-call engineer. -/
structure EscalationPackage where
  incidentId : String
  hypothesesConsidered : List Hypothesis
  keyFindings : List Finding
  attempts : List RemediationPlan := []
  attemptFailureReasons : List String := []
  currentWorkingTheory : String
  suggestedNextSteps : List String := []
  deriving DecidableEq, Repr

/-- What a specialist produces when it cannot finish. -/
structure BlockedReport where
  workItemId : String
  whatWasTried : List String
  whatFailed : List String
  decisionNeeded : String
  partialArtifacts : List String := []
  deriving DecidableEq, Repr

end AlphE
