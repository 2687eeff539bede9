import AlphE.Schemas.Collector

/-!
`IncidentState` and its immediate children (`schemas/incident.py`): the only
durable container of the orchestrator. A node never edits the state; it
returns an update naming the channels it writes, and the graph merges the
update into the state.
-/

namespace AlphE

inductive Severity
  | critical | high | medium | low
  deriving DecidableEq, Repr

def Severity.value : Severity → String
  | .critical => "critical"
  | .high => "high"
  | .medium => "medium"
  | .low => "low"

inductive HypothesisStatus
  | «open» | confirmed | refuted | abandoned
  deriving DecidableEq, Repr

inductive IncidentPhase
  | intake | investigating | planning | fixing
  | verifying | reviewing | escalated | resolved
  deriving DecidableEq, Repr

inductive ActionType
  | query | fixAttempt | rollback | scale | flagFlip | notification | noOp
  deriving DecidableEq, Repr

/-- The string a `StrEnum` member formats as. -/
def ActionType.value : ActionType → String
  | .query => "query"
  | .fixAttempt => "fix_attempt"
  | .rollback => "rollback"
  | .scale => "scale"
  | .flagFlip => "flag_flip"
  | .notification => "notification"
  | .noOp => "no_op"

theorem ActionType.value_injective : Function.Injective ActionType.value := by
  intro a b h
  cases a <;> cases b <;> first | rfl | exact absurd h (by decide)

inductive ActionStatus
  | pending | executing | succeeded | failed
  deriving DecidableEq, Repr

/-- The initial signal, typically parsed from an Alertmanager webhook. -/
structure Alert where
  source : String
  rawMessage : String
  service : String
  severity : Severity
  firedAt : DateTime
  labels : InsertionDict String String := ∅
  deriving DecidableEq, Repr

/-- A candidate root cause, scored and annotated with evidence over time. -/
structure Hypothesis where
  id : String
  text : String
  score : UnitFloat := UnitFloat.zero
  status : HypothesisStatus := .«open»
  supportingEvidenceIds : List String := []
  refutingEvidenceIds : List String := []
  createdAt : DateTime
  deriving DecidableEq, Repr

/-- Audit trail entry: who ran what, and when. -/
structure TimelineEvent where
  ts : DateTime
  actor : String
  eventType : String
  refId : Option String := none
  deriving DecidableEq, Repr

/-- One value of an intent's parameters. The three types are kept apart: the
integer `1`, the Boolean `True` and the string `"1"` are different values. -/
inductive ParamValue
  | str (s : String)
  | int (i : Int)
  | bool (b : Bool)
  deriving DecidableEq, Repr

/-- `dict[str, str | int | bool]`. -/
abbrev Parameters := InsertionDict String ParamValue

/-- A typed, signed description of a mutation the Coordinator may execute. -/
structure ActionIntent where
  hash : String
  actionType : ActionType
  target : String
  parameters : Parameters := ∅
  expectedEffect : String
  rollbackHint : String
  signer : String
  signature : String
  approvalStatus : String := "pending"
  approvedBy : Option String := none
  approvedAt : Option DateTime := none
  expiresAt : DateTime
  deriving DecidableEq, Repr

/-- An attempted action; `intentHash` binds it to the intent that authorised
it. -/
structure Action where
  id : String
  type : ActionType
  description : String
  status : ActionStatus
  intentHash : Option String := none
  refId : Option String := none
  executedAt : Option DateTime := none
  deriving DecidableEq, Repr

/-- The only durable container. -/
structure IncidentState where
  incidentId : String
  alert : Alert
  hypotheses : List Hypothesis := []
  findings : List Finding := []
  timeline : List TimelineEvent := []
  actionsTaken : List Action := []
  actionIntents : List ActionIntent := []
  servicesTouched : List String := []
  currentFocusHypothesisId : Option String := none
  investigationAttempts : ℕ := 0
  phase : IncidentPhase := .intake
  createdAt : DateTime
  updatedAt : DateTime
  deriving DecidableEq, Repr

/-- A node's return value: the channels it writes, each with its new value.
A key of the returned dictionary that is no field of `IncidentState` (the
planner's `remediation_plan`) names no channel and is dropped by the graph. -/
structure StateUpdate where
  alert : Option Alert := none
  hypotheses : Option (List Hypothesis) := none
  findings : Option (List Finding) := none
  timeline : Option (List TimelineEvent) := none
  actionsTaken : Option (List Action) := none
  actionIntents : Option (List ActionIntent) := none
  servicesTouched : Option (List String) := none
  currentFocusHypothesisId : Option (Option String) := none
  investigationAttempts : Option ℕ := none
  phase : Option IncidentPhase := none
  updatedAt : Option DateTime := none
  deriving DecidableEq, Repr

/-- Merging an update: a written channel takes the new value, every other
channel keeps what it held. -/
def IncidentState.merge (s : IncidentState) (u : StateUpdate) : IncidentState where
  incidentId := s.incidentId
  alert := u.alert.getD s.alert
  hypotheses := u.hypotheses.getD s.hypotheses
  findings := u.findings.getD s.findings
  timeline := u.timeline.getD s.timeline
  actionsTaken := u.actionsTaken.getD s.actionsTaken
  actionIntents := u.actionIntents.getD s.actionIntents
  servicesTouched := u.servicesTouched.getD s.servicesTouched
  currentFocusHypothesisId :=
    u.currentFocusHypothesisId.getD s.currentFocusHypothesisId
  investigationAttempts := u.investigationAttempts.getD s.investigationAttempts
  phase := u.phase.getD s.phase
  createdAt := s.createdAt
  updatedAt := u.updatedAt.getD s.updatedAt

/-! ### The intent of the unit tests -/

/-- 2026-04-21 14:00 UTC. -/
def testNow : DateTime := .utc 1776780000000000

/-- The unsigned intent to scale `leaky-service` to zero. -/
def testIntent : ActionIntent :=
  { hash := "placeholder"
    actionType := .scale
    target := "k8s:demo/leaky-service"
    parameters := .ofList [("replicas", .int 0)]
    expectedEffect := "Scale deployment to zero to stop the leak."
    rollbackHint := "Scale deployment back to 1 replica."
    signer := "orchestrator:planner"
    signature := "placeholder"
    expiresAt := testNow.addMicros (DateTime.minutes 15) }

end AlphE
