import AlphE.Lib.GoText
import AlphE.Lib.GoValues
import AlphE.Lib.Validation
import AlphE.Schemas.Primitives
import Mathlib.Tactic.SplitIfs

/-!
The collectors' side of the contract (`collectors/internal/contract`): the
records that `schemas/collector.py` declares on the other side of the wire, the
check a request goes through, and the JSON an answer is encoded as. What was
decoded from JSON is text; a summary may quote the bytes of an error. A slice
that is `nil` is `none`, and encodes as null.
-/

namespace AlphE.Collectors

open Go Validation

/-- A JSON value, as the other side validates it. -/
abbrev Json := Value DateTime

structure TimeRange where
  start : Time
  stop : Time
  deriving DecidableEq, Repr

structure EnvironmentFingerprint where
  cluster : String
  account : String
  region : String
  deployRevision : String
  rolloutGeneration : String
  deriving DecidableEq, Repr

/-- The metadata envelope for a blob in the evidence store. -/
structure EvidenceRef where
  evidenceId : String
  storageUri : String
  contentType : String
  sizeBytes : Int
  expiresAt : Time
  deriving DecidableEq, Repr

/-- The one-question-one-answer collector output. -/
structure Finding where
  id : String
  collectorName : String
  question : String
  summary : GoString
  evidenceId : String
  confidence : Float64
  suggestedFollowups : Option (List String) := none
  createdAt : Time
  deriving DecidableEq, Repr

/-- What the orchestrator posts to a collector. -/
structure CollectorInput where
  incidentId : String
  question : String
  hypothesisId : String
  timeRange : TimeRange
  scopeServices : List String
  environmentFingerprint : EnvironmentFingerprint
  maxInternalIterations : Int
  deriving DecidableEq, Repr

/-- What the orchestrator receives back. -/
structure CollectorOutput where
  finding : Finding
  evidence : EvidenceRef
  toolCallsUsed : Int := 0
  tokensUsed : Int := 0
  deriving DecidableEq, Repr

/-! ### Requests -/

namespace CollectorInput

/-- `Validate`: what is wrong with a request. -/
def validate (c : CollectorInput) : Option String :=
  if c.incidentId = "" then some "incident_id is required"
  else if c.question = "" then some "question is required"
  else if c.hypothesisId = "" then some "hypothesis_id is required"
  else if c.timeRange.start.isZero || c.timeRange.stop.isZero then
    some "time_range.start and time_range.end are required"
  else if !c.timeRange.stop.after c.timeRange.start then
    some "time_range.end must be strictly after time_range.start"
  else if c.environmentFingerprint.cluster = "" then
    some "environment_fingerprint.cluster is required"
  else none

/-- `EffectiveIterations`. -/
def effectiveIterations (c : CollectorInput) : Int :=
  if c.maxInternalIterations ≤ 0 then 5
  else if 10 < c.maxInternalIterations then 10
  else c.maxInternalIterations

theorem effectiveIterations_mem (c : CollectorInput) :
    1 ≤ c.effectiveIterations ∧ c.effectiveIterations ≤ 10 := by
  rw [effectiveIterations]
  split
  · decide
  · split <;> omega

/-- What a request is that passes the check. -/
structure Valid (c : CollectorInput) : Prop where
  incidentId : c.incidentId ≠ ""
  question : c.question ≠ ""
  hypothesisId : c.hypothesisId ≠ ""
  start : c.timeRange.start.isZero = false
  stop : c.timeRange.stop.isZero = false
  after : c.timeRange.stop.after c.timeRange.start = true
  cluster : c.environmentFingerprint.cluster ≠ ""

theorem validate_eq_none_iff (c : CollectorInput) : c.validate = none ↔ c.Valid := by
  constructor
  · intro h
    simp only [validate] at h
    split_ifs at h with hincident hquestion hhypothesis hzero hafter hcluster
    rw [Bool.not_eq_true, Bool.or_eq_false_iff] at hzero
    exact ⟨hincident, hquestion, hhypothesis, hzero.1, hzero.2, by simpa using hafter,
      hcluster⟩
  · intro h
    simp [validate, h.incidentId, h.question, h.hypothesisId, h.start, h.stop, h.after,
      h.cluster]

end CollectorInput

/-! ### Answers -/

/-- A number that is whole is written without a fraction, up to where the
exponent starts. -/
def encodeFloat : Float64 → Option Json
  | .fin q => some (if q.den = 1 ∧ |q| < 10 ^ 21 then .int q.num else .float q)
  | _ => none

def encodeStrings : Option (List String) → Json
  | none => .null
  | some ss => .list (ss.map .str)

def EvidenceRef.encode (r : EvidenceRef) : Option Json := do
  let expiresAt ← r.expiresAt.marshal
  return .dict
    [("evidence_id", .str r.evidenceId), ("storage_uri", .str r.storageUri),
      ("content_type", .str r.contentType), ("size_bytes", .int r.sizeBytes),
      ("expires_at", .str expiresAt)]

def Finding.encode (f : Finding) : Option Json := do
  let confidence ← encodeFloat f.confidence
  let createdAt ← f.createdAt.marshal
  return .dict
    [("id", .str f.id), ("collector_name", .str f.collectorName),
      ("question", .str f.question), ("summary", .str (toText f.summary)),
      ("evidence_id", .str f.evidenceId), ("confidence", confidence),
      ("suggested_followups", encodeStrings f.suggestedFollowups),
      ("created_at", .str createdAt)]

def CollectorOutput.encode (out : CollectorOutput) : Option Json := do
  let finding ← out.finding.encode
  let evidence ← out.evidence.encode
  return .dict
    [("finding", finding), ("evidence", evidence),
      ("tool_calls_used", .int out.toolCallsUsed), ("tokens_used", .int out.tokensUsed)]

end AlphE.Collectors
