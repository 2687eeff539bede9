import AlphE.Schemas.Primitives

/-!
The collector contract (`schemas/collector.py`, `schemas/evidence.py`): what
the orchestrator sends to a collector and what it receives back. The bounds
pydantic checks on construction are part of the types: a confidence lies in
`[0, 1]`, counts and sizes are natural numbers, and `max_internal_iterations`
lies in `[1, 10]`.
-/

namespace AlphE

/-- A pointer to a payload held in the evidence store. -/
structure EvidenceRef where
  evidenceId : String
  storageUri : String
  contentType : String
  sizeBytes : ℕ
  expiresAt : DateTime
  deriving DecidableEq, Repr

/-- Half-open range used to bound collector queries. -/
structure TimeRange where
  start : DateTime
  stop : DateTime
  deriving DecidableEq, Repr

/-- The cluster, account, region and revision an incident is about. -/
structure EnvironmentFingerprint where
  cluster : String
  account : String
  region : String
  deployRevision : String
  rolloutGeneration : String
  deriving DecidableEq, Repr

/-- A single refined collector output: one question, one answer. -/
structure Finding where
  id : String
  collectorName : String
  question : String
  summary : String
  evidenceId : String
  confidence : UnitFloat
  suggestedFollowups : List String := []
  createdAt : DateTime
  deriving DecidableEq, Repr

/-- `max_internal_iterations: int = Field(default=5, ge=1, le=10)`. -/
abbrev IterationCap := { n : ℕ // 1 ≤ n ∧ n ≤ 10 }

/-- What the orchestrator sends to a collector. -/
structure CollectorInput where
  incidentId : String
  question : String
  hypothesisId : String
  timeRange : TimeRange
  scopeServices : List String
  environmentFingerprint : EnvironmentFingerprint
  maxInternalIterations : IterationCap := ⟨5, by decide⟩
  deriving DecidableEq, Repr

/-- What the orchestrator receives back from a collector. -/
structure CollectorOutput where
  finding : Finding
  evidence : EvidenceRef
  toolCallsUsed : ℕ
  tokensUsed : ℕ
  deriving DecidableEq, Repr

end AlphE
