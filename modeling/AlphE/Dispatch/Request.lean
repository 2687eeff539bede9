import AlphE.Collectors.Server
import AlphE.Lib.GoJson
import AlphE.Schemas.Collector

/-!
A request on its way to a collector: what `CollectorInput.model_dump_json` writes
(`dispatch/http.py`) and what `handleCollect` makes of it
(`collectors/internal/server`). How a datetime is written is a parameter. It
is taken to be ISO 8601, as the schema library documents it: an offset is given
in hours and minutes, UTC as `Z`, and a value without a timezone has none.
-/

namespace AlphE.Dispatch

open Go Collectors

/-! ### Writing -/

section Dump

variable (dump : DateTime → String)

def dumpTimeRange (r : AlphE.TimeRange) : Json :=
  .dict [("start", .str (dump r.start)), ("end", .str (dump r.stop))]

def dumpFingerprint (f : AlphE.EnvironmentFingerprint) : Json :=
  .dict
    [("cluster", .str f.cluster), ("account", .str f.account), ("region", .str f.region),
      ("deploy_revision", .str f.deployRevision),
      ("rollout_generation", .str f.rolloutGeneration)]

/-- `CollectorInput.model_dump_json`. -/
def dumpCollectorInput (input : AlphE.CollectorInput) : Json :=
  .dict
    [("incident_id", .str input.incidentId), ("question", .str input.question),
      ("hypothesis_id", .str input.hypothesisId),
      ("time_range", dumpTimeRange dump input.timeRange),
      ("scope_services", .list (input.scopeServices.map .str)),
      ("environment_fingerprint", dumpFingerprint input.environmentFingerprint),
      ("max_internal_iterations", .int input.maxInternalIterations.val)]

end Dump

/-! ### Reading -/

open Go.Json

def timeRangeFields : List (String × Reader DateTime Collectors.TimeRange) :=
  [("start", field (·.start) (fun r t => { r with start := t }) time),
    ("end", field (·.stop) (fun r t => { r with stop := t }) time)]

def fingerprintFields : List (String × Reader DateTime Collectors.EnvironmentFingerprint) :=
  [("cluster", field (·.cluster) (fun f s => { f with cluster := s }) string),
    ("account", field (·.account) (fun f s => { f with account := s }) string),
    ("region", field (·.region) (fun f s => { f with region := s }) string),
    ("deploy_revision", field (·.deployRevision) (fun f s => { f with deployRevision := s })
      string),
    ("rollout_generation",
      field (·.rolloutGeneration) (fun f s => { f with rolloutGeneration := s }) string)]

def collectorInputFields : List (String × Reader DateTime Collectors.CollectorInput) :=
  [("incident_id", field (·.incidentId) (fun c s => { c with incidentId := s }) string),
    ("question", field (·.question) (fun c s => { c with question := s }) string),
    ("hypothesis_id", field (·.hypothesisId) (fun c s => { c with hypothesisId := s }) string),
    ("time_range", field (·.timeRange) (fun c r => { c with timeRange := r })
      (object timeRangeFields)),
    ("scope_services", field (·.scopeServices) (fun c ss => { c with scopeServices := ss })
      strings),
    ("environment_fingerprint",
      field (·.environmentFingerprint) (fun c f => { c with environmentFingerprint := f })
        (object fingerprintFields)),
    ("max_internal_iterations",
      field (·.maxInternalIterations) (fun c n => { c with maxInternalIterations := n }) int64)]

def zeroTime : Time := { nanos := Time.zeroNanos }

/-- `var in contract.CollectorInput`. -/
def zeroCollectorInput : Collectors.CollectorInput :=
  { incidentId := "", question := "", hypothesisId := ""
    timeRange := { start := zeroTime, stop := zeroTime }
    scopeServices := []
    environmentFingerprint :=
      { cluster := "", account := "", region := "", deployRevision := ""
        rolloutGeneration := "" }
    maxInternalIterations := 0 }

/-- `dec.Decode(&in)`. -/
def decodeCollectorInput (body : Json) : Option Collectors.CollectorInput :=
  object collectorInputFields body zeroCollectorInput

/-- What the collector answers; `err` is what the decoder says of a body it does
not take. -/
def post (c : Collector) (env : CollectEnv) (err : GoString) (body : Json) : Response :=
  handleCollect c env (match decodeCollectorInput body with
    | some inp => .ok inp
    | none => .error err)

/-! ### What is read of what was written -/

/-- The fingerprint on the other side. -/
def wireFingerprint (f : AlphE.EnvironmentFingerprint) : Collectors.EnvironmentFingerprint :=
  { cluster := f.cluster, account := f.account, region := f.region
    deployRevision := f.deployRevision, rolloutGeneration := f.rolloutGeneration }

theorem object_fingerprintFields (f : AlphE.EnvironmentFingerprint)
    (old : Collectors.EnvironmentFingerprint) :
    object fingerprintFields (dumpFingerprint f) old = some (wireFingerprint f) := by
  simp +decide [dumpFingerprint, object_dict_cons, member, fingerprintFields, field, string,
    wireFingerprint]

theorem object_timeRangeFields (dump : DateTime → String) (r : AlphE.TimeRange)
    (old : Collectors.TimeRange) :
    object timeRangeFields (dumpTimeRange dump r) old =
      (Time.unmarshal (dump r.start)).bind fun start =>
        (Time.unmarshal (dump r.stop)).map fun stop => { start := start, stop := stop } := by
  cases hstart : Time.unmarshal (dump r.start) with
  | none => simp +decide [dumpTimeRange, object_dict_cons, member, timeRangeFields, field, time,
      hstart]
  | some start =>
      cases hstop : Time.unmarshal (dump r.stop) <;>
        simp +decide [dumpTimeRange, object_dict_cons, member, timeRangeFields, field, time,
          hstart, hstop]

/-- The request on the other side, for what its times are read as. -/
def wireInput (input : AlphE.CollectorInput) (start stop : Time) : Collectors.CollectorInput :=
  { incidentId := input.incidentId
    question := input.question
    hypothesisId := input.hypothesisId
    timeRange := { start := start, stop := stop }
    scopeServices := input.scopeServices
    environmentFingerprint := wireFingerprint input.environmentFingerprint
    maxInternalIterations := input.maxInternalIterations.val }

theorem int64_iterationCap (n : IterationCap) (old : Int) :
    int64 (.int n.val : Json) old = some (n.val : Int) := by
  have hle := n.property.2
  rw [int64, if_pos]
  omega

theorem object_collectorInputFields (dump : DateTime → String) (input : AlphE.CollectorInput)
    (old : Collectors.CollectorInput) :
    object collectorInputFields (dumpCollectorInput dump input) old =
      (Time.unmarshal (dump input.timeRange.start)).bind fun start =>
        (Time.unmarshal (dump input.timeRange.stop)).map fun stop =>
          wireInput input start stop := by
  cases hstart : Time.unmarshal (dump input.timeRange.start) with
  | none => simp +decide [dumpCollectorInput, object_dict_cons, member, collectorInputFields,
      field, string, object_timeRangeFields, hstart]
  | some start =>
      cases hstop : Time.unmarshal (dump input.timeRange.stop) with
      | none => simp +decide [dumpCollectorInput, object_dict_cons, member,
          collectorInputFields, field, string, object_timeRangeFields, hstart, hstop]
      | some stop => simp +decide [dumpCollectorInput, object_dict_cons, member,
          collectorInputFields, field, string, object_timeRangeFields, object_fingerprintFields,
          int64_iterationCap, wireInput, hstart, hstop]

end AlphE.Dispatch
