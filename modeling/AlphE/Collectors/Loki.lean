import AlphE.Collectors.Evidence
import AlphE.Lib.InsertionDict

/-!
The loki collector (`collectors/internal/loki`, `cmd/loki-collector`): a question
becomes a LogQL query, the lines that match are stored as one JSON record each,
and the summary is read off the stored records. How JSON text is read back is a
parameter.
-/

namespace AlphE.Collectors

open Go

namespace Loki

/-! ### The Loki API -/

/-- A label set; it may be absent altogether. -/
abbrev Labels := Option (InsertionDict String String)

/-- One label set with its log lines, each with its timestamp. -/
structure Stream where
  labels : Labels
  values : List (String × String)

structure Client where
  queryRange : (logQL : String) → (start stop : Time) → (limit : Int) →
    Except GoString (List Stream)

/-- The record that is stored for a log line. -/
structure LogLine where
  timestampNs : String
  line : String
  labels : Labels

/-- The labels as JSON text, in the order of their names. -/
def labelsJson : Labels → String
  | none => "null"
  | some labels =>
      "\x7b" ++ String.intercalate ","
        ((labels.items.mergeSort fun a b => a.1 ≤ b.1).map fun a =>
          jsonString a.1 ++ ":" ++ jsonString a.2) ++ "\x7d"

/-- One record, as `Encode` writes it. -/
def LogLine.json (rec : LogLine) : String :=
  "\x7b\"ts_ns\":" ++ jsonString rec.timestampNs ++ ",\"line\":" ++ jsonString rec.line ++
    ",\"labels\":" ++ labelsJson rec.labels ++ "\x7d\n"

/-! ### Dispatch -/

structure DispatchRequest where
  question : String
  ns : String
  scopeServices : List String
  start : Time
  stop : Time
  maxLines : Int

structure DispatchResult where
  ndjson : GoString := []
  matchCount : ℕ := 0
  logQL : String := ""

section Query

variable (isPrint : Char → Bool)

def buildSelector (ns : String) (scopeServices : List String) : String :=
  if scopeServices = [] then "\x7bnamespace=" ++ quote isPrint (utf8 ns) ++ "\x7d"
  else "\x7bnamespace=" ++ quote isPrint (utf8 ns) ++ ", app=~" ++
    quote isPrint (utf8 (String.intercalate "|" scopeServices)) ++ "\x7d"

def buildLogQL (question ns : String) (scopeServices : List String) : String :=
  let selector := buildSelector isPrint ns scopeServices
  if hasPrefix question "log:contains " then
    selector ++ " |= " ++
      quote isPrint (utf8 (trimSpace (trimPrefix question "log:contains ")))
  else if hasPrefix question "log:rate " then
    "sum(rate(" ++ selector ++ " |~ " ++
      quote isPrint (utf8 (trimSpace (trimPrefix question "log:rate "))) ++ " [5m]))"
  else selector ++ " |~ \"(?i)error|fatal|panic|oom\""

end Query

/-- The lines of the streams in order, as records. -/
def records (streams : List Stream) : List LogLine :=
  streams.flatMap fun stream => stream.values.map fun val =>
    { timestampNs := val.1, line := val.2, labels := stream.labels }

/-- The first lines of an answer, as many as a request wants. -/
def keepLines (logQL : String) (maxLines : Int) (streams : List Stream) : DispatchResult :=
  let kept := (records streams).take maxLines.toNat
  { ndjson := kept.flatMap fun rec => utf8 rec.json
    matchCount := kept.length
    logQL := logQL }

def dispatch (isPrint : Char → Bool) (client : Client) (req : DispatchRequest) :
    Except GoString DispatchResult :=
  if req.maxLines ≤ 0 then .error (utf8 "loki dispatch: MaxLines must be > 0")
  else if req.start.isZero || req.stop.isZero then
    .error (utf8 "loki dispatch: Start and End are required")
  else if !req.stop.after req.start then
    .error (utf8 "loki dispatch: End must be after Start")
  else
    let logQL := buildLogQL isPrint req.question req.ns req.scopeServices
    match client.queryRange logQL req.start req.stop req.maxLines with
    | .error err => .error (utf8 "loki dispatch: " ++ err)
    | .ok streams => .ok (keepLines logQL req.maxLines streams)

/-! ### Collect -/

def maxLinesPerIteration : Int := 200

def maxLinesAbsolute : Int := 1000

/-- The namespace and the services that the scope names. -/
def namespaceAndServices : List String → String × List String
  | [] => ("demo", [])
  | first :: rest =>
      match cut first '/' with
      | some (ns, svc) =>
          if trimSpace svc ≠ "" then (ns, trimSpace svc :: rest) else (ns, rest)
      | none => (first, rest)

/-- The first label of a record that says which pod it is from. -/
def podOf (rec : LogLine) : Option String :=
  (["pod", "app", "container"].filterMap fun key =>
    rec.labels.bind fun labels => labels.get? key).find? (· ≠ "")

/-- The time of the first record whose timestamp is a number. -/
def firstTimestamp (recs : List LogLine) : Option Time :=
  recs.findSome? fun rec => (parseInt64 rec.timestampNs).map (Time.unix 0)

/-- `summarise`, which reads the stored records back. -/
def summarise (unmarshal : GoString → Option LogLine) (dr : DispatchResult) : String :=
  if dr.matchCount = 0 then "no log lines matched [" ++ dr.logQL ++ "]"
  else
    let recs := (scanLines dr.ndjson).filterMap unmarshal
    toString dr.matchCount ++ " log lines matched [" ++ dr.logQL ++ "]; first at " ++
      ((firstTimestamp recs).map Time.clockTime).getD "unknown" ++ ", " ++
      toString (recs.filterMap podOf).dedup.length ++ " distinct pod(s)"

/-- The request a question leads to. -/
def dispatchRequest (inp : CollectorInput) : DispatchRequest :=
  let scope := namespaceAndServices inp.scopeServices
  { question := inp.question
    ns := scope.1
    scopeServices := scope.2
    start := inp.timeRange.start
    stop := inp.timeRange.stop
    maxLines := min (inp.effectiveIterations * maxLinesPerIteration) maxLinesAbsolute }

theorem maxLines_mem (inp : CollectorInput) :
    0 < (dispatchRequest inp).maxLines ∧
      (dispatchRequest inp).maxLines ≤ maxLinesAbsolute := by
  obtain ⟨hlow, -⟩ := inp.effectiveIterations_mem
  simp only [dispatchRequest, maxLinesPerIteration, maxLinesAbsolute]
  omega

/-- The window of a request is refused. -/
def Refuses (req : DispatchRequest) : Prop :=
  req.start.isZero = true ∨ req.stop.isZero = true ∨ req.stop.after req.start = false

/-- What comes back is up to Loki where nothing is refused. -/
theorem dispatch_of_window (isPrint : Char → Bool) (client : Client) {req : DispatchRequest}
    (hlines : 0 < req.maxLines) (h : ¬ Refuses req) :
    dispatch isPrint client req =
      match client.queryRange (buildLogQL isPrint req.question req.ns req.scopeServices)
        req.start req.stop req.maxLines with
      | .error err => .error (utf8 "loki dispatch: " ++ err)
      | .ok streams => .ok (keepLines
          (buildLogQL isPrint req.question req.ns req.scopeServices) req.maxLines streams) := by
  simp only [Refuses, not_or, Bool.not_eq_true, Bool.not_eq_false] at h
  rw [dispatch, if_neg (Int.not_le.mpr hlines), h.1, h.2.1, h.2.2]
  rfl

theorem not_refuses_of_valid {inp : CollectorInput} (h : inp.Valid) :
    ¬ Refuses (dispatchRequest inp) := by
  simp [Refuses, dispatchRequest, h.start, h.stop, h.after]

/-- A request that is valid passes every check of `Dispatch`, too. -/
theorem dispatch_of_valid (isPrint : Char → Bool) (client : Client) {inp : CollectorInput}
    (h : inp.Valid) :
    ∃ logQL limit, 0 < limit ∧ limit ≤ maxLinesAbsolute ∧
      dispatch isPrint client (dispatchRequest inp) =
        match client.queryRange logQL inp.timeRange.start inp.timeRange.stop limit with
        | .error err => .error (utf8 "loki dispatch: " ++ err)
        | .ok streams => .ok (keepLines logQL limit streams) := by
  obtain ⟨hpos, hmax⟩ := maxLines_mem inp
  exact ⟨_, _, hpos, hmax, dispatch_of_window isPrint client hpos (not_refuses_of_valid h)⟩

/-- The blob that is stored where there are no lines. -/
def fallbackPayload (isPrint : Char → Bool) (inp : CollectorInput) :
    Except GoString DispatchResult → GoString
  | .error err =>
      utf8 ("\x7b\"error\":" ++ quote isPrint err ++ ",\"question\":" ++
        quote isPrint (utf8 inp.question) ++ "\x7d")
  | .ok _ => utf8 "\x7b\x7d"

/-- What was stored, or nothing after an error. -/
def ndjsonOf : Except GoString DispatchResult → GoString
  | .error _ => []
  | .ok dr => dr.ndjson

def summaryOf (unmarshal : GoString → Option LogLine) :
    Except GoString DispatchResult → GoString
  | .error err => utf8 "loki query error: " ++ err
  | .ok dr => utf8 (summarise unmarshal dr)

def confidenceOf : Except GoString DispatchResult → Float64
  | .error _ => .fin 0
  | .ok dr => if 0 < dr.matchCount then .fin (7 / 10) else .fin 0

def putRequest (isPrint : Char → Bool) (inp : CollectorInput)
    (dr : Except GoString DispatchResult) : PutRequest :=
  { incidentId := inp.incidentId
    contentType := "application/x-ndjson"
    payload := if ndjsonOf dr = [] then fallbackPayload isPrint inp dr else ndjsonOf dr }

def answer (unmarshal : GoString → Option LogLine) (env : CollectEnv) (inp : CollectorInput)
    (dr : Except GoString DispatchResult) (ref : EvidenceRef) : CollectorOutput :=
  { finding :=
      { id := "f_" ++ ref.evidenceId
        collectorName := "loki"
        question := inp.question
        summary := summaryOf unmarshal dr
        evidenceId := ref.evidenceId
        confidence := confidenceOf dr
        createdAt := env.now.utc }
    evidence := ref
    toolCallsUsed := 1 }

/-- `lokiCollector.Collect`. -/
def collect (unmarshal : GoString → Option LogLine) (client : Client) (env : CollectEnv)
    (inp : CollectorInput) : Except GoString CollectorOutput :=
  let dr := dispatch env.put.fmt.isPrint client (dispatchRequest inp)
  withEvidence env (putRequest env.put.fmt.isPrint inp dr) (answer unmarshal env inp dr)

end Loki

end AlphE.Collectors
