import AlphE.Collectors.Evidence
import AlphE.Lib.GoRound
import AlphE.Lib.InsertionDict

/-!
The prom collector (`collectors/internal/prom`, `cmd/prom-collector`): a question
becomes one PromQL query, and the samples that come back become a confidence and
a summary. The dispatch can be read with exact quotients as well as with those of
`float64`; the collector has the latter.
-/

namespace AlphE.Collectors

open Go

namespace Prom

/-! ### The Prometheus API -/

structure Sample where
  timestamp : Time
  value : Float64
  deriving DecidableEq, Repr

/-- A labelled stream of samples; only the samples are read. -/
structure Series where
  samples : List Sample

abbrev Labels := InsertionDict String String

/-- The first row of an instant query; without rows there is no metric. -/
structure InstantResult where
  metric : Option Labels
  value : Sample
  rawBody : GoString

structure RangeResult where
  series : List Series
  rawBody : GoString

/-- A failed query, with the body as far as there is one. -/
structure QueryError where
  rawBody : GoString := []
  text : GoString

structure Client where
  queryInstant : (expr : String) → (at_ : Time) → Except QueryError InstantResult
  queryRange : (expr : String) → (start stop : Time) → (step : Int) →
    Except QueryError RangeResult

/-! ### Questions -/

inductive QueryKind
  | rate | value | default
  deriving DecidableEq, Repr

structure ParsedQuery where
  kind : QueryKind
  expr : String
  comparator : String := ""
  threshold : Float64 := .fin 0

/-- The first scope service where it has no slash. -/
def defaultNamespace : List String → String
  | [] => "demo"
  | scope :: _ => if (cut scope '/').isNone ∧ scope ≠ "" then scope else "demo"

section Parse

variable (fmt : Fmt)

/-- A metric, restricted to a namespace. -/
def selector (metric ns : String) : String :=
  metric ++ "\x7bnamespace=" ++ quote fmt.isPrint (utf8 ns) ++ "\x7d"

theorem toList_selector (metric ns : String) :
    (selector fmt metric ns).toList = metric.toList ++
      '\x7b' :: ("namespace=".toList ++ ((quote fmt.isPrint (utf8 ns)).toList ++ ['\x7d'])) := by
  have hopen : "\x7bnamespace=".toList = '\x7b' :: "namespace=".toList := rfl
  have hclose : "\x7d".toList = ['\x7d'] := rfl
  simp only [selector, String.toList_append, hopen, hclose, List.cons_append, List.append_assoc]

/-- What is asked when the question is none of the forms. -/
def defaultQuery (ns : String) : ParsedQuery :=
  { kind := .default
    expr := selector fmt "kube_pod_container_status_last_terminated_reason" ns }

def parseRateQuestion (q ns : String) : ParsedQuery :=
  match fields q with
  | _ :: metric :: comparator :: number :: _ =>
      match fmt.scanG number with
      | none => defaultQuery fmt ns
      | some threshold =>
          { kind := .rate, expr := selector fmt metric ns, comparator := comparator,
            threshold := threshold }
  | _ => defaultQuery fmt ns

def parseValueQuestion (q ns : String) : ParsedQuery :=
  match fields q with
  | _ :: metric :: _ => { kind := .value, expr := selector fmt metric ns }
  | _ => defaultQuery fmt ns

def parseQuestion (inp : CollectorInput) : ParsedQuery :=
  let ns := defaultNamespace inp.scopeServices
  let q := trimSpace inp.question
  if hasPrefix q "metric:rate " then parseRateQuestion fmt q ns
  else if hasPrefix q "metric:value " then parseValueQuestion fmt q ns
  else defaultQuery fmt ns

end Parse

/-! ### Dispatch -/

structure DispatchResult where
  rawBody : GoString
  summary : GoString
  confidence : Float64
  queryCount : Int

def errResult (err : QueryError) : DispatchResult :=
  { rawBody := err.rawBody
    summary := utf8 "prometheus query error: " ++ err.text
    confidence := .fin 0
    queryCount := 1 }

/-- A comparison; an operator that is none of the six compares nothing. -/
def compareThreshold (val : Float64) (op : String) (threshold : Float64) : Bool :=
  if op = ">" then threshold.lt val
  else if op = ">=" then threshold.le val
  else if op = "<" then val.lt threshold
  else if op = "<=" then val.le threshold
  else if op = "==" then val.eq threshold
  else if op = "!=" then !val.eq threshold
  else false

/-- The step of a range query: sixty points over the window, and no less than
fifteen seconds apart. -/
def step (tr : TimeRange) : Int :=
  max ((tr.stop.nanos - tr.start.nanos).tdiv 60) (15 * Rfc3339.nanosPerSecond)

/-- The accumulators of the loop over the samples. -/
structure RateCount where
  total : ℕ := 0
  above : ℕ := 0
  latestVal : Float64 := .fin 0
  latestTs : Time := { nanos := Time.zeroNanos }

def countSample (pq : ParsedQuery) (count : RateCount) (s : Sample) : RateCount :=
  { total := count.total + 1
    above := if compareThreshold s.value pq.comparator pq.threshold then count.above + 1
      else count.above
    latestVal := if s.timestamp.after count.latestTs then s.value else count.latestVal
    latestTs := if s.timestamp.after count.latestTs then s.timestamp else count.latestTs }

def countSamples (pq : ParsedQuery) (series : List Series) : RateCount :=
  series.foldl (fun count s => s.samples.foldl (countSample pq) count) {}

section Dispatch

variable (quo : Float64 → Float64 → Float64) (fmt : Fmt) (client : Client) (pq : ParsedQuery)
  (tr : TimeRange)

def buildRateSummary (count : RateCount) : String :=
  if count.total = 0 then "no samples returned for " ++ pq.expr
  else pq.expr ++ ": latest=" ++ fmt.format4g count.latestVal ++ " at " ++
    (if count.latestTs.isZero then "unknown" else count.latestTs.rfc3339) ++ "; " ++
    toString count.above ++ "/" ++ toString count.total ++ " samples " ++ pq.comparator ++
    " " ++ fmt.format4g pq.threshold

def dispatchRate : DispatchResult :=
  match client.queryRange pq.expr tr.start tr.stop (step tr) with
  | .error err => errResult err
  | .ok result =>
      let count := countSamples pq result.series
      { rawBody := result.rawBody
        summary := utf8 (buildRateSummary fmt pq count)
        confidence := if 0 < count.total then
            Float64.min (.fin 1) (quo (.fin count.above) (.fin count.total))
          else .fin 0
        queryCount := 1 }

/-- `%v` of a map: its entries in the order of their keys. -/
def labelsText (labels : Labels) : String :=
  "map[" ++ String.intercalate " "
    ((labels.items.mergeSort fun a b => a.1 ≤ b.1).map fun a => a.1 ++ ":" ++ a.2) ++ "]"

def dispatchValue : DispatchResult :=
  match client.queryInstant pq.expr tr.stop with
  | .error err => errResult err
  | .ok result =>
      match result.metric with
      | none =>
          { rawBody := result.rawBody
            summary := utf8 ("no data for " ++ pq.expr ++ " at " ++ tr.stop.rfc3339)
            confidence := .fin 0
            queryCount := 1 }
      | some labels =>
          { rawBody := result.rawBody
            summary := utf8 (pq.expr ++ " = " ++ fmt.format4g result.value.value ++ " at " ++
              result.value.timestamp.rfc3339 ++ " (metric labels: " ++ labelsText labels ++
              ")")
            -- A value that is not positive keeps what the division makes of it.
            confidence := if Float64.lt (.fin 0) result.value.value then .fin 1
              else Float64.min (.fin 1) (quo result.value.value (.fin 1000000000))
            queryCount := 1 }

def dispatchDefault : DispatchResult :=
  match client.queryInstant pq.expr tr.stop with
  | .error err => errResult err
  | .ok result =>
      match result.metric with
      | none =>
          { rawBody := result.rawBody
            summary := utf8 ("no OOM termination data for query " ++ pq.expr ++ " at " ++
              tr.stop.rfc3339)
            confidence := .fin 0
            queryCount := 1 }
      | some labels =>
          { rawBody := result.rawBody
            summary := utf8 ("OOM terminations: " ++ fmt.format0f result.value.value ++
              " (reason=" ++ (labels.get? "reason").getD "" ++
              ", namespace=" ++ (labels.get? "namespace").getD "" ++
              ", pod=" ++ (labels.get? "pod").getD "" ++ ") at " ++
              result.value.timestamp.rfc3339)
            confidence := if Float64.lt (.fin 0) result.value.value then
                Float64.min (.fin 1) (quo result.value.value (.fin 10))
              else .fin 0
            queryCount := 1 }

end Dispatch

/-- `Dispatch`: one query per call, whatever the number of iterations. -/
def dispatch (quo : Float64 → Float64 → Float64) (fmt : Fmt) (client : Client)
    (inp : CollectorInput) : DispatchResult :=
  let pq := parseQuestion fmt inp
  match pq.kind with
  | .rate => dispatchRate quo fmt client pq inp.timeRange
  | .value => dispatchValue quo fmt client pq inp.timeRange
  | .default => dispatchDefault quo fmt client pq inp.timeRange

/-! ### Collect -/

def putRequest (inp : CollectorInput) (dr : DispatchResult) : PutRequest :=
  { incidentId := inp.incidentId
    contentType := "application/json"
    payload := if dr.rawBody = [] then utf8 "\x7b\x7d" else dr.rawBody }

def answer (env : CollectEnv) (inp : CollectorInput) (dr : DispatchResult)
    (ref : EvidenceRef) : CollectorOutput :=
  { finding :=
      { id := "f_" ++ ref.evidenceId
        collectorName := "prom"
        question := inp.question
        summary := dr.summary
        evidenceId := ref.evidenceId
        confidence := dr.confidence
        createdAt := env.now.utc }
    evidence := ref
    toolCallsUsed := dr.queryCount }

/-- `promCollector.Collect`. -/
def collect (client : Client) (env : CollectEnv) (inp : CollectorInput) :
    Except GoString CollectorOutput :=
  let dr := dispatch Float64.quo env.put.fmt client inp
  withEvidence env (putRequest inp dr) (answer env inp dr)

end Prom

end AlphE.Collectors
