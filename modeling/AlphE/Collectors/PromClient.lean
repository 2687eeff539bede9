import AlphE.Collectors.Prom
import AlphE.Lib.GoJsonText

/-!
The HTTP client of the prom collector (`collectors/internal/prom/client.go`). A
response is a body that is decoded in steps, and the body is kept as evidence from
the moment its envelope was decoded. What `json.Unmarshal` makes of a document of
a given type is a parameter.
-/

namespace AlphE.Collectors

open Go

namespace Prom

/-! ### The wire -/

/-- A request, up to its encoding as a URL. -/
inductive ApiRequest
  | query (expr : String) (at_ : Time)
  | queryRange (expr : String) (start stop : Time) (step : Int)

structure HttpResponse where
  statusCode : ℕ
  body : GoString

/-- The envelope; its data stay as they are until their type is known. -/
structure ApiResponse where
  status : String
  errorType : String
  error : String
  data : GoString
  deriving DecidableEq, Repr

/-- A timestamp and a value, undecoded. -/
abbrev RawSample := GoString × GoString

structure VectorResult where
  metric : Option Labels
  value : RawSample

structure MatrixResult where
  values : List RawSample

/-- What the client depends on. A request fails, or a response is read to its end.
The decoders see documents only. -/
structure Http where
  isPrint : Char → Bool
  get : ApiRequest → Except GoString HttpResponse
  syntaxError : GoString → GoString
  decodeEnvelope : GoString → Except GoString ApiResponse
  decodeResult : GoString → Except GoString GoString
  decodeVector : GoString → Except GoString (List VectorResult)
  decodeMatrix : GoString → Except GoString (List MatrixResult)
  decodeFloat : GoString → Except GoString Float64
  decodeString : GoString → Except GoString String
  parseFloat : String → Except GoString Float64

/-- The whole part: `int64(f)` where it is defined. -/
def toInt64 : Float64 → Int
  | .fin q => q.num.tdiv q.den
  | _ => 0

namespace Http

variable (http : Http)

/-- `json.Unmarshal`: what is no document is not decoded. -/
def unmarshal {α : Type} (decode : GoString → Except GoString α) (body : GoString) :
    Except GoString α :=
  if jsonValid body then decode body else .error (http.syntaxError body)

def parseSample (raw : RawSample) : Except GoString Sample :=
  match http.unmarshal http.decodeFloat raw.1 with
  | .error err => .error (utf8 "parse timestamp: " ++ err)
  | .ok ts =>
      match http.unmarshal http.decodeString raw.2 with
      | .error err => .error (utf8 "parse value string: " ++ err)
      | .ok valStr =>
          match http.parseFloat valStr with
          | .error err =>
              .error (utf8 ("parse value float " ++ quote http.isPrint (utf8 valStr) ++ ": ") ++
                err)
          | .ok v => .ok { timestamp := Time.unix (toInt64 ts) 0, value := v }

/-- `doGET`. -/
def doGet (req : ApiRequest) : Except GoString GoString :=
  match http.get req with
  | .error err => .error err
  | .ok resp =>
      if resp.statusCode ≠ 200 then
        match http.unmarshal http.decodeEnvelope resp.body with
        | .ok apiErr =>
            if apiErr.error ≠ "" then
              .error (utf8 ("prometheus " ++ apiErr.errorType ++ ": " ++ apiErr.error))
            else
              .error (utf8 ("prometheus HTTP " ++ toString resp.statusCode ++ ": ") ++ resp.body)
        | .error _ =>
            .error (utf8 ("prometheus HTTP " ++ toString resp.statusCode ++ ": ") ++ resp.body)
      else
        match http.unmarshal http.decodeEnvelope resp.body with
        | .error err => .error (utf8 "decode prometheus envelope: " ++ err)
        | .ok apiResp =>
            if apiResp.status ≠ "success" then
              .error (utf8 ("prometheus " ++ apiResp.errorType ++ ": " ++ apiResp.error))
            else .ok resp.body

/-- The rows of a body, with the decoder of their type. -/
def rows {α : Type} (kind : String) (decode : GoString → Except GoString (List α))
    (body : GoString) : Except GoString (List α) :=
  match http.unmarshal http.decodeEnvelope body with
  | .error err => .error (utf8 "decode envelope: " ++ err)
  | .ok envelope =>
      match http.unmarshal http.decodeResult envelope.data with
      | .error err => .error (utf8 "decode data: " ++ err)
      | .ok result =>
          match http.unmarshal decode result with
          | .error err => .error (utf8 ("decode " ++ kind ++ ": ") ++ err)
          | .ok rows => .ok rows

/-- `QueryInstant`. -/
def queryInstant (expr : String) (at_ : Time) : Except QueryError InstantResult :=
  if at_.isZero then .error { text := utf8 "QueryInstant: at must not be zero" }
  else
    match http.doGet (.query expr at_) with
    | .error err => .error { text := err }
    | .ok body =>
        match http.rows "vector" http.decodeVector body with
        | .error err => .error { rawBody := body, text := err }
        | .ok [] =>
            .ok { metric := none
                  value := { timestamp := { nanos := Time.zeroNanos }, value := .fin 0 }
                  rawBody := body }
        | .ok (row :: _) =>
            match http.parseSample row.value with
            | .error err => .error { rawBody := body, text := err }
            | .ok sample => .ok { metric := row.metric, value := sample, rawBody := body }

/-- `QueryRange`. -/
def queryRange (expr : String) (start stop : Time) (step : Int) :
    Except QueryError RangeResult :=
  if start.isZero || stop.isZero then
    .error { text := utf8 "QueryRange: start and end must not be zero" }
  else if !stop.after start then
    .error { text := utf8 "QueryRange: end must be after start" }
  else
    let step : Int := if step ≤ 0 then 60 * Rfc3339.nanosPerSecond else step
    match http.doGet (.queryRange expr start stop step) with
    | .error err => .error { text := err }
    | .ok body =>
        match http.rows "matrix" http.decodeMatrix body with
        | .error err => .error { rawBody := body, text := err }
        | .ok rows =>
            match rows.mapM fun row => row.values.mapM http.parseSample with
            | .error err => .error { rawBody := body, text := err }
            | .ok series =>
                .ok { series := series.map fun samples => { samples := samples }
                      rawBody := body }

def client : Client where
  queryInstant := http.queryInstant
  queryRange := http.queryRange

end Http

/-! ### The body that is kept -/

/-- A response whose body is kept: it is read as a success. -/
def Http.Accepts (http : Http) (resp : HttpResponse) : Prop :=
  resp.statusCode = 200 ∧ ∃ envelope,
    http.unmarshal http.decodeEnvelope resp.body = .ok envelope ∧ envelope.status = "success"

/-- The body of a query, whether it could be read to the end or not. -/
def keptBody {α : Type} (body : α → GoString) : Except QueryError α → GoString
  | .error err => err.rawBody
  | .ok result => body result

section Kept

variable {http : Http} {resp : HttpResponse} {body : GoString}

theorem Http.jsonValid_of_unmarshal {α : Type} {decode : GoString → Except GoString α} {a : α}
    (h : http.unmarshal decode body = .ok a) : jsonValid body := by
  rw [Http.unmarshal] at h
  split at h
  · next hvalid => exact hvalid
  · cases h

theorem Http.Accepts.jsonValid (h : http.Accepts resp) : jsonValid resp.body := by
  obtain ⟨-, envelope, hdecode, -⟩ := h
  exact jsonValid_of_unmarshal hdecode

theorem Http.doGet_eq_ok_iff {req : ApiRequest} :
    http.doGet req = .ok body ↔
      ∃ resp, http.get req = .ok resp ∧ http.Accepts resp ∧ resp.body = body := by
  rw [doGet]
  cases hget : http.get req with
  | error err => simp
  | ok resp =>
      simp only [Except.ok.injEq, exists_eq_left', Accepts]
      split
      · next hstatus =>
          refine iff_of_false ?_ fun h => hstatus h.1.1
          split
          · split <;> exact nofun
          · exact nofun
      · next hstatus =>
          rw [ne_eq, not_not] at hstatus
          cases hdecode : http.unmarshal http.decodeEnvelope resp.body with
          | error err => simp
          | ok envelope =>
              by_cases hsuccess : envelope.status = "success"
              · simp [hstatus, hsuccess]
              · simp [hsuccess]

/-- The body of the response that a request leads to, where it is kept. -/
def Http.evidence (http : Http) (req : ApiRequest) : GoString :=
  match http.doGet req with
  | .error _ => []
  | .ok body => body

theorem Http.keptBody_queryInstant (expr : String) (at_ : Time) :
    keptBody InstantResult.rawBody (http.queryInstant expr at_) =
      if at_.isZero then [] else http.evidence (.query expr at_) := by
  rw [queryInstant, evidence]
  split
  · rfl
  · cases http.doGet (.query expr at_) with
    | error err => rfl
    | ok body =>
        simp only
        split
        · rfl
        · rfl
        · split <;> rfl

theorem Http.keptBody_queryRange (expr : String) (start stop : Time) {step : Int}
    (hstep : 0 < step) :
    keptBody RangeResult.rawBody (http.queryRange expr start stop step) =
      if start.isZero || stop.isZero || !stop.after start then []
      else http.evidence (.queryRange expr start stop step) := by
  rw [queryRange, evidence, if_neg (Int.not_le.mpr hstep)]
  cases start.isZero || stop.isZero with
  | true => rfl
  | false =>
      cases stop.after start with
      | false => rfl
      | true =>
          simp only [Bool.not_true, Bool.or_false, Bool.false_eq_true, if_false]
          cases http.doGet (.queryRange expr start stop step) with
          | error err => rfl
          | ok body =>
              simp only
              split
              · rfl
              · split <;> rfl

end Kept

/-! ### The request of a question -/

theorem step_pos (tr : TimeRange) : 0 < step tr :=
  lt_of_lt_of_le (by decide) (le_max_right _ _)

/-- The one request that a question leads to, unless its window is refused. -/
def apiRequest (pq : ParsedQuery) (tr : TimeRange) : Option ApiRequest :=
  match pq.kind with
  | .rate =>
      if tr.start.isZero || tr.stop.isZero || !tr.stop.after tr.start then none
      else some (.queryRange pq.expr tr.start tr.stop (step tr))
  | .value => if tr.stop.isZero then none else some (.query pq.expr tr.stop)
  | .default => if tr.stop.isZero then none else some (.query pq.expr tr.stop)

section Dispatch

variable {quo : Float64 → Float64 → Float64} {fmt : Fmt} {client : Client} {pq : ParsedQuery}
  {tr : TimeRange}

/-- Whatever comes back, its body is what is stored. -/
theorem rawBody_dispatchRate :
    (dispatchRate quo fmt client pq tr).rawBody =
      keptBody RangeResult.rawBody (client.queryRange pq.expr tr.start tr.stop (step tr)) := by
  rw [dispatchRate]
  cases client.queryRange pq.expr tr.start tr.stop (step tr) <;> rfl

theorem rawBody_dispatchValue :
    (dispatchValue quo fmt client pq tr).rawBody =
      keptBody InstantResult.rawBody (client.queryInstant pq.expr tr.stop) := by
  rw [dispatchValue]
  cases client.queryInstant pq.expr tr.stop with
  | error err => rfl
  | ok result =>
      simp only
      split <;> rfl

theorem rawBody_dispatchDefault :
    (dispatchDefault quo fmt client pq tr).rawBody =
      keptBody InstantResult.rawBody (client.queryInstant pq.expr tr.stop) := by
  rw [dispatchDefault]
  cases client.queryInstant pq.expr tr.stop with
  | error err => rfl
  | ok result =>
      simp only
      split <;> rfl

/-- What is stored is the body of the response, or nothing. -/
theorem rawBody_dispatch (http : Http) (inp : CollectorInput) :
    (dispatch quo fmt http.client inp).rawBody =
      (apiRequest (parseQuestion fmt inp) inp.timeRange).elim [] http.evidence := by
  rw [dispatch]
  cases hkind : (parseQuestion fmt inp).kind with
  | rate =>
      simp only [apiRequest, hkind]
      rw [rawBody_dispatchRate]
      refine (http.keptBody_queryRange _ _ _ (step_pos _)).trans ?_
      split <;> rfl
  | value =>
      simp only [apiRequest, hkind]
      rw [rawBody_dispatchValue]
      refine (http.keptBody_queryInstant _ _).trans ?_
      split <;> rfl
  | default =>
      simp only [apiRequest, hkind]
      rw [rawBody_dispatchDefault]
      refine (http.keptBody_queryInstant _ _).trans ?_
      split <;> rfl

end Dispatch

end Prom

end AlphE.Collectors
