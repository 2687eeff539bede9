import AlphE.Collectors.LokiSyntax
import AlphE.Lib.GoJson

/-!
The HTTP client of the loki collector (`collectors/internal/loki/client.go`). It reads
every response as streams of lines; what Loki answers to a metric query is a matrix.
How JSON text becomes a document is a parameter.
-/

namespace AlphE.Collectors

open Go QueryLex Validation

namespace Loki

/-- A JSON document. -/
abbrev Document := Value Empty

/-! ### The wire -/

/-- A request to `query_range`, up to its encoding as a URL. -/
structure RangeRequest where
  query : String
  start : Int
  stop : Int
  limit : Option Int
  direction : String

def rangeRequest (logQL : String) (start stop : Time) (limit : Int) : RangeRequest where
  query := logQL
  start := start.nanos
  stop := stop.nanos
  limit := if 0 < limit then some limit else none
  direction := "forward"

structure HttpResponse where
  statusCode : ℕ
  body : GoString

/-- What the client depends on. A request fails, or a response is read to its end. -/
structure Http where
  get : RangeRequest → Except GoString HttpResponse
  parse : GoString → Except GoString Document
  typeError : Document → GoString

def streamFields : List (String × Json.Reader Empty Stream) :=
  [("stream", Json.field Stream.labels (fun s labels => { s with labels := labels })
      Json.stringMap),
    ("values", Json.field Stream.values (fun s values => { s with values := values })
      (Json.slice Json.stringPair ("", "")))]

/-- What a new stream holds. -/
def noStream : Stream := { labels := none, values := [] }

/-- The `data` of a response. -/
structure ResponseData where
  resultType : String := ""
  result : List Stream := []

def dataFields : List (String × Json.Reader Empty ResponseData) :=
  [("resultType", Json.field ResponseData.resultType (fun d t => { d with resultType := t })
      Json.string),
    ("result", Json.field ResponseData.result (fun d result => { d with result := result })
      (Json.slice (Json.looseObject streamFields) noStream))]

/-- `queryRangeResponse`, whose only field is its data. -/
def readResponse : Json.Reader Empty ResponseData :=
  Json.looseObject [("data", Json.looseObject dataFields)]

namespace Http

variable (http : Http)

/-- `json.Unmarshal` into a `queryRangeResponse`. -/
def unmarshal (body : GoString) : Except GoString ResponseData :=
  match http.parse body with
  | .error err => .error err
  | .ok document =>
      match readResponse document {} with
      | some data => .ok data
      | none => .error (http.typeError document)

/-- `QueryRange`. -/
def queryRange (logQL : String) (start stop : Time) (limit : Int) :
    Except GoString (List Stream) :=
  match http.get (rangeRequest logQL start stop limit) with
  | .error err => .error err
  | .ok resp =>
      if resp.statusCode ≠ 200 then
        .error (utf8 ("loki: unexpected status " ++ toString resp.statusCode ++ ": ") ++ resp.body)
      else
        match http.unmarshal resp.body with
        | .error err => .error (utf8 "loki: decode response: " ++ err)
        | .ok data => .ok data.result

def client : Client where
  queryRange := http.queryRange

end Http

/-! ### What Loki answers -/

/-- A log stream, with its lines. -/
structure LogStream where
  labels : InsertionDict String String
  values : List (String × String)

/-- A sample of a series: its timestamp is a number, its value a text. -/
structure MetricSample where
  timestamp : Int ⊕ ℚ
  value : String

structure MetricSeries where
  metric : InsertionDict String String
  values : List MetricSample

/-- A success of one of the two result types. -/
inductive Answer
  | streams (result : List LogStream)
  | matrix (result : List MetricSeries)

def labelsDocument (labels : InsertionDict String String) : Document :=
  .dict (labels.items.map fun label => (label.1, .str label.2))

def LogStream.document (stream : LogStream) : Document :=
  .dict [("stream", labelsDocument stream.labels),
    ("values", .list (stream.values.map fun val => .list [.str val.1, .str val.2]))]

def numberDocument : Int ⊕ ℚ → Document
  | .inl n => .int n
  | .inr q => .float q

def MetricSeries.document (series : MetricSeries) : Document :=
  .dict [("metric", labelsDocument series.metric),
    ("values", .list (series.values.map fun sample =>
      .list [numberDocument sample.timestamp, .str sample.value]))]

/-- The body, with the statistics that Loki adds. -/
def Answer.document (stats : Document) : Answer → Document
  | .streams result =>
      .dict [("status", .str "success"), ("data", .dict [("resultType", .str "streams"),
        ("result", .list (result.map LogStream.document)), ("stats", stats)])]
  | .matrix result =>
      .dict [("status", .str "success"), ("data", .dict [("resultType", .str "matrix"),
        ("result", .list (result.map MetricSeries.document)), ("stats", stats)])]

/-- A query that aggregates lines into numbers. -/
def IsMetricQuery (query : String) : Prop :=
  ∃ rest, lex logQL query.toList = some (name "sum" :: op "(" :: rest)

/-- Loki answers a metric query with a matrix, and a log query with streams. -/
def Answer.Answers (query : String) : Answer → Prop
  | .streams _ => ¬ IsMetricQuery query
  | .matrix _ => IsMetricQuery query

/-- There is a number in the answer. -/
def Answer.HasSample : Answer → Prop
  | .streams _ => False
  | .matrix result => ∃ series ∈ result, series.values ≠ []

theorem isMetricQuery_iff (isPrint : Char → Bool) (question ns : String)
    (services : List String) :
    IsMetricQuery (buildLogQL isPrint question ns services) ↔ formOf question = .rate := by
  have hselector : ∀ rest,
      selectorItems (quote isPrint (utf8 ns)).toList (appLiteral isPrint services) ++ rest =
        op "\x7b" :: (selectorItems (quote isPrint (utf8 ns)).toList
          (appLiteral isPrint services) ++ rest).tail := by
    intro rest
    cases appLiteral isPrint services <;> rfl
  rw [IsMetricQuery, lex_buildLogQL]
  cases formOf question with
  | rate => exact iff_of_true ⟨_, rfl⟩ rfl
  | contains =>
      refine iff_of_false ?_ (by rintro ⟨⟩)
      rintro ⟨rest, hrest⟩
      rw [queryItems, hselector, Option.some.injEq, List.cons.injEq] at hrest
      cases hrest.1
  | default =>
      refine iff_of_false ?_ (by rintro ⟨⟩)
      rintro ⟨rest, hrest⟩
      rw [queryItems, hselector, Option.some.injEq, List.cons.injEq] at hrest
      cases hrest.1

/-! ### What is read of an answer -/

section Read

variable (s : Stream) (d : ResponseData) (v : Document)

theorem looseMember_stream :
    Json.looseMember streamFields s ("stream", v) =
      (Json.stringMap v s.labels).map fun labels => { s with labels := labels } :=
  Json.looseMember_of_sameName (by decide) s v

theorem looseMember_values :
    Json.looseMember streamFields s ("values", v) =
      (Json.slice Json.stringPair ("", "") v s.values).map fun values =>
        { s with values := values } := by
  rw [streamFields, Json.looseMember_of_ne (by decide), Json.looseMember_of_sameName (by decide)]
  rfl

theorem looseMember_metric : Json.looseMember streamFields s ("metric", v) = some s := by
  rw [streamFields, Json.looseMember_of_ne (by decide), Json.looseMember_of_ne (by decide),
    Json.looseMember_nil]

theorem looseMember_resultType :
    Json.looseMember dataFields d ("resultType", v) =
      (Json.string v d.resultType).map fun t => { d with resultType := t } :=
  Json.looseMember_of_sameName (by decide) d v

theorem looseMember_result :
    Json.looseMember dataFields d ("result", v) =
      (Json.slice (Json.looseObject streamFields) noStream v d.result).map fun result =>
        { d with result := result } := by
  rw [dataFields, Json.looseMember_of_ne (by decide), Json.looseMember_of_sameName (by decide)]
  rfl

theorem looseMember_stats : Json.looseMember dataFields d ("stats", v) = some d := by
  rw [dataFields, Json.looseMember_of_ne (by decide), Json.looseMember_of_ne (by decide),
    Json.looseMember_nil]

end Read

/-- A stream is read as it is. -/
theorem read_stream (stream : LogStream) :
    Json.looseObject streamFields stream.document noStream =
      some { labels := some stream.labels, values := stream.values } := by
  have hvalues : Json.slice Json.stringPair ("", "")
      (.list (stream.values.map fun val => .list [.str val.1, .str val.2]) : Document) [] =
      some (stream.values.map id) :=
    Json.slice_list_map (fun val _ => rfl) []
  have hlabels : Json.stringMap (labelsDocument stream.labels) none = some (some stream.labels) :=
    Json.stringMap_dict stream.labels
  rw [LogStream.document, Json.looseObject_dict_cons, looseMember_stream, noStream, hlabels]
  simp only [Option.map_some, Option.bind_some, Json.looseObject_dict_cons, looseMember_values,
    hvalues, List.map_id, Json.looseObject_dict_nil]

/-- A series is read as a stream where it has no sample. -/
theorem read_series (series : MetricSeries) :
    Json.looseObject streamFields series.document noStream =
      if series.values = [] then some noStream else none := by
  rw [MetricSeries.document, Json.looseObject_dict_cons, looseMember_metric, Option.bind_some,
    Json.looseObject_dict_cons, looseMember_values]
  cases hvalues : series.values with
  | nil => rfl
  | cons sample rest =>
      -- A timestamp that is a number is read as no string.
      have hnumber : Json.stringPair
          (.list [numberDocument sample.timestamp, .str sample.value] : Document)
          ("", "") = none := by
        cases sample.timestamp <;> rfl
      rw [List.map_cons, Json.slice_eq_none List.mem_cons_self hnumber,
        if_neg (List.cons_ne_nil _ _)]
      rfl

/-- The `result` of a response is what is read of it. -/
theorem readResponse_dict (kind : String) (result stats : Document) :
    readResponse (.dict [("status", .str "success"), ("data", .dict [("resultType", .str kind),
      ("result", result), ("stats", stats)])]) {} =
      (Json.slice (Json.looseObject streamFields) noStream result []).map fun streams =>
        { resultType := kind, result := streams } := by
  rw [readResponse, Json.looseObject_dict_cons, Json.looseMember_of_ne (by decide),
    Json.looseMember_nil, Option.bind_some, Json.looseObject_dict_cons,
    Json.looseMember_of_sameName (by decide)]
  simp only [Json.looseObject_dict_cons, looseMember_resultType, looseMember_result,
    looseMember_stats, Json.string, Option.map_some, Option.bind_some]
  cases Json.slice (Json.looseObject streamFields) noStream result [] <;> rfl

/-- An answer with a sample is not read. -/
theorem readResponse_answer (stats : Document) (answer : Answer) :
    (∃ data, readResponse (answer.document stats) {} = some data) ↔ ¬ answer.HasSample := by
  cases answer with
  | streams result =>
      have hread := Json.slice_list_map (fun stream (_ : stream ∈ result) => read_stream stream) []
      refine iff_of_true ?_ id
      rw [Answer.document, readResponse_dict, hread]
      exact ⟨_, rfl⟩
  | matrix result =>
      rw [Answer.document, readResponse_dict]
      by_cases hsample : (Answer.matrix result).HasSample
      · obtain ⟨series, hmem, hne⟩ := hsample
        have hnone : Json.looseObject streamFields series.document noStream = none := by
          rw [read_series, if_neg hne]
        rw [Json.slice_eq_none (List.mem_map_of_mem hmem) hnone]
        exact iff_of_false nofun fun h => h ⟨series, hmem, hne⟩
      · have hread : ∀ series ∈ result,
            Json.looseObject streamFields series.document noStream = some noStream := by
          intro series hmem
          rw [read_series, if_pos]
          by_contra hne
          exact hsample ⟨series, hmem, hne⟩
        rw [Json.slice_list_map hread]
        exact iff_of_true ⟨_, rfl⟩ hsample

/-! ### Which questions are answered -/

/-- A success for a query, with an answer as its body. -/
def Http.Responds (http : Http) (query : RangeRequest) (answer : Answer) : Prop :=
  ∃ resp stats, http.get query = .ok resp ∧ resp.statusCode = 200 ∧
    http.parse resp.body = .ok (answer.document stats)

theorem queryRange_of_responds {http : Http} {logQL : String} {start stop : Time} {limit : Int}
    {answer : Answer} (h : http.Responds (rangeRequest logQL start stop limit) answer) :
    (∃ streams, http.queryRange logQL start stop limit = .ok streams) ↔ ¬ answer.HasSample := by
  obtain ⟨resp, stats, hget, hstatus, hparse⟩ := h
  have hok : ¬ resp.statusCode ≠ 200 := not_not.mpr hstatus
  rw [← readResponse_answer stats answer]
  simp only [Http.queryRange, hget, if_neg hok, Http.unmarshal, hparse]
  cases readResponse (answer.document stats) {} with
  | none => exact iff_of_false nofun nofun
  | some data => exact iff_of_true ⟨_, rfl⟩ ⟨_, rfl⟩

/-- What is counted is written. -/
theorem exists_record_of_matchCount {logQL : String} {maxLines : Int} {streams : List Stream}
    (h : 0 < (keepLines logQL maxLines streams).matchCount) :
    ∃ rec rest, (keepLines logQL maxLines streams).ndjson = utf8 (LogLine.json rec) ++ rest := by
  simp only [keepLines] at h ⊢
  cases hkept : (records streams).take maxLines.toNat with
  | nil =>
      rw [hkept] at h
      cases h
  | cons rec rest => exact ⟨rec, _, List.flatMap_cons⟩

/-- **Which questions are answered.** Every one but a `log:rate` question to which Loki
has a number to say. -/
theorem answered_iff {isPrint : Char → Bool} {http : Http} {req : DispatchRequest}
    {answer : Answer} (hlines : 0 < req.maxLines) (hwindow : ¬ Refuses req)
    (hresponds : http.Responds
      (rangeRequest (buildLogQL isPrint req.question req.ns req.scopeServices) req.start req.stop
        req.maxLines) answer)
    (hanswers : answer.Answers (buildLogQL isPrint req.question req.ns req.scopeServices)) :
    (∃ dr, dispatch isPrint http.client req = .ok dr ∧
      (0 < dr.matchCount → ∃ rec rest, dr.ndjson = utf8 (LogLine.json rec) ++ rest)) ↔
      ¬ (formOf req.question = .rate ∧ answer.HasSample) := by
  have hquery := queryRange_of_responds hresponds
  have hsample : (formOf req.question = .rate ∧ answer.HasSample) ↔ answer.HasSample := by
    refine and_iff_right_of_imp fun hsample => ?_
    cases answer with
    | streams result => exact hsample.elim
    | matrix result => exact (isMetricQuery_iff isPrint _ _ _).mp hanswers
  rw [hsample, ← hquery, dispatch_of_window isPrint http.client hlines hwindow]
  have hclient : http.client.queryRange = http.queryRange := rfl
  rw [hclient]
  cases http.queryRange (buildLogQL isPrint req.question req.ns req.scopeServices) req.start
    req.stop req.maxLines with
  | error err =>
      refine iff_of_false ?_ nofun
      rintro ⟨dr, hdr, -⟩
      cases hdr
  | ok streams => exact iff_of_true ⟨_, rfl, exists_record_of_matchCount⟩ ⟨_, rfl⟩

/-! ### A rate of errors -/

def testRangeRequest (question : String) : DispatchRequest where
  question := question
  ns := "demo"
  scopeServices := []
  start := Time.unix 1776776400 0
  stop := Time.unix 1776780000 0
  maxLines := 200

def testStreams : Answer :=
  .streams [{ labels := InsertionDict.ofList [("app", "a")], values := [("1", "error")] }]

def testStreamsText : GoString :=
  utf8 "\x7b\"status\":\"success\",\"data\":" ++
    utf8 "\x7b\"resultType\":\"streams\",\"result\":" ++
    utf8 "[\x7b\"stream\":\x7b\"app\":\"a\"\x7d,\"values\":[[\"1\",\"error\"]]\x7d]" ++
    utf8 ",\"stats\":null\x7d\x7d"

def testMatrix : Answer :=
  .matrix [{ metric := ∅, values := [{ timestamp := .inl 1776780000, value := "2" }] }]

def testMatrixText : GoString :=
  utf8 "\x7b\"status\":\"success\",\"data\":" ++ utf8 "\x7b\"resultType\":\"matrix\",\"result\":" ++
    utf8 "[\x7b\"metric\":\x7b\x7d,\"values\":[[1776780000,\"2\"]]\x7d]" ++
    utf8 ",\"stats\":null\x7d\x7d"

/-- A Loki that has one answer. -/
def testLoki (text : GoString) (answer : Answer) : Http where
  get _ := .ok { statusCode := 200, body := text }
  parse body :=
    if body = text then .ok (answer.document .null)
    else .error (utf8 "unexpected end of JSON input")
  typeError _ := utf8 "json: cannot unmarshal number into Go struct field of type string"

theorem responds_testLoki (text : GoString) (answer : Answer) (query : RangeRequest) :
    (testLoki text answer).Responds query answer :=
  ⟨_, .null, rfl, rfl, if_pos rfl⟩

theorem not_refuses_testRangeRequest (question : String) :
    ¬ Refuses (testRangeRequest question) := by
  have hstart : (Time.unix 1776776400 0).isZero = false := by decide
  have hstop : (Time.unix 1776780000 0).isZero = false := by decide
  have hafter : (Time.unix 1776780000 0).after (Time.unix 1776776400 0) = true := by decide
  simp [Refuses, testRangeRequest, hstart, hstop, hafter]

theorem answered_iff_testStreams :
    (∃ dr, dispatch (fun _ => true) (testLoki testStreamsText testStreams).client
        (testRangeRequest "log:contains error") = .ok dr ∧
      (0 < dr.matchCount → ∃ rec rest, dr.ndjson = utf8 (LogLine.json rec) ++ rest)) ↔
      ¬ (formOf "log:contains error" = .rate ∧ testStreams.HasSample) := by
  have hlog : testStreams.Answers
      (buildLogQL (fun _ => true) "log:contains error" "demo" []) := by
    intro hmetric
    exact absurd ((isMetricQuery_iff _ _ _ _).mp hmetric) (by decide)
  have hlines : 0 < (testRangeRequest "log:contains error").maxLines := by decide
  exact answered_iff hlines (not_refuses_testRangeRequest _) (responds_testLoki _ _ _) hlog

theorem not_answered :
    ¬ ∀ (isPrint : Char → Bool) (http : Http) (req : DispatchRequest) (answer : Answer),
      0 < req.maxLines → ¬ Refuses req →
      http.Responds (rangeRequest (buildLogQL isPrint req.question req.ns req.scopeServices)
        req.start req.stop req.maxLines) answer →
      answer.Answers (buildLogQL isPrint req.question req.ns req.scopeServices) →
      ∃ dr, dispatch isPrint http.client req = .ok dr ∧
        (0 < dr.matchCount → ∃ rec rest, dr.ndjson = utf8 (LogLine.json rec) ++ rest) := by
  intro h
  have hrate : testMatrix.Answers (buildLogQL (fun _ => true) "log:rate error" "demo" []) :=
    (isMetricQuery_iff _ _ _ _).mpr (by decide)
  have hresponds := fun query => responds_testLoki testMatrixText testMatrix query
  have hwindow := not_refuses_testRangeRequest "log:rate error"
  have hlines : 0 < (testRangeRequest "log:rate error").maxLines := by decide
  obtain ⟨dr, hdr, -⟩ := h (fun _ => true) (testLoki testMatrixText testMatrix)
    (testRangeRequest "log:rate error") testMatrix hlines hwindow (hresponds _) hrate
  rw [dispatch_of_window _ _ hlines hwindow] at hdr
  have hnot (logQL : String) (start stop : Time) (limit : Int) :
      (∃ streams, (testLoki testMatrixText testMatrix).client.queryRange logQL start stop limit =
        .ok streams) → ¬ testMatrix.HasSample :=
    (queryRange_of_responds (hresponds (rangeRequest logQL start stop limit))).mp
  have hsample : testMatrix.HasSample := ⟨_, List.mem_cons_self, List.cons_ne_nil _ _⟩
  cases hquery : (testLoki testMatrixText testMatrix).client.queryRange
      (buildLogQL (fun _ => true) (testRangeRequest "log:rate error").question
        (testRangeRequest "log:rate error").ns (testRangeRequest "log:rate error").scopeServices)
      (testRangeRequest "log:rate error").start (testRangeRequest "log:rate error").stop
      (testRangeRequest "log:rate error").maxLines with
  | error err =>
      rw [hquery] at hdr
      cases hdr
  | ok streams => exact hnot _ _ _ _ ⟨streams, hquery⟩ hsample

end Loki

end AlphE.Collectors
