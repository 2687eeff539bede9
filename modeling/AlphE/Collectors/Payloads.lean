import AlphE.Collectors.Agreement
import AlphE.Collectors.PromClient

/-!
The blobs that the collectors store, before a JSON parser. What a backend answered
is stored as JSON; what stands for an answer that never came is put together with
the verb `%q`, whose escapes and slices are Go's.
-/

namespace AlphE.Collectors

open Go JsonScan

/-! ### Content types -/

/-- The payload parses as its content type. -/
structure PutRequest.Parses (req : PutRequest) : Prop where
  json : req.contentType = "application/json" → IsJson req.payload
  ndjson : req.contentType = "application/x-ndjson" →
    ∀ line ∈ linesFrom [] req.payload, line ≠ [] → IsJson line

theorem parses_json_iff {req : PutRequest} (h : req.contentType = "application/json") :
    req.Parses ↔ IsJson req.payload := by
  refine ⟨fun hparses => hparses.json h, fun hjson => ⟨fun _ => hjson, fun hndjson => ?_⟩⟩
  rw [h] at hndjson
  exact absurd hndjson (by decide)

theorem parses_ndjson_iff {req : PutRequest} (h : req.contentType = "application/x-ndjson") :
    req.Parses ↔ ∀ line ∈ linesFrom [] req.payload, line ≠ [] → IsJson line := by
  refine ⟨fun hparses => hparses.ndjson h, fun hlines => ⟨fun hjson => ?_, fun _ => hlines⟩⟩
  rw [h] at hjson
  exact absurd hjson (by decide)

/-! ### What is put together -/

/-- Every piece is written by `%q` as JSON can read it. -/
def Quotable (isPrint : Char → Bool) (bs : GoString) : Prop :=
  ∀ p ∈ bs, jsonSafe isPrint p = true

section Fallback

variable {isPrint : Char → Bool}

theorem all_jsonSafe_iff {bs : GoString} :
    bs.all (jsonSafe isPrint) = true ↔ Quotable isPrint bs := List.all_eq_true

theorem quotable_append_iff {bs cs : GoString} :
    Quotable isPrint (bs ++ cs) ↔ Quotable isPrint bs ∧ Quotable isPrint cs :=
  List.forall_mem_append

section Objects

variable (stack : List Frame)

/-- The end of an object. -/
theorem leads_close : Leads ⟨.endValue, .objectValue :: stack⟩ "\x7d".toList
    ⟨.endValue, stack⟩ true := rfl

/-- `{"error":%q}` -/
theorem value_degraded (err : GoString) :
    Value ("\x7b\"error\":" ++ quote isPrint err ++ "\x7d").toList
      (err.all (jsonSafe isPrint)) := by
  intro stack
  have hopen : Leads ⟨.beginValue, stack⟩ "\x7b\"error\":".toList
      ⟨.beginValue, .objectValue :: stack⟩ true := rfl
  have hobject := (hopen.append (value_quote isPrint err _)).append (leads_close stack)
  rw [String.toList_append, String.toList_append]
  simpa using hobject

/-- `{"error":%q,"question":%q}` -/
theorem value_lokiFallback (err question : GoString) :
    Value ("\x7b\"error\":" ++ quote isPrint err ++ ",\"question\":" ++
        quote isPrint question ++ "\x7d").toList
      (err.all (jsonSafe isPrint) && question.all (jsonSafe isPrint)) := by
  intro stack
  have hopen : Leads ⟨.beginValue, stack⟩ "\x7b\"error\":".toList
      ⟨.beginValue, .objectValue :: stack⟩ true := rfl
  have hnext : Leads ⟨.endValue, .objectValue :: stack⟩ ",\"question\":".toList
      ⟨.beginValue, .objectValue :: stack⟩ true := rfl
  have hobject := (((hopen.append (value_quote isPrint err _)).append hnext).append
    (value_quote isPrint question _)).append (leads_close stack)
  simp only [String.toList_append]
  simpa using hobject

/-- `{"question":%q,"scope":%q,"summary":%q}` -/
theorem value_kubeFallback (inp : CollectorInput) (summary : GoString) :
    Value ("\x7b\"question\":" ++ quote isPrint (utf8 inp.question) ++ ",\"scope\":" ++
        quoteAll isPrint inp.scopeServices ++ ",\"summary\":" ++ quote isPrint summary ++
        "\x7d").toList
      ((utf8 inp.question).all (jsonSafe isPrint) &&
        (inp.scopeServices.length ≤ 1 &&
          inp.scopeServices.all fun s => (utf8 s).all (jsonSafe isPrint)) &&
        summary.all (jsonSafe isPrint)) := by
  intro stack
  have hopen : Leads ⟨.beginValue, stack⟩ "\x7b\"question\":".toList
      ⟨.beginValue, .objectValue :: stack⟩ true := rfl
  have hscope : Leads ⟨.endValue, .objectValue :: stack⟩ ",\"scope\":".toList
      ⟨.beginValue, .objectValue :: stack⟩ true := rfl
  have hsummary : Leads ⟨.endValue, .objectValue :: stack⟩ ",\"summary\":".toList
      ⟨.beginValue, .objectValue :: stack⟩ true := rfl
  have hobject := (((((hopen.append (value_quote isPrint (utf8 inp.question) _)).append
    hscope).append (value_quoteAll isPrint inp.scopeServices _)).append hsummary).append
    (value_quote isPrint summary _)).append (leads_close stack)
  simp only [String.toList_append]
  simpa using hobject

end Objects

theorem isJson_emptyObject : IsJson (utf8 "\x7b\x7d") := ⟨rfl, by decide⟩

theorem isJson_degraded_iff (kubeErr : GoString) (inp : CollectorInput) :
    IsJson (Kube.degradedPutRequest isPrint kubeErr inp).payload ↔ Quotable isPrint kubeErr :=
  (isJson_utf8_iff (value_degraded kubeErr)).trans all_jsonSafe_iff

theorem isJson_kubeFallback_iff (inp : CollectorInput) (summary : GoString) :
    IsJson (Kube.fallbackPayload isPrint inp summary) ↔
      Quotable isPrint (utf8 inp.question) ∧ Quotable isPrint summary ∧
        inp.scopeServices.length ≤ 1 ∧
          ∀ s ∈ inp.scopeServices, Quotable isPrint (utf8 s) := by
  rw [Kube.fallbackPayload, isJson_utf8_iff (value_kubeFallback inp summary)]
  simp only [Bool.and_eq_true, decide_eq_true_eq, List.all_eq_true (p := fun s : String => _),
    all_jsonSafe_iff]
  tauto

/-- An error of Loki's, in one line. -/
theorem oneLine_lokiFallback (err question : GoString) :
    OneLine ("\x7b\"error\":" ++ quote isPrint err ++ ",\"question\":" ++
      quote isPrint question ++ "\x7d") := by
  have hopen : OneLine "\x7b\"error\":" := by decide
  have hnext : OneLine ",\"question\":" := by decide
  have hclose : OneLine "\x7d" := by decide
  exact (((hopen.append (oneLine_quote isPrint err)).append hnext).append
    (oneLine_quote isPrint question)).append hclose

/-- A payload of one line has to be one document. -/
theorem forall_lines_iff {s : String} (hline : OneLine s) (hne : s ≠ "") :
    (∀ line ∈ linesFrom [] (utf8 s), line ≠ [] → IsJson line) ↔ IsJson (utf8 s) := by
  have hne' : utf8 s ≠ [] := by
    intro hnil
    exact hne (String.toList_eq_nil_iff.mp (List.map_eq_nil_iff.mp hnil))
  rw [linesFrom_of_notMem hline.rune_notMem (.inr hne')]
  simp [hne']

theorem lokiFallback_lines_iff (inp : CollectorInput) (err : GoString) :
    (∀ line ∈ linesFrom [] (Loki.fallbackPayload isPrint inp (.error err)),
        line ≠ [] → IsJson line) ↔
      Quotable isPrint err ∧ Quotable isPrint (utf8 inp.question) := by
  rw [Loki.fallbackPayload, forall_lines_iff (oneLine_lokiFallback err _),
    isJson_utf8_iff (value_lokiFallback err _), Bool.and_eq_true, all_jsonSafe_iff,
    all_jsonSafe_iff]
  simp

end Fallback

/-! ### Log lines -/

section Records

theorem value_labelsJson (labels : Loki.Labels) :
    Value (Loki.labelsJson labels).toList true := by
  cases labels with
  | none => exact fun _ => rfl
  | some labels =>
      have hmember : ∀ a : String × String,
          Member (jsonString a.1 ++ ":" ++ jsonString a.2).toList ((fun _ => true) a) :=
        fun a => member_jsonString a.1 a.2
      have hobject := value_object hmember (labels.items.mergeSort fun a b => a.1 ≤ b.1)
      rw [List.all_eq_true.mpr fun _ _ => rfl] at hobject
      simp only [Loki.labelsJson, String.toList_append, String.toList_intercalate, List.map_map]
      exact hobject

theorem oneLine_labelsJson (labels : Loki.Labels) : OneLine (Loki.labelsJson labels) := by
  have hopen : OneLine "\x7b" := by decide
  have hcomma : OneLine "," := by decide
  have hcolon : OneLine ":" := by decide
  have hclose : OneLine "\x7d" := by decide
  cases labels with
  | none => decide
  | some labels =>
      refine (hopen.append (hcomma.intercalate ?_)).append hclose
      intro s hs
      obtain ⟨a, -, rfl⟩ := List.mem_map.mp hs
      exact ((oneLine_jsonString a.1).append hcolon).append (oneLine_jsonString a.2)

/-- A record without the newline. -/
def Loki.LogLine.text (rec : Loki.LogLine) : String :=
  "\x7b\"ts_ns\":" ++ jsonString rec.timestampNs ++ ",\"line\":" ++ jsonString rec.line ++
    ",\"labels\":" ++ Loki.labelsJson rec.labels ++ "\x7d"

/-- A record is on a line of its own. -/
theorem json_eq_text (rec : Loki.LogLine) : rec.json = rec.text ++ "\n" := by
  have hend : "\x7d\n" = "\x7d" ++ "\n" := by decide
  rw [Loki.LogLine.json, hend, ← String.append_assoc]
  rfl

theorem value_text (rec : Loki.LogLine) : Value rec.text.toList true := by
  intro stack
  have hopen : Leads ⟨.beginValue, stack⟩ "\x7b\"ts_ns\":".toList
      ⟨.beginValue, .objectValue :: stack⟩ true := rfl
  have hline : Leads ⟨.endValue, .objectValue :: stack⟩ ",\"line\":".toList
      ⟨.beginValue, .objectValue :: stack⟩ true := rfl
  have hlabels : Leads ⟨.endValue, .objectValue :: stack⟩ ",\"labels\":".toList
      ⟨.beginValue, .objectValue :: stack⟩ true := rfl
  have hobject := (((((hopen.append (value_jsonString rec.timestampNs _)).append
    hline).append (value_jsonString rec.line _)).append hlabels).append
    (value_labelsJson rec.labels _)).append (leads_close stack)
  simp only [Loki.LogLine.text, String.toList_append]
  simpa using hobject

theorem oneLine_text (rec : Loki.LogLine) : OneLine rec.text := by
  have hopen : OneLine "\x7b\"ts_ns\":" := by decide
  have hline : OneLine ",\"line\":" := by decide
  have hlabels : OneLine ",\"labels\":" := by decide
  have hclose : OneLine "\x7d" := by decide
  exact (((((hopen.append (oneLine_jsonString rec.timestampNs)).append hline).append
    (oneLine_jsonString rec.line)).append hlabels).append
    (oneLine_labelsJson rec.labels)).append hclose

/-- The lines of records. -/
theorem linesFrom_records (recs : List Loki.LogLine) :
    linesFrom [] (recs.flatMap fun rec => utf8 rec.json) = recs.map fun rec => utf8 rec.text := by
  induction recs with
  | nil => simp [linesFrom]
  | cons rec recs ih =>
      have hsplit : (rec :: recs).flatMap (fun rec => utf8 rec.json) =
          utf8 rec.text ++ .rune '\n' :: recs.flatMap fun rec => utf8 rec.json := by
        rw [List.flatMap_cons, json_eq_text, utf8_append, List.append_assoc]
        rfl
      rw [hsplit, linesFrom_append_newline (oneLine_text rec).rune_notMem, ih, List.map_cons,
        List.reverse_nil, List.nil_append]

theorem isJson_of_mem_records (recs : List Loki.LogLine) :
    ∀ line ∈ linesFrom [] (recs.flatMap fun rec => utf8 rec.json), IsJson line := by
  rw [linesFrom_records, List.forall_mem_map]
  exact fun rec _ => (isJson_utf8_iff (value_text rec)).mpr rfl

end Records

/-! ### What is passed to the writer -/

/-- What a collector talks to. -/
inductive Backend
  | prom (http : Prom.Http)
  | loki (unmarshal : GoString → Option Loki.LogLine) (client : Loki.Client)
  | kube (cs : Kube.Clientset)
  | degraded (kubeErr : GoString)

def Backend.collector : Backend → Collector
  | .prom http => .prom http.client
  | .loki unmarshal client => .loki unmarshal client
  | .kube cs => .kube cs
  | .degraded kubeErr => .degraded kubeErr

/-- The request that a collector passes to its writer. -/
def Collector.putRequest (c : Collector) (fmt : Fmt) (inp : CollectorInput) : PutRequest :=
  match c with
  | .prom client => Prom.putRequest inp (Prom.dispatch Float64.quo fmt client inp)
  | .loki _ client =>
      Loki.putRequest fmt.isPrint inp
        (Loki.dispatch fmt.isPrint client (Loki.dispatchRequest inp))
  | .kube cs => Kube.putRequest fmt.isPrint inp (Kube.dispatch fmt.isPrint cs inp)
  | .degraded kubeErr => Kube.degradedPutRequest fmt.isPrint kubeErr inp

theorem Collector.collect_eq_withEvidence (c : Collector) (env : CollectEnv)
    (inp : CollectorInput) :
    ∃ answer, c.collect env inp = withEvidence env (c.putRequest env.put.fmt inp) answer := by
  cases c with
  | prom client => exact ⟨_, rfl⟩
  | loki unmarshal client => exact ⟨_, rfl⟩
  | kube cs => exact ⟨_, rfl⟩
  | degraded kubeErr => exact ⟨_, rfl⟩

/-- `json.Marshal` of what the API returned. -/
structure Kube.Clientset.Marshals (cs : Kube.Clientset) : Prop where
  pods : ∀ ns read, cs.listPods ns = .ok read → IsJson read.raw
  events : ∀ ns selector read, cs.listEvents ns selector = .ok read → IsJson read.raw
  deployment : ∀ ns name read, cs.getDeployment ns name = .ok read → IsJson read.raw

/-- What a backend may answer for the blob to parse. -/
def Backend.Storable (b : Backend) (fmt : Fmt) (inp : CollectorInput) : Prop :=
  match b with
  | .prom http =>
      ∀ req, Prom.apiRequest (Prom.parseQuestion fmt inp) inp.timeRange = some req →
        ∀ resp, http.get req = .ok resp → http.Accepts resp → validUtf8 resp.body = true
  | .loki _ client =>
      let req := Loki.dispatchRequest inp
      (Loki.Refuses req → Quotable fmt.isPrint (utf8 inp.question)) ∧
      (¬ Loki.Refuses req → ∀ err,
        client.queryRange (Loki.buildLogQL fmt.isPrint req.question req.ns req.scopeServices)
          req.start req.stop req.maxLines = .error err →
        Quotable fmt.isPrint err ∧ Quotable fmt.isPrint (utf8 inp.question))
  | .kube cs =>
      ∀ err, Kube.apiError cs (Kube.parseQuestion inp) = some err →
        Quotable fmt.isPrint (utf8 inp.question) ∧ Quotable fmt.isPrint err ∧
          inp.scopeServices.length ≤ 1 ∧
            ∀ s ∈ inp.scopeServices, Quotable fmt.isPrint (utf8 s)
  | .degraded kubeErr => Quotable fmt.isPrint kubeErr

section Backends

variable {fmt : Fmt} {inp : CollectorInput}

/-! ### Prometheus -/

theorem isJson_evidence_iff {http : Prom.Http} {req : Prom.ApiRequest} :
    (http.evidence req = [] ∨ IsJson (http.evidence req)) ↔
      ∀ resp, http.get req = .ok resp → http.Accepts resp → validUtf8 resp.body = true := by
  rw [Prom.Http.evidence]
  cases hget : http.doGet req with
  | error err =>
      refine iff_of_true (.inl rfl) fun resp hresp haccepts => ?_
      have hok := Prom.Http.doGet_eq_ok_iff.mpr ⟨resp, hresp, haccepts, rfl⟩
      rw [hget] at hok
      cases hok
  | ok body =>
      obtain ⟨resp, hresp, haccepts, rfl⟩ := Prom.Http.doGet_eq_ok_iff.mp hget
      have hvalid := haccepts.jsonValid
      constructor
      · intro h resp' hresp' _
        cases hresp.symm.trans hresp'
        exact (h.resolve_left (jsonValid_ne_nil hvalid)).text
      · intro h
        exact .inr ⟨h resp hresp haccepts, hvalid⟩

/-- Where there is no body an empty object is stored. -/
theorem isJson_promPut_iff (dr : Prom.DispatchResult) :
    IsJson (Prom.putRequest inp dr).payload ↔ dr.rawBody = [] ∨ IsJson dr.rawBody := by
  rw [Prom.putRequest]
  split
  · next hnil => exact iff_of_true isJson_emptyObject (.inl hnil)
  · next hne => exact (or_iff_right hne).symm

theorem prom_parses_iff (http : Prom.Http) :
    ((Backend.prom http).collector.putRequest fmt inp).Parses ↔
      (Backend.prom http).Storable fmt inp := by
  rw [parses_json_iff rfl]
  refine (isJson_promPut_iff _).trans ?_
  rw [Prom.rawBody_dispatch, Backend.Storable]
  cases Prom.apiRequest (Prom.parseQuestion fmt inp) inp.timeRange with
  | none => exact iff_of_true (.inl rfl) nofun
  | some req =>
      simp only [Option.elim_some, Option.some.injEq, forall_eq']
      exact isJson_evidence_iff

/-! ### Loki -/

/-- The records of an answer are documents, and so is what stands for no record. -/
theorem loki_parses_of_ok (logQL : String) (maxLines : Int) (streams : List Loki.Stream) :
    (Loki.putRequest fmt.isPrint inp (.ok (Loki.keepLines logQL maxLines streams))).Parses := by
  rw [parses_ndjson_iff rfl, Loki.putRequest]
  intro line hline _
  simp only at hline
  split at hline
  · obtain rfl : line = utf8 "\x7b\x7d" := by
      rw [Loki.fallbackPayload, linesFrom_of_notMem (by decide) (.inr (by decide))] at hline
      exact List.mem_singleton.mp hline
    exact isJson_emptyObject
  · exact isJson_of_mem_records _ line hline

theorem loki_parses_error_iff (err : GoString) :
    (Loki.putRequest fmt.isPrint inp (.error err)).Parses ↔
      Quotable fmt.isPrint err ∧ Quotable fmt.isPrint (utf8 inp.question) := by
  have hpayload : (Loki.putRequest fmt.isPrint inp (.error err)).payload =
      Loki.fallbackPayload fmt.isPrint inp (.error err) := by
    simp only [Loki.putRequest, Loki.ndjsonOf, if_true]
  rw [parses_ndjson_iff rfl, hpayload]
  exact lokiFallback_lines_iff inp err

/-- A window that is refused is refused in words of this program. -/
theorem loki_dispatch_of_refuses (client : Loki.Client) {req : Loki.DispatchRequest}
    (hlines : 0 < req.maxLines) (h : Loki.Refuses req) :
    ∃ text, Loki.dispatch fmt.isPrint client req = .error (utf8 text) ∧
      Quotable fmt.isPrint (utf8 text) := by
  rw [Loki.dispatch, if_neg (Int.not_le.mpr hlines)]
  cases hzero : req.start.isZero || req.stop.isZero with
  | true => exact ⟨_, rfl, all_jsonSafe_iff.mp rfl⟩
  | false =>
      rw [Bool.or_eq_false_iff] at hzero
      have hafter : req.stop.after req.start = false := by
        simpa [Loki.Refuses, hzero] using h
      rw [hafter]
      exact ⟨_, rfl, all_jsonSafe_iff.mp rfl⟩

theorem loki_parses_iff (unmarshal : GoString → Option Loki.LogLine) (client : Loki.Client) :
    ((Backend.loki unmarshal client).collector.putRequest fmt inp).Parses ↔
      (Backend.loki unmarshal client).Storable fmt inp := by
  have hlines := (Loki.maxLines_mem inp).1
  have hwords : Quotable fmt.isPrint (utf8 "loki dispatch: ") := all_jsonSafe_iff.mp rfl
  rw [Backend.Storable]
  show (Loki.putRequest fmt.isPrint inp
    (Loki.dispatch fmt.isPrint client (Loki.dispatchRequest inp))).Parses ↔ _
  by_cases hwindow : Loki.Refuses (Loki.dispatchRequest inp)
  · obtain ⟨text, hdispatch, htext⟩ := loki_dispatch_of_refuses client hlines hwindow
    rw [hdispatch, loki_parses_error_iff]
    simp [hwindow, htext]
  · rw [Loki.dispatch_of_window fmt.isPrint client hlines hwindow]
    cases client.queryRange _ _ _ _ with
    | error err =>
        rw [loki_parses_error_iff, quotable_append_iff]
        simp [hwindow, hwords]
    | ok streams =>
        simp only [hwindow, false_implies, not_false_iff, true_and, reduceCtorEq,
          implies_true, iff_true]
        exact loki_parses_of_ok _ _ streams

/-! ### Kubernetes -/

theorem isJson_dispatchRead {α : Type} {read : Except GoString (Kube.Read α)}
    (hmarshal : ∀ r, read = .ok r → IsJson r.raw) (h : Kube.errorOf read = none)
    (summary : α → String) (confidence : ℚ) :
    IsJson (Kube.dispatchRead read summary confidence).rawBody := by
  cases read with
  | error err => cases h
  | ok r => exact hmarshal r rfl

theorem isJson_dispatchQuery {cs : Kube.Clientset} (hmarshal : cs.Marshals)
    {pq : Kube.ParsedQuery} (h : Kube.apiError cs pq = none) :
    IsJson (Kube.dispatchQuery fmt.isPrint cs pq).rawBody := by
  obtain ⟨kind, ns, name⟩ := pq
  cases kind with
  | podStatus => exact isJson_dispatchRead (hmarshal.pods _) h _ _
  | podEvents =>
      rw [Kube.dispatchQuery, Kube.dispatchPodEvents]
      exact isJson_dispatchRead (hmarshal.events _ _) h _ _
  | deployStatus => exact isJson_dispatchRead (hmarshal.deployment _ _) h _ _
  | default =>
      rw [Kube.dispatchQuery, Kube.dispatchDefault]
      exact isJson_dispatchRead (hmarshal.pods _) h _ _

/-- The words that are put before an error of the API. -/
theorem quotable_errResult_iff (err : GoString) :
    Quotable fmt.isPrint (Kube.errResult [] err 1).summary ↔ Quotable fmt.isPrint err := by
  have hwords : Quotable fmt.isPrint (utf8 "kubernetes API error: ") :=
    all_jsonSafe_iff.mp rfl
  rw [Kube.errResult, quotable_append_iff]
  exact and_iff_right hwords

theorem kubePut_of_json {dr : Kube.DispatchResult} (h : IsJson dr.rawBody) :
    IsJson (Kube.putRequest fmt.isPrint inp dr).payload := by
  rw [Kube.putRequest, if_neg (jsonValid_ne_nil h.valid)]
  exact h

theorem kubePut_of_nil {dr : Kube.DispatchResult} (h : dr.rawBody = []) :
    (Kube.putRequest fmt.isPrint inp dr).payload =
      Kube.fallbackPayload fmt.isPrint inp dr.summary := by
  rw [Kube.putRequest, if_pos h]

theorem kube_parses_iff {cs : Kube.Clientset} (hmarshal : cs.Marshals) :
    ((Backend.kube cs).collector.putRequest fmt inp).Parses ↔
      (Backend.kube cs).Storable fmt inp := by
  rw [parses_json_iff rfl, Backend.Storable]
  show IsJson (Kube.putRequest fmt.isPrint inp (Kube.dispatch fmt.isPrint cs inp)).payload ↔ _
  cases herr : Kube.apiError cs (Kube.parseQuestion inp) with
  | none => exact iff_of_true (kubePut_of_json (isJson_dispatchQuery hmarshal herr)) nofun
  | some err =>
      have hdispatch : Kube.dispatch fmt.isPrint cs inp = Kube.errResult [] err 1 :=
        Kube.dispatchQuery_of_error fmt.isPrint herr
      rw [hdispatch, kubePut_of_nil rfl, isJson_kubeFallback_iff, quotable_errResult_iff]
      simp

end Backends

/-- **Which blobs parse as their content type.** Of what is passed to the writer, a
response of Prometheus has to be text. What stands for an answer of the others that
never came parses exactly when the texts in it need no escape that JSON lacks, and
the kube collector has no second service in its scope. -/
theorem putRequest_parses_iff (b : Backend) (env : CollectEnv) (inp : CollectorInput)
    (hmarshal : ∀ cs, b = .kube cs → cs.Marshals) :
    (∃ answer, b.collector.collect env inp =
      withEvidence env (b.collector.putRequest env.put.fmt inp) answer) ∧
    ((b.collector.putRequest env.put.fmt inp).Parses ↔ b.Storable env.put.fmt inp) := by
  refine ⟨b.collector.collect_eq_withEvidence env inp, ?_⟩
  cases b with
  | prom http => exact prom_parses_iff http
  | loki unmarshal client => exact loki_parses_iff unmarshal client
  | kube cs => exact kube_parses_iff (hmarshal cs rfl)
  | degraded kubeErr => exact (parses_json_iff rfl).trans (isJson_degraded_iff kubeErr inp)

/-! ### A scope of two services -/

/-- A question about a deployment that is not found. -/
def testDeployStatus : CollectorInput :=
  { testRequest with
    question := "deploy:status demo/leaky-service"
    scopeServices := ["demo", "leaky-service"] }

theorem marshals_testClientset : testClientset.Marshals where
  pods _ read h := by
    cases h
    exact isJson_emptyObject
  events _ _ read h := by
    cases h
    exact isJson_emptyObject
  deployment _ _ read h := by cases h

theorem marshals_testBackend :
    ∀ cs, Backend.kube testClientset = .kube cs → cs.Marshals := by
  intro cs hcs
  cases hcs
  exact marshals_testClientset

theorem putRequest_parses_iff_testDeployStatus :
    (∃ answer, (Backend.kube testClientset).collector.collect testCollectEnv testDeployStatus =
      withEvidence testCollectEnv ((Backend.kube testClientset).collector.putRequest
        testCollectEnv.put.fmt testDeployStatus) answer) ∧
    (((Backend.kube testClientset).collector.putRequest testCollectEnv.put.fmt
        testDeployStatus).Parses ↔
      (Backend.kube testClientset).Storable testCollectEnv.put.fmt testDeployStatus) :=
  putRequest_parses_iff _ testCollectEnv testDeployStatus marshals_testBackend

/-- The scope is stored as `["demo" "leaky-service"]`. -/
theorem not_putRequest_parses :
    ¬ ∀ (b : Backend) (env : CollectEnv) (inp : CollectorInput),
      (∀ cs, b = .kube cs → cs.Marshals) →
        (b.collector.putRequest env.put.fmt inp).Parses := by
  intro h
  have hparses := h (.kube testClientset) testCollectEnv testDeployStatus marshals_testBackend
  have herr : Kube.apiError testClientset (Kube.parseQuestion testDeployStatus) =
      some (utf8 "not found") := by
    have hquery : Kube.parseQuestion testDeployStatus =
        { kind := .deployStatus, ns := "demo", name := "leaky-service" } := by decide
    rw [hquery]
    rfl
  have hstorable := (kube_parses_iff marshals_testClientset).mp hparses
  exact absurd (hstorable _ herr).2.2.1 (by decide)

end AlphE.Collectors
