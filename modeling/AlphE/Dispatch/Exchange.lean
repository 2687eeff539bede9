import AlphE.Dispatch.Acceptance

/-!
One question across both services. The orchestrator writes the request, the collector
reads it, asks its backend, stores the evidence and writes an answer, and the orchestrator
reads that. Of this nothing but the times is a parameter: a request is dumped in ISO 8601,
and an answer is read in RFC 3339.
-/

namespace AlphE.Dispatch

open Go Collectors

/-- A datetime as the collector reads it. -/
def wireTime (t : DateTime) : Time :=
  { nanos := t.instant * 1000, zone := t.utcoffset.getD 0 / 1000000 }

/-- The request as the collector reads it. -/
def received (input : AlphE.CollectorInput) : Collectors.CollectorInput :=
  wireInput input (wireTime input.timeRange.start) (wireTime input.timeRange.stop)

/-- The reference of an answer is the same on both sides, whatever else became of it. -/
structure SameReference (py : AlphE.CollectorOutput) (go : Collectors.CollectorOutput) :
    Prop where
  findingId : py.finding.evidenceId = go.finding.evidenceId
  evidenceId : py.evidence.evidenceId = go.evidence.evidenceId
  storageUri : py.evidence.storageUri = go.evidence.storageUri
  contentType : py.evidence.contentType = go.evidence.contentType
  sizeBytes : (py.evidence.sizeBytes : Int) = go.evidence.sizeBytes

section Reference

open Validation Validated

variable {parse : String → Option DateTime}

theorem evidenceId_finding {f : Collectors.Finding} {body : Json} {py : AlphE.Finding}
    (hencode : f.encode = some body) (hvalid : finding parse body = .valid py) :
    py.evidenceId = f.evidenceId := by
  simp only [Finding.encode, Option.bind_eq_bind, Option.bind_eq_some_iff] at hencode
  obtain ⟨x, -, created, -, hfields⟩ := hencode
  cases hfields
  simp [finding, model, required, defaulted, List.lookup_cons, ap_eq_valid_iff] at hvalid
  obtain ⟨_, _, _, -, _, -, rfl⟩ := hvalid
  rfl

theorem evidenceRef_of_valid {r : Collectors.EvidenceRef} {body : Json} {py : AlphE.EvidenceRef}
    (hencode : r.encode = some body) (hvalid : evidenceRef parse body = .valid py) :
    py.evidenceId = r.evidenceId ∧ py.storageUri = r.storageUri ∧
      py.contentType = r.contentType ∧ (py.sizeBytes : Int) = r.sizeBytes := by
  simp only [EvidenceRef.encode, Option.bind_eq_bind, Option.bind_eq_some_iff] at hencode
  obtain ⟨expires, -, hfields⟩ := hencode
  cases hfields
  simp [evidenceRef, model, required, List.lookup_cons, ap_eq_valid_iff] at hvalid
  obtain ⟨size, hsize, _, -, rfl⟩ := hvalid
  refine ⟨rfl, rfl, rfl, ?_⟩
  have hnat : (if 0 ≤ r.sizeBytes then valid r.sizeBytes.toNat else fail "greater_than_equal") =
      valid size := hsize
  split at hnat
  · next hnonneg =>
      cases hnat
      exact Int.toNat_of_nonneg hnonneg
  · cases hnat

/-- An answer that is accepted refers to what it referred to when it was sent. -/
theorem sameReference_of_valid {out : Collectors.CollectorOutput} {py : AlphE.CollectorOutput}
    (hvalid : modelValidateJson parse out.encode = .valid py) : SameReference py out := by
  cases hencode : out.encode with
  | none =>
      rw [hencode] at hvalid
      cases hvalid
  | some body =>
      rw [hencode] at hvalid
      simp only [CollectorOutput.encode, Option.bind_eq_bind, Option.bind_eq_some_iff] at hencode
      obtain ⟨f, hf, r, hr, hbody⟩ := hencode
      cases hbody
      simp [modelValidateJson, collectorOutput, model, required, List.lookup_cons,
        ap_eq_valid_iff] at hvalid
      obtain ⟨_, _, _, ⟨hfinding, hevidence, -⟩, _, -, rfl⟩ := hvalid
      obtain ⟨hid, huri, htype, hsize⟩ := evidenceRef_of_valid hr hevidence
      exact ⟨evidenceId_finding hf hfinding, hid, huri, htype, hsize⟩

end Reference

/-- What the orchestrator makes of the collector's answer to its request; `err` is what
the collector says of a body that it cannot decode. -/
def exchange (http : HttpEnv) (dump : DateTime → String) (collectorName : String)
    (c : Collector) (env : CollectEnv) (err : GoString) (input : AlphE.CollectorInput) :
    AlphE.CollectorOutput ⊕ AlphE.Finding :=
  let resp := post c env err (dumpCollectorInput dump input)
  dispatch http collectorName input (.response resp.status resp.body)

theorem validate_received {input : AlphE.CollectorInput} (h : Acceptable input) :
    (received input).validate = none := by
  rw [CollectorInput.validate_eq_none_iff]
  exact ⟨h.incidentId, h.question, h.hypothesisId, (isZero_micros _ _).mpr h.start,
    (isZero_micros _ _).mpr h.stop, (after_micros _ _ _ _).mpr h.order, h.cluster⟩

section Exchange

variable {dump : DateTime → String} (hdump : IsoText dump) {input : AlphE.CollectorInput}
  (hstart : PayloadTime input.timeRange.start) (hstop : PayloadTime input.timeRange.stop)

include hdump hstart hstop

/-- A request that the collectors accept reaches the handler as it was meant. -/
theorem post_of_acceptable (h : Acceptable input) (c : Collector) (env : CollectEnv)
    (err : GoString) :
    post c env err (dumpCollectorInput dump input) =
      handleCollect c env (.ok (received input)) := by
  obtain ⟨o, hzone⟩ := Option.isSome_iff_exists.mp h.startZone
  obtain ⟨o', hzone'⟩ := Option.isSome_iff_exists.mp h.stopZone
  have hdecode : decodeCollectorInput (dumpCollectorInput dump input) =
      some (received input) := by
    rw [decodeCollectorInput, object_collectorInputFields, unmarshal_dump hdump hstart,
      unmarshal_dump hdump hstop, hzone, hzone']
    simp only [Option.map_some, Option.bind_some, received, wireTime, hzone, hzone',
      Option.getD_some]
  rw [post, hdecode]

variable (http : HttpEnv) (collectorName : String) (c : Collector) (env : CollectEnv)
  (err : GoString)

/-- What is accepted is the collector's answer to the request as it was meant. -/
theorem exchange_eq_inl_iff (out : AlphE.CollectorOutput) :
    exchange http dump collectorName c env err input = .inl out ↔
      Acceptable input ∧ ¬ env.writer.Refuses env.put ∧
        modelValidateJson http.parse (c.answer env (received input)).encode = .valid out := by
  by_cases haccept : Acceptable input
  · have hvalid := validate_received haccept
    rw [exchange, post_of_acceptable hdump hstart hstop haccept]
    simp only [haccept, true_and]
    cases hcollect : c.collect env (received input) with
    | ok answer =>
        obtain ⟨hstored, rfl⟩ := (c.collect_eq_ok_iff hvalid answer).mp hcollect
        have hstatus := handleCollect_status_eq_iff.mpr ⟨hvalid, _, hcollect⟩
        rw [hstatus, handleCollect_body hvalid hcollect, dispatch_eq_inl_iff]
        exact (and_iff_right hstored).symm
    | error text =>
        have hrefuses : env.writer.Refuses env.put := by
          by_contra hstored
          rw [(c.collect_eq_ok_iff hvalid _).mpr ⟨hstored, rfl⟩] at hcollect
          cases hcollect
        have hfails : (handleCollect c env (.ok (received input))).status = 500 := by
          simp only [handleCollect, hvalid, hcollect]
        simp [dispatch, hfails, isSuccess, hrefuses]
  · -- The handler turns it down, and a 400 is no answer.
    have hstatus : (post c env err (dumpCollectorInput dump input)).status = 400 := by
      by_contra hne
      exact haccept ((status_post_iff hdump hstart hstop c env err).mp hne)
    simp [exchange, dispatch, hstatus, isSuccess, haccept]

/-- **When a question is answered.** The orchestrator ends up with the collector's answer
to its question exactly when the request is one that the collectors accept, the evidence
can be stored, and the collector and the question are among those whose answers agree. -/
theorem exchange_answered_iff (hparse : ReadsRfc3339 http.parse) (henv : env.Common) :
    (∃ out, exchange http dump collectorName c env err input = .inl out ∧
      SameOutput out (c.answer env (received input))) ↔
      Acceptable input ∧ ¬ env.writer.Refuses env.put ∧ c.Agrees (received input) := by
  rw [← accepted_answer_iff henv hparse c]
  constructor
  · rintro ⟨out, hout, hsame⟩
    obtain ⟨haccept, hstored, hvalid⟩ :=
      (exchange_eq_inl_iff hdump hstart hstop http collectorName c env err out).mp hout
    exact ⟨haccept, hstored, out, hvalid, hsame⟩
  · rintro ⟨haccept, hstored, out, hvalid, hsame⟩
    exact ⟨out, (exchange_eq_inl_iff hdump hstart hstop http collectorName c env err out).mpr
      ⟨haccept, hstored, hvalid⟩, hsame⟩

end Exchange

/-! ### A list of pods -/

def testPayload : AlphE.CollectorInput where
  incidentId := "inc_1"
  question := "Was leaky-service killed for its memory?"
  hypothesisId := "hyp_1"
  timeRange :=
    { start := testNow, stop := testNow.addMicros (DateTime.minutes 10) }
  scopeServices := ["demo"]
  environmentFingerprint :=
    { cluster := "k3d-devops-lab", account := "local", region := "local"
      deployRevision := "unknown", rolloutGeneration := "0" }
  maxInternalIterations := ⟨2, by decide⟩

def testHttp : HttpEnv where
  now := testNow
  parse := readRfc3339
  isprintable _ := true
  text _ := ""
  formatErrors _ := ""

theorem acceptable_testPayload : Acceptable testPayload where
  incidentId := by decide
  question := by decide
  hypothesisId := by decide
  startZone := rfl
  stopZone := rfl
  start := by decide
  stop := by decide
  order := by decide
  cluster := by decide

theorem agrees_testPayload :
    (Collector.kube testClientset).Agrees (received testPayload) := by
  have hquestion : Kube.parseQuestion (received testPayload) =
      Kube.parseQuestion testRequest := by
    decide
  simp only [Collector.Agrees, hquestion, parseQuestion_testRequest]
  exact ⟨by decide, List.cons_ne_nil _ _⟩

/-- The orchestrator gets to know that there are no pods. -/
theorem exchange_answered_iff_testPayload :
    ∃ out, exchange testHttp testDump "kube" (.kube testClientset) testCollectEnv []
        testPayload = .inl out ∧
      SameOutput out
        ((Collector.kube testClientset).answer testCollectEnv (received testPayload)) := by
  refine (exchange_answered_iff isoText_testDump (payloadTime_utc ⟨by decide, by decide⟩)
    (payloadTime_utc ⟨by decide, by decide⟩) testHttp "kube" (.kube testClientset)
    testCollectEnv [] readsRfc3339_readRfc3339 common_testCollectEnv).mpr ?_
  exact ⟨acceptable_testPayload, id, agrees_testPayload⟩

end AlphE.Dispatch
