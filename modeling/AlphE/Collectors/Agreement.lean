import AlphE.Collectors.Server
import AlphE.Dispatch.Http

/-!
Whether the collectors and the orchestrator speak one format: an answer with the
status 200 is to be accepted, and to hold the same values on both sides. Times
agree down to microseconds, which is what a datetime has, and a slice that is nil
agrees with an empty list.

How the orchestrator reads a timestamp is a parameter, of which only this is
used: that it reads what RFC 3339 says.
-/

namespace AlphE.Collectors

open Go Validation Validated Dispatch

/-! ### The same values -/

def micros (t : Time) : DateTime := DateTime.utc (t.nanos / 1000)

structure SameFinding (py : AlphE.Finding) (go : Finding) : Prop where
  id : py.id = go.id
  collectorName : py.collectorName = go.collectorName
  question : py.question = go.question
  summary : utf8 py.summary = go.summary
  evidenceId : py.evidenceId = go.evidenceId
  confidence : .fin py.confidence.val = go.confidence
  suggestedFollowups : py.suggestedFollowups = go.suggestedFollowups.getD []
  createdAt : py.createdAt = micros go.createdAt

structure SameEvidence (py : AlphE.EvidenceRef) (go : EvidenceRef) : Prop where
  evidenceId : py.evidenceId = go.evidenceId
  storageUri : py.storageUri = go.storageUri
  contentType : py.contentType = go.contentType
  sizeBytes : (py.sizeBytes : Int) = go.sizeBytes
  expiresAt : py.expiresAt = micros go.expiresAt

structure SameOutput (py : AlphE.CollectorOutput) (go : CollectorOutput) : Prop where
  finding : SameFinding py.finding go.finding
  evidence : SameEvidence py.evidence go.evidence
  toolCallsUsed : (py.toolCallsUsed : Int) = go.toolCallsUsed
  tokensUsed : (py.tokensUsed : Int) = go.tokensUsed

/-- A reader of timestamps reads the ones RFC 3339 has for its years. -/
def ReadsRfc3339 (parse : String → Option DateTime) : Prop :=
  ∀ t : Time, t.Common → parse (Rfc3339.format t.nanos) = some (micros t)

/-- The collector's answer to a request is accepted for what it is. -/
def SpeaksSameFormat (parse : String → Option DateTime) (c : Collector) (env : CollectEnv)
    (inp : CollectorInput) : Prop :=
  (handleCollect c env (.ok inp)).status = 200 →
    ∃ out py, c.collect env inp = .ok out ∧
      modelValidateJson parse (handleCollect c env (.ok inp)).body = .valid py ∧
      SameOutput py out

/-! ### Decoding an encoded answer -/

/-- What every collector but one keeps of its answers: they have the confidence,
counts and times that the schemas on the other side ask for. -/
structure Presentable (out : CollectorOutput) : Prop where
  confidence : ∃ q : UnitFloat, out.finding.confidence = .fin q.val
  createdAt : out.finding.createdAt.Common
  expiresAt : out.evidence.expiresAt.Common
  sizeBytes : 0 ≤ out.evidence.sizeBytes
  toolCallsUsed : 0 ≤ out.toolCallsUsed
  tokensUsed : 0 ≤ out.tokensUsed

/-- A whole number is written as an integer and read as a float all the same. -/
theorem unitFloat_encodeFloat (q : UnitFloat) :
    ∃ x, encodeFloat (.fin q.val) = some x ∧ unitFloat x = .valid q := by
  refine ⟨_, rfl, ?_⟩
  split
  · rename_i hwhole
    have hnum : ((q.val.num : Int) : ℚ) = q.val := Rat.coe_int_num_of_den_eq_one hwhole.1
    simp [unitFloat, float, hnum, q.2.1, q.2.2]
  · exact unitFloat_float q

theorem list_str_encodeStrings (ss : List String) :
    list str (encodeStrings (some ss)) = .valid ss :=
  list_map str_str ss

/-- What the other side makes of a finding. -/
def readFinding (f : Finding) (confidence : UnitFloat) (followups : List String) :
    AlphE.Finding :=
  { id := f.id
    collectorName := f.collectorName
    question := f.question
    summary := toText f.summary
    evidenceId := f.evidenceId
    confidence := confidence
    suggestedFollowups := followups
    createdAt := micros f.createdAt }

def readEvidence (r : EvidenceRef) (sizeBytes : ℕ) : AlphE.EvidenceRef :=
  { evidenceId := r.evidenceId
    storageUri := r.storageUri
    contentType := r.contentType
    sizeBytes := sizeBytes
    expiresAt := micros r.expiresAt }

section Decode

variable {parse : String → Option DateTime} (hparse : ReadsRfc3339 parse)

include hparse

theorem finding_encode {f : Finding} {q : UnitFloat} {ss : List String}
    (hconfidence : f.confidence = .fin q.val) (hfollowups : f.suggestedFollowups = some ss)
    (hcreated : f.createdAt.Common) :
    ∃ body, f.encode = some body ∧ finding parse body = .valid (readFinding f q ss) := by
  obtain ⟨x, hencode, hread⟩ := unitFloat_encodeFloat q
  have hdate := hparse f.createdAt hcreated
  refine ⟨_, by rw [Finding.encode, hconfidence, hencode, hcreated.marshal]; rfl, ?_⟩
  simp [finding, model, required, defaulted, List.lookup_cons, hread, hfollowups,
    list_str_encodeStrings, datetimeJson, hdate, readFinding]

theorem evidenceRef_encode {r : EvidenceRef} {n : ℕ} (hsize : r.sizeBytes = n)
    (hexpires : r.expiresAt.Common) :
    ∃ body, r.encode = some body ∧ evidenceRef parse body = .valid (readEvidence r n) := by
  have hdate := hparse r.expiresAt hexpires
  refine ⟨_, by rw [EvidenceRef.encode, hexpires.marshal]; rfl, ?_⟩
  simp [evidenceRef, model, required, List.lookup_cons, hsize, datetimeJson, hdate, readEvidence]

/-- An answer with follow-ups is accepted, and only its summary may have changed. -/
theorem collectorOutput_encode {out : CollectorOutput} (hout : Presentable out)
    (hfollowups : out.finding.suggestedFollowups ≠ none) :
    ∃ py, modelValidateJson parse out.encode = .valid py ∧
      py.finding.summary = toText out.finding.summary ∧
      (validUtf8 out.finding.summary = true → SameOutput py out) := by
  obtain ⟨q, hconfidence⟩ := hout.confidence
  obtain ⟨ss, hss⟩ := Option.ne_none_iff_exists'.mp hfollowups
  obtain ⟨size, hsize⟩ := Int.eq_ofNat_of_zero_le hout.sizeBytes
  obtain ⟨calls, hcalls⟩ := Int.eq_ofNat_of_zero_le hout.toolCallsUsed
  obtain ⟨tokens, htokens⟩ := Int.eq_ofNat_of_zero_le hout.tokensUsed
  obtain ⟨f, hf, hfinding⟩ := finding_encode hparse hconfidence hss hout.createdAt
  obtain ⟨r, hr, hevidence⟩ := evidenceRef_encode hparse hsize hout.expiresAt
  refine ⟨⟨readFinding out.finding q ss, readEvidence out.evidence size, calls, tokens⟩,
    ?_, rfl, ?_⟩
  · have hbody : out.encode = some (.dict [("finding", f), ("evidence", r),
        ("tool_calls_used", .int calls), ("tokens_used", .int tokens)]) := by
      rw [CollectorOutput.encode, hf, hr, hcalls, htokens]
      rfl
    rw [hbody]
    simp [modelValidateJson, collectorOutput, model, required, List.lookup_cons, hfinding,
      hevidence]
  · intro hutf8
    have hsummary := (utf8_toText_iff _).mpr hutf8
    refine ⟨?_, ?_, hcalls.symm, htokens.symm⟩
    · constructor <;> simp [readFinding, hconfidence, hss, hsummary]
    · constructor <;> simp [readEvidence, hsize]

omit hparse in
/-- Without follow-ups no answer is accepted. -/
theorem not_isValid_encode {out : CollectorOutput}
    (hfollowups : out.finding.suggestedFollowups = none) :
    ¬ (modelValidateJson parse out.encode).IsValid := by
  apply not_isValid_modelValidateJson
  intro items hitems
  simp only [CollectorOutput.encode, Option.bind_eq_bind, Option.bind_eq_some_iff] at hitems
  obtain ⟨f, hf, r, -, hbody⟩ := hitems
  cases hbody
  refine ⟨f, rfl, ?_⟩
  simp only [Finding.encode, Option.bind_eq_bind, Option.bind_eq_some_iff] at hf
  obtain ⟨x, -, created, -, hfields⟩ := hf
  cases hfields
  apply not_isValid_finding_of_null
  rw [hfollowups]
  rfl

/-- A presentable answer is accepted for what it is just when it has follow-ups and
its summary is text. -/
theorem accepted_iff {out : CollectorOutput} (hout : Presentable out) :
    (∃ py, modelValidateJson parse out.encode = .valid py ∧ SameOutput py out) ↔
      out.finding.suggestedFollowups ≠ none ∧ validUtf8 out.finding.summary = true := by
  constructor
  · rintro ⟨py, hvalid, hsame⟩
    have hfollowups : out.finding.suggestedFollowups ≠ none :=
      fun hnone => not_isValid_encode hnone ⟨py, hvalid⟩
    obtain ⟨py', hvalid', hsummary, -⟩ := collectorOutput_encode hparse hout hfollowups
    rw [hvalid] at hvalid'
    cases hvalid'
    refine ⟨hfollowups, (utf8_toText_iff _).mp ?_⟩
    rw [← hsummary, hsame.finding.summary]
  · rintro ⟨hfollowups, hutf8⟩
    obtain ⟨py, hvalid, -, hsame⟩ := collectorOutput_encode hparse hout hfollowups
    exact ⟨py, hvalid, hsame hutf8⟩

end Decode

/-! ### Which answers agree -/

/-- The answers that agree: those of a kube collector that is degraded or whose API
call failed, as far as the error is text, and those to a question about a list
when the scope is not empty. -/
def Collector.Agrees : Collector → CollectorInput → Prop
  | .prom _, _ => False
  | .loki _ _, _ => False
  | .kube cs, inp =>
      match Kube.apiError cs (Kube.parseQuestion inp) with
      | some err => validUtf8 err = true
      | none => (Kube.parseQuestion inp).kind ≠ .deployStatus ∧ inp.scopeServices ≠ []
  | .degraded kubeErr, _ => validUtf8 kubeErr = true

/-- The clocks of a request are in the years both sides have. -/
structure CollectEnv.Common (env : CollectEnv) : Prop where
  now : env.now.utc.Common
  expiry : (env.put.now.utc.add env.writer.ttl).Common

section Answers

variable {env : CollectEnv} (henv : env.Common)

include henv

theorem presentable_kube_answer (inp : CollectorInput) {dr : Kube.DispatchResult}
    {q : ℚ} (hunit : 0 ≤ q ∧ q ≤ 1) (hconfidence : dr.confidence = .fin q)
    (hcount : dr.queryCount = 1) (req : PutRequest) :
    Presentable (Kube.answer env inp dr (env.ref req)) where
  confidence := ⟨⟨q, hunit⟩, hconfidence⟩
  createdAt := henv.now
  expiresAt := henv.expiry
  sizeBytes := Int.natCast_nonneg _
  toolCallsUsed := by
    show 0 ≤ dr.queryCount
    omega
  tokensUsed := le_refl _

theorem presentable_degradedAnswer (kubeErr : GoString) (inp : CollectorInput)
    (req : PutRequest) :
    Presentable (Kube.degradedAnswer kubeErr env inp (env.ref req)) where
  confidence := ⟨UnitFloat.zero, rfl⟩
  createdAt := henv.now
  expiresAt := henv.expiry
  sizeBytes := Int.natCast_nonneg _
  toolCallsUsed := le_refl _
  tokensUsed := le_refl _

variable {parse : String → Option DateTime} (hparse : ReadsRfc3339 parse)

include hparse

theorem accepted_kube_iff (inp : CollectorInput) {dr : Kube.DispatchResult} {q : ℚ}
    (hunit : 0 ≤ q ∧ q ≤ 1) (hconfidence : dr.confidence = .fin q)
    (hcount : dr.queryCount = 1) (req : PutRequest) :
    (∃ py,
      modelValidateJson parse (Kube.answer env inp dr (env.ref req)).encode = .valid py ∧
      SameOutput py (Kube.answer env inp dr (env.ref req))) ↔
      Kube.suggestedFollowups inp dr ≠ none ∧ validUtf8 dr.summary = true :=
  accepted_iff hparse (presentable_kube_answer henv inp hunit hconfidence hcount req)

theorem accepted_answer_iff (c : Collector) (inp : CollectorInput) :
    (∃ py, modelValidateJson parse (c.answer env inp).encode = .valid py ∧
      SameOutput py (c.answer env inp)) ↔ c.Agrees inp := by
  cases c with
  | prom client =>
      -- The field is never set, here and for loki, and null is no list.
      refine iff_of_false ?_ id
      rintro ⟨py, hvalid, -⟩
      exact not_isValid_encode rfl ⟨py, hvalid⟩
  | loki unmarshal client =>
      refine iff_of_false ?_ id
      rintro ⟨py, hvalid, -⟩
      exact not_isValid_encode rfl ⟨py, hvalid⟩
  | kube cs =>
      rw [Collector.answer, Collector.Agrees]
      cases hread : Kube.apiError cs (Kube.parseQuestion inp) with
      | some err =>
          -- Confidence zero comes with follow-ups; the summary quotes the error.
          have hdr := Kube.dispatchQuery_of_error env.put.fmt.isPrint hread
          have hzero : (Kube.errResult [] err 1).confidence = .fin 0 := rfl
          have hfollowups : Kube.suggestedFollowups inp (Kube.errResult [] err 1) ≠ none :=
            Kube.suggestedFollowups_of_zero hzero
          rw [Kube.dispatch, hdr, accepted_kube_iff henv hparse inp UnitFloat.zero.2 hzero rfl,
            Kube.validUtf8_errResult]
          exact and_iff_right hfollowups
      | none =>
          -- The summary is text, so the follow-ups decide.
          obtain ⟨⟨text, hsummary⟩, hconfidence, hcount⟩ :=
            Kube.dispatchQuery_of_read env.put.fmt.isPrint hread
          have hunit := Kube.readConfidence_mem (Kube.parseQuestion inp).kind
          rw [Kube.dispatch, accepted_kube_iff henv hparse inp hunit hconfidence hcount,
            hsummary, Kube.suggestedFollowups_of_read hconfidence]
          exact and_iff_left (validUtf8_utf8 text)
  | degraded kubeErr =>
      rw [Collector.answer, accepted_iff hparse (presentable_degradedAnswer henv kubeErr inp _)]
      simp [Collector.Agrees, Kube.degradedAnswer]

/-- **Which answers agree.** Whenever a valid request is answered, the answer is
accepted for what it is exactly when the collector and the question are among the
ones that come with follow-ups, and a quoted error is text. -/
theorem speaksSameFormat_iff (c : Collector) (inp : CollectorInput) :
    SpeaksSameFormat parse c env inp ↔
      (inp.validate = none → ¬ env.writer.Refuses env.put → c.Agrees inp) := by
  rw [SpeaksSameFormat, handleCollect_status_eq_iff]
  constructor
  · intro h hvalid hstored
    have hcollect := (c.collect_eq_ok_iff hvalid (c.answer env inp)).mpr ⟨hstored, rfl⟩
    obtain ⟨out, py, hout, hbody, hsame⟩ := h ⟨hvalid, _, hcollect⟩
    rw [handleCollect_body hvalid hout] at hbody
    obtain ⟨-, rfl⟩ := (c.collect_eq_ok_iff hvalid out).mp hout
    exact (accepted_answer_iff henv hparse c inp).mp ⟨py, hbody, hsame⟩
  · rintro h ⟨hvalid, out, hout⟩
    obtain ⟨hstored, rfl⟩ := (c.collect_eq_ok_iff hvalid out).mp hout
    obtain ⟨py, hbody, hsame⟩ :=
      (accepted_answer_iff henv hparse c inp).mpr (h hvalid hstored)
    rw [← handleCollect_body hvalid hout] at hbody
    exact ⟨_, py, hout, hbody, hsame⟩

end Answers

/-- An answer without follow-ups agrees with nothing. -/
theorem not_speaksSameFormat_of_no_followups {parse : String → Option DateTime}
    {c : Collector} {env : CollectEnv} {inp : CollectorInput} (hvalid : inp.validate = none)
    (hstored : ¬ env.writer.Refuses env.put)
    (hfollowups : (c.answer env inp).finding.suggestedFollowups = none) :
    ¬ SpeaksSameFormat parse c env inp := by
  intro h
  have hcollect := (c.collect_eq_ok_iff hvalid _).mpr ⟨hstored, rfl⟩
  obtain ⟨out, py, hout, hbody, -⟩ :=
    h (handleCollect_status_eq_iff.mpr ⟨hvalid, _, hcollect⟩)
  rw [handleCollect_body hvalid hout] at hbody
  obtain ⟨-, rfl⟩ := (c.collect_eq_ok_iff hvalid out).mp hout
  exact not_isValid_encode hfollowups ⟨py, hbody⟩

/-- An answer without follow-ups is a failure to the graph, whatever was measured. -/
theorem dispatch_of_no_followups {out : CollectorOutput}
    (hfollowups : out.finding.suggestedFollowups = none) (http : HttpEnv)
    (collectorName : String) (payload : AlphE.CollectorInput) :
    ∃ f, dispatch http collectorName payload (.response 200 out.encode) = .inr f ∧
      f.confidence = UnitFloat.zero := by
  cases hdispatch : dispatch http collectorName payload (.response 200 out.encode) with
  | inl output =>
      exact absurd ⟨output, dispatch_eq_inl_iff.mp hdispatch⟩ (not_isValid_encode hfollowups)
  | inr f => exact ⟨f, rfl, confidence_of_dispatch_eq_inr hdispatch⟩

/-! ### A measurement, and a list of pods -/

def readRfc3339 (text : String) : Option DateTime := (Rfc3339.parse text).map DateTime.utc

theorem readsRfc3339_readRfc3339 : ReadsRfc3339 readRfc3339 := by
  intro t ht
  rw [readRfc3339, ht.parse]
  rfl

/-- 2026-04-21T14:00:00Z. -/
def testTime : Time := Time.unix 1776780000 0

def testCollectEnv : CollectEnv where
  writer := .null { bucket := "incidents" }
  put :=
    { uuid := "5f0c3a52-7d1e-4b6f-9a53-0d8c1f5b2e77"
      now := testTime
      fmt :=
        { isPrint := fun _ => true
          scanG := fun _ => none
          format4g := fun _ => "3"
          format0f := fun _ => "3" } }
  now := testTime

def testRequest : CollectorInput where
  incidentId := "inc_1"
  question := "Was leaky-service killed for its memory?"
  hypothesisId := "hyp_1"
  timeRange := { start := testTime.add (-600000000000), stop := testTime }
  scopeServices := ["demo"]
  environmentFingerprint :=
    { cluster := "k3d-devops-lab", account := "local", region := "local",
      deployRevision := "unknown", rolloutGeneration := "0" }
  maxInternalIterations := 5

/-- Prometheus has counted three terminations. -/
def testPrometheus : Prom.Client where
  queryInstant _ _ := .ok
    { metric := some (InsertionDict.ofList [("reason", "OOMKilled")])
      value := { timestamp := testTime, value := .fin 3 }
      rawBody := utf8 "\x7b\x7d" }
  queryRange _ _ _ _ := .error { text := utf8 "bad_data" }

/-- The API server lists no pods. -/
def testClientset : Kube.Clientset where
  listPods _ := .ok { object := [], raw := utf8 "\x7b\x7d" }
  listEvents _ _ := .ok { object := [], raw := utf8 "\x7b\x7d" }
  getDeployment _ _ := .error (utf8 "not found")

theorem validate_testRequest : testRequest.validate = none := by
  decide

theorem common_testCollectEnv : testCollectEnv.Common where
  now := { utc := rfl, year_pos := by decide, year_lt := by decide }
  expiry := { utc := rfl, year_pos := by decide, year_lt := by decide }

theorem parseQuestion_testRequest :
    Kube.parseQuestion testRequest = { kind := .default, ns := "demo" } := by
  decide

theorem agrees_testClientset : (Collector.kube testClientset).Agrees testRequest := by
  have hread : Kube.apiError testClientset (Kube.parseQuestion testRequest) = none := by
    rw [parseQuestion_testRequest]
    rfl
  have hkind : (Kube.parseQuestion testRequest).kind = .default := by
    rw [parseQuestion_testRequest]
  simp only [Collector.Agrees, hread, hkind]
  exact ⟨by decide, List.cons_ne_nil _ _⟩

/-- A list of pods, even an empty one, comes through. -/
theorem speaksSameFormat_iff_testClientset :
    SpeaksSameFormat readRfc3339 (.kube testClientset) testCollectEnv testRequest := by
  rw [speaksSameFormat_iff common_testCollectEnv readsRfc3339_readRfc3339]
  exact fun _ _ => agrees_testClientset

/-- The measurement of the prom collector does not. -/
theorem not_speaksSameFormat :
    ¬ SpeaksSameFormat readRfc3339 (.prom testPrometheus) testCollectEnv testRequest :=
  not_speaksSameFormat_of_no_followups validate_testRequest id rfl

end AlphE.Collectors
