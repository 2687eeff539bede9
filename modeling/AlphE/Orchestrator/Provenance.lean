import AlphE.Orchestrator.EvidenceRule
import AlphE.Collectors.KubeFollowups
import AlphE.Dispatch.Exchange

/-!
Which findings ever reach an incident when the collectors behind the graph are the ones of
this repository. An answer without follow-ups is not read, and that leaves little: the
prom and the loki collector suggest none, and the kube collector suggests some of an error
and of a list in a scope, but not of a deployment.
-/

namespace AlphE.Orchestrator

open Nodes Collectors Dispatch Evidence Validation Validated

/-! ### What is read of an answer -/

theorem float_of_unitFloat {v : Json} {q : UnitFloat} (h : unitFloat v = .valid q) :
    float v = .valid q.val := by
  rw [unitFloat] at h
  cases hfloat : float v with
  | invalid errors =>
      rw [hfloat] at h
      cases h
  | valid r =>
      rw [hfloat] at h
      dsimp only at h
      split at h
      · split at h
        · cases h
          rfl
        · cases h
      · cases h

/-- A confidence that is read is the one that was written. -/
theorem eq_of_unitFloat_encodeFloat {c : Go.Float64} {x : Json} {q : UnitFloat}
    (hencode : encodeFloat c = some x) (hread : unitFloat x = .valid q) : c = .fin q.val := by
  have hfloat := float_of_unitFloat hread
  cases c with
  | fin r =>
      cases hencode
      split at hfloat
      · next hwhole =>
          have hnum : ((r.num : Int) : ℚ) = r := Rat.coe_int_num_of_den_eq_one hwhole.1
          have hread : ((r.num : Int) : ℚ) = q.val := valid.inj hfloat
          rw [← hread, hnum]
      · have hread : r = q.val := valid.inj hfloat
        rw [hread]
  | _ => cases hencode

/-- The part of a finding that is read as it was written. -/
structure ReadAs (py : AlphE.Finding) (go : Collectors.Finding) : Prop where
  collectorName : py.collectorName = go.collectorName
  confidence : .fin py.confidence.val = go.confidence
  suggestedFollowups : go.suggestedFollowups ≠ none

section Read

variable {parse : String → Option DateTime}

theorem readAs_of_finding {f : Collectors.Finding} {body : Json} {py : AlphE.Finding}
    (hencode : f.encode = some body) (hvalid : finding parse body = .valid py) :
    ReadAs py f := by
  simp only [Finding.encode, Option.bind_eq_bind, Option.bind_eq_some_iff] at hencode
  obtain ⟨x, hx, created, -, hfields⟩ := hencode
  cases hfields
  simp [finding, model, required, defaulted, List.lookup_cons, ap_eq_valid_iff] at hvalid
  obtain ⟨q, hq, followups, ⟨hconfidence, hfollowups⟩, createdAt, -, rfl⟩ := hvalid
  refine ⟨rfl, (eq_of_unitFloat_encodeFloat hx hconfidence).symm, ?_⟩
  intro hnone
  rw [hnone] at hfollowups
  cases hfollowups

theorem readAs_of_answer {out : Collectors.CollectorOutput} {py : AlphE.CollectorOutput}
    (hvalid : modelValidateJson parse out.encode = .valid py) :
    ReadAs py.finding out.finding := by
  cases hencode : out.encode with
  | none =>
      rw [hencode] at hvalid
      cases hvalid
  | some body =>
      rw [hencode] at hvalid
      simp only [CollectorOutput.encode, Option.bind_eq_bind, Option.bind_eq_some_iff] at hencode
      obtain ⟨f, hf, r, -, hbody⟩ := hencode
      cases hbody
      simp [modelValidateJson, collectorOutput, model, required, List.lookup_cons,
        ap_eq_valid_iff] at hvalid
      obtain ⟨_, _, _, ⟨hfinding, -, -⟩, _, -, rfl⟩ := hvalid
      exact readAs_of_finding hf hfinding

end Read

/-! ### Which answers are read -/

/-- A finding that comes from the cluster: a list, or why there is none. What it refers to
is stored when the collector that answered has an object store. -/
structure FromCluster (dump : DateTime → String) (calls : List ServedCall)
    (f : AlphE.Finding) : Prop where
  collectorName : f.collectorName = "kube"
  stored : ∃ r ∈ calls, AnsweredBy dump r f ∧ (Stored calls f.evidenceId ↔ r.Persists)
  confidence : f.confidence.val = 0 ∨ f.confidence.val = 1 / 2

/-- What the kube collector suggests follow-ups for is an error or a list. -/
theorem confidence_of_suggestedFollowups (isPrint : Char → Bool) (cs : Kube.Clientset)
    (inp : Collectors.CollectorInput)
    (h : Kube.suggestedFollowups inp (Kube.dispatch isPrint cs inp) ≠ none) :
    (Kube.dispatch isPrint cs inp).confidence = .fin 0 ∨
      (Kube.dispatch isPrint cs inp).confidence = .fin (1 / 2) := by
  cases hread : Kube.apiError cs (Kube.parseQuestion inp) with
  | some err =>
      left
      rw [Kube.dispatch, Kube.dispatchQuery_of_error isPrint hread]
      rfl
  | none =>
      right
      obtain ⟨-, hconfidence, -⟩ := Kube.dispatchQuery_of_read isPrint hread
      have hkind := ((Kube.suggestedFollowups_of_read hconfidence).mp h).1
      rw [Kube.dispatch, hconfidence, Kube.readConfidence_of_ne hkind]

theorem ReadAs.of_kube {f : AlphE.Finding} {env : CollectEnv} {inp : Collectors.CollectorInput}
    {dr : Kube.DispatchResult} {ref : Collectors.EvidenceRef}
    (h : ReadAs f (Kube.answer env inp dr ref).finding) :
    f.collectorName = "kube" ∧ .fin f.confidence.val = dr.confidence ∧
      Kube.suggestedFollowups inp dr ≠ none :=
  ⟨h.collectorName, h.confidence, h.suggestedFollowups⟩

/-- The only answers that are read are some of the kube collector. -/
theorem fromCluster_of_succeeded {dump : DateTime → String} {calls : List ServedCall}
    (hdistinct : DistinctIds calls) {f : AlphE.Finding} (h : Succeeded dump calls f) :
    FromCluster dump calls f := by
  obtain ⟨r, hr, hanswer⟩ := h
  have hstored : ∃ r ∈ calls, AnsweredBy dump r f ∧ (Stored calls f.evidenceId ↔ r.Persists) :=
    ⟨r, hr, hanswer, hanswer.stored_iff hdistinct hr⟩
  obtain ⟨-, parse, output, hvalid, rfl⟩ := hanswer.read
  have hread := readAs_of_answer hvalid
  cases hcollector : r.collector with
  | prom client =>
      rw [hcollector] at hread
      exact absurd rfl hread.suggestedFollowups
  | loki unmarshal client =>
      rw [hcollector] at hread
      exact absurd rfl hread.suggestedFollowups
  | kube cs =>
      rw [hcollector] at hread
      obtain ⟨hname, hconfidence, hfollowups⟩ := hread.of_kube
      refine ⟨hname, hstored, ?_⟩
      obtain hzero | hhalf :=
        confidence_of_suggestedFollowups r.env.put.fmt.isPrint cs r.input hfollowups
      · left
        exact Go.Float64.fin.inj (hconfidence.trans hzero)
      · right
        exact Go.Float64.fin.inj (hconfidence.trans hhalf)
  | degraded kubeErr =>
      rw [hcollector] at hread
      refine ⟨hread.collectorName, hstored, .inl ?_⟩
      exact Go.Float64.fin.inj hread.confidence

/-! ### Every findings list of a run -/

/-- A finding that stands for no answer. -/
structure Unanswered (f : AlphE.Finding) : Prop where
  evidenceId : f.evidenceId = ""
  confidence : f.confidence.val = 0

/-- **What an incident gets to know.** In every run from the seed of an alert, with the
collectors of this repository behind the graph, every finding stands for no answer, or it is
the kube collector's, with its evidence in the object store if that collector has one, and a
confidence of at most one half: no metric, no log line and no deployment is ever among them. -/
theorem seedRun_findings {κ ν : Type} {dump : DateTime → String} {calls : List ServedCall}
    (A : Agents κ ν) (hdistinct : DistinctIds calls)
    (hcollectors : ∀ before, RealCollectors dump calls (A.world.toWorld.collectorsEnv before))
    (env : Intake.IntakeEnv) (alert : Intake.AlertmanagerAlert) (receiver : String)
    (limit : ℕ) :
    let start := entry (Intake.seedIncident env alert receiver)
    ∀ c ∈ (A.world.run limit [] start).journal start, ∀ f ∈ c.state.findings,
      Unanswered f ∨ FromCluster dump calls f := by
  intro start c hc f hf
  have hgathered := @gathered_run _ _ _ _ _ hcollectors limit [] start (fun f hf => by cases hf)
    c hc f hf
  obtain hsucceeded | hfailed := hgathered
  · exact .inr (fromCluster_of_succeeded hdistinct hsucceeded)
  · obtain ⟨http, input, name, reason, rfl⟩ := hfailed
    exact .inl ⟨rfl, rfl⟩

/-! ### A collector that answers -/

/-- The request of the one hypothesis, as the collector reads it. -/
def podlessInput : Collectors.CollectorInput :=
  received (collectorInput (timedOutWorld.world.toWorld.collectorsEnv [])
    (timedOutWorld.world.tick [.intake] (timedOutWorld.world.accept [] testIncident))
    (Coordinator.testHypothesis .open))

/-- The kube collector has an object store, and finds no pods. -/
def podlessCall : ServedCall where
  collector := .kube testClientset
  env := testMinioEnv
  input := podlessInput
  valid := by decide
  uuid := by decide

/-- The LLM asks about one hypothesis; no other request is answered. -/
def podlessWorld : Agents Unit Unit :=
  { timedOutWorld with
    dispatch := fun n name input =>
      if decodeCollectorInput (dumpCollectorInput testDump input) = some podlessCall.input then
        exchange Dispatch.testHttp testDump name podlessCall.collector podlessCall.env [] input
      else timedOutWorld.dispatch n name input }

theorem distinctIds_podlessCall : DistinctIds [podlessCall] := by
  intro r hr r' hr' _
  rw [List.mem_singleton.mp hr, List.mem_singleton.mp hr']

theorem realCollectors_podless (before : List Node) :
    RealCollectors testDump [podlessCall] (podlessWorld.world.toWorld.collectorsEnv before) where
  dispatched name input := by
    by_cases hinput : decodeCollectorInput (dumpCollectorInput testDump input) =
        some podlessCall.input
    · refine ⟨Dispatch.testHttp, .response _ _, .inr ⟨podlessCall, List.mem_singleton_self _, [],
        hinput, rfl⟩, ?_⟩
      exact if_pos hinput
    · exact ⟨_, .timeout "ReadTimeout", trivial, if_neg hinput⟩
  cached name input f h := by cases h

/-- The evidence of the answer is in the bucket. -/
theorem seedRun_findings_podless :
    (∃ c ∈ (podlessWorld.world.run recursionLimit [] (entry testIncident)).journal
        (entry testIncident), ∃ f ∈ c.state.findings,
          ((bucketAfter "incidents" [podlessCall]).blobs f.evidenceId).isSome) ∧
      ∀ c ∈ (podlessWorld.world.run recursionLimit [] (entry testIncident)).journal
          (entry testIncident),
        ∀ f ∈ c.state.findings, Unanswered f ∨ FromCluster testDump [podlessCall] f :=
  ⟨by decide +kernel,
    seedRun_findings podlessWorld distinctIds_podlessCall realCollectors_podless testIntake
      testAlert "default" recursionLimit⟩

end AlphE.Orchestrator
