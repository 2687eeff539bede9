import AlphE.Orchestrator.Audit
import AlphE.Evidence.Shared

/-!
The rule that a PR body cites evidence, on the findings that a run can gather. A finding is
an accepted answer of a collector, or it stands for an answer that never came. An answer
names the evidence that its collector has handed to its writer; whether there is anything
behind the name is up to that writer, which may be the stand-in. A finding without an
answer names nothing.
-/

namespace AlphE.Orchestrator

open Nodes Collectors Dispatch Evidence Validation Validated

/-! ### What the collectors have stored -/

/-- A request that a collector has served, and what it met. A `uuid.New().String()` has 36
characters. -/
structure ServedCall where
  collector : Collector
  env : CollectEnv
  input : Collectors.CollectorInput
  valid : input.validate = none
  uuid : env.put.uuid.toList.length = 36

namespace ServedCall

/-- The id of its evidence. -/
def evidenceId (r : ServedCall) : String := newEvidenceId r.env.put.uuid

/-- What it leaves in a bucket. -/
def store (bucket : String) (s : Store) (r : ServedCall) : Store :=
  storePut r.env.writer r.env.put (r.collector.putRequest r.env.put.fmt r.input) bucket s

/-- Its collector has an object store, and not the stand-in. -/
def Persists (r : ServedCall) : Prop := ∃ bucket, StoresIn r.env.writer bucket

end ServedCall

/-- A bucket after the calls. -/
def bucketAfter (bucket : String) (calls : List ServedCall) : Store :=
  calls.foldl (ServedCall.store bucket) Store.empty

/-- Some bucket holds an object under the id. -/
def Stored (calls : List ServedCall) (evidenceId : String) : Prop :=
  ∃ bucket, (bucketAfter bucket calls).blobs evidenceId ≠ none

/-- No id is drawn twice. -/
def DistinctIds (calls : List ServedCall) : Prop :=
  ∀ r ∈ calls, ∀ r' ∈ calls, r.evidenceId = r'.evidenceId → r = r'

section Stored

variable {calls : List ServedCall} {r : ServedCall}

theorem blobs_store_ne_none_iff (bucket : String) (s : Store) (id : String) :
    (r.store bucket s).blobs id ≠ none ↔
      s.blobs id ≠ none ∨
        r.evidenceId = id ∧ StoresIn r.env.writer bucket ∧
          ¬ r.env.writer.Refuses r.env.put := by
  have hreq := error_putRequest r.valid r.collector r.env.put.fmt
  cases hwriter : r.env.writer with
  | null w =>
      have hnot : ¬ StoresIn (.null w) bucket := by rintro ⟨_, ⟨⟩, _⟩
      rw [ServedCall.store, hwriter]
      exact ⟨.inl, fun h => h.resolve_right fun h => hnot h.2.1⟩
  | minio w =>
      have hstores : StoresIn (.minio w) bucket ↔ w.bucket = bucket := by
        constructor
        · rintro ⟨_, ⟨⟩, h⟩
          exact h
        · exact fun h => ⟨w, rfl, h⟩
      have hrefuses : ¬ (Writer.minio w).Refuses r.env.put ↔ r.env.put.putObject = none :=
        not_ne_iff
      rw [ServedCall.store, hwriter, storePut, hstores, hrefuses]
      by_cases hput : r.env.put.putObject = none ∧ w.bucket = bucket
      · rw [if_pos ⟨hreq, hput⟩]
        by_cases hid : r.evidenceId = id
        · refine iff_of_true ?_ (.inr ⟨hid, hput.2, hput.1⟩)
          rw [← hid, ServedCall.evidenceId, blobs_putObject_self]
          exact Option.some_ne_none _
        · rw [blobs_putObject_of_ne _ (Ne.symm hid : id ≠ newEvidenceId r.env.put.uuid)]
          exact ⟨.inl, fun h => h.resolve_right fun h => hid h.1⟩
      · rw [if_neg fun h => hput h.2]
        exact ⟨.inl, fun h => h.resolve_right fun h => hput ⟨h.2.2, h.2.1⟩⟩

/-- What is in a bucket was put there by one of the calls. The induction is on the last
call. -/
theorem blobs_bucketAfter_ne_none_iff (bucket : String) (calls : List ServedCall)
    (id : String) :
    (bucketAfter bucket calls).blobs id ≠ none ↔
      ∃ r ∈ calls, r.evidenceId = id ∧ StoresIn r.env.writer bucket ∧
        ¬ r.env.writer.Refuses r.env.put := by
  induction calls using List.reverseRecOn with
  | nil => exact iff_of_false (not_not_intro rfl) (by simp)
  | append_singleton calls r ih =>
      have hstep : bucketAfter bucket (calls ++ [r]) = r.store bucket (bucketAfter bucket calls) :=
        List.foldl_append
      rw [hstep, blobs_store_ne_none_iff, ih]
      simp only [List.mem_append, List.mem_singleton, or_and_right, exists_or, exists_eq_left]

/-- A call that was not refused has stored its evidence exactly when its collector has an
object store. -/
theorem stored_evidenceId_iff (hdistinct : DistinctIds calls) (hr : r ∈ calls)
    (hput : ¬ r.env.writer.Refuses r.env.put) :
    Stored calls r.evidenceId ↔ r.Persists := by
  constructor
  · rintro ⟨bucket, hblob⟩
    obtain ⟨r', hr', hid, hstores, -⟩ := (blobs_bucketAfter_ne_none_iff _ _ _).mp hblob
    obtain rfl := hdistinct r' hr' r hr hid
    exact ⟨bucket, hstores⟩
  · rintro ⟨bucket, hstores⟩
    exact ⟨bucket, (blobs_bucketAfter_ne_none_iff _ _ _).mpr ⟨r, hr, rfl, hstores, hput⟩⟩

theorem evidenceId_ne_empty (r : ServedCall) : r.evidenceId ≠ "" :=
  newEvidenceId_ne_empty r.env.put.uuid

theorem length_evidenceId (r : ServedCall) : r.evidenceId.toList.length = 15 := by
  have hdrawn : (PyText.takeChars 12 r.env.put.uuid).toList.length = 12 := by
    rw [PyText.takeChars, String.toList_ofList, List.length_take, r.uuid]
    rfl
  rw [ServedCall.evidenceId, newEvidenceId, String.toList_append, List.length_append, hdrawn]
  rfl

end Stored

/-! ### Where findings come from -/

section Gathered

variable (dump : DateTime → String)

/-- The finding is the accepted answer of the call. -/
def AnsweredBy (r : ServedCall) (f : Finding) : Prop :=
  ∃ (http : HttpEnv) (name : String) (input : CollectorInput) (err : Go.GoString)
    (output : CollectorOutput),
    decodeCollectorInput (dumpCollectorInput dump input) = some r.input ∧
      exchange http dump name r.collector r.env err input = .inl output ∧ output.finding = f

variable (calls : List ServedCall)

/-- A reply to a request: a failure of any kind, or what the collector that has served it
answers. -/
def RepliesTo (input : CollectorInput) : Reply → Prop
  | .timeout _ => True
  | .httpError _ => True
  | .response status body =>
      isSuccess status = false ∨
        ∃ r ∈ calls, ∃ err, decodeCollectorInput (dumpCollectorInput dump input) = some r.input ∧
          post r.collector r.env err (dumpCollectorInput dump input) =
            { status := status, body := body }

/-- The finding of an answer that was accepted. -/
def Succeeded (f : Finding) : Prop := ∃ r ∈ calls, AnsweredBy dump r f

/-- The finding that stands for an answer that never came. -/
def Failed (f : Finding) : Prop :=
  ∃ (http : HttpEnv) (input : CollectorInput) (name reason : String),
    failureFinding http input name reason = f

/-- The Collectors node talks to the collectors of this repository, and what it finds in its
cache are answers of theirs: of the calls they have served. -/
structure RealCollectors (env : CollectorsEnv) : Prop where
  dispatched : ∀ name input, ∃ http reply, RepliesTo dump calls input reply ∧
    env.dispatch name input = dispatch http name input reply
  cached : ∀ name input f, env.cacheGet name input = some f → Succeeded dump calls f

/-- The answer of a collector with an object store. -/
def Backed (f : Finding) : Prop := ∃ r ∈ calls, AnsweredBy dump r f ∧ r.Persists

/-- No answer, or one of a collector that only pretends to store. -/
def Unbacked (f : Finding) : Prop :=
  Failed f ∨ ∃ r ∈ calls, AnsweredBy dump r f ∧ ¬ r.Persists

variable {dump} {calls}

/-! ### A success names its blob -/

/-- Behind an accepted answer its collector has handed over the evidence, and the answer
was read. -/
theorem AnsweredBy.read {r : ServedCall} {f : Finding} (h : AnsweredBy dump r f) :
    ¬ r.env.writer.Refuses r.env.put ∧
      ∃ parse output, modelValidateJson parse (r.collector.answer r.env r.input).encode =
        .valid output ∧ output.finding = f := by
  obtain ⟨http, name, input, err, output, hdecode, hexchange, hfinding⟩ := h
  simp only [exchange, post, hdecode, dispatch] at hexchange
  split at hexchange
  · cases hexchange
  · next hsuccess =>
      simp only [handleCollect, r.valid] at hsuccess hexchange
      cases hcollect : r.collector.collect r.env r.input with
      | error err =>
          rw [hcollect] at hsuccess
          exact absurd (show (!isSuccess 500) = true from rfl) hsuccess
      | ok out =>
          obtain ⟨hput, rfl⟩ := (r.collector.collect_eq_ok_iff r.valid out).mp hcollect
          rw [hcollect] at hexchange
          dsimp only at hexchange
          split at hexchange
          · next hvalid =>
              cases hexchange
              exact ⟨hput, http.parse, output, hvalid, hfinding⟩
          · cases hexchange

theorem AnsweredBy.evidenceId {r : ServedCall} {f : Finding} (h : AnsweredBy dump r f) :
    f.evidenceId = r.evidenceId := by
  obtain ⟨-, parse, output, hvalid, rfl⟩ := h.read
  rw [(sameReference_of_valid hvalid).findingId]
  exact (evidence_answer r.collector r.env r.input).2

/-- An answer refers to something stored exactly when its collector has an object store. -/
theorem AnsweredBy.stored_iff (hdistinct : DistinctIds calls) {r : ServedCall} (hr : r ∈ calls)
    {f : Finding} (h : AnsweredBy dump r f) : Stored calls f.evidenceId ↔ r.Persists := by
  rw [h.evidenceId]
  exact stored_evidenceId_iff hdistinct hr h.read.1

/-- What a dispatch returns instead of an answer is a failure finding. -/
theorem failed_of_dispatch {http : HttpEnv} {name : String} {input : CollectorInput}
    {reply : Reply} {f : Finding} (h : dispatch http name input reply = .inr f) : Failed f := by
  cases reply with
  | timeout exc => exact ⟨http, input, name, _, Sum.inr.inj h⟩
  | httpError exc => exact ⟨http, input, name, _, Sum.inr.inj h⟩
  | response status body =>
      rw [dispatch] at h
      split at h
      · exact ⟨http, input, name, _, Sum.inr.inj h⟩
      · split at h
        · cases h
        · exact ⟨http, input, name, _, Sum.inr.inj h⟩

theorem evidenceId_of_failed {f : Finding} (h : Failed f) : f.evidenceId = "" := by
  obtain ⟨http, input, name, reason, rfl⟩ := h
  rfl

/-- The findings that a Collectors node can come by. -/
def Gathered (dump : DateTime → String) (calls : List ServedCall) (f : Finding) : Prop :=
  Succeeded dump calls f ∨ Failed f

/-- A gathered finding is backed by evidence or it is not. -/
theorem Gathered.cases {f : Finding} (h : Gathered dump calls f) :
    Backed dump calls f ∨ Unbacked dump calls f := by
  obtain ⟨r, hr, hanswer⟩ | hfailed := h
  · by_cases hpersists : r.Persists
    · exact .inl ⟨r, hr, hanswer, hpersists⟩
    · exact .inr (.inr ⟨r, hr, hanswer, hpersists⟩)
  · exact .inr (.inl hfailed)

/-- The findings that refer to stored evidence are the backed ones. -/
theorem Gathered.backed_iff (hdistinct : DistinctIds calls) {f : Finding}
    (h : Gathered dump calls f) :
    Backed dump calls f ↔ f.evidenceId ≠ "" ∧ Stored calls f.evidenceId := by
  constructor
  · rintro ⟨r, hr, hanswer, hpersists⟩
    refine ⟨?_, (hanswer.stored_iff hdistinct hr).mpr hpersists⟩
    rw [hanswer.evidenceId]
    exact evidenceId_ne_empty r
  · rintro ⟨hne, hstored⟩
    obtain ⟨r, hr, hanswer⟩ | hfailed := h
    · exact ⟨r, hr, hanswer, (hanswer.stored_iff hdistinct hr).mp hstored⟩
    · exact absurd (evidenceId_of_failed hfailed) hne

theorem gathered_obtainFinding {env : CollectorsEnv} (henv : RealCollectors dump calls env)
    (name : String) (input : CollectorInput) :
    Gathered dump calls (obtainFinding env name input).1 := by
  rw [obtainFinding]
  cases hcache : env.cacheGet name input with
  | some f => exact .inl (henv.cached name input f hcache)
  | none =>
      obtain ⟨http, reply, hreply, hdispatch⟩ := henv.dispatched name input
      cases hresult : dispatch http name input reply with
      | inr f =>
          simp only [hdispatch, hresult]
          exact .inr (failed_of_dispatch hresult)
      | inl output =>
          simp only [hdispatch, hresult]
          left
          cases reply with
          | timeout exc => cases hresult
          | httpError exc => cases hresult
          | response status body =>
              obtain hfailure | ⟨r, hr, err, hdecode, hpost⟩ := hreply
              · rw [dispatch, hfailure] at hresult
                cases hresult
              · refine ⟨r, hr, http, name, input, err, output, hdecode, ?_, rfl⟩
                rw [exchange, hpost]
                exact hresult

end Gathered

/-! ### Every findings list of a run -/

section Runs

variable {κ ν : Type} {dump : DateTime → String} {calls : List ServedCall} {A : Agents κ ν}
  (henv : ∀ before, RealCollectors dump calls (A.world.toWorld.collectorsEnv before))

include henv

theorem gathered_collectorsNode (before : List Node) {s : IncidentState}
    (h : ∀ f ∈ s.findings, Gathered dump calls f) :
    ∀ f ∈ (s.merge (collectorsNode (A.world.toWorld.collectorsEnv before) s)).findings,
      Gathered dump calls f := by
  unfold collectorsNode
  split
  · exact h
  · next focus _ =>
      let input := collectorInput (A.world.toWorld.collectorsEnv before) s focus
      have hnew := gathered_obtainFinding (henv before)
        (selectCollector (A.world.toWorld.collectorsEnv before).lower focus.text) input
      intro f hf
      change f ∈ (if _ then s.findings else s.findings ++ [_]) at hf
      split at hf
      · exact h f hf
      · rcases List.mem_append.mp hf with hf | hf
        · exact h f hf
        · obtain rfl := List.mem_singleton.mp hf
          exact hnew

/-- One step: the node of the collectors adds a gathered finding, the others
add none. -/
theorem gathered_update {before : List Node} {v : Node} {s : IncidentState} {u : StateUpdate}
    (hu : A.world.update before v s = .ok u) (h : ∀ f ∈ s.findings, Gathered dump calls f) :
    ∀ f ∈ (s.merge u).findings, Gathered dump calls f := by
  by_cases hv : v = .collectors
  · subst hv
    cases A.world.toWorld_update_of_ok hu
    exact gathered_collectorsNode henv before h
  · rw [((audited_update A hu).ofCollectors hv).1]
    exact h

/-- Whatever a run reaches, its findings are gathered ones. -/
theorem gathered_run (limit : ℕ) (before : List Node) {c₀ : Config Node IncidentState}
    (h₀ : ∀ f ∈ c₀.state.findings, Gathered dump calls f) :
    ∀ c ∈ (A.world.run limit before c₀).journal c₀,
      ∀ f ∈ c.state.findings, Gathered dump calls f := by
  have hchain : Workflow.Chain (fun _ _ (c' : Config Node IncidentState) =>
      ∀ f ∈ c'.state.findings, Gathered dump calls f) c₀ (A.world.run limit before c₀).commits := by
    apply Workflow.run_chain
      (P := fun c : Config Node IncidentState => ∀ f ∈ c.state.findings, Gathered dump calls f)
    · intro before v s s' hs hexec
      obtain ⟨u, hu, rfl⟩ := graph_exec_eq_ok hexec
      have hnext := gathered_update henv hu hs
      exact ⟨hnext, hnext⟩
    · exact h₀
  intro c hc
  rw [Workflow.Run.journal, List.mem_cons, List.mem_map] at hc
  rcases hc with rfl | ⟨p, hp, rfl⟩
  · exact h₀
  · exact hchain.invariant (P := fun c => ∀ f ∈ c.state.findings, Gathered dump calls f)
      (fun _ _ _ hc' _ => hc') h₀ p hp

end Runs

/-! ### The rule -/

/-- The rule lets a proposal pass only if its PR body cites stored evidence. -/
def DemandsEvidence (calls : List ServedCall) (isprintable : Char → Bool)
    (findings : List Finding) (proposal : FixProposal) : Prop :=
  checkPrBodyEvidence isprintable proposal findings = none →
    ∃ f ∈ findings, f.evidenceId ≠ "" ∧ Stored calls f.evidenceId ∧
      PyText.occursIn f.evidenceId proposal.prBody = true

/-- With a finding that is not backed and whose id stands in the body, there is one that is
backed and has its id there, too. -/
def CitesBacked (dump : DateTime → String) (calls : List ServedCall) (findings : List Finding)
    (prBody : String) : Prop :=
  (∃ f ∈ findings, Unbacked dump calls f ∧ PyText.occursIn f.evidenceId prBody = true) →
    ∃ f ∈ findings, Backed dump calls f ∧ PyText.occursIn f.evidenceId prBody = true

section Rule

variable {dump : DateTime → String} {calls : List ServedCall} {isprintable : Char → Bool}
  {findings : List Finding} (hdistinct : DistinctIds calls)
  (hgathered : ∀ f ∈ findings, Gathered dump calls f)

include hdistinct hgathered

/-- The empty id occurs in every body, and the id of a stand-in where it is cited. -/
theorem demandsEvidence_iff (proposal : FixProposal) :
    DemandsEvidence calls isprintable findings proposal ↔
      CitesBacked dump calls findings proposal.prBody := by
  rw [DemandsEvidence, checkPrBodyEvidence_eq_none_iff]
  constructor
  · rintro h ⟨f, hf, -, hcited⟩
    obtain ⟨g, hg, hne, hstored, hcited'⟩ := h ⟨f, hf, hcited⟩
    exact ⟨g, hg, ((hgathered g hg).backed_iff hdistinct).mpr ⟨hne, hstored⟩, hcited'⟩
  · rintro h ⟨f, hf, hcited⟩
    have hreal : ∃ g ∈ findings, Backed dump calls g ∧
        PyText.occursIn g.evidenceId proposal.prBody = true := by
      obtain hbacked | hunbacked := (hgathered f hf).cases
      · exact ⟨f, hf, hbacked, hcited⟩
      · exact h ⟨f, hf, hunbacked, hcited⟩
    obtain ⟨g, hg, hbacked, hcited'⟩ := hreal
    obtain ⟨hne, hstored⟩ := ((hgathered g hg).backed_iff hdistinct).mp hbacked
    exact ⟨g, hg, hne, hstored, hcited'⟩

omit hgathered in
/-- All ids have one length, so that none is a part of another. -/
theorem eq_of_occursIn_evidenceId {r r' : ServedCall} (hr : r ∈ calls) (hr' : r' ∈ calls)
    (h : PyText.occursIn r.evidenceId r'.evidenceId = true) : r = r' := by
  rw [PyText.occursIn_iff] at h
  have hlength := (length_evidenceId r).trans (length_evidenceId r').symm
  exact hdistinct r hr r' hr' (String.toList_inj.mp (h.eq_of_length hlength))

/-- With a finding that is not backed, a body that cites nothing else passes. -/
theorem forall_demandsEvidence_iff :
    (∀ proposal, DemandsEvidence calls isprintable findings proposal) ↔
      ∀ f ∈ findings, ¬ Unbacked dump calls f := by
  simp only [demandsEvidence_iff hdistinct hgathered]
  constructor
  · intro h f hf hunbacked
    let proposal : FixProposal :=
      { id := "", planId := "", branchName := "", changes := [], commitMessage := "",
        prBody := f.evidenceId }
    obtain ⟨g, -, ⟨r, hr, hanswer, hpersists⟩, hcited⟩ :=
      h proposal ⟨f, hf, hunbacked, PyText.occursIn_self f.evidenceId⟩
    rw [hanswer.evidenceId] at hcited
    obtain hfailed | ⟨r', hr', hanswer', hpretends⟩ := hunbacked
    · have hcited : PyText.occursIn r.evidenceId f.evidenceId = true := hcited
      rw [evidenceId_of_failed hfailed] at hcited
      exact evidenceId_ne_empty r (PyText.eq_empty_of_occursIn hcited)
    · have hcited : PyText.occursIn r.evidenceId f.evidenceId = true := hcited
      rw [hanswer'.evidenceId] at hcited
      obtain rfl := eq_of_occursIn_evidenceId hdistinct hr hr' hcited
      exact hpretends hpersists
  · rintro h proposal ⟨f, hf, hunbacked, -⟩
    exact absurd hunbacked (h f hf)

end Rule

/-- **When the evidence rule demands evidence.** In every run from the seed of an alert, with
collectors that answer or fail in any way and store or only pretend to, the rule demands
stored evidence of a proposal exactly when, in the case that its body has the id of a
finding without evidence (the empty id of a failure always is there), it also has the id of
one with evidence; and of all proposals exactly when every finding is backed. -/
theorem seedRun_demandsEvidence_iff {κ ν : Type} {dump : DateTime → String}
    {calls : List ServedCall} (A : Agents κ ν) (hdistinct : DistinctIds calls)
    (henv : ∀ before, RealCollectors dump calls (A.world.toWorld.collectorsEnv before))
    (env : Intake.IntakeEnv) (alert : Intake.AlertmanagerAlert) (receiver : String)
    (limit : ℕ) (isprintable : Char → Bool) :
    let start := entry (Intake.seedIncident env alert receiver)
    ∀ c ∈ (A.world.run limit [] start).journal start,
      (∀ proposal, DemandsEvidence calls isprintable c.state.findings proposal ↔
        CitesBacked dump calls c.state.findings proposal.prBody) ∧
      ((∀ proposal, DemandsEvidence calls isprintable c.state.findings proposal) ↔
        ∀ f ∈ c.state.findings, ¬ Unbacked dump calls f) := by
  intro start c hc
  have hgathered := @gathered_run _ _ _ _ _ henv limit [] start (fun f hf => by cases hf) c hc
  exact ⟨demandsEvidence_iff hdistinct hgathered, forall_demandsEvidence_iff hdistinct hgathered⟩

/-! ### Collectors that do not answer -/

/-- The LLM asks about one hypothesis, and every collector times out. -/
def timedOutWorld : Agents Unit Unit :=
  { pullRequestWorld with
    investigatorAnswer := fun _ =>
      { hypotheses := [Coordinator.testHypothesis .open]
        currentFocusHypothesisId := "hyp_1"
        reasoning := "The heap may grow without bound." }
    dispatch := fun _ name input =>
      dispatch
        { now := testNow, parse := fun _ => none, isprintable := fun _ => true,
          text := fun _ => "", formatErrors := fun _ => "" }
        name input (.timeout "ReadTimeout") }

theorem distinctIds_nil : DistinctIds [] := by
  intro r hr
  cases hr

/-- Then no collector has served a call. -/
theorem realCollectors_timedOut (before : List Node) :
    RealCollectors (fun _ => "") [] (timedOutWorld.world.toWorld.collectorsEnv before) where
  dispatched name input := ⟨_, .timeout "ReadTimeout", trivial, rfl⟩
  cached name input f h := by cases h

/-- The state after the first dispatch. -/
def timedOutState : IncidentState :=
  timedOutWorld.world.collect [.intake, .investigator]
    (timedOutWorld.world.tick [.intake] (timedOutWorld.world.accept [] testIncident))

theorem timedOutState_mem_journal :
    ⟨timedOutState, some .investigator⟩ ∈
      (timedOutWorld.world.run recursionLimit [] (entry testIncident)).journal
        (entry testIncident) := by
  have hroute : routeAfterInvestigator (timedOutWorld.world.tick [.intake]
      (timedOutWorld.world.accept [] testIncident)) = .collectors := by
    decide
  apply List.mem_cons_of_mem
  rw [entry, recursionLimit, Fallible.run_intake, Fallible.run_tick _ _ _ _ rfl,
    List.nil_append, hroute, List.singleton_append, Fallible.run_collect]
  simp only [Workflow.Run.commits_cons, List.map_cons]
  exact List.mem_cons_of_mem _ (List.mem_cons_of_mem _ List.mem_cons_self)

/-- All that was found is that a collector did not answer. -/
theorem timedOutState_evidenceIds :
    timedOutState.findings.map Finding.evidenceId = [""] := by
  decide

theorem seedRun_demandsEvidence_iff_timedOut :
    (∀ proposal, DemandsEvidence [] (fun _ => true) timedOutState.findings proposal ↔
      CitesBacked (fun _ => "") [] timedOutState.findings proposal.prBody) ∧
    ((∀ proposal, DemandsEvidence [] (fun _ => true) timedOutState.findings proposal) ↔
      ∀ f ∈ timedOutState.findings, ¬ Unbacked (fun _ => "") [] f) :=
  seedRun_demandsEvidence_iff timedOutWorld distinctIds_nil realCollectors_timedOut testIntake
    testAlert "default" recursionLimit (fun _ => true) _ timedOutState_mem_journal

/-- Every proposal passes the rule then. -/
theorem not_seedRun_demandsEvidence :
    ¬ ∀ (A : Agents Unit Unit) (calls : List ServedCall), DistinctIds calls →
      (∀ before, RealCollectors (fun _ => "") calls (A.world.toWorld.collectorsEnv before)) →
      ∀ c ∈ (A.world.run recursionLimit [] (entry testIncident)).journal (entry testIncident),
      ∀ proposal, DemandsEvidence calls (fun _ => true) c.state.findings proposal := by
  intro h
  have hdemands := h timedOutWorld [] distinctIds_nil realCollectors_timedOut _
    timedOutState_mem_journal
    { id := "prop_1", planId := "plan_1", branchName := "alph-e/inc_1", changes := [],
      commitMessage := "fix: cap the allocator (hyp_1)", prBody := "Caps the allocator." }
  obtain ⟨f, hf, hne, -, -⟩ := hdemands (by decide)
  have hempty : ∀ id ∈ timedOutState.findings.map Finding.evidenceId, id = "" := by
    rw [timedOutState_evidenceIds]
    simp
  exact hne (hempty _ (List.mem_map_of_mem hf))

end AlphE.Orchestrator
