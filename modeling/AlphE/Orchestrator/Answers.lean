import AlphE.Orchestrator.Focus
import AlphE.Dispatch.Redispatch
import AlphE.Lib.FirstWins

/-!
Whether an answer of a collector is lost. A finding is merged unless its id is taken.
The id of a failed dispatch names the hypothesis and the collector, and nothing of what
went wrong: the second failure of a question is taken for the first one.
-/

namespace AlphE.Orchestrator

open Nodes Dispatch Operations

/-! ### What a collector answers -/

/-- A finding, but for when it was made. -/
def content (f : Finding) : Finding := { f with createdAt := .utc 0 }

/-- A dispatch that failed, and why. -/
structure Failure where
  env : HttpEnv
  payload : CollectorInput
  collectorName : String
  known : collectorName ∈ collectorNames
  reason : String

def Failure.finding (f : Failure) : Finding :=
  failureFinding f.env f.payload f.collectorName f.reason

inductive Answer
  | success (output : CollectorOutput)
  | cached (finding : Finding)
  | failure (f : Failure)

/-- The finding the node obtains. -/
def Answer.finding : Answer → Finding
  | .success output => output.finding
  | .cached finding => finding
  | .failure f => f.finding

/-- What a reply holds, or the reason why it is no answer. -/
def outcome (http : HttpEnv) : Reply → CollectorOutput ⊕ String
  | .timeout exc => .inr ("timeout after 30s: " ++ exc)
  | .httpError exc => .inr ("HTTP error: " ++ exc)
  | .response status body =>
      if !isSuccess status then
        .inr ("non-200 status " ++ toString status ++ ": " ++
          PyText.takeChars 200 (http.text body))
      else
        match modelValidateJson http.parse body with
        | .valid output => .inl output
        | .invalid errors => .inr ("response parse error: " ++ http.formatErrors errors)

theorem dispatch_eq (http : HttpEnv) (collectorName : String) (payload : CollectorInput)
    (reply : Reply) :
    dispatch http collectorName payload reply =
      (outcome http reply).map id (failureFinding http payload collectorName) := by
  cases reply with
  | timeout exc => rfl
  | httpError exc => rfl
  | response status body =>
      rw [dispatch, outcome]
      cases isSuccess status with
      | false => rfl
      | true => cases modelValidateJson http.parse body <;> rfl

/-! ### The ids of failures -/

theorem length_of_mem_collectorNames {name : String} (h : name ∈ collectorNames) :
    name.toList.length = 4 := by
  simp only [collectorNames, List.mem_cons, List.not_mem_nil, or_false] at h
  obtain rfl | rfl | rfl := h <;> rfl

theorem reprStr_of_mem_collectorNames {name : String} (h : name ∈ collectorNames)
    (p q : Char → Bool) : PyText.reprStr p name = PyText.reprStr q name := by
  simp only [collectorNames, List.mem_cons, List.not_mem_nil, or_false] at h
  obtain rfl | rfl | rfl := h <;> rfl

/-- The id of a failure says which hypothesis and which collector it was. -/
theorem Failure.id_eq_iff (f g : Failure) :
    f.finding.id = g.finding.id ↔
      f.payload.hypothesisId = g.payload.hypothesisId ∧ f.collectorName = g.collectorName := by
  constructor
  · intro h
    have hlist := congrArg String.toList h
    have hlength : f.collectorName.toList.length = g.collectorName.toList.length := by
      rw [length_of_mem_collectorNames f.known, length_of_mem_collectorNames g.known]
    simp only [Failure.finding, failureFinding, String.toList_append] at hlist
    obtain ⟨hfront, hname⟩ := List.append_inj' hlist hlength
    rw [List.append_left_inj, List.append_right_inj] at hfront
    exact ⟨String.toList_injective hfront, String.toList_injective hname⟩
  · rintro ⟨hhyp, hname⟩
    simp only [Failure.finding, failureFinding, hhyp, hname]

/-- What two failures under one id have in common. -/
theorem Failure.content_eq_iff {f g : Failure} (h : f.finding.id = g.finding.id) :
    content f.finding = content g.finding ↔
      f.payload.question = g.payload.question ∧ f.reason = g.reason := by
  obtain ⟨hhyp, hname⟩ := (f.id_eq_iff g).mp h
  have hrepr := reprStr_of_mem_collectorNames g.known f.env.isprintable g.env.isprintable
  simp only [content, Failure.finding, failureFinding, Finding.mk.injEq, hhyp, hname, hrepr,
    true_and, and_true, String.append_right_inj]

/-- The id of a failure is none of those that the collectors give. -/
theorem Failure.id_ne (f : Failure) (e : String) : f.finding.id ≠ "f_" ++ e := by
  intro h
  have hlist := congrArg String.toList h
  simp [Failure.finding, failureFinding] at hlist

/-! ### Rounds -/

/-- An incident that is investigated, and the tables of the cache. -/
structure Stage where
  state : IncidentState
  database : Database

/-- What happens to them: a node is run, or somebody else leaves the tables changed. -/
inductive Round
  | intake (now : DateTime)
  | investigator (now : DateTime) (answer : InvestigatorOutput)
  | collectors (faults : Faults) (env : CollectorsEnv) (http : HttpEnv) (reply : Reply)
  | tables (db : Database)

/-- The surroundings of the node whose request is replied to so. -/
def asked (env : CollectorsEnv) (http : HttpEnv) (reply : Reply) : CollectorsEnv :=
  { env with dispatch := fun collectorName payload => dispatch http collectorName payload reply }

section Rounds

variable (cacheEnv : CacheEnv)

def Round.apply (p : Stage) : Round → Stage
  | .intake now => { p with state := Tick.apply cacheEnv.sha256 p.state (.intake now) }
  | .investigator now answer =>
      { p with state := Tick.apply cacheEnv.sha256 p.state (.investigator now answer) }
  | .collectors faults env http reply =>
      let run := collectorsRun cacheEnv faults (asked env http reply) p.database p.state
      { state := p.state.merge run.update, database := run.database }
  | .tables db => { p with database := db }

/-- The tick of the investigation that a round is, if it is one. -/
def Round.tick (p : Stage) : Round → Option Tick
  | .intake now => some (.intake now)
  | .investigator now answer => some (.investigator now answer)
  | .collectors faults env http reply =>
      some (.collectors (withCache cacheEnv faults p.database (asked env http reply)))
  | .tables _ => none

/-- What the node is answered to the question of the focus. -/
def obtainAnswer (p : Stage) (faults : Faults) (env : CollectorsEnv) (http : HttpEnv)
    (reply : Reply) (focus : Hypothesis) : Answer :=
  let collectorName := selectCollector env.lower focus.text
  let input := collectorInput env p.state focus
  match (withCache cacheEnv faults p.database env).cacheGet collectorName input with
  | some finding => .cached finding
  | none =>
      match outcome http reply with
      | .inl output => .success output
      | .inr reason =>
          .failure
            { env := http, payload := input, collectorName := collectorName
              known := selectCollector_mem env.lower focus.text, reason := reason }

def Round.answer (p : Stage) : Round → Option Answer
  | .collectors faults env http reply =>
      (focusHypothesis p.state).map (obtainAnswer cacheEnv p faults env http reply)
  | .intake _ | .investigator _ _ | .tables _ => none

/-- The answers of a run, in order. -/
def answers (p : Stage) (rounds : List Round) : List Answer :=
  outputs (Round.apply cacheEnv) (Round.answer cacheEnv) p rounds

/-- **No answer is lost.** A finding whose id is taken says what the recorded one says,
and what was answered so far is all there. -/
structure LosesNothing (p : Stage) (rounds : List Round) : Prop where
  confirmed : ∀ before round after, rounds = before ++ round :: after →
    ∀ a, round.answer cacheEnv (before.foldl (Round.apply cacheEnv) p) = some a →
    ∀ f ∈ (before.foldl (Round.apply cacheEnv) p).state.findings, f.id = a.finding.id →
      content f = content a.finding
  held : ∀ before, before <+: rounds → ∀ a ∈ answers cacheEnv p before,
    ∃ f ∈ (before.foldl (Round.apply cacheEnv) p).state.findings,
      content f = content a.finding

end Rounds

/-- What the collectors have answered. -/
def successes (as : List Answer) : List Finding :=
  as.filterMap fun
    | .success output => some output.finding
    | .cached _ | .failure _ => none

/-- The ids of findings are made of fresh evidence ids. -/
structure FreshIds (fs : List Finding) : Prop where
  made : ∀ f ∈ fs, ∃ evidenceId, f.id = "f_" ++ evidenceId
  distinct : (fs.map Finding.id).Nodup

/-- Failures of one hypothesis at one collector have one question and one reason. -/
def OneReason (as : List Answer) : Prop :=
  ∀ f g, .failure f ∈ as → .failure g ∈ as →
    f.payload.hypothesisId = g.payload.hypothesisId → f.collectorName = g.collectorName →
    f.payload.question = g.payload.question ∧ f.reason = g.reason

/-- The rows hold findings of the list. -/
def Holds (cacheEnv : CacheEnv) (db : Database) (fs : List Finding) : Prop :=
  ∀ key row, db.row key = some row →
    ∃ f ∈ fs, row.findingJson = dumpFinding cacheEnv.text f

/-- The rows that others put into the tables hold what they were answered. -/
def Others (cacheEnv : CacheEnv) (elsewhere : List Finding) (p : Stage) (round : Round) :
    Prop :=
  ∀ db, round = .tables db → ∀ key row, db.row key = some row →
    p.database.row key = some row ∨
      ∃ f ∈ elsewhere, row.findingJson = dumpFinding cacheEnv.text f

/-! ### One round -/

section Round

variable {cacheEnv : CacheEnv} {p : Stage}

/-- The finding that is merged is the one of the answer. -/
theorem obtainFinding_eq (faults : Faults) (env : CollectorsEnv) (http : HttpEnv)
    (reply : Reply) (focus : Hypothesis) :
    (obtainFinding (withCache cacheEnv faults p.database (asked env http reply))
        (selectCollector env.lower focus.text) (collectorInput env p.state focus)).1 =
      (obtainAnswer cacheEnv p faults env http reply focus).finding := by
  have hcache : (withCache cacheEnv faults p.database (asked env http reply)).cacheGet =
      (withCache cacheEnv faults p.database env).cacheGet := rfl
  have hdispatch : (withCache cacheEnv faults p.database (asked env http reply)).dispatch
      (selectCollector env.lower focus.text) (collectorInput env p.state focus) =
      dispatch http (selectCollector env.lower focus.text) (collectorInput env p.state focus)
        reply := rfl
  simp only [obtainFinding, hcache, hdispatch, dispatch_eq, obtainAnswer]
  cases (withCache cacheEnv faults p.database env).cacheGet
      (selectCollector env.lower focus.text) (collectorInput env p.state focus) with
  | some finding => rfl
  | none => cases outcome http reply <;> rfl

theorem state_apply (p : Stage) (round : Round) :
    (round.apply cacheEnv p).state =
      (round.tick cacheEnv p).toList.foldl (Tick.apply cacheEnv.sha256) p.state := by
  cases round with
  | intake now => rfl
  | investigator now answer => rfl
  | tables db => rfl
  | collectors faults env http reply =>
      simp only [Round.apply, update_collectorsRun]
      rfl

theorem findings_apply (p : Stage) (round : Round) :
    (round.apply cacheEnv p).state.findings =
      (round.answer cacheEnv p).toList.foldl
        (fun fs a => FirstWins.add Finding.id fs a.finding) p.state.findings := by
  cases round with
  | intake now => rfl
  | tables db => rfl
  | investigator now answer =>
      rw [state_apply]
      simp only [Round.tick, Option.toList_some, List.foldl_cons, List.foldl_nil, Tick.apply,
        investigatorNode]
      split <;> rfl
  | collectors faults env http reply =>
      simp only [Round.apply, update_collectorsRun, Round.answer]
      cases hfocus : focusHypothesis p.state with
      | none =>
          simp only [collectorsNode, hfocus]
          rfl
      | some focus =>
          rw [Option.map_some, Option.toList_some, List.foldl_cons, List.foldl_nil,
            ← obtainFinding_eq, FirstWins.add]
          simp only [collectorsNode, hfocus]
          rfl

/-- What the cache answers says what some finding of the list says. -/
theorem Holds.content_of_cacheGet {db : Database} {fs : List Finding} (h : Holds cacheEnv db fs)
    {faults : Faults} {env : CollectorsEnv} {collectorName : String} {input : CollectorInput}
    {f : Finding}
    (hget : (withCache cacheEnv faults db env).cacheGet collectorName input = some f) :
    ∃ g ∈ fs, content f = content g := by
  obtain ⟨key, row, hrow, hvalid⟩ := row_of_cacheGet cacheEnv faults env db hget
  obtain ⟨g, hg, hjson⟩ := h key row hrow
  rw [hjson] at hvalid
  refine ⟨g, hg, ?_⟩
  rw [eq_of_finding_dumpFinding hvalid]
  rfl

/-- Where the answers of a round come from. -/
def Traceable (fs : List Finding) (a : Answer) : Prop :=
  (∃ f, a = .failure f) ∨ ∃ g ∈ fs, content a.finding = content g

/-- A cached answer is one that the cache gave. -/
theorem cacheGet_of_obtainAnswer {faults : Faults} {env : CollectorsEnv} {http : HttpEnv}
    {reply : Reply} {focus : Hypothesis} {f : Finding}
    (h : obtainAnswer cacheEnv p faults env http reply focus = .cached f) :
    (withCache cacheEnv faults p.database env).cacheGet (selectCollector env.lower focus.text)
      (collectorInput env p.state focus) = some f := by
  simp only [obtainAnswer] at h
  cases hget : (withCache cacheEnv faults p.database env).cacheGet
      (selectCollector env.lower focus.text) (collectorInput env p.state focus) with
  | some g =>
      simp only [hget, Answer.cached.injEq] at h
      rw [h]
  | none =>
      simp only [hget] at h
      cases houtcome : outcome http reply with
      | inl output => simp only [houtcome, reduceCtorEq] at h
      | inr reason => simp only [houtcome, reduceCtorEq] at h

theorem traceable_answer {fs : List Finding} (h : Holds cacheEnv p.database fs) {round : Round}
    {a : Answer} (ha : round.answer cacheEnv p = some a)
    (hsuccess : ∀ output, a = .success output → output.finding ∈ fs) : Traceable fs a := by
  cases a with
  | success output => exact .inr ⟨output.finding, hsuccess output rfl, rfl⟩
  | failure f => exact .inl ⟨f, rfl⟩
  | cached f =>
      right
      cases round with
      | intake now => cases ha
      | investigator now answer => cases ha
      | tables db => cases ha
      | collectors faults env http reply =>
          obtain ⟨focus, -, hobtain⟩ := Option.map_eq_some_iff.mp ha
          exact h.content_of_cacheGet (cacheGet_of_obtainAnswer hobtain)

theorem holds_apply {fs elsewhere : List Finding} (h : Holds cacheEnv p.database fs)
    (helsewhere : elsewhere ⊆ fs) {round : Round} (hothers : Others cacheEnv elsewhere p round)
    (hsuccess : ∀ output, round.answer cacheEnv p = some (.success output) →
      output.finding ∈ fs) : Holds cacheEnv (round.apply cacheEnv p).database fs := by
  intro key row hrow
  cases round with
  | intake now => exact h key row hrow
  | investigator now answer => exact h key row hrow
  | tables db =>
      obtain hold | ⟨f, hf, hjson⟩ := hothers db rfl key row hrow
      · exact h key row hold
      · exact ⟨f, helsewhere hf, hjson⟩
  | collectors faults env http reply =>
      simp only [Round.apply] at hrow
      obtain hsame | ⟨focus, output, hfocus, hget, hdispatch, hpersist⟩ :=
        database_collectorsRun cacheEnv faults (asked env http reply) p.database p.state
      · rw [hsame] at hrow
        exact h key row hrow
      · rw [hpersist] at hrow
        obtain hold | hjson := row_of_persist cacheEnv hrow
        · exact h key row hold
        · refine ⟨output.finding, hsuccess output ?_, hjson⟩
          have hmiss : (withCache cacheEnv faults p.database env).cacheGet
              (selectCollector env.lower focus.text) (collectorInput env p.state focus) =
              none := hget
          have houtcome : outcome http reply = .inl output := by
            simp only [asked, dispatch_eq] at hdispatch
            cases hout : outcome http reply with
            | inl output' =>
                rw [hout] at hdispatch
                simpa using hdispatch
            | inr reason =>
                rw [hout] at hdispatch
                cases hdispatch
          simp only [Round.answer, hfocus, Option.map_some, obtainAnswer, hmiss, houtcome]

end Round

/-! ### Whole runs -/

section Run

variable {cacheEnv : CacheEnv} {p : Stage} {rounds : List Round}

theorem mem_successes {as : List Answer} {output : CollectorOutput} (h : .success output ∈ as) :
    output.finding ∈ successes as :=
  List.mem_filterMap.mpr ⟨_, h, rfl⟩

/-- Every answer of a run comes from a finding of the list that holds what was answered,
unless it failed. -/
theorem traceable_of_mem_answers {fs : List Finding} (elsewhere : List Finding)
    (h : Holds cacheEnv p.database fs) (helsewhere : elsewhere ⊆ fs)
    (hothers : Along (Round.apply cacheEnv) (Others cacheEnv elsewhere) p rounds)
    (hsuccesses : successes (answers cacheEnv p rounds) ⊆ fs) :
    ∀ a ∈ answers cacheEnv p rounds, Traceable fs a := by
  induction rounds generalizing p with
  | nil =>
      intro a ha
      cases ha
  | cons round rounds ih =>
      obtain ⟨hround, hrest⟩ := hothers
      have hfirst : ∀ output, round.answer cacheEnv p = some (.success output) →
          output.finding ∈ fs := by
        intro output houtput
        apply hsuccesses
        apply mem_successes
        rw [answers, outputs, houtput]
        exact List.mem_append_left _ List.mem_cons_self
      intro a ha
      obtain hhead | htail := List.mem_append.mp ha
      · have hanswer := Option.mem_toList.mp hhead
        apply traceable_answer h hanswer
        rintro output rfl
        exact hfirst output hanswer
      · refine ih (holds_apply h helsewhere hround hfirst) hrest ?_ a htail
        intro f hf
        apply hsuccesses
        rw [answers, outputs, successes, List.filterMap_append]
        exact List.mem_append_right _ hf

/-- The ids of two answers of a run agree for a reason. -/
theorem uniform_iff {fs : List Finding} (hfresh : FreshIds fs) {as : List Answer}
    (htraceable : ∀ a ∈ as, Traceable fs a) :
    FirstWins.Uniform Finding.id content (as.map Answer.finding) ↔ OneReason as := by
  have hid : ∀ {f g : Finding}, content f = content g → f.id = g.id := by
    intro f g h
    have hcontent : (content f).id = (content g).id := congrArg Finding.id h
    exact hcontent
  constructor
  · intro h f g hf hg hhyp hname
    have heq := (f.id_eq_iff g).mpr ⟨hhyp, hname⟩
    rw [← Failure.content_eq_iff heq]
    exact h f.finding (List.mem_map_of_mem hf) g.finding (List.mem_map_of_mem hg) heq
  · intro h x hx y hy heq
    obtain ⟨a, ha, rfl⟩ := List.mem_map.mp hx
    obtain ⟨b, hb, rfl⟩ := List.mem_map.mp hy
    obtain ⟨f, rfl⟩ | ⟨g, hg, hag⟩ := htraceable a ha
    · obtain ⟨f', rfl⟩ | ⟨g', hg', hbg⟩ := htraceable b hb
      · have hsame := (f.id_eq_iff f').mp heq
        rw [Answer.finding, Answer.finding, Failure.content_eq_iff heq]
        exact h f f' ha hb hsame.1 hsame.2
      · obtain ⟨e, he⟩ := hfresh.made g' hg'
        exact absurd (heq.trans ((hid hbg).trans he)) (f.id_ne e)
    · obtain ⟨f', rfl⟩ | ⟨g', hg', hbg⟩ := htraceable b hb
      · obtain ⟨e, he⟩ := hfresh.made g hg
        exact absurd (heq.symm.trans ((hid hag).trans he)) (f'.id_ne e)
      · have hgg : g.id = g'.id := (hid hag).symm.trans (heq.trans (hid hbg))
        have hgg' := List.inj_on_of_nodup_map hfresh.distinct hg hg' hgg
        rw [hag, hbg, hgg']

/-- The rounds are those of an investigation. -/
theorem investigated_foldl (p : Stage) (rounds : List Round) :
    Investigated cacheEnv.sha256 p.state (rounds.foldl (Round.apply cacheEnv) p).state := by
  rw [investigated_iff]
  exact ⟨_, (collected_foldl Stage.state state_apply p rounds).symm⟩

/-- What the state has of findings, from nothing on. -/
theorem findings_foldl (hp : p.state.findings = []) (before : List Round) :
    (before.foldl (Round.apply cacheEnv) p).state.findings =
      ((answers cacheEnv p before).map Answer.finding).foldl (FirstWins.add Finding.id) [] := by
  rw [List.foldl_map, ← hp]
  exact collected_foldl (fun p : Stage => p.state.findings) findings_apply p before

theorem losesNothing_iff_uniform (hp : p.state.findings = []) :
    LosesNothing cacheEnv p rounds ↔
      FirstWins.Uniform Finding.id content ((answers cacheEnv p rounds).map Answer.finding) := by
  constructor
  · intro h
    rw [← FirstWins.confirmed_iff_uniform]
    intro ys y hys x hfirst
    obtain ⟨as, a, has, rfl, rfl⟩ := exists_of_prefix_map hys
    obtain ⟨before, round, after, rfl, hbefore, hanswer⟩ := exists_of_prefix_outputs has
    -- The first finding under the id is the recorded one.
    have hrecorded : FirstWins.first Finding.id a.finding.id
        (before.foldl (Round.apply cacheEnv) p).state.findings = some x := by
      rw [findings_foldl hp, FirstWins.first_foldl_add, List.nil_append, answers, hbefore]
      exact hfirst
    exact h.confirmed before round after rfl a hanswer x (FirstWins.mem_of_first hrecorded)
      (FirstWins.key_of_first hrecorded)
  · intro h
    have hmem : ∀ {before : List Round}, before <+: rounds → ∀ f,
        f ∈ (answers cacheEnv p before).map Answer.finding →
        f ∈ (answers cacheEnv p rounds).map Answer.finding := by
      intro before hbefore f hf
      exact List.map_subset _ (outputs_subset hbefore) hf
    have hrecorded : ∀ before : List Round,
        ∀ f ∈ (before.foldl (Round.apply cacheEnv) p).state.findings,
        f ∈ (answers cacheEnv p before).map Answer.finding := by
      intro before f hf
      rw [findings_foldl hp] at hf
      simpa using FirstWins.mem_of_mem_foldl_add _ hf
    constructor
    · rintro before round after rfl a hanswer f hf hid
      refine h f ?_ a.finding ?_ hid
      · exact hmem (List.prefix_append _ _) f (hrecorded before f hf)
      · exact List.mem_map_of_mem (mem_outputs hanswer)
    · intro before hbefore a ha
      have hanswered := List.mem_map_of_mem (f := Answer.finding) ha
      obtain ⟨f, hfirst⟩ : ∃ f, FirstWins.first Finding.id a.finding.id
          ((answers cacheEnv p before).map Answer.finding) = some f :=
        FirstWins.exists_first hanswered
      have hfound : FirstWins.first Finding.id a.finding.id
          (before.foldl (Round.apply cacheEnv) p).state.findings = some f := by
        rw [findings_foldl hp, FirstWins.first_foldl_add, List.nil_append]
        exact hfirst
      refine ⟨f, FirstWins.mem_of_first hfound, ?_⟩
      refine h f ?_ a.finding (hmem hbefore _ hanswered) (FirstWins.key_of_first hfound)
      exact hmem hbefore f (FirstWins.mem_of_first hfirst)

end Run

/-- **When no answer is lost.** In a run from a webhook seed, where the ids of what the
collectors answered are fresh: exactly when the failures of one hypothesis at one
collector have one question and one reason. -/
theorem losesNothing_iff (cacheEnv : CacheEnv) (env : Intake.IntakeEnv)
    (alert : Intake.AlertmanagerAlert) (receiver : String) (db : Database)
    (elsewhere : List Finding) (rounds : List Round) (hdb : Holds cacheEnv db elsewhere)
    (hothers : Along (Round.apply cacheEnv) (Others cacheEnv elsewhere)
      ⟨Intake.seedIncident env alert receiver, db⟩ rounds)
    (hfresh : FreshIds (elsewhere ++
      successes (answers cacheEnv ⟨Intake.seedIncident env alert receiver, db⟩ rounds))) :
    LosesNothing cacheEnv ⟨Intake.seedIncident env alert receiver, db⟩ rounds ↔
      OneReason (answers cacheEnv ⟨Intake.seedIncident env alert receiver, db⟩ rounds) := by
  rw [losesNothing_iff_uniform rfl]
  apply uniform_iff hfresh
  apply traceable_of_mem_answers elsewhere
  · intro key row hrow
    obtain ⟨f, hf, hjson⟩ := hdb key row hrow
    exact ⟨f, List.mem_append_left _ hf, hjson⟩
  · exact List.subset_append_left _ _
  · exact hothers
  · exact List.subset_append_right _ _

/-! ### Two failures -/

def testDigests : CacheEnv :=
  { sha256 := fun _ => testEmptyDigest, text := isoformat, parse := fun _ => none }

def testHttp : HttpEnv :=
  { now := testNow, parse := fun _ => none, isprintable := fun _ => true, text := fun _ => ""
    formatErrors := fun _ => "" }

/-- The hypothesis is proposed, and its question is asked twice: a timeout, and a reply of
an overloaded collector. -/
def testRounds : List Round :=
  [.investigator testNow testProposed, .collectors {} (testEnv 1) testHttp (.timeout ""),
    .collectors {} (testEnv 2) testHttp (.response 503 none)]

theorem holds_empty : Holds testDigests .empty [] := by
  intro key row hrow
  cases hrow

theorem others_testRounds (p : Stage) :
    Along (Round.apply testDigests) (Others testDigests []) p testRounds :=
  ⟨nofun, nofun, nofun, trivial⟩

theorem freshIds_testRounds :
    FreshIds ([] ++ successes (answers testDigests
      ⟨Intake.seedIncident testIntake testAlert "default", .empty⟩ testRounds)) := by
  have hnone : successes (answers testDigests
      ⟨Intake.seedIncident testIntake testAlert "default", .empty⟩ testRounds) = [] := rfl
  rw [hnone]
  exact ⟨nofun, List.nodup_nil⟩

theorem losesNothing_iff_testRounds :
    LosesNothing testDigests ⟨Intake.seedIncident testIntake testAlert "default", .empty⟩
        testRounds ↔
      OneReason (answers testDigests
        ⟨Intake.seedIncident testIntake testAlert "default", .empty⟩ testRounds) :=
  losesNothing_iff testDigests testIntake testAlert "default" .empty [] testRounds holds_empty
    (others_testRounds _) freshIds_testRounds

/-- The second reason is nowhere in the state. -/
theorem not_losesNothing :
    ¬ ∀ (cacheEnv : CacheEnv) (env : Intake.IntakeEnv) (alert : Intake.AlertmanagerAlert)
      (receiver : String) (db : Database) (elsewhere : List Finding) (rounds : List Round),
      Holds cacheEnv db elsewhere →
      Along (Round.apply cacheEnv) (Others cacheEnv elsewhere)
        ⟨Intake.seedIncident env alert receiver, db⟩ rounds →
      FreshIds (elsewhere ++
        successes (answers cacheEnv ⟨Intake.seedIncident env alert receiver, db⟩ rounds)) →
      LosesNothing cacheEnv ⟨Intake.seedIncident env alert receiver, db⟩ rounds := by
  intro h
  have hloses := h testDigests testIntake testAlert "default" .empty [] testRounds holds_empty
    (others_testRounds _) freshIds_testRounds
  have hreason := hloses.confirmed (testRounds.take 2) _ [] rfl _ rfl _ List.mem_cons_self rfl
  revert hreason
  decide

end AlphE.Orchestrator
