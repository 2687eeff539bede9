import AlphE.Orchestrator.GivingUp
import AlphE.Orchestrator.Investigation
import AlphE.Lib.Operations

/-!
Whether the focus dangles. The Investigator looks for the focus among the hypotheses
of its answer, and the state keeps the earlier ones as well: an answer that proposes
nothing takes the focus away from hypotheses that are still there.
-/

namespace AlphE.Orchestrator

open Nodes Operations

/-- The focus is the id of a hypothesis of the state, and the collectors dispatch its
question. -/
structure Focused (s : IncidentState) : Prop where
  named : ∃ h ∈ s.hypotheses, s.currentFocusHypothesisId = some h.id
  dispatches : ∀ env, (collectorsNode env s).findings.isSome = true

/-- An Investigator tick that leaves hypotheses leaves a focus. -/
def KeepsFocus (sha256 : Bytes → String) (s : IncidentState) (tick : Tick) : Prop :=
  ∀ now answer, tick = .investigator now answer →
    (tick.apply sha256 s).hypotheses ≠ [] → Focused (tick.apply sha256 s)

/-- The answer, below the cap, proposes something, or there is nothing yet. -/
def Proposes (s : IncidentState) (tick : Tick) : Prop :=
  ∀ now answer, tick = .investigator now answer → s.investigationAttempts < maxAttempts →
    answer.hypotheses = [] → s.hypotheses = []

/-! ### One tick -/

theorem focusHypothesis_eq_none_iff (s : IncidentState) :
    focusHypothesis s = none ↔ ¬ ∃ h ∈ s.hypotheses, s.currentFocusHypothesisId = some h.id := by
  rw [focusHypothesis, List.find?_eq_none]
  simp only [decide_eq_true_eq, not_exists, not_and]
  constructor
  · intro h g hg heq
    exact h g hg heq.symm
  · intro h g hg heq
    exact h g hg heq.symm

theorem focused_iff (s : IncidentState) :
    Focused s ↔ ∃ h ∈ s.hypotheses, s.currentFocusHypothesisId = some h.id := by
  constructor
  · intro h
    exact h.named
  · intro h
    refine ⟨h, ?_⟩
    intro env
    cases hfocus : focusHypothesis s with
    | none => exact absurd h ((focusHypothesis_eq_none_iff s).mp hfocus)
    | some focus => simp [collectorsNode, hfocus]

theorem highestScore_mem {hs : List Hypothesis} {h : Hypothesis}
    (hbest : highestScore hs = some h) : h ∈ hs := by
  have hfoldl : ∀ (gs : List Hypothesis) (g : Hypothesis),
      gs.foldl (fun best g => if best.score.val < g.score.val then g else best) g ∈ g :: gs := by
    intro gs
    induction gs with
    | nil =>
        intro g
        exact List.mem_singleton_self g
    | cons g' gs ih =>
        intro g
        rw [List.foldl_cons]
        split
        · exact List.mem_cons_of_mem g (ih g')
        · obtain heq | hmem := List.mem_cons.mp (ih g)
          · rw [heq]
            exact List.mem_cons_self
          · exact List.mem_cons_of_mem _ (List.mem_cons_of_mem _ hmem)
  cases hs with
  | nil => cases hbest
  | cons g gs =>
      rw [highestScore, Option.some.injEq] at hbest
      rw [← hbest]
      exact hfoldl gs g

/-- An answer that proposes something has its focus among what it proposes. -/
theorem focusOf_mem (answer : InvestigatorOutput) {proposed : List Hypothesis}
    (h : proposed ≠ []) : focusOf answer proposed ∈ proposed.map Hypothesis.id := by
  unfold focusOf
  split
  · next hmem => exact hmem
  · cases hbest : highestScore proposed with
    | none =>
        cases proposed with
        | nil => exact absurd rfl h
        | cons g gs => cases hbest
    | some best => exact List.mem_map_of_mem (highestScore_mem hbest)

/-- What the run keeps. -/
structure Tracked (s : IncidentState) : Prop where
  ids_ne : "" ∉ s.hypotheses.map Hypothesis.id
  focused : s.hypotheses ≠ [] → Focused s

section Ticks

variable {sha256 : Bytes → String} {s : IncidentState}

theorem contentHash_ne_empty (hsha : ∀ m, sha256 m ≠ "") (text : String) :
    contentHash sha256 text ≠ "" := by
  intro h
  have hlist := congrArg String.toList h
  rw [contentHash, PyText.takeChars, String.toList_ofList, String.toList_empty,
    List.take_eq_nil_iff] at hlist
  obtain hzero | hnil := hlist
  · cases hzero
  · exact hsha _ (String.toList_eq_nil_iff.mp hnil)

theorem ensureId_ne_empty (hsha : ∀ m, sha256 m ≠ "") (h : Hypothesis) :
    (ensureId sha256 h).id ≠ "" := by
  unfold ensureId
  split
  · exact contentHash_ne_empty hsha h.text
  · next hid => simpa [String.isEmpty_iff] using hid

/-- No id of the state is empty after a tick, either. -/
theorem ids_ne_apply (hsha : ∀ m, sha256 m ≠ "") (tick : Tick)
    (h : "" ∉ s.hypotheses.map Hypothesis.id) :
    "" ∉ (tick.apply sha256 s).hypotheses.map Hypothesis.id := by
  cases tick with
  | intake now => exact h
  | collectors env =>
      rw [Tick.apply, collectorsNode_hypotheses]
      exact h
  | investigator now answer =>
      by_cases hcap : maxAttempts ≤ s.investigationAttempts
      · rw [Tick.apply, investigatorNode, if_pos hcap]
        exact h
      · rw [Tick.apply, investigatorNode_hypotheses _ _ _ _ (Nat.not_le.mp hcap),
          mem_ids_mergeHypotheses, not_or, List.map_map]
        refine ⟨h, ?_⟩
        intro hmem
        obtain ⟨g, -, hg⟩ := List.mem_map.mp hmem
        exact ensureId_ne_empty hsha g hg

/-- An answer with proposals leaves a focus; one without leaves none. -/
theorem focused_investigator_iff (h : "" ∉ s.hypotheses.map Hypothesis.id) (now : DateTime)
    (answer : InvestigatorOutput) (hlt : s.investigationAttempts < maxAttempts) :
    Focused (s.merge (investigatorNode now sha256 answer s)) ↔ answer.hypotheses ≠ [] := by
  have hhyps := investigatorNode_hypotheses now sha256 answer s hlt
  have hfocus : (s.merge (investigatorNode now sha256 answer s)).currentFocusHypothesisId =
      some (focusOf answer (answer.hypotheses.map (ensureId sha256))) := by
    rw [investigatorNode, if_neg (Nat.not_le.mpr hlt)]
    rfl
  have hmem : Focused (s.merge (investigatorNode now sha256 answer s)) ↔
      focusOf answer (answer.hypotheses.map (ensureId sha256)) ∈
        (mergeHypotheses s.hypotheses (answer.hypotheses.map (ensureId sha256))).map
          Hypothesis.id := by
    rw [focused_iff, hfocus, hhyps, List.mem_map]
    simp only [Option.some.injEq, eq_comm]
  rw [hmem, mem_ids_mergeHypotheses]
  constructor
  · rintro hid hnone
    rw [hnone] at hid
    have hempty : focusOf answer (List.map (ensureId sha256) []) = "" := by
      simp [focusOf, highestScore]
    rw [hempty] at hid
    exact h (hid.resolve_right List.not_mem_nil)
  · intro hsome
    exact .inr (focusOf_mem answer (by simpa using hsome))

theorem keepsFocus_iff (h : Tracked s) (tick : Tick) :
    KeepsFocus sha256 s tick ↔ Proposes s tick := by
  cases tick with
  | intake now => exact iff_of_true nofun nofun
  | collectors env => exact iff_of_true nofun nofun
  | investigator now answer =>
      have hkeeps : KeepsFocus sha256 s (.investigator now answer) ↔
          ((s.merge (investigatorNode now sha256 answer s)).hypotheses ≠ [] →
            Focused (s.merge (investigatorNode now sha256 answer s))) := by
        constructor
        · intro hk
          exact hk now answer rfl
        · rintro hk now' answer' heq
          cases heq
          exact hk
      have hproposes : Proposes s (.investigator now answer) ↔
          (s.investigationAttempts < maxAttempts → answer.hypotheses = [] →
            s.hypotheses = []) := by
        constructor
        · intro hp
          exact hp now answer rfl
        · rintro hp now' answer' heq
          cases heq
          exact hp
      rw [hkeeps, hproposes]
      by_cases hcap : maxAttempts ≤ s.investigationAttempts
      · -- At the cap nothing is asked, and nothing changes.
        refine iff_of_true ?_ fun hlt => absurd hcap (Nat.not_le.mpr hlt)
        have hfocused := h.focused
        rw [investigatorNode, if_pos hcap, focused_iff]
        rw [focused_iff] at hfocused
        exact hfocused
      · have hlt := Nat.not_le.mp hcap
        rw [focused_investigator_iff h.ids_ne now answer hlt,
          investigatorNode_hypotheses now sha256 answer s hlt, Ne, mergeHypotheses_eq_nil_iff,
          List.map_eq_nil_iff, forall_prop_of_true hlt]
        tauto

theorem Tracked.apply (hsha : ∀ m, sha256 m ≠ "") (h : Tracked s) {tick : Tick}
    (hproposes : Proposes s tick) : Tracked (tick.apply sha256 s) := by
  refine ⟨ids_ne_apply hsha tick h.ids_ne, ?_⟩
  cases tick with
  | intake now =>
      intro hne
      have hfocused := h.focused hne
      rw [focused_iff] at hfocused ⊢
      exact hfocused
  | collectors env =>
      intro hne
      rw [Tick.apply, collectorsNode_hypotheses] at hne
      have hfocused := h.focused hne
      rw [focused_iff] at hfocused ⊢
      rw [Tick.apply, collectorsNode_hypotheses, collectorsNode_focus]
      exact hfocused
  | investigator now answer =>
      exact (keepsFocus_iff h _).mpr hproposes now answer rfl

end Ticks

/-- **When the focus never dangles.** In a run of ticks from a webhook seed, exactly when
no answer below the cap proposes nothing while the state has hypotheses. -/
theorem keepsFocus_along_iff {sha256 : Bytes → String} (hsha : ∀ m, sha256 m ≠ "")
    (env : Intake.IntakeEnv) (alert : Intake.AlertmanagerAlert) (receiver : String)
    (ticks : List Tick) :
    Along (Tick.apply sha256) (KeepsFocus sha256) (Intake.seedIncident env alert receiver)
        ticks ↔
      Along (Tick.apply sha256) Proposes (Intake.seedIncident env alert receiver) ticks := by
  have hseed : Tracked (Intake.seedIncident env alert receiver) :=
    ⟨List.not_mem_nil, fun hne => absurd rfl hne⟩
  apply along_congr (I := Tracked) (A := fun _ _ => True)
  · intro s tick htracked _
    exact keepsFocus_iff htracked tick
  · intro s tick htracked _ hproposes
    exact htracked.apply hsha hproposes
  · exact hseed
  · exact along_true _ ticks

/-! ### An answer with nothing new -/

def testProposed : InvestigatorOutput :=
  { hypotheses := [Coordinator.testHypothesis .«open»]
    currentFocusHypothesisId := "hyp_1"
    reasoning := "The heap grows without bound." }

/-- The second answer sticks to the focus and has nothing to add. -/
def testTicks : List Tick :=
  [.investigator testNow testProposed,
    .investigator testNow { testProposed with hypotheses := [] }]

/-- The digest of the empty text. -/
def testEmptyDigest : String :=
  "e3b0c44298fc1c149afbf4c8996fb92427ae41e4649b934ca495991b7852b855"

theorem keepsFocus_along_iff_testTicks :
    Along (Tick.apply fun _ => testEmptyDigest) (KeepsFocus fun _ => testEmptyDigest)
        (Intake.seedIncident testIntake testAlert "default") testTicks ↔
      Along (Tick.apply fun _ => testEmptyDigest) Proposes
        (Intake.seedIncident testIntake testAlert "default") testTicks :=
  keepsFocus_along_iff (fun _ => by decide) testIntake testAlert "default" testTicks

/-- The hypothesis is still there, and nothing is in focus. -/
theorem not_keepsFocus_along :
    ¬ ∀ (sha256 : Bytes → String), (∀ m, sha256 m ≠ "") →
      ∀ (env : Intake.IntakeEnv) (alert : Intake.AlertmanagerAlert) (receiver : String)
        (ticks : List Tick),
      Along (Tick.apply sha256) (KeepsFocus sha256) (Intake.seedIncident env alert receiver)
        ticks := by
  intro h
  obtain ⟨-, hsecond, -⟩ := h (fun _ => testEmptyDigest) (fun _ => by decide) testIntake testAlert
    "default" testTicks
  have hfocused := hsecond testNow { testProposed with hypotheses := [] } rfl (by decide)
  rw [focused_iff] at hfocused
  revert hfocused
  decide

end AlphE.Orchestrator
