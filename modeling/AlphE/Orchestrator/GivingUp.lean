import AlphE.Orchestrator.Loop
import AlphE.Coordinator.Authorisation
import AlphE.Intake.Webhook

/-!
How a run from a webhook seed ends. The Coordinator is reached in two ways: the
attempts are spent, and then no intent has been planned; or a hypothesis was
confirmed and the Planner came in between. In the first case the hypotheses
alone decide between escalation and resolution, and there are none exactly when
all five answers of the LLM were empty.
-/

namespace AlphE.Orchestrator

open Nodes Coordinator

/-! ### What the answers leave -/

namespace World

variable {κ ν : Type} (W : World κ ν)

/-- The hypotheses after the first `n` answers of the Investigator's LLM, for a run
that starts with `start`. -/
def hypothesesFrom (start : List Hypothesis) : ℕ → List Hypothesis
  | 0 => start
  | n + 1 => mergeHypotheses (hypothesesFrom start n)
      ((W.investigatorAnswer n).hypotheses.map (ensureId W.sha256))

/-- The first `n` answers leave a confirmed hypothesis. -/
def ConfirmsFrom (start : List Hypothesis) (n : ℕ) : Prop :=
  ∃ h ∈ W.hypothesesFrom start n, h.status = .confirmed

instance (start : List Hypothesis) (n : ℕ) : Decidable (W.ConfirmsFrom start n) :=
  inferInstanceAs (Decidable (∃ h ∈ W.hypothesesFrom start n, h.status = .confirmed))

/-- The first `n` answers confirm a hypothesis, in a run that starts without any. -/
def Confirms (n : ℕ) : Prop := W.ConfirmsFrom [] n

instance (n : ℕ) : Decidable (W.Confirms n) := inferInstanceAs (Decidable (W.ConfirmsFrom [] n))

theorem not_confirms_zero : ¬ W.Confirms 0 := by
  rintro ⟨h, hmem, -⟩
  cases hmem

end World

/-! ### The end of a run -/

/-- The state the last node of a run was given. -/
def lastInput (c₀ : Config Node IncidentState)
    (r : Workflow.Run Node IncidentState String) : IncidentState :=
  (Workflow.lastOf c₀ r.commits.dropLast).state

theorem lastInput_cons (c₀ c : Config Node IncidentState) (v : Node)
    {r : Workflow.Run Node IncidentState String} (hr : r.commits ≠ []) :
    lastInput c₀ (r.cons v c) = lastInput c r := by
  rw [lastInput, lastInput, Workflow.Run.commits_cons, List.dropLast_cons_of_ne_nil hr,
    Workflow.lastOf_cons]

section Runs

variable {κ ν : Type} (W : World κ ν)

/-- The run of the graph from a seed. -/
def seedRun (seed : IncidentState) : Workflow.Run Node IncidentState String :=
  W.run recursionLimit [] (entry seed)

/-- The phase a run leaves the incident in. -/
def finalPhase (seed : IncidentState) : IncidentPhase :=
  ((seedRun W seed).final (entry seed)).state.phase

/-- What the Coordinator, the last node of the run, did. -/
def lastCoordination (seed : IncidentState) : CoordinatorResult :=
  W.coordinate (seedRun W seed).visited.dropLast (lastInput (entry seed) (seedRun W seed))

/-- Giving up is not reported as success: spent attempts without a confirmed
hypothesis end in an escalation with a package, and a resolved incident has had
a verified intent executed. -/
structure HonestEnd (seed : IncidentState) : Prop where
  escalated_of_spent :
    maxInvestigationAttempts ≤
        (lastInput (entry seed) (seedRun W seed)).investigationAttempts →
      ¬ HasConfirmed (lastInput (entry seed) (seedRun W seed)) →
      finalPhase W seed = .escalated ∧ (lastCoordination W seed).escalation.isSome
  executed_of_resolved :
    finalPhase W seed = .resolved →
      ∃ intent, (lastCoordination W seed).ForwardExecutes intent ∧
        W.verify intent = .ok ()

/-! ### How the Coordinator is reached -/

/-- The LLM has proposed no hypothesis in its first `n` answers. -/
def NothingProposed (n : ℕ) : Prop := ∀ k < n, (W.investigatorAnswer k).hypotheses = []

theorem nothingProposed_succ (n : ℕ) :
    NothingProposed W (n + 1) ↔
      NothingProposed W n ∧ (W.investigatorAnswer n).hypotheses = [] := by
  constructor
  · intro h
    exact ⟨fun k hk => h k (by omega), h n (Nat.lt_succ_self n)⟩
  · rintro ⟨hbelow, hlast⟩ k hk
    rcases Nat.lt_succ_iff_lt_or_eq.mp hk with hk | rfl
    · exact hbelow k hk
    · exact hlast

theorem NothingProposed.mono {m n : ℕ} (h : NothingProposed W n) (hle : m ≤ n) :
    NothingProposed W m :=
  fun k hk => h k (hk.trans_le hle)

/-- The states the Coordinator may be given in a run from a webhook seed. -/
inductive Arrives (t : IncidentState) : Prop
  | spent (hattempts : maxInvestigationAttempts ≤ t.investigationAttempts)
      (hintents : t.actionIntents = [])
      (hhyps : t.hypotheses = [] ↔ NothingProposed W maxInvestigationAttempts)
  | planned (hattempts : t.investigationAttempts < maxInvestigationAttempts)
      (hconf : HasConfirmed t)
      (hhyps : ¬ NothingProposed W maxInvestigationAttempts)

/-- A run that ends with the Coordinator on an arrived state. -/
structure Concludes (before : List Node) (c₀ : Config Node IncidentState)
    (r : Workflow.Run Node IncidentState String) : Prop where
  commits_ne_nil : r.commits ≠ []
  arrives : Arrives W (lastInput c₀ r)
  final_eq : (r.final c₀).state =
    (lastInput c₀ r).merge
      (W.coordinate (before ++ r.visited.dropLast) (lastInput c₀ r)).update.toStateUpdate

theorem Concludes.cons {before : List Node} {c₀ c : Config Node IncidentState} {v : Node}
    {r : Workflow.Run Node IncidentState String} (h : Concludes W (before ++ [v]) c r) :
    Concludes W before c₀ (r.cons v c) := by
  have hvisited : r.visited ≠ [] := by
    intro hnil
    exact h.commits_ne_nil (List.map_eq_nil_iff.mp hnil)
  refine ⟨List.cons_ne_nil _ _, ?_, ?_⟩
  · rw [lastInput_cons _ _ _ h.commits_ne_nil]
    exact h.arrives
  · rw [lastInput_cons _ _ _ h.commits_ne_nil, Workflow.Run.final_cons, h.final_eq,
      Workflow.Run.visited_cons, List.dropLast_cons_of_ne_nil hvisited, List.append_assoc]
    rfl

theorem concludes_coordinate (limit : ℕ) (before : List Node) {t : IncidentState}
    (h : Arrives W t) :
    Concludes W before ⟨t, some .coordinator⟩
      (W.run (limit + 1) before ⟨t, some .coordinator⟩) := by
  rw [W.run_coordinate]
  refine ⟨List.cons_ne_nil _ _, h, ?_⟩
  simp [Workflow.Run.final, Workflow.Run.visited, lastInput]

/-- What the loop keeps between Investigator ticks. -/
structure Investigating (before : List Node) (s : IncidentState) : Prop where
  attempts_lt : s.investigationAttempts < maxInvestigationAttempts
  ticks_eq : before.count .investigator = s.investigationAttempts
  intents_eq : s.actionIntents = []
  hypotheses_iff : s.hypotheses = [] ↔ NothingProposed W s.investigationAttempts

section Tick

variable {W} {before : List Node} {s : IncidentState} (h : Investigating W before s)

include h

theorem Investigating.attempts_tick :
    (W.tick before s).investigationAttempts = s.investigationAttempts + 1 := by
  rw [W.tick_attempts, if_neg (Nat.not_le.mpr h.attempts_lt)]

theorem Investigating.intents_tick : (W.tick before s).actionIntents = [] := by
  rw [World.tick, investigatorNode_actionIntents]
  exact h.intents_eq

theorem Investigating.hypotheses_tick :
    (W.tick before s).hypotheses = [] ↔ NothingProposed W (s.investigationAttempts + 1) := by
  rw [World.tick, investigatorNode_hypotheses _ _ _ _ h.attempts_lt,
    mergeHypotheses_eq_nil_iff, h.hypotheses_iff, List.map_eq_nil_iff, World.answerAt,
    h.ticks_eq, nothingProposed_succ]

end Tick

/-- The loop concludes. The induction is on the ticks left, as for its bound. -/
theorem concludes_run (ticksLeft limit : ℕ) (before : List Node) (s : IncidentState)
    (h : Investigating W before s)
    (hleft : maxInvestigationAttempts - s.investigationAttempts = ticksLeft)
    (hlimit : 2 * ticksLeft ≤ limit) :
    Concludes W before ⟨s, some .investigator⟩
      (W.run limit before ⟨s, some .investigator⟩) := by
  induction ticksLeft generalizing limit before s with
  | zero =>
      have hlt := h.attempts_lt
      omega
  | succ ticksLeft ih =>
      obtain ⟨limit, rfl⟩ : ∃ l, limit = l + 2 := ⟨limit - 2, by omega⟩
      have hlt := h.attempts_lt
      have hattempts := h.attempts_tick
      rw [W.run_tick]
      apply Concludes.cons
      by_cases hlast : maxInvestigationAttempts ≤ (W.tick before s).investigationAttempts
      · -- The last attempt: the Coordinator comes next, and no intent was planned.
        have hfive : s.investigationAttempts + 1 = maxInvestigationAttempts := by omega
        have hhyps := h.hypotheses_tick
        rw [hfive] at hhyps
        rw [routeAfterInvestigator, if_pos hlast]
        exact concludes_coordinate W limit _ (.spent hlast h.intents_tick hhyps)
      · by_cases hconf : HasConfirmed (W.tick before s)
        · -- Confirmed in time: the Planner comes first.
          obtain ⟨limit, rfl⟩ : ∃ l, limit = l + 1 := ⟨limit - 1, by omega⟩
          have hproposed : ¬ NothingProposed W maxInvestigationAttempts := by
            intro hnothing
            apply hconf.hypotheses_ne_nil
            rw [h.hypotheses_tick]
            exact hnothing.mono W (by omega)
          rw [routeAfterInvestigator, if_neg hlast, if_pos hconf, W.run_plan]
          apply Concludes.cons
          exact concludes_coordinate W _ _ (.planned (Nat.not_le.mp hlast) hconf hproposed)
        · -- Another round, whose collectors leave the invariant alone.
          rw [routeAfterInvestigator, if_neg hlast, if_neg hconf, W.run_collect]
          apply Concludes.cons
          apply ih
          · refine ⟨?_, ?_, ?_, ?_⟩
            · rw [W.collect_attempts]
              omega
            · rw [W.collect_attempts, hattempts, ← h.ticks_eq]
              simp
            · rw [World.collect, collectorsNode_actionIntents]
              exact h.intents_tick
            · rw [W.collect_attempts, hattempts, World.collect, collectorsNode_hypotheses]
              exact h.hypotheses_tick
          · rw [W.collect_attempts]
            omega
          · omega

theorem concludes_seedRun {seed : IncidentState} (hhyps : seed.hypotheses = [])
    (hintents : seed.actionIntents = []) (hattempts : seed.investigationAttempts = 0) :
    Concludes W [] (entry seed) (seedRun W seed) := by
  have hinvestigating : Investigating W [.intake] (W.accept [] seed) := by
    refine ⟨?_, ?_, hintents, ?_⟩
    · show seed.investigationAttempts < 5
      omega
    · show 0 = seed.investigationAttempts
      rw [hattempts]
    · show seed.hypotheses = [] ↔ NothingProposed W seed.investigationAttempts
      rw [hattempts, hhyps]
      simp [NothingProposed]
  rw [seedRun, recursionLimit, entry, W.run_intake]
  apply Concludes.cons
  apply concludes_run W 5 24 _ _ hinvestigating
  · show 5 - seed.investigationAttempts = 5
    rw [hattempts]
  · omega

/-! ### The verdict -/

theorem finalPhase_eq {seed : IncidentState} (h : Concludes W [] (entry seed)
    (seedRun W seed)) :
    finalPhase W seed = (lastCoordination W seed).update.phase := by
  rw [finalPhase, h.final_eq]
  rfl

/-- Five empty answers leave no hypothesis, and the preflight takes that for a
resolved incident. -/
theorem not_honestEnd_of_nothingProposed {seed : IncidentState}
    (h : Concludes W [] (entry seed) (seedRun W seed))
    (hnothing : NothingProposed W maxInvestigationAttempts) : ¬ HonestEnd W seed := by
  intro hhonest
  rcases h.arrives with ⟨hattempts, hintents, hhyps⟩ | ⟨-, -, hsome⟩
  · have hnil := hhyps.mpr hnothing
    have hnoconf : ¬ HasConfirmed (lastInput (entry seed) (seedRun W seed)) :=
      fun hconf => hconf.hypotheses_ne_nil hnil
    have hescalated := (hhonest.escalated_of_spent hattempts hnoconf).1
    have hresolved := coordinatorNode_of_no_intents
      (W.coordinatorEnv (seedRun W seed).visited.dropLast) W.verify hintents
    rw [if_pos hnil] at hresolved
    rw [finalPhase_eq W h, lastCoordination, World.coordinate, hresolved] at hescalated
    cases hescalated
  · exact hsome hnothing

theorem honestEnd_of_proposed {seed : IncidentState}
    (h : Concludes W [] (entry seed) (seedRun W seed))
    (hsome : ¬ NothingProposed W maxInvestigationAttempts) : HonestEnd W seed := by
  have hphase := finalPhase_eq W h
  rcases h.arrives with ⟨hattempts, hintents, hhyps⟩ | ⟨hattempts, hconf, -⟩
  · have hend := coordinatorNode_of_no_intents
      (W.coordinatorEnv (seedRun W seed).visited.dropLast) W.verify hintents
    rw [if_neg (fun hnil => hsome (hhyps.mp hnil))] at hend
    refine ⟨fun _ _ => ?_, ?_⟩
    · rw [hphase]
      exact hend
    · intro hresolved
      rw [hphase, lastCoordination, World.coordinate, hend.1] at hresolved
      cases hresolved
  · refine ⟨?_, ?_⟩
    · intro hspent
      omega
    · intro hresolved
      rw [hphase] at hresolved
      exact coordinatorNode_resolved_of_confirmed _ _ hconf hresolved

/-- **When giving up is reported honestly.** Exactly when one of the five
answers of the LLM proposes a hypothesis. -/
theorem honestEnd_iff (env : Intake.IntakeEnv) (alert : Intake.AlertmanagerAlert)
    (receiver : String) :
    HonestEnd W (Intake.seedIncident env alert receiver) ↔
      ∃ k < 5, (W.investigatorAnswer k).hypotheses ≠ [] := by
  have hconcl : Concludes W [] (entry (Intake.seedIncident env alert receiver)) (seedRun W
    (Intake.seedIncident env alert receiver)) := concludes_seedRun W rfl rfl rfl
  have hproposed : (∃ k < 5, (W.investigatorAnswer k).hypotheses ≠ []) ↔
      ¬ NothingProposed W maxInvestigationAttempts := by
    simp [NothingProposed, maxInvestigationAttempts]
  rw [hproposed]
  constructor
  · intro hhonest hnothing
    exact not_honestEnd_of_nothingProposed W hconcl hnothing hhonest
  · exact honestEnd_of_proposed W hconcl

end Runs

/-! ### Five empty answers -/

open Security in
/-- An LLM that never proposes anything, and collectors that fail. -/
def silentWorld : World Unit Unit where
  clock _ := testNow
  isprintable _ := true
  lower := String.toLower
  environ _ := none
  uuid4 n := "uuid-" ++ toString n
  sha256 := testSha256
  ed25519 := testEd25519
  privateKey := ()
  publicKey := ()
  investigatorAnswer _ :=
    { hypotheses := []
      currentFocusHypothesisId := ""
      reasoning := "The alert gives no lead." }
  plannerAnswer _ :=
    { planId := "plan_none"
      planType := .none
      rationale := "No confirmed hypothesis."
      confidence := UnitFloat.zero
      reasoning := "Nothing to act on." }
  cacheGet _ _ _ := none
  dispatch _ name input := .inr
    { id := "fail_" ++ input.hypothesisId ++ "_" ++ name
      collectorName := name
      question := input.question
      summary := "Collector failed."
      evidenceId := ""
      confidence := UnitFloat.zero
      createdAt := testNow }
  otherNode _ _ _ := .error "not reached"

def testAlert : Intake.AlertmanagerAlert :=
  { status := "firing"
    labels := .ofList [("alertname", "PodOOMKilled"), ("service", "leaky-service")]
    startsAt := testNow }

def testIntake : Intake.IntakeEnv :=
  { now := testNow, lower := String.toLower, uuid4Hex := "0123456789abcdef" }

/-- Five empty answers resolve the incident. -/
theorem not_honestEnd :
    ¬ ∀ (W : World Unit Unit) (env : Intake.IntakeEnv) (alert : Intake.AlertmanagerAlert)
      (receiver : String), HonestEnd W (Intake.seedIncident env alert receiver) := by
  intro h
  exact not_honestEnd_of_nothingProposed silentWorld (concludes_seedRun _ rfl rfl rfl)
    (fun _ _ => rfl) (h silentWorld testIntake testAlert "default")

end AlphE.Orchestrator
