import AlphE.Orchestrator.GivingUp
import AlphE.Orchestrator.Custody
import AlphE.Coordinator.Protocol

/-!
What becomes of an alert. A run from a webhook seed has up to five rounds with the
LLM, one plan at most and one turn of the Coordinator, and its state carries a whole
history along. What comes out is a function of the LLM's answers, written down here
without a graph and without a state: the verdict. A run goes the way the verdict names
and ends in it. What the collectors find does not enter, other than by way of the
answers.
-/

namespace AlphE.Orchestrator

open Nodes Coordinator

/-! ### The verdict -/

/-- What becomes of an alert: an intent is executed, an engineer is called, or the
incident counts as gone. -/
inductive Verdict
  | executes (intent : ActionIntent)
  | handsOver
  | selfResolves

namespace Verdict

def phase : Verdict → IncidentPhase
  | executes _ | selfResolves => .resolved
  | handsOver => .escalated

def forward : Verdict → List (ActionIntent × String)
  | executes intent => [(intent, "dry_run_success")]
  | handsOver | selfResolves => []

end Verdict

/-- The nodes after the entry and `k` rounds. -/
def afterRounds : ℕ → List Node
  | 0 => [.intake]
  | k + 1 => afterRounds k ++ [.investigator, .collectors]

theorem count_afterRounds (k : ℕ) :
    (afterRounds k).count .investigator = k ∧ (afterRounds k).count .planner = 0 := by
  induction k with
  | zero => exact ⟨rfl, rfl⟩
  | succ k ih =>
      rw [afterRounds, List.count_append, List.count_append, ih.1, ih.2]
      exact ⟨rfl, rfl⟩

section Verdicts

variable {κ ν : Type} (W : World κ ν)

/-- The rounds without a confirmed hypothesis that come before the first answer that
leaves one, below the cap. -/
def confirmedRound : Option ℕ :=
  (List.range (maxInvestigationAttempts - 1)).find? fun k => W.Confirms (k + 1)

/-- The nodes before the Planner. -/
def beforePlanner (k : ℕ) : List Node := afterRounds k ++ [.investigator]

/-- The nodes before the Coordinator. -/
def beforeCoordinator : List Node :=
  match confirmedRound W with
  | some k => beforePlanner k ++ [.planner]
  | none => beforePlanner (maxInvestigationAttempts - 1)

/-- The intents of the plan after `k` rounds. -/
def plannedAfter (k : ℕ) : List ActionIntent :=
  newIntents (W.plannerAnswer 0) W.sign (W.clock (beforePlanner k))

def verdict : Verdict :=
  match confirmedRound W with
  | some k =>
      match plannedAfter W k with
      | intent :: _ => .executes intent
      | [] => .handsOver
  | none =>
      if W.hypothesesFrom [] maxInvestigationAttempts = [] then .selfResolves else .handsOver

theorem confirmedRound_eq_some {k : ℕ} (hk : k + 1 < maxInvestigationAttempts)
    (hconf : W.Confirms (k + 1)) (hnone : ∀ j < k, ¬ W.Confirms (j + 1)) :
    confirmedRound W = some k := by
  rw [confirmedRound, List.find?_range_eq_some]
  refine ⟨by simpa using hconf, ?_, ?_⟩
  · rw [List.mem_range]
    omega
  · intro j hj
    simpa using hnone j hj

theorem confirmedRound_eq_none
    (hnone : ∀ j < maxInvestigationAttempts - 1, ¬ W.Confirms (j + 1)) :
    confirmedRound W = none := by
  rw [confirmedRound, List.find?_range_eq_none]
  intro j hj
  simpa using hnone j hj

/-! ### The way there -/

/-- A run that goes through the nodes `vs` and ends with the Coordinator on `t`. -/
structure Reaches (before : List Node) (c : Config Node IncidentState)
    (r : Workflow.Run Node IncidentState String) (vs : List Node) (t : IncidentState) :
    Prop where
  done : r.outcome = .done
  visited_eq : r.visited = vs ++ [.coordinator]
  lastInput_eq : lastInput c r = t
  final_eq : (r.final c).state =
    t.merge (W.coordinate (before ++ vs) t).update.toStateUpdate

variable {W}

theorem Reaches.cons {before vs : List Node} {c c' : Config Node IncidentState} {v : Node}
    {r : Workflow.Run Node IncidentState String} {t : IncidentState}
    (h : Reaches W (before ++ [v]) c r vs t) :
    Reaches W before c' (r.cons v c) (v :: vs) t where
  done := h.done
  visited_eq := by
    rw [Workflow.Run.visited_cons, h.visited_eq]
    rfl
  lastInput_eq := by
    have hcommits : r.commits ≠ [] := by
      intro hnil
      have hvisited := h.visited_eq
      rw [Workflow.Run.visited, hnil] at hvisited
      cases vs <;> cases hvisited
    rw [lastInput_cons _ _ _ hcommits, h.lastInput_eq]
  final_eq := by
    rw [Workflow.Run.final_cons, h.final_eq, List.append_assoc]
    rfl

theorem reaches_coordinate (limit : ℕ) (before : List Node) (t : IncidentState) :
    Reaches W before ⟨t, some .coordinator⟩
      (W.run (limit + 1) before ⟨t, some .coordinator⟩) [] t := by
  rw [W.run_coordinate]
  refine ⟨rfl, rfl, rfl, ?_⟩
  rw [List.append_nil]
  rfl

variable (W) in
/-- What the Coordinator is given, by the verdict. -/
structure Given (t : IncidentState) : Prop where
  hypotheses_eq : t.hypotheses = W.hypothesesFrom []
    (match confirmedRound W with
    | some k => k + 1
    | none => maxInvestigationAttempts)
  intents_eq : t.actionIntents =
    match confirmedRound W with
    | some k => plannedAfter W k
    | none => []

variable (W) in
/-- What the loop keeps: `k` rounds were made, and none of them confirmed anything. -/
structure Rounds (k : ℕ) (s : IncidentState) : Prop where
  lt : k < maxInvestigationAttempts
  attempts_eq : s.investigationAttempts = k
  hypotheses_eq : s.hypotheses = W.hypothesesFrom [] k
  intents_eq : s.actionIntents = []
  unconfirmed : ∀ j < k, ¬ W.Confirms (j + 1)

section Tick

variable {k : ℕ} {s : IncidentState} (h : Rounds W k s)

include h

theorem Rounds.attempts_tick :
    (W.tick (afterRounds k) s).investigationAttempts = k + 1 := by
  have hlt : ¬ maxInvestigationAttempts ≤ s.investigationAttempts := by
    rw [h.attempts_eq]
    exact Nat.not_le.mpr h.lt
  rw [W.tick_attempts, if_neg hlt, h.attempts_eq]

theorem Rounds.intents_tick : (W.tick (afterRounds k) s).actionIntents = [] := by
  rw [World.tick, investigatorNode_actionIntents]
  exact h.intents_eq

theorem Rounds.hypotheses_tick :
    (W.tick (afterRounds k) s).hypotheses = W.hypothesesFrom [] (k + 1) := by
  have hlt : s.investigationAttempts < maxAttempts := by
    rw [h.attempts_eq]
    exact h.lt
  rw [World.tick, investigatorNode_hypotheses _ _ _ _ hlt, h.hypotheses_eq, World.answerAt,
    (count_afterRounds k).1]
  rfl

theorem Rounds.confirmed_tick :
    HasConfirmed (W.tick (afterRounds k) s) ↔ W.Confirms (k + 1) := by
  rw [HasConfirmed, h.hypotheses_tick, World.Confirms, World.ConfirmsFrom]

end Tick

variable (W) in
/-- The loop goes the way of the verdict. The induction is on the ticks left. -/
theorem reaches_run (ticksLeft limit k : ℕ) (s : IncidentState) (h : Rounds W k s)
    (hleft : maxInvestigationAttempts - k = ticksLeft) (hlimit : 2 * ticksLeft ≤ limit) :
    ∃ vs t, afterRounds k ++ vs = beforeCoordinator W ∧ Given W t ∧
      Reaches W (afterRounds k) ⟨s, some .investigator⟩
        (W.run limit (afterRounds k) ⟨s, some .investigator⟩) vs t := by
  induction ticksLeft generalizing limit k s with
  | zero =>
      have hlt := h.lt
      omega
  | succ ticksLeft ih =>
      obtain ⟨limit, rfl⟩ : ∃ l, limit = l + 2 := ⟨limit - 2, by omega⟩
      have hlt := h.lt
      have hattempts := h.attempts_tick
      rw [W.run_tick]
      by_cases hlast : maxInvestigationAttempts ≤ (W.tick (afterRounds k) s).investigationAttempts
      · -- The last attempt: whatever it confirms, the Coordinator comes next.
        have hk : k = maxInvestigationAttempts - 1 := by omega
        have hnone : confirmedRound W = none :=
          confirmedRound_eq_none W (hk ▸ h.unconfirmed)
        refine ⟨[.investigator], W.tick (afterRounds k) s, ?_, ⟨?_, ?_⟩, ?_⟩
        · rw [beforeCoordinator, hnone, hk]
          rfl
        · rw [hnone, h.hypotheses_tick, hk]
          rfl
        · rw [hnone, h.intents_tick]
        · rw [routeAfterInvestigator, if_pos hlast]
          exact (reaches_coordinate limit _ _).cons
      · by_cases hconf : HasConfirmed (W.tick (afterRounds k) s)
        · -- Confirmed in time: the Planner comes first.
          obtain ⟨limit, rfl⟩ : ∃ l, limit = l + 1 := ⟨limit - 1, by omega⟩
          have hsome : confirmedRound W = some k :=
            confirmedRound_eq_some W (by omega) (h.confirmed_tick.mp hconf) h.unconfirmed
          have hcount : (beforePlanner k).count .planner = 0 := by
            rw [beforePlanner, List.count_append, (count_afterRounds k).2]
            rfl
          refine ⟨[.investigator, .planner],
            W.plan (beforePlanner k) (W.tick (afterRounds k) s), ?_, ⟨?_, ?_⟩, ?_⟩
          · rw [beforeCoordinator, hsome]
            show afterRounds k ++ [.investigator, .planner] = beforePlanner k ++ [.planner]
            rw [beforePlanner, List.append_assoc]
            rfl
          · rw [hsome]
            exact h.hypotheses_tick
          · rw [hsome, World.plan, hcount]
            show (W.tick (afterRounds k) s).actionIntents ++ plannedAfter W k = _
            rw [h.intents_tick, List.nil_append]
          · rw [routeAfterInvestigator, if_neg hlast, if_pos hconf, W.run_plan]
            exact (reaches_coordinate _ _ _).cons.cons
        · -- Another round, whose collectors leave the invariant alone.
          have hrounds : Rounds W (k + 1)
              (W.collect (afterRounds k ++ [.investigator]) (W.tick (afterRounds k) s)) := by
            refine ⟨by omega, ?_, ?_, ?_, ?_⟩
            · rw [W.collect_attempts, hattempts]
            · rw [World.collect, collectorsNode_hypotheses, h.hypotheses_tick]
            · rw [World.collect, collectorsNode_actionIntents, h.intents_tick]
            · intro j hj
              rcases Nat.lt_succ_iff_lt_or_eq.mp hj with hj | rfl
              · exact h.unconfirmed j hj
              · exact fun hc => hconf (h.confirmed_tick.mpr hc)
          have hbefore : afterRounds k ++ [.investigator] ++ [.collectors] =
              afterRounds (k + 1) := List.append_assoc _ _ _
          obtain ⟨vs, t, hvs, hgiven, hreaches⟩ := ih limit (k + 1) _ hrounds (by omega) (by omega)
          refine ⟨.investigator :: .collectors :: vs, t, ?_, hgiven, ?_⟩
          · rw [← hvs, afterRounds, List.append_assoc]
            rfl
          · rw [routeAfterInvestigator, if_neg hlast, if_neg hconf, W.run_collect, hbefore]
            rw [← hbefore] at hreaches ⊢
            exact hreaches.cons.cons

variable (W) in
theorem reaches_seedRun {seed : IncidentState} (hhyps : seed.hypotheses = [])
    (hintents : seed.actionIntents = []) (hattempts : seed.investigationAttempts = 0) :
    ∃ t, Given W t ∧
      Reaches W [] (entry seed) (seedRun W seed) (beforeCoordinator W) t := by
  have hrounds : Rounds W 0 (W.accept [] seed) := by
    refine ⟨by decide, hattempts, hhyps, hintents, ?_⟩
    intro j hj
    omega
  obtain ⟨vs, t, hvs, hgiven, hreaches⟩ := reaches_run W 5 24 0 _ hrounds rfl (by omega)
  refine ⟨t, hgiven, ?_⟩
  rw [← hvs, seedRun, recursionLimit, entry, W.run_intake]
  exact hreaches.cons

/-! ### The Coordinator's turn -/

/-- What a turn of the Coordinator comes to. -/
structure EndsIn (result : CoordinatorResult) (v : Verdict) : Prop where
  phase_eq : result.update.phase = v.phase
  forward_eq : result.forward = v.forward

theorem endsIn_of_no_intents (env : CoordinatorEnv)
    (verify : ActionIntent → Except String Unit) {t : IncidentState}
    (hintents : t.actionIntents = []) :
    EndsIn (coordinatorNode env verify t)
      (if t.hypotheses = [] then .selfResolves else .handsOver) := by
  have hforward : (coordinatorNode env verify t).forward = [] := by
    rw [coordinatorNode_forward, hintents]
    exact ite_self _
  have hend := coordinatorNode_of_no_intents env verify hintents
  split at hend
  · next hnil =>
      rw [if_pos hnil]
      exact ⟨hend, hforward⟩
  · next hsome =>
      rw [if_neg hsome]
      exact ⟨hend.1, hforward⟩

theorem endsIn_of_intent (env : CoordinatorEnv) {verify : ActionIntent → Except String Unit}
    {t : IncidentState} {intent : ActionIntent} (hintents : t.actionIntents = [intent])
    (hverified : verify intent = .ok ()) (hconf : HasConfirmed t) :
    EndsIn (coordinatorNode env verify t) (.executes intent) := by
  have hall : AllVerified verify t.actionIntents := by
    rw [hintents]
    exact allVerified_singleton.mpr hverified
  have hok : (checkPreflight t t.actionIntents).outcome = .ok := by
    rw [checkPreflight_ok_iff, hintents]
    exact ⟨List.cons_ne_nil _ _, hconf⟩
  constructor
  · rw [coordinatorNode, coordinatorAsync_of_allVerified env _ hall,
      afterVerification_of_ok _ _ _ _ _ hok]
    exact (executeVerified_forward env t _ _).2.1
  · rw [coordinatorNode_forward, if_pos ⟨hall, hconf⟩, hintents]
    exact forwardOutcomes_cons ∅ intent []

/-- A decision signs one intent at most. -/
theorem newIntents_cases (decision : LLMPlannerDecision) (sign : ActionIntent → ActionIntent)
    (now : DateTime) :
    newIntents decision sign now = [] ∨ ∃ i, newIntents decision sign now = [sign i] := by
  rw [newIntents]
  split
  · exact .inr ⟨_, rfl⟩
  · exact .inl rfl

variable (W) in
theorem endsIn_verdict (hideal : W.ed25519.Ideal)
    (hkeys : W.publicKey = W.ed25519.publicKey W.privateKey) {t : IncidentState}
    (h : Given W t) (before : List Node) : EndsIn (W.coordinate before t) (verdict W) := by
  have hhyps := h.hypotheses_eq
  have hintents := h.intents_eq
  cases hround : confirmedRound W with
  | none =>
      rw [hround] at hhyps hintents
      rw [verdict, hround]
      have hends := endsIn_of_no_intents (W.coordinatorEnv before) W.verify hintents
      rw [hhyps] at hends
      exact hends
  | some k =>
      rw [hround] at hhyps hintents
      have hconf : HasConfirmed t := by
        have hfound := List.find?_some hround
        rw [HasConfirmed, hhyps]
        exact of_decide_eq_true hfound
      rw [verdict, hround]
      obtain hnil | ⟨i, hi⟩ := newIntents_cases (W.plannerAnswer 0) W.sign
        (W.clock (beforePlanner k))
      · -- The plan signs nothing, and an engineer is called.
        have hplanned : plannedAfter W k = [] := hnil
        have hends := endsIn_of_no_intents (W.coordinatorEnv before) W.verify
          (hintents.trans hplanned)
        rw [if_neg hconf.hypotheses_ne_nil] at hends
        simp only [hplanned]
        exact hends
      · have hplanned : plannedAfter W k = [W.sign i] := hi
        have hverified : W.verify (W.sign i) = .ok () := by
          rw [World.verify, hkeys]
          exact check_sign hideal W.isprintable W.privateKey i
        simp only [hplanned]
        exact endsIn_of_intent (W.coordinatorEnv before) (hintents.trans hplanned)
          hverified hconf

end Verdicts

/-! ### A confirmed leak -/

/-- An LLM that confirms the leak at once, and decides to scale the service. -/
def decisiveWorld : World Unit Unit :=
  { silentWorld with
    investigatorAnswer := fun _ =>
      { hypotheses := [testHypothesis .confirmed]
        currentFocusHypothesisId := "hyp_1"
        reasoning := "The pod was killed by the OOM killer." }
    plannerAnswer := fun _ => testDecision }

theorem verdict_decisiveWorld :
    verdict decisiveWorld = .executes Security.testSigned := by
  have hround : confirmedRound decisiveWorld = some 0 := by
    apply confirmedRound_eq_some
    · decide
    · exact ⟨testHypothesis .confirmed, List.mem_singleton.mpr rfl, rfl⟩
    · intro j hj
      omega
  have hplanned : plannedAfter decisiveWorld 0 = [Security.testSigned] :=
    signedBy_testDecision
  rw [verdict, hround]
  simp only [hplanned]

end AlphE.Orchestrator
