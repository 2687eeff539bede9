import AlphE.Orchestrator.GivingUp

/-!
Runs whose calls of the LLM may fail. `complete_typed` raises
`StructuredOutputError` when its retries are exhausted; the Investigator and the
Planner let the exception pass, `run_once` does too, and the run is over where
it was raised. The collectors turn every failure into a finding.

A call is asked for when its node is executed, but by an Investigator tick only
below the cap. Which calls a run asks for depends on the answers alone: the
Investigator is asked until the merged answers confirm a hypothesis, the Planner
when they do so before the last attempt.
-/

namespace AlphE.Orchestrator

open Nodes Coordinator

/-- A world in which a call of the LLM may raise: the node that makes the call,
and how many of its calls were answered before. -/
structure Fallible (κ ν : Type) extends World κ ν where
  raises : Node → ℕ → Option String

/-- The node calls the LLM on this state. -/
def AsksLLM (v : Node) (s : IncidentState) : Prop :=
  match v with
  | .investigator => s.investigationAttempts < maxAttempts
  | .planner => True
  | _ => False

instance (v : Node) (s : IncidentState) : Decidable (AsksLLM v s) := by
  cases v <;> unfold AsksLLM <;> infer_instance

namespace Fallible

variable {κ ν : Type} (F : Fallible κ ν)

/-- What a node returns or raises, after the nodes `before`. -/
def update (before : List Node) (v : Node) (s : IncidentState) :
    Except String StateUpdate :=
  if AsksLLM v s then
    match F.raises v (before.count v) with
    | some exc => .error exc
    | none => F.toWorld.update before v s
  else F.toWorld.update before v s

/-- A run of the graph in this world. -/
def run (limit : ℕ) (before : List Node) (c : Config Node IncidentState) :
    Workflow.Run Node IncidentState String :=
  (graph F.update).run limit before c

/-! ### One node at a time -/

section Nodes

variable {before : List Node} {v : Node} {s : IncidentState}

theorem update_of_raises {exc : String} (hasks : AsksLLM v s)
    (hraises : F.raises v (before.count v) = some exc) :
    F.update before v s = .error exc := by
  rw [update, if_pos hasks, hraises]

theorem update_of_answers (h : AsksLLM v s → F.raises v (before.count v) = none) :
    F.update before v s = F.toWorld.update before v s := by
  unfold update
  split
  · next hasks => rw [h hasks]
  · rfl

/-- What a node returns it returns without the failures, too. -/
theorem toWorld_update_of_ok {u : StateUpdate} (h : F.update before v s = .ok u) :
    F.toWorld.update before v s = .ok u := by
  unfold update at h
  split at h
  · cases hraises : F.raises v (before.count v) with
    | some exc =>
        rw [hraises] at h
        cases h
    | none => rwa [hraises] at h
  · exact h

theorem run_of_raises {limit : ℕ} {exc : String} (hasks : AsksLLM v s)
    (hraises : F.raises v (before.count v) = some exc) :
    F.run (limit + 1) before ⟨s, some v⟩ = ⟨[], .raised exc⟩ := by
  have hexec : (graph F.update).exec before v s = .error exc := by
    show (F.update before v s).map s.merge = .error exc
    rw [F.update_of_raises hasks hraises]
    rfl
  exact (graph F.update).run_of_error hexec

theorem run_of_answers {limit : ℕ} {u : StateUpdate}
    (h : AsksLLM v s → F.raises v (before.count v) = none)
    (hu : F.toWorld.update before v s = .ok u) :
    F.run (limit + 1) before ⟨s, some v⟩ =
      (F.run limit (before ++ [v]) ⟨s.merge u, route v (s.merge u)⟩).cons v
        ⟨s.merge u, route v (s.merge u)⟩ := by
  have hexec : (graph F.update).exec before v s = .ok (s.merge u) := by
    show (F.update before v s).map s.merge = .ok (s.merge u)
    rw [F.update_of_answers h, hu]
    rfl
  exact (graph F.update).run_of_ok hexec

variable (limit : ℕ) (before : List Node) (s : IncidentState)

theorem run_intake :
    F.run (limit + 1) before ⟨s, some .intake⟩ =
      (F.run limit (before ++ [.intake]) ⟨F.accept before s, some .investigator⟩).cons
        .intake ⟨F.accept before s, some .investigator⟩ :=
  F.run_of_answers (fun hasks => hasks.elim) rfl

theorem run_tick (h : F.raises .investigator (before.count .investigator) = none) :
    F.run (limit + 1) before ⟨s, some .investigator⟩ =
      (F.run limit (before ++ [.investigator])
        ⟨F.tick before s, some (routeAfterInvestigator (F.tick before s))⟩).cons
        .investigator ⟨F.tick before s, some (routeAfterInvestigator (F.tick before s))⟩ :=
  F.run_of_answers (fun _ => h) rfl

theorem run_collect :
    F.run (limit + 1) before ⟨s, some .collectors⟩ =
      (F.run limit (before ++ [.collectors])
        ⟨F.collect before s, some .investigator⟩).cons .collectors
        ⟨F.collect before s, some .investigator⟩ :=
  F.run_of_answers (fun hasks => hasks.elim) rfl

theorem run_plan (h : F.raises .planner (before.count .planner) = none) :
    F.run (limit + 1) before ⟨s, some .planner⟩ =
      (F.run limit (before ++ [.planner]) ⟨F.plan before s, some .coordinator⟩).cons
        .planner ⟨F.plan before s, some .coordinator⟩ :=
  F.run_of_answers (fun _ => h) rfl

theorem run_coordinate :
    F.run (limit + 1) before ⟨s, some .coordinator⟩ =
      ⟨[(.coordinator, ⟨s.merge (F.coordinate before s).update.toStateUpdate, none⟩)],
        .done⟩ := by
  rw [F.run_of_answers (v := .coordinator) (fun hasks => hasks.elim) rfl, route, run,
    Workflow.run_end]
  rfl

end Nodes

end Fallible

/-! ### Which calls are asked for -/

section Runs

variable {κ ν : Type} (F : Fallible κ ν)

/-- From `n` answers on, every call that is asked for is answered. -/
structure AnswersFrom (n : ℕ) : Prop where
  investigator : ∀ k, n ≤ k → k < maxInvestigationAttempts →
    (∀ j ≤ k, n < j → ¬ F.Confirms j) → F.raises .investigator k = none
  planner : (∃ k, n < k ∧ k < maxInvestigationAttempts ∧ F.Confirms k) →
    F.raises .planner 0 = none

/-- Without an answer nothing is confirmed. -/
theorem answersFrom_zero_iff :
    AnswersFrom F 0 ↔
      (∀ k < 5, (∀ j ≤ k, ¬ F.Confirms j) → F.raises .investigator k = none) ∧
        ((∃ k < 5, F.Confirms k) → F.raises .planner 0 = none) := by
  constructor
  · intro h
    refine ⟨?_, ?_⟩
    · intro k hk hnone
      exact h.investigator k (Nat.zero_le k) hk fun j hj _ => hnone j hj
    · rintro ⟨k, hk, hconf⟩
      apply h.planner
      refine ⟨k, Nat.pos_of_ne_zero ?_, hk, hconf⟩
      rintro rfl
      exact F.not_confirms_zero hconf
  · rintro ⟨hinv, hplan⟩
    refine ⟨?_, ?_⟩
    · intro k _ hk hnone
      apply hinv k hk
      intro j hj hconf
      rcases Nat.eq_zero_or_pos j with rfl | hpos
      · exact F.not_confirms_zero hconf
      · exact hnone j hj hpos hconf
    · rintro ⟨k, -, hk, hconf⟩
      exact hplan ⟨k, hk, hconf⟩

section Answers

variable {F} {n : ℕ}

/-- The next call of the Investigator is asked for whatever was confirmed before. -/
theorem AnswersFrom.answered (h : AnswersFrom F n) (hlt : n < maxInvestigationAttempts) :
    F.raises .investigator n = none :=
  h.investigator n le_rfl hlt fun _ hj hlt => absurd hlt (Nat.not_lt.mpr hj)

/-- After the last attempt nothing more is asked for. -/
theorem answersFrom_of_last (hanswers : F.raises .investigator n = none)
    (hlast : maxInvestigationAttempts ≤ n + 1) : AnswersFrom F n := by
  refine ⟨?_, ?_⟩
  · intro k hle hk _
    obtain rfl : k = n := by omega
    exact hanswers
  · rintro ⟨k, hgt, hk, -⟩
    omega

/-- A hypothesis is confirmed in time: the Planner is asked, and nobody after it. -/
theorem answersFrom_iff_of_confirms (hanswers : F.raises .investigator n = none)
    (hlt : n + 1 < maxInvestigationAttempts) (hconf : F.Confirms (n + 1)) :
    AnswersFrom F n ↔ F.raises .planner 0 = none := by
  constructor
  · intro h
    exact h.planner ⟨n + 1, Nat.lt_succ_self n, hlt, hconf⟩
  · intro hplan
    refine ⟨?_, fun _ => hplan⟩
    intro k hle _ hnone
    rcases Nat.lt_or_eq_of_le hle with hgt | rfl
    · exact absurd hconf (hnone _ hgt (Nat.lt_succ_self n))
    · exact hanswers

/-- The Investigator's next call answers without confirming anything. -/
theorem answersFrom_succ_iff (hanswers : F.raises .investigator n = none)
    (hnone : ¬ F.Confirms (n + 1)) : AnswersFrom F n ↔ AnswersFrom F (n + 1) := by
  constructor
  · intro h
    refine ⟨?_, ?_⟩
    · intro k hle hk hlater
      apply h.investigator k (by omega) hk
      intro j hj hnj
      rcases Nat.lt_or_eq_of_le (Nat.succ_le_of_lt hnj) with hlt | rfl
      · exact hlater j hj hlt
      · exact hnone
    · rintro ⟨k, hlt, hk, hconf⟩
      exact h.planner ⟨k, by omega, hk, hconf⟩
  · intro h
    refine ⟨?_, ?_⟩
    · intro k hle hk hlater
      rcases Nat.lt_or_eq_of_le hle with hlt | rfl
      · exact h.investigator k hlt hk fun j hj hnj => hlater j hj (by omega)
      · exact hanswers
    · rintro ⟨k, hlt, hk, hconf⟩
      rcases Nat.lt_or_eq_of_le (Nat.succ_le_of_lt hlt) with hlt | rfl
      · exact h.planner ⟨k, hlt, hk, hconf⟩
      · exact absurd hconf hnone

end Answers

/-! ### How a run ends -/

/-- The run reaches the end, the Coordinator was executed, and the incident is
escalated or resolved. -/
structure Settles (c₀ : Config Node IncidentState)
    (r : Workflow.Run Node IncidentState String) : Prop where
  done : r.outcome = .done
  coordinated : .coordinator ∈ r.visited
  phase : (r.final c₀).state.phase = .escalated ∨ (r.final c₀).state.phase = .resolved

theorem settles_cons_iff {c₀ c : Config Node IncidentState} {v : Node}
    {r : Workflow.Run Node IncidentState String} (hv : v ≠ .coordinator) :
    Settles c₀ (r.cons v c) ↔ Settles c r := by
  constructor
  · rintro ⟨hdone, hcoord, hphase⟩
    rw [Workflow.Run.visited_cons, List.mem_cons] at hcoord
    rw [Workflow.Run.final_cons] at hphase
    exact ⟨hdone, hcoord.resolve_left (Ne.symm hv), hphase⟩
  · rintro ⟨hdone, hcoord, hphase⟩
    refine ⟨hdone, ?_, ?_⟩
    · rw [Workflow.Run.visited_cons]
      exact List.mem_cons_of_mem v hcoord
    · rwa [Workflow.Run.final_cons]

theorem not_settles_raised (c₀ : Config Node IncidentState)
    (commits : List (Node × Config Node IncidentState)) (exc : String) :
    ¬ Settles c₀ ⟨commits, .raised exc⟩ := by
  intro h
  cases h.done

/-- The Coordinator settles what it can be given. -/
theorem settles_coordinate (limit : ℕ) (before : List Node) {s : IncidentState}
    (h : s.actionIntents = [] ∨ HasConfirmed s) :
    Settles ⟨s, some .coordinator⟩ (F.run (limit + 1) before ⟨s, some .coordinator⟩) := by
  rw [F.run_coordinate]
  refine ⟨rfl, List.mem_singleton.mpr rfl, ?_⟩
  exact coordinatorNode_settles (F.coordinatorEnv before) F.verify h

/-- So the Planner's call decides about a confirmed root cause. -/
theorem settles_plan_iff (limit : ℕ) (before : List Node) {s : IncidentState}
    (h : HasConfirmed s) :
    Settles ⟨s, some .planner⟩ (F.run (limit + 2) before ⟨s, some .planner⟩) ↔
      F.raises .planner (before.count .planner) = none := by
  cases hplan : F.raises .planner (before.count .planner) with
  | some exc =>
      rw [F.run_of_raises (v := .planner) trivial hplan]
      exact iff_of_false (not_settles_raised _ _ _) (by simp)
  | none =>
      rw [F.run_plan _ _ _ hplan, settles_cons_iff (by simp)]
      exact iff_of_true (settles_coordinate F _ _ (.inr h)) rfl

/-- What the loop keeps between Investigator ticks. -/
structure Undecided (before : List Node) (s : IncidentState) : Prop where
  attempts_lt : s.investigationAttempts < maxInvestigationAttempts
  ticks_eq : before.count .investigator = s.investigationAttempts
  planned_eq : before.count .planner = 0
  intents_eq : s.actionIntents = []
  hypotheses_eq : s.hypotheses = F.hypothesesFrom [] s.investigationAttempts

theorem Undecided.tick {before : List Node} {s : IncidentState} (h : Undecided F before s) :
    (F.tick before s).investigationAttempts = s.investigationAttempts + 1 ∧
    (F.tick before s).actionIntents = [] ∧
    (F.tick before s).hypotheses = F.hypothesesFrom [] (s.investigationAttempts + 1) := by
  refine ⟨?_, ?_, ?_⟩
  · rw [F.tick_attempts, if_neg (Nat.not_le.mpr h.attempts_lt)]
  · rw [World.tick, investigatorNode_actionIntents]
    exact h.intents_eq
  · rw [World.tick, investigatorNode_hypotheses _ _ _ _ h.attempts_lt, h.hypotheses_eq,
      World.answerAt, h.ticks_eq]
    rfl

/-- A round that confirms nothing, below the cap, keeps it. -/
theorem Undecided.round {before : List Node} {s : IncidentState} (h : Undecided F before s)
    (hlt : (F.tick before s).investigationAttempts < maxInvestigationAttempts) :
    Undecided F (before ++ [.investigator] ++ [.collectors])
      (F.collect (before ++ [.investigator]) (F.tick before s)) := by
  obtain ⟨hattempts, hintents, hhyps⟩ := h.tick
  refine ⟨?_, ?_, ?_, ?_, ?_⟩
  · rwa [F.collect_attempts]
  · rw [F.collect_attempts, hattempts, ← h.ticks_eq]
    simp
  · simpa using h.planned_eq
  · rw [World.collect, collectorsNode_actionIntents]
    exact hintents
  · rw [F.collect_attempts, hattempts, World.collect, collectorsNode_hypotheses]
    exact hhyps

/-- The loop settles the incident exactly when the calls it asks for are
answered. The induction is on the ticks left, as for its bound. -/
theorem settles_run_iff (ticksLeft limit : ℕ) (before : List Node) (s : IncidentState)
    (h : Undecided F before s)
    (hleft : maxInvestigationAttempts - s.investigationAttempts = ticksLeft)
    (hlimit : 2 * ticksLeft ≤ limit) :
    Settles ⟨s, some .investigator⟩ (F.run limit before ⟨s, some .investigator⟩) ↔
      AnswersFrom F s.investigationAttempts := by
  induction ticksLeft generalizing limit before s with
  | zero =>
      have hlt := h.attempts_lt
      omega
  | succ ticksLeft ih =>
      obtain ⟨limit, rfl⟩ : ∃ l, limit = l + 2 := ⟨limit - 2, by omega⟩
      have hlt := h.attempts_lt
      cases hcall : F.raises .investigator s.investigationAttempts with
      | some exc =>
          have hraises : F.raises .investigator (before.count .investigator) = some exc := by
            rw [h.ticks_eq, hcall]
          rw [F.run_of_raises (v := .investigator) hlt hraises]
          refine iff_of_false (not_settles_raised _ _ _) ?_
          intro hanswers
          rw [hanswers.answered hlt] at hcall
          cases hcall
      | none =>
          have hanswered : F.raises .investigator (before.count .investigator) = none := by
            rw [h.ticks_eq, hcall]
          obtain ⟨hattempts, hintents, hhyps⟩ := h.tick
          have hconfirms : HasConfirmed (F.tick before s) ↔
              F.Confirms (s.investigationAttempts + 1) := by
            unfold HasConfirmed World.Confirms World.ConfirmsFrom
            rw [hhyps]
          rw [F.run_tick _ _ _ hanswered, settles_cons_iff (by simp)]
          by_cases hlast : maxInvestigationAttempts ≤ (F.tick before s).investigationAttempts
          · -- The last attempt: the Coordinator, with nothing planned.
            rw [routeAfterInvestigator, if_pos hlast]
            exact iff_of_true (settles_coordinate F _ _ (.inl hintents))
              (answersFrom_of_last hcall (by omega))
          · by_cases hconf : HasConfirmed (F.tick before s)
            · obtain ⟨limit, rfl⟩ : ∃ l, limit = l + 1 := ⟨limit - 1, by omega⟩
              have hcount : (before ++ [Node.investigator]).count .planner = 0 := by
                simpa using h.planned_eq
              rw [routeAfterInvestigator, if_neg hlast, if_pos hconf, settles_plan_iff F _ _ hconf,
                hcount, answersFrom_iff_of_confirms hcall (by omega) (hconfirms.mp hconf)]
            · -- Another round, whose collectors leave the invariant alone.
              have hround := h.round F (Nat.not_le.mp hlast)
              have hsame : (F.collect (before ++ [.investigator])
                  (F.tick before s)).investigationAttempts = s.investigationAttempts + 1 := by
                rw [F.collect_attempts, hattempts]
              rw [routeAfterInvestigator, if_neg hlast, if_neg hconf, F.run_collect,
                settles_cons_iff (by simp),
                answersFrom_succ_iff hcall (fun hc => hconf (hconfirms.mpr hc)), ← hsame]
              exact ih _ _ _ hround (by omega) (by omega)

/-- The run of the graph from a fresh state. -/
theorem settles_fresh_iff {seed : IncidentState} (hhyps : seed.hypotheses = [])
    (hintents : seed.actionIntents = []) (hattempts : seed.investigationAttempts = 0) :
    Settles (entry seed) (F.run recursionLimit [] (entry seed)) ↔ AnswersFrom F 0 := by
  have hundecided : Undecided F [.intake] (F.accept [] seed) := by
    refine ⟨?_, ?_, rfl, hintents, ?_⟩
    · show seed.investigationAttempts < 5
      omega
    · show 0 = seed.investigationAttempts
      rw [hattempts]
    · show seed.hypotheses = F.hypothesesFrom [] seed.investigationAttempts
      rw [hattempts, hhyps]
      rfl
  have hzero : (F.accept [] seed).investigationAttempts = 0 := hattempts
  rw [recursionLimit, entry, F.run_intake, settles_cons_iff (by simp),
    List.nil_append, settles_run_iff F 5 24 _ _ hundecided (by rw [hzero]; rfl) (by omega),
    hzero]

end Runs

/-! ### A first call that raises -/

/-- The Investigator's LLM never produces a valid answer. -/
def stubbornWorld : Fallible Unit Unit where
  toWorld := silentWorld
  raises _ _ := some "structured output failed validation"

end AlphE.Orchestrator
