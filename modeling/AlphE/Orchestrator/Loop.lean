import AlphE.Orchestrator.Graph

/-!
The investigation loop is bounded. Both caps are five, the Investigator counts
before the router looks, and nothing else counts; so a loop that starts with
`a` attempts spent has at most `5 - a` ticks left, and one when `a` is past the
cap already. The induction is on that number.
-/

namespace AlphE.Orchestrator

open Nodes Coordinator

/-! ### What a node does to the counter -/

/-- The counter grows with Investigator ticks only, by one at most, and not
beyond the cap. -/
structure AttemptsStep (c : Config Node IncidentState) (v : Node)
    (c' : Config Node IncidentState) : Prop where
  le_next : c.state.investigationAttempts ≤ c'.state.investigationAttempts
  next_le : c'.state.investigationAttempts ≤
    c.state.investigationAttempts + if v = .investigator then 1 else 0
  next_le_cap : c'.state.investigationAttempts ≤
    max c.state.investigationAttempts maxInvestigationAttempts

theorem AttemptsStep.of_eq {c c' : Config Node IncidentState} (v : Node)
    (h : c'.state.investigationAttempts = c.state.investigationAttempts) :
    AttemptsStep c v c' := by
  refine ⟨?_, ?_, ?_⟩ <;> rw [h]
  · exact Nat.le_add_right _ _
  · exact Nat.le_max_left _ _

section Runs

variable {κ ν : Type} (W : World κ ν)

/-- The nodes a run from the entry point can come to. -/
def Reachable (v : Node) : Prop := v ≠ .dev ∧ v ≠ .verifier ∧ v ≠ .reviewer

theorem reachable_routeAfterInvestigator (s : IncidentState) :
    Reachable (routeAfterInvestigator s) := by
  unfold routeAfterInvestigator Reachable
  split
  · simp
  · split <;> simp

theorem reachable_route {v w : Node} (hv : Reachable v) (s : IncidentState)
    (hw : route v s = some w) : Reachable w := by
  obtain ⟨hdev, hverifier, hreviewer⟩ := hv
  cases v <;> simp_all [route] <;> subst hw
  case investigator => exact reachable_routeAfterInvestigator s
  all_goals exact ⟨by simp, by simp, by simp⟩

/-- Below the cap a tick counts, at the cap it does not. -/
theorem attemptsStep_tick (before : List Node) (s : IncidentState) (next : Option Node) :
    AttemptsStep ⟨s, some .investigator⟩ .investigator ⟨W.tick before s, next⟩ := by
  have hattempts := W.tick_attempts before s
  by_cases hcap : maxInvestigationAttempts ≤ s.investigationAttempts
  · rw [if_pos hcap] at hattempts
    exact .of_eq _ hattempts
  · rw [if_neg hcap] at hattempts
    refine ⟨?_, ?_, ?_⟩ <;> rw [hattempts]
    · exact Nat.le_succ _
    · rw [if_pos rfl]
    · show s.investigationAttempts + 1 ≤
        max s.investigationAttempts maxInvestigationAttempts
      omega

theorem attemptsStep_update {before : List Node} {v : Node} {s : IncidentState}
    {u : StateUpdate} (hv : Reachable v) (h : W.update before v s = .ok u) :
    AttemptsStep ⟨s, some v⟩ v ⟨s.merge u, route v (s.merge u)⟩ := by
  obtain ⟨hdev, hverifier, hreviewer⟩ := hv
  cases v with
  | intake =>
      cases h
      exact .of_eq _ rfl
  | collectors =>
      cases h
      exact .of_eq _ (collectorsNode_attempts _ s)
  | planner =>
      cases h
      exact .of_eq _ rfl
  | coordinator =>
      cases h
      exact .of_eq _ rfl
  | investigator =>
      cases h
      exact attemptsStep_tick W before s _
  | dev => exact absurd rfl hdev
  | verifier => exact absurd rfl hverifier
  | reviewer => exact absurd rfl hreviewer

/-- The counter behaves along every run. -/
theorem chain_attemptsStep (limit : ℕ) (before : List Node) (seed : IncidentState) :
    Workflow.Chain AttemptsStep (entry seed)
      (W.run limit before (entry seed)).commits := by
  apply Workflow.run_chain (P := fun c => ∀ v, c.next = some v → Reachable v)
  · intro before v s s' hreach hexec
    have hv := hreach v rfl
    obtain ⟨u, hu, rfl⟩ := graph_exec_eq_ok hexec
    exact ⟨fun w hw => reachable_route hv _ hw, attemptsStep_update W hv hu⟩
  · intro v hv
    cases hv
    exact ⟨by simp, by simp, by simp⟩

/-! ### The loop -/

/-- A run that ends after its one Coordinator, within `ticks` Investigator
ticks. -/
structure LoopBound (ticks : ℕ) (r : Workflow.Run Node IncidentState String) :
    Prop where
  done : r.outcome = .done
  last : ∃ pre, r.visited = pre ++ [.coordinator] ∧ .coordinator ∉ pre
  investigator_le : r.visited.count .investigator ≤ ticks
  collectors_le : r.visited.count .collectors ≤ ticks - 1
  length_le : r.visited.length ≤ 2 * ticks

theorem LoopBound.mono {ticks ticks' : ℕ} (hle : ticks ≤ ticks')
    {r : Workflow.Run Node IncidentState String} (h : LoopBound ticks r) :
    LoopBound ticks' r where
  done := h.done
  last := h.last
  investigator_le := h.investigator_le.trans hle
  collectors_le := h.collectors_le.trans (Nat.sub_le_sub_right hle 1)
  length_le := h.length_le.trans (Nat.mul_le_mul_left 2 hle)

/-- The router gives up after the tick. -/
theorem loopBound_giveUp (limit : ℕ) (before : List Node) (s : IncidentState)
    (c : Config Node IncidentState) :
    LoopBound 1 ((W.run (limit + 1) before ⟨s, some .coordinator⟩).cons
      .investigator c) := by
  rw [W.run_coordinate]
  refine ⟨rfl, ⟨[.investigator], rfl, by simp⟩, ?_, ?_, ?_⟩ <;>
    simp [Workflow.Run.visited]

/-- The router goes on to plan after the tick. -/
theorem loopBound_plan (limit : ℕ) (before : List Node) (s : IncidentState)
    (c : Config Node IncidentState) :
    LoopBound 2 ((W.run (limit + 2) before ⟨s, some .planner⟩).cons .investigator c) := by
  rw [W.run_plan, W.run_coordinate]
  refine ⟨rfl, ⟨[.investigator, .planner], rfl, by simp⟩, ?_, ?_, ?_⟩ <;>
    simp [Workflow.Run.visited]

/-- One more round of the loop. -/
theorem LoopBound.round {ticks : ℕ} (hticks : 1 ≤ ticks)
    {r : Workflow.Run Node IncidentState String} (h : LoopBound ticks r)
    (c c' : Config Node IncidentState) :
    LoopBound (ticks + 1) ((r.cons .collectors c').cons .investigator c) := by
  obtain ⟨pre, hvisited, hpre⟩ := h.last
  have hinv := h.investigator_le
  have hcoll := h.collectors_le
  have hlen := h.length_le
  refine ⟨h.done, ⟨.investigator :: .collectors :: pre, ?_, ?_⟩, ?_, ?_, ?_⟩
  · simp [hvisited]
  · simpa using hpre
  · simpa [List.count_cons] using hinv
  · simp only [Workflow.Run.visited_cons, List.count_cons]
    simp
    omega
  · simp only [Workflow.Run.visited_cons, List.length_cons]
    omega

/-- The loop from an Investigator tick on. -/
theorem loopBound_run (ticksLeft limit : ℕ) (before : List Node) (s : IncidentState)
    (hleft : maxInvestigationAttempts - s.investigationAttempts = ticksLeft)
    (hlimit : 2 * max 1 ticksLeft ≤ limit) :
    LoopBound (max 1 ticksLeft) (W.run limit before ⟨s, some .investigator⟩) := by
  induction ticksLeft generalizing limit before s with
  | zero =>
      -- Past the cap the tick leaves the counter alone, and the router gives up.
      obtain ⟨limit, rfl⟩ : ∃ l, limit = l + 2 := ⟨limit - 2, by omega⟩
      have hcap : maxInvestigationAttempts ≤ s.investigationAttempts := by omega
      have hattempts := W.tick_attempts before s
      rw [if_pos hcap] at hattempts
      have hroute : routeAfterInvestigator (W.tick before s) = .coordinator := by
        rw [routeAfterInvestigator, hattempts, if_pos hcap]
      rw [W.run_tick, hroute]
      exact loopBound_giveUp W _ _ _ _
  | succ ticksLeft ih =>
      have hcap : ¬ maxInvestigationAttempts ≤ s.investigationAttempts := by omega
      have hattempts := W.tick_attempts before s
      rw [if_neg hcap] at hattempts
      obtain ⟨limit, rfl⟩ : ∃ l, limit = l + 2 := ⟨limit - 2, by omega⟩
      rw [W.run_tick]
      by_cases hlast : maxInvestigationAttempts ≤ (W.tick before s).investigationAttempts
      · rw [routeAfterInvestigator, if_pos hlast]
        exact (loopBound_giveUp W _ _ _ _).mono (Nat.le_max_left _ _)
      · -- The tick was not the last one, so at least two were left.
        have htwo : 1 ≤ ticksLeft := by omega
        by_cases hconf : HasConfirmed (W.tick before s)
        · obtain ⟨limit, rfl⟩ : ∃ l, limit = l + 1 := ⟨limit - 1, by omega⟩
          rw [routeAfterInvestigator, if_neg hlast, if_pos hconf]
          exact (loopBound_plan W _ _ _ _).mono (by omega)
        · rw [routeAfterInvestigator, if_neg hlast, if_neg hconf, W.run_collect]
          have hrest := ih limit (before ++ [.investigator] ++ [.collectors])
            (W.collect (before ++ [.investigator]) (W.tick before s))
            (by rw [W.collect_attempts]; omega) (by omega)
          have hmax : max 1 (ticksLeft + 1) = max 1 ticksLeft + 1 := by omega
          rw [hmax]
          exact hrest.round (Nat.le_max_left _ _) _ _

theorem loopBound_seed (seed : IncidentState) :
    LoopBound (max 1 (maxInvestigationAttempts - seed.investigationAttempts))
      (W.run 24 [.intake] ⟨W.accept [] seed, some .investigator⟩) := by
  apply loopBound_run W _ 24 [.intake] (W.accept [] seed) rfl
  rw [maxInvestigationAttempts]
  omega

/-- A run never gets stuck and never runs out of steps. -/
theorem run_done (seed : IncidentState) :
    (W.run recursionLimit [] (entry seed)).outcome = .done := by
  rw [recursionLimit, entry, W.run_intake]
  exact (loopBound_seed W seed).done

/-- **The investigation loop is bounded.** Whatever the LLM and the collectors
answer, a run of the graph reaches the end through its one Coordinator, within
the stated numbers of nodes, and the attempts behave as a counter. -/
theorem run_bounded (seed : IncidentState) :
    let r := W.run recursionLimit [] (entry seed)
    let a := seed.investigationAttempts
    r.outcome = .done ∧
    (∃ pre, r.visited = pre ++ [.coordinator] ∧ .coordinator ∉ pre) ∧
    r.visited.count .investigator ≤ max 1 (5 - a) ∧
    r.visited.count .collectors ≤ 4 - a ∧
    r.visited.length ≤ 11 ∧ 11 < recursionLimit ∧
    Workflow.Chain AttemptsStep (entry seed) r.commits ∧
    ∀ p ∈ r.commits, p.2.state.investigationAttempts ≤ max a 5 := by
  intro r a
  have hloop := loopBound_seed W seed
  have hrun : r = (W.run 24 [.intake] ⟨W.accept [] seed, some .investigator⟩).cons .intake
      ⟨W.accept [] seed, some .investigator⟩ := W.run_intake 24 [] seed
  have hchain : Workflow.Chain AttemptsStep (entry seed) r.commits :=
    chain_attemptsStep W recursionLimit [] seed
  obtain ⟨pre, hvisited, hpre⟩ := hloop.last
  have hinv := hloop.investigator_le
  have hcoll := hloop.collectors_le
  have hlen := hloop.length_le
  have ha : a = seed.investigationAttempts := rfl
  rw [maxInvestigationAttempts, ← ha] at hinv hcoll hlen
  rw [hrun] at hchain ⊢
  refine ⟨hloop.done, ⟨.intake :: pre, ?_, ?_⟩, ?_, ?_, ?_, by decide, hchain, ?_⟩
  · rw [Workflow.Run.visited_cons, hvisited, List.cons_append]
  · simpa using hpre
  · simpa [List.count_cons] using hinv
  · simp only [Workflow.Run.visited_cons, List.count_cons]
    simp
    omega
  · simp only [Workflow.Run.visited_cons, List.length_cons]
    omega
  · -- A step stays below the cap or does not increase.
    apply hchain.invariant (P := fun c => c.state.investigationAttempts ≤ max a 5)
    · intro c v c' hstep hle
      have hcap := hstep.next_le_cap
      rw [maxInvestigationAttempts] at hcap
      omega
    · exact Nat.le_max_left _ _

end Runs

end AlphE.Orchestrator
