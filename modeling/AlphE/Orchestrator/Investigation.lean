import AlphE.Orchestrator.Graph

/-!
The states of an investigation: what intake, the Investigator and the collectors
can make of a seed, in any order and with any answers. Every state that a run
hands to the collectors is one of them.
-/

namespace AlphE.Orchestrator

open Nodes

/-- What happens in an investigation, with what the node reads and is answered. -/
inductive Tick
  | intake (now : DateTime)
  | investigator (now : DateTime) (answer : InvestigatorOutput)
  | collectors (env : CollectorsEnv)

/-- The state after a tick. -/
def Tick.apply (sha256 : Bytes → String) (s : IncidentState) : Tick → IncidentState
  | .intake now => s.merge (intakeNode now s)
  | .investigator now answer => s.merge (investigatorNode now sha256 answer s)
  | .collectors env => s.merge (collectorsNode env s)

section Investigated

variable (sha256 : Bytes → String) (seed : IncidentState)

inductive Investigated : IncidentState → Prop
  | seed : Investigated seed
  | intake {s : IncidentState} (h : Investigated s) (now : DateTime) :
      Investigated (s.merge (intakeNode now s))
  | investigator {s : IncidentState} (h : Investigated s) (now : DateTime)
      (answer : InvestigatorOutput) :
      Investigated (s.merge (investigatorNode now sha256 answer s))
  | collectors {s : IncidentState} (h : Investigated s) (env : CollectorsEnv) :
      Investigated (s.merge (collectorsNode env s))

variable {sha256 seed}

/-- The identity of the incident stays. -/
theorem Investigated.frame {s : IncidentState} (h : Investigated sha256 seed s) :
    s.alert = seed.alert ∧ s.incidentId = seed.incidentId := by
  induction h with
  | seed => exact ⟨rfl, rfl⟩
  | intake h now ih => exact ih
  | @investigator s h now answer ih =>
      refine ⟨?_, ih.2⟩
      rw [← ih.1, investigatorNode]
      split <;> rfl
  | @collectors s h env ih =>
      refine ⟨?_, ih.2⟩
      rw [← ih.1, collectorsNode]
      split <;> rfl

/-- What holds of the ids of the seed, and of every id the Investigator makes sure
of, holds of all ids. -/
theorem Investigated.ids {P : String → Prop} {s : IncidentState}
    (hseed : ∀ id ∈ seed.hypotheses.map Hypothesis.id, P id)
    (hensure : ∀ h, P (ensureId sha256 h).id) (h : Investigated sha256 seed s) :
    ∀ id ∈ s.hypotheses.map Hypothesis.id, P id := by
  induction h with
  | seed => exact hseed
  | intake h now ih => exact ih
  | @investigator s h now answer ih =>
      by_cases hcap : maxAttempts ≤ s.investigationAttempts
      · rw [investigatorNode, if_pos hcap]
        exact ih
      · rw [investigatorNode_hypotheses _ _ _ _ (Nat.not_le.mp hcap)]
        intro id hid
        rw [mem_ids_mergeHypotheses] at hid
        obtain hid | hid := hid
        · exact ih id hid
        · rw [List.map_map] at hid
          obtain ⟨proposal, -, rfl⟩ := List.mem_map.mp hid
          exact hensure proposal
  | @collectors s h env ih =>
      rw [collectorsNode_hypotheses]
      exact ih

/-- They are what a list of ticks makes of the seed. -/
theorem investigated_iff {s : IncidentState} :
    Investigated sha256 seed s ↔ ∃ ticks : List Tick, ticks.foldl (Tick.apply sha256) seed = s := by
  have hsnoc : ∀ {s : IncidentState} (tick : Tick),
      (∃ ticks : List Tick, ticks.foldl (Tick.apply sha256) seed = s) →
      ∃ ticks : List Tick, ticks.foldl (Tick.apply sha256) seed = tick.apply sha256 s := by
    rintro _ tick ⟨ticks, rfl⟩
    refine ⟨ticks ++ [tick], ?_⟩
    rw [List.foldl_append]
    rfl
  constructor
  · intro h
    induction h with
    | seed => exact ⟨[], rfl⟩
    | intake h now ih => exact hsnoc (.intake now) ih
    | investigator h now answer ih => exact hsnoc (.investigator now answer) ih
    | collectors h env ih => exact hsnoc (.collectors env) ih
  · rintro ⟨ticks, rfl⟩
    induction ticks using List.reverseRecOn with
    | nil => exact .seed
    | append_singleton ticks tick ih =>
        rw [List.foldl_append, List.foldl_cons, List.foldl_nil]
        cases tick with
        | intake now => exact ih.intake now
        | investigator now answer => exact ih.investigator now answer
        | collectors env => exact ih.collectors env

end Investigated

/-- The nodes before planning. -/
def InLoop (next : Option Node) : Prop :=
  next = some .intake ∨ next = some .investigator ∨ next = some .collectors

/-- Every state that a run of the graph hands to one of these nodes is a state of
the investigation. -/
theorem investigated_of_mem_run {κ ν : Type} (W : World κ ν) (limit : ℕ)
    (seed : IncidentState) :
    ∀ p ∈ (W.run limit [] (entry seed)).commits,
      InLoop p.2.next → Investigated W.sha256 seed p.2.state := by
  have hchain : Workflow.Chain
      (fun _ _ c => InLoop c.next → Investigated W.sha256 seed c.state) (entry seed)
      (W.run limit [] (entry seed)).commits := by
    apply Workflow.run_chain
      (P := fun c => InLoop c.next → Investigated W.sha256 seed c.state)
    · intro before v s s' hs hexec
      obtain ⟨u, hu, rfl⟩ := graph_exec_eq_ok hexec
      rw [and_self]
      intro hnext
      cases v with
      | intake =>
          cases hu
          exact (hs (.inl rfl)).intake _
      | investigator =>
          cases hu
          exact (hs (.inr (.inl rfl))).investigator _ _
      | collectors =>
          cases hu
          exact (hs (.inr (.inr rfl))).collectors _
      | planner => simp [InLoop, graph, route] at hnext
      | dev => simp [InLoop, graph, route] at hnext
      | verifier => simp [InLoop, graph, route] at hnext
      | reviewer => simp [InLoop, graph, route] at hnext
      | coordinator => simp [InLoop, graph, route] at hnext
    · intro _
      exact .seed
  exact Workflow.Chain.invariant
    (P := fun c => InLoop c.next → Investigated W.sha256 seed c.state)
    (fun _ _ _ h _ => h) (fun _ => .seed) hchain

end AlphE.Orchestrator
