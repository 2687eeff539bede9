import AlphE.Orchestrator.Routing
import AlphE.Coordinator.FailClosed

/-!
The audit trail. Every node rebuilds whole lists, and the graph overwrites the
channels with them; so whether history is kept is up to each branch of each
node. Each of the eight nodes has one lemma here, and a run has the induction
over its journal.

A channel has one node that writes it, the phase, the timeline and the time of
the last update apart.
-/

namespace AlphE.Orchestrator

open Nodes Coordinator

/-! ### What is kept -/

/-- The second state has the history of the first. -/
structure Extends (s s' : IncidentState) : Prop where
  incidentId_eq : s'.incidentId = s.incidentId
  alert_eq : s'.alert = s.alert
  createdAt_eq : s'.createdAt = s.createdAt
  timeline : s.timeline <+: s'.timeline
  actionsTaken : s.actionsTaken <+: s'.actionsTaken
  actionIntents : s.actionIntents <+: s'.actionIntents
  findings : s.findings <+: s'.findings
  hypotheses : s.hypotheses.map Hypothesis.id ⊆ s'.hypotheses.map Hypothesis.id
  servicesTouched : s.servicesTouched ⊆ s'.servicesTouched

theorem Extends.refl (s : IncidentState) : Extends s s :=
  ⟨rfl, rfl, rfl, List.prefix_rfl, List.prefix_rfl, List.prefix_rfl, List.prefix_rfl,
    List.Subset.refl _, List.Subset.refl _⟩

theorem Extends.trans {s t u : IncidentState} (h : Extends s t) (h' : Extends t u) :
    Extends s u where
  incidentId_eq := h'.incidentId_eq.trans h.incidentId_eq
  alert_eq := h'.alert_eq.trans h.alert_eq
  createdAt_eq := h'.createdAt_eq.trans h.createdAt_eq
  timeline := h.timeline.trans h'.timeline
  actionsTaken := h.actionsTaken.trans h'.actionsTaken
  actionIntents := h.actionIntents.trans h'.actionIntents
  findings := h.findings.trans h'.findings
  hypotheses := List.Subset.trans h.hypotheses h'.hypotheses
  servicesTouched := List.Subset.trans h.servicesTouched h'.servicesTouched

/-- What a node guarantees of the state it leaves: the history is extended, by an
event at least, and the channels of the other nodes are as they were. -/
structure Audited (v : Node) (s s' : IncidentState) : Prop extends Extends s s' where
  records : s.timeline ≠ s'.timeline
  ofInvestigator : v ≠ .investigator →
    s'.hypotheses = s.hypotheses ∧
    s'.currentFocusHypothesisId = s.currentFocusHypothesisId ∧
    s'.investigationAttempts = s.investigationAttempts
  ofCollectors : v ≠ .collectors →
    s'.findings = s.findings ∧ s'.servicesTouched = s.servicesTouched
  ofPlanner : v ≠ .planner → s'.actionIntents = s.actionIntents
  ofCoordinator : v ≠ .coordinator → s'.actionsTaken = s.actionsTaken
  phase_eq : v = .investigator ∨ v = .collectors → s'.phase = s.phase

theorem ne_append_cons {α : Type} (xs ys : List α) (y : α) : xs ≠ xs ++ y :: ys := by
  simp

/-! ### The nodes, one by one -/

section Nodes

variable (now : DateTime) (s : IncidentState)

/-- An event and, for most nodes, a phase. -/
theorem audited_event (v : Node) (phase : Option IncidentPhase) (event : TimelineEvent)
    (hphase : v = .investigator ∨ v = .collectors → phase = none) :
    Audited v s (s.merge
      { phase := phase, timeline := some (s.timeline ++ [event]), updatedAt := some now }) where
  incidentId_eq := rfl
  alert_eq := rfl
  createdAt_eq := rfl
  timeline := List.prefix_append _ _
  actionsTaken := List.prefix_rfl
  actionIntents := List.prefix_rfl
  findings := List.prefix_rfl
  hypotheses := List.Subset.refl _
  servicesTouched := List.Subset.refl _
  records := ne_append_cons _ _ _
  ofInvestigator _ := ⟨rfl, rfl, rfl⟩
  ofCollectors _ := ⟨rfl, rfl⟩
  ofPlanner _ := rfl
  ofCoordinator _ := rfl
  phase_eq hv := by
    rw [hphase hv]
    rfl

theorem audited_investigatorNode (sha256 : Bytes → String) (answer : InvestigatorOutput) :
    Audited .investigator s (s.merge (investigatorNode now sha256 answer s)) := by
  unfold investigatorNode
  split
  · -- At the cap nothing is merged.
    have hcap := audited_event now s .investigator none
      (investigatorEvent now "investigator.cap_reached") (fun _ => rfl)
    exact { hcap with }
  · refine ⟨⟨rfl, rfl, rfl, List.prefix_append _ _, List.prefix_rfl, List.prefix_rfl,
      List.prefix_rfl, ?_, List.Subset.refl _⟩, ne_append_cons _ _ _, ?_, ?_, ?_, ?_, ?_⟩
    · intro id hid
      exact (mem_ids_mergeHypotheses _ _ id).mpr (.inl hid)
    · intro hne
      exact absurd rfl hne
    · intro _
      exact ⟨rfl, rfl⟩
    · intro _
      rfl
    · intro _
      rfl
    · intro _
      rfl

theorem audited_collectorsNode (env : CollectorsEnv) :
    Audited .collectors s (s.merge (collectorsNode env s)) := by
  unfold collectorsNode
  split
  · exact audited_event env.now s .collectors none _ (fun _ => rfl)
  · refine ⟨⟨rfl, rfl, rfl, List.prefix_append _ _, List.prefix_rfl, List.prefix_rfl, ?_,
      List.Subset.refl _, ?_⟩, ne_append_cons _ _ _, ?_, ?_, ?_, ?_, ?_⟩
    · -- A finding that is there already is not added again.
      show s.findings <+: if _ then s.findings else s.findings ++ _
      split
      · exact List.prefix_rfl
      · exact List.prefix_append _ _
    · intro x hx
      show x ∈ mergeServicesTouched s.servicesTouched _
      rw [mergeServicesTouched, mem_sortedSet, List.mem_append]
      exact .inl hx
    · intro _
      exact ⟨rfl, rfl, rfl⟩
    · intro hne
      exact absurd rfl hne
    · intro _
      rfl
    · intro _
      rfl
    · intro _
      rfl

theorem audited_plannerNode (sign : ActionIntent → ActionIntent)
    (decision : LLMPlannerDecision) :
    Audited .planner s (s.merge (plannerNode now sign decision s)) := by
  refine ⟨⟨rfl, rfl, rfl, List.prefix_append _ _, List.prefix_rfl, List.prefix_append _ _,
    List.prefix_rfl, List.Subset.refl _, List.Subset.refl _⟩, ne_append_cons _ _ _,
    ?_, ?_, ?_, ?_, ?_⟩
  · intro _
    exact ⟨rfl, rfl, rfl⟩
  · intro _
    exact ⟨rfl, rfl⟩
  · intro hne
    exact absurd rfl hne
  · intro _
    rfl
  · rintro (hv | hv) <;> cases hv

/-- The Coordinator, with any executor. -/
theorem audited_coordinatorAsync {σ : Type} (env : CoordinatorEnv)
    (verify : ActionIntent → Except String Unit) (executor : Executor σ) :
    Audited .coordinator s
      (s.merge (coordinatorAsync env verify executor s).update.toStateUpdate) := by
  have htimeline := coordinatorAsync_timeline env executor s verify
  obtain ⟨added, hadded, -⟩ := coordinatorAsync_licensed env verify executor s
  have hstarted : s.timeline <+: startedTimeline env s := List.prefix_append _ _
  refine ⟨⟨rfl, rfl, rfl, hstarted.trans htimeline, ?_, List.prefix_rfl, List.prefix_rfl,
    List.Subset.refl _, List.Subset.refl _⟩, ?_, ?_, ?_, ?_, ?_, ?_⟩
  · show s.actionsTaken <+: (coordinatorAsync env verify executor s).update.actionsTaken
    rw [hadded]
    exact List.prefix_append _ _
  · intro heq
    -- The event of the start is on the timeline.
    have hle := htimeline.length_le
    have heq : s.timeline = (coordinatorAsync env verify executor s).update.timeline := heq
    rw [← heq, startedTimeline, List.length_append, List.length_singleton] at hle
    omega
  · intro _
    exact ⟨rfl, rfl, rfl⟩
  · intro _
    exact ⟨rfl, rfl⟩
  · intro _
    rfl
  · intro hne
    exact absurd rfl hne
  · rintro (hv | hv) <;> cases hv

end Nodes

/-! ### The graph -/

section Runs

variable {κ ν : Type} (A : Agents κ ν)

theorem exists_of_map_fst_eq_ok {α β ε : Type} {x : Except ε (α × β)} {a : α}
    (h : x.map Prod.fst = .ok a) : ∃ b, x = .ok (a, b) := by
  cases x with
  | error e => cases h
  | ok p =>
      obtain ⟨a', b⟩ := p
      cases h
      exact ⟨b, rfl⟩

theorem audited_update {before : List Node} {v : Node} {s : IncidentState} {u : StateUpdate}
    (h : A.world.update before v s = .ok u) : Audited v s (s.merge u) := by
  have hnode : A.world.toWorld.update before v s = .ok u := A.world.toWorld_update_of_ok h
  cases v with
  | intake =>
      cases hnode
      exact audited_event _ s .intake _ _ (by simp)
  | investigator =>
      cases hnode
      exact audited_investigatorNode _ s _ _
  | collectors =>
      cases hnode
      exact audited_collectorsNode s _
  | planner =>
      cases hnode
      exact audited_plannerNode _ s _ _
  | dev =>
      cases hnode
      exact audited_event _ s .dev _ _ (by simp)
  | verifier =>
      have hmap : (A.verifierOutput before s).map Prod.fst = .ok u := hnode
      obtain ⟨result, hout⟩ := exists_of_map_fst_eq_ok hmap
      rw [makeVerifierNode_eq_ok hout]
      exact audited_event _ s .verifier _ _ (by simp)
  | reviewer =>
      have hmap : (A.reviewerOutput before s).map Prod.fst = .ok u := hnode
      obtain ⟨output, hout⟩ := exists_of_map_fst_eq_ok hmap
      have hreview : reviewWith A.isprintable (A.clock before)
        (A.reviewerAnswer (before.count .reviewer)) none none s = .ok (u, output) := hout
      obtain ⟨eventType, hu⟩ := reviewWith_eq_ok hreview
      rw [hu]
      exact audited_event _ s .reviewer _ _ (by simp)
  | coordinator =>
      cases hnode
      exact audited_coordinatorAsync s _ _ _

/-- **The audit trail is append-only.** In every run of the graph, of any length
and from any configuration, every node extends the history and leaves the
channels of the others alone, and every state that the run leaves has the history
of all the states before it. -/
theorem run_appendOnly (limit : ℕ) (before : List Node) (c : Config Node IncidentState) :
    let r := A.world.run limit before c
    Workflow.Chain (fun c v c' => Audited v c.state c'.state) c r.commits ∧
    (r.journal c).Pairwise fun c c' => Extends c.state c'.state := by
  intro r
  have hchain : Workflow.Chain (fun c v c' => Audited v c.state c'.state) c r.commits := by
    apply Workflow.run_chain (P := fun _ => True)
    · intro before v s s' _ hexec
      obtain ⟨u, hu, rfl⟩ := graph_exec_eq_ok hexec
      exact ⟨trivial, audited_update A hu⟩
    · trivial
  refine ⟨hchain, ?_⟩
  apply hchain.pairwise (S := fun c c' : Config Node IncidentState => Extends c.state c'.state)
  · intro c v c' h
    exact h.toExtends
  · intro c
    exact .refl _
  · intro a b c hab hbc
    exact hab.trans hbc

end Runs

end AlphE.Orchestrator
