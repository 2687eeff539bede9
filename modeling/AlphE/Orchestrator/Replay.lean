import AlphE.Orchestrator.Graph
import AlphE.Coordinator.Protocol
import Mathlib.Data.List.Forall2

/-!
Replaying the audit trail. A run of the graph leaves a timeline behind. Read line by
line, without the World the run saw and without any channel of the state, the
timeline tells which nodes ran, in which order, and what became of the phase, of the
number of investigation attempts, of the findings and of the actions. The reader is
a protocol whose state is a view of the incident; a run of the graph refines it.
-/

namespace AlphE.Orchestrator

open Nodes Coordinator

/-! ### The lines of the timeline -/

/-- How a finding was come by. -/
inductive DispatchOutcome
  | cacheHit | success | failed
  deriving DecidableEq, Repr

def DispatchOutcome.value : DispatchOutcome → String
  | .cacheHit => "cache_hit"
  | .success => "success"
  | .failed => "failed"

inductive RunEvent
  | accepted
  | ticked
  | capReached
  | noFocus
  | collected (collector : {name // name ∈ collectorNames}) (outcome : DispatchOutcome)
      (findingId : String)
  | decided (planId : String)
  | coordinated (e : CoordinatorEvent)

namespace RunEvent

def actor : RunEvent → String
  | accepted => "orchestrator:intake"
  | ticked | capReached => "orchestrator:investigator"
  | noFocus => "orchestrator:collectors"
  | collected collector _ _ => "orchestrator:collectors:" ++ collector.1
  | decided _ => "orchestrator:planner"
  | coordinated _ => Coordinator.actor

def eventType : RunEvent → String
  | accepted => "intake.accepted"
  | ticked => "investigator.tick"
  | capReached => "investigator.cap_reached"
  | noFocus => "collectors.dispatch.no_focus"
  | collected _ outcome _ => "collectors.dispatch." ++ outcome.value
  | decided _ => "planner.decided"
  | coordinated e => e.eventType

def refId : RunEvent → Option String
  | collected _ _ findingId => some findingId
  | decided planId => some planId
  | coordinated e => e.refId
  | _ => none

def written (now : DateTime) (e : RunEvent) : TimelineEvent :=
  { ts := now, actor := e.actor, eventType := e.eventType, refId := e.refId }

def readDispatch : String → Option DispatchOutcome
  | "collectors.dispatch.cache_hit" => some .cacheHit
  | "collectors.dispatch.success" => some .success
  | "collectors.dispatch.failed" => some .failed
  | _ => none

/-- The event a line of the timeline tells of. -/
def read (line : TimelineEvent) : Option RunEvent :=
  match line.actor, line.eventType, line.refId with
  | "orchestrator:intake", "intake.accepted", none => some accepted
  | "orchestrator:investigator", "investigator.tick", none => some ticked
  | "orchestrator:investigator", "investigator.cap_reached", none => some capReached
  | "orchestrator:collectors", "collectors.dispatch.no_focus", none => some noFocus
  | "orchestrator:planner", "planner.decided", some planId => some (decided planId)
  | "orchestrator:coordinator", _, _ => (CoordinatorEvent.read line).map coordinated
  | _, eventType, some findingId =>
      match collectorNames.attach.find? fun name =>
          line.actor = "orchestrator:collectors:" ++ name.1, readDispatch eventType with
      | some collector, some outcome => some (collected collector outcome findingId)
      | _, _ => none
  | _, _, none => none

theorem read_written (now : DateTime) (e : RunEvent) : read (e.written now) = some e := by
  cases e with
  | collected collector outcome findingId =>
      obtain ⟨name, hname⟩ := collector
      have hmem := hname
      simp only [collectorNames, List.mem_cons, List.not_mem_nil, or_false] at hmem
      obtain rfl | rfl | rfl := hmem <;> cases outcome <;> rfl
  | coordinated e =>
      have hread := CoordinatorEvent.read_written
        { now := now, uuid4 := fun _ => "", kubeconfigAgent := none,
          isprintable := fun _ => true } e
      show (CoordinatorEvent.read _).map coordinated = some (coordinated e)
      rw [show CoordinatorEvent.read (written now (coordinated e)) = some e from hread]
      rfl
  | _ => rfl

/-- The node that starts with the event. -/
def node? : RunEvent → Option Node
  | accepted => some .intake
  | ticked | capReached => some .investigator
  | noFocus | collected _ _ _ => some .collectors
  | decided _ => some .planner
  | coordinated .started => some .coordinator
  | coordinated _ => none

end RunEvent

/-! ### The reader -/

/-- What the reader knows about an incident. -/
structure View where
  phase : IncidentPhase
  attempts : ℕ
  findingIds : List String
  actionHashes : List (Option String)
  deriving DecidableEq, Repr

def view (s : IncidentState) : View where
  phase := s.phase
  attempts := s.investigationAttempts
  findingIds := s.findings.map Finding.id
  actionHashes := s.actionsTaken.map Action.intentHash

/-- Where the reader is: a node is next, the router decides, or the Coordinator is at
some stage. -/
inductive Point
  | intake
  | investigator
  | routed
  | coordinator (stage : Stage)
  deriving DecidableEq, Repr

def addFinding (ids : List String) (id : String) : List String :=
  if id ∈ ids then ids else ids ++ [id]

def coordinated (incidentId : String) (s : Stage) (w : View) (e : CoordinatorEvent) :
    Option (Point × View) :=
  (nextStage incidentId s e).map fun s' =>
    (.coordinator s',
      { w with
        phase := s'.phase?.getD w.phase
        actionHashes := w.actionHashes ++ e.actionHash?.toList })

/-- What the reader makes of an event. At the cap the router leads to the Coordinator,
below it to the collectors or to the Planner. -/
def follow (incidentId : String) : Point × View → RunEvent → Option (Point × View)
  | (.intake, w), .accepted => some (.investigator, { w with phase := .investigating })
  | (.investigator, w), .ticked =>
      if maxInvestigationAttempts ≤ w.attempts then none
      else some (.routed, { w with attempts := w.attempts + 1 })
  | (.investigator, w), .capReached =>
      if maxInvestigationAttempts ≤ w.attempts then some (.routed, w) else none
  | (.routed, w), .noFocus =>
      if maxInvestigationAttempts ≤ w.attempts then none else some (.investigator, w)
  | (.routed, w), .collected _ _ findingId =>
      if maxInvestigationAttempts ≤ w.attempts then none
      else some (.investigator, { w with findingIds := addFinding w.findingIds findingId })
  | (.routed, w), .decided _ =>
      if maxInvestigationAttempts ≤ w.attempts then none
      else some (.coordinator .idle, { w with phase := .planning })
  | (.routed, w), .coordinated e =>
      if maxInvestigationAttempts ≤ w.attempts then coordinated incidentId .idle w e
      else none
  | (.coordinator s, w), .coordinated e => coordinated incidentId s w e
  | _, _ => none

def auditTrail (incidentId : String) : Protocol (Point × View) RunEvent where
  next := follow incidentId

/-! ### The Coordinator's part -/

/-- The reader follows the Coordinator through its protocol, and knows the phase of
the stage it is at. -/
theorem after_coordinated {incidentId : String} {s s' : Stage} {w : View}
    {trace : List CoordinatorEvent} (hw : ∀ phase, s.phase? = some phase → w.phase = phase)
    (h : (protocol incidentId).after s trace = some s') :
    ∃ phase, (auditTrail incidentId).after (.coordinator s, w) (trace.map .coordinated) =
      some (.coordinator s',
        { w with
          phase := phase
          actionHashes := w.actionHashes ++ trace.filterMap CoordinatorEvent.actionHash? }) ∧
      ∀ phase', s'.phase? = some phase' → phase = phase' := by
  induction trace generalizing s w with
  | nil =>
      cases h
      exact ⟨w.phase, by simp, hw⟩
  | cons e trace ih =>
      obtain ⟨s₁, hnext, hrest⟩ := Protocol.exists_of_after_cons h
      have hstep : (auditTrail incidentId).next (.coordinator s, w) (.coordinated e) =
          some (.coordinator s₁,
            { w with
              phase := s₁.phase?.getD w.phase
              actionHashes := w.actionHashes ++ e.actionHash?.toList }) := by
        show (nextStage incidentId s e).map _ = _
        rw [show nextStage incidentId s e = some s₁ from hnext]
        rfl
      obtain ⟨phase, hafter, hphase⟩ := ih (s := s₁)
        (w := { w with
          phase := s₁.phase?.getD w.phase
          actionHashes := w.actionHashes ++ e.actionHash?.toList })
        (by intro phase hs₁; simp [hs₁]) hrest
      refine ⟨phase, ?_, hphase⟩
      rw [List.map_cons, Protocol.after_cons_of_next hstep, hafter]
      cases hhash : e.actionHash? <;> simp [hhash]

/-- At the cap the reader expects the Coordinator. -/
theorem after_routed_coordinated {incidentId : String} {w : View}
    {trace : List CoordinatorEvent} (hcap : maxInvestigationAttempts ≤ w.attempts)
    (hne : trace ≠ []) :
    (auditTrail incidentId).after (.routed, w) (trace.map .coordinated) =
      (auditTrail incidentId).after (.coordinator .idle, w) (trace.map .coordinated) := by
  obtain ⟨e, trace, rfl⟩ := List.exists_cons_of_ne_nil hne
  have hnext : (auditTrail incidentId).next (.routed, w) (.coordinated e) =
      (auditTrail incidentId).next (.coordinator .idle, w) (.coordinated e) := if_pos hcap
  rw [List.map_cons, Protocol.after_cons, Protocol.after_cons, hnext]

/-! ### One node at a time -/

/-- The reader stands at the end of a conversation with the Coordinator. -/
def Point.Settled (p : Point) : Prop := ∃ s : Stage, p = .coordinator s ∧ s.phase?.isSome

/-- Where the reader is in a configuration of the graph. -/
def At (c : Config Node IncidentState) (p : Point) : Prop :=
  match c.next with
  | some .intake => p = .intake
  | some .investigator => p = .investigator
  | some .collectors | some .planner =>
      p = .routed ∧ c.state.investigationAttempts < maxInvestigationAttempts
  | some .coordinator =>
      p = .routed ∧ maxInvestigationAttempts ≤ c.state.investigationAttempts ∨
        p = .coordinator .idle
  | none => p.Settled
  | _ => False

theorem At.next_eq_none_iff {c : Config Node IncidentState} {p : Point} (h : At c p) :
    c.next = none ↔ p.Settled := by
  obtain ⟨s, next⟩ := c
  cases next with
  | none => exact ⟨fun _ => h, fun _ => rfl⟩
  | some v =>
      constructor
      · intro hnone
        cases hnone
      rintro ⟨stage, rfl, hphase⟩
      cases v with
      | intake => cases h
      | investigator => cases h
      | collectors => cases h.1
      | planner => cases h.1
      | dev => exact h.elim
      | verifier => exact h.elim
      | reviewer => exact h.elim
      | coordinator =>
          obtain ⟨hrouted, -⟩ | hidle := h
          · cases hrouted
          · cases hidle
            cases hphase

/-- The lines that lead from one configuration to another: the reader goes along with
them, and they name the nodes. -/
def Leads (c : Config Node IncidentState) (vs : List Node)
    (c' : Config Node IncidentState) : Prop :=
  ∀ p, At c p → ∃ p' lines trace, At c' p' ∧
    c'.state.incidentId = c.state.incidentId ∧
    c'.state.timeline = c.state.timeline ++ lines ∧
    List.Forall₂ (fun line e => RunEvent.read line = some e) lines trace ∧
    (auditTrail c.state.incidentId).after (p, view c.state) trace =
      some (p', view c'.state) ∧
    trace.filterMap RunEvent.node? = vs

theorem Leads.refl (c : Config Node IncidentState) : Leads c [] c := by
  intro p hp
  exact ⟨p, [], [], hp, rfl, (List.append_nil _).symm, .nil, rfl, rfl⟩

theorem Leads.trans {c c' c'' : Config Node IncidentState} {vs ws : List Node}
    (h : Leads c vs c') (h' : Leads c' ws c'') : Leads c (vs ++ ws) c'' := by
  intro p hp
  obtain ⟨p', lines, trace, hp', hid, htimeline, hread, hafter, hnodes⟩ := h p hp
  obtain ⟨p'', lines', trace', hp'', hid', htimeline', hread', hafter', hnodes'⟩ := h' p' hp'
  refine ⟨p'', lines ++ lines', trace ++ trace', hp'', hid'.trans hid, ?_,
    List.rel_append hread hread', ?_, ?_⟩
  · rw [htimeline', htimeline, List.append_assoc]
  · rw [Protocol.after_append_of_after hafter, ← hid]
    exact hafter'
  · rw [List.filterMap_append, hnodes, hnodes']

/-- A node that records one event. -/
theorem Leads.event {c c' : Config Node IncidentState} {v : Node} (now : DateTime)
    (e : RunEvent) (hnode : e.node? = some v)
    (hid : c'.state.incidentId = c.state.incidentId)
    (htimeline : c'.state.timeline = c.state.timeline ++ [e.written now])
    (hfollow : ∀ p, At c p → ∃ p', At c' p' ∧
      follow c.state.incidentId (p, view c.state) e = some (p', view c'.state)) :
    Leads c [v] c' := by
  intro p hp
  obtain ⟨p', hp', hnext⟩ := hfollow p hp
  refine ⟨p', _, [e], hp', hid, htimeline, .cons (e.read_written now) .nil, ?_, ?_⟩
  · rw [Protocol.after_singleton]
    exact hnext
  · simp [hnode]

theorem addFinding_ids (findings : List Finding) (finding : Finding) :
    addFinding (findings.map Finding.id) finding.id =
      (if finding.id ∈ findings.map Finding.id then findings
        else findings ++ [finding]).map Finding.id := by
  unfold addFinding
  split
  · rfl
  · rw [List.map_append, List.map_singleton]

/-- The Coordinator starts once. -/
theorem node?_coordinated {incidentId : String} {s s' : Stage}
    {trace : List CoordinatorEvent} (hs : s ≠ .idle)
    (h : (protocol incidentId).after s trace = some s') :
    (trace.map RunEvent.coordinated).filterMap RunEvent.node? = [] := by
  induction trace generalizing s with
  | nil => rfl
  | cons e trace ih =>
      obtain ⟨s₁, hnext, hrest⟩ := Protocol.exists_of_after_cons h
      have hstep : e ≠ .started ∧ s₁ ≠ .idle := by
        have hnext : nextStage incidentId s e = some s₁ := hnext
        constructor
        · rintro rfl
          cases s with
          | idle => exact hs rfl
          | checked outcome => cases outcome <;> cases hnext
          | _ => cases hnext
        · rintro rfl
          unfold nextStage at hnext
          split at hnext <;> (try split at hnext) <;> cases hnext
      have hnode : (RunEvent.coordinated e).node? = none := by
        cases e with
        | started => exact absurd rfl hstep.1
        | _ => rfl
      rw [List.map_cons, List.filterMap_cons_none hnode]
      exact ih hstep.2 hrest

theorem nodes_of_complete {incidentId : String} {s : Stage}
    {trace : List CoordinatorEvent} (h : (protocol incidentId).after .idle trace = some s)
    (hphase : s.phase?.isSome) :
    (trace.map RunEvent.coordinated).filterMap RunEvent.node? = [.coordinator] := by
  cases trace with
  | nil =>
      cases h
      cases hphase
  | cons e trace =>
      obtain ⟨s₁, hnext, hrest⟩ := Protocol.exists_of_after_cons h
      cases e with
      | started =>
          cases hnext
          have hnone := node?_coordinated (by simp) hrest
          exact congrArg (List.cons Node.coordinator) hnone
      | _ => cases hnext

/-- What the Coordinator tells leads to the end. -/
theorem leads_told {s : IncidentState} {env : CoordinatorEnv} {result : CoordinatorResult}
    (h : Told env s.incidentId .idle s.timeline s.actionsTaken [] result) :
    Leads ⟨s, some .coordinator⟩ [.coordinator] ⟨s.merge result.update.toStateUpdate, none⟩ := by
  intro p hp
  obtain ⟨s', trace, calls, added, htells, htimeline, -, hactions, hphase, -⟩ := h
  have hsome : s'.phase?.isSome := Option.isSome_iff_exists.mpr ⟨_, hphase⟩
  have hnodes := nodes_of_complete htells.after hsome
  obtain ⟨phase, hafter, hknown⟩ := after_coordinated (w := view s) (by
    intro phase hidle
    cases hidle) htells.after
  refine ⟨.coordinator s', trace.map (CoordinatorEvent.written env),
    trace.map .coordinated, ⟨s', rfl, hsome⟩, rfl, htimeline, ?_, ?_, hnodes⟩
  · rw [List.forall₂_map_left_iff, List.forall₂_map_right_iff, List.forall₂_same]
    intro e _
    exact (RunEvent.coordinated e).read_written env.now
  · have hview : view (s.merge result.update.toStateUpdate) =
        { view s with
          phase := phase
          actionHashes := (view s).actionHashes ++
            trace.filterMap CoordinatorEvent.actionHash? } := by
      have hhashes : result.update.actionsTaken.map Action.intentHash =
          s.actionsTaken.map Action.intentHash ++
            trace.filterMap CoordinatorEvent.actionHash? := by
        rw [hactions, List.map_append, htells.added_eq]
      rw [hknown _ hphase]
      show View.mk _ _ _ (result.update.actionsTaken.map Action.intentHash) = _
      rw [hhashes]
      rfl
    show _ = some (Point.coordinator s', view (s.merge result.update.toStateUpdate))
    rw [hview, ← hafter]
    obtain ⟨rfl, hcap⟩ | rfl := hp
    · apply after_routed_coordinated hcap
      rintro rfl
      cases hnodes
    · rfl

section Nodes

variable {κ ν : Type} (W : World κ ν) (before : List Node) (s : IncidentState)

theorem leads_accept :
    Leads ⟨s, some .intake⟩ [.intake] ⟨W.accept before s, some .investigator⟩ := by
  refine Leads.event (W.clock before) .accepted rfl rfl rfl ?_
  rintro p rfl
  exact ⟨.investigator, rfl, rfl⟩

theorem at_routeAfterInvestigator (s : IncidentState) :
    At ⟨s, some (routeAfterInvestigator s)⟩ .routed := by
  unfold routeAfterInvestigator
  split
  · next hcap => exact .inl ⟨rfl, hcap⟩
  · next hcap =>
      split
      · exact ⟨rfl, Nat.lt_of_not_le hcap⟩
      · exact ⟨rfl, Nat.lt_of_not_le hcap⟩

theorem leads_tick :
    Leads ⟨s, some .investigator⟩ [.investigator]
      ⟨W.tick before s, some (routeAfterInvestigator (W.tick before s))⟩ := by
  by_cases hcap : maxInvestigationAttempts ≤ s.investigationAttempts
  · have htick : W.tick before s = s.merge
        { investigationAttempts := some s.investigationAttempts
          timeline := some (s.timeline ++
            [investigatorEvent (W.clock before) "investigator.cap_reached"])
          updatedAt := some (W.clock before) } :=
      congrArg s.merge (if_pos hcap)
    apply Leads.event (W.clock before) .capReached rfl
    · rw [htick]
      rfl
    · rw [htick]
      rfl
    · rintro p rfl
      refine ⟨.routed, at_routeAfterInvestigator _, ?_⟩
      rw [htick]
      exact if_pos hcap
  · have htick : W.tick before s = s.merge
        { hypotheses := some (mergeHypotheses s.hypotheses
            ((W.answerAt before).hypotheses.map (ensureId W.sha256)))
          currentFocusHypothesisId := some (some (focusOf (W.answerAt before)
            ((W.answerAt before).hypotheses.map (ensureId W.sha256))))
          investigationAttempts := some (s.investigationAttempts + 1)
          timeline := some (s.timeline ++
            [investigatorEvent (W.clock before) "investigator.tick"])
          updatedAt := some (W.clock before) } :=
      congrArg s.merge (if_neg hcap)
    apply Leads.event (W.clock before) .ticked rfl
    · rw [htick]
      rfl
    · rw [htick]
      rfl
    · rintro p rfl
      refine ⟨.routed, at_routeAfterInvestigator _, ?_⟩
      rw [htick]
      exact if_neg hcap

theorem leads_collect (hattempts : s.investigationAttempts < maxInvestigationAttempts) :
    Leads ⟨s, some .collectors⟩ [.collectors] ⟨W.collect before s, some .investigator⟩ := by
  have hcap : ¬ maxInvestigationAttempts ≤ s.investigationAttempts :=
    Nat.not_le_of_lt hattempts
  cases hfocus : focusHypothesis s with
  | none =>
      have hcollect : W.collect before s = s.merge
          { timeline := some (s.timeline ++ [RunEvent.noFocus.written (W.clock before)])
            updatedAt := some (W.clock before) } := by
        rw [World.collect, collectorsNode, hfocus]
        rfl
      rw [hcollect]
      refine Leads.event (W.clock before) .noFocus rfl rfl rfl ?_
      rintro p ⟨rfl, -⟩
      exact ⟨.investigator, rfl, if_neg hcap⟩
  | some focus =>
      let env := W.collectorsEnv before
      let name := selectCollector env.lower focus.text
      obtain ⟨finding, outcome, hobtained⟩ : ∃ finding outcome,
          obtainFinding env name (collectorInput env s focus) =
            (finding, "collectors.dispatch." ++ DispatchOutcome.value outcome) := by
        unfold obtainFinding
        split
        · next finding _ => exact ⟨finding, .cacheHit, rfl⟩
        · split
          · next output _ => exact ⟨output.finding, .success, rfl⟩
          · next finding _ => exact ⟨finding, .failed, rfl⟩
      have hcollect : W.collect before s = s.merge
          { findings := some
              (if finding.id ∈ s.findings.map Finding.id then s.findings
              else s.findings ++ [finding])
            servicesTouched := some (mergeServicesTouched s.servicesTouched
              (collectorInput env s focus).scopeServices)
            timeline := some (s.timeline ++
              [(RunEvent.collected ⟨name, selectCollector_mem _ _⟩ outcome
                finding.id).written (W.clock before)])
            updatedAt := some (W.clock before) } := by
        rw [World.collect, collectorsNode, hfocus]
        simp only [env, name] at hobtained
        simp only [hobtained]
        rfl
      rw [hcollect]
      refine Leads.event (W.clock before)
        (.collected ⟨name, selectCollector_mem _ _⟩ outcome finding.id) rfl rfl rfl ?_
      rintro p ⟨rfl, -⟩
      refine ⟨.investigator, rfl, (if_neg hcap).trans ?_⟩
      rw [show addFinding (view s).findingIds finding.id = _ from
        addFinding_ids s.findings finding]
      rfl

theorem leads_plan (hattempts : s.investigationAttempts < maxInvestigationAttempts) :
    Leads ⟨s, some .planner⟩ [.planner] ⟨W.plan before s, some .coordinator⟩ := by
  have hcap : ¬ maxInvestigationAttempts ≤ s.investigationAttempts :=
    Nat.not_le_of_lt hattempts
  let event := RunEvent.decided (gatedPlan (W.plannerAnswer (before.count .planner))).id
  obtain ⟨intents, hplan⟩ : ∃ intents, W.plan before s = s.merge
      { phase := some .planning
        timeline := some (s.timeline ++ [event.written (W.clock before)])
        updatedAt := some (W.clock before)
        actionIntents := some intents } := ⟨_, rfl⟩
  rw [hplan]
  refine Leads.event (W.clock before) event rfl rfl rfl ?_
  rintro p ⟨rfl, -⟩
  exact ⟨.coordinator .idle, .inr rfl, if_neg hcap⟩

theorem leads_coordinate :
    Leads ⟨s, some .coordinator⟩ [.coordinator]
      ⟨s.merge (W.coordinate before s).update.toStateUpdate, none⟩ := by
  have htold : Told (W.coordinatorEnv before) s.incidentId .idle s.timeline s.actionsTaken []
      (W.coordinate before s) :=
    coordinatorAsync_told (W.coordinatorEnv before)
      (coordinatorExecutor (W.coordinatorEnv before).toExecEnv) W.verify s
  exact leads_told htold

theorem leads_update {before : List Node} {v : Node} {s : IncidentState} {u : StateUpdate}
    (hp : ∃ p, At ⟨s, some v⟩ p) (h : W.update before v s = .ok u) :
    Leads ⟨s, some v⟩ [v] ⟨s.merge u, route v (s.merge u)⟩ := by
  obtain ⟨p, hp⟩ := hp
  cases v with
  | intake =>
      cases h
      exact leads_accept W before s
  | investigator =>
      cases h
      exact leads_tick W before s
  | collectors =>
      cases h
      exact leads_collect W before s hp.2
  | planner =>
      cases h
      exact leads_plan W before s hp.2
  | coordinator =>
      cases h
      exact leads_coordinate W before s
  | dev => exact hp.elim
  | verifier => exact hp.elim
  | reviewer => exact hp.elim

end Nodes

/-! ### Runs -/

/-- The reader goes along with every run from where it knows to be. -/
theorem leads_run {κ ν : Type} (W : World κ ν) (limit : ℕ) (before : List Node)
    {c : Config Node IncidentState} (hc : ∃ p, At c p) :
    Leads c (W.run limit before c).visited ((W.run limit before c).final c) := by
  have hchain : Workflow.Chain (fun c v c' => Leads c [v] c') c
      (W.run limit before c).commits := by
    apply Workflow.run_chain (P := fun c => ∃ p, At c p)
    · intro before v s s' hp hexec
      obtain ⟨u, hu, rfl⟩ := graph_exec_eq_ok hexec
      have hleads := leads_update W hp hu
      obtain ⟨p, hp⟩ := hp
      obtain ⟨p', -, -, hp', -⟩ := hleads p hp
      exact ⟨⟨p', hp'⟩, hleads⟩
    · exact hc
  exact hchain.compose Leads.refl (fun hstep hrest => hstep.trans hrest)

/-- **The audit trail can be replayed.** The lines that a run of the graph adds to the
timeline, in whatever World and wherever its limit cuts it, are lines the reader
understands. Replaying them leads from the view of the seed to the view of the state
the run leaves (its phase, its number of attempts, the ids of its findings and the
intents its actions are bound to) and names the nodes that ran; the run came to its
end exactly when the reader stands at an end. -/
theorem run_replays {κ ν : Type} (W : World κ ν) (limit : ℕ) (seed : IncidentState) :
    let r := W.run limit [] (entry seed)
    let final := (r.final (entry seed)).state
    ∃ lines p, final.timeline = seed.timeline ++ lines ∧
      ((auditTrail seed.incidentId).reading RunEvent.read).after (.intake, view seed) lines =
        some (p, view final) ∧
      lines.filterMap (fun line => (RunEvent.read line).bind RunEvent.node?) = r.visited ∧
      (r.outcome = .done ↔ p.Settled) := by
  intro r final
  obtain ⟨p, lines, trace, hp, -, htimeline, hread, hafter, hnodes⟩ :=
    leads_run W limit [] (c := entry seed) ⟨.intake, rfl⟩ .intake rfl
  refine ⟨lines, p, htimeline, ?_, ?_, ?_⟩
  · rw [Protocol.after_reading _ hread]
    exact hafter
  · rw [← hnodes]
    clear hafter hnodes htimeline
    induction hread with
    | nil => rfl
    | cons hline _ ih => rw [List.filterMap_cons, List.filterMap_cons, hline, Option.bind_some, ih]
  · have hdone : r.outcome = .done ↔ (r.final (entry seed)).next = none :=
      (graph W.update).run_done_iff limit [] (entry seed)
    rw [hdone]
    exact hp.next_eq_none_iff

end AlphE.Orchestrator
