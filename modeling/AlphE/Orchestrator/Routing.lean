import AlphE.Orchestrator.Fallible
import AlphE.Nodes.Repair

/-!
The routing functions (`orchestrator/routing.py`) beside the edges of the
compiled graph. A routing function looks at what the node before it produced:
the plan, the Verifier's result, the Reviewer's output, or the state. The
compiled graph asks one of them only, after the Investigator; its other edges
are fixed.

Both are ways of routing one workflow, whose nodes return a product beside their
update and whose state remembers the last product.
-/

namespace AlphE.Orchestrator

open Nodes

/-! ### The routing functions -/

/-- `MAX_DEV_VERIFY_ITERATIONS`, which no routing function reads. -/
def maxDevVerifyIterations : ℕ := 3

/-- `route_after_planner`. -/
def routeAfterPlanner (plan : RemediationPlan) : Node :=
  if plan.type = .pr then .dev else .coordinator

/-- `route_after_verifier`. -/
def routeAfterVerifier (result : VerifierResult) : Node :=
  match result.kind with
  | .passed => .reviewer
  | .implementationError => .dev
  | .diagnosisInvalidated => .investigator

/-- `route_after_reviewer`. -/
def routeAfterReviewer (challengesRootCause : Bool) : Node :=
  if challengesRootCause then .investigator else .dev

/-- What a node hands to the routing, beside its update of the state. -/
def Produces : Node → Type
  | .planner => RemediationPlan
  | .verifier => VerifierResult
  | .reviewer => Option ReviewerOutput
  | _ => Unit

/-- The Reviewer's challenge decision; a Reviewer that skipped challenges
nothing. -/
def challenges (output : Option ReviewerOutput) : Bool :=
  output.any fun o => o.decision = .challengeRootCause

/-- The node the routing module prescribes after a node. -/
def prescribed : (v : Node) → Produces v → IncidentState → Option Node
  | .planner, plan, _ => some (routeAfterPlanner plan)
  | .verifier, result, _ => some (routeAfterVerifier result)
  | .reviewer, output, _ => some (routeAfterReviewer (challenges output))
  | .intake, _, s => route .intake s
  | .investigator, _, s => some (routeAfterInvestigator s)
  | .collectors, _, s => route .collectors s
  | .dev, _, s => route .dev s
  | .coordinator, _, s => route .coordinator s

/-! ### The two graphs -/

/-- What a node returns or raises, after the nodes before it, with its
product. -/
abbrev NodeOutputs :=
  List Node → (v : Node) → IncidentState → Except String (StateUpdate × Produces v)

/-- The state, with what the last node produced. -/
structure Logged where
  state : IncidentState
  output : Option (Σ v, Produces v) := none

/-- The configuration a run starts from. -/
def loggedEntry (seed : IncidentState) : Config Node Logged :=
  { state := { state := seed }, next := some .intake }

/-- The routing module's choice on a logged state. -/
def prescribedNext (l : Logged) : Option Node :=
  match l.output with
  | some ⟨v, p⟩ => prescribed v p l.state
  | none => none

/-- The compiled graph. -/
def compiledGraph (outputs : NodeOutputs) : Workflow Node Logged String where
  exec before v l := (outputs before v l.state).map fun q =>
    { state := l.state.merge q.1, output := some ⟨v, q.2⟩ }
  route v l := route v l.state

/-- The graph that asks the routing functions. -/
def routedGraph (outputs : NodeOutputs) : Workflow Node Logged String :=
  (compiledGraph outputs).withRoute fun _ l => prescribedNext l

/-- A node that completes logs its product. -/
theorem compiledGraph_exec_eq_ok {outputs : NodeOutputs} {before : List Node} {v : Node}
    {l l' : Logged} (h : (compiledGraph outputs).exec before v l = .ok l') :
    ∃ u p, outputs before v l.state = .ok (u, p) ∧
      l' = { state := l.state.merge u, output := some ⟨v, p⟩ } := by
  change (outputs before v l.state).map _ = .ok l' at h
  cases hq : outputs before v l.state with
  | error e =>
      rw [hq] at h
      cases h
  | ok q =>
      rw [hq] at h
      cases h
      exact ⟨q.1, q.2, rfl, rfl⟩

section Graphs

variable {outputs : NodeOutputs} {before : List Node} {v : Node} {l : Logged}
  {u : StateUpdate} {p : Produces v}

theorem compiledGraph_exec (h : outputs before v l.state = .ok (u, p)) :
    (compiledGraph outputs).exec before v l =
      .ok { state := l.state.merge u, output := some ⟨v, p⟩ } := by
  show (outputs before v l.state).map _ = _
  rw [h]
  rfl

theorem compiledGraph_run_cons {limit : ℕ} (h : outputs before v l.state = .ok (u, p)) :
    (compiledGraph outputs).run (limit + 1) before ⟨l, some v⟩ =
      ((compiledGraph outputs).run limit (before ++ [v])
        ⟨{ state := l.state.merge u, output := some ⟨v, p⟩ },
          route v (l.state.merge u)⟩).cons v
        ⟨{ state := l.state.merge u, output := some ⟨v, p⟩ },
          route v (l.state.merge u)⟩ :=
  Workflow.run_of_ok _ (compiledGraph_exec h)

theorem mem_compiledGraph_run {limit : ℕ} {q : Node × Config Node Logged}
    (h : outputs before v l.state = .ok (u, p))
    (hmem : q ∈ ((compiledGraph outputs).run limit (before ++ [v])
      ⟨{ state := l.state.merge u, output := some ⟨v, p⟩ },
        route v (l.state.merge u)⟩).commits) :
    q ∈ ((compiledGraph outputs).run (limit + 1) before ⟨l, some v⟩).commits := by
  rw [compiledGraph_run_cons h]
  exact List.mem_cons_of_mem _ hmem

end Graphs

/-! ### Where they agree -/

/-- The products on which the fixed edge of the compiled graph is the one the
routing module prescribes. -/
def Agrees : (v : Node) → Produces v → Prop
  | .planner, plan => plan.type ≠ .pr
  | .verifier, result => result.kind = .passed
  | .reviewer, _ => False
  | _, _ => True

/-- One step: the edge is the prescribed one exactly on those products. -/
theorem route_eq_prescribed_iff (v : Node) (p : Produces v) (s : IncidentState) :
    route v s = prescribed v p s ↔ Agrees v p := by
  cases v with
  | planner =>
      show some Node.coordinator = some (routeAfterPlanner p) ↔ p.type ≠ .pr
      unfold routeAfterPlanner
      split
      · next htype => simp [htype]
      · next htype => simp [htype]
  | verifier =>
      show some Node.reviewer = some (routeAfterVerifier p) ↔ p.kind = .passed
      unfold routeAfterVerifier
      cases p.kind <;> simp
  | reviewer =>
      show some Node.coordinator = some (routeAfterReviewer (challenges p)) ↔ False
      unfold routeAfterReviewer
      split <;> simp
  | intake => exact iff_of_true rfl trivial
  | investigator => exact iff_of_true rfl trivial
  | collectors => exact iff_of_true rfl trivial
  | dev => exact iff_of_true rfl trivial
  | coordinator => exact iff_of_true rfl trivial

/-- The product a step logged agrees with the edge taken. -/
def OutputAgrees (l : Logged) : Prop :=
  match l.output with
  | some ⟨v, p⟩ => Agrees v p
  | none => True

section Runs

variable (outputs : NodeOutputs) (limit : ℕ) (before : List Node) (c : Config Node Logged)

/-- Every step of the compiled graph logs its product and takes the fixed
edge. -/
theorem compiledGraph_takesEdge :
    ∀ p ∈ ((compiledGraph outputs).run limit before c).commits,
      ∃ product : Produces p.1, p.2.state.output = some ⟨p.1, product⟩ ∧
        p.2.next = route p.1 p.2.state.state := by
  apply Workflow.run_forall (compiledGraph outputs) (Q := fun v (c' : Config Node Logged) =>
    ∃ product : Produces v,
      c'.state.output = some ⟨v, product⟩ ∧ c'.next = route v c'.state.state)
  intro before v l l' hexec
  obtain ⟨u, product, -, rfl⟩ := compiledGraph_exec_eq_ok hexec
  exact ⟨product, rfl, rfl⟩

/-- A step goes where it is sent exactly when its product agrees. -/
theorem next_eq_prescribedNext_iff {p : Node × Config Node Logged}
    (h : p ∈ ((compiledGraph outputs).run limit before c).commits) :
    p.2.next = prescribedNext p.2.state ↔ OutputAgrees p.2.state := by
  obtain ⟨product, houtput, hnext⟩ := compiledGraph_takesEdge outputs limit before c p h
  rw [prescribedNext, OutputAgrees, houtput, hnext]
  exact route_eq_prescribed_iff p.1 product p.2.state.state

/-- The compiled graph implements the routing functions in this run: every step
goes where the routing module sends it, and the run is one of the routed
graph. -/
structure ImplementsRouting : Prop where
  step : ∀ p ∈ ((compiledGraph outputs).run limit before c).commits,
    p.2.next = prescribedNext p.2.state
  run : (compiledGraph outputs).run limit before c = (routedGraph outputs).run limit before c

/-- **When the compiled graph implements the routing functions.** Exactly in the
runs without a plan of type `pr`, without a Verifier result other than `passed`,
and without a Reviewer. -/
theorem implementsRouting_iff :
    ImplementsRouting outputs limit before c ↔
      ∀ p ∈ ((compiledGraph outputs).run limit before c).commits, OutputAgrees p.2.state := by
  have hstep : (∀ p ∈ ((compiledGraph outputs).run limit before c).commits,
        p.2.next = prescribedNext p.2.state) ↔
      ∀ p ∈ ((compiledGraph outputs).run limit before c).commits, OutputAgrees p.2.state :=
    forall₂_congr fun p h => next_eq_prescribedNext_iff outputs limit before c h
  have hrun := (compiledGraph outputs).run_eq_withRoute_iff
    (fun _ l => prescribedNext l) limit before c
  constructor
  · intro h
    exact hstep.mp h.step
  · intro h
    exact ⟨hstep.mpr h, hrun.mpr (hstep.mpr h)⟩

end Runs

/-! ### The nodes of the repository -/

/-- A fallible world with the answers of the LLM to the Verifier and to the
Reviewer. -/
structure Agents (κ ν : Type) extends Fallible κ ν where
  dryRun : DryRun
  verifierAnswer : ℕ → Except String VerifierLLMOutput
  reviewerAnswer : ℕ → Except String ReviewerOutput

namespace Agents

variable {κ ν : Type} (A : Agents κ ν)

def verifierOutput (before : List Node) (s : IncidentState) :
    Except String (StateUpdate × VerifierResult) :=
  verifierNode A.dryRun (A.clock before) (A.verifierAnswer (before.count .verifier)) s

def reviewerOutput (before : List Node) (s : IncidentState) :
    Except String (StateUpdate × Option ReviewerOutput) :=
  reviewerNode A.isprintable (A.clock before) (A.reviewerAnswer (before.count .reviewer)) s

/-- The world whose other nodes are the Dev, Verifier and Reviewer nodes. -/
def world : Fallible κ ν :=
  { A.toFallible with
    otherNode := fun before v s =>
      match v with
      | .dev => .ok (devNode (A.clock before) s)
      | .verifier => (A.verifierOutput before s).map Prod.fst
      | .reviewer => (A.reviewerOutput before s).map Prod.fst
      | _ => .error "no such node" }

/-- What the nodes return or raise, with their products. -/
def outputs : NodeOutputs
  | before, .intake, s => (A.world.update before .intake s).map fun u => (u, ())
  | before, .investigator, s => (A.world.update before .investigator s).map fun u => (u, ())
  | before, .collectors, s => (A.world.update before .collectors s).map fun u => (u, ())
  | before, .planner, s => (A.world.update before .planner s).map fun u =>
      (u, gatedPlan (A.plannerAnswer (before.count .planner)))
  | before, .dev, s => (A.world.update before .dev s).map fun u => (u, ())
  | before, .verifier, s => A.verifierOutput before s
  | before, .reviewer, s => A.reviewerOutput before s
  | before, .coordinator, s => (A.world.update before .coordinator s).map fun u => (u, ())

/-- The products come beside the updates. -/
theorem map_fst_outputs (before : List Node) (v : Node) (s : IncidentState) :
    (A.outputs before v s).map Prod.fst = A.world.update before v s := by
  have hpair : ∀ {α : Type} (x : Except String StateUpdate) (a : α),
      (x.map fun u => (u, a)).map Prod.fst = x := by
    intro α x a
    cases x <;> rfl
  cases v with
  | verifier => rfl
  | reviewer => rfl
  | planner => exact hpair _ _
  | intake => exact hpair (A.world.update before .intake s) ()
  | investigator => exact hpair (A.world.update before .investigator s) ()
  | collectors => exact hpair (A.world.update before .collectors s) ()
  | dev => exact hpair (A.world.update before .dev s) ()
  | coordinator => exact hpair (A.world.update before .coordinator s) ()

/-- Without the products, a run of the compiled graph is a run of the graph. -/
theorem run_eq_mapState (limit : ℕ) (before : List Node) (l : Logged)
    (next : Option Node) :
    A.world.run limit before ⟨l.state, next⟩ =
      ((compiledGraph A.outputs).run limit before ⟨l, next⟩).mapState Logged.state := by
  apply Workflow.run_mapState (compiledGraph A.outputs) (graph A.world.update) Logged.state
  · intro before v l
    show (A.world.update before v l.state).map l.state.merge =
      ((A.outputs before v l.state).map _).map Logged.state
    rw [← A.map_fst_outputs]
    cases A.outputs before v l.state <;> rfl
  · intro v l
    rfl

end Agents

/-! ### A plan of type `pr` -/

/-- The LLM confirms a root cause at once and plans a pull request. -/
def pullRequestWorld : Agents Unit Unit where
  toWorld :=
    { silentWorld with
      investigatorAnswer := fun _ =>
        { hypotheses := [Coordinator.testHypothesis .confirmed]
          currentFocusHypothesisId := "hyp_1"
          reasoning := "The heap grows without bound." }
      plannerAnswer := fun _ =>
        { planId := "plan_pr"
          planType := .pr
          rationale := "Fix the leak in the request cache."
          confidence := UnitFloat.one
          targetRepos := ["leaky-service"]
          reasoning := "The defect is in the code." } }
  raises _ _ := none
  dryRun := { checkGitApply := fun _ => (true, ""), checkKubectlDryRun := fun _ => (true, "") }
  verifierAnswer _ := .ok { kind := .passed, reasoning := "Every check passed." }
  reviewerAnswer _ := .ok { decision := .approve, reasoning := "The fix is sound." }

def testIncident : IncidentState := Intake.seedIncident testIntake testAlert "default"

/-- After intake and one tick the Planner is next. -/
theorem routeAfterInvestigator_pullRequest :
    routeAfterInvestigator (pullRequestWorld.tick [.intake]
      (pullRequestWorld.accept [] testIncident)) = .planner := by
  decide

/-- What is planned is a pull request. -/
theorem routeAfterPlanner_pullRequest :
    routeAfterPlanner (gatedPlan (pullRequestWorld.plannerAnswer 0)) = .dev := by
  have hconfident : confidenceThreshold ≤
      (pullRequestWorld.plannerAnswer 0).confidence.val := by
    show (1 / 2 : ℚ) ≤ 1
    norm_num
  rw [gatedPlan_of_confident hconfident]
  rfl

/-- The plan of type `pr` goes to the Coordinator. -/
theorem not_implementsRouting :
    ¬ ∀ (A : Agents Unit Unit) (env : Intake.IntakeEnv) (alert : Intake.AlertmanagerAlert)
      (receiver : String),
      ImplementsRouting A.outputs recursionLimit []
        (loggedEntry (Intake.seedIncident env alert receiver)) := by
  intro h
  have hstep := (h pullRequestWorld testIntake testAlert "default").step
  let s₁ := pullRequestWorld.accept [] testIncident
  let s₂ := pullRequestWorld.tick [.intake] s₁
  let s₃ := pullRequestWorld.plan [.intake, .investigator] s₂
  let plan := gatedPlan (pullRequestWorld.plannerAnswer 0)
  have hmem : (.planner, ⟨{ state := s₃, output := some ⟨.planner, plan⟩ },
      some .coordinator⟩) ∈ ((compiledGraph pullRequestWorld.outputs).run 25 []
        (loggedEntry testIncident)).commits := by
    apply mem_compiledGraph_run rfl
    apply mem_compiledGraph_run (l := ⟨s₁, _⟩) rfl
    show _ ∈ ((compiledGraph pullRequestWorld.outputs).run 23 [.intake, .investigator]
      ⟨⟨s₂, _⟩, some (routeAfterInvestigator s₂)⟩).commits
    rw [routeAfterInvestigator_pullRequest, compiledGraph_run_cons (l := ⟨s₂, _⟩) rfl]
    exact List.mem_cons_self
  have hnext : some Node.coordinator = some (routeAfterPlanner plan) := hstep _ hmem
  rw [routeAfterPlanner_pullRequest] at hnext
  cases hnext

end AlphE.Orchestrator
