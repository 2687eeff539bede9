import AlphE.Nodes.Investigator
import AlphE.Nodes.Collectors
import AlphE.Nodes.Planner
import AlphE.Coordinator.Forward
import AlphE.Security.ActionIntent
import AlphE.Lib.Workflow

/-!
The compiled graph (`orchestrator/graph.py`, `orchestrator/routing.py`): which
node follows which, and the workflow a run of the graph is. The nodes' updates
are merged into the state; the route is taken on the merged state.

`World` collects what a run reads from outside: the clock, the answers of the
LLM and of the collectors in the order they are asked for, the process
environment and the keys. No edge leads to the Dev, Verifier and Reviewer
nodes, whose updates stay arbitrary.
-/

namespace AlphE.Orchestrator

open Nodes Coordinator

inductive Node
  | intake | investigator | collectors | planner
  | dev | verifier | reviewer | coordinator
  deriving DecidableEq, Repr

/-- `MAX_INVESTIGATION_ATTEMPTS` of the router. -/
def maxInvestigationAttempts : ℕ := 5

/-- `route_after_investigator`. The cap is looked at before the hypotheses. -/
def routeAfterInvestigator (state : IncidentState) : Node :=
  if maxInvestigationAttempts ≤ state.investigationAttempts then .coordinator
  else if HasConfirmed state then .planner
  else .collectors

/-- The edges of `build_graph`; `none` is `END`. -/
def route : Node → IncidentState → Option Node
  | .intake, _ => some .investigator
  | .investigator, state => some (routeAfterInvestigator state)
  | .collectors, _ => some .investigator
  | .planner, _ => some .coordinator
  | .dev, _ => some .verifier
  | .verifier, _ => some .reviewer
  | .reviewer, _ => some .coordinator
  | .coordinator, _ => none

/-- Only the Coordinator leads to the end. -/
theorem route_eq_none_iff (v : Node) (s : IncidentState) :
    route v s = none ↔ v = .coordinator := by
  cases v <;> simp [route]

/-- The graph as a workflow, for nodes that return an update or raise. -/
def graph (update : List Node → Node → IncidentState → Except String StateUpdate) :
    Workflow Node IncidentState String where
  exec before v s := (update before v s).map s.merge
  route := route

/-- A node that completes leaves the merge of its update. -/
theorem graph_exec_eq_ok
    {update : List Node → Node → IncidentState → Except String StateUpdate}
    {before : List Node} {v : Node} {s s' : IncidentState}
    (h : (graph update).exec before v s = .ok s') :
    ∃ u, update before v s = .ok u ∧ s' = s.merge u := by
  change (update before v s).map s.merge = .ok s' at h
  cases hu : update before v s with
  | error e =>
      rw [hu] at h
      cases h
  | ok u =>
      rw [hu] at h
      cases h
      exact ⟨u, rfl, rfl⟩

/-- The limit on node executions that a run is left with. -/
def recursionLimit : ℕ := 25

/-- The configuration a run starts from. -/
def entry (seed : IncidentState) : Config Node IncidentState :=
  { state := seed, next := some .intake }

/-! ### The surroundings of a run -/

structure World (κ ν : Type) where
  clock : List Node → DateTime
  isprintable : Char → Bool
  lower : String → String
  environ : String → Option String
  uuid4 : ℕ → String
  sha256 : Bytes → String
  ed25519 : SignatureScheme κ ν
  privateKey : κ
  publicKey : ν
  investigatorAnswer : ℕ → InvestigatorOutput
  plannerAnswer : ℕ → LLMPlannerDecision
  cacheGet : ℕ → String → CollectorInput → Option Finding
  dispatch : ℕ → String → CollectorInput → CollectorOutput ⊕ Finding
  otherNode : List Node → Node → IncidentState → Except String StateUpdate

namespace World

variable {κ ν : Type} (W : World κ ν)

def sign : ActionIntent → ActionIntent :=
  Security.sign W.sha256 W.ed25519 W.privateKey

def verify : ActionIntent → Except String Unit :=
  Security.check W.sha256 W.ed25519 W.isprintable W.publicKey

def collectorsEnv (before : List Node) : CollectorsEnv :=
  { now := W.clock before
    lower := W.lower
    environ := W.environ
    cacheGet := W.cacheGet (before.count .collectors)
    dispatch := W.dispatch (before.count .collectors) }

def coordinatorEnv (before : List Node) : CoordinatorEnv :=
  { now := W.clock before
    uuid4 := W.uuid4
    kubeconfigAgent := W.environ "KUBECONFIG_AGENT"
    isprintable := W.isprintable }

/-- The answer an Investigator tick gets: the answers are asked for one by one,
and a tick at the cap asks for none. -/
def answerAt (before : List Node) : InvestigatorOutput :=
  W.investigatorAnswer (before.count .investigator)

/-- What a node returns, after the nodes `before`. -/
def update (before : List Node) : Node → IncidentState → Except String StateUpdate
  | .intake, s => .ok (intakeNode (W.clock before) s)
  | .investigator, s =>
      .ok (investigatorNode (W.clock before) W.sha256 (W.answerAt before) s)
  | .collectors, s => .ok (collectorsNode (W.collectorsEnv before) s)
  | .planner, s =>
      .ok (plannerNode (W.clock before) W.sign (W.plannerAnswer (before.count .planner)) s)
  | .coordinator, s =>
      .ok (coordinatorNode (W.coordinatorEnv before) W.verify s).update.toStateUpdate
  | v, s => W.otherNode before v s

/-- A run of the graph in this world. -/
def run (limit : ℕ) (before : List Node) (c : Config Node IncidentState) :
    Workflow.Run Node IncidentState String :=
  (graph W.update).run limit before c

theorem run_cons {limit : ℕ} {before : List Node} {v : Node} {s : IncidentState}
    {u : StateUpdate} (h : W.update before v s = .ok u) :
    W.run (limit + 1) before ⟨s, some v⟩ =
      (W.run limit (before ++ [v]) ⟨s.merge u, route v (s.merge u)⟩).cons v
        ⟨s.merge u, route v (s.merge u)⟩ := by
  have hexec : (graph W.update).exec before v s = .ok (s.merge u) := by
    show (W.update before v s).map s.merge = .ok (s.merge u)
    rw [h]
    rfl
  exact (graph W.update).run_of_ok hexec

theorem run_of_error {limit : ℕ} {before : List Node} {v : Node} {s : IncidentState}
    {e : String} (h : W.update before v s = .error e) :
    W.run (limit + 1) before ⟨s, some v⟩ = ⟨[], .raised e⟩ := by
  have hexec : (graph W.update).exec before v s = .error e := by
    show (W.update before v s).map s.merge = .error e
    rw [h]
    rfl
  exact (graph W.update).run_of_error hexec

/-! ### One node at a time -/

section Nodes

variable (limit : ℕ) (before : List Node) (s : IncidentState)

/-- The state after intake. -/
def accept : IncidentState := s.merge (intakeNode (W.clock before) s)

/-- The state after an Investigator tick. -/
def tick : IncidentState :=
  s.merge (investigatorNode (W.clock before) W.sha256 (W.answerAt before) s)

/-- The state after the collectors. -/
def collect : IncidentState := s.merge (collectorsNode (W.collectorsEnv before) s)

/-- The state after planning. -/
def plan : IncidentState :=
  s.merge (plannerNode (W.clock before) W.sign
    (W.plannerAnswer (before.count .planner)) s)

/-- What the Coordinator does on a state. -/
def coordinate : CoordinatorResult :=
  coordinatorNode (W.coordinatorEnv before) W.verify s

theorem run_intake :
    W.run (limit + 1) before ⟨s, some .intake⟩ =
      (W.run limit (before ++ [.intake]) ⟨W.accept before s, some .investigator⟩).cons
        .intake ⟨W.accept before s, some .investigator⟩ :=
  W.run_cons rfl

theorem run_tick :
    W.run (limit + 1) before ⟨s, some .investigator⟩ =
      (W.run limit (before ++ [.investigator])
        ⟨W.tick before s, some (routeAfterInvestigator (W.tick before s))⟩).cons
        .investigator ⟨W.tick before s, some (routeAfterInvestigator (W.tick before s))⟩ :=
  W.run_cons rfl

theorem run_collect :
    W.run (limit + 1) before ⟨s, some .collectors⟩ =
      (W.run limit (before ++ [.collectors])
        ⟨W.collect before s, some .investigator⟩).cons .collectors
        ⟨W.collect before s, some .investigator⟩ :=
  W.run_cons rfl

theorem run_plan :
    W.run (limit + 1) before ⟨s, some .planner⟩ =
      (W.run limit (before ++ [.planner]) ⟨W.plan before s, some .coordinator⟩).cons
        .planner ⟨W.plan before s, some .coordinator⟩ :=
  W.run_cons rfl

theorem run_coordinate :
    W.run (limit + 1) before ⟨s, some .coordinator⟩ =
      ⟨[(.coordinator, ⟨s.merge (W.coordinate before s).update.toStateUpdate, none⟩)],
        .done⟩ := by
  rw [W.run_cons rfl, route, run, Workflow.run_end]
  rfl

theorem tick_attempts :
    (W.tick before s).investigationAttempts =
      if maxInvestigationAttempts ≤ s.investigationAttempts then s.investigationAttempts
      else s.investigationAttempts + 1 :=
  investigatorNode_attempts _ _ _ s

@[simp] theorem collect_attempts :
    (W.collect before s).investigationAttempts = s.investigationAttempts :=
  collectorsNode_attempts _ s

end Nodes

end World

end AlphE.Orchestrator
