import AlphE.Schemas.Incident
import AlphE.Lib.PyText
import Mathlib.Data.List.Sort
import Mathlib.Data.List.Dedup
import Mathlib.Data.String.Basic

/-!
The Collectors node (`nodes/collectors.py`) with the selection of a collector
(`dispatch/registry.py`). The cache and the HTTP client are functions of the
request: what the cache holds for it, and what the collector's answer is
decoded to.
-/

namespace AlphE.Nodes

/-! ### Selection -/

def collectorProm : String := "prom"

def collectorLoki : String := "loki"

def collectorKube : String := "kube"

/-- `_PREFIX_MAP`, in definition order. -/
def prefixMap : List (String × String) :=
  [("metric.", collectorProm), ("log.", collectorLoki), ("pod.", collectorKube),
    ("event.", collectorKube)]

/-- `select_collector`: the first matching prefix, ignoring case; `prom` when
none matches. -/
def selectCollector (lower : String → String) (hypothesisText : String) : String :=
  match prefixMap.find? fun p => p.1.toList.isPrefixOf (lower hypothesisText).toList with
  | some p => p.2
  | none => collectorProm

/-- The collectors there are. -/
def collectorNames : List String := [collectorProm, collectorLoki, collectorKube]

theorem selectCollector_mem (lower : String → String) (hypothesisText : String) :
    selectCollector lower hypothesisText ∈ collectorNames := by
  unfold selectCollector
  split
  · next p hp =>
      have hmem := List.mem_of_find?_eq_some hp
      simp only [prefixMap, List.mem_cons, List.not_mem_nil, or_false] at hmem
      obtain rfl | rfl | rfl | rfl := hmem <;> simp [collectorNames]
  · simp [collectorNames]

/-! ### The request -/

/-- What the node reads from its surroundings. The cache answers `none` when it
is not configured, when it holds nothing, and when reading it raises. -/
structure CollectorsEnv where
  now : DateTime
  lower : String → String
  environ : String → Option String
  cacheGet : String → CollectorInput → Option Finding
  dispatch : String → CollectorInput → CollectorOutput ⊕ Finding

/-- `_build_time_range`: from ten minutes before the alert fired to now. -/
def buildTimeRange (env : CollectorsEnv) (state : IncidentState) : TimeRange :=
  { start := state.alert.firedAt.addMicros (-DateTime.minutes 10), stop := env.now }

/-- `_build_env_fingerprint`. -/
def buildEnvFingerprint (env : CollectorsEnv) : EnvironmentFingerprint :=
  { cluster := (env.environ "ENV_CLUSTER").getD "k3d-devops-lab"
    account := (env.environ "ENV_ACCOUNT").getD "local"
    region := (env.environ "ENV_REGION").getD "local"
    deployRevision := (env.environ "ENV_DEPLOY_REVISION").getD "unknown"
    rolloutGeneration := (env.environ "ENV_ROLLOUT_GENERATION").getD "0" }

/-- `sorted(set(xs))`. -/
def sortedSet (xs : List String) : List String := xs.dedup.insertionSort (· ≤ ·)

/-- `_scope_services`. -/
def scopeServices (state : IncidentState) : List String :=
  sortedSet (state.alert.service :: state.servicesTouched)

/-- `_merge_services_touched`. -/
def mergeServicesTouched (existing newServices : List String) : List String :=
  sortedSet (existing ++ newServices)

def focusHypothesis (state : IncidentState) : Option Hypothesis :=
  state.hypotheses.find? fun h => some h.id = state.currentFocusHypothesisId

def collectorInput (env : CollectorsEnv) (state : IncidentState) (focus : Hypothesis) :
    CollectorInput :=
  { incidentId := state.incidentId
    question := focus.text
    hypothesisId := focus.id
    timeRange := buildTimeRange env state
    scopeServices := scopeServices state
    environmentFingerprint := buildEnvFingerprint env }

/-! ### The node -/

/-- The finding the node ends up with, and the event it records. A cached
finding keeps the collector from being called. -/
def obtainFinding (env : CollectorsEnv) (collectorName : String)
    (input : CollectorInput) : Finding × String :=
  match env.cacheGet collectorName input with
  | some finding => (finding, "collectors.dispatch.cache_hit")
  | none =>
      match env.dispatch collectorName input with
      | .inl output => (output.finding, "collectors.dispatch.success")
      | .inr finding => (finding, "collectors.dispatch.failed")

/-- `collectors_node`. -/
def collectorsNode (env : CollectorsEnv) (state : IncidentState) : StateUpdate :=
  match focusHypothesis state with
  | none =>
      { timeline := some (state.timeline ++
          [{ ts := env.now
             actor := "orchestrator:collectors"
             eventType := "collectors.dispatch.no_focus" }])
        updatedAt := some env.now }
  | some focus =>
      let collectorName := selectCollector env.lower focus.text
      let input := collectorInput env state focus
      let (finding, eventType) := obtainFinding env collectorName input
      { findings := some
          (if finding.id ∈ state.findings.map Finding.id then state.findings
          else state.findings ++ [finding])
        servicesTouched := some
          (mergeServicesTouched state.servicesTouched input.scopeServices)
        timeline := some (state.timeline ++
          [{ ts := env.now
             actor := "orchestrator:collectors:" ++ collectorName
             eventType := eventType
             refId := some finding.id }])
        updatedAt := some env.now }

@[simp] theorem mem_sortedSet (xs : List String) (x : String) :
    x ∈ sortedSet xs ↔ x ∈ xs := by
  rw [sortedSet, List.mem_insertionSort, List.mem_dedup]

/-! ### What the node leaves alone -/

section Frame

variable (env : CollectorsEnv) (state : IncidentState)

@[simp] theorem collectorsNode_attempts :
    (state.merge (collectorsNode env state)).investigationAttempts =
      state.investigationAttempts := by
  unfold collectorsNode
  split <;> rfl

@[simp] theorem collectorsNode_hypotheses :
    (state.merge (collectorsNode env state)).hypotheses = state.hypotheses := by
  unfold collectorsNode
  split <;> rfl

theorem collectorsNode_focus :
    (state.merge (collectorsNode env state)).currentFocusHypothesisId =
      state.currentFocusHypothesisId := by
  unfold collectorsNode
  split <;> rfl

@[simp] theorem collectorsNode_actionIntents :
    (state.merge (collectorsNode env state)).actionIntents = state.actionIntents := by
  unfold collectorsNode
  split <;> rfl

end Frame

end AlphE.Nodes
