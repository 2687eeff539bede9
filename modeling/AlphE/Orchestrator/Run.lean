import AlphE.Orchestrator.GivingUp

/-!
`run_once` (`orchestrator/run.py`) over a checkpointer, and what is left of a
run that was interrupted.

A checkpointer keeps a log for each thread: the input, and the merged state
after every node, each with the node that is next. `run_once` looks at the log
of its thread first, and returns the last state in it if there is one. It does
not look at what is next.
-/

namespace AlphE.Orchestrator

open Workflow

/-- What a node returns or raises, after the nodes executed before it. -/
abbrev NodeOutcomes := List Node → Node → IncidentState → Except String StateUpdate

/-- The logs of all threads. -/
abbrev Checkpointer := String → List (Config Node IncidentState)

inductive RunError
  | node (exc : String)
  | graphRecursion
  | noState (incidentId : String)
  deriving DecidableEq, Repr

/-- What a call of `run_once` returns or raises, the checkpointer it leaves, and
the nodes it has executed to the end. -/
structure RunOnce where
  returned : Except RunError IncidentState
  checkpointer : Checkpointer
  executed : List Node

/-- The run of the graph from a seed, for given outcomes of the nodes. -/
def graphRun (outcomes : NodeOutcomes) (seed : IncidentState) :
    Workflow.Run Node IncidentState String :=
  (graph outcomes).run recursionLimit [] (entry seed)

/-- `run_once`; the thread is the incident's id. -/
def runOnce (outcomes : NodeOutcomes) (cp : Checkpointer) (state : IncidentState) :
    RunOnce :=
  match (cp state.incidentId).getLast? with
  | some prior => { returned := .ok prior.state, checkpointer := cp, executed := [] }
  | none =>
      let r := graphRun outcomes state
      let cp' := Function.update cp state.incidentId (r.journal (entry state))
      { returned :=
          match r.outcome with
          | .raised exc => .error (.node exc)
          | .outOfSteps => .error .graphRecursion
          | .done =>
              match (cp' state.incidentId).getLast? with
              | none => .error (.noState state.incidentId)
              | some final => .ok final.state
        checkpointer := cp'
        executed := r.visited }

/-- The checkpointer when the process dies after `k` commits to a thread. -/
def crash (cp : Checkpointer) (thread : String) (k : ℕ) : Checkpointer :=
  Function.update cp thread ((cp thread).take k)

/-! ### One call -/

theorem runOnce_of_prior (outcomes : NodeOutcomes) {cp : Checkpointer}
    {state : IncidentState} {prior : Config Node IncidentState}
    (h : (cp state.incidentId).getLast? = some prior) :
    runOnce outcomes cp state =
      { returned := .ok prior.state, checkpointer := cp, executed := [] } := by
  rw [runOnce, h]

section Fresh

variable (outcomes : NodeOutcomes) {cp : Checkpointer} {state : IncidentState}
  (h : cp state.incidentId = [])

include h

theorem runOnce_checkpointer :
    (runOnce outcomes cp state).checkpointer =
      Function.update cp state.incidentId
        ((graphRun outcomes state).journal (entry state)) := by
  rw [runOnce, h]
  rfl

theorem runOnce_executed :
    (runOnce outcomes cp state).executed = (graphRun outcomes state).visited := by
  rw [runOnce, h]
  rfl

theorem runOnce_returned (hdone : (graphRun outcomes state).outcome = .done) :
    (runOnce outcomes cp state).returned =
      .ok ((graphRun outcomes state).final (entry state)).state := by
  rw [runOnce, h]
  simp only [List.getLast?_nil, hdone, Function.update_self, Run.getLast?_journal]

end Fresh

/-! ### An interrupted run and the call after it -/

section Interrupted

variable (first second : NodeOutcomes) (cp : Checkpointer) (seed again : IncidentState)
  (k : ℕ)

/-- The checkpointer after the first call was interrupted after `k` commits. -/
def interrupted : Checkpointer :=
  crash (runOnce first cp seed).checkpointer seed.incidentId k

/-- The call that comes after the interruption. -/
def secondCall : RunOnce := runOnce second (interrupted first cp seed k) again

/-- The nodes whose checkpoint was committed; the first commit is the input. -/
def committedNodes : List Node := (graphRun first seed).visited.take (k - 1)

/-- The seed whose run the second call has to complete: the one in the log, or
its own when the log is empty. -/
def startSeed : IncidentState := if k = 0 then again else seed

/-- The second call resumes: it returns what an uninterrupted run returns at
the end, one that executes the committed nodes and then those of the second
call. -/
def Resumes : Prop :=
  ∃ s, (secondCall first second cp seed again k).returned = .ok s ∧
    ∃ outcomes : NodeOutcomes,
      let r := graphRun outcomes (startSeed seed again k)
      r.outcome = .done ∧
      (r.final (entry (startSeed seed again k))).state = s ∧
      r.visited = committedNodes first seed k ++
        (secondCall first second cp seed again k).executed

/-- The log of the thread ends at `END`. -/
def ReachedEnd : Prop :=
  ∃ last, (interrupted first cp seed k seed.incidentId).getLast? = some last ∧
    last.next = none

variable {cp} {seed} {again} (hfresh : cp seed.incidentId = [])

include hfresh

theorem interrupted_eq :
    interrupted first cp seed k seed.incidentId =
      ((graphRun first seed).journal (entry seed)).take k := by
  rw [interrupted, crash, runOnce_checkpointer first hfresh, Function.update_self,
    Function.update_self]

/-- The last checkpoint after `n` nodes were committed. -/
theorem getLast?_interrupted (n : ℕ) :
    (interrupted first cp seed (n + 1) seed.incidentId).getLast? =
      some (lastOf (entry seed) ((graphRun first seed).commits.take n)) := by
  rw [interrupted_eq first (n + 1) hfresh, Run.getLast?_take_journal]

variable (hsame : again.incidentId = seed.incidentId)

include hsame

theorem secondCall_of_commit (n : ℕ) :
    (secondCall first second cp seed again (n + 1)).returned =
      .ok (lastOf (entry seed) ((graphRun first seed).commits.take n)).state ∧
    (secondCall first second cp seed again (n + 1)).executed = [] := by
  have hprior := getLast?_interrupted first hfresh n
  rw [← hsame] at hprior
  rw [secondCall, runOnce_of_prior second hprior]
  exact ⟨rfl, rfl⟩

/-- Nothing was committed: the second call is a run of its own. -/
theorem resumes_zero (hdone : (graphRun second again).outcome = .done) :
    Resumes first second cp seed again 0 := by
  have hempty : interrupted first cp seed 0 again.incidentId = [] := by
    rw [hsame, interrupted_eq first 0 hfresh, List.take_zero]
  refine ⟨_, runOnce_returned second hempty hdone, second, hdone, rfl, ?_⟩
  rw [committedNodes, List.take_zero, List.nil_append, secondCall,
    runOnce_executed second hempty]
  rfl

/-- The log ends at the end: the stored state is the result of the first run. -/
theorem resumes_of_reachedEnd (n : ℕ) (hend : ReachedEnd first cp seed (n + 1)) :
    Resumes first second cp seed again (n + 1) := by
  obtain ⟨hreturned, hexecuted⟩ := secondCall_of_commit first second hfresh hsame n
  obtain ⟨last, hlast, hnext⟩ := hend
  rw [getLast?_interrupted first hfresh n, Option.some.injEq] at hlast
  have hfollows := (graph first).run_follows recursionLimit [] (entry seed)
  -- Nothing was cut off, because nothing follows the end.
  have hcut : (graphRun first seed).commits.take n = (graphRun first seed).commits := by
    rw [← List.take_append_drop n ((graph first).run recursionLimit [] (entry seed)).commits]
      at hfollows
    have hdrop := Chain.eq_nil_of_end _ hfollows.append.2 (hlast ▸ hnext)
    exact List.take_of_length_le (List.drop_eq_nil_iff.mp hdrop)
  rw [hcut] at hreturned hlast
  refine ⟨_, hreturned, first, ?_, rfl, ?_⟩
  · rw [startSeed, if_neg (Nat.succ_ne_zero n), graphRun, run_done_iff, ← hnext, ← hlast]
    rfl
  · rw [hexecuted, List.append_nil, committedNodes, startSeed, if_neg (Nat.succ_ne_zero n),
      Nat.add_sub_cancel, Run.visited, ← List.map_take, hcut]

omit hfresh hsame in
/-- A run that ends has executed the Coordinator last. -/
theorem getLast?_visited (outcomes : NodeOutcomes)
    (hdone : (graphRun outcomes seed).outcome = .done) :
    (graphRun outcomes seed).visited.getLast? = some .coordinator := by
  have hfollows := (graph outcomes).run_follows recursionLimit [] (entry seed)
  rw [graphRun, run_done_iff] at hdone
  cases hlast : (graphRun outcomes seed).visited.getLast? with
  | none =>
      -- Nothing was executed, but the entry has a next node.
      have hcommits : (graphRun outcomes seed).commits = [] :=
        List.map_eq_nil_iff.mp (List.getLast?_eq_none_iff.mp hlast)
      rw [Run.final, ← graphRun, hcommits] at hdone
      cases hdone
  | some v =>
      have hroute := hfollows.next_lastOf _ v hlast
      rw [Run.final] at hdone
      rw [hdone] at hroute
      rw [(route_eq_none_iff v _).mp hroute.symm]

/-- A call that resumes after a commit has found the end in the log: it executes
nothing, so the committed nodes are all there is, and the last of them is the
Coordinator. -/
theorem reachedEnd_of_resumes (n : ℕ)
    (h : Resumes first second cp seed again (n + 1)) :
    ReachedEnd first cp seed (n + 1) := by
  obtain ⟨s, -, outcomes, hdone, -, hvisited⟩ := h
  rw [(secondCall_of_commit first second hfresh hsame n).2, List.append_nil, startSeed,
    if_neg (Nat.succ_ne_zero n), committedNodes, Nat.add_sub_cancel] at hvisited
  rw [startSeed, if_neg (Nat.succ_ne_zero n)] at hdone
  have hlast := getLast?_visited outcomes hdone
  rw [hvisited, Run.visited, ← List.map_take] at hlast
  have hfollows := (graph first).run_follows recursionLimit [] (entry seed)
  rw [← List.take_append_drop n ((graph first).run recursionLimit [] (entry seed)).commits]
    at hfollows
  have hroute := hfollows.append.1.next_lastOf _ _ hlast
  refine ⟨_, getLast?_interrupted first hfresh n, hroute.trans ?_⟩
  rfl

end Interrupted

/-- **When `run_once` resumes.** Provided that a run from scratch would not be
interrupted in its turn, the second call resumes exactly when nothing was
committed, so that there is nothing to resume, or the first run had ended. -/
theorem runOnce_resumes_iff (first second : NodeOutcomes) (cp : Checkpointer)
    (seed again : IncidentState) (k : ℕ) (hfresh : cp seed.incidentId = [])
    (hsame : again.incidentId = seed.incidentId)
    (hdone : k = 0 → (graphRun second again).outcome = .done) :
    Resumes first second cp seed again k ↔ k = 0 ∨ ReachedEnd first cp seed k := by
  cases k with
  | zero =>
      constructor
      · intro _
        exact .inl rfl
      · intro _
        exact resumes_zero first second hfresh hsame (hdone rfl)
  | succ n =>
      constructor
      · intro h
        exact .inr (reachedEnd_of_resumes first second hfresh hsame n h)
      · rintro (h | h)
        · exact absurd h (Nat.succ_ne_zero n)
        · exact resumes_of_reachedEnd first second hfresh hsame n h

/-! ### A crash after intake -/

/-- A checkpointer that has seen nothing. -/
def emptyCheckpointer : Checkpointer := fun _ => []

def testSeed : IncidentState := Intake.seedIncident testIntake testAlert "default"

theorem runOnce_resumes_iff_testSeed :
    Resumes silentWorld.update silentWorld.update emptyCheckpointer testSeed testSeed 2 ↔
      2 = 0 ∨ ReachedEnd silentWorld.update emptyCheckpointer testSeed 2 :=
  runOnce_resumes_iff silentWorld.update silentWorld.update emptyCheckpointer testSeed
    testSeed 2 rfl rfl (fun h => absurd h (by decide))

/-- The process dies when the input and the state after intake are committed.
The second call returns that state, with the Investigator still to come. -/
theorem not_runOnce_resumes :
    ¬ ∀ (first second : NodeOutcomes) (cp : Checkpointer) (seed again : IncidentState)
      (k : ℕ), cp seed.incidentId = [] → again.incidentId = seed.incidentId →
      (graphRun second again).outcome = .done →
      Resumes first second cp seed again k := by
  intro h
  have hresumes := h silentWorld.update silentWorld.update emptyCheckpointer testSeed
    testSeed 2 rfl rfl (run_done silentWorld testSeed)
  obtain ⟨last, hlast, hend⟩ := reachedEnd_of_resumes _ _ rfl rfl 1 hresumes
  have hrun : graphRun silentWorld.update testSeed =
      (silentWorld.run 24 [.intake]
        ⟨silentWorld.accept [] testSeed, some .investigator⟩).cons .intake
        ⟨silentWorld.accept [] testSeed, some .investigator⟩ :=
    silentWorld.run_intake 24 [] testSeed
  rw [getLast?_interrupted _ rfl, hrun, Run.commits_cons, List.take_succ_cons,
    List.take_zero, lastOf_cons, lastOf_nil, Option.some.injEq] at hlast
  rw [← hlast] at hend
  cases hend

end AlphE.Orchestrator
