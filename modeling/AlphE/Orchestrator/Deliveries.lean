import AlphE.Orchestrator.Run

/-!
`run_once` over the life of a service: alerts come in, the same incident is handed in again
and again, processes die, and one checkpointer sees all of it. A thread turns out to be a
register that is written once. The first call for an incident that gets a checkpoint
committed decides what every later call for it returns, however that first call ended; and
what a call does depends on no other incident.

The checkpointer is seen more closely here. What a run commits first is the input, which is
no state yet, and `_coerce` does not accept it.
-/

namespace AlphE.Orchestrator

open Workflow

/-! ### Checkpoints -/

/-- What is committed. The input stands in a channel of its own, without the fields of a
state. -/
inductive Checkpoint
  | input
  | state (c : Config Node IncidentState)

inductive RunOnceError
  | run (err : RunError)
  | validation

namespace Checkpoint

/-- `_coerce`. -/
def coerce : Checkpoint → Except RunOnceError IncidentState
  | .input => .error .validation
  | .state c => .ok c.state

def state? : Checkpoint → Option (Config Node IncidentState)
  | .input => none
  | .state c => some c

end Checkpoint

/-- The checkpoints of all threads. -/
abbrev Saver := String → List Checkpoint

/-- What a run commits: the input, and then its journal. -/
def checkpoints (outcomes : NodeOutcomes) (seed : IncidentState) : List Checkpoint :=
  .input :: ((graphRun outcomes seed).journal (entry seed)).map .state

/-- What a call returns or raises, the checkpoints it leaves, and the nodes it has executed to
the end. -/
structure Called where
  returned : Except RunOnceError IncidentState
  saver : Saver
  executed : List Node

namespace Saver

/-- `run_once`; the thread is the incident's id. -/
def runOnce (outcomes : NodeOutcomes) (saver : Saver) (state : IncidentState) : Called :=
  match (saver state.incidentId).getLast? with
  | some prior => { returned := prior.coerce, saver := saver, executed := [] }
  | none =>
      let saver' := Function.update saver state.incidentId (checkpoints outcomes state)
      { returned :=
          match (graphRun outcomes state).outcome with
          | .raised exc => .error (.run (.node exc))
          | .outOfSteps => .error (.run .graphRecursion)
          | .done =>
              match (saver' state.incidentId).getLast? with
              | none => .error (.run (.noState state.incidentId))
              | some final => final.coerce
        saver := saver'
        executed := (graphRun outcomes state).visited }

/-- The checkpoints when the process dies after `k` commits to a thread. -/
def crash (saver : Saver) (thread : String) (k : ℕ) : Saver :=
  Function.update saver thread ((saver thread).take k)

theorem runOnce_of_prior (outcomes : NodeOutcomes) {saver : Saver} {state : IncidentState}
    {prior : Checkpoint} (h : (saver state.incidentId).getLast? = some prior) :
    saver.runOnce outcomes state =
      { returned := prior.coerce, saver := saver, executed := [] } := by
  rw [runOnce, h]

theorem runOnce_of_fresh (outcomes : NodeOutcomes) {saver : Saver} {state : IncidentState}
    (h : saver state.incidentId = []) :
    (saver.runOnce outcomes state).saver =
        Function.update saver state.incidentId (checkpoints outcomes state) ∧
      (saver.runOnce outcomes state).executed = (graphRun outcomes state).visited := by
  rw [runOnce, h]
  exact ⟨rfl, rfl⟩

/-- The log of states behind the checkpoints. -/
def states (saver : Saver) : Checkpointer := fun thread =>
  (saver thread).filterMap Checkpoint.state?

theorem filterMap_checkpoints (outcomes : NodeOutcomes) (seed : IncidentState) :
    (checkpoints outcomes seed).filterMap Checkpoint.state? =
      (graphRun outcomes seed).journal (entry seed) := by
  rw [checkpoints, List.filterMap_cons_none rfl, List.filterMap_map]
  exact List.filterMap_some

theorem getLast?_checkpoints (outcomes : NodeOutcomes) (seed : IncidentState) :
    (checkpoints outcomes seed).getLast? =
      some (.state ((graphRun outcomes seed).final (entry seed))) := by
  rw [checkpoints, List.getLast?_cons, List.getLast?_map, Run.getLast?_journal]
  rfl

/-- Unless the input is all there is, a call does what it does on the log of states. -/
theorem runOnce_refines (outcomes : NodeOutcomes) {saver : Saver} {state : IncidentState}
    (h : (saver state.incidentId).getLast? ≠ some .input) :
    (saver.runOnce outcomes state).returned =
        (Orchestrator.runOnce outcomes saver.states state).returned.mapError .run ∧
      (saver.runOnce outcomes state).saver.states =
        (Orchestrator.runOnce outcomes saver.states state).checkpointer ∧
      (saver.runOnce outcomes state).executed =
        (Orchestrator.runOnce outcomes saver.states state).executed := by
  cases hlast : (saver state.incidentId).getLast? with
  | some prior =>
      cases prior with
      | input => exact absurd hlast h
      | state c =>
          have hstates : (saver.states state.incidentId).getLast? = some c := by
            obtain ⟨front, hfront⟩ := List.getLast?_eq_some_iff.mp hlast
            rw [states, hfront, List.filterMap_append]
            exact List.getLast?_concat
          rw [runOnce_of_prior outcomes hlast, Orchestrator.runOnce_of_prior outcomes hstates]
          exact ⟨rfl, rfl, rfl⟩
  | none =>
      have hfresh := List.getLast?_eq_none_iff.mp hlast
      have hstates : saver.states state.incidentId = [] := by
        rw [states, hfresh]
        rfl
      obtain ⟨hsaver, hexecuted⟩ := runOnce_of_fresh outcomes hfresh
      refine ⟨?_, ?_, ?_⟩
      · rw [runOnce, hlast, Orchestrator.runOnce, hstates]
        simp only [List.getLast?_nil, Function.update_self, getLast?_checkpoints,
          Run.getLast?_journal]
        cases (graphRun outcomes state).outcome <;> rfl
      · rw [hsaver, runOnce_checkpointer outcomes hstates]
        funext thread
        rw [states]
        by_cases hthread : thread = state.incidentId
        · rw [hthread, Function.update_self, Function.update_self, filterMap_checkpoints]
        · rw [Function.update_of_ne hthread, Function.update_of_ne hthread]
          rfl
      · rw [hexecuted, runOnce_executed outcomes hstates]

end Saver

/-- A call of `run_once`. If the process dies during it, the first `survives` checkpoints of
the call are committed. -/
structure Delivery where
  outcomes : NodeOutcomes
  state : IncidentState
  survives : Option ℕ := none

namespace Delivery

/-- What the call commits to a thread that has no checkpoint. -/
def commits (d : Delivery) : List Checkpoint :=
  match d.survives with
  | none => checkpoints d.outcomes d.state
  | some k => (checkpoints d.outcomes d.state).take k

/-- The checkpoints after the call. -/
def leave (saver : Saver) (d : Delivery) : Saver :=
  let saver' := (saver.runOnce d.outcomes d.state).saver
  match d.survives with
  | none => saver'
  | some k => saver'.crash d.state.incidentId ((saver d.state.incidentId).length + k)

/-- On a thread with checkpoints a call leaves everything as it is. -/
theorem leave_of_prior {saver : Saver} {d : Delivery} {prior : Checkpoint}
    (h : (saver d.state.incidentId).getLast? = some prior) : d.leave saver = saver := by
  rw [leave, Saver.runOnce_of_prior d.outcomes h]
  cases d.survives with
  | none => rfl
  | some k =>
      show saver.crash d.state.incidentId _ = saver
      rw [Saver.crash, Function.update_eq_self_iff]
      exact List.take_of_length_le (Nat.le_add_right _ _)

theorem leave_of_fresh {saver : Saver} {d : Delivery} (h : saver d.state.incidentId = []) :
    d.leave saver = Function.update saver d.state.incidentId d.commits := by
  rw [leave, commits, (Saver.runOnce_of_fresh d.outcomes h).1]
  cases d.survives with
  | none => rfl
  | some k => simp only [Saver.crash, h, List.length_nil, Nat.zero_add, Function.update_self,
      Function.update_idem]

/-- A call writes to its own thread, and only while that is empty. -/
theorem leave_apply (saver : Saver) (d : Delivery) (thread : String) :
    d.leave saver thread =
      if d.state.incidentId = thread ∧ saver thread = [] then d.commits else saver thread := by
  cases hprior : (saver d.state.incidentId).getLast? with
  | none =>
      have hfresh := List.getLast?_eq_none_iff.mp hprior
      rw [leave_of_fresh hfresh]
      by_cases hthread : d.state.incidentId = thread
      · subst hthread
        rw [Function.update_self, if_pos ⟨rfl, hfresh⟩]
      · rw [Function.update_of_ne (Ne.symm hthread), if_neg fun h => hthread h.1]
  | some prior =>
      rw [leave_of_prior hprior, if_neg]
      rintro ⟨rfl, hnil⟩
      rw [hnil] at hprior
      cases hprior

end Delivery

/-! ### Histories -/

/-- The checkpoints after the calls. -/
def leaveAll (ds : List Delivery) : Saver := ds.foldl Delivery.leave fun _ => []

/-- The first call for the incident that gets something committed. -/
def firstCommitted (ds : List Delivery) (thread : String) : Option Delivery :=
  ds.find? fun d => d.state.incidentId = thread ∧ d.survives ≠ some 0

theorem Delivery.commits_eq_nil_iff (d : Delivery) : d.commits = [] ↔ d.survives = some 0 := by
  rw [commits]
  cases d.survives with
  | none => simp [checkpoints]
  | some k => simp [checkpoints, List.take_eq_nil_iff]

theorem commits_of_firstCommitted {ds : List Delivery} {thread : String} {first : Delivery}
    (h : firstCommitted ds thread = some first) : first.commits ≠ [] := by
  have hfound := List.find?_some h
  rw [ne_eq, first.commits_eq_nil_iff]
  exact (of_decide_eq_true hfound).2

theorem firstCommitted_concat (ds : List Delivery) (d : Delivery) (thread : String) :
    firstCommitted (ds ++ [d]) thread =
      (firstCommitted ds thread).or
        (if d.state.incidentId = thread ∧ d.survives ≠ some 0 then some d else none) := by
  rw [firstCommitted, List.find?_append, List.find?_singleton]
  simp only [decide_eq_true_eq]
  rfl

/-- A thread is a register that is written once. The induction is on the last call. -/
theorem leaveAll_apply (ds : List Delivery) (thread : String) :
    leaveAll ds thread = ((firstCommitted ds thread).map Delivery.commits).getD [] := by
  induction ds using List.reverseRecOn with
  | nil => rfl
  | append_singleton ds d ih =>
      have hstep : leaveAll (ds ++ [d]) = d.leave (leaveAll ds) := List.foldl_append
      rw [hstep, Delivery.leave_apply, ih, firstCommitted_concat]
      cases hfirst : firstCommitted ds thread with
      | some first => simp [commits_of_firstCommitted hfirst]
      | none =>
          by_cases hown : d.state.incidentId = thread
          · by_cases hzero : d.survives = some 0
            · simp [hown, hzero, d.commits_eq_nil_iff.mpr hzero]
            · simp [hown, hzero]
          · simp [hown]

/-- **One call decides.** After any calls, for whatever incidents, from whatever states,
with whatever outcomes and wherever they died: if one of them has committed something for
this incident, a further call returns the last state of what the first such call committed,
or raises where that is the input alone, executes nothing and leaves every thread as it is;
if none has, the call does what it would do as the first of all. -/
theorem runOnce_history (ds : List Delivery) (outcomes : NodeOutcomes) (state : IncidentState) :
    match firstCommitted ds state.incidentId with
    | some first => ∃ last, first.commits.getLast? = some last ∧
        (leaveAll ds).runOnce outcomes state =
          { returned := last.coerce, saver := leaveAll ds, executed := [] }
    | none =>
        ((leaveAll ds).runOnce outcomes state).returned =
            (Saver.runOnce outcomes (fun _ => []) state).returned ∧
          ((leaveAll ds).runOnce outcomes state).executed =
            (Saver.runOnce outcomes (fun _ => []) state).executed ∧
          ∀ thread ≠ state.incidentId,
            ((leaveAll ds).runOnce outcomes state).saver thread = leaveAll ds thread := by
  have hlog := leaveAll_apply ds state.incidentId
  cases hfirst : firstCommitted ds state.incidentId with
  | some first =>
      rw [hfirst] at hlog
      have hlast := List.getLast?_eq_some_getLast (commits_of_firstCommitted hfirst)
      refine ⟨_, hlast, Saver.runOnce_of_prior outcomes ?_⟩
      rw [hlog]
      exact hlast
  | none =>
      rw [hfirst] at hlog
      have hfresh : leaveAll ds state.incidentId = [] := hlog
      obtain ⟨hsaver, hexecuted⟩ := Saver.runOnce_of_fresh outcomes hfresh
      refine ⟨?_, ?_, ?_⟩
      · rw [Saver.runOnce, hfresh, Saver.runOnce]
        simp
      · rw [hexecuted, (Saver.runOnce_of_fresh outcomes rfl).2]
      · intro thread hthread
        rw [hsaver, Function.update_of_ne hthread]

end AlphE.Orchestrator
