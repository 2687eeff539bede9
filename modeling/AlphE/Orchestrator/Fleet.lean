import AlphE.Dispatch.CacheRows
import AlphE.Dispatch.Isolation
import AlphE.Orchestrator.GivingUp
import Mathlib.Logic.Function.Basic

/-!
Incidents side by side. Each has a run of its own, node by node, in surroundings of its
own; they take turns in any order, and share the tables of the cache. No incident has a
part in what becomes of another.
-/

namespace AlphE.Orchestrator

open Dispatch Evidence Operations

/-- An incident under way: the nodes that have run, and where it stands. -/
structure Party where
  before : List Node
  config : Config Node IncidentState

/-- The incidents under way, by their ids, and the tables they share. -/
structure Fleet where
  party : String → Party
  db : Database

/-- A turn: the next node of an incident is run, or a row of evidence comes or goes. -/
inductive FleetTurn (κ ν : Type)
  | node (incidentId : String) (W : World κ ν) (faults : Faults)
  | insertRef (row : EvidenceRow)
  | deleteRef (evidenceId : String)

section Steps

variable {κ ν : Type} (cacheEnv : CacheEnv)

/-- The surroundings with other answers of the cache. -/
def World.answering (W : World κ ν) (cacheGet : ℕ → String → CollectorInput → Option Finding) :
    World κ ν :=
  { W with cacheGet := cacheGet }

/-- The surroundings of a node when its cache is in `db`. -/
def sharing (faults : Faults) (db : Database) (W : World κ ν) (before : List Node) :
    World κ ν :=
  W.answering fun _ => (withCache cacheEnv faults db (W.collectorsEnv before)).cacheGet

/-- What a node leaves of the tables: only the Collectors node has a cache. -/
def tablesAfter (faults : Faults) (db : Database) (W : World κ ν) (before : List Node)
    (v : Node) (s : IncidentState) : Database :=
  match v with
  | .collectors => (collectorsRun cacheEnv faults (W.collectorsEnv before) db s).database
  | _ => db

/-- The next node of a party, with the tables as they are. A node that raises leaves both
as they were. -/
def Party.advance (p : Party) (W : World κ ν) (faults : Faults) (db : Database) :
    Party × Database :=
  match p.config.next with
  | none => (p, db)
  | some v =>
      match (graph (sharing cacheEnv faults db W p.before).update).exec p.before v
        p.config.state with
      | .error _ => (p, db)
      | .ok s' =>
          (⟨p.before ++ [v], ⟨s', route v s'⟩⟩,
            tablesAfter cacheEnv faults db W p.before v p.config.state)

def FleetTurn.apply (fleet : Fleet) : FleetTurn κ ν → Fleet
  | .node incidentId W faults =>
      let next := (fleet.party incidentId).advance cacheEnv W faults fleet.db
      { party := Function.update fleet.party incidentId next.1, db := next.2 }
  | .insertRef row => { fleet with db := fleet.db.insertRef row }
  | .deleteRef evidenceId => { fleet with db := fleet.db.deleteRef evidenceId }

/-- The turns of the incident, and what happens to the evidence. -/
def FleetTurn.concerns (incidentId : String) : FleetTurn κ ν → Bool
  | .node id _ _ => id = incidentId
  | .insertRef _ => true
  | .deleteRef _ => true

/-- Every incident is filed under its id. -/
def Fleet.Keyed (fleet : Fleet) : Prop :=
  ∀ id, (fleet.party id).config.state.incidentId = id

end Steps

/-! ### One node -/

section Nodes

variable {κ ν : Type} {cacheEnv : CacheEnv} {faults : Faults} {db db' : Database}
  {W : World κ ν} {before : List Node} {s : IncidentState} {p : Party} {incidentId : String}

/-- What a node returns is known from the tables as the incident sees them. -/
theorem update_sharing (h : Agree cacheEnv s.incidentId db db') (v : Node) :
    (sharing cacheEnv faults db W before).update before v s =
      (sharing cacheEnv faults db' W before).update before v s := by
  cases v with
  | collectors =>
      have hupdate := (h.collectorsRun faults (W.collectorsEnv before)).1
      rw [update_collectorsRun, update_collectorsRun] at hupdate
      exact congrArg Except.ok hupdate
  | _ => rfl

theorem agree_tablesAfter (h : Agree cacheEnv s.incidentId db db') (v : Node) :
    Agree cacheEnv s.incidentId (tablesAfter cacheEnv faults db W before v s)
      (tablesAfter cacheEnv faults db' W before v s) := by
  cases v with
  | collectors => exact (h.collectorsRun faults (W.collectorsEnv before)).2.2
  | _ => exact h

theorem agree_tablesAfter_left (hsha : Set.InjOn cacheEnv.sha256 hashed)
    (h : Agree cacheEnv incidentId db db') (hother : s.incidentId ≠ incidentId) (v : Node) :
    Agree cacheEnv incidentId (tablesAfter cacheEnv faults db W before v s) db' := by
  cases v with
  | collectors => exact h.collectorsRun_left hsha faults (W.collectorsEnv before) hother
  | _ => exact h

/-- A party keeps its incident. -/
theorem incidentId_advance :
    (p.advance cacheEnv W faults db).1.config.state.incidentId = p.config.state.incidentId := by
  rw [Party.advance]
  split
  · rfl
  · split
    · rfl
    · next v hnext s' hexec =>
        obtain ⟨u, -, rfl⟩ := graph_exec_eq_ok hexec
        rfl

/-- On tables that its incident cannot tell apart a party does the same, and leaves them
alike. -/
theorem advance_congr (h : Agree cacheEnv p.config.state.incidentId db db') :
    (p.advance cacheEnv W faults db).1 = (p.advance cacheEnv W faults db').1 ∧
      Agree cacheEnv p.config.state.incidentId (p.advance cacheEnv W faults db).2
        (p.advance cacheEnv W faults db').2 := by
  have hexec (v : Node) :
      (graph (sharing cacheEnv faults db W p.before).update).exec p.before v p.config.state =
        (graph (sharing cacheEnv faults db' W p.before).update).exec p.before v
          p.config.state :=
    congrArg (Except.map p.config.state.merge) (update_sharing h v)
  simp only [Party.advance, hexec]
  cases hnext : p.config.next with
  | none => exact ⟨rfl, h⟩
  | some v =>
      dsimp only
      split
      · exact ⟨rfl, h⟩
      · exact ⟨rfl, agree_tablesAfter h v⟩

theorem agree_advance_left (hsha : Set.InjOn cacheEnv.sha256 hashed)
    (h : Agree cacheEnv incidentId db db') (hother : p.config.state.incidentId ≠ incidentId) :
    Agree cacheEnv incidentId (p.advance cacheEnv W faults db).2 db' := by
  rw [Party.advance]
  split
  · exact h
  · split
    · exact h
    · exact agree_tablesAfter_left hsha h hother _

end Nodes

/-! ### Any turns -/

section Turns

variable {κ ν : Type} {cacheEnv : CacheEnv} {fleet fleet' : Fleet} {incidentId : String}

/-- What one incident can see of a fleet, and that all are filed as they should be. -/
structure Alike (cacheEnv : CacheEnv) (incidentId : String) (fleet fleet' : Fleet) : Prop where
  party : fleet.party incidentId = fleet'.party incidentId
  db : Agree cacheEnv incidentId fleet.db fleet'.db
  keyed : fleet.Keyed
  keyed' : fleet'.Keyed

theorem Fleet.Keyed.apply (h : fleet.Keyed) (turn : FleetTurn κ ν) :
    (turn.apply cacheEnv fleet).Keyed := by
  cases turn with
  | node id W faults =>
      intro id'
      show (Function.update fleet.party id _ id').config.state.incidentId = id'
      by_cases hid : id' = id
      · subst hid
        rw [Function.update_self, incidentId_advance]
        exact h id'
      · rw [Function.update_of_ne hid]
        exact h id'
  | insertRef row => exact h
  | deleteRef id => exact h

/-- A turn of the incident. -/
theorem Alike.apply (h : Alike cacheEnv incidentId fleet fleet') {turn : FleetTurn κ ν}
    (hturn : turn.concerns incidentId = true) :
    Alike cacheEnv incidentId (turn.apply cacheEnv fleet) (turn.apply cacheEnv fleet') := by
  cases turn with
  | node id W faults =>
      obtain rfl : id = incidentId := of_decide_eq_true hturn
      have hid : (fleet.party id).config.state.incidentId = id := h.keyed id
      have hagree : Agree cacheEnv (fleet.party id).config.state.incidentId fleet.db
          fleet'.db := by
        rw [hid]
        exact h.db
      obtain ⟨hparty, hdb⟩ := advance_congr (W := W) (p := fleet.party id) hagree
      refine ⟨?_, ?_, h.keyed.apply _, h.keyed'.apply _⟩
      · show Function.update fleet.party id _ id = Function.update fleet'.party id _ id
        rw [Function.update_self, Function.update_self, hparty, h.party]
      · rw [hid, h.party] at hdb
        show Agree cacheEnv id ((fleet.party id).advance cacheEnv W faults fleet.db).2
          ((fleet'.party id).advance cacheEnv W faults fleet'.db).2
        rw [h.party]
        exact hdb
  | insertRef row => exact ⟨h.party, h.db.insertRef row, h.keyed, h.keyed'⟩
  | deleteRef id => exact ⟨h.party, h.db.deleteRef id, h.keyed, h.keyed'⟩

/-- A turn of another incident. -/
theorem Alike.apply_left (hsha : Set.InjOn cacheEnv.sha256 hashed)
    (h : Alike cacheEnv incidentId fleet fleet') {turn : FleetTurn κ ν}
    (hturn : turn.concerns incidentId = false) :
    Alike cacheEnv incidentId (turn.apply cacheEnv fleet) fleet' := by
  cases turn with
  | node id W faults =>
      have hother : id ≠ incidentId := of_decide_eq_false hturn
      refine ⟨?_, ?_, h.keyed.apply _, h.keyed'⟩
      · show Function.update fleet.party id _ incidentId = _
        rw [Function.update_of_ne hother.symm]
        exact h.party
      · refine agree_advance_left hsha h.db ?_
        rw [h.keyed id]
        exact hother
  | insertRef row => cases hturn
  | deleteRef id => cases hturn

/-- **Incidents side by side do not interfere.** In whatever order the incidents of a fleet
take their turns, each has the nodes behind it, the state and the next node, and finds the
entries in the cache, that it would have and find if the others had never had a turn. -/
theorem fleet_isolated (hsha : Set.InjOn cacheEnv.sha256 hashed) (hkeyed : fleet.Keyed)
    (turns : List (FleetTurn κ ν)) (incidentId : String) :
    let alone := turns.filter (FleetTurn.concerns incidentId)
    (turns.foldl (FleetTurn.apply cacheEnv) fleet).party incidentId =
        (alone.foldl (FleetTurn.apply cacheEnv) fleet).party incidentId ∧
      Agree cacheEnv incidentId (turns.foldl (FleetTurn.apply cacheEnv) fleet).db
        (alone.foldl (FleetTurn.apply cacheEnv) fleet).db := by
  intro alone
  have h : Alike cacheEnv incidentId (turns.foldl (FleetTurn.apply cacheEnv) fleet)
      (alone.foldl (FleetTurn.apply cacheEnv) fleet) := by
    refine unwinding (R := Alike cacheEnv incidentId) ?_ ?_ turns
      ⟨rfl, .refl cacheEnv incidentId fleet.db, hkeyed, hkeyed⟩
    · intro f f' turn hturn hf
      exact hf.apply hturn
    · intro f f' turn hturn hf
      exact hf.apply_left hsha hturn
  exact ⟨h.party, h.db⟩

end Turns

/-! ### A run for each incident -/

section Runs

variable {κ ν : Type} {W : World κ ν}

/-- Of what the cache answers, a node reads the next answer, and only one node does. -/
theorem update_cacheGet {before : List Node} {v : Node} {s : IncidentState}
    {g g' : ℕ → String → CollectorInput → Option Finding}
    (h : v = .collectors → g (before.count .collectors) = g' (before.count .collectors)) :
    (W.answering g).update before v s =
      (W.answering g').update before v s := by
  cases v with
  | collectors =>
      have henv : (W.answering g).collectorsEnv before =
          (W.answering g').collectorsEnv before :=
        congrArg (fun get => { W.collectorsEnv before with cacheGet := get }) (h rfl)
      simp only [World.update, henv]
  | _ => rfl

/-- A run reads the answers that are still to come. -/
theorem run_cacheGet {g g' : ℕ → String → CollectorInput → Option Finding} (limit : ℕ)
    (before : List Node) (c : Config Node IncidentState)
    (h : ∀ k, before.count .collectors ≤ k → g k = g' k) :
    (W.answering g).run limit before c =
      (W.answering g').run limit before c := by
  induction limit generalizing before c with
  | zero =>
      obtain ⟨s, next⟩ := c
      cases next <;> rfl
  | succ limit ih =>
      obtain ⟨s, next⟩ := c
      cases next with
      | none => rfl
      | some v =>
          have hupdate : (W.answering g).update before v s =
              (W.answering g').update before v s :=
            update_cacheGet fun _ => h _ le_rfl
          cases hu : (W.answering g').update before v s with
          | error e => rw [World.run_of_error _ (hupdate.trans hu), World.run_of_error _ hu]
          | ok u =>
              rw [World.run_cons _ (hupdate.trans hu), World.run_cons _ hu, ih]
              intro k hk
              refine h k (le_trans ?_ hk)
              rw [List.count_append]
              exact Nat.le_add_right _ _

/-- A node that raises is the last of a run. -/
theorem commits_of_error {before : List Node} {v : Node} {s : IncidentState} {e : String}
    (h : W.update before v s = .error e) (limit : ℕ) :
    (W.run limit before ⟨s, some v⟩).commits = [] := by
  cases limit with
  | zero => rfl
  | succ limit => rw [W.run_of_error h]

/-- Where a run leaves a party. -/
def Party.moved (p : Party) (r : Workflow.Run Node IncidentState String) : Party :=
  ⟨p.before ++ r.visited, r.final p.config⟩

theorem moved_of_commits {p : Party} {r : Workflow.Run Node IncidentState String}
    (h : r.commits = []) : p.moved r = p := by
  rw [Party.moved, Workflow.Run.visited, Workflow.Run.final, h]
  exact congrArg (fun before => Party.mk before p.config) (List.append_nil p.before)

/-- The turn is one of the incident. -/
def FleetTurn.isFor (incidentId : String) : FleetTurn κ ν → Bool
  | .node id _ _ => id = incidentId
  | .insertRef _ => false
  | .deleteRef _ => false

/-- If the turn is one of the incident, it is taken in the surroundings `W`. -/
def FleetTurn.In (incidentId : String) (W : World κ ν) : FleetTurn κ ν → Prop
  | .node id W' _ => id = incidentId → W' = W
  | .insertRef _ => True
  | .deleteRef _ => True

variable {cacheEnv : CacheEnv}

/-- Another turn leaves the party as it was. -/
theorem party_apply_of_not_isFor {fleet : Fleet} {incidentId : String} {turn : FleetTurn κ ν}
    (h : turn.isFor incidentId = false) :
    (turn.apply cacheEnv fleet).party incidentId = fleet.party incidentId := by
  cases turn with
  | node id W faults => exact Function.update_of_ne (Ne.symm (of_decide_eq_false h)) _ _
  | insertRef row => rfl
  | deleteRef id => rfl

theorem moved_cons (p : Party) (v : Node) (c : Config Node IncidentState)
    (r : Workflow.Run Node IncidentState String) :
    p.moved (r.cons v c) = Party.moved ⟨p.before ++ [v], c⟩ r := by
  rw [Party.moved, Party.moved, Workflow.Run.visited_cons, Workflow.Run.final_cons,
    List.append_cons]

/-- A party that advances, and is moved by a run on from there, is moved by one run. -/
theorem exists_moved_advance {p : Party} {faults : Faults} {db : Database} (limit : ℕ)
    (g : ℕ → String → CollectorInput → Option Finding) :
    ∃ g', (p.advance cacheEnv W faults db).1.moved
        ((W.answering g).run limit (p.advance cacheEnv W faults db).1.before
          (p.advance cacheEnv W faults db).1.config) =
      p.moved ((W.answering g').run (limit + 1) p.before p.config) := by
  obtain ⟨before, s, next⟩ := p
  cases next with
  | none =>
      refine ⟨g, ?_⟩
      rw [Party.advance, World.run, World.run, Workflow.run_end, Workflow.run_end]
  | some v =>
      cases hu : (sharing cacheEnv faults db W before).update before v s with
      | error e =>
          have herror (g' : ℕ → String → CollectorInput → Option Finding) :
              (W.answering g').update before v s = .error e := by
            rw [← hu]
            apply update_cacheGet
            rintro rfl
            cases hu
          have hstays : Party.advance cacheEnv ⟨before, s, some v⟩ W faults db =
              (⟨before, s, some v⟩, db) := by
            have hexec : (graph (sharing cacheEnv faults db W before).update).exec before v s =
                .error e := congrArg (Except.map s.merge) hu
            simp only [Party.advance, hexec]
          refine ⟨g, ?_⟩
          rw [hstays, moved_of_commits (commits_of_error (herror g) limit),
            moved_of_commits (commits_of_error (herror g) (limit + 1))]
      | ok u =>
          have hmoves : (Party.advance cacheEnv ⟨before, s, some v⟩ W faults db).1 =
              ⟨before ++ [v], ⟨s.merge u, route v (s.merge u)⟩⟩ := by
            have hexec : (graph (sharing cacheEnv faults db W before).update).exec before v s =
                .ok (s.merge u) := congrArg (Except.map s.merge) hu
            simp only [Party.advance, hexec]
          -- The answer of the tables, and then what the rest of the run is answered.
          let g' : ℕ → String → CollectorInput → Option Finding := fun k =>
            if v = .collectors ∧ k = before.count .collectors then
              (withCache cacheEnv faults db (W.collectorsEnv before)).cacheGet
            else g k
          have hu' : (W.answering g').update before v s = .ok u := by
            rw [← hu]
            apply update_cacheGet
            intro hv
            exact if_pos ⟨hv, rfl⟩
          have hrest : ∀ k, (before ++ [v]).count .collectors ≤ k → g k = g' k := by
            intro k hk
            refine (if_neg ?_).symm
            rintro ⟨rfl, rfl⟩
            simp at hk
          refine ⟨g', ?_⟩
          rw [hmoves, World.run_cons _ hu', moved_cons, run_cacheGet limit _ _ hrest]

/-- **A run for each incident.** In whatever order the incidents of a fleet take their
turns, each goes through a run of the graph as if it were alone, with a step for each of
its turns, in its surroundings but for what the cache answers there. -/
theorem fleet_runs (fleet : Fleet) (incidentId : String) (turns : List (FleetTurn κ ν))
    (hworld : ∀ turn ∈ turns, turn.In incidentId W) :
    ∃ g, (turns.foldl (FleetTurn.apply cacheEnv) fleet).party incidentId =
      (fleet.party incidentId).moved
        ((W.answering g).run (turns.countP (FleetTurn.isFor incidentId))
          (fleet.party incidentId).before (fleet.party incidentId).config) := by
  induction turns generalizing fleet with
  | nil =>
      refine ⟨W.cacheGet, ?_⟩
      have hcommits : ((W.answering W.cacheGet).run 0 (fleet.party incidentId).before
          (fleet.party incidentId).config).commits = [] := by
        obtain ⟨before, s, next⟩ := fleet.party incidentId
        cases next <;> rfl
      exact (moved_of_commits hcommits).symm
  | cons turn turns ih =>
      rw [List.forall_mem_cons] at hworld
      obtain ⟨g, hg⟩ := ih (turn.apply cacheEnv fleet) hworld.2
      rw [List.foldl_cons, hg]
      cases hturn : turn.isFor incidentId with
      | false =>
          refine ⟨g, ?_⟩
          rw [List.countP_cons_of_neg (ne_true_of_eq_false hturn),
            party_apply_of_not_isFor hturn]
      | true =>
          rw [List.countP_cons_of_pos hturn]
          cases turn with
          | node id W' faults =>
              obtain rfl : id = incidentId := of_decide_eq_true hturn
              obtain rfl : W' = W := hworld.1 rfl
              have hparty : ((FleetTurn.node id W' faults).apply cacheEnv fleet).party id =
                  ((fleet.party id).advance cacheEnv W' faults fleet.db).1 :=
                Function.update_self _ _ _
              rw [hparty]
              exact exists_moved_advance _ g
          | insertRef row => cases hturn
          | deleteRef id => cases hturn

end Runs

/-! ### Two incidents and one collector -/

/-- Every incident is about to ask the collector. -/
def testFleet : Fleet where
  party id :=
    ⟨[.intake, .investigator],
      ⟨{ Dispatch.testState with incidentId := id }, some .collectors⟩⟩
  db := .empty

def answeringWorld : World Unit Unit :=
  { silentWorld with dispatch := fun _ _ _ => .inl Dispatch.testOutput }

def testFleetTurns : List (FleetTurn Unit Unit) :=
  [.insertRef (testEvidence "ev_1"), .node "inc_001" answeringWorld {},
    .node "inc_002" answeringWorld {}, .deleteRef "ev_1", .node "inc_001" answeringWorld {}]

theorem fleet_isolated_testFleet :
    let alone := testFleetTurns.filter (FleetTurn.concerns "inc_001")
    (testFleetTurns.foldl (FleetTurn.apply testServedEnv) testFleet).party "inc_001" =
        (alone.foldl (FleetTurn.apply testServedEnv) testFleet).party "inc_001" ∧
      Agree testServedEnv "inc_001"
        (testFleetTurns.foldl (FleetTurn.apply testServedEnv) testFleet).db
        (alone.foldl (FleetTurn.apply testServedEnv) testFleet).db :=
  fleet_isolated (pinnedHash_injective _ _).injOn (fun _ => rfl) testFleetTurns "inc_001"

theorem fleet_runs_testFleet :
    ∃ g, (testFleetTurns.foldl (FleetTurn.apply testServedEnv) testFleet).party "inc_001" =
      (testFleet.party "inc_001").moved
        ((answeringWorld.answering g).run 2 [.intake, .investigator]
          (testFleet.party "inc_001").config) :=
  fleet_runs testFleet "inc_001" testFleetTurns (by simp [testFleetTurns, FleetTurn.In])

end AlphE.Orchestrator
