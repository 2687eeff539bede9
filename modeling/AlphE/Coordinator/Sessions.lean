import AlphE.Coordinator.History
import Mathlib.Data.Finset.Dedup
import Mathlib.Data.Finset.Lattice.Lemmas

/-!
The executor across restarts. A session is one executor object and the calls it gets. It
may stop after any call, or inside one, when an action has been executed and its record is
not stored yet; and the store may refuse any record. `already_executed` is meant for the
hashes that earlier sessions have left records of.
-/

namespace AlphE.Coordinator

inductive Request
  | execute (intent : ActionIntent)
  | compensate (intent : ActionIntent)

def Request.execute? : Request → Option ActionIntent
  | .execute intent => some intent
  | .compensate _ => none

namespace IdempotentExecutor

/-- The executor after a request, and the outcome of a forward execution. -/
def serve (env : ExecEnv) (ex : IdempotentExecutor) :
    Request → IdempotentExecutor × List (ActionIntent × String)
  | .execute intent =>
      ((ex.execute env intent).2, [(intent, (ex.execute env intent).1.1.outcome)])
  | .compensate intent => ((ex.compensate env intent).2, [])

def serveAll (env : ExecEnv) : IdempotentExecutor → List Request →
    IdempotentExecutor × List (ActionIntent × String)
  | ex, [] => (ex, [])
  | ex, request :: requests =>
      ((serveAll env (ex.serve env request).1 requests).1,
        (ex.serve env request).2 ++ (serveAll env (ex.serve env request).1 requests).2)

theorem serveAll_append (env : ExecEnv) (ex : IdempotentExecutor)
    (requests : List Request) (request : Request) :
    (serveAll env ex (requests ++ [request])).2 =
      (serveAll env ex requests).2 ++ ((serveAll env ex requests).1.serve env request).2 := by
  induction requests generalizing ex with
  | nil => simp only [List.nil_append, serveAll, List.append_nil]
  | cons first requests ih => simp only [List.cons_append, serveAll, ih, List.append_assoc]

/-- The forward executions are a scan of the intents with the seen-set. -/
theorem serveAll_outcomes (env : ExecEnv) (ex : IdempotentExecutor)
    (requests : List Request) :
    (serveAll env ex requests).2 =
      forwardOutcomes ex.executedHashes (requests.filterMap Request.execute?) := by
  induction requests generalizing ex with
  | nil => rfl
  | cons request requests ih =>
      rw [serveAll, ih]
      cases request with
      | execute intent =>
          show _ = forwardOutcomes ex.executedHashes
            (intent :: requests.filterMap Request.execute?)
          rw [forwardOutcomes_cons, ← execute_outcome env, ← executedHashes_execute env]
          rfl
      | compensate intent =>
          have hseen : (ex.serve env (.compensate intent)).1.executedHashes =
              ex.executedHashes := executedHashes_persistRecord _ _
          rw [hseen]
          rfl

end IdempotentExecutor

/-! ### Sessions -/

/-- A session may be cut short in a request that comes after those it has served. -/
structure Session where
  env : ExecEnv
  evidence : Option (ExecutionRecord → Bool)
  alreadyExecuted : Finset String
  requests : List Request
  cut : Option Request := none

namespace Session

/-- The intents the session is asked to execute. -/
def asked (s : Session) : List ActionIntent :=
  (s.requests ++ s.cut.toList).filterMap Request.execute?

/-- Of the request that it is cut short in there is an execution, and no record. -/
def run (s : Session) : IdempotentExecutor × List (ActionIntent × String) :=
  let served := IdempotentExecutor.serveAll s.env (.new s.evidence s.alreadyExecuted) s.requests
  match s.cut with
  | none => served
  | some request => (served.1, served.2 ++ (served.1.serve s.env request).2)

theorem persisted_run (s : Session) :
    s.run.1 =
      (IdempotentExecutor.serveAll s.env (.new s.evidence s.alreadyExecuted) s.requests).1 := by
  rw [run]
  cases s.cut <;> rfl

theorem run_outcomes (s : Session) :
    s.run.2 = forwardOutcomes s.alreadyExecuted s.asked := by
  have houtcomes := fun requests => IdempotentExecutor.serveAll_outcomes s.env
    (.new s.evidence s.alreadyExecuted) requests
  rw [run, asked]
  cases s.cut with
  | none =>
      rw [Option.toList_none, List.append_nil]
      exact houtcomes s.requests
  | some request =>
      rw [Option.toList_some]
      exact (IdempotentExecutor.serveAll_append _ _ _ _).symm.trans (houtcomes _)

end Session

/-- The forward executions of all sessions. -/
def sessionTrace (sessions : List Session) : List (ActionIntent × String) :=
  sessions.flatMap fun s => s.run.2

theorem sessionTrace_eq (sessions : List Session) :
    sessionTrace sessions =
      ((sessions.map fun s => (s.alreadyExecuted, s.asked)).flatMap fun p =>
        SeenSet.scan ActionIntent.hash p.1 p.2).map fun p => (p.1, outcomeLabel p.2) := by
  rw [sessionTrace, List.map_flatMap, List.flatMap_map]
  congr 1
  funext s
  exact s.run_outcomes

/-- The sessions execute each hash at most once when the hashes they share are given. -/
theorem atMostOnce_sessionTrace_iff (sessions : List Session) :
    AtMostOnce (sessionTrace sessions) ↔
      sessions.Pairwise fun p q =>
        ∀ i ∈ p.asked, ∀ j ∈ q.asked, i.hash = j.hash → j.hash ∈ q.alreadyExecuted := by
  have hlabel : ∀ p q : ActionIntent × Bool,
      (p.1.hash = q.1.hash → outcomeLabel q.2 = "skipped_idempotent") ↔
        (p.1.hash = q.1.hash → q.2 = false) := by
    intro p q
    rw [show "skipped_idempotent" = outcomeLabel false from rfl,
      outcomeLabel_injective.eq_iff]
  rw [AtMostOnce, sessionTrace_eq, List.pairwise_map, List.Pairwise.iff hlabel,
    SeenSet.pairwise_flatMap_scan_iff, List.pairwise_map]

/-! ### A store that accepts every record -/

/-- The evidence store is there, and accepts every record. -/
def Durable (evidence : Option (ExecutionRecord → Bool)) : Prop :=
  ∃ accepts, evidence = some accepts ∧ ∀ record, accepts record = true

namespace IdempotentExecutor

/-- Every hash the executor has seen is among the seeded ones or has a record. -/
def Backed (seed : Finset String) (ex : IdempotentExecutor) : Prop :=
  ∀ hash ∈ ex.executedHashes,
    hash ∈ seed ∨ hash ∈ ex.persisted.map ExecutionRecord.intentHash

variable {ex : IdempotentExecutor} {seed : Finset String}

theorem persistRecord_of_durable (h : Durable ex.evidence) (record : ExecutionRecord) :
    ex.persistRecord record = { ex with persisted := ex.persisted ++ [record] } := by
  obtain ⟨accepts, hevidence, haccepts⟩ := h
  simp only [persistRecord, hevidence, haccepts, if_true]

theorem serve_backed (env : ExecEnv) (h : Backed seed ex) (hdurable : Durable ex.evidence)
    (request : Request) :
    Durable (ex.serve env request).1.evidence ∧ Backed seed (ex.serve env request).1 := by
  cases request with
  | execute intent =>
      by_cases hseen : intent.hash ∈ ex.executedHashes
      · simp only [serve, execute, if_pos hseen]
        exact ⟨hdurable, h⟩
      · have hpersist := @persistRecord_of_durable
          { ex with executedHashes := insert intent.hash ex.executedHashes } hdurable
        simp only [serve, execute, if_neg hseen, hpersist]
        refine ⟨hdurable, ?_⟩
        intro hash hhash
        obtain rfl | hhash := Finset.mem_insert.mp hhash
        · right
          simp
        · obtain hseed | hrecord := h hash hhash
          · exact .inl hseed
          · right
            rw [List.map_append, List.mem_append]
            exact .inl hrecord
  | compensate intent =>
      simp only [serve, compensate]
      rw [persistRecord_of_durable hdurable]
      refine ⟨hdurable, ?_⟩
      intro hash hhash
      obtain hseed | hrecord := h hash hhash
      · exact .inl hseed
      · right
        rw [List.map_append, List.mem_append]
        exact .inl hrecord

theorem executedHashes_serve (env : ExecEnv) (ex : IdempotentExecutor) (request : Request) :
    ex.executedHashes ⊆ (ex.serve env request).1.executedHashes ∧
      ∀ intent, request.execute? = some intent →
        intent.hash ∈ (ex.serve env request).1.executedHashes := by
  cases request with
  | execute intent =>
      rw [serve, executedHashes_execute]
      refine ⟨Finset.subset_insert _ _, ?_⟩
      rintro _ ⟨⟩
      exact Finset.mem_insert_self _ _
  | compensate intent =>
      have hseen : (ex.serve env (.compensate intent)).1.executedHashes =
          ex.executedHashes := executedHashes_persistRecord _ _
      rw [hseen]
      refine ⟨Finset.Subset.refl _, ?_⟩
      rintro _ ⟨⟩

/-- After the requests every intent that was asked for is backed. -/
theorem serveAll_backed (env : ExecEnv) (h : Backed seed ex) (hdurable : Durable ex.evidence)
    (requests : List Request) :
    Backed seed (serveAll env ex requests).1 ∧
      ex.executedHashes ⊆ (serveAll env ex requests).1.executedHashes ∧
      ∀ intent ∈ requests.filterMap Request.execute?,
        intent.hash ∈ (serveAll env ex requests).1.executedHashes := by
  induction requests generalizing ex with
  | nil => exact ⟨h, Finset.Subset.refl _, by simp⟩
  | cons request requests ih =>
      obtain ⟨hdurable', hbacked'⟩ := serve_backed env h hdurable request
      obtain ⟨hbacked, hsubset, hasked⟩ := ih hbacked' hdurable'
      obtain ⟨hgrows, hnew⟩ := executedHashes_serve env ex request
      refine ⟨hbacked, hgrows.trans hsubset, ?_⟩
      intro intent hintent
      obtain ⟨r, hr, hexecute⟩ := List.mem_filterMap.mp hintent
      obtain rfl | hr := List.mem_cons.mp hr
      · exact hsubset (hnew intent hexecute)
      · exact hasked intent (List.mem_filterMap.mpr ⟨r, hr, hexecute⟩)

end IdempotentExecutor

/-! ### Sessions that are given what was recorded -/

/-- The hashes that have a record. -/
def recorded (log : List ExecutionRecord) : Finset String :=
  (log.map ExecutionRecord.intentHash).toFinset

/-- Each session is given the hashes recorded before it. -/
def Seeded : List ExecutionRecord → List Session → Prop
  | _, [] => True
  | log, s :: sessions =>
      s.alreadyExecuted = recorded log ∧ Seeded (log ++ s.run.1.persisted) sessions

theorem recorded_append (log log' : List ExecutionRecord) :
    recorded (log ++ log') = recorded log ∪ recorded log' := by
  rw [recorded, List.map_append, List.toFinset_append]
  rfl

/-- With a durable store a session leaves a record of every hash it has served, the
ones it was given apart. -/
theorem Session.recorded_of_durable {s : Session} (h : Durable s.evidence) :
    ∀ intent ∈ s.requests.filterMap Request.execute?,
      intent.hash ∈ s.alreadyExecuted ∨ intent.hash ∈ recorded s.run.1.persisted := by
  intro intent hintent
  have hgiven : IdempotentExecutor.Backed s.alreadyExecuted
      (.new s.evidence s.alreadyExecuted) := fun _ hhash => .inl hhash
  obtain ⟨hbacked, -, hasked⟩ :=
    IdempotentExecutor.serveAll_backed s.env hgiven h s.requests
  rw [s.persisted_run]
  exact (hbacked _ (hasked intent hintent)).imp id List.mem_toFinset.mpr

/-- Records stay. -/
theorem Seeded.subset_of_mem {log : List ExecutionRecord} {sessions : List Session}
    (h : Seeded log sessions) : ∀ s ∈ sessions, recorded log ⊆ s.alreadyExecuted := by
  induction sessions generalizing log with
  | nil => simp
  | cons s sessions ih =>
      obtain ⟨hgiven, hrest⟩ := h
      rw [List.forall_mem_cons]
      refine ⟨hgiven.symm.subset, ?_⟩
      intro q hq
      refine Finset.Subset.trans ?_ (ih hrest q hq)
      rw [recorded_append]
      exact Finset.subset_union_left

/-- With durable stores, what an earlier session has served is given to a later one. -/
theorem Seeded.pairwise_given {log : List ExecutionRecord} {sessions : List Session}
    (h : Seeded log sessions) (hdurable : ∀ s ∈ sessions, Durable s.evidence) :
    sessions.Pairwise fun p q =>
      ∀ i ∈ p.requests.filterMap Request.execute?, i.hash ∈ q.alreadyExecuted := by
  induction sessions generalizing log with
  | nil => exact List.Pairwise.nil
  | cons s sessions ih =>
      obtain ⟨hgiven, hrest⟩ := h
      rw [List.forall_mem_cons] at hdurable
      refine List.Pairwise.cons ?_ (ih hrest hdurable.2)
      intro q hq i hi
      have hlog : i.hash ∈ recorded (log ++ s.run.1.persisted) := by
        rw [recorded_append, Finset.mem_union, ← hgiven]
        exact s.recorded_of_durable hdurable.1 i hi
      exact hrest.subset_of_mem q hq hlog

/-- The later session is not asked again for what the earlier one was cut short in, unless
it is given the hash. -/
def NotRepeated (p q : Session) : Prop :=
  ∀ i ∈ p.cut.bind Request.execute?, ∀ j ∈ q.asked, i.hash = j.hash → j.hash ∈ q.alreadyExecuted

/-- **What restarts repeat, with a durable store.** Whatever the sessions are asked for,
compensations among it, and wherever they stop: nothing is executed twice, except what a
session was cut short in and a later one is asked for without a record of it. -/
theorem sessions_atMostOnce_of_durable (log : List ExecutionRecord) (sessions : List Session)
    (hseeded : Seeded log sessions) (hdurable : ∀ s ∈ sessions, Durable s.evidence) :
    AtMostOnce (sessionTrace sessions) ↔ sessions.Pairwise NotRepeated := by
  rw [atMostOnce_sessionTrace_iff]
  have hgiven := hseeded.pairwise_given hdurable
  constructor
  · intro h
    refine h.imp ?_
    intro p q hall i hi
    apply hall
    rw [Option.mem_def, Option.bind_eq_some_iff] at hi
    obtain ⟨request, hcut, hexecute⟩ := hi
    refine List.mem_filterMap.mpr ⟨request, ?_, hexecute⟩
    rw [hcut]
    exact List.mem_append_right _ List.mem_cons_self
  · intro h
    refine (h.and hgiven).imp ?_
    rintro p q ⟨hcut, hserved⟩ i hi j hj hhash
    rw [Session.asked, List.filterMap_append, List.mem_append] at hi
    obtain hi | hi := hi
    · rw [← hhash]
      exact hserved i hi
    · obtain ⟨request, hrequest, hexecute⟩ := List.mem_filterMap.mp hi
      refine hcut i ?_ j hj hhash
      rw [Option.mem_toList] at hrequest
      rw [Option.mem_def, hrequest, Option.bind_some, hexecute]

/-- One intent in three sessions: the second skips it and is cut short in that, and the third
compensates it. -/
def testSessions : List Session :=
  [⟨testEnv.toExecEnv, some fun _ => true, ∅, [.execute testIntent], none⟩,
    ⟨testEnv.toExecEnv, some fun _ => true, {testIntent.hash}, [], some (.execute testIntent)⟩,
    ⟨testEnv.toExecEnv, some fun _ => true, {testIntent.hash}, [.compensate testIntent], none⟩]

theorem seeded_testSessions : Seeded [] testSessions := by
  refine ⟨rfl, ?_, ?_, trivial⟩
  · decide
  · decide

theorem sessions_atMostOnce_of_durable_testSessions :
    AtMostOnce (sessionTrace testSessions) ↔ testSessions.Pairwise NotRepeated := by
  apply sessions_atMostOnce_of_durable [] testSessions seeded_testSessions
  intro s hs
  simp only [testSessions, List.mem_cons, List.not_mem_nil, or_false] at hs
  obtain rfl | rfl | rfl := hs
  · exact ⟨_, rfl, fun _ => rfl⟩
  · exact ⟨_, rfl, fun _ => rfl⟩
  · exact ⟨_, rfl, fun _ => rfl⟩

/-- An execution that a session is cut short in leaves no record, and is repeated. -/
example :
    (sessionTrace
      [⟨testEnv.toExecEnv, some fun _ => true, ∅, [], some (.execute testIntent)⟩,
        ⟨testEnv.toExecEnv, some fun _ => true, ∅, [.execute testIntent], none⟩]).map Prod.snd =
      ["dry_run_success", "dry_run_success"] := by
  decide

end AlphE.Coordinator
