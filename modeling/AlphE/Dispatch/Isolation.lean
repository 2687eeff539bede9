import AlphE.Dispatch.Served

/-!
Incidents share the tables of the cache. They do not see one another there: the key of an
entry names its incident, so with a hash that is injective what is stored for one incident
leaves the entries of the others as they were.
-/

namespace AlphE.Dispatch

open Evidence

/-! ### Tables that one incident cannot tell apart -/

/-- The same evidence, and the same entries of the incident. -/
structure Agree (cacheEnv : CacheEnv) (incidentId : String) (db db' : Database) : Prop where
  refs : db.refs = db'.refs
  row : ∀ k : KeyComponents, k.incidentId = incidentId →
    db.row (makeCacheKey cacheEnv.sha256 k) = db'.row (makeCacheKey cacheEnv.sha256 k)

theorem Agree.refl (cacheEnv : CacheEnv) (incidentId : String) (db : Database) :
    Agree cacheEnv incidentId db db := ⟨rfl, fun _ _ => rfl⟩

section Writes

variable {cacheEnv : CacheEnv} {incidentId : String} {faults : Faults} {db db' : Database}
  {now : DateTime} {collectorName : String} {input : CollectorInput}
  {output : CollectorOutput}

theorem refs_persist :
    (persist cacheEnv faults db now collectorName input output).refs = db.refs := by
  by_cases h : faults.put = none ∧
      (db.HasKey (requestKey cacheEnv collectorName input) ∨
        db.refs.Has output.finding.evidenceId)
  · obtain ⟨after, hok, hafter, -⟩ := exists_put now h.2
    simp only [persist, h.1, hok]
    exact hafter
  · rw [persist_of_refused h]

/-- An answer for the incident is written to both tables alike. -/
theorem Agree.persist (h : Agree cacheEnv incidentId db db')
    (hincident : input.incidentId = incidentId) :
    Agree cacheEnv incidentId (persist cacheEnv faults db now collectorName input output)
      (persist cacheEnv faults db' now collectorName input output) := by
  refine ⟨by rw [refs_persist, refs_persist, h.refs], ?_⟩
  intro k hk
  have hown : db.row (requestKey cacheEnv collectorName input) =
      db'.row (requestKey cacheEnv collectorName input) :=
    h.row (keyComponents collectorName input) hincident
  have hkey : db.HasKey (requestKey cacheEnv collectorName input) ↔
      db'.HasKey (requestKey cacheEnv collectorName input) := by
    rw [Database.HasKey, Database.HasKey, hown]
  have hupserted : db.upserted (answerRow cacheEnv now collectorName input output) =
      db'.upserted (answerRow cacheEnv now collectorName input output) := by
    have hown' : db.row (answerRow cacheEnv now collectorName input output).cacheKey =
        db'.row (answerRow cacheEnv now collectorName input output).cacheKey := hown
    rw [Database.upserted, Database.upserted, hown']
  by_cases hwrites : faults.put = none ∧
      (db.HasKey (requestKey cacheEnv collectorName input) ∨
        db.refs.Has output.finding.evidenceId)
  · have hwrites' : db'.HasKey (requestKey cacheEnv collectorName input) ∨
        db'.refs.Has output.finding.evidenceId := by
      rw [← hkey, ← h.refs]
      exact hwrites.2
    rw [row_persist hwrites.1 hwrites.2, row_persist hwrites.1 hwrites', h.row k hk, hupserted]
  · have hwrites' : ¬ (faults.put = none ∧
        (db'.HasKey (requestKey cacheEnv collectorName input) ∨
          db'.refs.Has output.finding.evidenceId)) := by
      rw [← hkey, ← h.refs]
      exact hwrites
    rw [persist_of_refused hwrites, persist_of_refused hwrites']
    exact h.row k hk

/-- An answer for another incident is not noticed. -/
theorem Agree.persist_left (hsha : Set.InjOn cacheEnv.sha256 hashed)
    (h : Agree cacheEnv incidentId db db') (hother : input.incidentId ≠ incidentId) :
    Agree cacheEnv incidentId (Dispatch.persist cacheEnv faults db now collectorName input output)
      db' := by
  refine ⟨by rw [refs_persist, h.refs], ?_⟩
  intro k hk
  rw [← h.row k hk]
  by_cases hwrites : faults.put = none ∧
      (db.HasKey (requestKey cacheEnv collectorName input) ∨
        db.refs.Has output.finding.evidenceId)
  · rw [row_persist hwrites.1 hwrites.2, if_neg]
    intro heq
    have hsame := (makeCacheKey_eq_iff hsha k (keyComponents collectorName input)).mp heq
    exact hother (hsame.incidentId.symm.trans hk)
  · rw [persist_of_refused hwrites]

end Writes

/-! ### One event -/

section Events

variable {cacheEnv : CacheEnv} {incidentId : String} {db db' : Database}

theorem Agree.cacheGet (h : Agree cacheEnv incidentId db db') (faults : Faults)
    (env : Nodes.CollectorsEnv) (collectorName : String) (input : CollectorInput)
    (hincident : input.incidentId = incidentId) :
    (withCache cacheEnv faults db env).cacheGet collectorName input =
      (withCache cacheEnv faults db' env).cacheGet collectorName input := by
  have hrow : db.row (requestKey cacheEnv collectorName input) =
      db'.row (requestKey cacheEnv collectorName input) :=
    h.row (keyComponents collectorName input) hincident
  simp only [withCache, CollectorCache.get, hrow]

theorem Agree.collectorsNode {state : IncidentState} {focus : Hypothesis}
    (h : Agree cacheEnv state.incidentId db db') (faults : Faults) (env : Nodes.CollectorsEnv)
    (hfocus : Nodes.focusHypothesis state = some focus) :
    Nodes.collectorsNode (withCache cacheEnv faults db env) state =
      Nodes.collectorsNode (withCache cacheEnv faults db' env) state := by
  have hget := h.cacheGet faults env
    (Nodes.selectCollector (withCache cacheEnv faults db env).lower focus.text)
    (Nodes.collectorInput (withCache cacheEnv faults db env) state focus) rfl
  have hobtain : Nodes.obtainFinding (withCache cacheEnv faults db env)
      (Nodes.selectCollector (withCache cacheEnv faults db env).lower focus.text)
      (Nodes.collectorInput (withCache cacheEnv faults db env) state focus) =
      Nodes.obtainFinding (withCache cacheEnv faults db' env)
        (Nodes.selectCollector (withCache cacheEnv faults db' env).lower focus.text)
        (Nodes.collectorInput (withCache cacheEnv faults db' env) state focus) := by
    rw [Nodes.obtainFinding, hget]
    rfl
  simp only [Nodes.collectorsNode, hfocus, hobtain]
  rfl

/-- A run for the incident is the same on both tables, and leaves them alike. -/
theorem Agree.collectorsRun {state : IncidentState}
    (h : Agree cacheEnv state.incidentId db db') (faults : Faults) (env : Nodes.CollectorsEnv) :
    let run := Dispatch.collectorsRun cacheEnv faults env db state
    let run' := Dispatch.collectorsRun cacheEnv faults env db' state
    run.update = run'.update ∧ run.requests = run'.requests ∧
      Agree cacheEnv state.incidentId run.database run'.database := by
  intro run run'
  cases hfocus : Nodes.focusHypothesis state with
  | none =>
      simp only [run, run', Dispatch.collectorsRun, Nodes.collectorsNode, hfocus]
      exact ⟨rfl, trivial, h⟩
  | some focus =>
      have hget := h.cacheGet faults env (Nodes.selectCollector env.lower focus.text)
        (Nodes.collectorInput env state focus) rfl
      have hupdate := h.collectorsNode faults env hfocus
      refine ⟨by rw [update_collectorsRun, update_collectorsRun, hupdate], ?_⟩
      cases hfound : (withCache cacheEnv faults db env).cacheGet
          (Nodes.selectCollector env.lower focus.text)
          (Nodes.collectorInput env state focus) with
      | some f =>
          obtain ⟨hdb, hrequests⟩ := collectorsRun_of_hit hfocus hfound
          obtain ⟨hdb', hrequests'⟩ := collectorsRun_of_hit hfocus (hget.symm.trans hfound)
          rw [hdb, hdb', hrequests, hrequests']
          exact ⟨rfl, h⟩
      | none =>
          have hmiss' := hget.symm.trans hfound
          refine ⟨by rw [requests_of_miss hfocus hfound, requests_of_miss hfocus hmiss'], ?_⟩
          cases hreply : env.dispatch (Nodes.selectCollector env.lower focus.text)
              (Nodes.collectorInput env state focus) with
          | inl output =>
              rw [database_of_answer hfocus hfound hreply,
                database_of_answer hfocus hmiss' hreply]
              exact h.persist rfl
          | inr f =>
              rw [database_of_failure hfocus hfound hreply,
                database_of_failure hfocus hmiss' hreply]
              exact h

/-- A run for another incident is not noticed. -/
theorem Agree.collectorsRun_left (hsha : Set.InjOn cacheEnv.sha256 hashed)
    (h : Agree cacheEnv incidentId db db') (faults : Faults) (env : Nodes.CollectorsEnv)
    {state : IncidentState} (hother : state.incidentId ≠ incidentId) :
    Agree cacheEnv incidentId (Dispatch.collectorsRun cacheEnv faults env db state).database
      db' := by
  obtain hsame | ⟨focus, output, -, -, -, hdb⟩ :=
    database_collectorsRun cacheEnv faults env db state
  · rw [hsame]
    exact h
  · rw [hdb]
    exact h.persist_left hsha hother

theorem Agree.insertRef (h : Agree cacheEnv incidentId db db') (row : EvidenceRow) :
    Agree cacheEnv incidentId (db.insertRef row) (db'.insertRef row) where
  refs := congrArg (EvidenceRefs.insert · row) h.refs
  row := h.row

theorem Agree.deleteRef (h : Agree cacheEnv incidentId db db') (id : String) :
    Agree cacheEnv incidentId (db.deleteRef id) (db'.deleteRef id) where
  refs := congrArg (EvidenceRefs.delete · id) h.refs
  row k hk := congrArg (Option.filter _) (h.row k hk)

end Events

end AlphE.Dispatch
