import AlphE.Dispatch.CacheKey
import AlphE.Dispatch.Redispatch
import AlphE.Lib.Operations

/-!
What the cache serves, over whole histories: any runs of the node on any incidents, in any
surroundings, between them rows of evidence that are written and deleted. An entry is what
was stored last under its key. A later answer takes its place; it goes with the evidence
of the answer that made its row, and is not served any more after five minutes.
-/

namespace AlphE.Dispatch

open Operations Validation Evidence

/-! ### Reading back -/

/-- A finding as it is read of what was written for it: only its time may be another. -/
structure ReadBack (cacheEnv : CacheEnv) (g f : Finding) : Prop where
  time : cacheEnv.parse (cacheEnv.text g.createdAt) = some f.createdAt
  rest : f = { g with createdAt := f.createdAt }

theorem finding_dumpFinding_iff {cacheEnv : CacheEnv} {g f : Finding} :
    finding cacheEnv.parse (dumpFinding cacheEnv.text g) = .valid f ↔ ReadBack cacheEnv g f := by
  have hlist : list str (.list (g.suggestedFollowups.map .str) : Value DateTime) =
      .valid g.suggestedFollowups := list_map str_str g.suggestedFollowups
  constructor
  · intro h
    refine ⟨?_, eq_of_finding_dumpFinding h⟩
    cases htime : cacheEnv.parse (cacheEnv.text g.createdAt) with
    | none =>
        simp +decide [finding, dumpFinding, model, required, defaulted, List.lookup_cons,
          datetimeJson, htime, hlist, Validated.fail, Validated.at_, Validated.ap] at h
    | some t =>
        simp +decide [finding, dumpFinding, model, required, defaulted, List.lookup_cons,
          datetimeJson, htime, hlist] at h
        rw [← h]
  · rintro ⟨htime, hrest⟩
    rw [hrest]
    simp +decide [finding, dumpFinding, model, required, defaulted, List.lookup_cons,
      datetimeJson, htime, hlist]

/-! ### Writing -/

namespace Database

variable {db : Database} {r : CacheRow}

/-- The row that an upsert leaves: one that is written over keeps what it refers to. -/
def upserted (db : Database) (r : CacheRow) : CacheRow :=
  match db.row r.cacheKey with
  | some old => { old with findingJson := r.findingJson, expiresAt := r.expiresAt }
  | none => r

@[simp] theorem upserted_findingJson : (db.upserted r).findingJson = r.findingJson := by
  rw [upserted]
  split <;> rfl

@[simp] theorem upserted_expiresAt : (db.upserted r).expiresAt = r.expiresAt := by
  rw [upserted]
  split <;> rfl

/-- The upsert is accepted when there is a row of the key, or the evidence of a new one. -/
theorem exists_upsert (h : db.HasKey r.cacheKey ∨ db.refs.Has r.evidenceId) :
    ∃ db', db.upsert r = .ok db' ∧ db'.refs = db.refs ∧
      ∀ key, db'.row key = if key = r.cacheKey then some (db.upserted r) else db.row key := by
  rw [upsert]
  split
  next old hold =>
      have hkey : old.cacheKey = r.cacheKey := db.primaryKey r.cacheKey old hold
      refine ⟨_, rfl, rfl, ?_⟩
      intro key
      simp only [write, upserted, hold, hkey]
  next hold =>
      have hrefs : db.refs.Has r.evidenceId := by
        refine h.resolve_left ?_
        rw [HasKey, hold]
        exact Bool.false_ne_true
      rw [dif_pos hrefs]
      refine ⟨_, rfl, rfl, ?_⟩
      intro key
      simp only [write, upserted, hold]

theorem upsert_of_refused (hkey : ¬ db.HasKey r.cacheKey) (hrefs : ¬ db.refs.Has r.evidenceId) :
    db.upsert r = .error "ForeignKeyViolation" := by
  rw [upsert]
  split
  next old hold =>
      rw [HasKey, hold] at hkey
      exact absurd rfl hkey
  next => rw [dif_neg hrefs]

end Database

section Persist

variable {cacheEnv : CacheEnv} {faults : Faults} {db : Database} {now : DateTime}
  {collectorName : String} {input : CollectorInput} {output : CollectorOutput}

/-- The row that is put for an answer. -/
def answerRow (cacheEnv : CacheEnv) (now : DateTime) (collectorName : String)
    (input : CollectorInput) (output : CollectorOutput) : CacheRow :=
  { cacheKey := requestKey cacheEnv collectorName input
    incidentId := input.incidentId
    collector := collectorName
    question := input.question
    findingJson := dumpFinding cacheEnv.text output.finding
    evidenceId := output.finding.evidenceId
    expiresAt := now.addMicros ttl }

theorem exists_put (now : DateTime)
    (hrefs : db.HasKey (requestKey cacheEnv collectorName input) ∨
      db.refs.Has output.finding.evidenceId) :
    ∃ after, CollectorCache.put cacheEnv db now (requestKey cacheEnv collectorName input)
        input.incidentId collectorName input.question output.finding = .ok after ∧
      after.refs = db.refs ∧
      ∀ key, after.row key =
        if key = requestKey cacheEnv collectorName input then
          some (db.upserted (answerRow cacheEnv now collectorName input output))
        else db.row key := by
  have hrefs' : db.HasKey (answerRow cacheEnv now collectorName input output).cacheKey ∨
      db.refs.Has (answerRow cacheEnv now collectorName input output).evidenceId := hrefs
  exact Database.exists_upsert hrefs'

/-- What the node writes of an answer, when nothing is in the way. -/
theorem row_persist (hput : faults.put = none)
    (hrefs : db.HasKey (requestKey cacheEnv collectorName input) ∨
      db.refs.Has output.finding.evidenceId) (key : String) :
    (persist cacheEnv faults db now collectorName input output).row key =
      if key = requestKey cacheEnv collectorName input then
        some (db.upserted (answerRow cacheEnv now collectorName input output))
      else db.row key := by
  obtain ⟨after, hok, -, hrow⟩ := exists_put now hrefs
  simp only [persist, hput, hok]
  exact hrow key

theorem persist_of_refused
    (h : ¬ (faults.put = none ∧
      (db.HasKey (requestKey cacheEnv collectorName input) ∨
        db.refs.Has output.finding.evidenceId))) :
    persist cacheEnv faults db now collectorName input output = db := by
  cases hput : faults.put with
  | some exc => simp only [persist, hput]
  | none =>
      obtain ⟨hkey, hrefs⟩ := not_or.mp fun hrefs => h ⟨hput, hrefs⟩
      simp only [persist, hput, CollectorCache.put]
      rw [Database.upsert_of_refused hkey hrefs]

end Persist

/-! ### A run of the node, by what comes back -/

section Run

variable {cacheEnv : CacheEnv} {faults : Faults} {env : Nodes.CollectorsEnv} {db : Database}
  {state : IncidentState} {focus : Hypothesis}
  (hfocus : Nodes.focusHypothesis state = some focus)

include hfocus

theorem collectorsRun_of_hit {f : Finding}
    (hget : (withCache cacheEnv faults db env).cacheGet
      (Nodes.selectCollector env.lower focus.text) (Nodes.collectorInput env state focus) =
      some f) :
    (collectorsRun cacheEnv faults env db state).database = db ∧
      (collectorsRun cacheEnv faults env db state).requests = [] := by
  have hget' : (withCache cacheEnv faults db env).cacheGet
      (Nodes.selectCollector (withCache cacheEnv faults db env).lower focus.text)
      (Nodes.collectorInput (withCache cacheEnv faults db env) state focus) = some f := hget
  simp only [collectorsRun, hfocus, hget', and_self]

section Miss

variable (hmiss : (withCache cacheEnv faults db env).cacheGet
  (Nodes.selectCollector env.lower focus.text) (Nodes.collectorInput env state focus) = none)

include hmiss

theorem requests_of_miss :
    (collectorsRun cacheEnv faults env db state).requests =
      [(Nodes.selectCollector env.lower focus.text, Nodes.collectorInput env state focus)] := by
  have hmiss' : (withCache cacheEnv faults db env).cacheGet
      (Nodes.selectCollector (withCache cacheEnv faults db env).lower focus.text)
      (Nodes.collectorInput (withCache cacheEnv faults db env) state focus) = none := hmiss
  simp only [collectorsRun, hfocus, hmiss']
  split <;> rfl

theorem database_of_answer {output : CollectorOutput}
    (hanswer : env.dispatch (Nodes.selectCollector env.lower focus.text)
      (Nodes.collectorInput env state focus) = .inl output) :
    (collectorsRun cacheEnv faults env db state).database =
      persist cacheEnv faults db env.now (Nodes.selectCollector env.lower focus.text)
        (Nodes.collectorInput env state focus) output := by
  have hmiss' : (withCache cacheEnv faults db env).cacheGet
      (Nodes.selectCollector (withCache cacheEnv faults db env).lower focus.text)
      (Nodes.collectorInput (withCache cacheEnv faults db env) state focus) = none := hmiss
  have hanswer' : (withCache cacheEnv faults db env).dispatch
      (Nodes.selectCollector (withCache cacheEnv faults db env).lower focus.text)
      (Nodes.collectorInput (withCache cacheEnv faults db env) state focus) = .inl output :=
    hanswer
  simp only [collectorsRun, hfocus, hmiss', hanswer']
  rfl

theorem database_of_failure {f : Finding}
    (hfailed : env.dispatch (Nodes.selectCollector env.lower focus.text)
      (Nodes.collectorInput env state focus) = .inr f) :
    (collectorsRun cacheEnv faults env db state).database = db := by
  have hmiss' : (withCache cacheEnv faults db env).cacheGet
      (Nodes.selectCollector (withCache cacheEnv faults db env).lower focus.text)
      (Nodes.collectorInput (withCache cacheEnv faults db env) state focus) = none := hmiss
  have hfailed' : (withCache cacheEnv faults db env).dispatch
      (Nodes.selectCollector (withCache cacheEnv faults db env).lower focus.text)
      (Nodes.collectorInput (withCache cacheEnv faults db env) state focus) = .inr f := hfailed
  simp only [collectorsRun, hfocus, hmiss', hfailed']

end Miss

end Run

/-! ### What happens to an entry -/

section Entry

variable (cacheEnv : CacheEnv)

/-- The event is a run of the node that asks the collector for `k`, is answered with `g`
and stores it, at the time `now`. A new row needs the evidence that `g` refers to. -/
inductive Event.Stores (db : Database) : Event → KeyComponents → Finding → DateTime → Prop
  | collect {faults : Faults} {env : Nodes.CollectorsEnv} {state : IncidentState}
      {focus : Hypothesis} {output : CollectorOutput}
      (hfocus : Nodes.focusHypothesis state = some focus)
      (hmiss : (withCache cacheEnv faults db env).cacheGet
        (Nodes.selectCollector env.lower focus.text) (Nodes.collectorInput env state focus) =
        none)
      (hanswer : env.dispatch (Nodes.selectCollector env.lower focus.text)
        (Nodes.collectorInput env state focus) = .inl output)
      (hput : faults.put = none)
      (hrefs : db.HasKey (requestKey cacheEnv (Nodes.selectCollector env.lower focus.text)
        (Nodes.collectorInput env state focus)) ∨ db.refs.Has output.finding.evidenceId) :
      Stores db (.collect faults env state)
        (keyComponents (Nodes.selectCollector env.lower focus.text)
          (Nodes.collectorInput env state focus)) output.finding env.now

/-- The event deletes the evidence that the row of the key refers to. -/
def Event.Drops (db : Database) (key : String) : Event → Prop
  | .collect _ _ _ => False
  | .insertRef _ => False
  | .deleteRef id => ∃ r, db.row key = some r ∧ r.evidenceId = id

/-- The event changes the entry of `k`. -/
def Event.Touches (k : KeyComponents) (db : Database) (e : Event) : Prop :=
  (∃ k' g now, e.Stores cacheEnv db k' g now ∧ k'.Equiv k) ∨
    e.Drops db (makeCacheKey cacheEnv.sha256 k)

/-- The last that happened to the entry of `k` is that `g` was stored there at `now`. -/
def Stands (history : List Event) (k : KeyComponents) (g : Finding) (now : DateTime) : Prop :=
  ∃ front e back k', history = front ++ e :: back ∧
    e.Stores cacheEnv (after cacheEnv front) k' g now ∧ k'.Equiv k ∧
    Along (Event.apply cacheEnv) (fun db e => ¬ e.Touches cacheEnv k db)
      (e.apply cacheEnv (after cacheEnv front)) back

end Entry

section Rows

variable {cacheEnv : CacheEnv} {db : Database} {k : KeyComponents} {e : Event}

theorem requestKey_eq (collectorName : String) (input : CollectorInput) :
    requestKey cacheEnv collectorName input =
      makeCacheKey cacheEnv.sha256 (keyComponents collectorName input) := rfl

theorem row_apply_of_stores (hsha : Set.InjOn cacheEnv.sha256 hashed) {k' : KeyComponents}
    {g : Finding} {now : DateTime} (h : e.Stores cacheEnv db k' g now) (hk : k'.Equiv k) :
    ∃ r, (e.apply cacheEnv db).row (makeCacheKey cacheEnv.sha256 k) = some r ∧
      r.findingJson = dumpFinding cacheEnv.text g ∧ r.expiresAt = now.addMicros ttl := by
  cases h with
  | @collect faults env state focus output hfocus hmiss hanswer hput hrefs =>
      have hkey := (makeCacheKey_eq_iff hsha _ _).mpr hk
      have hrow : (collectorsRun cacheEnv faults env db state).database.row
          (makeCacheKey cacheEnv.sha256 k) =
          some (db.upserted (answerRow cacheEnv env.now
            (Nodes.selectCollector env.lower focus.text) (Nodes.collectorInput env state focus)
            output)) := by
        rw [database_of_answer hfocus hmiss hanswer, row_persist hput hrefs, requestKey_eq,
          if_pos hkey.symm]
      exact ⟨_, hrow, Database.upserted_findingJson, Database.upserted_expiresAt⟩

theorem row_apply_of_drops {key : String} (h : e.Drops db key) :
    (e.apply cacheEnv db).row key = none := by
  cases e with
  | collect faults env state => exact h.elim
  | insertRef row => exact h.elim
  | deleteRef id =>
      obtain ⟨r, hrow, hid⟩ := h
      show (db.row key).filter (fun r => r.evidenceId ≠ id) = none
      rw [hrow, Option.filter_some, if_neg]
      simpa using hid

/-- Nothing else changes the row of the entry. -/
theorem row_apply_of_not_touches (hsha : Set.InjOn cacheEnv.sha256 hashed)
    (h : ¬ e.Touches cacheEnv k db) :
    (e.apply cacheEnv db).row (makeCacheKey cacheEnv.sha256 k) =
      db.row (makeCacheKey cacheEnv.sha256 k) := by
  obtain ⟨hstores, hdrops⟩ := not_or.mp h
  cases e with
  | collect faults env state =>
      rw [Event.apply]
      obtain hsame | ⟨focus, output, hfocus, hmiss, hanswer, hdb⟩ :=
        database_collectorsRun cacheEnv faults env db state
      · rw [hsame]
      · rw [hdb]
        by_cases hwrites : faults.put = none ∧
            (db.HasKey (requestKey cacheEnv (Nodes.selectCollector env.lower focus.text)
              (Nodes.collectorInput env state focus)) ∨ db.refs.Has output.finding.evidenceId)
        · rw [row_persist hwrites.1 hwrites.2, if_neg]
          intro heq
          have hk := (makeCacheKey_eq_iff hsha _ _).mp heq.symm
          exact hstores ⟨_, _, _, .collect hfocus hmiss hanswer hwrites.1 hwrites.2, hk⟩
        · rw [persist_of_refused hwrites]
  | insertRef row => rfl
  | deleteRef id =>
      show (db.row _).filter (fun r => r.evidenceId ≠ id) = _
      cases hrow : db.row (makeCacheKey cacheEnv.sha256 k) with
      | none => rfl
      | some r =>
          have hid : r.evidenceId ≠ id := fun hid => hdrops ⟨r, hrow, hid⟩
          rw [Option.filter_some, if_pos (decide_eq_true hid)]

/-- **An entry is what was stored last.** -/
theorem row_after_iff (hsha : Set.InjOn cacheEnv.sha256 hashed) (history : List Event)
    (json : Value DateTime) (expiresAt : DateTime) :
    (∃ r, (after cacheEnv history).row (makeCacheKey cacheEnv.sha256 k) = some r ∧
        r.findingJson = json ∧ r.expiresAt = expiresAt) ↔
      ∃ g now, Stands cacheEnv history k g now ∧ json = dumpFinding cacheEnv.text g ∧
        expiresAt = now.addMicros ttl := by
  have hview {db : Database} {ops : List Event}
      (hops : Along (Event.apply cacheEnv) (fun db e => ¬ e.Touches cacheEnv k db) db ops) :
      (ops.foldl (Event.apply cacheEnv) db).row (makeCacheKey cacheEnv.sha256 k) =
        db.row (makeCacheKey cacheEnv.sha256 k) :=
    view_foldl (fun db => db.row (makeCacheKey cacheEnv.sha256 k))
      (fun db e => row_apply_of_not_touches hsha) hops
  have hafter (front : List Event) (e : Event) (back : List Event) :
      after cacheEnv (front ++ e :: back) =
        back.foldl (Event.apply cacheEnv) (e.apply cacheEnv (after cacheEnv front)) := by
    rw [after, List.foldl_append, List.foldl_cons, after]
  constructor
  · rintro ⟨r, hrow, rfl, rfl⟩
    -- The row is there because of the last event that touched it.
    obtain hnever | ⟨front, e, back, rfl, htouches, hback⟩ :=
      along_not_or_exists_last (fun db e => e.Touches cacheEnv k db) Database.empty history
    · rw [after, hview hnever] at hrow
      cases hrow
    · change e.Touches cacheEnv k (after cacheEnv front) at htouches
      change Along _ _ (e.apply cacheEnv (after cacheEnv front)) back at hback
      rw [hafter, hview hback] at hrow
      obtain ⟨k', g, now, hstores, hk⟩ | hdrops := htouches
      · obtain ⟨r', hrow', hjson, hexpires⟩ := row_apply_of_stores hsha hstores hk
        obtain rfl : r' = r := Option.some.inj (hrow'.symm.trans hrow)
        exact ⟨g, now, ⟨front, e, back, k', rfl, hstores, hk, hback⟩, hjson, hexpires⟩
      · rw [row_apply_of_drops hdrops] at hrow
        cases hrow
  · rintro ⟨g, now, ⟨front, e, back, k', rfl, hstores, hk, hback⟩, rfl, rfl⟩
    rw [hafter, hview hback]
    exact row_apply_of_stores hsha hstores hk

end Rows

/-! ### What is served -/

theorem cacheGet_eq_some_iff {cacheEnv : CacheEnv} {faults : Faults} {db : Database}
    {env : Nodes.CollectorsEnv} {collectorName : String} {input : CollectorInput}
    {f : Finding} :
    (withCache cacheEnv faults db env).cacheGet collectorName input = some f ↔
      faults.get = none ∧
        ∃ r, db.row (requestKey cacheEnv collectorName input) = some r ∧
          env.now.instant < r.expiresAt.instant ∧
          finding cacheEnv.parse r.findingJson = .valid f := by
  simp only [withCache]
  cases hget : faults.get with
  | some exc => simp
  | none =>
      rw [CollectorCache.get]
      cases hrow : db.row (requestKey cacheEnv collectorName input) with
      | none => simp
      | some r =>
          by_cases hfresh : env.now.instant < r.expiresAt.instant
          · cases hread : finding cacheEnv.parse r.findingJson with
            | valid f' => simp [hfresh, hread]
            | invalid errors => simp [hfresh, hread]
          · simp [hfresh]

theorem obtainFinding_cacheHit_iff {env : Nodes.CollectorsEnv} {collectorName : String}
    {input : CollectorInput} {f : Finding} :
    Nodes.obtainFinding env collectorName input = (f, "collectors.dispatch.cache_hit") ↔
      env.cacheGet collectorName input = some f := by
  rw [Nodes.obtainFinding]
  cases hget : env.cacheGet collectorName input with
  | some f' => simp
  | none => cases hdispatch : env.dispatch collectorName input <;> simp

/-- **The cache serves what a collector answered.** After any history, a run of the node
is answered from the cache, with `f`, exactly when the last that happened to the entry of
its question is that the answer `f` was stored there, less than five minutes ago. -/
theorem obtainFinding_after_iff {cacheEnv : CacheEnv}
    (hsha : Set.InjOn cacheEnv.sha256 hashed) (history : List Event) (faults : Faults)
    (env : Nodes.CollectorsEnv) (collectorName : String) (input : CollectorInput)
    (f : Finding) :
    Nodes.obtainFinding (withCache cacheEnv faults (after cacheEnv history) env) collectorName
        input = (f, "collectors.dispatch.cache_hit") ↔
      faults.get = none ∧
        ∃ g now, Stands cacheEnv history (keyComponents collectorName input) g now ∧
          env.now.instant < now.instant + ttl ∧ ReadBack cacheEnv g f := by
  rw [obtainFinding_cacheHit_iff, cacheGet_eq_some_iff, requestKey_eq]
  apply and_congr_right
  intro _
  constructor
  · rintro ⟨r, hrow, hfresh, hread⟩
    obtain ⟨g, now, hstands, hjson, hexpires⟩ :=
      (row_after_iff hsha history r.findingJson r.expiresAt).mp ⟨r, hrow, rfl, rfl⟩
    rw [hexpires, DateTime.instant_addMicros] at hfresh
    rw [hjson] at hread
    exact ⟨g, now, hstands, hfresh, finding_dumpFinding_iff.mp hread⟩
  · rintro ⟨g, now, hstands, hfresh, hread⟩
    obtain ⟨r, hrow, hjson, hexpires⟩ :=
      (row_after_iff hsha history (dumpFinding cacheEnv.text g) (now.addMicros ttl)).mpr
        ⟨g, now, hstands, rfl, rfl⟩
    refine ⟨r, hrow, ?_, ?_⟩
    · rw [hexpires, DateTime.instant_addMicros]
      exact hfresh
    · rw [hjson]
      exact finding_dumpFinding_iff.mpr hread

/-- The end of the range is the time of the run and part of the key: on one clock, an entry
serves no run but one at the very time it was stored. -/
theorem now_eq_of_stands {cacheEnv : CacheEnv} {history : List Event} {k : KeyComponents}
    {g : Finding} {now : DateTime} {t : Int} (hstop : k.timeRange.stop = .utc t)
    (hcal : IsoFormat.InCalendar t) (hclock : ∀ e ∈ history, ∃ t', e.Before t')
    (h : Stands cacheEnv history k g now) : now = .utc t := by
  obtain ⟨front, e, back, k', rfl, hstores, hk, -⟩ := h
  have he : ∃ t', e.Before t' := hclock e (by simp)
  cases hstores with
  | @collect faults env state focus output hfocus hmiss hanswer hput hrefs =>
      obtain ⟨-, t', -, hnow, hcal'⟩ := he
      have hends := hk.stop
      rw [hstop] at hends
      change isoformat env.now = isoformat (.utc t) at hends
      rw [hnow] at hends ⊢
      rw [IsoFormat.isoformat_inj hcal' hcal hends]

/-! ### Two runs at one time -/

/-- SHA-256 as an injective function, with its real value on one text. -/
def testServedEnv : CacheEnv where
  sha256 := pinnedHash (keyText testKey).encodeUtf8
    "3688442ed7154dac7a0ef92f8b552458c1647c268eb68ea67e2126ac68ea13ca"
  text := isoformat
  parse _ := some testNow

theorem stands_testKey :
    Stands testServedEnv (testHistory ++ [.collect {} (testEnv 2) testState]) testKey
      testOutput.finding (testEnv 2).now := by
  refine ⟨testHistory, _, [], testKey, rfl, ?_, ⟨rfl, rfl, rfl, rfl, rfl, .refl _, rfl⟩, trivial⟩
  refine .collect focusHypothesis_testState rfl rfl rfl (.inr ?_)
  exact (EvidenceRefs.has_insert_iff _ _ _).mpr (.inl rfl)

/-- The second one does not ask the collector. -/
theorem obtainFinding_after_iff_testState :
    Nodes.obtainFinding
        (withCache testServedEnv {}
          (after testServedEnv (testHistory ++ [.collect {} (testEnv 2) testState])) (testEnv 2))
        "prom" (Nodes.collectorInput (testEnv 2) testState testHypothesis) =
      (testOutput.finding, "collectors.dispatch.cache_hit") :=
  (obtainFinding_after_iff (pinnedHash_injective _ _).injOn _ {} (testEnv 2) "prom" _ _).mpr
    ⟨rfl, testOutput.finding, (testEnv 2).now, stands_testKey, by decide, ⟨rfl, rfl⟩⟩

end AlphE.Dispatch
