import AlphE.Dispatch.Cache
import AlphE.Nodes.Collectors

/-!
The Collectors node with its cache, and a second run of it on one state. A
request ends at the clock of its run, and the end is part of the key: no run
finds the key of an earlier one.
-/

namespace AlphE.Dispatch

open Evidence

/-! ### The node with its cache -/

/-- What reading and what writing raise, when the database is not there. -/
structure Faults where
  get : Option String := none
  put : Option String := none

section Node

variable (cacheEnv : CacheEnv)

/-- What the key of a request is made of. -/
def keyComponents (collectorName : String) (input : CollectorInput) : KeyComponents :=
  { incidentId := input.incidentId
    collectorName := collectorName
    question := input.question
    timeRange := input.timeRange
    scopeServices := input.scopeServices
    environmentFingerprint := input.environmentFingerprint }

def requestKey (collectorName : String) (input : CollectorInput) : String :=
  makeCacheKey cacheEnv.sha256 (keyComponents collectorName input)

/-- The surroundings of the node when its cache is in `db`. What reading raises
is logged. -/
def withCache (faults : Faults) (db : Database) (env : Nodes.CollectorsEnv) :
    Nodes.CollectorsEnv :=
  { env with
    cacheGet := fun collectorName input =>
      match faults.get with
      | some _ => none
      | none =>
          match CollectorCache.get cacheEnv db env.now (requestKey cacheEnv collectorName input)
          with
          | .ok found => found
          | .error _ => none }

/-- The tables after an answer of the collector. What writing raises is
logged. -/
def persist (faults : Faults) (db : Database) (now : DateTime) (collectorName : String)
    (input : CollectorInput) (output : CollectorOutput) : Database :=
  match faults.put with
  | some _ => db
  | none =>
      match CollectorCache.put cacheEnv db now (requestKey cacheEnv collectorName input)
        input.incidentId collectorName input.question output.finding with
      | .ok db' => db'
      | .error _ => db

/-- What a run of the node leaves: its update, the tables, and the requests it
sent. -/
structure CollectorsRun where
  update : StateUpdate
  database : Database
  requests : List (String × CollectorInput)

/-- `collectors_node`, with its cache in `db`. -/
def collectorsRun (faults : Faults) (env : Nodes.CollectorsEnv) (db : Database)
    (state : IncidentState) : CollectorsRun :=
  let env := withCache cacheEnv faults db env
  let update := Nodes.collectorsNode env state
  match Nodes.focusHypothesis state with
  | none => ⟨update, db, []⟩
  | some focus =>
      let collectorName := Nodes.selectCollector env.lower focus.text
      let input := Nodes.collectorInput env state focus
      match env.cacheGet collectorName input with
      | some _ => ⟨update, db, []⟩
      | none =>
          match env.dispatch collectorName input with
          | .inl output =>
              ⟨update, persist cacheEnv faults db env.now collectorName input output,
                [(collectorName, input)]⟩
          | .inr _ => ⟨update, db, [(collectorName, input)]⟩

/-- The tables are as before, or a row for the request and its answer is written. -/
theorem persist_cases (faults : Faults) (db : Database) (now : DateTime) (collectorName : String)
    (input : CollectorInput) (output : CollectorOutput) :
    persist cacheEnv faults db now collectorName input output = db ∨
      ∃ r, db.upsert r = .ok (persist cacheEnv faults db now collectorName input output) ∧
        r.cacheKey = requestKey cacheEnv collectorName input ∧
        r.findingJson = dumpFinding cacheEnv.text output.finding := by
  rw [persist]
  split
  · exact .inl rfl
  · split
    next db' hput => exact .inr ⟨_, hput, rfl, rfl⟩
    next => exact .inl rfl

/-- The only key a run of the node adds is the one of its own request. -/
theorem hasKey_of_persist {faults : Faults} {db : Database} {now : DateTime}
    {collectorName : String} {input : CollectorInput} {output : CollectorOutput} {key : String}
    (h : (persist cacheEnv faults db now collectorName input output).HasKey key) :
    key = requestKey cacheEnv collectorName input ∨ db.HasKey key := by
  obtain hsame | ⟨r, hput, hkey, -⟩ :=
    persist_cases cacheEnv faults db now collectorName input output
  · rw [hsame] at h
    exact .inr h
  · rw [← hkey]
    exact Database.hasKey_of_upsert hput h

/-- A row is one of before, or holds the answer. -/
theorem row_of_persist {faults : Faults} {db : Database} {now : DateTime}
    {collectorName : String} {input : CollectorInput} {output : CollectorOutput} {key : String}
    {row : CacheRow}
    (h : (persist cacheEnv faults db now collectorName input output).row key = some row) :
    db.row key = some row ∨ row.findingJson = dumpFinding cacheEnv.text output.finding := by
  obtain hsame | ⟨r, hput, -, hjson⟩ :=
    persist_cases cacheEnv faults db now collectorName input output
  · rw [hsame] at h
    exact .inl h
  · rw [← hjson]
    exact Database.row_of_upsert hput h

section Run

variable (faults : Faults) (env : Nodes.CollectorsEnv) (db : Database)
  (state : IncidentState)

theorem update_collectorsRun :
    (collectorsRun cacheEnv faults env db state).update =
      Nodes.collectorsNode (withCache cacheEnv faults db env) state := by
  simp only [collectorsRun]
  cases Nodes.focusHypothesis state with
  | none => rfl
  | some focus =>
      simp only
      split
      · rfl
      · split <;> rfl

/-- What the tables are after a run: the same, unless the collector was asked and
answered. -/
theorem database_collectorsRun :
    (collectorsRun cacheEnv faults env db state).database = db ∨
      ∃ focus output, Nodes.focusHypothesis state = some focus ∧
        (withCache cacheEnv faults db env).cacheGet
          (Nodes.selectCollector env.lower focus.text) (Nodes.collectorInput env state focus) =
          none ∧
        env.dispatch (Nodes.selectCollector env.lower focus.text)
          (Nodes.collectorInput env state focus) = .inl output ∧
        (collectorsRun cacheEnv faults env db state).database =
          persist cacheEnv faults db env.now (Nodes.selectCollector env.lower focus.text)
            (Nodes.collectorInput env state focus) output := by
  cases hfocus : Nodes.focusHypothesis state with
  | none =>
      left
      simp only [collectorsRun, hfocus]
  | some focus =>
      have hinput : Nodes.collectorInput (withCache cacheEnv faults db env) state focus =
          Nodes.collectorInput env state focus := rfl
      have hlower : (withCache cacheEnv faults db env).lower = env.lower := rfl
      have hdispatch : (withCache cacheEnv faults db env).dispatch = env.dispatch := rfl
      simp only [collectorsRun, hfocus, hinput, hlower, hdispatch]
      cases hget : (withCache cacheEnv faults db env).cacheGet
          (Nodes.selectCollector env.lower focus.text)
          (Nodes.collectorInput env state focus) with
      | some f => exact .inl rfl
      | none =>
          cases hreply : env.dispatch (Nodes.selectCollector env.lower focus.text)
              (Nodes.collectorInput env state focus) with
          | inl output => exact .inr ⟨focus, output, rfl, hget, hreply, rfl⟩
          | inr f => exact .inl rfl

/-- What the cache answers is read of a row. -/
theorem row_of_cacheGet {collectorName : String} {input : CollectorInput} {f : Finding}
    (h : (withCache cacheEnv faults db env).cacheGet collectorName input = some f) :
    ∃ key row, db.row key = some row ∧ finding cacheEnv.parse row.findingJson = .valid f := by
  simp only [withCache] at h
  split at h
  · cases h
  · split at h
    next found hget =>
        subst h
        exact ⟨_, CollectorCache.row_of_get cacheEnv hget⟩
    next => cases h

end Run

end Node

/-! ### What may have happened to the tables -/

inductive Event
  | collect (faults : Faults) (env : Nodes.CollectorsEnv) (state : IncidentState)
  | insertRef (row : EvidenceRow)
  | deleteRef (evidenceId : String)

/-- The text a run of the node hashes, if there is a focus. -/
def requestText (env : Nodes.CollectorsEnv) (state : IncidentState) : Option String :=
  (Nodes.focusHypothesis state).map fun focus =>
    keyText (keyComponents (Nodes.selectCollector env.lower focus.text)
      (Nodes.collectorInput env state focus))

namespace Event

def text : Event → Option String
  | .collect _ env state => requestText env state
  | .insertRef _ => none
  | .deleteRef _ => none

/-- A run before the time `t`; the other events have no clock. -/
def Before (t : Int) : Event → Prop
  | .collect _ env _ => ∃ t' < t, env.now = .utc t' ∧ IsoFormat.InCalendar t'
  | .insertRef _ => True
  | .deleteRef _ => True

end Event

section History

variable (cacheEnv : CacheEnv)

def Event.apply (db : Database) : Event → Database
  | .collect faults env state => (collectorsRun cacheEnv faults env db state).database
  | .insertRef row => db.insertRef row
  | .deleteRef evidenceId => db.deleteRef evidenceId

/-- The tables after a history, which starts with empty ones. -/
def after (history : List Event) : Database :=
  history.foldl (Event.apply cacheEnv) Database.empty

/-- Every key is the digest of a text of `T`. -/
def KeysFrom (T : Set String) (db : Database) : Prop :=
  ∀ key, db.HasKey key → ∃ text ∈ T, key = cacheEnv.sha256 text.encodeUtf8

variable {cacheEnv}

/-- The only key a run of the node adds is the digest of its own text. -/
theorem hasKey_of_collectorsRun {faults : Faults} {env : Nodes.CollectorsEnv} {db : Database}
    {state : IncidentState} {key : String}
    (h : (collectorsRun cacheEnv faults env db state).database.HasKey key) :
    (∃ text, requestText env state = some text ∧ key = cacheEnv.sha256 text.encodeUtf8) ∨
      db.HasKey key := by
  obtain hsame | ⟨focus, output, hfocus, -, -, hdb⟩ :=
    database_collectorsRun cacheEnv faults env db state
  · rw [hsame] at h
    exact .inr h
  · rw [hdb] at h
    obtain hkey | hkey := hasKey_of_persist cacheEnv h
    · refine .inl ⟨_, ?_, hkey⟩
      rw [requestText, hfocus]
      rfl
    · exact .inr hkey

theorem KeysFrom.apply {T : Set String} {db : Database} (h : KeysFrom cacheEnv T db)
    (e : Event) (htext : ∀ text, e.text = some text → text ∈ T) :
    KeysFrom cacheEnv T (e.apply cacheEnv db) := by
  intro key hkey
  cases e with
  | collect faults env state =>
      obtain ⟨text, hrequest, rfl⟩ | hkey := hasKey_of_collectorsRun hkey
      · exact ⟨text, htext text hrequest, rfl⟩
      · exact h key hkey
  | insertRef row => exact h key hkey
  | deleteRef evidenceId => exact h key (Database.hasKey_of_deleteRef hkey)

theorem keysFrom_after {T : Set String} (history : List Event)
    (htexts : ∀ e ∈ history, ∀ text, e.text = some text → text ∈ T) :
    KeysFrom cacheEnv T (after cacheEnv history) := by
  apply List.foldlRecOn
  · intro key hkey
    exact absurd hkey (Database.not_hasKey_empty key)
  · intro db hdb e he
    exact hdb.apply e (htexts e he)

/-- The end of a request that is hashed before the time `t` is before `t`. -/
theorem exists_stop_of_before {t : Int} {e : Event} (h : e.Before t) {text : String}
    (htext : e.text = some text) :
    ∃ k t', text = keyText k ∧ k.timeRange.stop = .utc t' ∧ t' < t ∧
      IsoFormat.InCalendar t' := by
  cases e with
  | collect faults env state =>
      obtain ⟨t', hlt, hnow, hcal⟩ := h
      obtain ⟨focus, -, rfl⟩ := Option.map_eq_some_iff.mp htext
      exact ⟨_, t', rfl, hnow, hlt, hcal⟩
  | insertRef row => cases htext
  | deleteRef evidenceId => cases htext

/-- The text of a request that ends at `t` was never hashed before `t`. -/
theorem text_ne_of_before {t : Int} (hcal : IsoFormat.InCalendar t) {e : Event}
    (h : e.Before t) {text : String} (htext : e.text = some text) {k : KeyComponents}
    (hstop : k.timeRange.stop = .utc t) : text ≠ keyText k := by
  obtain ⟨k', t', rfl, hstop', hlt, hcal'⟩ := exists_stop_of_before h htext
  intro heq
  have hends := (isoformat_eq_of_keyText_eq heq).2
  rw [hstop, hstop'] at hends
  have hsame : t' = t := IsoFormat.isoformat_inj hcal' hcal hends
  omega

/-- A run at a time after everything in the tables asks the collector. -/
theorem requests_collectorsRun {history : List Event} {faults : Faults}
    {env : Nodes.CollectorsEnv} {state : IncidentState} {focus : Hypothesis} {t : Int}
    (hfocus : Nodes.focusHypothesis state = some focus) (hnow : env.now = .utc t)
    (hcal : IsoFormat.InCalendar t) (hbefore : ∀ e ∈ history, e.Before t)
    (hsha : ∀ e ∈ history, ∀ text, e.text = some text →
      ∀ text', requestText env state = some text' →
      cacheEnv.sha256 text.encodeUtf8 = cacheEnv.sha256 text'.encodeUtf8 → text = text') :
    (collectorsRun cacheEnv faults env (after cacheEnv history) state).requests =
      [(Nodes.selectCollector env.lower focus.text, Nodes.collectorInput env state focus)] := by
  have hrequest : requestText env state =
      some (keyText (keyComponents (Nodes.selectCollector env.lower focus.text)
        (Nodes.collectorInput env state focus))) := by
    rw [requestText, hfocus]
    rfl
  have hmiss : ¬ (after cacheEnv history).HasKey
      (requestKey cacheEnv (Nodes.selectCollector env.lower focus.text)
        (Nodes.collectorInput env state focus)) := by
    intro hkey
    obtain ⟨text, ⟨e, he, htext⟩, hdigest⟩ := keysFrom_after
      (T := {text | ∃ e ∈ history, e.text = some text}) history
      (fun e he text htext => ⟨e, he, htext⟩) _ hkey
    exact text_ne_of_before hcal (hbefore e he) htext hnow
      (hsha e he text htext _ hrequest hdigest.symm)
  have hget : (withCache cacheEnv faults (after cacheEnv history) env).cacheGet
      (Nodes.selectCollector env.lower focus.text) (Nodes.collectorInput env state focus) =
        none := by
    simp only [withCache, CollectorCache.get_of_not_hasKey cacheEnv hmiss]
    cases faults.get <;> rfl
  simp only [collectorsRun, hfocus]
  split
  next f hfound => exact absurd (hget.symm.trans hfound) (by simp)
  next => split <;> rfl

end History

/-! ### The second run -/

/-- The second run of the node on a state returns what the first one returned, and
from the cache. -/
structure ServedAgain (first second : CollectorsRun) : Prop where
  findings : second.update.findings = first.update.findings
  event : ((second.update.timeline.getD []).getLast?.map TimelineEvent.eventType) =
    some "collectors.dispatch.cache_hit"
  requests : second.requests = []

/-- **A second run is never served from the cache.** Whatever the tables held
before the first one, and however the two differ besides. -/
theorem not_servedAgain (cacheEnv : CacheEnv) {history : List Event}
    {faults₁ faults₂ : Faults} {env₁ env₂ : Nodes.CollectorsEnv} {state : IncidentState}
    {focus : Hypothesis} {t₂ : Int} (hfocus : Nodes.focusHypothesis state = some focus)
    (hnow : env₂.now = .utc t₂) (hcal : IsoFormat.InCalendar t₂)
    (hbefore : ∀ e ∈ history ++ [.collect faults₁ env₁ state], e.Before t₂)
    (hsha : ∀ e ∈ history ++ [.collect faults₁ env₁ state], ∀ text, e.text = some text →
      ∀ text', requestText env₂ state = some text' →
      cacheEnv.sha256 text.encodeUtf8 = cacheEnv.sha256 text'.encodeUtf8 → text = text') :
    ¬ ServedAgain (collectorsRun cacheEnv faults₁ env₁ (after cacheEnv history) state)
        (collectorsRun cacheEnv faults₂ env₂
          (collectorsRun cacheEnv faults₁ env₁ (after cacheEnv history) state).database
          state) := by
  intro hserved
  have hdb : (collectorsRun cacheEnv faults₁ env₁ (after cacheEnv history) state).database =
      after cacheEnv (history ++ [.collect faults₁ env₁ state]) := by
    rw [after, after, List.foldl_append]
    rfl
  have hrequests := hserved.requests
  rw [hdb, requests_collectorsRun hfocus hnow hcal hbefore hsha] at hrequests
  cases hrequests

/-! ### A retry one minute later -/

def testHypothesis : Hypothesis :=
  { id := "hyp_1", text := "metric.restarts of leaky-service", createdAt := testNow }

def testState : IncidentState :=
  { incidentId := "inc_5f0c3a527d"
    alert :=
      { source := "alertmanager:default", rawMessage := "PodOOMKilled"
        service := "leaky-service", severity := .high, firedAt := testNow }
    hypotheses := [testHypothesis]
    currentFocusHypothesisId := some "hyp_1"
    createdAt := testNow
    updatedAt := testNow }

def testOutput : CollectorOutput :=
  { finding :=
      { id := "fnd_1", collectorName := "prom", question := testHypothesis.text
        summary := "3 restarts", evidenceId := "ev_1", confidence := UnitFloat.one
        createdAt := testNow }
    evidence :=
      { evidenceId := "ev_1", storageUri := "s3://incidents/ev_1"
        contentType := "application/json", sizeBytes := 2, expiresAt := testNow }
    toolCallsUsed := 1
    tokensUsed := 0 }

/-- The surroundings `n` minutes after the alert fired. -/
def testEnv (n : Int) : Nodes.CollectorsEnv where
  now := testNow.addMicros (DateTime.minutes n)
  lower := id
  environ _ := none
  cacheGet _ _ := none
  dispatch _ _ := .inl testOutput

/-- The row that the finding's evidence needs is there. -/
def testHistory : List Event :=
  [.insertRef
    { evidenceId := "ev_1", incidentId := "inc_5f0c3a527d", storageUri := "s3://incidents/ev_1"
      contentType := "application/json", sizeBytes := 2, expiresAt := testNow }]

/-- What the request of the second minute is made of. -/
def testKey : KeyComponents :=
  keyComponents "prom" (Nodes.collectorInput (testEnv 2) testState testHypothesis)

/-- SHA-256 of the two texts that are hashed. -/
def testSha256 (text : Bytes) : String :=
  if text = (keyText testKey).encodeUtf8 then
    "3688442ed7154dac7a0ef92f8b552458c1647c268eb68ea67e2126ac68ea13ca"
  else "9dc20a1445649c79b0a8d8651d30e4a837d4320abe7cfb5bc991db8cf99a8a97"

def testCacheEnv : CacheEnv where
  sha256 := testSha256
  text := isoformat
  parse _ := some testNow

theorem eq_of_testSha256_eq {text : String}
    (h : testSha256 text.encodeUtf8 = testSha256 (keyText testKey).encodeUtf8) :
    text = keyText testKey := by
  rw [testSha256, testSha256, if_pos rfl] at h
  by_cases htext : text.encodeUtf8 = (keyText testKey).encodeUtf8
  · exact String.encodeUtf8_injective htext
  · rw [if_neg htext] at h
    exact absurd h (by decide)

theorem focusHypothesis_testState : Nodes.focusHypothesis testState = some testHypothesis := rfl

theorem requestText_testEnv : requestText (testEnv 2) testState = some (keyText testKey) := rfl

def testTime (n : Int) : Int := testNow.clock + DateTime.minutes n

theorem now_testEnv (n : Int) : (testEnv n).now = .utc (testTime n) := rfl

theorem inCalendar_testTime_one : IsoFormat.InCalendar (testTime 1) :=
  ⟨by decide, by decide⟩

theorem inCalendar_testTime_two : IsoFormat.InCalendar (testTime 2) :=
  ⟨by decide, by decide⟩

/-- The history with the first run. -/
def testFirst : List Event := testHistory ++ [.collect {} (testEnv 1) testState]

theorem before_testFirst : ∀ e ∈ testFirst, e.Before (testTime 2) := by
  intro e he
  obtain rfl | rfl : e = _ ∨ e = _ := by simpa [testFirst, testHistory] using he
  · trivial
  · exact ⟨testTime 1, by decide, rfl, inCalendar_testTime_one⟩

theorem sha256_testFirst : ∀ e ∈ testFirst, ∀ text, e.text = some text →
    ∀ text', requestText (testEnv 2) testState = some text' →
    testSha256 text.encodeUtf8 = testSha256 text'.encodeUtf8 → text = text' := by
  intro e _ text _ text' htext' h
  rw [requestText_testEnv, Option.some.injEq] at htext'
  subst htext'
  exact eq_of_testSha256_eq h

theorem not_servedAgain_testState :
    ¬ ServedAgain
        (collectorsRun testCacheEnv {} (testEnv 1) (after testCacheEnv testHistory) testState)
        (collectorsRun testCacheEnv {} (testEnv 2)
          (collectorsRun testCacheEnv {} (testEnv 1) (after testCacheEnv testHistory)
            testState).database testState) :=
  not_servedAgain testCacheEnv focusHypothesis_testState (now_testEnv 2)
    inCalendar_testTime_two before_testFirst sha256_testFirst

/-- The collector answers, its finding may be cached, and one minute later it is
asked again. -/
theorem not_forall_servedAgain :
    ¬ ∀ (history : List Event) (env₁ env₂ : Nodes.CollectorsEnv) (state : IncidentState)
      (focus : Hypothesis) (output : CollectorOutput) (t₁ t₂ : Int),
      (∀ e ∈ history, e.Before t₁) →
      Nodes.focusHypothesis state = some focus →
      env₁.now = .utc t₁ → env₂.now = .utc t₂ →
      IsoFormat.InCalendar t₁ → IsoFormat.InCalendar t₂ →
      t₁ < t₂ → t₂ < t₁ + ttl →
      let collectorName := Nodes.selectCollector env₁.lower focus.text
      let input := Nodes.collectorInput env₁ state focus
      let first := collectorsRun testCacheEnv {} env₁ (after testCacheEnv history) state
      first.requests = [(collectorName, input)] →
      env₁.dispatch collectorName input = .inl output →
      ServedAgain first (collectorsRun testCacheEnv {} env₂ first.database state) := by
  intro h
  have hhistory : ∀ e ∈ testHistory, e.Before (testTime 1) := by
    simp [testHistory, Event.Before]
  have hfirst : (collectorsRun testCacheEnv {} (testEnv 1) (after testCacheEnv testHistory)
      testState).requests =
        [("prom", Nodes.collectorInput (testEnv 1) testState testHypothesis)] :=
    requests_collectorsRun focusHypothesis_testState (now_testEnv 1) inCalendar_testTime_one
      hhistory (by simp [testHistory, Event.text])
  have hserved := h testHistory (testEnv 1) (testEnv 2) testState testHypothesis testOutput
    (testTime 1) (testTime 2) hhistory focusHypothesis_testState (now_testEnv 1) (now_testEnv 2)
    inCalendar_testTime_one inCalendar_testTime_two (by decide) (by decide) hfirst rfl
  have hrequests := hserved.requests
  change (collectorsRun testCacheEnv {} (testEnv 2) (after testCacheEnv testFirst)
    testState).requests = [] at hrequests
  rw [requests_collectorsRun focusHypothesis_testState (now_testEnv 2) inCalendar_testTime_two
    before_testFirst sha256_testFirst] at hrequests
  cases hrequests

end AlphE.Dispatch
