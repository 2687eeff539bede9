import AlphE.Schemas.Incident
import AlphE.Dispatch.Cache

/-!
The evidence that the rows of the cache refer to. A `put` on a key that has a row puts the
new finding there and leaves the reference to the evidence of the old one: from then on the
deletion of the old evidence drops the new finding, and that of the new evidence leaves it
to be served.
-/

namespace AlphE.Dispatch

open Operations Validation Evidence

/-! ### What changes the tables -/

inductive Statement
  | put (now : DateTime) (cacheKey incidentId collectorName question : String) (f : Finding)
  | insertRef (row : EvidenceRow)
  | deleteRef (evidenceId : String)

/-- What the statement leaves. A `put` that raises leaves what there was. -/
def Statement.apply (env : CacheEnv) (db : Database) : Statement → Database
  | .put now cacheKey incidentId collectorName question f =>
      match CollectorCache.put env db now cacheKey incidentId collectorName question f with
      | .ok db' => db'
      | .error _ => db
  | .insertRef row => db.insertRef row
  | .deleteRef evidenceId => db.deleteRef evidenceId

/-- `finding_json ->> 'evidence_id'`. -/
def evidenceIdOf : Value DateTime → Option String
  | .dict items =>
      match items.lookup "evidence_id" with
      | some (.str id) => some id
      | _ => none
  | _ => none

@[simp] theorem evidenceIdOf_dumpFinding (text : DateTime → String) (f : Finding) :
    evidenceIdOf (dumpFinding text f) = some f.evidenceId := by
  simp +decide [evidenceIdOf, dumpFinding, List.lookup_cons]

/-! ### The rows and their evidence -/

/-- The column `evidence_id` of every row is that of its finding. -/
def Database.RefersToFinding (db : Database) : Prop :=
  ∀ key r, db.row key = some r → evidenceIdOf r.findingJson = some r.evidenceId

/-- Findings are served while their evidence has a row, and no longer. -/
structure Database.Sound (env : CacheEnv) (db : Database) : Prop where
  column : db.RefersToFinding
  served : ∀ now key f, CollectorCache.get env db now key = .ok (some f) →
    db.refs.Has f.evidenceId
  kept : ∀ id key r, db.row key = some r → evidenceIdOf r.findingJson ≠ some id →
    (db.deleteRef id).row key = some r

/-- Every row holds a finding as it was written. -/
def Database.Written (env : CacheEnv) (db : Database) : Prop :=
  ∀ key r, db.row key = some r → ∃ f, r.findingJson = dumpFinding env.text f

/-- A `put` finds under its key no row, or one that refers to the evidence of the finding. -/
def Statement.KeepsEvidence (db : Database) : Statement → Prop
  | .put _ cacheKey _ _ _ f => ∀ old, db.row cacheKey = some old → old.evidenceId = f.evidenceId
  | .insertRef _ => True
  | .deleteRef _ => True

namespace Database

variable {env : CacheEnv} {db db' : Database}

/-- What a successful upsert does: its key has the finding, and still the reference that
was there if one was. -/
theorem row_of_upsert_ok {r : CacheRow} (h : db.upsert r = .ok db') :
    ∃ r', r'.findingJson = r.findingJson ∧
      r'.evidenceId = ((db.row r.cacheKey).map CacheRow.evidenceId).getD r.evidenceId ∧
      ∀ key, db'.row key = if key = r.cacheKey then some r' else db.row key := by
  rw [upsert] at h
  split at h
  next old hold =>
      rw [Except.ok.injEq] at h
      have hkey : old.cacheKey = r.cacheKey := db.primaryKey r.cacheKey old hold
      refine ⟨{ old with findingJson := r.findingJson, expiresAt := r.expiresAt }, rfl, ?_, ?_⟩
      · rw [hold]
        rfl
      · intro key
        rw [← h, write, hkey]
  next hold =>
      split at h
      next hrefs =>
          rw [Except.ok.injEq] at h
          refine ⟨r, rfl, ?_, ?_⟩
          · rw [hold]
            rfl
          · intro key
            rw [← h, write]
      next hrefs => cases h

/-- Only a new row is refused. -/
theorem row_eq_none_of_upsert_error {r : CacheRow} {err : String}
    (h : db.upsert r = .error err) : db.row r.cacheKey = none := by
  rw [upsert] at h
  split at h
  next old hold => cases h
  next hold => exact hold

/-! ### One statement -/

theorem refersToFinding_upsert_iff {r : CacheRow} {f : Finding} (hdb : db.RefersToFinding)
    (hjson : r.findingJson = dumpFinding env.text f) (hid : r.evidenceId = f.evidenceId)
    (h : db.upsert r = .ok db') :
    db'.RefersToFinding ↔
      ∀ old, db.row r.cacheKey = some old → old.evidenceId = f.evidenceId := by
  obtain ⟨r', hjson', hid', hrow⟩ := row_of_upsert_ok h
  have hfinding : evidenceIdOf r'.findingJson = some f.evidenceId := by
    rw [hjson', hjson, evidenceIdOf_dumpFinding]
  constructor
  · intro hdb' old hold
    have hr' := hdb' r.cacheKey r' (by rw [hrow, if_pos rfl])
    rw [hold, Option.map_some, Option.getD_some] at hid'
    rw [hfinding, hid', Option.some.injEq] at hr'
    exact hr'.symm
  · intro hold key row hkey
    rw [hrow] at hkey
    by_cases heq : key = r.cacheKey
    · rw [if_pos heq, Option.some.injEq] at hkey
      rw [← hkey, hfinding, Option.some.injEq, hid']
      cases hbefore : db.row r.cacheKey with
      | none => exact hid.symm
      | some old => exact (hold old hbefore).symm
    · rw [if_neg heq] at hkey
      exact hdb key row hkey

theorem RefersToFinding.insertRef (hdb : db.RefersToFinding) (row : EvidenceRow) :
    (db.insertRef row).RefersToFinding := hdb

theorem RefersToFinding.deleteRef (hdb : db.RefersToFinding) (id : String) :
    (db.deleteRef id).RefersToFinding := by
  intro key r hrow
  exact hdb key r (Option.filter_eq_some_iff.mp hrow).1

theorem refersToFinding_apply_iff (hdb : db.RefersToFinding) (stmt : Statement) :
    (stmt.apply env db).RefersToFinding ↔ stmt.KeepsEvidence db := by
  cases stmt with
  | put now cacheKey incidentId collectorName question f =>
      rw [Statement.apply]
      split
      next db' hok => exact refersToFinding_upsert_iff hdb rfl rfl hok
      next err herror =>
          refine iff_of_true hdb ?_
          intro old hold
          rw [row_eq_none_of_upsert_error herror] at hold
          cases hold
  | insertRef row => exact iff_of_true (hdb.insertRef row) trivial
  | deleteRef id => exact iff_of_true (hdb.deleteRef id) trivial

theorem Written.apply (hdb : db.Written env) (stmt : Statement) :
    (stmt.apply env db).Written env := by
  cases stmt with
  | put now cacheKey incidentId collectorName question f =>
      rw [Statement.apply]
      split
      next db' hok =>
          intro key row hrow
          rcases row_of_upsert hok hrow with hold | hnew
          · exact hdb key row hold
          · exact ⟨f, hnew⟩
      next => exact hdb
  | insertRef row => exact hdb
  | deleteRef id =>
      intro key row hrow
      exact hdb key row (Option.filter_eq_some_iff.mp hrow).1

/-! ### What the column is worth -/

/-- With the column in order, what is served is read of a row that refers to its evidence,
and a deletion drops the rows of the evidence only. -/
theorem sound_iff (hdb : db.Written env) : db.Sound env ↔ db.RefersToFinding := by
  refine ⟨Sound.column, fun hcolumn => ⟨hcolumn, ?_, ?_⟩⟩
  · intro now key g hget
    obtain ⟨row, hrow, hread⟩ := CollectorCache.row_of_get env hget
    obtain ⟨f, hjson⟩ := hdb key row hrow
    have hcol := hcolumn key row hrow
    rw [hjson] at hread hcol
    rw [evidenceIdOf_dumpFinding, Option.some.injEq] at hcol
    -- Only the time may be read as another one than was written.
    rw [eq_of_finding_dumpFinding hread, hcol]
    exact db.foreignKey key row hrow
  · intro id key r hrow hne
    have hid : r.evidenceId ≠ id := by
      intro h
      exact hne (h ▸ hcolumn key r hrow)
    exact Option.filter_eq_some_iff.mpr ⟨hrow, decide_eq_true hid⟩

end Database

/-! ### Any statements -/

/-- **Rows that refer to the evidence they serve.** After every statement of a list, over
tables that were empty, the rows refer to the evidence of their findings, which is there
when they are served and the only one they go with, exactly when no `put` of the list
writes over a row of other evidence. -/
theorem sound_states_iff (env : CacheEnv) (stmts : List Statement) :
    (∀ db ∈ states (fun db stmt => stmt.apply env db) .empty stmts, db.Sound env) ↔
      Along (fun db stmt => stmt.apply env db) (fun db stmt => stmt.KeepsEvidence db)
        .empty stmts := by
  let step (db : Database) (stmt : Statement) : Database := stmt.apply env db
  have hempty : Database.empty.RefersToFinding ∧ Database.empty.Written env := ⟨nofun, nofun⟩
  have hwritten : ∀ db ∈ states step .empty stmts, db.Written env := by
    refine (states_invariant_iff (G := fun _ _ => True) ?_ hempty.2 (along_true _ stmts)).mpr
      (along_true _ stmts)
    intro db stmt hdb _
    exact iff_of_true (hdb.apply stmt) trivial
  have hsound : (∀ db ∈ states step .empty stmts, db.Sound env) ↔
      ∀ db ∈ states step .empty stmts, db.RefersToFinding :=
    forall₂_congr fun db hdb => Database.sound_iff (hwritten db hdb)
  rw [hsound]
  exact states_invariant_iff (fun db stmt hdb _ => Database.refersToFinding_apply_iff hdb stmt)
    hempty.1 (along_true _ stmts)

/-! ### A second finding under one key -/

def testEvidence (id : String) : EvidenceRow :=
  { evidenceId := id, incidentId := "inc_001", storageUri := "s3://incidents/" ++ id
    contentType := "application/json", sizeBytes := 2, expiresAt := testNow }

def testFinding (evidenceId : String) : Finding :=
  { id := "fnd_1", collectorName := "prom", question := "q", summary := "3 restarts"
    evidenceId := evidenceId, confidence := UnitFloat.one, createdAt := testNow }

def testRowKey : String := "65c0aad5c42e3b3e00ec64b1fb627dcfdd4764ed995ec1a2492716e2e49bef05"

/-- The first finding has expired when the second one is put in its place. -/
def testStatements : List Statement :=
  [.insertRef (testEvidence "ev_1"), .insertRef (testEvidence "ev_2"),
    .put testNow testRowKey "inc_001" "prom" "q" (testFinding "ev_1"),
    .put (testNow.addMicros (DateTime.minutes 6)) testRowKey "inc_001" "prom" "q"
      (testFinding "ev_2")]

/-- The second one goes with the evidence of the first. -/
theorem not_sound_states :
    ¬ ∀ (env : CacheEnv) (stmts : List Statement),
      ∀ db ∈ states (fun db stmt => stmt.apply env db) .empty stmts, db.Sound env := by
  intro h
  let env : CacheEnv :=
    { sha256 := fun _ => testRowKey, text := isoformat, parse := fun _ => some testNow }
  have hsound := h env testStatements _ (List.mem_cons_of_mem _ (List.mem_cons_of_mem _
    (List.mem_cons_of_mem _ List.mem_cons_self)))
  have hcolumn := hsound.column testRowKey _ rfl
  rw [evidenceIdOf_dumpFinding] at hcolumn
  revert hcolumn
  decide

end AlphE.Dispatch
