import AlphE.Lib.CompactJson
import AlphE.Lib.IdealSignature
import AlphE.Lib.IsoFormat
import AlphE.Evidence.Store
import AlphE.Dispatch.Http

/-!
The cache of collector results (`dispatch/cache.py`). A key is the SHA-256 digest of the
canonical JSON text of what the result depends on. The tables are those of
`0001_initial.sql`: a row of `collector_cache` refers to a row of `evidence_refs` and goes
when that one is deleted.

SHA-256 is a parameter, as it is where intents are signed. So are the texts that
`model_dump_json` writes for a datetime and the way they are read back.
-/

namespace AlphE.Dispatch

open CompactJson Validation Validated Evidence

/-! ### The key -/

/-- The arguments of `make_cache_key`. -/
structure KeyComponents where
  incidentId : String
  collectorName : String
  question : String
  timeRange : TimeRange
  scopeServices : List String
  environmentFingerprint : EnvironmentFingerprint

def isoformat (t : DateTime) : String := IsoFormat.isoformat t.clock t.utcoffset

def timeRangeJson (r : TimeRange) : Json :=
  .obj [("start", .str (isoformat r.start)), ("end", .str (isoformat r.stop))]

def fingerprintJson (f : EnvironmentFingerprint) : Json :=
  .obj
    [("cluster", .str f.cluster),
      ("account", .str f.account),
      ("region", .str f.region),
      ("deploy_revision", .str f.deployRevision),
      ("rollout_generation", .str f.rolloutGeneration)]

def componentsJson (k : KeyComponents) : Json :=
  .obj
    [("incident_id", .str k.incidentId),
      ("collector_name", .str k.collectorName),
      ("question", .str k.question),
      ("time_range", timeRangeJson k.timeRange),
      ("scope_services", .arr ((k.scopeServices.insertionSort (· ≤ ·)).map .str)),
      ("environment_fingerprint", fingerprintJson k.environmentFingerprint)]

/-- The text that is hashed. -/
def keyText (k : KeyComponents) : String := dumps (componentsJson k)

/-- `make_cache_key`. -/
def makeCacheKey (sha256 : Bytes → String) (k : KeyComponents) : String :=
  sha256 (keyText k).encodeUtf8

/-- The text determines both ends of the time range. -/
theorem isoformat_eq_of_keyText_eq {k k' : KeyComponents} (h : keyText k = keyText k') :
    isoformat k.timeRange.start = isoformat k'.timeRange.start ∧
      isoformat k.timeRange.stop = isoformat k'.timeRange.stop := by
  rw [keyText, keyText, dumps_eq_iff, componentsJson, componentsJson] at h
  have hmembers := (sortKeys_obj_eq_iff_of_keys_eq (by simp) (by simp)).mp h
  simp only [sortMembers, List.cons.injEq, Prod.mk.injEq, true_and, and_true] at hmembers
  obtain ⟨-, -, -, hrange, -, -⟩ := hmembers
  have hends := (sortKeys_obj_eq_iff_of_keys_eq (by simp) (by simp)).mp hrange
  simpa [sortMembers, sortKeys] using hends

/-! ### The tables -/

/-- A row of `collector_cache`. -/
structure CacheRow where
  cacheKey : String
  incidentId : String
  collector : String
  question : String
  findingJson : Value DateTime
  evidenceId : String
  expiresAt : DateTime

/-- The tables, with the constraints the schema declares. -/
structure Database where
  refs : EvidenceRefs
  row : String → Option CacheRow
  primaryKey : ∀ key r, row key = some r → r.cacheKey = key
  foreignKey : ∀ key r, row key = some r → refs.Has r.evidenceId

namespace Database

def empty : Database where
  refs := .empty
  row _ := none
  primaryKey _ _ h := nomatch h
  foreignKey _ _ h := nomatch h

/-- The row is written, over the one of its key. -/
def write (db : Database) (r : CacheRow) (hrefs : db.refs.Has r.evidenceId) : Database where
  refs := db.refs
  row key := if key = r.cacheKey then some r else db.row key
  primaryKey := by
    intro key r' h
    by_cases hkey : key = r.cacheKey
    · rw [if_pos hkey, Option.some.injEq] at h
      rw [← h, hkey]
    · rw [if_neg hkey] at h
      exact db.primaryKey key r' h
  foreignKey := by
    intro key r' h
    by_cases hkey : key = r.cacheKey
    · rw [if_pos hkey, Option.some.injEq] at h
      rw [← h]
      exact hrefs
    · rw [if_neg hkey] at h
      exact db.foreignKey key r' h

/-- `INSERT … ON CONFLICT (cache_key) DO UPDATE SET finding_json, expires_at`.
The reference of a new row is checked; a row that is written over keeps its
own. -/
def upsert (db : Database) (r : CacheRow) : Except String Database :=
  match hold : db.row r.cacheKey with
  | some old =>
      .ok (db.write { old with findingJson := r.findingJson, expiresAt := r.expiresAt }
        (db.foreignKey r.cacheKey old hold))
  | none =>
      if hrefs : db.refs.Has r.evidenceId then .ok (db.write r hrefs)
      else .error "ForeignKeyViolation"

/-- A row of `evidence_refs` is written, unless its id has one. -/
def insertRef (db : Database) (r : EvidenceRow) : Database :=
  { db with
    refs := db.refs.insert r
    foreignKey := by
      intro key r' h
      rw [EvidenceRefs.has_insert_iff]
      exact .inr (db.foreignKey key r' h) }

/-- A row of `evidence_refs` is deleted, and with it the rows that refer to
it: `ON DELETE CASCADE`. -/
def deleteRef (db : Database) (id : String) : Database where
  refs := db.refs.delete id
  row key := (db.row key).filter fun r => r.evidenceId ≠ id
  primaryKey := by
    intro key r h
    exact db.primaryKey key r (Option.filter_eq_some_iff.mp h).1
  foreignKey := by
    intro key r h
    obtain ⟨hrow, hne⟩ := Option.filter_eq_some_iff.mp h
    rw [EvidenceRefs.has_delete_iff]
    exact ⟨of_decide_eq_true hne, db.foreignKey key r hrow⟩

/-- The keys a row can be found under. -/
def HasKey (db : Database) (key : String) : Prop := (db.row key).isSome

theorem not_hasKey_empty (key : String) : ¬ empty.HasKey key := by
  simp [HasKey, empty]

/-- What is written has the key and the finding of the row. -/
theorem upsert_cases {db db' : Database} {r : CacheRow} (h : db.upsert r = .ok db') :
    ∃ (r' : CacheRow) (hrefs : db.refs.Has r'.evidenceId), db' = db.write r' hrefs ∧
      r'.cacheKey = r.cacheKey ∧ r'.findingJson = r.findingJson := by
  rw [upsert] at h
  split at h
  next old hold =>
      rw [Except.ok.injEq] at h
      exact ⟨_, _, h.symm, db.primaryKey r.cacheKey old hold, rfl⟩
  next hold =>
      split at h
      next hrefs =>
          rw [Except.ok.injEq] at h
          exact ⟨r, hrefs, h.symm, rfl, rfl⟩
      next hrefs => cases h

/-- What was written stands under the key it was written with. -/
theorem hasKey_of_upsert {db db' : Database} {r : CacheRow} (h : db.upsert r = .ok db')
    {key : String} (hkey : db'.HasKey key) : key = r.cacheKey ∨ db.HasKey key := by
  obtain ⟨r', hrefs, rfl, hcacheKey, -⟩ := upsert_cases h
  by_cases heq : key = r'.cacheKey
  · exact .inl (heq.trans hcacheKey)
  · simp only [HasKey, write, if_neg heq] at hkey
    exact .inr hkey

/-- A row is one of before, or holds what was written. -/
theorem row_of_upsert {db db' : Database} {r row : CacheRow} (h : db.upsert r = .ok db')
    {key : String} (hrow : db'.row key = some row) :
    db.row key = some row ∨ row.findingJson = r.findingJson := by
  obtain ⟨r', hrefs, rfl, -, hjson⟩ := upsert_cases h
  by_cases heq : key = r'.cacheKey
  · simp only [write, if_pos heq, Option.some.injEq] at hrow
    exact .inr (hrow ▸ hjson)
  · simp only [write, if_neg heq] at hrow
    exact .inl hrow

theorem hasKey_of_deleteRef {db : Database} {id key : String}
    (h : (db.deleteRef id).HasKey key) : db.HasKey key :=
  Option.isSome_of_isSome_filter _ _ h

end Database

/-! ### The client -/

/-- `Finding.model_dump_json`, as the column `finding_json` holds it. -/
def dumpFinding (text : DateTime → String) (f : Finding) : Value DateTime :=
  .dict
    [("id", .str f.id),
      ("collector_name", .str f.collectorName),
      ("question", .str f.question),
      ("summary", .str f.summary),
      ("evidence_id", .str f.evidenceId),
      ("confidence", .float f.confidence),
      ("suggested_followups", .list (f.suggestedFollowups.map .str)),
      ("created_at", .str (text f.createdAt))]

/-- What is read of a finding that was written is that finding, whatever its time is
read as. -/
theorem eq_of_finding_dumpFinding {parse : String → Option DateTime} {text : DateTime → String}
    {f g : Finding} (h : finding parse (dumpFinding text f) = .valid g) :
    g = { f with createdAt := g.createdAt } := by
  have hlist : list str (.list (f.suggestedFollowups.map .str) : Value DateTime) =
      .valid f.suggestedFollowups := list_map str_str f.suggestedFollowups
  cases htime : parse (text f.createdAt) with
  | none =>
      simp +decide [finding, dumpFinding, model, required, defaulted, List.lookup_cons,
        datetimeJson, htime, hlist, fail, at_, ap] at h
  | some t =>
      simp +decide [finding, dumpFinding, model, required, defaulted, List.lookup_cons,
        datetimeJson, htime, hlist] at h
      rw [← h]

/-- What the cache uses of its surroundings. -/
structure CacheEnv where
  sha256 : Bytes → String
  text : DateTime → String
  parse : String → Option DateTime

/-- `_TTL`. -/
def ttl : Int := DateTime.minutes 5

namespace CollectorCache

variable (env : CacheEnv)

/-- `get`, at the time `now`. -/
def get (db : Database) (now : DateTime) (cacheKey : String) :
    Except String (Option Finding) :=
  match db.row cacheKey with
  | none => .ok none
  | some r =>
      if now.instant < r.expiresAt.instant then
        match finding env.parse r.findingJson with
        | .valid f => .ok (some f)
        | .invalid _ => .error "ValidationError"
      else .ok none

/-- `put`, at the time `now`. -/
def put (db : Database) (now : DateTime) (cacheKey incidentId collectorName question : String)
    (f : Finding) : Except String Database :=
  db.upsert
    { cacheKey := cacheKey
      incidentId := incidentId
      collector := collectorName
      question := question
      findingJson := dumpFinding env.text f
      evidenceId := f.evidenceId
      expiresAt := now.addMicros ttl }

/-- What is found is read of a row. -/
theorem row_of_get {db : Database} {now : DateTime} {cacheKey : String} {f : Finding}
    (h : get env db now cacheKey = .ok (some f)) :
    ∃ row, db.row cacheKey = some row ∧ finding env.parse row.findingJson = .valid f := by
  rw [get] at h
  split at h
  · cases h
  · next row hrow =>
      split at h
      · split at h
        next f' hvalid =>
            rw [Except.ok.injEq, Option.some.injEq] at h
            exact ⟨row, hrow, h ▸ hvalid⟩
        next => cases h
      · cases h

/-- A key that no row has is missed. -/
theorem get_of_not_hasKey {db : Database} {cacheKey : String} (h : ¬ db.HasKey cacheKey)
    (now : DateTime) : get env db now cacheKey = .ok none := by
  rw [Database.HasKey, Option.not_isSome_iff_eq_none] at h
  rw [get, h]

end CollectorCache

end AlphE.Dispatch
