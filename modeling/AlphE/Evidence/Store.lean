import AlphE.Schemas.Collector
import AlphE.Lib.Operations
import AlphE.Lib.PyText

/-!
The evidence store (`evidence/client.py`, `evidence/migrations/0001_initial.sql`):
payloads are objects of a bucket, and each has a row of metadata. `put_blob`
writes the object first; when the row is not written, it deletes the object as
best it can.

How each statement that leaves the process comes out is part of the call. An
insert that raises may have been committed, with only its acknowledgement lost.
The expiry of objects by the lifecycle rule of the bucket is not modelled.
-/

namespace AlphE.Evidence

/-- `EvidenceSettings`, as far as the calls read it. -/
structure EvidenceSettings where
  s3Bucket : String := "incidents"
  ttlDays : Int := 30

/-! ### What is stored -/

structure Blob where
  payload : List UInt8
  contentType : String
  deriving DecidableEq, Repr

/-- A row of `evidence_refs`. -/
structure EvidenceRow where
  evidenceId : String
  incidentId : String
  storageUri : String
  contentType : String
  sizeBytes : ℕ
  expiresAt : DateTime
  deriving DecidableEq, Repr

/-- The table `evidence_refs`, by its primary key. -/
structure EvidenceRefs where
  row : String → Option EvidenceRow
  primaryKey : ∀ id r, row id = some r → r.evidenceId = id

namespace EvidenceRefs

def empty : EvidenceRefs := ⟨fun _ => none, fun _ _ h => nomatch h⟩

/-- `INSERT … ON CONFLICT (evidence_id) DO NOTHING`. -/
def insert (t : EvidenceRefs) (r : EvidenceRow) : EvidenceRefs where
  row id := if id = r.evidenceId then some ((t.row id).getD r) else t.row id
  primaryKey := by
    intro id r' h
    by_cases hid : id = r.evidenceId
    · rw [if_pos hid, Option.some.injEq] at h
      cases hrow : t.row id with
      | none =>
          rw [hrow] at h
          rw [← h, hid]
          rfl
      | some r₀ =>
          rw [hrow] at h
          exact h ▸ t.primaryKey id r₀ hrow
    · rw [if_neg hid] at h
      exact t.primaryKey id r' h

/-- `DELETE FROM evidence_refs WHERE evidence_id = …`. -/
def delete (t : EvidenceRefs) (id : String) : EvidenceRefs where
  row id' := if id' = id then none else t.row id'
  primaryKey := by
    intro id' r h
    by_cases hid : id' = id
    · rw [if_pos hid] at h
      cases h
    · rw [if_neg hid] at h
      exact t.primaryKey id' r h

/-- The ids that have a row. -/
def Has (t : EvidenceRefs) (id : String) : Prop := (t.row id).isSome

instance (t : EvidenceRefs) (id : String) : Decidable (t.Has id) :=
  inferInstanceAs (Decidable ((t.row id).isSome = true))

/-- A row that is there is not written again. -/
theorem insert_of_has {t : EvidenceRefs} {r : EvidenceRow} (h : t.Has r.evidenceId) :
    t.insert r = t := by
  obtain ⟨row, primaryKey⟩ := t
  rw [insert, EvidenceRefs.mk.injEq]
  funext id
  by_cases hid : id = r.evidenceId
  · obtain ⟨old, hold⟩ := Option.isSome_iff_exists.mp h
    rw [if_pos hid, hid, hold]
    exact hold.symm
  · rw [if_neg hid]

@[simp] theorem not_has_empty (id : String) : ¬ empty.Has id := by
  simp [Has, empty]

@[simp] theorem has_insert_iff (t : EvidenceRefs) (r : EvidenceRow) (id : String) :
    (t.insert r).Has id ↔ id = r.evidenceId ∨ t.Has id := by
  rw [Has, insert]
  by_cases hid : id = r.evidenceId
  · simp [hid]
  · simp [hid, Has]

@[simp] theorem has_delete_iff (t : EvidenceRefs) (id id' : String) :
    (t.delete id).Has id' ↔ id' ≠ id ∧ t.Has id' := by
  rw [Has, delete]
  by_cases hid : id' = id
  · simp [hid]
  · simp [hid, Has]

end EvidenceRefs

/-- The bucket, the table and the client's flag `_schema_bootstrapped`. -/
structure Store where
  blobs : String → Option Blob
  refs : EvidenceRefs
  schemaBootstrapped : Bool

namespace Store

def empty : Store := ⟨fun _ => none, EvidenceRefs.empty, false⟩

/-- The object is in the bucket. -/
def HasBlob (s : Store) (id : String) : Prop := (s.blobs id).isSome

/-- Every row refers to an object that is there. -/
def NoDangling (s : Store) : Prop := ∀ id, s.refs.Has id → s.HasBlob id

theorem noDangling_empty : empty.NoDangling := by
  intro id h
  exact absurd h (EvidenceRefs.not_has_empty id)

def putObject (s : Store) (id : String) (b : Blob) : Store :=
  { s with blobs := Function.update s.blobs id (some b) }

def deleteObject (s : Store) (id : String) : Store :=
  { s with blobs := Function.update s.blobs id none }

def insertRow (s : Store) (r : EvidenceRow) : Store := { s with refs := s.refs.insert r }

section Statements

variable (s : Store) (id : String) (b : Blob) (r : EvidenceRow)

@[simp] theorem refs_deleteObject : (s.deleteObject id).refs = s.refs := rfl

@[simp] theorem refs_insertRow : (s.insertRow r).refs = s.refs.insert r := rfl

@[simp] theorem hasBlob_putObject (id' : String) :
    (s.putObject id b).HasBlob id' ↔ id' = id ∨ s.HasBlob id' := by
  by_cases h : id' = id
  · simp [HasBlob, putObject, h]
  · simp [HasBlob, putObject, h]

@[simp] theorem hasBlob_deleteObject (id' : String) :
    (s.deleteObject id).HasBlob id' ↔ id' ≠ id ∧ s.HasBlob id' := by
  by_cases h : id' = id
  · simp [HasBlob, deleteObject, h]
  · simp [HasBlob, deleteObject, h]

variable {s id b r}

theorem NoDangling.putObject (h : s.NoDangling) : (s.putObject id b).NoDangling := by
  intro id' hrow
  rw [hasBlob_putObject]
  exact .inr (h id' hrow)

theorem NoDangling.insertRow (h : s.NoDangling) (hblob : s.HasBlob r.evidenceId) :
    (s.insertRow r).NoDangling := by
  intro id' hrow
  rw [refs_insertRow, EvidenceRefs.has_insert_iff] at hrow
  obtain rfl | hrow := hrow
  · exact hblob
  · exact h id' hrow

/-- The object of an id may be deleted just when the id has no row. -/
theorem noDangling_deleteObject_iff (h : s.NoDangling) :
    (s.deleteObject id).NoDangling ↔ ¬ s.refs.Has id := by
  constructor
  · intro hdel hrow
    exact ((hasBlob_deleteObject s id id).mp (hdel id hrow)).1 rfl
  · intro hnot id' hrow
    rw [refs_deleteObject] at hrow
    rw [hasBlob_deleteObject]
    refine ⟨?_, h id' hrow⟩
    rintro rfl
    exact hnot hrow

end Statements

end Store

/-! ### How a statement comes out -/

/-- `put_object`. Errors of the transport and of the configuration are
`BotoCoreError`; every error status of the server is a `ClientError`. -/
inductive PutOutcome
  | ok
  | botoCoreError (exc : String)
  | clientError (exc : String)

/-- The insert of the metadata. -/
inductive InsertOutcome
  | committed
  | failed (exc : String)
  /-- Committed, but the acknowledgement was lost. -/
  | lost (exc : String)
  deriving DecidableEq

inductive DeleteOutcome
  | ok
  | failed
  deriving DecidableEq

/-- `EvidenceError`, and what else a call lets through. -/
inductive EvidenceError
  | storage (message : String)
  | metadata (message : String)
  | other (exc : String)

/-- The outcomes that meet one call. -/
structure Outcomes where
  /-- The migration, where the client has not run it: what it raises. -/
  schema : Option String := none
  put : PutOutcome := .ok
  insert : InsertOutcome := .committed
  delete : DeleteOutcome := .ok

/-- What the client reads from its surroundings. -/
structure ClientEnv where
  settings : EvidenceSettings
  isprintable : Char → Bool

/-! ### The client -/

section Client

variable (env : ClientEnv)

/-- `make_ref`. -/
def makeRef (now : DateTime) (evidenceId contentType : String) (sizeBytes : ℕ) :
    EvidenceRef :=
  { evidenceId := evidenceId
    storageUri := "s3://" ++ env.settings.s3Bucket ++ "/" ++ evidenceId
    contentType := contentType
    sizeBytes := sizeBytes
    expiresAt := now.addMicros (DateTime.minutes (env.settings.ttlDays * 1440)) }

/-- `_ensure_schema`. -/
def ensureSchema (s : Store) (outcome : Option String) : Except String Store :=
  if s.schemaBootstrapped then .ok s
  else
    match outcome with
    | some exc => .error exc
    | none => .ok { s with schemaBootstrapped := true }

def evidenceRow (ref : EvidenceRef) (incidentId : String) : EvidenceRow :=
  { evidenceId := ref.evidenceId
    incidentId := incidentId
    storageUri := ref.storageUri
    contentType := ref.contentType
    sizeBytes := ref.sizeBytes
    expiresAt := ref.expiresAt }

/-- `_insert_metadata`: the store it leaves, and what it raises. -/
def insertMetadata (s : Store) (ref : EvidenceRef) (incidentId : String)
    (outcome : InsertOutcome) : Store × Option String :=
  match outcome with
  | .committed => (s.insertRow (evidenceRow ref incidentId), none)
  | .failed exc => (s, some exc)
  | .lost exc => (s.insertRow (evidenceRow ref incidentId), some exc)

structure PutBlob where
  evidenceId : String
  payload : List UInt8
  contentType : String
  incidentId : String := ""

/-- `put_blob`. -/
def putBlob (s : Store) (now : DateTime) (args : PutBlob) (o : Outcomes) :
    Store × Except EvidenceError EvidenceRef :=
  let quotedId := PyText.reprStr env.isprintable args.evidenceId
  match ensureSchema s o.schema with
  | .error exc => (s, .error (.other exc))
  | .ok s =>
      let ref := makeRef env now args.evidenceId args.contentType args.payload.length
      match o.put with
      | .botoCoreError exc =>
          (s, .error (.storage ("MinIO PUT failed for " ++ quotedId ++ ": " ++ exc)))
      | .clientError exc => (s, .error (.other exc))
      | .ok =>
          let s := s.putObject args.evidenceId
            { payload := args.payload, contentType := args.contentType }
          match insertMetadata s ref args.incidentId o.insert with
          | (s, none) => (s, .ok ref)
          | (s, some exc) =>
              let s := match o.delete with
                | .ok => s.deleteObject args.evidenceId
                | .failed => s
              (s, .error (.metadata
                ("metadata insert failed for " ++ quotedId ++ ": " ++ exc)))

/-- What `get_object` raises, or reading its body. The class `NoSuchKey` of the client is
a `ClientError`; of the others the response names a code. -/
inductive GetFailure
  | noSuchKey (exc : String)
  | clientError (code : Option String) (exc : String)
  | botoCoreError (exc : String)
  deriving DecidableEq

/-- `get_object` with its body read, when nothing fails or as it fails. -/
def getObject (s : Store) (evidenceId : String) (failure : Option GetFailure) :
    Except GetFailure (List UInt8) :=
  match failure, s.blobs evidenceId with
  | some exc, _ => .error exc
  | none, some b => .ok b.payload
  | none, none => .error (.noSuchKey "The specified key does not exist.")

/-- What `get_blob` raises. -/
inductive ReadError
  | notFound (evidenceId : String)
  | storage (message : String)
  deriving DecidableEq

/-- `get_blob`. -/
def getBlob (s : Store) (evidenceId : String) (failure : Option GetFailure) :
    Except ReadError (List UInt8) :=
  let failed (exc : String) : ReadError :=
    .storage ("MinIO GET failed for " ++ PyText.reprStr env.isprintable evidenceId ++ ": " ++ exc)
  match getObject s evidenceId failure with
  | .ok payload => .ok payload
  | .error (.noSuchKey _) => .error (.notFound evidenceId)
  | .error (.clientError code exc) =>
      if code.getD "" ∈ ["NoSuchKey", "404"] then .error (.notFound evidenceId)
      else .error (failed exc)
  | .error (.botoCoreError exc) => .error (failed exc)

structure RecordMetadata where
  ref : EvidenceRef
  incidentId : String := ""

/-- `record_metadata`, for a blob written by someone else. -/
def recordMetadata (s : Store) (args : RecordMetadata) (o : Outcomes) :
    Store × Except EvidenceError Unit :=
  match ensureSchema s o.schema with
  | .error exc => (s, .error (.other exc))
  | .ok s =>
      match insertMetadata s args.ref args.incidentId o.insert with
      | (s, none) => (s, .ok ())
      | (s, some exc) => (s, .error (.other exc))

end Client

end AlphE.Evidence
