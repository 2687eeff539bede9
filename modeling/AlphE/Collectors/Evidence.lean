import AlphE.Collectors.Contract
import AlphE.Lib.PyText

/-!
The evidence writers (`collectors/internal/evidence`): they persist a blob, or
in the local stand-in only pretend to, and return the reference to it. The
random identifier, the clock and the object store's answer come from outside.
-/

namespace AlphE.Collectors

open Go

structure PutRequest where
  incidentId : String
  contentType : String
  payload : GoString

inductive PutObjectError
  | noSuchBucket
  | other (text : GoString)

/-- What one call of `Put` meets. -/
structure PutEnv where
  uuid : String
  now : Time
  putObject : Option PutObjectError := none
  fmt : Fmt

/-- `DefaultTTL`: thirty days, in nanoseconds. -/
def defaultTtl : Int := 30 * 24 * 3600 * Rfc3339.nanosPerSecond

def newEvidenceId (uuid : String) : String := "ev_" ++ PyText.takeChars 12 uuid

theorem newEvidenceId_ne_empty (uuid : String) : newEvidenceId uuid ≠ "" := by
  intro h
  have hchars := congrArg String.toList h
  rw [newEvidenceId, String.toList_append] at hchars
  exact absurd (List.append_eq_nil_iff.mp hchars).1 (by decide)

/-- A `Writer` that only pretends to store. -/
structure NullWriter where
  bucket : String
  ttl : Int := 0

structure MinioWriter where
  bucket : String

/-- The two kinds of `Writer`. -/
inductive Writer
  | null (w : NullWriter)
  | minio (w : MinioWriter)

/-- The check both writers begin with. -/
def PutRequest.error (req : PutRequest) : Option String :=
  if req.incidentId = "" then some "incident_id is required"
  else if req.contentType = "" then some "content_type is required"
  else none

/-- The reference to a blob in `bucket`. -/
def blobRef (env : PutEnv) (bucket : String) (ttl : Int) (req : PutRequest) :
    EvidenceRef :=
  { evidenceId := newEvidenceId env.uuid
    storageUri := "s3://" ++ bucket ++ "/" ++ newEvidenceId env.uuid
    contentType := req.contentType
    sizeBytes := byteLen req.payload
    expiresAt := env.now.utc.add ttl }

def NullWriter.put (w : NullWriter) (env : PutEnv) (req : PutRequest) :
    Except GoString EvidenceRef :=
  match req.error with
  | some text => .error (utf8 text)
  | none =>
      .ok (blobRef env (if w.bucket = "" then "incidents" else w.bucket)
        (if w.ttl = 0 then defaultTtl else w.ttl) req)

def MinioWriter.put (w : MinioWriter) (env : PutEnv) (req : PutRequest) :
    Except GoString EvidenceRef :=
  match req.error with
  | some text => .error (utf8 text)
  | none =>
      match env.putObject with
      | some .noSuchBucket =>
          .error (utf8 ("evidence bucket " ++ quote env.fmt.isPrint (utf8 w.bucket) ++
            " does not exist; create it via the Helm chart"))
      | some (.other text) => .error (utf8 "s3 PutObject: " ++ text)
      | none => .ok (blobRef env w.bucket defaultTtl req)

namespace Writer

def put : Writer → PutEnv → PutRequest → Except GoString EvidenceRef
  | .null w => w.put
  | .minio w => w.put

/-- Where blobs go, and for how long. -/
def bucket : Writer → String
  | .null w => if w.bucket = "" then "incidents" else w.bucket
  | .minio w => w.bucket

def ttl : Writer → Int
  | .null w => if w.ttl = 0 then defaultTtl else w.ttl
  | .minio _ => defaultTtl

/-- Only the object store refuses a request that says what it is about. -/
def Refuses : Writer → PutEnv → Prop
  | .null _, _ => False
  | .minio _, env => env.putObject ≠ none

/-- A request that is not refused is answered with the reference to its blob. -/
theorem put_eq_ok {w : Writer} {env : PutEnv} {req : PutRequest}
    (hreq : req.error = none) (hput : ¬ w.Refuses env) :
    w.put env req = .ok (blobRef env w.bucket w.ttl req) := by
  cases w with
  | null w => rw [put, NullWriter.put, hreq, bucket, ttl]
  | minio w =>
      have hnone : env.putObject = none := by simpa [Refuses] using hput
      rw [put, MinioWriter.put, hreq, bucket, ttl]
      simp only [hnone]

theorem put_ne_ok {w : Writer} {env : PutEnv} (hput : w.Refuses env) (req : PutRequest)
    (ref : EvidenceRef) : w.put env req ≠ .ok ref := by
  cases w with
  | null w => exact False.elim hput
  | minio w =>
      obtain ⟨err, hobject⟩ := Option.ne_none_iff_exists'.mp hput
      rw [put, MinioWriter.put, hobject]
      cases req.error with
      | some text => simp
      | none => cases err <;> simp

end Writer

/-- What one request meets: the writer and its surroundings, and the clock when
the finding is made. -/
structure CollectEnv where
  writer : Writer
  put : PutEnv
  now : Time

/-- Every collector stores its evidence first and answers with the reference. -/
def withEvidence (env : CollectEnv) (req : PutRequest)
    (answer : EvidenceRef → CollectorOutput) : Except GoString CollectorOutput :=
  match env.writer.put env.put req with
  | .error err => .error (utf8 "put evidence: " ++ err)
  | .ok ref => .ok (answer ref)

/-- The reference to the blob of a request that is not refused. -/
def CollectEnv.ref (env : CollectEnv) (req : PutRequest) : EvidenceRef :=
  blobRef env.put env.writer.bucket env.writer.ttl req

theorem withEvidence_eq_ok_iff {env : CollectEnv} {req : PutRequest}
    (hreq : req.error = none) (answer : EvidenceRef → CollectorOutput)
    (out : CollectorOutput) :
    withEvidence env req answer = .ok out ↔
      ¬ env.writer.Refuses env.put ∧ out = answer (env.ref req) := by
  by_cases hrefuses : env.writer.Refuses env.put
  · rw [withEvidence]
    cases hput : env.writer.put env.put req with
    | error err => simp [hrefuses]
    | ok ref => exact absurd hput (Writer.put_ne_ok hrefuses req ref)
  · rw [withEvidence, Writer.put_eq_ok hreq hrefuses]
    simp only [Except.ok.injEq, hrefuses, not_false_eq_true, true_and]
    exact eq_comm

end AlphE.Collectors
