import AlphE.Collectors.Payloads
import AlphE.Dispatch.Exchange
import AlphE.Evidence.Concurrent
import AlphE.Evidence.Metadata
import AlphE.Lib.GoUnquote

/-!
One bucket, two services. The collectors write their evidence themselves and only hand a
reference on; the orchestrator's client reads the bucket of its own settings, and its table
is told of what others wrote by `record_metadata`. Whether the evidence of an answer can be
read is up to the writer of the collector and to the two settings.
-/

namespace AlphE.Evidence

open Go Collectors Dispatch Operations

/-! ### What a collector stores -/

/-- The object of a request. -/
def blobOf (req : PutRequest) : Blob :=
  { payload := bytes req.payload, contentType := req.contentType }

/-- What `Put` leaves in the bucket `bucket`. The stand-in leaves nothing. -/
def storePut (w : Writer) (put : PutEnv) (req : PutRequest) (bucket : String) (s : Store) :
    Store :=
  match w with
  | .null _ => s
  | .minio w =>
      if req.error = none ∧ put.putObject = none ∧ w.bucket = bucket then
        s.putObject (newEvidenceId put.uuid) (blobOf req)
      else s

/-- Objects go into this bucket. -/
def StoresIn (w : Writer) (bucket : String) : Prop :=
  ∃ minio, w = .minio minio ∧ minio.bucket = bucket

instance (w : Writer) (bucket : String) : Decidable (StoresIn w bucket) :=
  match w with
  | .null _ => isFalse fun ⟨_, h, _⟩ => nomatch h
  | .minio w =>
      if h : w.bucket = bucket then isTrue ⟨w, rfl, h⟩
      else isFalse fun ⟨_, hw, hbucket⟩ => h (Writer.minio.inj hw ▸ hbucket)

section Put

variable {w : Writer} {put : PutEnv} {req : PutRequest} {bucket : String} {s : Store}

@[simp] theorem refs_storePut : (storePut w put req bucket s).refs = s.refs := by
  unfold storePut
  split
  · rfl
  · split <;> rfl

theorem blobs_storePut_of_ne {id : String} (h : newEvidenceId put.uuid ≠ id) :
    (storePut w put req bucket s).blobs id = s.blobs id := by
  unfold storePut
  split
  · rfl
  · split
    · exact blobs_putObject_of_ne _ h.symm
    · rfl

/-- What is filed under the id of a request that was answered, where nothing was. -/
theorem blobs_storePut (hreq : req.error = none) (hstored : ¬ w.Refuses put)
    (hfresh : s.blobs (newEvidenceId put.uuid) = none) :
    (storePut w put req bucket s).blobs (newEvidenceId put.uuid) =
      if StoresIn w bucket then some (blobOf req) else none := by
  cases w with
  | null w => rw [if_neg (by rintro ⟨_, ⟨⟩, _⟩), storePut, hfresh]
  | minio w =>
      have hobject : put.putObject = none := by simpa [Writer.Refuses] using hstored
      rw [storePut]
      by_cases hbucket : w.bucket = bucket
      · rw [if_pos ⟨hreq, hobject, hbucket⟩, if_pos ⟨w, rfl, hbucket⟩, blobs_putObject_self]
      · rw [if_neg fun h => hbucket h.2.2, hfresh, if_neg]
        rintro ⟨_, ⟨⟩, h⟩
        exact hbucket h

end Put

/-! ### What comes later -/

/-- The bucket and the table are used by the collectors and by the client. -/
inductive SharedCall
  | collected (w : Writer) (put : PutEnv) (req : PutRequest)
  | called (call : Call)

def sharedStep (env : ClientEnv) (s : Store) : SharedCall → Store
  | .collected w put req => storePut w put req env.settings.s3Bucket s
  | .called call => step env s call

/-- The call is about another id, or records this reference. -/
def SharedCall.Spares (ref : EvidenceRef) : SharedCall → Prop
  | .collected _ put _ => newEvidenceId put.uuid ≠ ref.evidenceId
  | .called (.putBlob _ args _) => args.evidenceId ≠ ref.evidenceId
  | .called (.recordMetadata args _) =>
      args.ref.evidenceId = ref.evidenceId → args.ref = ref

/-- Under the id of a reference is this object, and what the table has of it is the
reference. -/
structure Filed (ref : EvidenceRef) (blob : Option Blob) (s : Store) : Prop where
  blob_eq : s.blobs ref.evidenceId = blob
  row : ∀ row, s.refs.row ref.evidenceId = some row → ∃ incidentId, row = evidenceRow ref incidentId

section Later

variable {env : ClientEnv} {ref : EvidenceRef} {blob : Option Blob} {s : Store}

/-- A call of `put_blob` touches what is filed under its id only. -/
theorem putBlob_frame (now : DateTime) (args : PutBlob) (o : Outcomes) {id : String}
    (h : id ≠ args.evidenceId) :
    (putBlob env s now args o).1.blobs id = s.blobs id ∧
      (putBlob env s now args o).1.refs.row id = s.refs.row id := by
  have hsteps : ∀ (statements : List Statement) (q : Progress × Store),
      (statements.foldl (fun q a => advance env ⟨now, args⟩ q.1 q.2 a) q).2.blobs id =
          q.2.blobs id ∧
        (statements.foldl (fun q a => advance env ⟨now, args⟩ q.1 q.2 a) q).2.refs.row id =
          q.2.refs.row id := by
    intro statements
    induction statements with
    | nil => exact fun _ => ⟨rfl, rfl⟩
    | cons a statements ih =>
        intro q
        obtain ⟨hblobs, hrow⟩ := ih (advance env ⟨now, args⟩ q.1 q.2 a)
        obtain ⟨hblobs', hrow'⟩ := advance_frame (p := ⟨now, args⟩) env q.2 q.1 a h
        exact ⟨hblobs.trans hblobs', hrow.trans hrow'⟩
  have hrun := hsteps o.statements (.called, s)
  rwa [foldl_advance env ⟨now, args⟩ s o] at hrun

/-- What `record_metadata` leaves: the bucket as it was, and in the table no more than a row
of its reference. -/
theorem recordMetadata_cases (args : RecordMetadata) (o : Outcomes) :
    (recordMetadata s args o).1.blobs = s.blobs ∧
      ((recordMetadata s args o).1.refs = s.refs ∨
        (recordMetadata s args o).1.refs =
          s.refs.insert (evidenceRow args.ref args.incidentId)) := by
  obtain ⟨-, hok⟩ | ⟨-, exc, herror⟩ := ensureSchema_cases s o.schema
  · rw [recordMetadata_of_schema hok]
    cases o.insert with
    | committed => exact ⟨rfl, .inr rfl⟩
    | failed exc => exact ⟨rfl, .inl rfl⟩
    | lost exc => exact ⟨rfl, .inr rfl⟩
  · simp only [recordMetadata, herror]
    exact ⟨trivial, .inl trivial⟩

theorem filed_sharedStep (h : Filed ref blob s) {call : SharedCall} (hspares : call.Spares ref) :
    Filed ref blob (sharedStep env s call) := by
  cases call with
  | collected w put req =>
      refine ⟨?_, ?_⟩
      · rw [sharedStep, blobs_storePut_of_ne hspares]
        exact h.blob_eq
      · rw [sharedStep, refs_storePut]
        exact h.row
  | called call =>
      cases call with
      | putBlob now args o =>
          obtain ⟨hblobs, hrow⟩ := putBlob_frame now args o hspares.symm
          refine ⟨hblobs.trans h.blob_eq, ?_⟩
          intro row hsome
          exact h.row row (hrow.symm.trans hsome)
      | recordMetadata args o =>
          obtain ⟨hblobs, hrefs⟩ := recordMetadata_cases (s := s) args o
          refine ⟨(congrFun hblobs _).trans h.blob_eq, ?_⟩
          intro row hsome
          obtain hsame | hinsert := hrefs
          · apply h.row row
            rw [← hsame]
            exact hsome
          · have hsome : (recordMetadata s args o).1.refs.row ref.evidenceId = some row := hsome
            rw [hinsert, EvidenceRefs.row_insert, Option.or_eq_some_iff] at hsome
            obtain hold | ⟨-, hnew⟩ := hsome
            · exact h.row row hold
            · obtain ⟨hid, rfl⟩ : args.ref.evidenceId = ref.evidenceId ∧
                  evidenceRow args.ref args.incidentId = row := by
                rwa [Option.ite_none_right_eq_some, Option.some.injEq] at hnew
              rw [hspares hid]
              exact ⟨args.incidentId, rfl⟩

theorem filed_run (h : Filed ref blob s) {later : List SharedCall}
    (hlater : ∀ call ∈ later, call.Spares ref) :
    Filed ref blob (later.foldl (sharedStep env) s) := by
  induction later generalizing s with
  | nil => exact h
  | cons call later ih =>
      rw [List.forall_mem_cons] at hlater
      exact ih (filed_sharedStep h hlater.1) hlater.2

end Later

/-! ### The evidence of an answer -/

theorem byteLen_eq_length (bs : GoString) : byteLen bs = (bytes bs).length := by
  induction bs with
  | nil => rfl
  | cons p bs ih =>
      have hpiece : byteLen [p] = p.bytes.length := by
        cases p with
        | rune c => exact (String.length_utf8EncodeChar c).symm
        | stray b => rfl
      show byteLen [p] + byteLen bs = (p.bytes ++ bytes bs).length
      exact (congrArg₂ (· + ·) hpiece ih).trans List.length_append.symm

/-- An answer refers to what its collector passed to the writer. -/
theorem evidence_answer (c : Collector) (cenv : CollectEnv) (inp : Collectors.CollectorInput) :
    (c.answer cenv inp).evidence = cenv.ref (c.putRequest cenv.put.fmt inp) ∧
      (c.answer cenv inp).finding.evidenceId = newEvidenceId cenv.put.uuid := by
  cases c <;> exact ⟨rfl, rfl⟩

theorem error_putRequest {inp : Collectors.CollectorInput} (hvalid : inp.validate = none)
    (c : Collector) (fmt : Fmt) : (c.putRequest fmt inp).error = none := by
  have hid := ((CollectorInput.validate_eq_none_iff inp).mp hvalid).incidentId
  have hjson : "application/json" ≠ "" := by decide
  have hndjson : "application/x-ndjson" ≠ "" := by decide
  cases c with
  | loki unmarshal client =>
      exact (if_neg hid).trans (if_neg hndjson)
  | _ => exact (if_neg hid).trans (if_neg hjson)

/-- **The evidence of an answer can be read.** The orchestrator asked, and was answered. It
reads under the id of the finding what the collector stored, exactly when the collector has
an object store and the two settings name one bucket; else there is nothing under the id.
What was recorded of the evidence says its size, its type and where it went. Whatever
happens under other ids in the meantime. -/
theorem answered_evidence {dump : DateTime → String} (hdump : IsoText dump)
    (input : AlphE.CollectorInput) (hstart : PayloadTime input.timeRange.start)
    (hstop : PayloadTime input.timeRange.stop) (http : HttpEnv) (collectorName : String)
    (c : Collector) (cenv : CollectEnv) (err : GoString) {out : AlphE.CollectorOutput}
    (hanswered : exchange http dump collectorName c cenv err input = .inl out)
    (env : ClientEnv) {s : Store} (hblob : s.blobs (newEvidenceId cenv.put.uuid) = none)
    (hrow : s.refs.row (newEvidenceId cenv.put.uuid) = none) (later : List SharedCall)
    (hlater : ∀ call ∈ later, call.Spares out.evidence) :
    let req := c.putRequest cenv.put.fmt (received input)
    let t := later.foldl (sharedStep env)
      (sharedStep env s (.collected cenv.writer cenv.put req))
    getBlob env t out.finding.evidenceId none =
      (if StoresIn cenv.writer env.settings.s3Bucket then .ok (bytes req.payload)
      else .error (.notFound out.finding.evidenceId)) ∧
    ∀ row, t.refs.row out.finding.evidenceId = some row →
      row.contentType = req.contentType ∧
      row.sizeBytes = (bytes req.payload).length ∧
      row.storageUri =
        "s3://" ++ cenv.writer.bucket ++ "/" ++ out.finding.evidenceId := by
  obtain ⟨haccept, hstored, hvalid⟩ :=
    (exchange_eq_inl_iff hdump hstart hstop http collectorName c cenv err out).mp hanswered
  intro req t
  obtain ⟨hevidence, hfinding⟩ := evidence_answer c cenv (received input)
  -- The reference that came back, field by field.
  have href := sameReference_of_valid hvalid
  have hid : out.evidence.evidenceId = newEvidenceId cenv.put.uuid := by
    rw [href.evidenceId, hevidence]
    rfl
  have hfindingId : out.finding.evidenceId = out.evidence.evidenceId := by
    rw [href.findingId, hfinding, hid]
  have hsize : out.evidence.sizeBytes = (bytes req.payload).length := by
    have hcast := href.sizeBytes
    rw [hevidence] at hcast
    rw [← byteLen_eq_length]
    exact Int.ofNat.inj hcast
  have hfiled : Filed out.evidence
      (if StoresIn cenv.writer env.settings.s3Bucket then some (blobOf req) else none)
      (sharedStep env s (.collected cenv.writer cenv.put req)) := by
    refine ⟨?_, ?_⟩
    · rw [hid]
      exact blobs_storePut (error_putRequest (validate_received haccept) c _) hstored hblob
    · intro row hsome
      rw [sharedStep, refs_storePut, hid, hrow] at hsome
      cases hsome
  have hend : Filed out.evidence _ t := filed_run hfiled hlater
  rw [hfindingId]
  refine ⟨?_, ?_⟩
  · by_cases hstores : StoresIn cenv.writer env.settings.s3Bucket
    · simp only [getBlob, getObject, hend.blob_eq, if_pos hstores]
      rfl
    · simp only [getBlob, getObject, hend.blob_eq, if_neg hstores]
  · intro row hsome
    obtain ⟨incidentId, rfl⟩ := hend.row row hsome
    refine ⟨?_, hsize, ?_⟩
    · show out.evidence.contentType = _
      rw [href.contentType, hevidence]
      rfl
    · show out.evidence.storageUri = _
      rw [href.storageUri, hevidence, hid]
      rfl

/-! ### A collector with an object store -/

def testMinioEnv : CollectEnv := { testCollectEnv with writer := .minio { bucket := "incidents" } }

/-- What the collector put into the bucket. -/
def testStored : SharedCall :=
  .collected testMinioEnv.writer testMinioEnv.put
    ((Collector.kube testClientset).putRequest testMinioEnv.put.fmt (received testPayload))

/-- The list of pods is read back. -/
theorem answered_evidence_testMinioEnv :
    ∃ out, exchange testHttp testDump "kube" (.kube testClientset) testMinioEnv [] testPayload =
        .inl out ∧
      getBlob testEnv (sharedStep testEnv Store.empty testStored) out.finding.evidenceId none =
        .ok (bytes ((Collector.kube testClientset).putRequest testMinioEnv.put.fmt
          (received testPayload)).payload) := by
  have hcommon : testMinioEnv.Common := ⟨common_testCollectEnv.now, common_testCollectEnv.expiry⟩
  have hstored : ¬ testMinioEnv.writer.Refuses testMinioEnv.put := fun h => h rfl
  have hstart : PayloadTime testPayload.timeRange.start := payloadTime_utc ⟨by decide, by decide⟩
  have hstop : PayloadTime testPayload.timeRange.stop := payloadTime_utc ⟨by decide, by decide⟩
  obtain ⟨answer, hvalid, -⟩ := (accepted_answer_iff hcommon readsRfc3339_readRfc3339
    (.kube testClientset) (received testPayload)).mpr agrees_testPayload
  have hanswered : exchange testHttp testDump "kube" (.kube testClientset) testMinioEnv []
      testPayload = .inl answer :=
    (exchange_eq_inl_iff isoText_testDump hstart hstop testHttp "kube" _ _ [] answer).mpr
      ⟨acceptable_testPayload, hstored, hvalid⟩
  have hblobs : Store.empty.blobs (newEvidenceId testMinioEnv.put.uuid) = none := rfl
  have hrow : Store.empty.refs.row (newEvidenceId testMinioEnv.put.uuid) = none := rfl
  obtain ⟨hblob, -⟩ := answered_evidence isoText_testDump testPayload hstart hstop testHttp "kube"
    (.kube testClientset) testMinioEnv [] hanswered testEnv hblobs hrow [] (by simp)
  have hsame : StoresIn testMinioEnv.writer testEnv.settings.s3Bucket := ⟨_, rfl, rfl⟩
  rw [if_pos hsame] at hblob
  exact ⟨answer, hanswered, hblob⟩

end AlphE.Evidence
