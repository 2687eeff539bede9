import AlphE.Evidence.Store

/-!
Whether the evidence store holds a dangling reference. The rollback of
`put_blob` takes the object of its id away without asking whether the id has a
row: one that an earlier call wrote, or the one its own insert committed before
the acknowledgement was lost.
-/

namespace AlphE.Evidence

open Operations

inductive Call
  | putBlob (now : DateTime) (args : PutBlob) (outcomes : Outcomes)
  | recordMetadata (args : RecordMetadata) (outcomes : Outcomes)

/-- The store after a call, whatever the call returned or raised. -/
def step (env : ClientEnv) (s : Store) : Call → Store
  | .putBlob now args o => (putBlob env s now args o).1
  | .recordMetadata args o => (recordMetadata s args o).1

/-- `record_metadata` is for blobs that are there. -/
def Call.Allowed (s : Store) : Call → Prop
  | .putBlob _ _ _ => True
  | .recordMetadata args _ => s.HasBlob args.ref.evidenceId

/-- The call reaches the rollback, and the object is deleted. -/
structure RollsBack (s : Store) (o : Outcomes) : Prop where
  schema : s.schemaBootstrapped ∨ o.schema = none
  put : o.put = .ok
  insert : o.insert ≠ .committed
  delete : o.delete = .ok

/-- The rollback takes away the object of an id that has a row. -/
def Call.Strands (s : Store) : Call → Prop
  | .putBlob _ args o =>
      RollsBack s o ∧ (s.refs.Has args.evidenceId ∨ ∃ exc, o.insert = .lost exc)
  | .recordMetadata _ _ => False

section Steps

variable {env : ClientEnv} {s : Store}

/-- The client's flag is all that running the migration changes. -/
theorem ensureSchema_cases (s : Store) (outcome : Option String) :
    (s.schemaBootstrapped ∨ outcome = none) ∧
        ensureSchema s outcome = .ok { s with schemaBootstrapped := true } ∨
      ¬ (s.schemaBootstrapped ∨ outcome = none) ∧
        ∃ exc, ensureSchema s outcome = .error exc := by
  obtain ⟨blobs, refs, bootstrapped⟩ := s
  cases bootstrapped with
  | true => exact .inl ⟨.inl rfl, rfl⟩
  | false =>
      cases outcome with
      | none => exact .inl ⟨.inr rfl, rfl⟩
      | some exc => exact .inr ⟨by simp, exc, rfl⟩

/-- Writing the metadata of a blob that is there dangles nothing, however it
comes out. -/
theorem noDangling_insertMetadata (h : s.NoDangling) {ref : EvidenceRef}
    (hblob : s.HasBlob ref.evidenceId) (incidentId : String) (outcome : InsertOutcome) :
    (insertMetadata s ref incidentId outcome).1.NoDangling := by
  cases outcome with
  | committed => exact h.insertRow hblob
  | failed exc => exact h
  | lost exc => exact h.insertRow hblob

/-- After an insert that raises the id has a row when it had one, or when the
insert was committed. -/
theorem has_insertMetadata_iff (ref : EvidenceRef) (incidentId : String)
    {outcome : InsertOutcome} (hraises : outcome ≠ .committed) :
    (insertMetadata s ref incidentId outcome).1.refs.Has ref.evidenceId ↔
      s.refs.Has ref.evidenceId ∨ ∃ exc, outcome = .lost exc := by
  cases outcome with
  | committed => exact absurd rfl hraises
  | failed exc => simp [insertMetadata]
  | lost exc => simp [insertMetadata, evidenceRow]

theorem recordMetadata_of_schema {s' : Store} {args : RecordMetadata} {o : Outcomes}
    (hok : ensureSchema s o.schema = .ok s') :
    (recordMetadata s args o).1 = (insertMetadata s' args.ref args.incidentId o.insert).1 := by
  simp only [recordMetadata, hok]
  cases o.insert <;> rfl

theorem noDangling_recordMetadata (h : s.NoDangling) {args : RecordMetadata}
    (hblob : s.HasBlob args.ref.evidenceId) (o : Outcomes) :
    (recordMetadata s args o).1.NoDangling := by
  obtain ⟨-, hok⟩ | ⟨-, exc, herror⟩ := ensureSchema_cases s o.schema
  · rw [recordMetadata_of_schema hok]
    apply noDangling_insertMetadata
    · exact h
    · exact hblob
  · simp only [recordMetadata, herror]
    exact h

/-- The store between the insert of `put_blob` and its rollback. -/
def inserted (env : ClientEnv) (s : Store) (now : DateTime) (args : PutBlob)
    (outcome : InsertOutcome) : Store :=
  (insertMetadata
    (s.putObject args.evidenceId { payload := args.payload, contentType := args.contentType })
    (makeRef env now args.evidenceId args.contentType args.payload.length) args.incidentId
    outcome).1

theorem noDangling_inserted (env : ClientEnv) (h : s.NoDangling) (now : DateTime) (args : PutBlob)
    (outcome : InsertOutcome) : (inserted env s now args outcome).NoDangling := by
  apply noDangling_insertMetadata
  · exact h.putObject
  · rw [Store.hasBlob_putObject]
    exact .inl rfl

theorem has_inserted_iff (now : DateTime) (args : PutBlob) {outcome : InsertOutcome}
    (hraises : outcome ≠ .committed) :
    (inserted env s now args outcome).refs.Has args.evidenceId ↔
      s.refs.Has args.evidenceId ∨ ∃ exc, outcome = .lost exc :=
  has_insertMetadata_iff (makeRef env now args.evidenceId args.contentType args.payload.length)
    args.incidentId hraises

/-- What `put_blob` leaves when its object was written. -/
theorem putBlob_of_put {s' : Store} {o : Outcomes} (hok : ensureSchema s o.schema = .ok s')
    (hput : o.put = .ok) (now : DateTime) (args : PutBlob) :
    (putBlob env s now args o).1 =
      if o.insert = .committed ∨ o.delete = .failed then inserted env s' now args o.insert
      else (inserted env s' now args o.insert).deleteObject args.evidenceId := by
  simp only [putBlob, hok, hput, inserted]
  cases o.insert <;> cases o.delete <;> rfl

/-- `put_blob` leaves a dangling reference just when its rollback does. -/
theorem noDangling_putBlob_iff (h : s.NoDangling) (now : DateTime) (args : PutBlob)
    (o : Outcomes) :
    (putBlob env s now args o).1.NoDangling ↔ ¬ (Call.putBlob now args o).Strands s := by
  obtain ⟨hschema, hok⟩ | ⟨hschema, exc, herror⟩ := ensureSchema_cases s o.schema
  · by_cases hput : o.put = .ok
    · have hready : Store.NoDangling { s with schemaBootstrapped := true } := h
      have hstored := noDangling_inserted env hready now args o.insert
      rw [putBlob_of_put hok hput]
      by_cases hkept : o.insert = .committed ∨ o.delete = .failed
      · rw [if_pos hkept]
        refine iff_of_true hstored ?_
        rintro ⟨hrolls, -⟩
        obtain hinsert | hdelete := hkept
        · exact hrolls.insert hinsert
        · exact absurd (hrolls.delete.symm.trans hdelete) (by simp)
      · rw [if_neg hkept, Store.noDangling_deleteObject_iff hstored]
        obtain ⟨hinsert, hdelete⟩ := not_or.mp hkept
        rw [has_inserted_iff now args hinsert]
        apply not_congr
        constructor
        · intro hrow
          refine ⟨⟨hschema, hput, hinsert, ?_⟩, hrow⟩
          cases hcase : o.delete with
          | ok => rfl
          | failed => exact absurd hcase hdelete
        · intro hstrands
          exact hstrands.2
    · refine iff_of_true ?_ fun hstrands => hput hstrands.1.put
      simp only [putBlob, hok]
      cases hcase : o.put with
      | ok => exact absurd hcase hput
      | botoCoreError exc => exact h
      | clientError exc => exact h
  · refine iff_of_true ?_ fun hstrands => hschema hstrands.1.schema
    simp only [putBlob, herror]
    exact h

theorem noDangling_step_iff (call : Call) (h : s.NoDangling) (hallowed : call.Allowed s) :
    (step env s call).NoDangling ↔ ¬ call.Strands s := by
  cases call with
  | putBlob now args o => exact noDangling_putBlob_iff h now args o
  | recordMetadata args o =>
      exact iff_of_true (noDangling_recordMetadata h hallowed o) fun hstrands => hstrands

end Steps

/-! ### Whole histories -/

/-- **When no reference dangles.** After every call of a history no row is
without its object exactly when no rollback of the history deletes the object of
an id that has a row. -/
theorem noDangling_states_iff (env : ClientEnv) {s : Store} {calls : List Call}
    (h : s.NoDangling) (hcalls : Along (step env) (fun s call => call.Allowed s) s calls) :
    (∀ t ∈ states (step env) s calls, t.NoDangling) ↔
      Along (step env) (fun s call => ¬ call.Strands s) s calls :=
  states_invariant_iff (fun _ call hs hallowed => noDangling_step_iff call hs hallowed) h hcalls

/-! ### A payload stored twice -/

def testEnv : ClientEnv := ⟨{}, fun _ => true⟩

def testNow : DateTime := DateTime.utc 0

def testPut : PutBlob := ⟨"ev_01", [1, 2, 3], "text/plain", "inc_01"⟩

/-- The payload is stored, and stored again while the database is down. -/
def testCalls : List Call :=
  [.putBlob testNow testPut {},
    .putBlob testNow testPut { insert := .failed "connection refused" }]

theorem noDangling_states_iff_testCalls :
    (∀ t ∈ states (step testEnv) Store.empty testCalls, t.NoDangling) ↔
      Along (step testEnv) (fun s call => ¬ call.Strands s) Store.empty testCalls :=
  noDangling_states_iff testEnv Store.noDangling_empty ⟨trivial, trivial, trivial⟩

/-- The second call deletes the object that the row of the first one refers
to. -/
theorem not_noDangling_states :
    ¬ ∀ (env : ClientEnv) (calls : List Call),
      Along (step env) (fun s call => call.Allowed s) Store.empty calls →
      ∀ t ∈ states (step env) Store.empty calls, t.NoDangling := by
  intro h
  have hlast := h testEnv testCalls ⟨trivial, trivial, trivial⟩ _
    (List.mem_cons_of_mem _ List.mem_cons_self)
  have hblob : Store.HasBlob _ "ev_01" := hlast "ev_01" rfl
  cases hblob

end AlphE.Evidence
