import AlphE.Evidence.Dangling

/-!
Which error a call of the evidence client ends in. The library of the object store
has two families of exceptions, and neither is part of the other: `get_blob` has a
handler for both, `put_blob` for one.
-/

namespace AlphE.Evidence

/-! ### The contract -/

/-- The server says that the object is not there. -/
def GetFailure.Missing : GetFailure → Prop
  | .noSuchKey _ => True
  | .clientError code _ => code = some "NoSuchKey" ∨ code = some "404"
  | .botoCoreError _ => False

/-- A `get_blob` that fails says whether the object is missing. -/
def GetClassified (env : ClientEnv) (s : Store) (evidenceId : String)
    (failure : Option GetFailure) : Prop :=
  ∀ exc, getObject s evidenceId failure = .error exc →
    (exc.Missing → getBlob env s evidenceId failure = .error (.notFound evidenceId)) ∧
      (¬ exc.Missing → ∃ message,
        getBlob env s evidenceId failure = .error (.storage message))

/-- A `put_blob` stores the payload and its row, or says which of the two was not
written, and leaves no row behind. -/
structure PutClassified (env : ClientEnv) (s : Store) (now : DateTime) (args : PutBlob)
    (o : Outcomes) : Prop where
  stored : o.put = .ok → o.insert = .committed →
    (∃ ref, (putBlob env s now args o).2 = .ok ref ∧ ref.evidenceId = args.evidenceId) ∧
      (putBlob env s now args o).1.blobs args.evidenceId =
        some { payload := args.payload, contentType := args.contentType } ∧
      (putBlob env s now args o).1.refs.Has args.evidenceId
  storage : o.put ≠ .ok →
    (∃ message, (putBlob env s now args o).2 = .error (.storage message)) ∧
      (putBlob env s now args o).1 = s
  metadata : o.put = .ok → o.insert ≠ .committed →
    (∃ message, (putBlob env s now args o).2 = .error (.metadata message)) ∧
      (putBlob env s now args o).1.refs = s.refs

/-! ### Reading -/

theorem getClassified (env : ClientEnv) (s : Store) (evidenceId : String)
    (failure : Option GetFailure) : GetClassified env s evidenceId failure := by
  intro exc hexc
  rw [getBlob, hexc]
  cases exc with
  | noSuchKey text => exact ⟨fun _ => rfl, fun hnot => absurd trivial hnot⟩
  | botoCoreError text => exact ⟨fun hmissing => hmissing.elim, fun _ => ⟨_, rfl⟩⟩
  | clientError code text =>
      have hcode : code.getD "" ∈ ["NoSuchKey", "404"] ↔
          (GetFailure.clientError code text).Missing := by
        cases code with
        | none => simp [GetFailure.Missing]
        | some c => simp [GetFailure.Missing]
      dsimp only
      by_cases hmissing : (GetFailure.clientError code text).Missing
      · rw [if_pos (hcode.mpr hmissing)]
        exact ⟨fun _ => rfl, fun hnot => absurd hmissing hnot⟩
      · rw [if_neg (mt hcode.mp hmissing)]
        exact ⟨fun hyes => absurd hyes hmissing, fun _ => ⟨_, rfl⟩⟩

/-! ### Writing -/

section Put

variable {env : ClientEnv} {s : Store} (hschema : s.schemaBootstrapped = true)
  {now : DateTime} {args : PutBlob} {o : Outcomes}

include hschema

theorem ensureSchema_of_bootstrapped (outcome : Option String) :
    ensureSchema s outcome = .ok s := by
  unfold ensureSchema
  exact if_pos hschema

/-- The write of the object fails: nothing is stored. -/
theorem putBlob_of_put_ne_ok (hput : o.put ≠ .ok) :
    (putBlob env s now args o).1 = s ∧
      ((∃ message, (putBlob env s now args o).2 = .error (.storage message)) ↔
        ∀ exc, o.put ≠ .clientError exc) := by
  simp only [putBlob, ensureSchema_of_bootstrapped hschema]
  cases hcase : o.put with
  | ok => exact absurd hcase hput
  | botoCoreError exc => simp
  | clientError exc => simp

theorem putBlob_of_committed (hput : o.put = .ok) (hinsert : o.insert = .committed) :
    putBlob env s now args o =
      (inserted env s now args .committed,
        .ok (makeRef env now args.evidenceId args.contentType args.payload.length)) := by
  simp only [putBlob, ensureSchema_of_bootstrapped hschema, hput, hinsert]
  rfl

/-- An insert that raises is reported as such; the rollback does not touch the
table. -/
theorem putBlob_of_insert_ne (hput : o.put = .ok) (hinsert : o.insert ≠ .committed) :
    (∃ message, (putBlob env s now args o).2 = .error (.metadata message)) ∧
      (putBlob env s now args o).1.refs = (inserted env s now args o.insert).refs := by
  simp only [putBlob, ensureSchema_of_bootstrapped hschema, hput, inserted]
  cases hcase : o.insert with
  | committed => exact absurd hcase hinsert
  | failed exc => cases o.delete <;> exact ⟨⟨_, rfl⟩, rfl⟩
  | lost exc => cases o.delete <;> exact ⟨⟨_, rfl⟩, rfl⟩

omit hschema in
/-- An insert that raises leaves the table as it was, unless it was committed and
the row is a new one. -/
theorem refs_inserted_iff (hinsert : o.insert ≠ .committed) :
    (inserted env s now args o.insert).refs = s.refs ↔
      ((∃ exc, o.insert = .lost exc) → s.refs.Has args.evidenceId) := by
  constructor
  · intro hrefs hlost
    rw [← hrefs]
    exact (has_inserted_iff now args hinsert).mpr (.inr hlost)
  · intro hhas
    cases hcase : o.insert with
    | committed => exact absurd hcase hinsert
    | failed exc => rfl
    | lost exc => exact EvidenceRefs.insert_of_has (hhas ⟨exc, hcase⟩)

theorem putClassified_iff :
    PutClassified env s now args o ↔
      (∀ exc, o.put ≠ .clientError exc) ∧
        (o.put = .ok → (∃ exc, o.insert = .lost exc) → s.refs.Has args.evidenceId) := by
  constructor
  · intro h
    refine ⟨?_, ?_⟩
    · intro exc hclient
      have hput : o.put ≠ .ok := by
        rw [hclient]
        exact nofun
      exact (putBlob_of_put_ne_ok hschema hput).2.mp (h.storage hput).1 exc hclient
    · rintro hput ⟨exc, hlost⟩
      have hinsert : o.insert ≠ .committed := by
        rw [hlost]
        exact nofun
      have hrefs := (h.metadata hput hinsert).2
      rw [(putBlob_of_insert_ne hschema hput hinsert).2, refs_inserted_iff hinsert] at hrefs
      exact hrefs ⟨exc, hlost⟩
  · rintro ⟨hfamily, hrow⟩
    refine ⟨?_, ?_, ?_⟩
    · intro hput hinsert
      rw [putBlob_of_committed hschema hput hinsert]
      refine ⟨⟨_, rfl, rfl⟩, Function.update_self _ _ _, ?_⟩
      exact (EvidenceRefs.has_insert_iff _ _ _).mpr (.inl rfl)
    · intro hput
      obtain ⟨hstore, hstorage⟩ := putBlob_of_put_ne_ok hschema hput
      exact ⟨hstorage.mpr hfamily, hstore⟩
    · intro hput hinsert
      obtain ⟨hmetadata, hrefs⟩ := putBlob_of_insert_ne hschema hput hinsert
      refine ⟨hmetadata, hrefs.trans ?_⟩
      exact (refs_inserted_iff hinsert).mpr (hrow hput)

end Put

/-- **When the errors are classified.** Reading classifies every failure. Writing
does so, and leaves no row behind, exactly when the server does not answer the
write of the object with an error, and no row is committed whose acknowledgement is
lost. -/
theorem classified_iff (env : ClientEnv) {s : Store} (hschema : s.schemaBootstrapped = true)
    (now : DateTime) (args : PutBlob) (o : Outcomes) :
    (PutClassified env s now args o ∧
        ∀ evidenceId failure, GetClassified env s evidenceId failure) ↔
      (∀ exc, o.put ≠ .clientError exc) ∧
        (o.put = .ok → (∃ exc, o.insert = .lost exc) → s.refs.Has args.evidenceId) := by
  rw [putClassified_iff hschema]
  exact and_iff_left (getClassified env s)

/-! ### A write that is turned down -/

/-- A store whose client has run the migration. -/
def testStore : Store := { Store.empty with schemaBootstrapped := true }

/-- The credentials may not write to the bucket. -/
def testDenied : Outcomes := { put := .clientError "AccessDenied" }

theorem classified_iff_testDenied :
    (PutClassified testEnv testStore testNow testPut testDenied ∧
        ∀ evidenceId failure, GetClassified testEnv testStore evidenceId failure) ↔
      (∀ exc, testDenied.put ≠ .clientError exc) ∧
        (testDenied.put = .ok → (∃ exc, testDenied.insert = .lost exc) →
          testStore.refs.Has testPut.evidenceId) :=
  classified_iff testEnv rfl testNow testPut testDenied

/-- The error of the library passes through. -/
theorem not_putClassified :
    ¬ ∀ (env : ClientEnv) (s : Store) (now : DateTime) (args : PutBlob) (o : Outcomes),
      s.schemaBootstrapped = true → PutClassified env s now args o := by
  intro h
  have hdenied := h testEnv testStore testNow testPut testDenied rfl
  obtain ⟨⟨message, hstorage⟩, -⟩ := hdenied.storage nofun
  cases hstorage

end AlphE.Evidence
