import AlphE.Evidence.Classified
import AlphE.Lib.FirstWins

/-!
Whether the row of an id describes its object. Writing an object replaces the one
that is there; inserting a row (`ON CONFLICT (evidence_id) DO NOTHING`) keeps it. So
the bucket holds what the last `put_blob` of an id wrote, and the table what the
first one did.
-/

namespace AlphE.Evidence

open Operations FirstWins

/-- A call of `put_blob` with all that meets it. -/
structure Put where
  now : DateTime
  args : PutBlob
  outcomes : Outcomes := {}

namespace Put

def evidenceId (p : Put) : String := p.args.evidenceId

def run (env : ClientEnv) (s : Store) (p : Put) : Store × Except EvidenceError EvidenceRef :=
  putBlob env s p.now p.args p.outcomes

/-- The reference that the call makes. -/
def ref (env : ClientEnv) (p : Put) : EvidenceRef :=
  makeRef env p.now p.args.evidenceId p.args.contentType p.args.payload.length

def Succeeds (env : ClientEnv) (s : Store) (p : Put) : Prop :=
  ∃ ref, (p.run env s).2 = .ok ref

/-- What the metadata says of the payload. -/
def view (p : Put) : ℕ × String := (p.args.payload.length, p.args.contentType)

end Put

/-- The store after each call of a list was made. -/
def putAll (env : ClientEnv) (puts : List Put) : Store :=
  puts.foldl (fun s p => (p.run env s).1) Store.empty

/-- Every call of the list succeeds. -/
def AllSucceed (env : ClientEnv) (puts : List Put) : Prop :=
  Along (fun s p => (p.run env s).1) (Put.Succeeds env) Store.empty puts

/-- A row equals a reference, up to when it expires. -/
structure EvidenceRow.Describes (row : EvidenceRow) (ref : EvidenceRef) : Prop where
  evidenceId : row.evidenceId = ref.evidenceId
  storageUri : row.storageUri = ref.storageUri
  contentType : row.contentType = ref.contentType
  sizeBytes : row.sizeBytes = ref.sizeBytes

/-- After each call, what is read back under an id is the payload of its last call,
and its row equals the reference which that call returned. -/
structure DescribesStored (env : ClientEnv) (puts : List Put) : Prop where
  returned : ∀ done p, done ++ [p] <+: puts →
    (p.run env (putAll env done)).2 = .ok (p.ref env)
  payload : ∀ done, done <+: puts → ∀ id p, last Put.evidenceId id done = some p →
    getBlob env (putAll env done) id none = .ok p.args.payload
  row : ∀ done, done <+: puts → ∀ id p, last Put.evidenceId id done = some p →
    ∃ row, (putAll env done).refs.row id = some row ∧ row.Describes (p.ref env)

/-! ### One call -/

section Call

variable {env : ClientEnv} {s : Store} {p : Put}

/-- All that a successful call does. -/
theorem Put.Succeeds.run_eq (h : p.Succeeds env s) :
    (p.run env s).2 = .ok (p.ref env) ∧
      (p.run env s).1.blobs = Function.update s.blobs p.evidenceId
        (some { payload := p.args.payload, contentType := p.args.contentType }) ∧
      (p.run env s).1.refs = s.refs.insert (evidenceRow (p.ref env) p.args.incidentId) := by
  obtain ⟨ref, hrun⟩ := h
  rw [Put.run] at hrun ⊢
  obtain ⟨-, hok⟩ | ⟨-, exc, herror⟩ := ensureSchema_cases s p.outcomes.schema
  · simp only [putBlob, hok] at hrun ⊢
    cases hput : p.outcomes.put with
    | botoCoreError exc =>
        rw [hput] at hrun
        cases hrun
    | clientError exc =>
        rw [hput] at hrun
        cases hrun
    | ok =>
        rw [hput] at hrun
        cases hinsert : p.outcomes.insert with
        | committed => exact ⟨rfl, rfl, rfl⟩
        | failed exc =>
            rw [hinsert] at hrun
            cases hrun
        | lost exc =>
            rw [hinsert] at hrun
            cases hrun
  · simp only [putBlob, herror] at hrun
    cases hrun

/-- The row of an id after an insert. -/
theorem EvidenceRefs.row_insert (t : EvidenceRefs) (r : EvidenceRow) (id : String) :
    (t.insert r).row id = (t.row id).or (if r.evidenceId = id then some r else none) := by
  change (if id = r.evidenceId then some ((t.row id).getD r) else t.row id) = _
  by_cases hid : id = r.evidenceId
  · rw [if_pos hid, if_pos hid.symm]
    cases t.row id with
    | none => rfl
    | some old => rfl
  · rw [if_neg hid, if_neg (Ne.symm hid), Option.or_none]

end Call

/-! ### A list of calls -/

section Calls

variable {env : ClientEnv} {puts : List Put}

theorem putAll_concat (done : List Put) (p : Put) :
    putAll env (done ++ [p]) = (p.run env (putAll env done)).1 := by
  rw [putAll, List.foldl_concat, putAll]

theorem allSucceed_concat_iff (done : List Put) (p : Put) :
    AllSucceed env (done ++ [p]) ↔ AllSucceed env done ∧ p.Succeeds env (putAll env done) := by
  rw [AllSucceed, along_append]
  simp only [Along, and_true]
  rfl

theorem AllSucceed.of_prefix (h : AllSucceed env puts) {done : List Put}
    (hdone : done <+: puts) : AllSucceed env done := by
  obtain ⟨rest, rfl⟩ := hdone
  exact (along_append.mp h).1

/-- The bucket holds the last object of every id. -/
theorem blobs_putAll (h : AllSucceed env puts) (id : String) :
    (putAll env puts).blobs id = (last Put.evidenceId id puts).map
      fun p => { payload := p.args.payload, contentType := p.args.contentType } := by
  induction puts using List.reverseRecOn with
  | nil => rfl
  | append_singleton done p ih =>
      obtain ⟨hdone, hp⟩ := (allSucceed_concat_iff done p).mp h
      rw [putAll_concat, hp.run_eq.2.1, last_concat]
      by_cases hid : p.evidenceId = id
      · rw [if_pos hid, ← hid, Function.update_self]
        rfl
      · rw [if_neg hid, Function.update_of_ne (Ne.symm hid), ih hdone]

/-- The table holds the first row of every id. -/
theorem row_putAll (h : AllSucceed env puts) (id : String) :
    (putAll env puts).refs.row id = (first Put.evidenceId id puts).map
      fun p => evidenceRow (p.ref env) p.args.incidentId := by
  induction puts using List.reverseRecOn with
  | nil => rfl
  | append_singleton done p ih =>
      obtain ⟨hdone, hp⟩ := (allSucceed_concat_iff done p).mp h
      rw [putAll_concat, hp.run_eq.2.2, EvidenceRefs.row_insert, ih hdone, first_append,
        first_singleton, Option.map_or]
      have hkey : (evidenceRow (p.ref env) p.args.incidentId).evidenceId = p.evidenceId := rfl
      rw [hkey]
      by_cases hid : p.evidenceId = id
      · rw [if_pos hid, if_pos hid, Option.map_some]
      · rw [if_neg hid, if_neg hid, Option.map_none]

/-- The reference of one call describes the payload of another call of its id when
the two look the same. -/
theorem describes_iff {x y : Put} (hid : x.evidenceId = y.evidenceId) :
    (evidenceRow (x.ref env) x.args.incidentId).Describes (y.ref env) ↔ x.view = y.view := by
  constructor
  · intro h
    exact Prod.ext h.sizeBytes h.contentType
  · intro h
    rw [Put.view, Put.view, Prod.mk.injEq] at h
    refine ⟨hid, ?_, h.2, h.1⟩
    exact congrArg (fun id => "s3://" ++ env.settings.s3Bucket ++ "/" ++ id) hid

end Calls

/-- **When the metadata describes the stored blob.** In a history of calls that all
succeed, what is read back is always the payload of the last call of its id; the
rows describe it exactly when the payloads of one id all have one size and one
content type. -/
theorem describesStored_iff (env : ClientEnv) {puts : List Put} (h : AllSucceed env puts) :
    DescribesStored env puts ↔
      ∀ x ∈ puts, ∀ y ∈ puts, x.evidenceId = y.evidenceId →
        x.args.payload.length = y.args.payload.length ∧
          x.args.contentType = y.args.contentType := by
  have huniform : (∀ x ∈ puts, ∀ y ∈ puts, x.evidenceId = y.evidenceId →
      x.args.payload.length = y.args.payload.length ∧
        x.args.contentType = y.args.contentType) ↔ Uniform Put.evidenceId Put.view puts := by
    simp only [Uniform, Put.view, Prod.mk.injEq]
  rw [huniform, ← agree_iff_uniform]
  constructor
  · intro hstored done hdone id x y hfirst hlast
    obtain ⟨row, hrow, hdescribes⟩ := hstored.row done hdone id y hlast
    rw [row_putAll (h.of_prefix hdone), hfirst, Option.map_some, Option.some.injEq] at hrow
    rw [← hrow, describes_iff ((key_of_first hfirst).trans (key_of_last hlast).symm)]
      at hdescribes
    exact hdescribes
  · intro hagree
    refine ⟨?_, ?_, ?_⟩
    · intro done p hprefix
      have hp := ((allSucceed_concat_iff done p).mp (h.of_prefix hprefix)).2
      exact hp.run_eq.1
    · intro done hdone id p hlast
      have hblob := blobs_putAll (h.of_prefix hdone) id
      rw [hlast, Option.map_some] at hblob
      simp only [getBlob, getObject, hblob]
    · intro done hdone id y hlast
      have hmem : y ∈ done := mem_of_last hlast
      obtain ⟨x, hfirst⟩ : ∃ x, first Put.evidenceId y.evidenceId done = some x :=
        exists_first hmem
      rw [key_of_last hlast] at hfirst
      refine ⟨_, ?_, (describes_iff ?_).mpr (hagree done hdone id x y hfirst hlast)⟩
      · rw [row_putAll (h.of_prefix hdone), hfirst, Option.map_some]
      · exact (key_of_first hfirst).trans (key_of_last hlast).symm

/-! ### A payload that grew -/

/-- The logs of an incident are written, and once more when there are more of
them. -/
def testGrown : List Put :=
  [⟨testNow, testPut, {}⟩, ⟨testNow, { testPut with payload := [1, 2, 3, 4] }, {}⟩]

theorem allSucceed_testGrown : AllSucceed testEnv testGrown :=
  ⟨⟨_, rfl⟩, ⟨_, rfl⟩, trivial⟩

theorem describesStored_iff_testGrown :
    DescribesStored testEnv testGrown ↔
      ∀ x ∈ testGrown, ∀ y ∈ testGrown, x.evidenceId = y.evidenceId →
        x.args.payload.length = y.args.payload.length ∧
          x.args.contentType = y.args.contentType :=
  describesStored_iff testEnv ⟨⟨_, rfl⟩, ⟨_, rfl⟩, trivial⟩

/-- The row still says that there are three bytes. -/
theorem not_describesStored :
    ¬ ∀ (env : ClientEnv) (puts : List Put), AllSucceed env puts →
      DescribesStored env puts := by
  intro h
  have hgrown := h testEnv testGrown allSucceed_testGrown
  obtain ⟨row, hrow, hdescribes⟩ := hgrown.row testGrown (List.prefix_refl _) "ev_01" _ rfl
  cases hrow
  have hsize := hdescribes.sizeBytes
  revert hsize
  decide

end AlphE.Evidence
