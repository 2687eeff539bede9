import AlphE.Evidence.Dangling
import AlphE.Lib.Threads

/-!
Calls of `put_blob` that overlap. A call consists of statements on the database and on
the bucket; between them other calls make theirs, and a process may die between any two.
`advance` is one statement of one call, with how it comes out. Run alone, a call is
`putBlob`; run among others, under ids of their own, the calls do not interfere.
-/

namespace AlphE.Evidence

open Operations

/-- A statement of a call, with how it comes out; or the end of the process. -/
inductive Statement
  | schema (outcome : Option String)
  | put (outcome : PutOutcome)
  | insert (outcome : InsertOutcome)
  | delete (outcome : DeleteOutcome)
  | crash

/-- Where a call is. While it rolls back, `committed` keeps whether its row was written
nevertheless; the call does not know. -/
inductive Progress
  | called
  | migrated
  | written
  | rollingBack (exc : String) (committed : Bool)
  | returned (result : Except EvidenceError EvidenceRef)
  | crashed

/-- A call, with the time it reads. -/
structure Pending where
  now : DateTime
  args : PutBlob

namespace Pending

def evidenceId (p : Pending) : String := p.args.evidenceId

def ref (env : ClientEnv) (p : Pending) : EvidenceRef :=
  makeRef env p.now p.args.evidenceId p.args.contentType p.args.payload.length

def blob (p : Pending) : Blob :=
  { payload := p.args.payload, contentType := p.args.contentType }

def row (env : ClientEnv) (p : Pending) : EvidenceRow :=
  evidenceRow (p.ref env) p.args.incidentId

end Pending

/-- The next statement of a call. Where another statement is next, nothing happens. -/
def advance (env : ClientEnv) (p : Pending) :
    Progress → Store → Statement → Progress × Store
  | .called, s, .schema outcome =>
      match ensureSchema s outcome with
      | .error exc => (.returned (.error (.other exc)), s)
      | .ok s => (.migrated, s)
  | .migrated, s, .put outcome =>
      match outcome with
      | .botoCoreError exc =>
          (.returned (.error (.storage ("MinIO PUT failed for " ++
            PyText.reprStr env.isprintable p.args.evidenceId ++ ": " ++ exc))), s)
      | .clientError exc => (.returned (.error (.other exc)), s)
      | .ok => (.written, s.putObject p.args.evidenceId p.blob)
  | .written, s, .insert outcome =>
      match outcome with
      | .committed => (.returned (.ok (p.ref env)), s.insertRow (p.row env))
      | .failed exc => (.rollingBack exc false, s)
      | .lost exc => (.rollingBack exc true, s.insertRow (p.row env))
  | .rollingBack exc _, s, .delete outcome =>
      (.returned (.error (.metadata ("metadata insert failed for " ++
        PyText.reprStr env.isprintable p.args.evidenceId ++ ": " ++ exc))),
        match outcome with
        | .ok => s.deleteObject p.args.evidenceId
        | .failed => s)
  | .returned result, s, _ => (.returned result, s)
  | _, s, .crash => (.crashed, s)
  | progress, s, _ => (progress, s)

/-- The statements of a call, when they come out like this. -/
def Outcomes.statements (o : Outcomes) : List Statement :=
  [.schema o.schema, .put o.put, .insert o.insert, .delete o.delete]

/-- **Run alone, a call is `put_blob`.** -/
theorem foldl_advance (env : ClientEnv) (p : Pending) (s : Store) (o : Outcomes) :
    o.statements.foldl (fun q a => advance env p q.1 q.2 a) (.called, s) =
      (.returned (putBlob env s p.now p.args o).2, (putBlob env s p.now p.args o).1) := by
  obtain ⟨schema, put, insert, delete⟩ := o
  simp only [Outcomes.statements, List.foldl_cons, List.foldl_nil, putBlob, advance]
  cases hschema : ensureSchema s schema with
  | error exc => rfl
  | ok s' =>
      cases put with
      | botoCoreError exc => rfl
      | clientError exc => rfl
      | ok => cases insert <;> cases delete <;> rfl

/-! ### What a call asserts -/

/-- What a call knows of the object and of the row of its id. -/
def Tracks (env : ClientEnv) (p : Pending) (progress : Progress) (blob : Option Blob)
    (row : Option EvidenceRow) : Prop :=
  match progress with
  | .called | .migrated => row = none
  | .written => blob = some p.blob ∧ row = none
  | .rollingBack _ committed =>
      blob = some p.blob ∧ row = if committed then some (p.row env) else none
  | .returned (.ok ref) =>
      ref = p.ref env ∧ blob = some p.blob ∧ row = some (p.row env)
  | .returned (.error _) | .crashed => True

/-- The rollback is about to take away the object of a row that was written. -/
def Strands (progress : Progress) : Statement → Prop
  | .delete .ok => ∃ exc, progress = .rollingBack exc true
  | _ => False

section Step

variable {env : ClientEnv} {p : Pending} {s : Store}

@[simp] theorem blobs_putObject_self (id : String) (b : Blob) :
    (s.putObject id b).blobs id = some b := Function.update_self _ _ _

theorem blobs_putObject_of_ne {id id' : String} (b : Blob) (h : id' ≠ id) :
    (s.putObject id b).blobs id' = s.blobs id' := Function.update_of_ne h _ _

theorem blobs_deleteObject_of_ne {id id' : String} (h : id' ≠ id) :
    (s.deleteObject id).blobs id' = s.blobs id' := Function.update_of_ne h _ _

theorem row_insertRow_of_none {r : EvidenceRow} (h : s.refs.row r.evidenceId = none) :
    (s.insertRow r).refs.row r.evidenceId = some r := by
  have hrow : (s.insertRow r).refs.row r.evidenceId =
      some ((s.refs.row r.evidenceId).getD r) := if_pos rfl
  rw [hrow, h]
  rfl

theorem row_insertRow_of_ne {r : EvidenceRow} {id : String} (h : id ≠ r.evidenceId) :
    (s.insertRow r).refs.row id = s.refs.row id := if_neg h

theorem not_strands {progress : Progress} (h : ∀ exc, progress ≠ .rollingBack exc true)
    (a : Statement) : ¬ Strands progress a := by
  unfold Strands
  split
  · rintro ⟨exc, hprogress⟩
    exact h exc hprogress
  · exact id

/-- What a statement can do: nothing to the bucket and the table; write the object; write
the row; or take the object away. -/
theorem advance_cases (env : ClientEnv) (p : Pending) (s : Store) (progress : Progress)
    (a : Statement) :
    ((advance env p progress s a).2.blobs = s.blobs ∧
      (advance env p progress s a).2.refs = s.refs ∧ ¬ Strands progress a ∧
      ∀ blob row, Tracks env p progress blob row →
        Tracks env p (advance env p progress s a).1 blob row) ∨
    (progress = .migrated ∧
      advance env p progress s a = (.written, s.putObject p.evidenceId p.blob)) ∨
    (progress = .written ∧ (advance env p progress s a).2 = s.insertRow (p.row env) ∧
      ((advance env p progress s a).1 = .returned (.ok (p.ref env)) ∨
        ∃ exc, (advance env p progress s a).1 = .rollingBack exc true)) ∨
    ∃ exc committed err, progress = .rollingBack exc committed ∧ a = .delete .ok ∧
      advance env p progress s a = (.returned (.error err), s.deleteObject p.evidenceId) := by
  cases progress with
  | called =>
      have hnot : ¬ Strands .called a := not_strands (by simp) a
      cases a with
      | schema outcome =>
          left
          obtain ⟨-, hok⟩ | ⟨-, exc, herror⟩ := ensureSchema_cases s outcome
          · simp only [advance, hok]
            exact ⟨trivial, trivial, hnot, fun _ _ h => h⟩
          · simp only [advance, herror]
            exact ⟨trivial, trivial, hnot, fun _ _ _ => trivial⟩
      | crash => exact .inl ⟨rfl, rfl, hnot, fun _ _ _ => trivial⟩
      | _ => exact .inl ⟨rfl, rfl, hnot, fun _ _ h => h⟩
  | migrated =>
      have hnot : ¬ Strands .migrated a := not_strands (by simp) a
      cases a with
      | put outcome =>
          cases outcome with
          | ok => exact .inr (.inl ⟨rfl, rfl⟩)
          | _ => exact .inl ⟨rfl, rfl, hnot, fun _ _ _ => trivial⟩
      | crash => exact .inl ⟨rfl, rfl, hnot, fun _ _ _ => trivial⟩
      | _ => exact .inl ⟨rfl, rfl, hnot, fun _ _ h => h⟩
  | written =>
      have hnot : ¬ Strands .written a := not_strands (by simp) a
      cases a with
      | insert outcome =>
          cases outcome with
          | committed => exact .inr (.inr (.inl ⟨rfl, rfl, .inl rfl⟩))
          | failed exc => exact .inl ⟨rfl, rfl, hnot, fun _ _ h => h⟩
          | lost exc => exact .inr (.inr (.inl ⟨rfl, rfl, .inr ⟨exc, rfl⟩⟩))
      | crash => exact .inl ⟨rfl, rfl, hnot, fun _ _ _ => trivial⟩
      | _ => exact .inl ⟨rfl, rfl, hnot, fun _ _ h => h⟩
  | rollingBack exc committed =>
      cases a with
      | delete outcome =>
          cases outcome with
          | ok => exact .inr (.inr (.inr ⟨exc, committed, _, rfl, rfl, rfl⟩))
          | failed => exact .inl ⟨rfl, rfl, id, fun _ _ _ => trivial⟩
      | crash => exact .inl ⟨rfl, rfl, id, fun _ _ _ => trivial⟩
      | _ => exact .inl ⟨rfl, rfl, id, fun _ _ h => h⟩
  | returned result =>
      exact .inl ⟨rfl, rfl, not_strands (by simp) a, fun _ _ h => h⟩
  | crashed =>
      have hnot : ¬ Strands .crashed a := not_strands (by simp) a
      cases a <;> exact .inl ⟨rfl, rfl, hnot, fun _ _ h => h⟩

/-- A call touches what is filed under its id only. -/
theorem advance_frame (env : ClientEnv) (s : Store) (progress : Progress) (a : Statement)
    {id : String} (h : id ≠ p.evidenceId) :
    (advance env p progress s a).2.blobs id = s.blobs id ∧
      (advance env p progress s a).2.refs.row id = s.refs.row id := by
  obtain ⟨hblobs, hrefs, -, -⟩ | ⟨-, hput⟩ | ⟨-, hinsert, -⟩ |
      ⟨exc, committed, err, -, -, hdelete⟩ :=
    advance_cases env p s progress a
  · rw [hblobs, hrefs]
    exact ⟨rfl, rfl⟩
  · rw [hput]
    exact ⟨blobs_putObject_of_ne _ h, rfl⟩
  · rw [hinsert]
    exact ⟨rfl, row_insertRow_of_ne h⟩
  · rw [hdelete]
    exact ⟨blobs_deleteObject_of_ne h, rfl⟩

theorem advance_tracks {progress : Progress} (a : Statement)
    (h : Tracks env p progress (s.blobs p.evidenceId) (s.refs.row p.evidenceId)) :
    Tracks env p (advance env p progress s a).1
      ((advance env p progress s a).2.blobs p.evidenceId)
      ((advance env p progress s a).2.refs.row p.evidenceId) := by
  obtain ⟨hblobs, hrefs, -, hkeeps⟩ | ⟨rfl, hput⟩ | ⟨rfl, hinsert, hresult⟩ |
    ⟨exc, committed, err, -, -, hdelete⟩ := advance_cases env p s progress a
  · rw [hblobs, hrefs]
    exact hkeeps _ _ h
  · rw [hput]
    exact ⟨blobs_putObject_self _ _, h⟩
  · have hrow : (s.insertRow (p.row env)).refs.row p.evidenceId = some (p.row env) :=
      row_insertRow_of_none h.2
    rw [hinsert, hrow]
    obtain hok | ⟨exc, hlost⟩ := hresult
    · rw [hok]
      exact ⟨rfl, h.1, rfl⟩
    · rw [hlost]
      exact ⟨h.1, rfl⟩
  · rw [hdelete]
    trivial

/-- A statement leaves a dangling reference just when it takes away the object of a row
that was written without the call knowing. -/
theorem noDangling_advance_iff {progress : Progress} (a : Statement)
    (hs : s.NoDangling)
    (h : Tracks env p progress (s.blobs p.evidenceId) (s.refs.row p.evidenceId)) :
    (advance env p progress s a).2.NoDangling ↔ ¬ Strands progress a := by
  obtain ⟨hblobs, hrefs, hstrands, -⟩ | ⟨rfl, hput⟩ | ⟨rfl, hinsert, -⟩ |
    ⟨exc, committed, err, rfl, rfl, hdelete⟩ := advance_cases env p s progress a
  · refine iff_of_true ?_ hstrands
    intro id hrow
    rw [Store.HasBlob, hblobs]
    rw [hrefs] at hrow
    exact hs id hrow
  · rw [hput]
    exact iff_of_true hs.putObject (not_strands (by simp) a)
  · rw [hinsert]
    have hblob : s.HasBlob (p.row env).evidenceId := by
      show (s.blobs p.evidenceId).isSome
      rw [h.1]
      rfl
    exact iff_of_true (hs.insertRow hblob) (not_strands (by simp) a)
  · rw [hdelete, Store.noDangling_deleteObject_iff hs, EvidenceRefs.Has, h.2]
    cases committed <;> simp [Strands]

end Step

/-! ### Schedules -/

section Schedules

variable {ι : Type} [DecidableEq ι] (env : ClientEnv) (calls : ι → Pending)

/-- The calls over one store. -/
abbrev Calls (ι : Type) := Threads ι Progress Store

/-- One statement of one call. -/
def turn : Calls ι → ι × Statement → Calls ι :=
  Threads.act fun i progress s a => advance env (calls i) progress s a

/-- All calls are made, none has done anything. -/
def called (s : Store) : Calls ι := { locals := fun _ => .called, shared := s }

/-- A call that runs while the others wait is `put_blob`. -/
theorem foldl_turn_solo (c : Calls ι) (i : ι) (hcalled : c.locals i = .called)
    (o : Outcomes) :
    (o.statements.map fun a => (i, a)).foldl (turn env calls) c =
      { locals := Function.update c.locals i
          (.returned (putBlob env c.shared (calls i).now (calls i).args o).2)
        shared := (putBlob env c.shared (calls i).now (calls i).args o).1 } := by
  rw [turn, Threads.foldl_act_solo, hcalled, foldl_advance]

/-- The call that takes its turn rolls back a row that was written. -/
def StrandsRow (c : Calls ι) (op : ι × Statement) : Prop := Strands (c.locals op.1) op.2

/-- What all calls know. -/
def AllTrack (c : Calls ι) : Prop :=
  c.Asserted fun i progress s =>
    Tracks env (calls i) progress (s.blobs (calls i).evidenceId)
      (s.refs.row (calls i).evidenceId)

variable {env calls}

theorem allTrack_turn (hids : Function.Injective fun i => (calls i).evidenceId)
    {c : Calls ι} (h : AllTrack env calls c) (op : ι × Statement) :
    AllTrack env calls (turn env calls c op) := by
  apply Threads.Asserted.act h
  · exact advance_tracks op.2 (h op.1)
  · -- Another call has another id.
    intro j hj htracks
    have hid : (calls j).evidenceId ≠ (calls op.1).evidenceId := fun heq => hj (hids heq)
    obtain ⟨hblobs, hrow⟩ := advance_frame env c.shared (c.locals op.1) op.2 hid
    rw [hblobs, hrow]
    exact htracks

omit [DecidableEq ι] in
theorem allTrack_called {s : Store} (hfresh : ∀ i, ¬ s.refs.Has (calls i).evidenceId) :
    AllTrack env calls (called s) := by
  intro i
  exact Option.not_isSome_iff_eq_none.mp (hfresh i)

theorem allTrack_run (hids : Function.Injective fun i => (calls i).evidenceId)
    {s : Store} (hfresh : ∀ i, ¬ s.refs.Has (calls i).evidenceId)
    (schedule : List (ι × Statement)) :
    AllTrack env calls (schedule.foldl (turn env calls) (called s)) :=
  invariant_foldl (I := AllTrack env calls) (A := fun _ _ => True)
    (fun _ op h _ => allTrack_turn hids h op) (allTrack_called hfresh) (along_true _ _)

variable (env calls)

/-- **Calls that overlap dangle nothing.** Any number of calls under ids of their own,
their statements in any order and with any outcome, any of them cut short anywhere: no
row is without its object, at any time, exactly when no call rolls back whose row was
committed without the call knowing. -/
theorem concurrent_noDangling_iff
    (hids : Function.Injective fun i => (calls i).evidenceId) {s : Store}
    (hs : s.NoDangling) (hfresh : ∀ i, ¬ s.refs.Has (calls i).evidenceId)
    (schedule : List (ι × Statement)) :
    (∀ c ∈ states (turn env calls) (called s) schedule, c.shared.NoDangling) ↔
      Along (turn env calls) (fun c op => ¬ StrandsRow c op) (called s) schedule := by
  apply forall_states_iff
    (I := fun c : Calls ι => c.shared.NoDangling ∧ AllTrack env calls c)
  · rintro c op ⟨hdangling, htracks⟩
    exact noDangling_advance_iff op.2 hdangling (htracks op.1)
  · rintro c op ⟨hdangling, htracks⟩ hkeeps
    exact ⟨(noDangling_advance_iff op.2 hdangling (htracks op.1)).mpr hkeeps,
      allTrack_turn hids htracks op⟩
  · exact ⟨hs, allTrack_called hfresh⟩

/-- **What was acknowledged stays.** After any schedule, a call that returned a reference
has its payload read back under its id, and its row in the table; whatever the calls
around it do, or where they stop. -/
theorem concurrent_acknowledged
    (hids : Function.Injective fun i => (calls i).evidenceId) {s : Store}
    (hfresh : ∀ i, ¬ s.refs.Has (calls i).evidenceId) (schedule : List (ι × Statement))
    (i : ι) (ref : EvidenceRef)
    (hreturned : (schedule.foldl (turn env calls) (called s)).locals i =
      .returned (.ok ref)) :
    let t := (schedule.foldl (turn env calls) (called s)).shared
    ref = (calls i).ref env ∧
      getBlob env t (calls i).evidenceId none = .ok (calls i).args.payload ∧
      t.refs.row (calls i).evidenceId = some ((calls i).row env) := by
  intro t
  have hall : AllTrack env calls (schedule.foldl (turn env calls) (called s)) :=
    allTrack_run hids hfresh schedule
  have htracks := hall i
  rw [hreturned] at htracks
  obtain ⟨href, hblob, hrow⟩ := htracks
  refine ⟨href, ?_, hrow⟩
  simp only [getBlob, getObject]
  rw [show t.blobs (calls i).evidenceId = some (calls i).blob from hblob]
  rfl

end Schedules

/-! ### Two records at once -/

def testCall (i : Bool) : Pending where
  now := testNow
  args :=
    { evidenceId := if i then "exec-record-1" else "exec-record-2"
      payload := [1, 2, 3]
      contentType := "application/json" }

theorem testCall_injective : Function.Injective fun i => (testCall i).evidenceId := by
  intro i j h
  cases i <;> cases j <;> first | rfl | exact absurd h (by decide)

/-- The insert of the second call fails, and its rollback comes after the first call was
acknowledged. -/
def testSchedule : List (Bool × Statement) :=
  [(true, .schema none), (false, .schema none), (true, .put .ok), (false, .put .ok),
    (false, .insert (.failed "connection refused")), (true, .insert .committed),
    (false, .delete .ok)]

theorem concurrent_noDangling_iff_testSchedule :
    (∀ c ∈ states (turn testEnv testCall) (called Store.empty) testSchedule,
      c.shared.NoDangling) ↔
      Along (turn testEnv testCall) (fun c op => ¬ StrandsRow c op) (called Store.empty)
        testSchedule :=
  concurrent_noDangling_iff testEnv testCall testCall_injective Store.noDangling_empty
    (fun _ => EvidenceRefs.not_has_empty _) testSchedule

theorem concurrent_acknowledged_testSchedule :
    getBlob testEnv (testSchedule.foldl (turn testEnv testCall) (called Store.empty)).shared
      "exec-record-1" none = .ok [1, 2, 3] :=
  (concurrent_acknowledged testEnv testCall testCall_injective
    (fun _ => EvidenceRefs.not_has_empty _) testSchedule true ((testCall true).ref testEnv)
    rfl).2.1

end AlphE.Evidence
