import AlphE.Collectors.Agreement
import AlphE.Dispatch.Request
import AlphE.Orchestrator.GivingUp
import AlphE.Orchestrator.Investigation

/-!
Which requests of an investigation the collectors refuse. The question is the text
of the focus, the start comes from the alert and the end from the clock; nothing
checks on the way that the text says something, that the alert has a timezone, or
that the range is not empty.
-/

namespace AlphE.Dispatch

open Go Collectors Nodes

/-! ### The times of a request -/

/-- Datetimes are written as ISO 8601. -/
structure IsoText (dump : DateTime → String) : Prop where
  aware : ∀ t zone : Int, IsoFormat.InCalendar t → zone % 60 = 0 → zone.natAbs < 86400 →
    dump ⟨t, some (zone * 1000000)⟩ =
      String.ofList (Time.microsText t ++ Time.zoneText zone)
  naive : ∀ t : Int, IsoFormat.InCalendar t →
    dump ⟨t, none⟩ = String.ofList (Time.microsText t)

/-- An offset as a payload can give it: in minutes, and less than a day. -/
def PayloadOffset (o : Int) : Prop :=
  ∃ zone : Int, o = zone * 1000000 ∧ zone % 60 = 0 ∧ zone.natAbs < 86400

/-- A datetime a payload can hold. -/
structure PayloadTime (t : DateTime) : Prop where
  inCalendar : IsoFormat.InCalendar t.clock
  offset : ∀ o ∈ t.utcoffset, PayloadOffset o

theorem payloadTime_utc {t : Int} (h : IsoFormat.InCalendar t) : PayloadTime (.utc t) where
  inCalendar := h
  offset := by
    intro o ho
    obtain rfl : 0 = o := by simpa [DateTime.utc] using ho
    exact ⟨0, rfl, rfl, by decide⟩

theorem PayloadTime.addMicros {t : DateTime} (h : PayloadTime t) {delta : Int}
    (hcal : IsoFormat.InCalendar (t.clock + delta)) : PayloadTime (t.addMicros delta) where
  inCalendar := hcal
  offset := h.offset

/-- A time is read when it has a zone, and as the instant it denotes. -/
theorem unmarshal_dump {dump : DateTime → String} (hdump : IsoText dump) {t : DateTime}
    (ht : PayloadTime t) :
    Time.unmarshal (dump t) =
      t.utcoffset.map fun o => { nanos := t.instant * 1000, zone := o / 1000000 } := by
  obtain ⟨clock, utcoffset⟩ := t
  cases utcoffset with
  | none => rw [hdump.naive clock ht.inCalendar, Time.unmarshal_of_naive ht.inCalendar,
      Option.map_none]
  | some o =>
      obtain ⟨zone, rfl, hminutes, hday⟩ := ht.offset o rfl
      rw [hdump.aware clock zone ht.inCalendar hminutes hday,
        Time.unmarshal_zoneText ht.inCalendar hminutes hday, Option.map_some]
      congr 2
      · simp only [DateTime.instant, Option.getD_some, Rfc3339.nanosPerSecond]
        omega
      · omega

/-! ### The answer -/

theorem status_handleCollect_iff (c : Collector) (env : CollectEnv)
    (inp : Collectors.CollectorInput) :
    (handleCollect c env (.ok inp)).status ≠ 400 ↔ inp.Valid := by
  rw [← CollectorInput.validate_eq_none_iff, handleCollect]
  cases inp.validate with
  | some text => simp
  | none => cases c.collect env inp <;> simp

/-- The zero time, in microseconds. -/
def zeroInstant : Int := -62135596800000000

theorem isZero_micros (x zone : Int) :
    ({ nanos := x * 1000, zone := zone } : Time).isZero = false ↔ x ≠ zeroInstant := by
  rw [Time.isZero, decide_eq_false_iff_not]
  show ¬ x * 1000 = Time.zeroNanos ↔ x ≠ zeroInstant
  rw [Time.zeroNanos, zeroInstant]
  omega

theorem after_micros (x y zone zone' : Int) :
    ({ nanos := x * 1000, zone := zone } : Time).after { nanos := y * 1000, zone := zone' } =
      true ↔ y < x := by
  rw [Time.after, decide_eq_true_iff]
  show y * 1000 < x * 1000 ↔ y < x
  omega

/-- What the collectors ask of a request. -/
structure Acceptable (input : AlphE.CollectorInput) : Prop where
  incidentId : input.incidentId ≠ ""
  question : input.question ≠ ""
  hypothesisId : input.hypothesisId ≠ ""
  startZone : input.timeRange.start.utcoffset.isSome
  stopZone : input.timeRange.stop.utcoffset.isSome
  start : input.timeRange.start.instant ≠ zeroInstant
  stop : input.timeRange.stop.instant ≠ zeroInstant
  order : input.timeRange.start.instant < input.timeRange.stop.instant
  cluster : input.environmentFingerprint.cluster ≠ ""

theorem status_post_iff {dump : DateTime → String} (hdump : IsoText dump)
    {input : AlphE.CollectorInput} (hstart : PayloadTime input.timeRange.start)
    (hstop : PayloadTime input.timeRange.stop) (c : Collector) (env : CollectEnv)
    (err : GoString) :
    (post c env err (dumpCollectorInput dump input)).status ≠ 400 ↔ Acceptable input := by
  rw [post, decodeCollectorInput, object_collectorInputFields, unmarshal_dump hdump hstart,
    unmarshal_dump hdump hstop]
  cases hzone : input.timeRange.start.utcoffset with
  | none =>
      refine iff_of_false (by simp [handleCollect]) ?_
      intro h
      simpa [hzone] using h.startZone
  | some o =>
      cases hzone' : input.timeRange.stop.utcoffset with
      | none =>
          refine iff_of_false (by simp [handleCollect]) ?_
          intro h
          simpa [hzone'] using h.stopZone
      | some o' =>
          simp only [Option.map_some, Option.bind_some, status_handleCollect_iff]
          constructor
          · intro h
            exact ⟨h.incidentId, h.question, h.hypothesisId, by simp [hzone],
              by simp [hzone'], (isZero_micros _ _).mp h.start, (isZero_micros _ _).mp h.stop,
              (after_micros _ _ _ _).mp h.after, h.cluster⟩
          · intro h
            exact ⟨h.incidentId, h.question, h.hypothesisId, (isZero_micros _ _).mpr h.start,
              (isZero_micros _ _).mpr h.stop, (after_micros _ _ _ _).mpr h.order, h.cluster⟩

/-! ### The requests of an investigation -/

section Investigation

variable {sha256 : Bytes → String} {intakeEnv : Intake.IntakeEnv}
  {alert : Intake.AlertmanagerAlert} {receiver : String} {s : IncidentState}

/-- The ids of an investigation are not empty. -/
theorem id_ne_empty_of_focus (hsha : ∀ text, sha256 text ≠ "")
    (hs : Orchestrator.Investigated sha256 (Intake.seedIncident intakeEnv alert receiver) s)
    {focus : Hypothesis} (hfocus : focusHypothesis s = some focus) : focus.id ≠ "" := by
  have hids := hs.ids (P := fun id => id ≠ "") (by simp [Intake.seedIncident]) ?_
  · exact hids focus.id (List.mem_map_of_mem (List.mem_of_find?_eq_some hfocus))
  · intro h
    rw [ensureId]
    split
    · intro hempty
      have hdigest := hsha h.text.encodeUtf8
      have htake : (sha256 h.text.encodeUtf8).toList.take 16 = [] := by
        simpa [contentHash, PyText.takeChars] using hempty
      have hnil : (sha256 h.text.encodeUtf8).toList = [] := by simpa using htake
      exact hdigest (String.toList_eq_nil_iff.mp hnil)
    next hne => simpa using hne

/-- When a request about an alert can be answered: the question, the alert's time
and the clock. -/
structure Askable (alert : Intake.AlertmanagerAlert) (question : String) (now : Int) :
    Prop where
  question : question ≠ ""
  zone : alert.startsAt.utcoffset.isSome
  start : alert.startsAt.instant - DateTime.minutes 10 ≠ zeroInstant
  stop : now ≠ zeroInstant
  order : alert.startsAt.instant - DateTime.minutes 10 < now

theorem acceptable_collectorInput_iff (hsha : ∀ text, sha256 text ≠ "")
    (hs : Orchestrator.Investigated sha256 (Intake.seedIncident intakeEnv alert receiver) s)
    {env : CollectorsEnv} {now : Int} (hnow : env.now = .utc now)
    (hcluster : env.environ "ENV_CLUSTER" ≠ some "") {focus : Hypothesis}
    (hfocus : focusHypothesis s = some focus) :
    Acceptable (collectorInput env s focus) ↔ Askable alert focus.text now := by
  obtain ⟨halert, hincident⟩ := hs.frame
  have hfired : s.alert.firedAt = alert.startsAt := by
    rw [halert]
    rfl
  have hstart : (collectorInput env s focus).timeRange.start.instant =
      alert.startsAt.instant - DateTime.minutes 10 := by
    show (s.alert.firedAt.addMicros (-DateTime.minutes 10)).instant = _
    rw [DateTime.instant_addMicros, hfired]
    omega
  have hstop : (collectorInput env s focus).timeRange.stop = .utc now := hnow
  have hinstant : (DateTime.utc now).instant = now := by
    simp [DateTime.utc, DateTime.instant]
  have hzone : (collectorInput env s focus).timeRange.start.utcoffset =
      alert.startsAt.utcoffset := by
    show s.alert.firedAt.utcoffset = _
    rw [hfired]
  constructor
  · intro h
    have horder := h.order
    have hstartZero := h.start
    have hstopZero := h.stop
    rw [hstart] at hstartZero
    rw [hstop, hinstant] at hstopZero
    rw [hstart, hstop, hinstant] at horder
    exact ⟨h.question, hzone ▸ h.startZone, hstartZero, hstopZero, horder⟩
  · intro h
    refine ⟨?_, h.question, id_ne_empty_of_focus hsha hs hfocus, ?_, ?_, ?_, ?_, ?_, ?_⟩
    · show s.incidentId ≠ ""
      rw [hincident]
      simp [Intake.seedIncident]
    · rw [hzone]
      exact h.zone
    · rw [hstop]
      rfl
    · rw [hstart]
      exact h.start
    · rw [hstop, hinstant]
      exact h.stop
    · rw [hstart, hstop, hinstant]
      exact h.order
    · show (env.environ "ENV_CLUSTER").getD "k3d-devops-lab" ≠ ""
      cases hvalue : env.environ "ENV_CLUSTER" with
      | none => simp
      | some value =>
          rintro rfl
          exact hcluster hvalue

/-- **Which requests are refused.** A request of an investigation is answered 400
exactly when its question is empty, its alert has no timezone, one of its times is
the zero time, or the alert fires more than ten minutes from now. -/
theorem status_post_collectorInput_iff {dump : DateTime → String} (hdump : IsoText dump)
    (hsha : ∀ text, sha256 text ≠ "")
    (hs : Orchestrator.Investigated sha256 (Intake.seedIncident intakeEnv alert receiver) s)
    (hstarts : PayloadTime alert.startsAt)
    (hstart : IsoFormat.InCalendar (alert.startsAt.clock - DateTime.minutes 10))
    {env : CollectorsEnv} {now : Int} (hnow : env.now = .utc now)
    (hcal : IsoFormat.InCalendar now) (hcluster : env.environ "ENV_CLUSTER" ≠ some "")
    {focus : Hypothesis} (hfocus : focusHypothesis s = some focus) (c : Collector)
    (cenv : CollectEnv) (err : GoString) :
    (post c cenv err (dumpCollectorInput dump (collectorInput env s focus))).status ≠ 400 ↔
      Askable alert focus.text now := by
  have hfired : s.alert.firedAt = alert.startsAt := by
    rw [hs.frame.1]
    rfl
  rw [status_post_iff hdump]
  · exact acceptable_collectorInput_iff hsha hs hnow hcluster hfocus
  · show PayloadTime (s.alert.firedAt.addMicros (-DateTime.minutes 10))
    rw [hfired]
    exact hstarts.addMicros hstart
  · show PayloadTime env.now
    rw [hnow]
    exact payloadTime_utc hcal

end Investigation

/-! ### A question that says nothing -/

open Orchestrator (testIntake testAlert Investigated)

def testDump (t : DateTime) : String :=
  String.ofList (Time.microsText t.clock ++
    (t.utcoffset.map fun o => Time.zoneText (o / 1000000)).getD [])

theorem isoText_testDump : IsoText testDump where
  aware := by
    intro t zone _ _ _
    rw [testDump, Option.map_some, Option.getD_some, Int.mul_ediv_cancel _ (by decide)]
  naive := by
    intro t _
    rw [testDump, Option.map_none, Option.getD_none, List.append_nil]

/-- The digest of the empty text, which is the one that is hashed. -/
def testDigest (_ : Bytes) : String :=
  "e3b0c44298fc1c149afbf4c8996fb92427ae41e4649b934ca495991b7852b855"

/-- The incident, with the one hypothesis of the Investigator in focus. -/
def testFocused : IncidentState :=
  (Intake.seedIncident testIntake testAlert "default").merge
    (investigatorNode testNow testDigest
      { hypotheses := [{ id := "", text := "", createdAt := testNow }]
        currentFocusHypothesisId := "e3b0c44298fc1c14"
        reasoning := "Nothing to go by yet." }
      (Intake.seedIncident testIntake testAlert "default"))

def testFocus : Hypothesis := { id := "e3b0c44298fc1c14", text := "", createdAt := testNow }

theorem investigated_testFocused :
    Investigated testDigest (Intake.seedIncident testIntake testAlert "default") testFocused :=
  Investigated.seed.investigator _ _

theorem focusHypothesis_testFocused : focusHypothesis testFocused = some testFocus := by
  decide

/-- The surroundings one minute after the alert fired. -/
def testAsking : CollectorsEnv where
  now := testNow.addMicros (DateTime.minutes 1)
  lower := id
  environ _ := none
  cacheGet _ _ := none
  dispatch _ input := .inr
    { id := "fail", collectorName := "prom", question := input.question, summary := ""
      evidenceId := "", confidence := UnitFloat.zero, createdAt := testNow }

def testAskedAt : Int := testNow.clock + DateTime.minutes 1

theorem inCalendar_testAskedAt : IsoFormat.InCalendar testAskedAt := ⟨by decide, by decide⟩

theorem payloadTime_testAlert : PayloadTime testAlert.startsAt :=
  payloadTime_utc ⟨by decide, by decide⟩

theorem inCalendar_testAlert :
    IsoFormat.InCalendar (testAlert.startsAt.clock - DateTime.minutes 10) :=
  ⟨by decide, by decide⟩

theorem status_post_collectorInput_iff_testFocused :
    (post (.prom testPrometheus) testCollectEnv []
        (dumpCollectorInput testDump (collectorInput testAsking testFocused testFocus))).status ≠
        400 ↔
      Askable testAlert testFocus.text testAskedAt :=
  status_post_collectorInput_iff isoText_testDump (by simp [testDigest]) investigated_testFocused
    payloadTime_testAlert inCalendar_testAlert rfl inCalendar_testAskedAt (by decide)
    focusHypothesis_testFocused (.prom testPrometheus) testCollectEnv []

/-- The Investigator may propose a hypothesis with no text, and its question is
refused. -/
theorem not_status_post_collectorInput :
    ¬ ∀ (s : IncidentState) (env : CollectorsEnv) (now : Int) (focus : Hypothesis)
      (c : Collector) (cenv : CollectEnv) (err : GoString),
      Investigated testDigest (Intake.seedIncident testIntake testAlert "default") s →
      env.now = .utc now → IsoFormat.InCalendar now →
      env.environ "ENV_CLUSTER" ≠ some "" → focusHypothesis s = some focus →
      (post c cenv err (dumpCollectorInput testDump (collectorInput env s focus))).status ≠
        400 := by
  intro h
  have hstatus := h testFocused testAsking testAskedAt testFocus (.prom testPrometheus)
    testCollectEnv [] investigated_testFocused rfl inCalendar_testAskedAt (by decide)
    focusHypothesis_testFocused
  rw [status_post_iff isoText_testDump] at hstatus
  · exact hstatus.question rfl
  · exact payloadTime_testAlert.addMicros inCalendar_testAlert
  · exact payloadTime_utc inCalendar_testAskedAt

end AlphE.Dispatch
