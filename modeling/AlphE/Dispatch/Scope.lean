import AlphE.Dispatch.Acceptance

/-!
Where the collectors look. The scope of a request lists services, the one of the
alert first; the collectors take the first entry of the scope for a namespace.
-/

namespace AlphE.Dispatch

open Go Collectors Nodes Orchestrator

/-! ### The scope of an investigation -/

theorem dedup_eq_singleton {a : String} {xs : List String} (h : ∀ x ∈ xs, x = a) :
    (a :: xs).dedup = [a] := by
  induction xs with
  | nil => rfl
  | cons x xs ih =>
      obtain rfl : x = a := h x List.mem_cons_self
      rw [List.dedup_cons_of_mem List.mem_cons_self]
      exact ih fun y hy => h y (List.mem_cons_of_mem x hy)

theorem sortedSet_eq_singleton {a : String} {xs : List String} (h : ∀ x ∈ xs, x = a) :
    sortedSet (a :: xs) = [a] := by
  rw [sortedSet, dedup_eq_singleton h]
  rfl

section Investigation

variable {sha256 : Bytes → String} {intakeEnv : Intake.IntakeEnv}
  {alert : Intake.AlertmanagerAlert} {receiver : String} {s : IncidentState}

/-- No service but the one of the alert is ever touched. -/
theorem servicesTouched_of_investigated
    (hs : Investigated sha256 (Intake.seedIncident intakeEnv alert receiver) s) :
    ∀ x ∈ s.servicesTouched, x = Intake.serviceFromLabels alert.labels := by
  induction hs with
  | seed => simp [Intake.seedIncident]
  | intake h now ih => exact ih
  | @investigator s h now answer ih =>
      unfold investigatorNode
      split
      · exact ih
      · exact ih
  | @collectors s h env ih =>
      intro x hx
      unfold collectorsNode at hx
      split at hx
      · exact ih x hx
      · have hmem : x ∈ mergeServicesTouched s.servicesTouched (scopeServices s) := hx
        rw [mergeServicesTouched, mem_sortedSet, List.mem_append, scopeServices, mem_sortedSet,
          List.mem_cons] at hmem
        obtain hmem | rfl | hmem := hmem
        · exact ih x hmem
        · rw [h.frame.1]
          rfl
        · exact ih x hmem

/-- So the scope is that service, on every tick. -/
theorem scopeServices_of_investigated
    (hs : Investigated sha256 (Intake.seedIncident intakeEnv alert receiver) s) :
    scopeServices s = [Intake.serviceFromLabels alert.labels] := by
  have hservice : s.alert.service = Intake.serviceFromLabels alert.labels := by
    rw [hs.frame.1]
    rfl
  rw [scopeServices, hservice, sortedSet_eq_singleton (servicesTouched_of_investigated hs)]

end Investigation

theorem serviceFromLabels_of_service {labels : InsertionDict String String} {service : String}
    (h : labels.get? "service" = some service) (hne : service ≠ "") :
    Intake.serviceFromLabels labels = service := by
  have htruthy : Intake.truthy (some service) = some service := by
    simp [Intake.truthy, hne]
  rw [Intake.serviceFromLabels, List.findSome?_cons, h, htruthy]
  rfl

/-! ### The namespace of a query -/

/-- The question has none of the forms that a collector knows. -/
structure FreeText (question : String) : Prop where
  kube : ∀ form ∈ ["pod:status ", "pod:events ", "deploy:status "],
    hasPrefix (trimSpace question) form = false
  prom : ∀ form ∈ ["metric:rate ", "metric:value "],
    hasPrefix (trimSpace question) form = false
  loki : ∀ form ∈ ["log:contains ", "log:rate "], hasPrefix question form = false

/-- What the collectors ask about a request is about the namespace. -/
structure LooksIn (fmt : Fmt) (inp : Collectors.CollectorInput) (ns : String) : Prop where
  kube : (Kube.parseQuestion inp).ns = ns
  prom : (Prom.parseQuestion fmt inp).expr = (Prom.defaultQuery fmt ns).expr
  loki : ∃ services filter,
    Loki.buildLogQL fmt.isPrint inp.question (Loki.dispatchRequest inp).ns
        (Loki.dispatchRequest inp).scopeServices =
      Loki.buildSelector fmt.isPrint ns services ++ filter

/-- One service without a slash is taken for the namespace. -/
theorem looksIn_of_scope {fmt : Fmt} {inp : Collectors.CollectorInput} {service : String}
    (hscope : inp.scopeServices = [service]) (hne : service ≠ "")
    (hslash : '/' ∉ service.toList) (hfree : FreeText inp.question) :
    LooksIn fmt inp service := by
  have hcut := cut_eq_none hslash
  refine ⟨?_, ?_, ?_⟩
  · have hns : Kube.defaultNamespace inp.scopeServices = service := by
      simp [hscope, Kube.defaultNamespace, hcut, hne]
    simp [Kube.parseQuestion, hfree.kube, hns]
  · have hns : Prom.defaultNamespace inp.scopeServices = service := by
      simp [hscope, Prom.defaultNamespace, hcut, hne]
    simp [Prom.parseQuestion, hfree.prom, hns]
  · have hns : Loki.namespaceAndServices inp.scopeServices = (service, []) := by
      simp [hscope, Loki.namespaceAndServices, hcut]
    refine ⟨[], " |~ \"(?i)error|fatal|panic|oom\"", ?_⟩
    simp [Loki.dispatchRequest, Loki.buildLogQL, hns, hfree.loki]

/-- The times apart, a request that is decoded is the one that was written. -/
theorem wireInput_of_decode {dump : DateTime → String} {input : AlphE.CollectorInput}
    {inp : Collectors.CollectorInput}
    (h : decodeCollectorInput (dumpCollectorInput dump input) = some inp) :
    ∃ start stop, inp = wireInput input start stop := by
  rw [decodeCollectorInput, object_collectorInputFields, Option.bind_eq_some_iff] at h
  obtain ⟨start, -, h⟩ := h
  obtain ⟨stop, -, rfl⟩ := Option.map_eq_some_iff.mp h
  exact ⟨start, stop, rfl⟩

/-- **Where the collectors look.** They look for a service in the namespace of the
same name, so in the namespace of the alert exactly when that is its name. -/
theorem looksIn_iff {sha256 : Bytes → String} {intakeEnv : Intake.IntakeEnv}
    {alert : Intake.AlertmanagerAlert} {receiver ns service : String} {s : IncidentState}
    (hservice : alert.labels.get? "service" = some service) (hne : service ≠ "")
    (hslash : '/' ∉ service.toList) (hns : alert.labels.get? "namespace" = some ns)
    (hs : Investigated sha256 (Intake.seedIncident intakeEnv alert receiver) s)
    {fmt : Fmt} {dump : DateTime → String} {env : CollectorsEnv} {focus : Hypothesis}
    (hfree : FreeText focus.text) {inp : Collectors.CollectorInput}
    (hdecode : decodeCollectorInput (dumpCollectorInput dump (collectorInput env s focus)) =
      some inp) :
    LooksIn fmt inp ns ↔ alert.labels.get? "namespace" = alert.labels.get? "service" := by
  obtain ⟨start, stop, rfl⟩ := wireInput_of_decode hdecode
  have hscope : scopeServices s = [service] := by
    rw [scopeServices_of_investigated hs, serviceFromLabels_of_service hservice hne]
  have hlooks : LooksIn fmt (wireInput (collectorInput env s focus) start stop) service :=
    looksIn_of_scope hscope hne hslash hfree
  rw [hns, hservice, Option.some_inj]
  constructor
  · intro h
    exact h.kube.symm.trans hlooks.kube
  · rintro rfl
    exact hlooks

/-! ### An alert from another namespace -/

/-- A service whose namespace has a name of its own. -/
def testLeak : Intake.AlertmanagerAlert :=
  { status := "firing"
    labels := .ofList
      [("alertname", "PodOOMKilled"), ("namespace", "demo"), ("service", "leaky-service")]
    startsAt := testNow }

def testQuestion : Hypothesis :=
  { id := "h1", text := "is leaky-service out of memory", createdAt := testNow }

theorem freeText_testQuestion : FreeText testQuestion.text where
  kube := by decide
  prom := by decide
  loki := by decide

def testLeakInput : AlphE.CollectorInput :=
  collectorInput testAsking (Intake.seedIncident testIntake testLeak "default") testQuestion

/-- The request on the other side. -/
def testLeakWire : Collectors.CollectorInput :=
  wireInput testLeakInput
    { nanos := (testNow.clock - DateTime.minutes 10) * 1000, zone := 0 }
    { nanos := testAskedAt * 1000, zone := 0 }

theorem decode_testLeakInput :
    decodeCollectorInput (dumpCollectorInput testDump testLeakInput) = some testLeakWire := by
  have hstart : PayloadTime testLeakInput.timeRange.start :=
    payloadTime_testAlert.addMicros inCalendar_testAlert
  have hstop : PayloadTime testLeakInput.timeRange.stop :=
    payloadTime_utc inCalendar_testAskedAt
  rw [decodeCollectorInput, object_collectorInputFields, unmarshal_dump isoText_testDump hstart,
    unmarshal_dump isoText_testDump hstop]
  rfl

theorem looksIn_iff_testLeak :
    LooksIn testCollectEnv.put.fmt testLeakWire "demo" ↔
      testLeak.labels.get? "namespace" = testLeak.labels.get? "service" :=
  looksIn_iff rfl (by decide) (by decide) rfl
    (.seed : Investigated testDigest _ (Intake.seedIncident testIntake testLeak "default"))
    freeText_testQuestion decode_testLeakInput

/-- The alert points to the namespace `demo`, and the collectors look in
`leaky-service`. -/
theorem not_looksIn_namespace :
    ¬ ∀ (alert : Intake.AlertmanagerAlert) (ns service : String) (s : IncidentState)
      (fmt : Fmt) (env : CollectorsEnv) (focus : Hypothesis) (inp : Collectors.CollectorInput),
      alert.labels.get? "namespace" = some ns → ns ≠ "" → '/' ∉ ns.toList →
      alert.labels.get? "service" = some service → service ≠ "" → '/' ∉ service.toList →
      Investigated testDigest (Intake.seedIncident testIntake alert "default") s →
      FreeText focus.text →
      decodeCollectorInput (dumpCollectorInput testDump (collectorInput env s focus)) =
        some inp →
      LooksIn fmt inp ns := by
  intro h
  have hlooks : LooksIn testCollectEnv.put.fmt testLeakWire "demo" :=
    h testLeak "demo" "leaky-service" _ testCollectEnv.put.fmt testAsking testQuestion
      testLeakWire rfl (by decide) (by decide) rfl (by decide) (by decide) .seed
      freeText_testQuestion decode_testLeakInput
  have hkube : (Kube.parseQuestion testLeakWire).ns = "leaky-service" := by decide
  have hsame : ("leaky-service" : String) = "demo" := hkube.symm.trans hlooks.kube
  exact absurd hsame (by decide)

/-! ### One scope, three namespaces -/

/-- The three collectors look in one namespace, and it has a name. -/
def SameNamespace (scope : List String) : Prop :=
  ∃ ns, ns ≠ "" ∧ Kube.defaultNamespace scope = ns ∧ Prom.defaultNamespace scope = ns ∧
    (Loki.namespaceAndServices scope).1 = ns

theorem sameNamespace_of_no_slash {first : String} (rest : List String)
    (h : '/' ∉ first.toList) : SameNamespace (first :: rest) ↔ first ≠ "" := by
  have hcut := cut_eq_none h
  simp only [SameNamespace, Kube.defaultNamespace, Prom.defaultNamespace,
    Loki.namespaceAndServices, hcut]
  constructor
  · rintro ⟨ns, hne, -, -, rfl⟩
    exact hne
  · intro hne
    refine ⟨first, hne, if_pos hne, ?_, rfl⟩
    simp [hne]

theorem sameNamespace_of_slash {first : String} (rest : List String) {before after : List Char}
    (h : first.toList = before ++ '/' :: after) (hfirst : '/' ∉ before) :
    SameNamespace (first :: rest) ↔ String.ofList before = "demo" := by
  have hcut := cut_of_toList_eq h hfirst
  have hloki : (Loki.namespaceAndServices (first :: rest)).1 = String.ofList before := by
    simp only [Loki.namespaceAndServices, hcut]
    split
    · rfl
    · rfl
  simp only [SameNamespace, hloki, Kube.defaultNamespace, Prom.defaultNamespace, hcut]
  constructor
  · rintro ⟨ns, -, -, hprom, hns⟩
    rw [hns, ← hprom]
    simp
  · intro hdemo
    refine ⟨"demo", by decide, ?_, ?_, hdemo⟩
    · simp [hdemo]
    · simp

/-- **Where the three collectors look in one namespace.** With no scope, with a
first entry that is a bare name, and with one in the namespace `demo`. Of any
other entry with a slash, one of them looks in the default namespace and another
does not, and an empty first entry is an empty namespace to one of them. -/
theorem sameNamespace_iff (scope : List String) :
    SameNamespace scope ↔ ∀ first ∈ scope.head?,
      '/' ∉ first.toList ∧ first ≠ "" ∨ "demo/".toList <+: first.toList := by
  cases scope with
  | nil => exact iff_of_true ⟨"demo", by decide, rfl, rfl, rfl⟩ nofun
  | cons first rest =>
      simp only [List.head?_cons, Option.mem_some, forall_eq']
      by_cases hslash : '/' ∈ first.toList
      · obtain ⟨before, after, hsplit, hfirst⟩ := List.eq_append_cons_of_mem hslash
        rw [sameNamespace_of_slash rest hsplit hfirst]
        constructor
        · intro hdemo
          have hbefore : before = "demo".toList := by rw [← hdemo, String.toList_ofList]
          right
          rw [hsplit, hbefore]
          exact ⟨after, rfl⟩
        · rintro (⟨hnone, -⟩ | ⟨tail, htail⟩)
          · exact absurd hslash hnone
          · have hcut : cut first '/' = some (String.ofList "demo".toList, String.ofList tail) :=
              cut_of_toList_eq htail.symm (by decide)
            rw [cut_of_toList_eq hsplit hfirst] at hcut
            exact (Prod.mk.inj (Option.some.inj hcut)).1
      · rw [sameNamespace_of_no_slash rest hslash]
        constructor
        · intro hne
          exact .inl ⟨hslash, hne⟩
        · rintro (⟨-, hne⟩ | hdemo)
          · exact hne
          · exact absurd (hdemo.subset (by decide)) hslash

/-- A service of the namespace `prod` is looked for in two namespaces. -/
theorem not_sameNamespace : ¬ ∀ scope, SameNamespace scope := by
  intro h
  have hsplit : "prod/api".toList = "prod".toList ++ '/' :: "api".toList := by decide
  have hprod := (sameNamespace_of_slash [] hsplit (by decide)).mp (h ["prod/api"])
  exact absurd hprod (by decide)

end AlphE.Dispatch
