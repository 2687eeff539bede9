import AlphE.Dispatch.Scope

/-!
Which collector a question gets to. Each collector understands some forms of
questions, which begin with a word and a colon; the registry of the orchestrator
chooses by a word and a dot.
-/

namespace AlphE.Dispatch

open Go Collectors Nodes

/-! ### Questions that a collector understands -/

def promForms : List String := ["metric:rate ", "metric:value "]

def lokiForms : List String := ["log:contains ", "log:rate "]

def kubeForms : List String := ["pod:status ", "pod:events ", "deploy:status "]

/-- A collector understands the questions that begin with one of its forms.
Spaces in front matter to `loki` only. -/
inductive Understands (q : String) : String → Prop
  | prom {form : String} (hform : form ∈ promForms)
      (h : hasPrefix (trimSpace q) form = true) : Understands q collectorProm
  | loki {form : String} (hform : form ∈ lokiForms)
      (h : hasPrefix q form = true) : Understands q collectorLoki
  | kube {form : String} (hform : form ∈ kubeForms)
      (h : hasPrefix (trimSpace q) form = true) : Understands q collectorKube

/-- Free text is what no collector understands. -/
theorem freeText_iff {q : String} : FreeText q ↔ ∀ collector, ¬ Understands q collector := by
  constructor
  · rintro ⟨hkube, hprom, hloki⟩ collector hunderstands
    cases hunderstands with
    | prom hform h => exact absurd h (by simp [hprom _ hform])
    | loki hform h => exact absurd h (by simp [hloki _ hform])
    | kube hform h => exact absurd h (by simp [hkube _ hform])
  · intro h
    refine ⟨fun form hform => ?_, fun form hform => ?_, fun form hform => ?_⟩
    · exact Bool.eq_false_iff.mpr fun htrue => h _ (.kube hform htrue)
    · exact Bool.eq_false_iff.mpr fun htrue => h _ (.prom hform htrue)
    · exact Bool.eq_false_iff.mpr fun htrue => h _ (.loki hform htrue)

@[simp] theorem kind_parseScopedName (kind : Kube.QueryKind) (arg defaultNs : String) :
    (Kube.parseScopedName kind arg defaultNs).kind = kind := by
  rw [Kube.parseScopedName]
  split <;> rfl

/-- The kube collector asks its default query of all other questions. -/
theorem understands_kube_iff (inp : Collectors.CollectorInput) :
    Understands inp.question collectorKube ↔ (Kube.parseQuestion inp).kind ≠ .default := by
  have hforms : Understands inp.question collectorKube ↔
      ∃ form ∈ kubeForms, hasPrefix (trimSpace inp.question) form = true := by
    constructor
    · generalize hkube : collectorKube = collector
      rintro (⟨-, -⟩ | ⟨-, -⟩ | ⟨hform, h⟩)
      · exact absurd hkube (by decide)
      · exact absurd hkube (by decide)
      · exact ⟨_, hform, h⟩
    · rintro ⟨form, hform, h⟩
      exact .kube hform h
  rw [hforms, kubeForms, Kube.parseQuestion]
  simp only [List.exists_mem_cons_iff, List.not_mem_nil, false_and, exists_false, or_false]
  split
  · next h => simp [h]
  · next hstatus =>
      split
      · next h => simp [h]
      · next hevents =>
          split
          · next h => simp [h]
          · next hdeploy => simp [hstatus, hevents, hdeploy]

/-- What the prom collector takes for a rate or a value begins with a form. -/
theorem understands_prom_of_kind {fmt : Fmt} {inp : Collectors.CollectorInput}
    (h : (Prom.parseQuestion fmt inp).kind ≠ .default) :
    Understands inp.question collectorProm := by
  rw [Prom.parseQuestion] at h
  split at h
  · next hrate => exact .prom (by simp [promForms]) hrate
  · split at h
    · next hvalue => exact .prom (by simp [promForms]) hvalue
    · exact absurd rfl h

/-! ### The registry -/

/-- Characters that `str.lower` leaves alone: the spaces, and ASCII but for its
capitals. -/
def uncased (c : Char) : Bool :=
  isSpace c || (c.toNat < 0x80 && !(0x41 ≤ c.toNat && c.toNat ≤ 0x5a))

/-- What is asked of `str.lower`: text without case at the front stays there. -/
structure KeepsUncased (lower : String → String) : Prop where
  front : ∀ pre rest : List Char, (∀ c ∈ pre, uncased c = true) →
    pre <+: (lower (String.ofList (pre ++ rest))).toList

section Registry

variable {lower : String → String} {q : String}

/-- A text that begins otherwise than every entry falls to the default. -/
theorem selectCollector_eq_prom {pre : List Char} (hpre : pre <+: (lower q).toList)
    (hother : ∀ p ∈ prefixMap, ¬ p.1.toList <+: pre ∧ ¬ pre <+: p.1.toList) :
    selectCollector lower q = collectorProm := by
  have hfind : (prefixMap.find? fun p => p.1.toList.isPrefixOf (lower q).toList) = none := by
    rw [List.find?_eq_none]
    intro p hp hprefix
    rcases List.prefix_or_prefix_of_prefix (List.isPrefixOf_iff_prefix.mp hprefix) hpre with
      h | h
    · exact (hother p hp).1 h
    · exact (hother p hp).2 h
  rw [selectCollector, hfind]

/-- No entry of the registry begins with a space. -/
theorem space_conflicts {c : Char} (hc : isSpace c = true) :
    ∀ p ∈ prefixMap, ¬ p.1.toList <+: [c] ∧ ¬ [c] <+: p.1.toList := by
  have hentries : ∀ p ∈ prefixMap, 1 < p.1.toList.length ∧
      (p.1.toList.all fun d => !isSpace d) = true := by decide
  intro p hp
  obtain ⟨hlength, hspace⟩ := hentries p hp
  constructor
  · intro h
    exact absurd h.length_le (Nat.not_le.mpr hlength)
  · intro h
    have hmem : c ∈ p.1.toList := h.subset List.mem_cons_self
    have hnospace := List.all_eq_true.mp hspace c hmem
    exact absurd hc (by simpa using hnospace)

/-- A question that begins with a form, after spaces or not, falls to the
default of the registry. -/
theorem selectCollector_of_front (hlower : KeepsUncased lower) {front form rest : List Char}
    (hq : q.toList = front ++ form ++ rest) (hfront : ∀ c ∈ front, isSpace c = true)
    (hform : ∀ c ∈ form, uncased c = true)
    (hother : ∀ p ∈ prefixMap, ¬ p.1.toList <+: form ∧ ¬ form <+: p.1.toList) :
    selectCollector lower q = collectorProm := by
  cases front with
  | nil =>
      apply selectCollector_eq_prom _ hother
      have hkeep := hlower.front form rest hform
      rwa [← List.nil_append form, ← hq, String.ofList_toList] at hkeep
  | cons c front =>
      have hspace := hfront c List.mem_cons_self
      apply selectCollector_eq_prom _ (space_conflicts hspace)
      have hkeep := hlower.front [c] (front ++ form ++ rest) (by simp [uncased, hspace])
      have hwhole : [c] ++ (front ++ form ++ rest) = q.toList := by
        rw [hq]
        rfl
      rwa [hwhole, String.ofList_toList] at hkeep

/-- Every form differs from every entry where the colon stands. -/
theorem forms_conflict :
    ∀ form ∈ promForms ++ lokiForms ++ kubeForms,
      form.toList.all uncased = true ∧
        ∀ p ∈ prefixMap, ¬ p.1.toList <+: form.toList ∧ ¬ form.toList <+: p.1.toList := by
  decide

theorem selectCollector_of_form (hlower : KeepsUncased lower) {form : String}
    (hform : form ∈ promForms ++ lokiForms ++ kubeForms)
    (h : hasPrefix q form = true ∨ hasPrefix (trimSpace q) form = true) :
    selectCollector lower q = collectorProm := by
  obtain ⟨huncased, hother⟩ := forms_conflict form hform
  rw [List.all_eq_true] at huncased
  rcases h with h | h
  · obtain ⟨rest, hrest⟩ := hasPrefix_iff.mp h
    have hq : q.toList = [] ++ form.toList ++ rest := hrest.symm
    exact selectCollector_of_front hlower hq (by simp) huncased hother
  · obtain ⟨rest, hrest⟩ := hasPrefix_iff.mp h
    obtain ⟨front, back, hq, hfront⟩ := exists_trimSpace q
    rw [← hrest, ← List.append_assoc, List.append_assoc _ rest back] at hq
    exact selectCollector_of_front hlower hq hfront huncased hother

/-- Whoever understands a question, the registry chooses `prom`. -/
theorem selectCollector_of_understands (hlower : KeepsUncased lower) {collector : String}
    (h : Understands q collector) : selectCollector lower q = collectorProm := by
  cases h with
  | prom hform h =>
      exact selectCollector_of_form hlower
        (List.mem_append_left _ (List.mem_append_left _ hform)) (.inr h)
  | loki hform h =>
      exact selectCollector_of_form hlower
        (List.mem_append_left _ (List.mem_append_right _ hform)) (.inl h)
  | kube hform h =>
      exact selectCollector_of_form hlower (List.mem_append_right _ hform) (.inr h)

end Registry

/-- **Which questions get to the collector that understands them.** The Collectors
node sends the text of the hypothesis as it is, and whatever form it has, the
registry chooses `prom`: of the forms, only those of `prom` get there. -/
theorem reaches_iff (env : CollectorsEnv) (hlower : KeepsUncased env.lower)
    (state : IncidentState) (focus : Hypothesis) {collector : String}
    (h : Understands (collectorInput env state focus).question collector) :
    selectCollector env.lower focus.text = collector ↔ collector = collectorProm := by
  have hprom : selectCollector env.lower focus.text = collectorProm :=
    selectCollector_of_understands hlower h
  rw [hprom, eq_comm]

/-! ### A question for kube -/

/-- `str.lower` on texts that are ASCII. -/
def lowerAscii (s : String) : String := String.ofList (s.toList.map Char.toLower)

theorem toLower_of_uncased {c : Char} (h : uncased c = true) : c.toLower = c := by
  have hcapital : ¬ (c.val ≥ 'A'.val ∧ c.val ≤ 'Z'.val) := by
    rintro ⟨hlow, hhigh⟩
    have hlow : 65 ≤ c.toNat := hlow
    have hhigh : c.toNat ≤ 90 := hhigh
    simp [uncased, isSpace] at h
    omega
  exact dif_neg hcapital

theorem keepsUncased_lowerAscii : KeepsUncased lowerAscii where
  front pre rest hpre := by
    have hkeep : pre.map Char.toLower = pre := by
      rw [List.map_congr_left fun c hc => toLower_of_uncased (hpre c hc)]
      exact List.map_id' pre
    rw [lowerAscii, String.toList_ofList, String.toList_ofList, List.map_append, hkeep]
    exact List.prefix_append _ _

/-- A node that lowers ASCII, and a question about the pods of `demo`. -/
def testLowering : CollectorsEnv := { testAsking with lower := lowerAscii }

def testPodStatus : Hypothesis :=
  { id := "h1", text := "pod:status demo", createdAt := testNow }

theorem understands_testPodStatus : Understands testPodStatus.text collectorKube :=
  @Understands.kube _ "pod:status " (by decide) (by decide)

theorem reaches_iff_testPodStatus :
    Understands testPodStatus.text collectorKube ∧
      (selectCollector lowerAscii testPodStatus.text = collectorKube ↔
        collectorKube = collectorProm) :=
  ⟨understands_testPodStatus,
    reaches_iff testLowering keepsUncased_lowerAscii
      (Intake.seedIncident Orchestrator.testIntake testLeak "default") testPodStatus
      understands_testPodStatus⟩

/-- The question for the pods goes to `prom`. -/
theorem not_reaches :
    ¬ ∀ (env : CollectorsEnv), KeepsUncased env.lower →
      ∀ (state : IncidentState) (focus : Hypothesis) (collector : String),
        Understands (collectorInput env state focus).question collector →
          selectCollector env.lower focus.text = collector := by
  intro h
  have hkube := h testLowering keepsUncased_lowerAscii
    (Intake.seedIncident Orchestrator.testIntake testLeak "default") testPodStatus collectorKube
    understands_testPodStatus
  exact absurd hkube (by decide)

end AlphE.Dispatch
