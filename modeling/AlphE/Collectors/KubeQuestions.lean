import AlphE.Collectors.Agreement
import AlphE.Lib.GoTrim

/-!
What the kube collector reads of a question. A namespace that is empty is every namespace
to the API, and an object without a name is no object: what is queried has to be in one
namespace, and what is asked for by name has to have one.
-/

namespace AlphE.Collectors

open Go

namespace Kube

/-! ### Questions about one namespace -/

/-- The text names one thing. -/
structure OneName (s : String) : Prop where
  ne_empty : s ≠ ""
  slash_notMem : '/' ∉ s.toList

/-- The query is about one namespace, and about one object if it is about an object. -/
structure ParsedQuery.Confined (pq : ParsedQuery) : Prop where
  ns : OneName pq.ns
  name : pq.kind = .podEvents ∨ pq.kind = .deployStatus → OneName pq.name

/-- `<name>` or `<namespace>/<name>`. -/
def ScopedName (arg : String) : Prop :=
  '/' ∉ arg.toList ∨ ∃ ns name, OneName ns ∧ OneName name ∧ arg = ns ++ "/" ++ name

/-- The forms that name an object. -/
def scopedForms : List (String × QueryKind) :=
  [("pod:events ", .podEvents), ("deploy:status ", .deployStatus)]

/-- What stands behind the form of a question. -/
def argument (question form : String) : String :=
  trimSpace (trimPrefix (trimSpace question) form)

/-- The argument of the question is written as its form has it. -/
structure WellFormed (question : String) : Prop where
  ns : hasPrefix (trimSpace question) "pod:status " = true →
    '/' ∉ (argument question "pod:status ").toList
  name : ∀ p ∈ scopedForms, hasPrefix (trimSpace question) p.1 = true →
    ScopedName (argument question p.1)

theorem oneName_defaultNamespace (scope : List String) : OneName (defaultNamespace scope) := by
  have hdemo : OneName "demo" := ⟨by decide, by decide⟩
  cases scope with
  | nil => exact hdemo
  | cons first rest =>
      rw [defaultNamespace]
      by_cases hslash : '/' ∈ first.toList
      · obtain ⟨before, after, hsplit, hfirst⟩ := List.eq_append_cons_of_mem hslash
        rw [cut_of_toList_eq hsplit hfirst]
        simp only
        split
        · next hne => exact ⟨hne, by rwa [String.toList_ofList]⟩
        · exact hdemo
      · rw [cut_eq_none hslash]
        simp only
        split
        · next hne => exact ⟨hne, hslash⟩
        · exact hdemo

theorem scopedName_of_slash {arg : String} {before after : List Char}
    (h : arg.toList = before ++ '/' :: after) (hfirst : '/' ∉ before) :
    ScopedName arg ↔ OneName (String.ofList before) ∧ OneName (String.ofList after) := by
  have hmem : '/' ∈ arg.toList := h ▸ List.mem_append_right _ List.mem_cons_self
  constructor
  · rintro (hnone | ⟨ns, name, hns, hname, rfl⟩)
    · exact absurd hmem hnone
    · have hchars : (ns ++ "/" ++ name).toList = ns.toList ++ '/' :: name.toList := by simp
      have hcut := cut_of_toList_eq hchars hns.slash_notMem
      rw [cut_of_toList_eq h hfirst] at hcut
      simp only [Option.some.injEq, Prod.mk.injEq, String.ofList_toList] at hcut
      rw [hcut.1, hcut.2]
      exact ⟨hns, hname⟩
  · rintro ⟨hns, hname⟩
    refine .inr ⟨_, _, hns, hname, ?_⟩
    rw [← String.toList_inj, h]
    simp

/-- What is read of an argument. -/
theorem confined_parseScopedName_iff {kind : QueryKind} {arg defaultNs : String}
    (hkind : kind = .podEvents ∨ kind = .deployStatus) (harg : trimSpace arg ≠ "")
    (hdefault : OneName defaultNs) :
    (parseScopedName kind arg defaultNs).Confined ↔ ScopedName (trimSpace arg) := by
  rw [parseScopedName]
  by_cases hslash : '/' ∈ (trimSpace arg).toList
  · obtain ⟨before, after, hsplit, hfirst⟩ := List.eq_append_cons_of_mem hslash
    rw [cut_of_toList_eq hsplit hfirst, scopedName_of_slash hsplit hfirst]
    exact ⟨fun h => ⟨h.ns, h.name hkind⟩, fun h => ⟨h.1, fun _ => h.2⟩⟩
  · rw [cut_eq_none hslash]
    exact ⟨fun _ => .inl hslash, fun _ => ⟨hdefault, fun _ => ⟨harg, hslash⟩⟩⟩

/-! ### The forms of questions -/

section Forms

variable {inp : CollectorInput}

/-- Only the trimmed question is read. -/
theorem parseQuestion_congr {inp' : CollectorInput}
    (hquestion : trimSpace inp.question = trimSpace inp'.question)
    (hscope : inp.scopeServices = inp'.scopeServices) : parseQuestion inp = parseQuestion inp' := by
  rw [parseQuestion, parseQuestion, hquestion, hscope]

theorem parseQuestion_of_status (h : hasPrefix (trimSpace inp.question) "pod:status " = true) :
    parseQuestion inp =
      { kind := .podStatus
        ns := trimSpace (trimPrefix (trimSpace inp.question) "pod:status ") } := by
  rw [parseQuestion]
  exact if_pos h

theorem scopedForms_endSpace : ∀ p ∈ scopedForms, ¬ EndsPlain p.1.toList := by decide

theorem scopedForms_kind : ∀ p ∈ scopedForms, p.2 = .podEvents ∨ p.2 = .deployStatus := by decide

/-- No question has two forms. -/
theorem not_status {q : String} {p : String × QueryKind} (hp : p ∈ scopedForms)
    (h : hasPrefix q p.1 = true) : ¬ hasPrefix q "pod:status " = true := by
  intro hstatus
  have hconflict : ∀ p ∈ scopedForms,
      ¬ p.1.toList <+: "pod:status ".toList ∧ ¬ "pod:status ".toList <+: p.1.toList := by
    decide
  obtain ⟨hshort, hlong⟩ := hconflict p hp
  exact (forms_nested h hstatus).elim hshort hlong

theorem scopedForm_unique {q : String} {p p' : String × QueryKind} (hp : p ∈ scopedForms)
    (hp' : p' ∈ scopedForms) (h : hasPrefix q p.1 = true) (h' : hasPrefix q p'.1 = true) :
    p = p' := by
  have hconflict : ∀ p ∈ scopedForms, ∀ p' ∈ scopedForms,
      p.1.toList <+: p'.1.toList → p = p' := by
    decide
  rcases forms_nested h h' with hprefix | hprefix
  · exact hconflict p hp p' hp' hprefix
  · exact (hconflict p' hp' p hp hprefix).symm

theorem parseQuestion_of_scopedForm {p : String × QueryKind} (hp : p ∈ scopedForms)
    (h : hasPrefix (trimSpace inp.question) p.1 = true) :
    parseQuestion inp =
      parseScopedName p.2 (trimPrefix (trimSpace inp.question) p.1)
        (defaultNamespace inp.scopeServices) := by
  have hstatus := not_status hp h
  rw [parseQuestion]
  simp only [hstatus, Bool.false_eq_true, if_false]
  rcases List.mem_pair.mp hp with rfl | rfl
  · exact if_pos h
  · have hevents : ¬ hasPrefix (trimSpace inp.question) "pod:events " = true := by
      intro hevents
      exact (forms_nested h hevents).elim (by decide) (by decide)
    rw [if_neg hevents, if_pos h]

theorem parseQuestion_of_free (hstatus : ¬ hasPrefix (trimSpace inp.question) "pod:status " = true)
    (hscoped : ∀ p ∈ scopedForms, ¬ hasPrefix (trimSpace inp.question) p.1 = true) :
    parseQuestion inp = { kind := .default, ns := defaultNamespace inp.scopeServices } := by
  simp only [scopedForms, List.forall_mem_cons] at hscoped
  simp only [parseQuestion, hstatus, hscoped.1, hscoped.2.1, Bool.false_eq_true, if_false]

/-- **Which questions stay in one namespace.** Those whose argument is written as the form
of the question has it; the scope does not matter. -/
theorem confined_parseQuestion_iff (inp : CollectorInput) :
    (parseQuestion inp).Confined ↔ WellFormed inp.question := by
  have hdefault := oneName_defaultNamespace inp.scopeServices
  by_cases hstatus : hasPrefix (trimSpace inp.question) "pod:status " = true
  · have harg := argument_of_form (by decide) hstatus
    rw [parseQuestion_of_status hstatus]
    constructor
    · intro h
      exact ⟨fun _ => h.ns.slash_notMem, fun p hp hform => absurd hstatus (not_status hp hform)⟩
    · intro h
      exact ⟨⟨harg, h.ns hstatus⟩, by simp⟩
  by_cases hscoped : ∃ p ∈ scopedForms, hasPrefix (trimSpace inp.question) p.1 = true
  · obtain ⟨p, hp, hform⟩ := hscoped
    have harg := argument_of_form (scopedForms_endSpace p hp) hform
    rw [parseQuestion_of_scopedForm hp hform,
      confined_parseScopedName_iff (scopedForms_kind p hp) harg hdefault]
    constructor
    · intro h
      refine ⟨fun hstatus' => absurd hstatus' hstatus, fun p' hp' hform' => ?_⟩
      rwa [scopedForm_unique hp' hp hform' hform]
    · intro h
      exact h.name p hp hform
  · have hfree : ∀ p ∈ scopedForms, ¬ hasPrefix (trimSpace inp.question) p.1 = true :=
      fun p hp hform => hscoped ⟨p, hp, hform⟩
    rw [parseQuestion_of_free hstatus hfree]
    constructor
    · intro _
      exact ⟨fun h => absurd h hstatus, fun p hp hform => absurd hform (hfree p hp)⟩
    · intro _
      exact ⟨hdefault, by simp⟩

/-- Of a question that begins its argument with a slash every namespace is searched. -/
theorem not_confined_parseQuestion : ¬ ∀ inp : CollectorInput, (parseQuestion inp).Confined := by
  intro h
  have hns := (h { testRequest with question := "pod:events /web-0" }).ns.ne_empty
  exact hns (by decide)

end Forms

end Kube

end AlphE.Collectors
