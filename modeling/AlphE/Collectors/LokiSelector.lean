import AlphE.Collectors.LokiSyntax
import AlphE.Lib.Re2

/-!
Which streams the selector of the loki collector matches. A scope names a namespace and
services in one of three ways; a dot in a name matches any character, and a namespace
in front of a later entry stays in the pattern.
-/

namespace AlphE.Collectors

open Go QueryLex

namespace Loki

/-! ### Streams -/

/-- A selector matches the streams of an app in a namespace. -/
def Selects (dotAll : Bool) (selector n v : String) : Prop :=
  ∃ nsLit appLit, lex logQL selector.toList = some (selectorItems nsLit appLit) ∧
    unquote nsLit = some (bytes (utf8 n)) ∧
    ∀ app ∈ appLit, ∃ pattern : String, unquote app = some (bytes (utf8 pattern)) ∧
      Re2.Matches dotAll pattern.toList v.toList

theorem selectorItems_injective {ns ns' : List Char} {app app' : Option (List Char)}
    (h : selectorItems ns app = selectorItems ns' app') : ns = ns' ∧ app = app' := by
  cases app with
  | none =>
      cases app' with
      | none => simpa [selectorItems, matcherItems] using h
      | some text' => simp [selectorItems, matcherItems, op] at h
  | some text =>
      cases app' with
      | none => simp [selectorItems, matcherItems, op] at h
      | some text' => simpa [selectorItems, matcherItems] using h

section Selector

variable (isPrint : Char → Bool) (ns : String) (services : List String)

theorem lex_buildSelector :
    lex logQL (buildSelector isPrint ns services).toList =
      some (selectorItems (quote isPrint (utf8 ns)).toList (appLiteral isPrint services)) :=
  lex_of_run (run_buildSelector isPrint ns services Mode.ready_between) (Mode.ready_operator _)

/-- The namespace has to be the same, the app to match the pattern. -/
theorem selects_buildSelector_iff (dotAll : Bool) (hne : services ≠ []) (n v : String) :
    Selects dotAll (buildSelector isPrint ns services) n v ↔
      n = ns ∧ Re2.Matches dotAll (String.intercalate "|" services).toList v.toList := by
  have happ : appLiteral isPrint services =
      some (quote isPrint (utf8 (String.intercalate "|" services))).toList := if_neg hne
  constructor
  · rintro ⟨nsLit, appLit, hlex, hns, hpattern⟩
    rw [lex_buildSelector, Option.some.injEq] at hlex
    obtain ⟨rfl, rfl⟩ := selectorItems_injective hlex
    rw [unquote_quote, Option.some.injEq] at hns
    obtain ⟨pattern, hunquote, hmatches⟩ := hpattern _ happ
    rw [unquote_quote, Option.some.injEq] at hunquote
    rw [bytes_utf8_injective hunquote]
    exact ⟨(bytes_utf8_injective hns).symm, hmatches⟩
  · rintro ⟨rfl, hmatches⟩
    refine ⟨_, _, lex_buildSelector isPrint n services, unquote_quote isPrint _, ?_⟩
    intro app h
    exact ⟨_, unquote_appLiteral isPrint services h, hmatches⟩

end Selector

/-! ### Scopes -/

/-- Letters, digits, dashes, underscores and dots. -/
def isNameChar (c : Char) : Bool := c.isAlphanum || c = '-' || c = '_' || c = '.'

def NameText (s : String) : Prop := ∀ c ∈ s.toList, isNameChar c = true

/-- The ways of writing a namespace and its services. -/
inductive Written (ns : String) (services : List String) : List String → Prop
  | listed : Written ns services (ns :: services)
  | first {s : String} {rest : List String} (h : services = s :: rest) :
      Written ns services ((ns ++ "/" ++ s) :: rest)
  | each : Written ns services (services.map fun s => ns ++ "/" ++ s)

theorem NameText.slash_notMem {s : String} (h : NameText s) : '/' ∉ s.toList := by
  intro hmem
  exact absurd (h '/' hmem) (by decide)

theorem toNat_of_isNameChar {c : Char} (h : isNameChar c = true) :
    0x2d ≤ c.toNat ∧ c.toNat ≤ 0x7a := by
  have halpha : c.isAlpha = (c.isUpper || c.isLower) := rfl
  have hupper : c.isUpper = decide (c.val ≥ 65 ∧ c.val ≤ 90) := rfl
  have hlower : c.isLower = (c.val ≥ 97 && c.val ≤ 122) := rfl
  simp only [isNameChar, Char.isAlphanum, halpha, hupper, hlower, Char.isDigit, Bool.or_eq_true,
    Bool.and_eq_true, decide_eq_true_eq, ge_iff_le, UInt32.le_iff_toNat_le] at h
  rcases h with ((((⟨hlow, hhigh⟩ | ⟨hlow, hhigh⟩) | ⟨hlow, hhigh⟩) | rfl) | rfl) | rfl
  · exact ⟨le_trans (by decide) hlow, le_trans hhigh (by decide)⟩
  · exact ⟨le_trans (by decide) hlow, le_trans hhigh (by decide)⟩
  · exact ⟨le_trans (by decide) hlow, le_trans hhigh (by decide)⟩
  · decide
  · decide
  · decide

theorem isSpace_of_isNameChar {c : Char} (h : isNameChar c = true) : Go.isSpace c = false := by
  obtain ⟨hlow, hhigh⟩ := toNat_of_isNameChar h
  simp only [Go.isSpace, Bool.or_eq_false_iff, Bool.and_eq_false_iff, decide_eq_false_iff_not]
  omega

/-- Nothing is trimmed off a name. -/
theorem NameText.trimSpace_eq {s : String} (h : NameText s) : trimSpace s = s :=
  Go.trimSpace_of_no_space fun c hc => isSpace_of_isNameChar (h c hc)

/-- An entry with a slash is split. -/
theorem namespaceAndServices_slash {ns s : String} (hns : NameText ns) (hs : NameText s)
    (hne : s ≠ "") (rest : List String) :
    namespaceAndServices ((ns ++ "/" ++ s) :: rest) = (ns, s :: rest) := by
  have hcut : cut (ns ++ "/" ++ s) '/' = some (ns, s) := by
    have hchars : (ns ++ "/" ++ s).toList = ns.toList ++ '/' :: s.toList := by
      rw [String.toList_append, String.toList_append, List.append_assoc]
      rfl
    rw [cut_of_toList_eq hchars hns.slash_notMem, String.ofList_toList, String.ofList_toList]
  simp only [namespaceAndServices, hcut, hs.trimSpace_eq]
  rw [if_pos hne]

section Scope

variable {ns : String} {services scope : List String} (hns : NameText ns)
  (hnames : ∀ s ∈ services, NameText s ∧ s ≠ "") (hne : services ≠ [])
  (hscope : Written ns services scope)

include hns hnames hne hscope

/-- The namespace is found; the entries after the first are left as they are. -/
theorem namespaceAndServices_written :
    ∃ names, namespaceAndServices scope = (ns, names) ∧ names ≠ [] ∧
      (∀ entry ∈ scope.tail, entry ∈ names) ∧
      (∀ name ∈ names, name ∈ services ∨ ∃ s ∈ services, name = ns ++ "/" ++ s) ∧
      ((∀ entry ∈ scope.tail, '/' ∉ entry.toList) → names = services) := by
  cases hscope with
  | listed =>
      have hcut : cut ns '/' = none := cut_eq_none hns.slash_notMem
      refine ⟨services, ?_, hne, fun _ => id, fun _ => .inl, fun _ => rfl⟩
      simp only [namespaceAndServices, hcut]
  | first h =>
      subst h
      obtain ⟨hs, hempty⟩ := hnames _ List.mem_cons_self
      exact ⟨_, namespaceAndServices_slash hns hs hempty _, hne,
        fun _ => List.mem_cons_of_mem _, fun _ => .inl, fun _ => rfl⟩
  | each =>
      cases services with
      | nil => exact absurd rfl hne
      | cons s rest =>
          -- Only the first entry is split; the others keep their namespace.
          obtain ⟨hs, hempty⟩ := hnames _ List.mem_cons_self
          refine ⟨_, namespaceAndServices_slash hns hs hempty _, List.cons_ne_nil _ _,
            fun _ => List.mem_cons_of_mem _, ?_, ?_⟩
          · intro name hname
            rcases List.mem_cons.mp hname with rfl | hname
            · exact .inl List.mem_cons_self
            · obtain ⟨other, hother, rfl⟩ := List.mem_map.mp hname
              exact .inr ⟨other, List.mem_cons_of_mem _ hother, rfl⟩
          · intro htail
            cases rest with
            | nil => rfl
            | cons other rest =>
                have hslash : '/' ∈ (ns ++ "/" ++ other).toList := by simp
                exact absurd hslash (htail _ List.mem_cons_self)

end Scope

/-! ### Which scopes are selected exactly -/

section Exact

variable {dotAll : Bool}

theorem simple_of_nameChars {cs : List Char} (h : ∀ c ∈ cs, isNameChar c = true ∨ c = '/') :
    Re2.Simple cs := by
  have hslash : (('|' :: Re2.metaChars).all fun c => !(isNameChar c || c == '/')) = true := by
    decide
  have hplain : ∀ c ∈ cs, c ∉ '|' :: Re2.metaChars := by
    intro c hc hmeta
    have hnone := List.all_eq_true.mp hslash c hmeta
    rcases h c hc with hname | rfl
    · rw [hname] at hnone
      cases hnone
    · rw [beq_self_eq_true, Bool.or_true] at hnone
      cases hnone
  intro c hc
  exact ⟨fun hbar => hplain c hc (hbar ▸ List.mem_cons_self),
    fun hmeta => hplain c hc (List.mem_cons_of_mem _ hmeta)⟩

/-- A pattern of names matches each of them, with anything for its dots. -/
theorem matches_names_iff {names : List String} (hne : names ≠ [])
    (hchars : ∀ name ∈ names, ∀ c ∈ name.toList, isNameChar c = true ∨ c = '/') (v : String) :
    Re2.Matches dotAll (String.intercalate "|" names).toList v.toList ↔
      ∃ name ∈ names,
        List.Forall₂ (Re2.Atom.Matches dotAll) (name.toList.map Re2.plainAtom) v.toList := by
  have hbar : "|".toList = ['|'] := rfl
  have hsimple : ∀ name ∈ names.map String.toList, Re2.Simple name := by
    intro cs hcs
    obtain ⟨name, hname, rfl⟩ := List.mem_map.mp hcs
    exact simple_of_nameChars (hchars name hname)
  rw [String.toList_intercalate, hbar,
    Re2.matches_intercalate_iff (by simpa using hne) hsimple]
  simp only [List.mem_map, exists_exists_and_eq_and]

variable (isPrint : Char → Bool) {ns : String} {services scope : List String}

/-- **Which scopes are selected exactly.** Those where no service has a dot in its name
and no entry but the first has a slash. -/
theorem selects_exactly_iff (dotAll : Bool) (hns : NameText ns)
    (hnames : ∀ s ∈ services, NameText s ∧ s ≠ "") (hne : services ≠ [])
    (hscope : Written ns services scope) :
    (∀ n v, Selects dotAll (buildSelector isPrint (namespaceAndServices scope).1
        (namespaceAndServices scope).2) n v ↔ n = ns ∧ v ∈ services) ↔
      (∀ s ∈ services, '.' ∉ s.toList) ∧ ∀ entry ∈ scope.tail, '/' ∉ entry.toList := by
  obtain ⟨names, hsplit, hnonempty, htail, horigin, hsame⟩ :=
    namespaceAndServices_written hns hnames hne hscope
  have hchars : ∀ name ∈ names, ∀ c ∈ name.toList, isNameChar c = true ∨ c = '/' := by
    intro name hname c hc
    rcases horigin name hname with hservice | ⟨s, hs, rfl⟩
    · exact .inl ((hnames name hservice).1 c hc)
    · rw [String.toList_append, String.toList_append, List.append_assoc, List.mem_append] at hc
      rcases hc with hc | hc
      · exact .inl (hns c hc)
      · rcases List.mem_cons.mp hc with rfl | hc
        · exact .inr rfl
        · exact .inl ((hnames s hs).1 c hc)
  simp only [hsplit, selects_buildSelector_iff isPrint ns names dotAll hnonempty,
    matches_names_iff hnonempty hchars]
  constructor
  · intro h
    -- Each name is matched by itself, with whatever stands for its dots.
    have hmatched : ∀ name ∈ names, ∀ d : Char, d ≠ '\n' →
        String.ofList (name.toList.map fun c => if c = '.' then d else c) ∈ services := by
      intro name hname d hd
      refine ((h ns _).mp ⟨rfl, name, hname, ?_⟩).2
      rw [String.toList_ofList]
      exact Re2.forall₂_plainAtom_map dotAll hd name.toList
    have hslash : ∀ entry ∈ scope.tail, '/' ∉ entry.toList := by
      intro entry hentry hmem
      have hself := hmatched entry (htail entry hentry) '.' (by decide)
      apply (hnames _ hself).1.slash_notMem
      rw [String.toList_ofList]
      exact List.mem_map.mpr ⟨'/', hmem, rfl⟩
    refine ⟨fun s hs hdot => ?_, hslash⟩
    have hother := hmatched s (hsame hslash ▸ hs) '/' (by decide)
    apply (hnames _ hother).1.slash_notMem
    rw [String.toList_ofList]
    exact List.mem_map.mpr ⟨'.', hdot, rfl⟩
  · -- Without a dot an alternative is the name itself.
    rintro ⟨hdot, hslash⟩ n v
    rw [hsame hslash]
    refine and_congr_right fun _ => ⟨?_, fun hv => ⟨v, hv, ?_⟩⟩
    · rintro ⟨name, hname, hmatches⟩
      rw [Re2.forall₂_plainAtom_iff (hdot name hname), String.toList_inj] at hmatches
      rwa [hmatches]
    · rw [Re2.forall₂_plainAtom_iff (hdot v hv)]

end Exact

/-! ### A version in a name -/

theorem nameText_iff {s : String} : NameText s ↔ s.toList.all isNameChar = true :=
  List.all_eq_true.symm

theorem selects_exactly_iff_prod :
    (∀ n v, Selects false (buildSelector (fun _ => true)
        (namespaceAndServices ["prod/api", "web"]).1
        (namespaceAndServices ["prod/api", "web"]).2) n v ↔ n = "prod" ∧ v ∈ ["api", "web"]) ↔
      (∀ s ∈ ["api", "web"], '.' ∉ s.toList) ∧
        ∀ entry ∈ ["prod/api", "web"].tail, '/' ∉ entry.toList := by
  refine selects_exactly_iff (fun _ => true) false (nameText_iff.mpr (by decide)) ?_
    (List.cons_ne_nil _ _) (.first rfl)
  intro s hs
  rcases List.mem_pair.mp hs with rfl | rfl
  · exact ⟨nameText_iff.mpr (by decide), by decide⟩
  · exact ⟨nameText_iff.mpr (by decide), by decide⟩

theorem not_selects_exactly :
    ¬ ∀ (isPrint : Char → Bool) (dotAll : Bool) (ns : String) (services scope : List String),
      NameText ns → (∀ s ∈ services, NameText s ∧ s ≠ "") → services ≠ [] →
      Written ns services scope →
      ∀ n v, Selects dotAll (buildSelector isPrint (namespaceAndServices scope).1
        (namespaceAndServices scope).2) n v ↔ n = ns ∧ v ∈ services := by
  intro h
  have hns : NameText "prod" := nameText_iff.mpr (by decide)
  have hname : NameText "api.v1" := nameText_iff.mpr (by decide)
  have hselects := h (fun _ => true) false "prod" ["api.v1"] ["prod", "api.v1"] hns
    (List.forall_mem_singleton.mpr ⟨hname, by decide⟩) (List.cons_ne_nil _ _) .listed
    "prod" "api-v1"
  have hmatches : List.Forall₂ (Re2.Atom.Matches false)
      ("api.v1".toList.map Re2.plainAtom) "api-v1".toList :=
    Re2.forall₂_plainAtom_map false (by decide : '-' ≠ '\n') "api.v1".toList
  have hsplit : namespaceAndServices ["prod", "api.v1"] = ("prod", ["api.v1"]) := by decide
  rw [hsplit, selects_buildSelector_iff _ _ _ _ (List.cons_ne_nil _ _)] at hselects
  have hchars : ∀ name ∈ ["api.v1"], ∀ c ∈ name.toList, isNameChar c = true ∨ c = '/' :=
    List.forall_mem_singleton.mpr fun c hc => .inl (hname c hc)
  have hmem := (hselects.mp ⟨rfl, (matches_names_iff (List.cons_ne_nil _ _) hchars _).mpr
    ⟨_, List.mem_cons_self, hmatches⟩⟩).2
  exact absurd hmem (by decide)

end Loki

end AlphE.Collectors
