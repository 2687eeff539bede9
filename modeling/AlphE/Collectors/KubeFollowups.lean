import AlphE.Collectors.KubeQuestions
import AlphE.Lib.Separators

/-!
What the kube collector suggests to ask next. A suggestion is a command and, behind a
dash, what it is good for; the command has a placeholder for the name of an object. The
suggestions are made with the first entry of the scope, which is a namespace or one with
a service behind a slash.
-/

namespace AlphE.Collectors

open Go Separators

namespace Kube

/-! ### Commands -/

/-- A form that is suggested, with what stands for the name. -/
structure Command where
  word : String
  placeholder : String
  hint : String
  kind : QueryKind
  deriving DecidableEq, Repr

def commands : List Command :=
  [{ word := "pod:events", placeholder := "<pod-name>", hint := "check per-pod OOM events"
     kind := .podEvents },
   { word := "deploy:status", placeholder := "<name>", hint := "check rollout health"
     kind := .deployStatus }]

/-- The suggestion of a command in the scope `s`. -/
def Command.followup (c : Command) (s : String) : String :=
  c.word ++ " " ++ s ++ "/" ++ c.placeholder ++ " -- " ++ c.hint

/-- What stands between a command and its hint. -/
abbrev dash : List Char := [' ', '-', '-', ' ']

/-- The text before the dash. -/
def commandPart (followup : String) : String :=
  String.ofList (before dash followup.toList)

/-- The command with a name in the place of the placeholder it ends with. -/
def fillIn (placeholder name command : String) : String :=
  if placeholder.toList.isSuffixOf command.toList then
    String.ofList (command.toList.take (command.length - placeholder.length)) ++ name
  else command

/-- A text that can be the name of an object: no white space ends it. -/
structure ObjectName (name : String) : Prop extends OneName name where
  plain : EndsPlain name.toList

/-- The command of the suggestion, with any of the names in it and in any scope, asks for
that name where the question looked. -/
def Understood (Named : String → Prop) (asked : CollectorInput) (followup : String) : Prop :=
  ∀ c ∈ commands, hasPrefix (commandPart followup) c.word = true →
    ∀ (name : String) (inp : CollectorInput), Named name →
      inp.question = fillIn c.placeholder name (commandPart followup) →
      parseQuestion inp = { kind := c.kind, ns := (parseQuestion asked).ns, name := name }

/-- It is with fewer names. -/
theorem Understood.mono {Named Named' : String → Prop} {asked : CollectorInput}
    {followup : String} (h : Understood Named asked followup)
    (hsub : ∀ name, Named' name → Named name) : Understood Named' asked followup := by
  intro c hc hbegins name inp hname hquestion
  exact h c hc hbegins name inp (hsub name hname) hquestion

theorem toList_followup (c : Command) (s : String) :
    (c.followup s).toList =
      c.word.toList ++ ((' ' :: s.toList) ++ '/' :: (c.placeholder.toList ++
        (dash ++ c.hint.toList))) := by
  simp [Command.followup]

theorem fillIn_append (placeholder name command : String) :
    fillIn placeholder name (command ++ placeholder) = command ++ name := by
  have hsuffix : placeholder.toList.isSuffixOf (command ++ placeholder).toList = true := by
    rw [String.toList_append, List.isSuffixOf_iff_suffix]
    exact List.suffix_append _ _
  rw [fillIn, if_pos hsuffix, String.length_append, Nat.add_sub_cancel, String.toList_append,
    ← String.length_toList, List.take_left, String.ofList_toList]

/-! ### Commands read back -/

section Parse

variable {c : Command} {s name : String} {inp asked : CollectorInput}

theorem commands_scopedForms : ∀ c ∈ commands, (c.word ++ " ", c.kind) ∈ scopedForms := by
  decide

theorem commands_word : ∀ c ∈ commands, c.word.toList ≠ [] ∧
    (∀ d ∈ c.word.toList, isSpace d = false) ∧ ' ' ∉ c.placeholder.toList := by
  have hall : ∀ c ∈ commands, c.word.toList ≠ [] ∧
      (c.word.toList.all fun d => !isSpace d) = true ∧ ' ' ∉ c.placeholder.toList := by
    decide
  intro c hc
  obtain ⟨hne, hspace, hplaceholder⟩ := hall c hc
  refine ⟨hne, fun d hd => ?_, hplaceholder⟩
  simpa using List.all_eq_true.mp hspace d hd

variable (hc : c ∈ commands) (hname : ObjectName name)
  (h : inp.question = c.word ++ " " ++ (s ++ "/" ++ name))

include hc hname h

/-- A command with a name is not trimmed. -/
theorem trimSpace_command : trimSpace inp.question = inp.question := by
  have hquestion : inp.question.toList =
      c.word.toList ++ (' ' :: (s.toList ++ '/' :: name.toList)) := by
    simp [h]
  have hchars : name.toList ≠ [] := fun hnil => hname.ne_empty (String.toList_eq_nil_iff.mp hnil)
  obtain ⟨hword, hplain, -⟩ := commands_word c hc
  have hend : EndsPlain inp.question.toList := by
    have hsuffix : name.toList <:+ inp.question.toList := by
      rw [h, String.toList_append, String.toList_append, String.toList_append]
      exact (List.suffix_append _ _).trans (List.suffix_append _ _)
    obtain ⟨front, hfront⟩ := hsuffix
    exact hfront ▸ hname.plain.append hchars front
  have hhead : ∀ d ∈ inp.question.toList.head?, isSpace d = false := by
    intro d hd
    rw [hquestion, List.head?_append_of_ne_nil _ hword] at hd
    exact hplain d (List.mem_of_mem_head? hd)
  rw [trimSpace_of_endsPlain hend, trimLeft_of_head hhead]

/-- What is behind the word is read, whatever the scope is. -/
theorem parseQuestion_command :
    parseQuestion inp =
      parseScopedName c.kind (s ++ "/" ++ name) (defaultNamespace inp.scopeServices) := by
  have hform : hasPrefix (trimSpace inp.question) (c.word ++ " ") = true := by
    rw [trimSpace_command hc hname h, h]
    exact hasPrefix_append _ _
  rw [parseQuestion_of_scopedForm (commands_scopedForms c hc) hform,
    trimSpace_command hc hname h, h, trimPrefix_append]

omit hc h in
theorem toList_trimSpace_scoped :
    (trimSpace (s ++ "/" ++ name)).toList = (trimLeft s).toList ++ '/' :: name.toList := by
  have hchars : name.toList ≠ [] := fun hnil => hname.ne_empty (String.toList_eq_nil_iff.mp hnil)
  have hscoped : (s ++ "/" ++ name).toList = s.toList ++ '/' :: name.toList := by simp
  have hend : EndsPlain (s ++ "/" ++ name).toList := by
    rw [String.toList_append]
    exact hname.plain.append hchars _
  rw [trimSpace_of_endsPlain hend, toList_trimLeft, toList_trimLeft, hscoped,
    dropWhile_append_cons (by decide)]

/-- With one slash it is read as it was written, spaces in front apart. -/
theorem parseQuestion_of_namespace (hslash : '/' ∉ s.toList) :
    parseQuestion inp = { kind := c.kind, ns := trimLeft s, name := name } := by
  have hfirst : '/' ∉ (trimLeft s).toList := by
    rwa [toList_trimLeft, mem_dropWhile_iff (by decide)]
  rw [parseQuestion_command hc hname h, parseScopedName,
    cut_of_toList_eq (toList_trimSpace_scoped hname) hfirst, String.ofList_toList,
    String.ofList_toList]

/-- With another slash in front the name is read with what stands before it. -/
theorem slash_mem_name (hslash : '/' ∈ s.toList) : '/' ∈ (parseQuestion inp).name.toList := by
  have hmem : '/' ∈ (trimLeft s).toList := by
    rwa [toList_trimLeft, mem_dropWhile_iff (by decide)]
  obtain ⟨front, back, hsplit, hfirst⟩ := List.eq_append_cons_of_mem hmem
  have hwhole : (trimSpace (s ++ "/" ++ name)).toList =
      front ++ '/' :: (back ++ '/' :: name.toList) := by
    rw [toList_trimSpace_scoped hname, hsplit, List.append_assoc, List.cons_append]
  rw [parseQuestion_command hc hname h, parseScopedName, cut_of_toList_eq hwhole hfirst,
    String.toList_ofList]
  exact List.mem_append_right _ List.mem_cons_self

end Parse

/-! ### Suggestions read back -/

section Followup

variable {c : Command} {s : String} {asked : CollectorInput}

theorem space_notMem_word (hc : c ∈ commands) : ' ' ∉ c.word.toList := by
  intro hmem
  exact absurd ((commands_word c hc).2.1 ' ' hmem) (by decide)

/-- A suggestion begins with its command. -/
theorem begins_followup (hc : c ∈ commands) (s : String) :
    hasPrefix (commandPart (c.followup s)) c.word = true := by
  rw [commandPart, toList_followup, before_append_of_notMem (space_notMem_word hc),
    String.ofList_append, String.ofList_toList]
  exact hasPrefix_append _ _

/-- The suggestion up to its hint, unless the scope holds what a hint begins with. -/
theorem commandPart_followup (hc : c ∈ commands)
    (hsep : ¬ dash <:+: ' ' :: s.toList) :
    commandPart (c.followup s) = c.word ++ " " ++ s ++ "/" ++ c.placeholder := by
  rw [← String.toList_inj, commandPart, String.toList_ofList, toList_followup,
    before_append_of_notMem (space_notMem_word hc), before_append_cons (by decide) hsep,
    before_append_of_notMem (commands_word c hc).2.2,
    before_of_isPrefix (List.prefix_append _ _)]
  simp

theorem commandPart_of_dash (hc : c ∈ commands) (hsep : dash <:+: ' ' :: s.toList) :
    commandPart (c.followup s) =
      c.word ++ String.ofList (before dash (' ' :: s.toList)) := by
  rw [commandPart, toList_followup, before_append_of_notMem (space_notMem_word hc),
    before_append_of_isInfix hsep, String.ofList_append, String.ofList_toList]

/-- The placeholder is not part of the word. -/
theorem suffix_of_command (hc : c ∈ commands) {cs : List Char}
    (h : c.placeholder.toList <:+ c.word.toList ++ cs) : c.placeholder.toList <:+ cs := by
  have hhead : ∀ c ∈ commands, c.placeholder.toList = '<' :: c.placeholder.toList.tail ∧
      '<' ∉ c.word.toList := by
    decide
  obtain ⟨hplaceholder, hword⟩ := hhead c hc
  rw [hplaceholder] at h ⊢
  exact suffix_of_suffix_append h hword

theorem commands_unique {q : String} {c' : Command} (hc : c ∈ commands) (hc' : c' ∈ commands)
    (h : hasPrefix q c.word = true) (h' : hasPrefix q c'.word = true) : c = c' := by
  have hconflict : ∀ c ∈ commands, ∀ c' ∈ commands,
      c.word.toList <+: c'.word.toList → c = c' := by
    decide
  rcases forms_nested h h' with hprefix | hprefix
  · exact hconflict c hc c' hc' hprefix
  · exact (hconflict c' hc' c hc hprefix).symm

/-- What does not begin with a command is not meant as one. -/
theorem understood_of_free {Named : String → Prop} {followup : String}
    (h : ∀ c ∈ commands, hasPrefix followup c.word = false) :
    Understood Named asked followup := by
  intro c hc hbegins
  have hprefix : (commandPart followup).toList <+: followup.toList := by
    rw [commandPart, String.toList_ofList]
    exact before_isPrefix _ _
  have hwhole := hasPrefix_iff.mpr ((hasPrefix_iff.mp hbegins).trans hprefix)
  rw [h c hc] at hwhole
  cases hwhole

/-- A suggestion is understood where its scope is the namespace that was looked in. -/
theorem understood_followup_iff (hc : c ∈ commands)
    (hsep : ¬ dash <:+: ' ' :: s.toList) :
    Understood ObjectName asked (c.followup s) ↔
      '/' ∉ s.toList ∧ trimLeft s = (parseQuestion asked).ns := by
  have hpart := commandPart_followup hc hsep
  have hbegins := begins_followup hc s
  have hfilled : ∀ name, fillIn c.placeholder name (commandPart (c.followup s)) =
      c.word ++ " " ++ (s ++ "/" ++ name) := by
    intro name
    rw [hpart, fillIn_append]
    simp only [String.append_assoc]
  constructor
  · intro h
    have hx : ObjectName "x" := ⟨⟨by decide, by decide⟩, by decide⟩
    let inp : CollectorInput := { asked with question := c.word ++ " " ++ (s ++ "/" ++ "x") }
    have hparse := h c hc hbegins "x" inp hx (hfilled "x").symm
    by_cases hslash : '/' ∈ s.toList
    · have hmem : '/' ∈ (parseQuestion inp).name.toList := slash_mem_name hc hx rfl hslash
      rw [hparse] at hmem
      exact absurd hmem hx.slash_notMem
    · rw [parseQuestion_of_namespace hc hx rfl hslash, ParsedQuery.mk.injEq] at hparse
      exact ⟨hslash, hparse.2.1⟩
  · rintro ⟨hslash, hns⟩ c' hc' hbegins' name inp hname hquestion
    obtain rfl := commands_unique hc hc' hbegins hbegins'
    rw [hfilled] at hquestion
    rw [parseQuestion_of_namespace hc hname hquestion hslash, hns]

/-- With a dash in the scope there is no place for a name in one of the commands. -/
theorem not_understood_of_dash (hsep : dash <:+: ' ' :: s.toList) :
    ¬ ∀ c ∈ commands, Understood ObjectName asked (c.followup s) := by
  intro h
  have hsuffix : ∀ c ∈ commands, c.placeholder.toList <:+ before dash (' ' :: s.toList) := by
    intro c hc
    have hpart := commandPart_of_dash hc hsep
    have hbegins := begins_followup hc s
    by_contra hnot
    have hconst : ∀ name, fillIn c.placeholder name (commandPart (c.followup s)) =
        commandPart (c.followup s) := by
      intro name
      rw [fillIn, if_neg]
      rw [List.isSuffixOf_iff_suffix, hpart, String.toList_append, String.toList_ofList]
      exact fun hwhole => hnot (suffix_of_command hc hwhole)
    -- The same question cannot ask for two names.
    let inp : CollectorInput := { asked with question := commandPart (c.followup s) }
    have hx := h c hc c hc hbegins "x" inp ⟨⟨by decide, by decide⟩, by decide⟩ (hconst "x").symm
    have hy := h c hc c hc hbegins "y" inp ⟨⟨by decide, by decide⟩, by decide⟩ (hconst "y").symm
    have hsame := congrArg ParsedQuery.name (hx.symm.trans hy)
    exact absurd hsame (by decide : ("x" : String) ≠ "y")
  have hpod : "<pod-name>".toList <:+ before dash (' ' :: s.toList) :=
    hsuffix _ List.mem_cons_self
  have hname : "<name>".toList <:+ before dash (' ' :: s.toList) :=
    hsuffix _ (List.mem_cons_of_mem _ List.mem_cons_self)
  have hnested := List.suffix_of_suffix_length_le hname hpod (by decide)
  exact absurd hnested (by decide)

/-- Both commands are understood in the namespace that was looked in, and in no other
scope. -/
theorem understood_commands_iff :
    (∀ c ∈ commands, Understood ObjectName asked (c.followup s)) ↔
      '/' ∉ s.toList ∧ ¬ dash <:+: ' ' :: s.toList ∧ trimLeft s = (parseQuestion asked).ns := by
  by_cases hsep : dash <:+: ' ' :: s.toList
  · exact iff_of_false (not_understood_of_dash hsep) fun h => h.2.1 hsep
  · constructor
    · intro h
      obtain ⟨hslash, hns⟩ :=
        (understood_followup_iff List.mem_cons_self hsep).mp (h _ List.mem_cons_self)
      exact ⟨hslash, hsep, hns⟩
    · rintro ⟨hslash, -, hns⟩ c hc
      exact (understood_followup_iff hc hsep).mpr ⟨hslash, hns⟩

/-- White space at the end of a name is lost with that of the question. -/
theorem trimSpace_fillIn (placeholder name command : String) :
    trimSpace (fillIn placeholder (name ++ " ") command) =
      trimSpace (fillIn placeholder name command) := by
  unfold fillIn
  split
  · rw [← String.append_assoc, trimSpace_append_space]
  · rfl

theorem not_understood_oneName (hc : c ∈ commands) :
    ¬ Understood OneName asked (c.followup s) := by
  intro h
  let part := commandPart (c.followup s)
  let asks (name : String) : CollectorInput :=
    { asked with question := fillIn c.placeholder name part }
  have hx := h c hc (begins_followup hc s) "x" (asks "x") ⟨by decide, by decide⟩ rfl
  have hspace := h c hc (begins_followup hc s) "x " (asks "x ") ⟨by decide, by decide⟩ rfl
  have hsame : parseQuestion (asks "x ") = parseQuestion (asks "x") :=
    parseQuestion_congr (trimSpace_fillIn c.placeholder "x" part) rfl
  rw [hx, hspace, ParsedQuery.mk.injEq] at hsame
  exact absurd hsame.2.2 (by decide)

end Followup

/-! ### What is suggested -/

theorem readConfidence_of_ne {kind : QueryKind} (h : kind ≠ .deployStatus) :
    readConfidence kind = 1 / 2 := by
  cases kind with
  | deployStatus => exact absurd rfl h
  | podStatus => rfl
  | podEvents => rfl
  | default => rfl

theorem suggestedFollowups_of_list {inp : CollectorInput} {dr : DispatchResult} {s : String}
    {rest : List String} (hscope : inp.scopeServices = s :: rest)
    (hconfidence : dr.confidence = .fin (1 / 2)) :
    suggestedFollowups inp dr = some (commands.map fun c => c.followup s) := by
  have hzero : dr.confidence.eq (.fin 0) = false := by
    rw [hconfidence]
    norm_num [Float64.eq]
  have hone : dr.confidence.lt (.fin 1) = true := by
    rw [hconfidence]
    norm_num [Float64.lt]
  simp [suggestedFollowups, hscope, hzero, hone, commands, Command.followup,
    ← String.toList_inj]

/-- The suggestions after an error are no commands. -/
theorem understood_of_error {inp : CollectorInput} {dr : DispatchResult}
    (h : dr.confidence = .fin 0) (Named : String → Prop) :
    ∀ followup ∈ (suggestedFollowups inp dr).getD [], Understood Named inp followup := by
  have hfree : ∀ followup ∈
      ["verify RBAC permissions: kubectl auth can-i list pods --as=<serviceaccount>",
        "check kubeconfig path in KUBECONFIG_AGENT / KUBECONFIG env vars"],
      ∀ c ∈ commands, hasPrefix followup c.word = false := by
    decide
  have hlist : suggestedFollowups inp dr = some
      ["verify RBAC permissions: kubectl auth can-i list pods --as=<serviceaccount>",
        "check kubeconfig path in KUBECONFIG_AGENT / KUBECONFIG env vars"] := by
    rw [suggestedFollowups, h]
    exact if_pos (by decide)
  intro followup hmem
  rw [hlist] at hmem
  exact understood_of_free (hfree followup hmem)

section Dispatched

variable (isPrint : Char → Bool) (cs : Clientset) (inp : CollectorInput)

/-- The suggestions with the answer of `dispatch`. -/
def suggested : List String := (suggestedFollowups inp (dispatch isPrint cs inp)).getD []

theorem understood_suggested_of_error (h : apiError cs (parseQuestion inp) ≠ none)
    (Named : String → Prop) :
    ∀ followup ∈ suggested isPrint cs inp, Understood Named inp followup := by
  obtain ⟨err, herr⟩ := Option.ne_none_iff_exists'.mp h
  have hzero : (dispatch isPrint cs inp).confidence = .fin 0 := by
    rw [dispatch, dispatchQuery_of_error isPrint herr]
    rfl
  exact understood_of_error hzero Named

theorem suggested_eq_nil (h : apiError cs (parseQuestion inp) = none)
    (hnone : (parseQuestion inp).kind = .deployStatus ∨ inp.scopeServices = []) :
    suggested isPrint cs inp = [] := by
  obtain ⟨-, hconfidence, -⟩ := dispatchQuery_of_read isPrint h
  have hsome : suggestedFollowups inp (dispatch isPrint cs inp) ≠ none ↔
      (parseQuestion inp).kind ≠ .deployStatus ∧ inp.scopeServices ≠ [] :=
    suggestedFollowups_of_read hconfidence
  rw [← not_iff_not, not_ne_iff, not_and_or, not_ne_iff, not_ne_iff] at hsome
  rw [suggested, hsome.mpr hnone, Option.getD_none]

/-- Where the answer is a list and there is a scope, both commands are suggested. -/
theorem suggested_eq_commands (h : apiError cs (parseQuestion inp) = none)
    (hkind : (parseQuestion inp).kind ≠ .deployStatus) {s : String} {rest : List String}
    (hscope : inp.scopeServices = s :: rest) :
    suggested isPrint cs inp = commands.map fun c => c.followup s := by
  obtain ⟨-, hconfidence, -⟩ := dispatchQuery_of_read isPrint h
  rw [readConfidence_of_ne hkind, ← dispatch] at hconfidence
  rw [suggested, suggestedFollowups_of_list hscope hconfidence, Option.getD_some]

/-- **Which suggestions the collector understands itself.** Of an answer that is a list,
those of a scope whose first entry is the namespace that was looked in: it has no slash
and no dash. With a name that ends in white space it understands none. -/
theorem followups_understood_iff :
    ((∀ followup ∈ suggested isPrint cs inp, Understood ObjectName inp followup) ↔
      apiError cs (parseQuestion inp) ≠ none ∨ (parseQuestion inp).kind = .deployStatus ∨
        ∀ s ∈ inp.scopeServices.head?, '/' ∉ s.toList ∧ ¬ dash <:+: ' ' :: s.toList ∧
          trimLeft s = (parseQuestion inp).ns) ∧
    ((∀ followup ∈ suggested isPrint cs inp, Understood OneName inp followup) ↔
      apiError cs (parseQuestion inp) ≠ none ∨ (parseQuestion inp).kind = .deployStatus ∨
        inp.scopeServices = []) := by
  by_cases herr : apiError cs (parseQuestion inp) = none
  · rw [or_iff_right (not_not_intro herr), or_iff_right (not_not_intro herr)]
    by_cases hkind : (parseQuestion inp).kind = .deployStatus
    · rw [suggested_eq_nil isPrint cs inp herr (.inl hkind)]
      exact ⟨iff_of_true nofun (.inl hkind), iff_of_true nofun (.inl hkind)⟩
    rw [or_iff_right hkind, or_iff_right hkind]
    cases hscope : inp.scopeServices with
    | nil =>
        rw [suggested_eq_nil isPrint cs inp herr (.inr hscope)]
        exact ⟨iff_of_true nofun nofun, iff_of_true nofun rfl⟩
    | cons s rest =>
        rw [suggested_eq_commands isPrint cs inp herr hkind hscope, List.forall_mem_map,
          List.forall_mem_map, understood_commands_iff]
        refine ⟨by simp, iff_of_false ?_ (List.cons_ne_nil s rest)⟩
        intro h
        exact not_understood_oneName List.mem_cons_self (h _ List.mem_cons_self)
  · exact ⟨iff_of_true (understood_suggested_of_error isPrint cs inp herr ObjectName) (.inl herr),
      iff_of_true (understood_suggested_of_error isPrint cs inp herr OneName) (.inl herr)⟩

end Dispatched

/-- A scope that names a service, as the Slack intake sends it. -/
theorem not_followups_understood :
    ¬ ∀ (isPrint : Char → Bool) (cs : Clientset) (inp : CollectorInput),
      ∀ followup ∈ suggested isPrint cs inp, Understood OneName inp followup := by
  intro h
  let inp : CollectorInput := { testRequest with scopeServices := ["demo/leaky-service"] }
  have hparse : parseQuestion inp = { kind := .default, ns := "demo" } := by decide
  have herr : apiError testClientset (parseQuestion inp) = none := by
    rw [hparse]
    rfl
  have hkind : (parseQuestion inp).kind ≠ .deployStatus := by
    rw [hparse]
    exact nofun
  have hunderstood := h (fun _ => true) testClientset inp
  rw [suggested_eq_commands _ _ _ herr hkind rfl, List.forall_mem_map] at hunderstood
  have hcommands := understood_commands_iff.mp fun c hc =>
    (hunderstood c hc).mono fun _ hname => hname.toOneName
  exact hcommands.1 (by decide)

end Kube

end AlphE.Collectors
