import AlphE.Intake.Slack

/-!
Where a mention of the bot can stand in the texts the handler puts together. Their own
words hold none, and end or begin with characters that no mention goes across, so that a
text mentions the bot exactly when something that was put into it does.
-/

namespace AlphE.Intake

open PyLower PyText Separators

/-- The name, and the beginning of a mention as Slack writes it. -/
def nameWord : List Char := "alph-e".toList

def mentionWord : List Char := "<@".toList

def Mentions (cs : List Char) : Prop :=
  nameWord <:+: cs.map Char.toLower ∨ mentionWord <:+: cs

instance (cs : List Char) : Decidable (Mentions cs) :=
  inferInstanceAs (Decidable (nameWord <:+: cs.map Char.toLower ∨ mentionWord <:+: cs))

/-- The test of the handler, whatever the table says of other characters. -/
theorem mentionsBot_iff (table : LowerTable) (text : String) :
    mentionsBot table text = true ↔ Mentions text.toList := by
  have hname : LowerTable.Plain nameWord := by decide
  have hat : nameWord <:+: "@alph-e".toList := by decide
  rw [mentionsBot, Bool.or_eq_true, Bool.or_eq_true, occursIn_iff, occursIn_iff, occursIn_iff,
    Mentions, ← LowerTable.infix_lower_iff hname (T := table)]
  apply or_congr_left
  exact or_iff_right_of_imp hat.trans

/-! ### Putting texts together -/

/-- No mention goes across the character. -/
def Separates (c : Char) : Prop := c.toLower ∉ nameWord ∧ c ∉ mentionWord

instance (c : Char) : Decidable (Separates c) :=
  inferInstanceAs (Decidable (c.toLower ∉ nameWord ∧ c ∉ mentionWord))

theorem mentions_append_cons {c : Char} (h : Separates c) (u v : List Char) :
    Mentions (u ++ c :: v) ↔ Mentions u ∨ Mentions v := by
  rw [Mentions, List.map_append, List.map_cons, infix_append_cons_iff h.1,
    infix_append_cons_iff h.2, or_or_or_comm]
  rfl

theorem not_mentions_nil : ¬ Mentions [] := by decide

/-- What may stand in front of another text. -/
structure Opens (front : String) : Prop where
  last : ∀ c ∈ front.toList.getLast?, Separates c
  silent : ¬ Mentions front.toList

/-- What may follow another text. -/
structure Closes (back : String) : Prop where
  first : ∀ c ∈ back.toList.head?, Separates c
  silent : ¬ Mentions back.toList

-- Named, since there are finitely many characters to go through otherwise.
instance (o : Option Char) : Decidable (∀ c ∈ o, Separates c) :=
  Option.decidableForallMem o

instance (front : String) : Decidable (Opens front) :=
  decidable_of_iff
    ((∀ c ∈ front.toList.getLast?, Separates c) ∧ ¬ Mentions front.toList)
    ⟨fun h => ⟨h.1, h.2⟩, fun h => ⟨h.last, h.silent⟩⟩

instance (back : String) : Decidable (Closes back) :=
  decidable_of_iff
    ((∀ c ∈ back.toList.head?, Separates c) ∧ ¬ Mentions back.toList)
    ⟨fun h => ⟨h.1, h.2⟩, fun h => ⟨h.first, h.silent⟩⟩

section Framed

variable (table : LowerTable)

theorem mentionsBot_opens {front : String} (h : Opens front) (text : String) :
    mentionsBot table (front ++ text) = mentionsBot table text := by
  rw [Bool.eq_iff_iff, mentionsBot_iff, mentionsBot_iff, String.toList_append]
  rcases List.eq_nil_or_concat front.toList with hnil | ⟨u, c, hlast⟩
  · rw [hnil, List.nil_append]
  · have hc : Separates c := h.last c (by simp [hlast])
    have hu : ¬ Mentions u := by
      intro hu
      apply h.silent
      rw [hlast, List.concat_eq_append, mentions_append_cons hc]
      exact .inl hu
    rw [hlast, List.concat_eq_append, List.append_assoc, List.singleton_append,
      mentions_append_cons hc, or_iff_right hu]

theorem mentionsBot_closes {back : String} (h : Closes back) (text : String) :
    mentionsBot table (text ++ back) = mentionsBot table text := by
  rw [Bool.eq_iff_iff, mentionsBot_iff, mentionsBot_iff, String.toList_append]
  cases hback : back.toList with
  | nil => rw [List.append_nil]
  | cons c v =>
      have hc : Separates c := h.first c (by simp [hback])
      have hv : ¬ Mentions v := by
        intro hv
        apply h.silent
        rw [hback]
        exact (mentions_append_cons hc [] v).mpr (.inr hv)
      rw [mentions_append_cons hc, or_iff_left hv]

/-- A text that may follow one and stand in front of the other keeps them apart. -/
theorem mentionsBot_between {sep : String} (hopens : Opens sep) (hcloses : Closes sep)
    (hne : sep ≠ "") (text text' : String) :
    mentionsBot table (text ++ sep ++ text') =
      (mentionsBot table text || mentionsBot table text') := by
  obtain ⟨c, v, hsep⟩ := List.exists_cons_of_ne_nil (mt String.toList_eq_nil_iff.mp hne)
  have hc : Separates c := hcloses.first c (by simp [hsep])
  have hrest := mentionsBot_opens table hopens text'
  rw [Bool.eq_iff_iff, mentionsBot_iff, mentionsBot_iff, String.toList_append, hsep,
    List.cons_append, ← List.nil_append (c :: _), mentions_append_cons hc,
    or_iff_right not_mentions_nil] at hrest
  rw [Bool.eq_iff_iff, Bool.or_eq_true, mentionsBot_iff, mentionsBot_iff, mentionsBot_iff,
    String.toList_append, String.toList_append, hsep, List.append_assoc, List.cons_append,
    mentions_append_cons hc, hrest]

theorem mentionsBot_join {sep : String} (hopens : Opens sep) (hcloses : Closes sep)
    (hne : sep ≠ "") (texts : List String) :
    mentionsBot table (join sep texts) = texts.any (mentionsBot table) := by
  induction texts with
  | nil =>
      rw [join, String.intercalate_nil, List.any_nil, Bool.eq_false_iff, ne_eq, mentionsBot_iff]
      exact not_mentions_nil
  | cons text texts ih =>
      cases texts with
      | nil => simp [join]
      | cons text' texts =>
          rw [join, String.intercalate_cons_cons, mentionsBot_between table hopens hcloses hne,
            List.any_cons, ← ih]
          rfl

end Framed

/-! ### The findings -/

section Findings

variable (table : LowerTable)

theorem mentionsBot_kubeError (error : String) :
    mentionsBot table (kubeError error) = mentionsBot table error :=
  mentionsBot_opens table (by decide) error

theorem mentionsBot_promError (error : String) :
    mentionsBot table (promError error) = mentionsBot table error :=
  mentionsBot_opens table (by decide) error

/-- The texts that the answer of a collector brings in, given those of a finding. -/
def broughtIn {φ : Type} (texts : φ → List String) : Collected φ → List String
  | .raised error => [error]
  | .response 200 (.error error) => [error]
  | .response 200 (.ok finding) => texts finding
  | .response _ _ => []

theorem any_collectorFindings {φ : Type} {onError : String → String} {unavailable : String}
    {read texts : φ → List String}
    (herror : ∀ error, mentionsBot table (onError error) = mentionsBot table error)
    (hunavailable : ¬ Mentions unavailable.toList)
    (hread : ∀ finding,
      (read finding).any (mentionsBot table) = (texts finding).any (mentionsBot table))
    (answer : Collected φ) :
    (collectorFindings onError unavailable read answer).any (mentionsBot table) =
      (broughtIn texts answer).any (mentionsBot table) := by
  fun_cases broughtIn texts answer with
  | case1 error => simp [collectorFindings, herror]
  | case2 error => simp [collectorFindings, herror]
  | case3 finding => exact hread finding
  | case4 status finding hnoError hnoFinding =>
      have hfindings : collectorFindings onError unavailable read (.response status finding) =
          [unavailable] := by
        rw [collectorFindings]
        · exact hnoError
        · exact hnoFinding
      rw [hfindings, List.any_cons, List.any_nil, Bool.or_false, Bool.eq_false_iff, ne_eq,
        mentionsBot_iff]
      exact hunavailable

/-- The texts that the follow-ups bring in. -/
def actionTexts : Except String (List String) → List String
  | .error error => [error]
  | .ok followups => followups.take 3

def kubeTexts : Collected KubeFinding → List String :=
  broughtIn fun finding => finding.summary.toList ++ actionTexts finding.suggestedFollowups

def promTexts : Collected PromFinding → List String :=
  broughtIn fun finding => finding.summary.toList

def analysisText : Except String String → String
  | .ok text => text
  | .error error => error

theorem any_kubeActions (followups : Except String (List String)) :
    (kubeActions followups).any (mentionsBot table) =
      (actionTexts followups).any (mentionsBot table) := by
  cases followups with
  | error error => simp [kubeActions, actionTexts, mentionsBot_kubeError]
  | ok followups =>
      cases followups with
      | nil => rfl
      | cons followup rest =>
          have hbullet : mentionsBot table ∘ ("• " ++ ·) = mentionsBot table := by
            funext text
            rw [Function.comp_apply, mentionsBot_opens table (by decide)]
          rw [kubeActions, List.any_cons, List.any_nil, Bool.or_false,
            mentionsBot_opens table (by decide),
            mentionsBot_join table (by decide) (by decide) (by decide), List.any_map, hbullet]
          · rfl
          · exact nofun

/-- A summary that is missing is replaced by words that do not mention the bot. -/
theorem mentionsBot_getD {default : String} (hdefault : ¬ Mentions default.toList)
    (summary : Option String) :
    mentionsBot table (summary.getD default) = summary.toList.any (mentionsBot table) := by
  cases summary with
  | none =>
      rw [Option.getD_none, Option.toList_none, List.any_nil, Bool.eq_false_iff, ne_eq,
        mentionsBot_iff]
      exact hdefault
  | some text => simp

theorem any_kubeFindings (answer : Collected KubeFinding) :
    (kubeFindings answer).any (mentionsBot table) =
      (kubeTexts answer).any (mentionsBot table) := by
  refine any_collectorFindings table (mentionsBot_kubeError table) (by decide) ?_ answer
  intro finding
  rw [List.any_cons, List.any_append, any_kubeActions, mentionsBot_opens table (by decide),
    mentionsBot_getD table (by decide)]

theorem any_promFindings (answer : Collected PromFinding) :
    (promFindings answer).any (mentionsBot table) =
      (promTexts answer).any (mentionsBot table) := by
  refine any_collectorFindings table (mentionsBot_promError table) (by decide +kernel) ?_ answer
  intro finding
  rw [List.any_cons, List.any_nil, Bool.or_false, mentionsBot_opens table (by decide),
    mentionsBot_getD table (by decide)]

theorem mentionsBot_analysisFinding (analysis : Except String String) :
    mentionsBot table (analysisFinding analysis) =
      mentionsBot table (analysisText analysis) := by
  cases analysis with
  | ok text => exact mentionsBot_opens table (by decide) text
  | error error => exact mentionsBot_opens table (by decide) error

theorem mentionsBot_reportOf (findings : List String) :
    mentionsBot table (reportOf findings) = findings.any (mentionsBot table) := by
  cases findings with
  | nil =>
      rw [reportOf, if_pos List.isEmpty_nil, List.any_nil, Bool.eq_false_iff, ne_eq,
        mentionsBot_iff]
      decide +kernel
  | cons finding findings =>
      rw [reportOf, if_neg (by simp)]
      exact mentionsBot_join table (by decide) (by decide) (by decide) _

end Findings

/-! ### The messages -/

section Messages

variable (table : LowerTable) (env : SlackEnv) (event : SlackEvent)

theorem mentionsBot_acknowledgement :
    mentionsBot table (acknowledgement env event).text =
      mentionsBot table (devopsAlfieChannel env) := by
  rw [acknowledgement, mentionsBot_closes table (by decide),
    mentionsBot_opens table (by decide +kernel)]

theorem mentionsBot_startingText : mentionsBot table startingText = false := by
  rw [Bool.eq_false_iff, ne_eq, mentionsBot_iff]
  decide +kernel

/-- There is no `l` and no `<` in a hexadecimal number. -/
theorem not_mentions_of_hex {cs : List Char} (h : ∀ c ∈ cs, ∃ k < 16, c = Nat.digitChar k) :
    ¬ Mentions cs := by
  have hdigits : ∀ k < 16, (Nat.digitChar k).toLower ≠ 'l' ∧ Nat.digitChar k ≠ '<' := by decide
  rintro (hname | hmention)
  · have hl : 'l' ∈ cs.map Char.toLower := hname.subset (by decide)
    obtain ⟨c, hc, hlower⟩ := List.mem_map.mp hl
    obtain ⟨k, hk, rfl⟩ := h c hc
    exact (hdigits k hk).1 hlower
  · have hat : '<' ∈ cs := hmention.subset (by decide)
    obtain ⟨k, hk, heq⟩ := h '<' hat
    exact (hdigits k hk).2 heq.symm

theorem mentionsBot_investigationStarted :
    mentionsBot table (investigationStarted table env event).text = false := by
  have htext : (investigationStarted table env event).text =
      "🔍 **New Investigation Started** - `" ++ (incidentOf table env event).incidentId ++
        ("`\n\n" ++ devopsSupportTag) :=
    String.append_assoc
  have hid : (incidentOf table env event).incidentId = "inc_" ++ takeChars 10 (uuid4Hex env) := rfl
  rw [htext, mentionsBot_closes table (by decide), mentionsBot_opens table (by decide), hid,
    mentionsBot_opens table (by decide), Bool.eq_false_iff, ne_eq, mentionsBot_iff]
  apply not_mentions_of_hex
  intro c hc
  rw [takeChars, uuid4Hex, String.toList_ofList, String.toList_ofList] at hc
  exact Hex.mem_padded (List.mem_of_mem_take hc)

theorem mentionsBot_completeText (findings : String) :
    mentionsBot table (completeText findings) = mentionsBot table findings := by
  unfold completeText
  rw [String.append_assoc, String.append_assoc, mentionsBot_closes table (by decide +kernel),
    mentionsBot_opens table (by decide)]

theorem mentionsBot_errorText (error : String) :
    mentionsBot table (errorText error) = mentionsBot table error := by
  unfold errorText
  rw [String.append_assoc, String.append_assoc, mentionsBot_closes table (by decide +kernel),
    mentionsBot_opens table (by decide +kernel)]

end Messages

end AlphE.Intake
