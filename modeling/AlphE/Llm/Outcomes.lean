import AlphE.Llm.Conversation

/-!
What comes out of `complete_typed`. A response without a call of the tool is
validated as an empty payload, so that there is an error to raise at the end; an
output model whose fields all have defaults accepts the empty payload.
-/

namespace AlphE.Llm

open Validation Validated

section Outcomes

variable {α : Type} (sp : Spelling) (toolName : String) (validate : Validator DateTime α)
  (responses : ℕ → Response)

/-- `last_exc` before an attempt, when all before it were rejected. -/
def excBefore : ℕ → Option (List ErrorLine)
  | 0 => none
  | k + 1 => nextExc toolName validate (excBefore k) (responses k)

/-- The outcome is the one the responses call for. -/
structure Classified (maxRetries : ℕ) (c : Conversed α) : Prop where
  returned : ∀ k ≤ maxRetries, (∀ j < k, Rejected toolName validate (responses j)) →
    ∀ raw a, extractInput toolName (responses k) = some raw → validate raw = .valid a →
      c.completion.result = .ok a ∧ c.session.sent.length = k + 1
  exhausted : (∀ k ≤ maxRetries, Rejected toolName validate (responses k)) →
    c.session.sent.length = maxRetries + 1 ∧ ∃ err raw,
      c.completion.result = .error (.structuredOutput err) ∧
        err.rawOutput = rawOutput toolName (responses maxRetries) ∧
        validate raw = .invalid err.validationError

variable {sp toolName validate responses}

/-! ### The whole run -/

theorem length_sent_send (s : Session) : s.send.sent.length = s.sent.length + 1 := by
  rw [Session.send, List.length_append, List.length_singleton]

/-- The first valid call is returned, after as many attempts as it took. -/
theorem converseFrom_returns (sp : Spelling) (retries attempt k : ℕ) (s : Session)
    (lastExc : Option (List ErrorLine)) (hle : attempt ≤ k) (hk : k ≤ attempt + retries)
    (hrejected : ∀ j, attempt ≤ j → j < k → Rejected toolName validate (responses j))
    {raw : WireValue} {a : α} (hraw : extractInput toolName (responses k) = some raw)
    (hvalid : validate raw = .valid a) :
    ∃ s', converseFrom sp toolName validate responses retries attempt s lastExc =
        ⟨{ result := .ok a, calls := k + 1 }, s'⟩ ∧
      s'.sent.length + attempt = s.sent.length + k + 1 := by
  induction retries generalizing attempt s lastExc with
  | zero =>
      obtain rfl : k = attempt := by omega
      refine ⟨s.send, converseFrom_of_valid 0 hraw hvalid, ?_⟩
      rw [length_sent_send]
      omega
  | succ retries ih =>
      rcases Nat.eq_or_lt_of_le hle with rfl | hlt
      · refine ⟨s.send, converseFrom_of_valid _ hraw hvalid, ?_⟩
        rw [length_sent_send]
        omega
      · obtain ⟨s', hrun, hsent⟩ := ih (attempt + 1)
          (s.send.correct sp toolName validate (responses attempt))
          (nextExc toolName validate lastExc (responses attempt)) hlt (by omega)
          fun j hj hjk => hrejected j (by omega) hjk
        refine ⟨s', ?_, ?_⟩
        · rw [converseFrom_succ_of_rejected retries (hrejected attempt le_rfl hlt), hrun]
        · have hsend := length_sent_send s
          rw [show (s.send.correct sp toolName validate (responses attempt)).sent =
            s.send.sent from rfl] at hsent
          omega

/-- Without a valid call the last response is given up on. -/
theorem converseFrom_givesUp (sp : Spelling) (retries attempt : ℕ) (s : Session)
    (hrejected : ∀ j, attempt ≤ j → j ≤ attempt + retries →
      Rejected toolName validate (responses j)) :
    ∃ s', converseFrom sp toolName validate responses retries attempt s
        (excBefore toolName validate responses attempt) =
        ⟨giveUp (rawOutput toolName (responses (attempt + retries)))
          (excBefore toolName validate responses (attempt + retries + 1))
          (attempt + retries + 1), s'⟩ ∧
      s'.sent.length = s.sent.length + retries + 1 := by
  induction retries generalizing attempt s with
  | zero =>
      refine ⟨s.send, ?_, length_sent_send s⟩
      rw [converseFrom_zero_of_rejected (hrejected attempt le_rfl le_rfl)]
      rfl
  | succ retries ih =>
      obtain ⟨s', hrun, hsent⟩ := ih (attempt + 1)
        (s.send.correct sp toolName validate (responses attempt))
        fun j hj hjk => hrejected j (by omega) (by omega)
      have hsum : attempt + 1 + retries = attempt + (retries + 1) := by omega
      rw [hsum] at hrun
      refine ⟨s', ?_, ?_⟩
      · rw [converseFrom_succ_of_rejected retries (hrejected attempt le_rfl (by omega))]
        exact hrun
      · have hsend := length_sent_send s
        rw [show (s.send.correct sp toolName validate (responses attempt)).sent =
          s.send.sent from rfl] at hsent
        omega

/-! ### The error that is raised -/

/-- There is an error to raise once a response called the tool, or the empty
payload is not valid. -/
theorem excBefore_eq_none_iff (k : ℕ)
    (hrejected : ∀ j < k, Rejected toolName validate (responses j)) :
    excBefore toolName validate responses k = none ↔
      ∀ j < k, (validate (.dict [])).IsValid ∧
        extractInput toolName (responses j) = none := by
  induction k with
  | zero => exact iff_of_true rfl (by simp)
  | succ k ih =>
      rw [Nat.forall_lt_succ_right, ← ih fun j hj => hrejected j (by omega), excBefore, nextExc,
        rawOutput]
      cases hraw : extractInput toolName (responses k) with
      | none =>
          rw [Option.getD_none]
          cases hempty : validate (.dict []) with
          | valid a => simp
          | invalid errors => simp
      | some raw =>
          rw [Option.getD_some]
          have hinvalid := (rejected_iff_of_extractInput hraw).mp (hrejected k (by omega))
          cases hvalid : validate raw with
          | valid a => exact absurd ⟨a, hvalid⟩ hinvalid
          | invalid errors => simp

/-- The error comes from a validation. -/
theorem exists_invalid_of_excBefore {k : ℕ} {errors : List ErrorLine}
    (h : excBefore toolName validate responses k = some errors) :
    ∃ raw, validate raw = .invalid errors := by
  induction k with
  | zero => cases h
  | succ k ih =>
      rw [excBefore, nextExc] at h
      cases hvalid : validate (rawOutput toolName (responses k)) with
      | valid a =>
          rw [hvalid] at h
          exact ih h
      | invalid errors' =>
          rw [hvalid] at h
          cases h
          exact ⟨_, hvalid⟩

/-! ### Which outcomes are raised as they should be -/

/-- There is an error for every way to fail: the empty payload has one, or some
response within the attempts calls the tool. -/
def HasError (toolName : String) (validate : Validator DateTime α)
    (responses : ℕ → Response) (maxRetries : ℕ) : Prop :=
  ¬ (validate (.dict [])).IsValid ∨
    ∃ k ≤ maxRetries, extractInput toolName (responses k) ≠ none

theorem classified_of_hasError (messages : List Message) {maxRetries : ℕ}
    (h : HasError toolName validate responses maxRetries) :
    Classified toolName validate responses maxRetries
      (converse sp toolName validate responses messages maxRetries) := by
  constructor
  · intro k hk hrejected raw a hraw hvalid
    obtain ⟨s', hrun, hsent⟩ := converseFrom_returns sp maxRetries 0 k
      { messages := messages, conversation := messages } none (Nat.zero_le k) (by omega)
      (fun j _ hj => hrejected j hj) hraw hvalid
    rw [converse, hrun]
    refine ⟨rfl, ?_⟩
    simpa using hsent
  · intro hrejected
    obtain ⟨s', hrun, hsent⟩ := converseFrom_givesUp sp maxRetries 0
      { messages := messages, conversation := messages } fun j _ hj => hrejected j (by omega)
    rw [Nat.zero_add, excBefore] at hrun
    have hsome : excBefore toolName validate responses (maxRetries + 1) ≠ none := by
      intro hnone
      rw [excBefore_eq_none_iff _ fun j hj => hrejected j (by omega)] at hnone
      rcases h with hempty | ⟨k, hk, hcall⟩
      · exact hempty (hnone 0 (by omega)).1
      · exact hcall (hnone k (by omega)).2
    obtain ⟨errors, herrors⟩ := Option.ne_none_iff_exists'.mp hsome
    obtain ⟨raw, hraw⟩ := exists_invalid_of_excBefore herrors
    rw [converse, hrun, herrors]
    refine ⟨by simpa using hsent, ⟨_, errors⟩, raw, rfl, rfl, hraw⟩

/-- Where there is no error to raise, the assertion fails. -/
theorem result_eq_assertion (sp : Spelling) (messages : List Message) {maxRetries : ℕ}
    (h : ¬ HasError toolName validate responses maxRetries) :
    (∀ k ≤ maxRetries, Rejected toolName validate (responses k)) ∧
      (converse sp toolName validate responses messages maxRetries).completion.result =
        .error .assertion := by
  rw [HasError, not_or, not_not, not_exists] at h
  obtain ⟨hempty, hcalls⟩ := h
  have hnone : ∀ k ≤ maxRetries, extractInput toolName (responses k) = none := by
    intro k hk
    by_contra hcall
    exact hcalls k ⟨hk, hcall⟩
  have hrejected : ∀ k ≤ maxRetries, Rejected toolName validate (responses k) :=
    fun k hk => rejected_of_extractInput_eq_none (hnone k hk)
  refine ⟨hrejected, ?_⟩
  obtain ⟨s', hrun, -⟩ := converseFrom_givesUp sp maxRetries 0
    { messages := messages, conversation := messages } fun j _ hj => hrejected j (by omega)
  have hexc : excBefore toolName validate responses (maxRetries + 1) = none :=
    (excBefore_eq_none_iff _ fun j hj => hrejected j (by omega)).mpr
      fun j hj => ⟨hempty, hnone j (by omega)⟩
  rw [Nat.zero_add, excBefore, hexc] at hrun
  rw [converse, hrun]
  rfl

variable (sp toolName validate responses)

/-- **When every outcome is classified.** Exactly when there is an error to raise
at the end: no response that calls the tool, and an empty payload that is valid,
end in a failed assertion. -/
theorem outcome_classified_iff (messages : List Message) (maxRetries : ℕ) :
    Classified toolName validate responses maxRetries
        (converse sp toolName validate responses messages maxRetries) ↔
      ¬ (validate (.dict [])).IsValid ∨
        ∃ k ≤ maxRetries, extractInput toolName (responses k) ≠ none := by
  constructor
  · intro hclassified
    by_contra herror
    obtain ⟨hrejected, hassertion⟩ := result_eq_assertion sp messages herror
    obtain ⟨-, err, -, hresult, -⟩ := hclassified.exhausted hrejected
    rw [hassertion] at hresult
    cases hresult
  · intro herror
    exact classified_of_hasError messages herror

end Outcomes

/-! ### The models of the nodes -/

/-- Each of them has a field without a default. -/
theorem OutputModel.not_isValid_empty (M : OutputModel) :
    ¬ (M.validator (.dict [])).IsValid := by
  rintro ⟨a, ha⟩
  cases M with
  | investigator => cases ha
  | verifier => cases ha
  | reviewer => cases ha
  | dev => cases ha
  | planner => cases ha

/-- So the nodes meet a `StructuredOutputError` or a value. -/
theorem OutputModel.classified (M : OutputModel) (sp : Spelling) (responses : ℕ → Response)
    (messages : List Message) (maxRetries : ℕ) :
    Classified M.toolName M.validator responses maxRetries
      (converse sp M.toolName M.validator responses messages maxRetries) :=
  classified_of_hasError messages (.inl M.not_isValid_empty)

/-! ### A model whose fields have defaults -/

structure NoteOutput where
  note : String

def noteOutput : Validator DateTime NoteOutput := model fun items =>
  (valid NoteOutput.mk).ap (defaulted "note" "" str items)

/-- The LLM answers with text, and the empty payload has no error. -/
theorem not_classified :
    ¬ ∀ (α : Type) (sp : Spelling) (toolName : String) (validate : Validator DateTime α)
      (responses : ℕ → Response) (messages : List Message) (maxRetries : ℕ),
      Classified toolName validate responses maxRetries
        (converse sp toolName validate responses messages maxRetries) := by
  intro h
  have hclassified := h NoteOutput testSpelling "noteoutput" noteOutput
    (fun _ => [.text "I cannot do that."]) testMessages 0
  have herror : ¬ HasError "noteoutput" noteOutput
      (fun _ => [.text "I cannot do that."]) 0 := by
    rintro (hempty | ⟨k, -, hcall⟩)
    · exact hempty ⟨⟨""⟩, rfl⟩
    · exact hcall rfl
  obtain ⟨hrejected, hassertion⟩ :=
    result_eq_assertion testSpelling testMessages herror
  obtain ⟨-, err, -, hresult, -⟩ := hclassified.exhausted hrejected
  rw [hassertion] at hresult
  cases hresult

end AlphE.Llm
