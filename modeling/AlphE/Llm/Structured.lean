import AlphE.Llm.OutputModels

/-!
Structured output (`llm/structured.py`). `complete_typed` asks the LLM for a
call of one tool, validates the tool's input strictly, and on a failure appends
a corrective turn and asks again, as often as it may.

The LLM is a function of the attempt and the conversation. How a validation
error and a raw input are spelled in the corrective turn is a parameter: only
the LLM reads them.
-/

namespace AlphE.Llm

open Validation Validated

/-- A content block of an answer. -/
inductive Block
  | text (s : String)
  | toolUse (name : String) (input : WireValue)

inductive Turn
  | user (content : String)
  | assistant (content : List Block)

/-- `StructuredOutputError`: the last raw output and its validation error. -/
structure StructuredOutputError where
  rawOutput : WireValue
  validationError : List ErrorLine

inductive CompletionError
  | structuredOutput (err : StructuredOutputError)
  | assertion

/-- What `complete_typed` returns or raises, and how often it asked the LLM. -/
structure Completion (α : Type) where
  result : Except CompletionError α
  calls : ℕ

/-- `_extract_tool_input`: the input of the first block that calls the tool. -/
def extractToolInput (content : List Block) (toolName : String) : Option WireValue :=
  content.findSome? fun block =>
    match block with
    | .text _ => none
    | .toolUse name input => if name = toolName then some input else none

/-- The surroundings of a completion. -/
structure CompletionEnv where
  complete : ℕ → List Turn → List Block
  jsonDumps : WireValue → String
  formatErrors : List ErrorLine → String

def quoted (s : String) : String := "\x27" ++ s ++ "\x27"

def noToolUseDetail (toolName : String) : String :=
  "You did not call the " ++ quoted toolName ++ " tool. " ++
    "You MUST respond by calling that tool with a valid JSON payload."

/-- The user turn appended after a failed attempt. -/
def correctiveTurn (toolName detail rawJson : String) : String :=
  "Your previous response did not satisfy the required schema. " ++
    "Validation error:\n\n" ++ detail ++ "\n\n" ++
    "Raw output received:\n\n" ++ rawJson ++ "\n\n" ++
    "Please call the " ++ quoted toolName ++ " tool again with a corrected, " ++
    "fully valid JSON payload."

section CompleteTyped

variable {α : Type} (env : CompletionEnv) (toolName : String)
  (validate : Validator DateTime α)

/-- The end of the last attempt. -/
def giveUp (lastRaw : WireValue) (lastExc : Option (List ErrorLine)) (calls : ℕ) :
    Completion α :=
  match lastExc with
  | none => { result := .error .assertion, calls := calls }
  | some errors =>
      { result := .error (.structuredOutput
          { rawOutput := lastRaw, validationError := errors })
        calls := calls }

/-- The attempts from number `attempt` on, with `retries` of them left. -/
def attempts : ℕ → ℕ → List Turn → Option (List ErrorLine) → Completion α
  | retries, attempt, conversation, lastExc =>
      let content := env.complete attempt conversation
      match extractToolInput content toolName with
      | none =>
          -- A missing call is a failure too, validated as an empty payload.
          let lastExc := match validate (.dict []) with
            | .valid _ => lastExc
            | .invalid errors => some errors
          match retries with
          | 0 => giveUp (.dict []) lastExc (attempt + 1)
          | retries + 1 =>
              attempts retries (attempt + 1)
                (conversation ++ [.assistant content,
                  .user (correctiveTurn toolName (noToolUseDetail toolName) "\x7b\x7d")])
                lastExc
      | some raw =>
          match validate raw with
          | .valid a => { result := .ok a, calls := attempt + 1 }
          | .invalid errors =>
              match retries with
              | 0 => giveUp raw (some errors) (attempt + 1)
              | retries + 1 =>
                  attempts retries (attempt + 1)
                    (conversation ++ [.assistant content,
                      .user (correctiveTurn toolName (env.formatErrors errors)
                        (env.jsonDumps raw))])
                    (some errors)

/-- `complete_typed`. -/
def completeTyped (messages : List Turn) (maxRetries : ℕ) : Completion α :=
  attempts env toolName validate maxRetries 0 messages none

variable {env} {toolName} {validate}

/-- A first answer that validates is the result. -/
theorem completeTyped_of_valid {messages : List Turn} (maxRetries : ℕ) {raw : WireValue}
    {a : α} (hraw : extractToolInput (env.complete 0 messages) toolName = some raw)
    (hvalid : validate raw = .valid a) :
    completeTyped env toolName validate messages maxRetries =
      { result := .ok a, calls := 1 } := by
  rw [completeTyped, attempts]
  simp only [hraw, hvalid]

/-- Without a retry there is no other way to a result. -/
theorem valid_of_completeTyped_zero {messages : List Turn} {raw : WireValue} {a : α}
    (hraw : extractToolInput (env.complete 0 messages) toolName = some raw)
    (hresult : (completeTyped env toolName validate messages 0).result = .ok a) :
    validate raw = .valid a := by
  rw [completeTyped, attempts] at hresult
  simp only [hraw] at hresult
  cases hvalid : validate raw with
  | valid b =>
      rw [hvalid] at hresult
      cases hresult
      rfl
  | invalid errors =>
      rw [hvalid] at hresult
      cases hresult

theorem giveUp_ne_ok (lastRaw : WireValue) (lastExc : Option (List ErrorLine)) (calls : ℕ)
    (a : α) : (giveUp lastRaw lastExc calls : Completion α).result ≠ .ok a := by
  cases lastExc <;> exact nofun

/-- Only an input that validates is returned. -/
theorem exists_raw_of_attempts {retries attempt : ℕ} {conversation : List Turn}
    {lastExc : Option (List ErrorLine)} {a : α}
    (h : (attempts env toolName validate retries attempt conversation lastExc).result = .ok a) :
    ∃ k turns raw, extractToolInput (env.complete k turns) toolName = some raw ∧
      validate raw = .valid a := by
  induction retries generalizing attempt conversation lastExc with
  | zero =>
      rw [attempts] at h
      cases hraw : extractToolInput (env.complete attempt conversation) toolName with
      | none =>
          simp only [hraw] at h
          exact absurd h (giveUp_ne_ok _ _ _ a)
      | some raw =>
          simp only [hraw] at h
          cases hvalid : validate raw with
          | valid b =>
              simp only [hvalid] at h
              cases h
              exact ⟨attempt, conversation, raw, hraw, hvalid⟩
          | invalid errors =>
              simp only [hvalid] at h
              exact absurd h (giveUp_ne_ok _ _ _ a)
  | succ retries ih =>
      rw [attempts] at h
      cases hraw : extractToolInput (env.complete attempt conversation) toolName with
      | none =>
          simp only [hraw] at h
          exact ih h
      | some raw =>
          simp only [hraw] at h
          cases hvalid : validate raw with
          | valid b =>
              simp only [hvalid] at h
              cases h
              exact ⟨attempt, conversation, raw, hraw, hvalid⟩
          | invalid errors =>
              simp only [hvalid] at h
              exact ih h

theorem mem_of_extractToolInput {content : List Block} {raw : WireValue}
    (h : extractToolInput content toolName = some raw) : .toolUse toolName raw ∈ content := by
  obtain ⟨block, hmem, hinput⟩ := List.exists_of_findSome?_eq_some h
  cases block with
  | text s => cases hinput
  | toolUse name input =>
      dsimp only at hinput
      split at hinput
      · next hname =>
          cases hinput
          exact hname ▸ hmem
      · cases hinput

end CompleteTyped

/-! ### Which answers are accepted -/

/-- The models the nodes pass to `complete_typed`. -/
inductive OutputModel
  | investigator | verifier | reviewer | dev | planner
  deriving DecidableEq, Repr

namespace OutputModel

def Answer : OutputModel → Type
  | .investigator => InvestigatorOutput
  | .verifier => VerifierLLMOutput
  | .reviewer => ReviewerOutput
  | .dev => DevLLMOutput
  | .planner => LLMPlannerDecision

/-- `output_model.__name__.lower()`. -/
def toolName : OutputModel → String
  | .investigator => "investigatoroutput"
  | .verifier => "verifierllmoutput"
  | .reviewer => "revieweroutput"
  | .dev => "devllmoutput"
  | .planner => "_llmplannerdecision"

def validator : (M : OutputModel) → Validator DateTime M.Answer
  | .investigator => investigatorOutput
  | .verifier => verifierLLMOutput
  | .reviewer => reviewerOutput
  | .dev => devLLMOutput
  | .planner => llmPlannerDecision

/-- `v.model_dump(mode="json")`. -/
def jsonForm (isoformat : DateTime → String) : (M : OutputModel) → M.Answer → WireValue
  | .investigator, v => dumpInvestigatorOutput isoformat v
  | .verifier, v => dumpVerifierLLMOutput v
  | .reviewer, v => dumpReviewerOutput v
  | .dev, v => dumpDevLLMOutput v
  | .planner, v => dumpLLMPlannerDecision v

/-- The values an LLM can give as an answer: all but those that hold a member of
an enumeration or a datetime. -/
def Answerable : (M : OutputModel) → M.Answer → Prop
  | .investigator, v => v.hypotheses = []
  | .verifier, _ => False
  | .reviewer, _ => True
  | .dev, _ => True
  | .planner, _ => True

/-- The value is accepted on the first attempt whenever the tool input is its
JSON form. -/
def AcceptsFirst (isoformat : DateTime → String) (M : OutputModel) (v : M.Answer) :
    Prop :=
  ∀ (env : CompletionEnv) (messages : List Turn) (maxRetries : ℕ),
    extractToolInput (env.complete 0 messages) M.toolName = some (M.jsonForm isoformat v) →
    completeTyped env M.toolName M.validator messages maxRetries =
      { result := .ok v, calls := 1 }

theorem validator_jsonForm_iff (isoformat : DateTime → String) (M : OutputModel)
    (v : M.Answer) :
    M.validator (M.jsonForm isoformat v) = .valid v ↔ M.Answerable v := by
  cases M with
  | investigator => exact investigatorOutput_dump_iff isoformat v
  | verifier =>
      constructor
      · intro h
        exact not_isValid_verifierLLMOutput_dump v ⟨v, h⟩
      · exact False.elim
  | reviewer => exact iff_of_true (reviewerOutput_dump v) trivial
  | dev => exact iff_of_true (devLLMOutput_dump v) trivial
  | planner => exact iff_of_true (llmPlannerDecision_dump v) trivial

/-- An LLM that answers every call with the same tool input. -/
def constantEnv (toolName : String) (input : WireValue) : CompletionEnv where
  complete _ _ := [.toolUse toolName input]
  jsonDumps _ := "\x7b\x7d"
  formatErrors _ := "1 validation error"

theorem acceptsFirst_iff_validator (isoformat : DateTime → String) (M : OutputModel)
    (v : M.Answer) :
    M.AcceptsFirst isoformat v ↔ M.validator (M.jsonForm isoformat v) = .valid v := by
  constructor
  · intro h
    have hraw : extractToolInput ((constantEnv M.toolName (M.jsonForm isoformat v)).complete
        0 []) M.toolName = some (M.jsonForm isoformat v) := by
      simp [constantEnv, extractToolInput]
    apply valid_of_completeTyped_zero hraw
    rw [h _ [] 0 hraw]
  · intro hvalid env messages maxRetries hraw
    exact completeTyped_of_valid maxRetries hraw hvalid

/-- **Which answers an LLM can give.** A value is accepted in its JSON form
exactly when it holds no member of an enumeration and no datetime. -/
theorem acceptsFirst_iff (isoformat : DateTime → String) (M : OutputModel)
    (v : M.Answer) : M.AcceptsFirst isoformat v ↔ M.Answerable v := by
  rw [acceptsFirst_iff_validator, validator_jsonForm_iff]

/-- One open hypothesis is enough to be rejected. -/
def testAnswer : InvestigatorOutput :=
  { hypotheses :=
      [{ id := "hyp_1"
         text := "pod.oom in leaky-service"
         createdAt := testNow }]
    currentFocusHypothesisId := "hyp_1"
    reasoning := "The container is killed with exit code 137." }

/-- The Investigator's answer with an open hypothesis never comes back. -/
theorem not_acceptsFirst :
    ¬ ∀ (isoformat : DateTime → String) (M : OutputModel) (v : M.Answer),
      M.AcceptsFirst isoformat v := by
  intro h
  let isoformat : DateTime → String := fun _ => "2026-04-21T14:00:00Z"
  have hvalid := (acceptsFirst_iff_validator isoformat .investigator testAnswer).mp
    (h isoformat .investigator testAnswer)
  have hnil := (validator_jsonForm_iff isoformat .investigator testAnswer).mp hvalid
  exact absurd hnil (List.cons_ne_nil _ _)

end OutputModel

end AlphE.Llm
