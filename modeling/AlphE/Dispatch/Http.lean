import AlphE.Schemas.Collector
import AlphE.Lib.Validation
import AlphE.Lib.PyText

/-!
The HTTP client of the collectors (`dispatch/http.py`): a reply is decoded to a
`CollectorOutput`, and whatever else comes back is turned into a finding of no
confidence. A body is the JSON it holds, if it holds any.
-/

namespace AlphE.Dispatch

open Validation Validated

/-! ### Decoding -/

section Decode

variable (parse : String → Option DateTime)

/-- `EvidenceRef`, from JSON. -/
def evidenceRef : Validator DateTime EvidenceRef := model fun items =>
  (valid EvidenceRef.mk).ap (required "evidence_id" str items)
    |>.ap (required "storage_uri" str items)
    |>.ap (required "content_type" str items)
    |>.ap (required "size_bytes" natural items)
    |>.ap (required "expires_at" (datetimeJson parse) items)

/-- `Finding`, from JSON. -/
def finding : Validator DateTime Finding := model fun items =>
  (valid Finding.mk).ap (required "id" str items)
    |>.ap (required "collector_name" str items)
    |>.ap (required "question" str items)
    |>.ap (required "summary" str items)
    |>.ap (required "evidence_id" str items)
    |>.ap (required "confidence" unitFloat items)
    |>.ap (defaulted "suggested_followups" [] (list str) items)
    |>.ap (required "created_at" (datetimeJson parse) items)

/-- `CollectorOutput`, from JSON. -/
def collectorOutput : Validator DateTime CollectorOutput := model fun items =>
  (valid CollectorOutput.mk).ap (required "finding" (finding parse) items)
    |>.ap (required "evidence" (evidenceRef parse) items)
    |>.ap (required "tool_calls_used" natural items)
    |>.ap (required "tokens_used" natural items)

/-- `CollectorOutput.model_validate_json`. -/
def modelValidateJson : Option (Value DateTime) → Validated CollectorOutput
  | some body => collectorOutput parse body
  | none => fail "json_invalid"

end Decode

/-! ### Dispatch -/

inductive Reply
  | timeout (exc : String)
  | httpError (exc : String)
  | response (status : ℕ) (body : Option (Value DateTime))

structure HttpEnv where
  now : DateTime
  parse : String → Option DateTime
  isprintable : Char → Bool
  text : Option (Value DateTime) → String
  formatErrors : List ErrorLine → String

/-- `_failure_finding`. -/
def failureFinding (env : HttpEnv) (payload : CollectorInput) (collectorName : String)
    (reason : String) : Finding :=
  { id := "fail_" ++ payload.hypothesisId ++ "_" ++ collectorName
    collectorName := collectorName
    question := payload.question
    summary := "Collector " ++ PyText.reprStr env.isprintable collectorName ++ " failed: " ++
      reason
    evidenceId := ""
    confidence := UnitFloat.zero
    createdAt := env.now }

def isSuccess (status : ℕ) : Bool := 200 ≤ status && status < 300

/-- `dispatch`, from the reply on. -/
def dispatch (env : HttpEnv) (collectorName : String) (payload : CollectorInput)
    (reply : Reply) : CollectorOutput ⊕ Finding :=
  let failure := failureFinding env payload collectorName
  match reply with
  | .timeout exc => .inr (failure ("timeout after 30s: " ++ exc))
  | .httpError exc => .inr (failure ("HTTP error: " ++ exc))
  | .response status body =>
      if !isSuccess status then
        .inr (failure ("non-200 status " ++ toString status ++ ": " ++
          PyText.takeChars 200 (env.text body)))
      else
        match modelValidateJson env.parse body with
        | .valid output => .inl output
        | .invalid errors =>
            .inr (failure ("response parse error: " ++ env.formatErrors errors))

/-- The graph goes on with an answer just when the answer was accepted. -/
theorem dispatch_eq_inl_iff {env : HttpEnv} {collectorName : String}
    {payload : CollectorInput} {body : Option (Value DateTime)} {output : CollectorOutput} :
    dispatch env collectorName payload (.response 200 body) = .inl output ↔
      modelValidateJson env.parse body = .valid output := by
  have hsuccess : isSuccess 200 = true := rfl
  cases hvalid : modelValidateJson env.parse body with
  | valid a => simp [dispatch, hsuccess, hvalid]
  | invalid errors => simp [dispatch, hsuccess, hvalid]

/-- What is no answer says nothing with any confidence. -/
theorem confidence_of_dispatch_eq_inr {env : HttpEnv} {collectorName : String}
    {payload : CollectorInput} {reply : Reply} {f : Finding}
    (h : dispatch env collectorName payload reply = .inr f) :
    f.confidence = UnitFloat.zero := by
  cases reply with
  | timeout exc =>
      cases h
      rfl
  | httpError exc =>
      cases h
      rfl
  | response status body =>
      rw [dispatch] at h
      split at h
      · cases h
        rfl
      · cases hvalid : modelValidateJson env.parse body with
        | valid output =>
            rw [hvalid] at h
            cases h
        | invalid errors =>
            rw [hvalid] at h
            cases h
            rfl

/-! ### Answers without follow-ups -/

section Null

variable (parse : String → Option DateTime)

/-- A null is no list: such a finding is rejected, whatever else it holds. -/
theorem not_isValid_finding_of_null {items : List (String × Value DateTime)}
    (h : items.lookup "suggested_followups" = some .null) :
    ¬ (finding parse (.dict items)).IsValid := by
  simp [finding, model, defaulted, h, list]

theorem not_isValid_modelValidateJson {body : Option (Value DateTime)}
    (h : ∀ items, body = some (.dict items) →
      ∃ f, items.lookup "finding" = some f ∧ ¬ (finding parse f).IsValid) :
    ¬ (modelValidateJson parse body).IsValid := by
  match body with
  | none => exact not_isValid_fail _
  | some (.dict items) =>
      obtain ⟨f, hlookup, hf⟩ := h items rfl
      simp [modelValidateJson, collectorOutput, model, required, hlookup, hf]
  | some .null | some (.bool _) | some (.int _) | some (.float _) | some (.str _)
  | some (.list _) | some (.enum _ _) | some (.datetime _) => exact not_isValid_fail _

end Null

end AlphE.Dispatch
