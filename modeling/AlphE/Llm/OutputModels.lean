import AlphE.Nodes.Models
import AlphE.Lib.Validation

/-!
The output models of the reasoning nodes, as values of the wire and back: the
JSON form of a value (`model_dump(mode="json")`), and the strict validation a
tool input goes through (`model_validate(_, strict=True)`). In the JSON form an
enumeration member is its string, and a datetime the string it is spelled with.
-/

namespace AlphE.Llm

open Validation Validated

abbrev WireValue := Value DateTime

/-! ### Enumerations and literals -/

def hypothesisStatuses : List (String × HypothesisStatus) :=
  [("open", .«open»), ("confirmed", .confirmed), ("refuted", .refuted),
    ("abandoned", .abandoned)]

def statusValue : HypothesisStatus → String
  | .«open» => "open"
  | .confirmed => "confirmed"
  | .refuted => "refuted"
  | .abandoned => "abandoned"

def verifierResultKinds : List (String × VerifierResultKind) :=
  [("passed", .passed), ("implementation_error", .implementationError),
    ("diagnosis_invalidated", .diagnosisInvalidated)]

def kindValue : VerifierResultKind → String
  | .passed => "passed"
  | .implementationError => "implementation_error"
  | .diagnosisInvalidated => "diagnosis_invalidated"

def reviewDecisions : List (String × ReviewDecision) :=
  [("approve", .approve), ("request_changes_on_fix", .requestChangesOnFix),
    ("challenge_root_cause", .challengeRootCause)]

def decisionValue : ReviewDecision → String
  | .approve => "approve"
  | .requestChangesOnFix => "request_changes_on_fix"
  | .challengeRootCause => "challenge_root_cause"

def planTypes : List (String × PlanTypeStr) :=
  [("pr", .pr), ("rollback", .rollback), ("scale", .scale), ("flag_flip", .flagFlip),
    ("runbook", .runbook), ("none", .none)]

def planTypeValue : PlanTypeStr → String
  | .pr => "pr"
  | .rollback => "rollback"
  | .scale => "scale"
  | .flagFlip => "flag_flip"
  | .runbook => "runbook"
  | .none => "none"

/-! ### Parts -/

def dumpStrs (xs : List String) : WireValue := .list (xs.map .str)

def strs : Validator DateTime (List String) := list str

def dumpParam : ParamValue → WireValue
  | .str s => .str s
  | .int n => .int n
  | .bool b => .bool b

/-- `str | int | bool`: the member of the union that the value is of. -/
def paramValue : Validator DateTime ParamValue
  | .str s => .valid (.str s)
  | .int n => .valid (.int n)
  | .bool b => .valid (.bool b)
  | _ => .invalid
      [⟨[.field "str"], "string_type"⟩, ⟨[.field "int"], "int_type"⟩,
        ⟨[.field "bool"], "bool_type"⟩]

def dumpParameters (p : Parameters) : WireValue :=
  .dict (p.items.map fun e => (e.1, dumpParam e.2))

def parameters : Validator DateTime Parameters := fun x =>
  (dict paramValue x).map InsertionDict.ofList

def dumpHypothesis (isoformat : DateTime → String) (h : Hypothesis) : WireValue :=
  .dict
    [("id", .str h.id), ("text", .str h.text), ("score", .float h.score),
      ("status", .str (statusValue h.status)),
      ("supporting_evidence_ids", dumpStrs h.supportingEvidenceIds),
      ("refuting_evidence_ids", dumpStrs h.refutingEvidenceIds),
      ("created_at", .str (isoformat h.createdAt))]

def hypothesis : Validator DateTime Hypothesis := model fun items =>
  (valid Hypothesis.mk).ap (required "id" str items)
    |>.ap (required "text" str items)
    |>.ap (defaulted "score" UnitFloat.zero unitFloat items)
    |>.ap (defaulted "status" .«open» (enumStrict "HypothesisStatus" hypothesisStatuses) items)
    |>.ap (defaulted "supporting_evidence_ids" [] strs items)
    |>.ap (defaulted "refuting_evidence_ids" [] strs items)
    |>.ap (required "created_at" datetimeStrict items)

def dumpFileChange (c : FileChange) : WireValue :=
  .dict [("repo", .str c.repo), ("path", .str c.path), ("diff", .str c.diff)]

def fileChange : Validator DateTime FileChange := model fun items =>
  (valid FileChange.mk).ap (required "repo" str items)
    |>.ap (required "path" str items)
    |>.ap (required "diff" str items)

/-! ### The five models -/

def dumpInvestigatorOutput (isoformat : DateTime → String) (v : InvestigatorOutput) :
    WireValue :=
  .dict
    [("hypotheses", .list (v.hypotheses.map (dumpHypothesis isoformat))),
      ("current_focus_hypothesis_id", .str v.currentFocusHypothesisId),
      ("reasoning", .str v.reasoning)]

def investigatorOutput : Validator DateTime InvestigatorOutput := model fun items =>
  (valid InvestigatorOutput.mk).ap (required "hypotheses" (list hypothesis) items)
    |>.ap (required "current_focus_hypothesis_id" str items)
    |>.ap (required "reasoning" str items)

def dumpVerifierLLMOutput (v : VerifierLLMOutput) : WireValue :=
  .dict
    [("kind", .str (kindValue v.kind)), ("reasoning", .str v.reasoning),
      ("failures", dumpStrs v.failures)]

def verifierLLMOutput : Validator DateTime VerifierLLMOutput := model fun items =>
  (valid VerifierLLMOutput.mk).ap
      (required "kind" (enumStrict "VerifierResultKind" verifierResultKinds) items)
    |>.ap (required "reasoning" str items)
    |>.ap (defaulted "failures" [] strs items)

def dumpReviewerOutput (v : ReviewerOutput) : WireValue :=
  .dict
    [("decision", .str (decisionValue v.decision)), ("reasoning", .str v.reasoning),
      ("cited_evidence_ids", dumpStrs v.citedEvidenceIds)]

def reviewerOutput : Validator DateTime ReviewerOutput := model fun items =>
  (valid ReviewerOutput.mk).ap (required "decision" (literal reviewDecisions) items)
    |>.ap (required "reasoning" str items)
    |>.ap (defaulted "cited_evidence_ids" [] strs items)

def dumpDevLLMOutput (v : DevLLMOutput) : WireValue :=
  .dict
    [("changes", .list (v.changes.map dumpFileChange)),
      ("commit_message", .str v.commitMessage), ("pr_body", .str v.prBody),
      ("branch_name", .str v.branchName), ("reasoning", .str v.reasoning)]

def devLLMOutput : Validator DateTime DevLLMOutput := model fun items =>
  (valid DevLLMOutput.mk).ap (required "changes" (list fileChange) items)
    |>.ap (required "commit_message" str items)
    |>.ap (required "pr_body" str items)
    |>.ap (required "branch_name" str items)
    |>.ap (required "reasoning" str items)

def dumpLLMPlannerDecision (v : LLMPlannerDecision) : WireValue :=
  .dict
    [("plan_id", .str v.planId), ("plan_type", .str (planTypeValue v.planType)),
      ("rationale", .str v.rationale), ("confidence", .float v.confidence),
      ("requires_human_approval", .bool v.requiresHumanApproval),
      ("evidence_ids", dumpStrs v.evidenceIds),
      ("target_services", dumpStrs v.targetServices),
      ("target_repos", dumpStrs v.targetRepos), ("rollback_plan", .str v.rollbackPlan),
      ("action_target", .str v.actionTarget),
      ("action_parameters", dumpParameters v.actionParameters),
      ("expected_effect", .str v.expectedEffect), ("rollback_hint", .str v.rollbackHint),
      ("reasoning", .str v.reasoning)]

def llmPlannerDecision : Validator DateTime LLMPlannerDecision := model fun items =>
  (valid LLMPlannerDecision.mk).ap (required "plan_id" str items)
    |>.ap (required "plan_type" (literal planTypes) items)
    |>.ap (required "rationale" str items)
    |>.ap (required "confidence" unitFloat items)
    |>.ap (defaulted "requires_human_approval" true bool items)
    |>.ap (defaulted "evidence_ids" [] strs items)
    |>.ap (defaulted "target_services" [] strs items)
    |>.ap (defaulted "target_repos" [] strs items)
    |>.ap (defaulted "rollback_plan" "" str items)
    |>.ap (defaulted "action_target" "" str items)
    |>.ap (defaulted "action_parameters" ∅ parameters items)
    |>.ap (defaulted "expected_effect" "" str items)
    |>.ap (defaulted "rollback_hint" "" str items)
    |>.ap (required "reasoning" str items)

/-! ### What strict validation makes of the JSON form -/

@[simp] theorem strs_dumpStrs (xs : List String) : strs (dumpStrs xs) = .valid xs :=
  list_map str_str xs

@[simp] theorem parameters_dumpParameters (p : Parameters) :
    parameters (dumpParameters p) = .valid p := by
  rw [parameters, dumpParameters, dict_map]
  · rw [map_valid, InsertionDict.ofList_items]
  · intro v
    cases v <;> rfl

@[simp] theorem literal_planTypeValue (t : PlanTypeStr) :
    literal planTypes (.str (planTypeValue t) : WireValue) = .valid t := by
  cases t <;> rfl

@[simp] theorem literal_decisionValue (d : ReviewDecision) :
    literal reviewDecisions (.str (decisionValue d) : WireValue) = .valid d := by
  cases d <;> rfl

@[simp] theorem fileChange_dump (c : FileChange) :
    fileChange (dumpFileChange c) = .valid c := by
  rfl

/-- A literal is a string on the wire too: the Reviewer's answers come back. -/
theorem reviewerOutput_dump (v : ReviewerOutput) :
    reviewerOutput (dumpReviewerOutput v) = .valid v := by
  simp [reviewerOutput, dumpReviewerOutput, model, required, defaulted, List.lookup_cons]

theorem devLLMOutput_dump (v : DevLLMOutput) :
    devLLMOutput (dumpDevLLMOutput v) = .valid v := by
  simp [devLLMOutput, dumpDevLLMOutput, model, required, List.lookup_cons,
    list_map fileChange_dump]

theorem llmPlannerDecision_dump (v : LLMPlannerDecision) :
    llmPlannerDecision (dumpLLMPlannerDecision v) = .valid v := by
  simp [llmPlannerDecision, dumpLLMPlannerDecision, model, required, defaulted, List.lookup_cons]

/-- A string is no member of an enumeration: no hypothesis comes back. -/
theorem not_isValid_hypothesis_dump (isoformat : DateTime → String) (h : Hypothesis) :
    ¬ (hypothesis (dumpHypothesis isoformat h)).IsValid := by
  simp [hypothesis, dumpHypothesis, model, required, defaulted, List.lookup_cons, enumStrict]

theorem investigatorOutput_dump_iff (isoformat : DateTime → String)
    (v : InvestigatorOutput) :
    investigatorOutput (dumpInvestigatorOutput isoformat v) = .valid v ↔
      v.hypotheses = [] := by
  have hreject := isValid_list_map_iff (not_isValid_hypothesis_dump isoformat) v.hypotheses
  constructor
  · intro h
    rw [← hreject]
    have hvalid : (investigatorOutput (dumpInvestigatorOutput isoformat v)).IsValid := ⟨v, h⟩
    simpa [investigatorOutput, dumpInvestigatorOutput, model, required, List.lookup_cons]
      using hvalid
  · intro hnil
    obtain ⟨hypotheses, focus, reasoning⟩ := v
    cases hnil
    rfl

/-- The Verifier's kind is an enumeration: none of its answers comes back. -/
theorem not_isValid_verifierLLMOutput_dump (v : VerifierLLMOutput) :
    ¬ (verifierLLMOutput (dumpVerifierLLMOutput v)).IsValid := by
  simp [verifierLLMOutput, dumpVerifierLLMOutput, model, required, defaulted, List.lookup_cons,
    enumStrict]

/-! ### What JSON text can say -/

theorem ofJson_dumpStrs (xs : List String) : (dumpStrs xs).OfJson := by
  apply Value.OfJson.list
  intro x hx
  obtain ⟨s, -, rfl⟩ := List.mem_map.mp hx
  exact .str s

theorem ofJson_dumpHypothesis (isoformat : DateTime → String) (h : Hypothesis) :
    (dumpHypothesis isoformat h).OfJson := by
  apply Value.OfJson.dict
  simp only [List.forall_mem_cons]
  exact ⟨.str _, .str _, .float _, .str _, ofJson_dumpStrs _, ofJson_dumpStrs _, .str _, nofun⟩

/-- The JSON form of an answer is JSON. -/
theorem ofJson_dumpInvestigatorOutput (isoformat : DateTime → String)
    (v : InvestigatorOutput) : (dumpInvestigatorOutput isoformat v).OfJson := by
  apply Value.OfJson.dict
  simp only [List.forall_mem_cons]
  refine ⟨.list ?_, .str _, .str _, nofun⟩
  intro x hx
  obtain ⟨h, -, rfl⟩ := List.mem_map.mp hx
  exact ofJson_dumpHypothesis isoformat h

/-- When a hypothesis was made is no JSON value. -/
theorem not_isValid_hypothesis {x : WireValue} (h : x.OfJson) : ¬ (hypothesis x).IsValid := by
  cases h with
  | dict hitems =>
      intro hvalid
      simp only [hypothesis, model, isValid_ap_iff] at hvalid
      exact not_isValid_required hitems (fun _ => not_isValid_datetimeStrict) hvalid.2
  | _ => exact not_isValid_fail _

/-- An answer of the Investigator's LLM has no hypotheses. -/
theorem hypotheses_of_json {x : WireValue} (h : x.OfJson) {v : InvestigatorOutput}
    (hvalid : investigatorOutput x = .valid v) : v.hypotheses = [] := by
  cases h with
  | dict hitems =>
      simp only [investigatorOutput, model, ap_eq_valid_iff] at hvalid
      obtain ⟨_, _, ⟨_, _, ⟨_, hyps, hmk, hhyps, hf⟩, -, hg⟩, -, hv⟩ := hvalid
      cases hmk
      subst hf hg hv
      -- The list that was given, if it has elements, has hypotheses for elements.
      rw [required] at hhyps
      cases hlookup : List.lookup "hypotheses" _ with
      | none =>
          rw [hlookup] at hhyps
          cases hhyps
      | some y =>
          rw [hlookup] at hhyps
          have hy := ofJson_of_lookup hitems hlookup
          rw [at_eq_valid_iff] at hhyps
          cases hy with
          | list helems =>
              exact eq_nil_of_elems (fun x hx => not_isValid_hypothesis (helems x hx)) hhyps
          | _ => cases hhyps
  | _ => cases hvalid

end AlphE.Llm
