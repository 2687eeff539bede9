import AlphE.Schemas.Incident
import Mathlib.Tactic.SplitIfs

/-!
The precondition re-check (`coordinator/preflight.py`). It looks at the
hypotheses of the state and at whether there is anything to execute; the rules
are tried in the source's order and the first match wins.
-/

namespace AlphE.Coordinator

inductive PreflightOutcome
  | ok | diagnosisInvalidated | parameterDrift | alreadyResolved
  deriving DecidableEq, Repr

def PreflightOutcome.value : PreflightOutcome → String
  | .ok => "ok"
  | .diagnosisInvalidated => "diagnosis_invalidated"
  | .parameterDrift => "parameter_drift"
  | .alreadyResolved => "already_resolved"

structure PreflightResult where
  outcome : PreflightOutcome
  reason : String := ""
  deriving DecidableEq, Repr

/-- `h.status in ("refuted", "abandoned")`. -/
def terminalNegative (h : Hypothesis) : Bool :=
  h.status = .refuted || h.status = .abandoned

def checkPreflight (state : IncidentState) (intents : List ActionIntent) :
    PreflightResult :=
  if intents.isEmpty then
    if state.hypotheses.isEmpty then
      { outcome := .alreadyResolved
        reason := "No action intents and no hypotheses — incident appears resolved." }
    else
      { outcome := .parameterDrift
        reason := "No action intents present; routing to Planner for a fresh intent." }
  else if !state.hypotheses.isEmpty && state.hypotheses.all terminalNegative then
    { outcome := .diagnosisInvalidated
      reason := "All hypotheses are refuted or abandoned; " ++
        "the Planner's diagnosis no longer holds." }
  else
    let confirmed := state.hypotheses.filter fun h => h.status = .confirmed
    if confirmed.isEmpty && !state.hypotheses.isEmpty then
      { outcome := .parameterDrift
        reason := "No confirmed hypothesis found at execution time; " ++
          "routing to Planner for fresh intent with current conditions." }
    else if state.hypotheses.isEmpty then
      { outcome := .alreadyResolved
        reason := "No hypotheses in state; incident appears to have self-resolved." }
    else
      { outcome := .ok
        reason := "Preconditions satisfied; proceeding with execution." }

/-- Some hypothesis of the state is confirmed. -/
def HasConfirmed (state : IncidentState) : Prop :=
  ∃ h ∈ state.hypotheses, h.status = .confirmed

instance (state : IncidentState) : Decidable (HasConfirmed state) :=
  inferInstanceAs (Decidable (∃ h ∈ state.hypotheses, h.status = .confirmed))

theorem hasConfirmed_congr {s t : IncidentState} (h : s.hypotheses = t.hypotheses) :
    HasConfirmed s ↔ HasConfirmed t := by
  unfold HasConfirmed
  rw [h]

theorem HasConfirmed.hypotheses_ne_nil {state : IncidentState}
    (h : HasConfirmed state) : state.hypotheses ≠ [] := by
  obtain ⟨g, hg, -⟩ := h
  exact List.ne_nil_of_mem hg

theorem not_all_terminalNegative {state : IncidentState}
    (h : HasConfirmed state) : state.hypotheses.all terminalNegative = false := by
  obtain ⟨g, hg, hstatus⟩ := h
  rw [List.all_eq_false]
  exact ⟨g, hg, by simp [terminalNegative, hstatus]⟩

theorem filter_confirmed_isEmpty (state : IncidentState) :
    (state.hypotheses.filter fun h => h.status = .confirmed).isEmpty =
      decide (¬ HasConfirmed state) := by
  rw [Bool.eq_iff_iff, decide_eq_true_iff, List.isEmpty_iff, List.filter_eq_nil_iff]
  simp [HasConfirmed]

/-- The outcome of the re-check, without the texts. -/
theorem checkPreflight_outcome (state : IncidentState)
    (intents : List ActionIntent) :
    (checkPreflight state intents).outcome =
      if intents.isEmpty then
        if state.hypotheses.isEmpty then .alreadyResolved else .parameterDrift
      else if !state.hypotheses.isEmpty && state.hypotheses.all terminalNegative then
        .diagnosisInvalidated
      else if decide (¬ HasConfirmed state) && !state.hypotheses.isEmpty then
        .parameterDrift
      else if state.hypotheses.isEmpty then .alreadyResolved
      else .ok := by
  simp only [checkPreflight, filter_confirmed_isEmpty,
    apply_ite PreflightResult.outcome]

/-- Execution is let through exactly when there is something to execute and a
hypothesis is confirmed. -/
theorem checkPreflight_ok_iff (state : IncidentState)
    (intents : List ActionIntent) :
    (checkPreflight state intents).outcome = .ok ↔
      intents ≠ [] ∧ HasConfirmed state := by
  rw [checkPreflight_outcome]
  cases intents with
  | nil => cases state.hypotheses <;> simp
  | cons i is =>
      by_cases hc : HasConfirmed state
      · have hne := hc.hypotheses_ne_nil
        simp [hc, hne, not_all_terminalNegative hc]
      · cases hs : state.hypotheses with
        | nil => simp [hc]
        | cons g gs =>
            simp only [hc, not_false_eq_true, decide_true, List.isEmpty_cons]
            split_ifs <;> simp_all

/-- With nothing to execute, the outcome tells an empty list of hypotheses
from a non-empty one. -/
theorem checkPreflight_nil (state : IncidentState) :
    (checkPreflight state []).outcome =
      if state.hypotheses.isEmpty then .alreadyResolved else .parameterDrift := by
  rw [checkPreflight_outcome]
  rfl

end AlphE.Coordinator
