import AlphE.Schemas.Remediation
import AlphE.Lib.PyText
import Mathlib.Data.List.Sort

/-!
The escalation package builder (`coordinator/escalation.py`).
-/

namespace AlphE.Coordinator

/-- `sorted(hs, key=score, reverse=True)`: descending, and stable. -/
def sortByScore (hs : List Hypothesis) : List Hypothesis :=
  hs.insertionSort fun g h => h.score.val ≤ g.score.val

def withStatus (status : HypothesisStatus) (hs : List Hypothesis) : List Hypothesis :=
  hs.filter fun h => h.status = status

def workingTheory (state : IncidentState) : String :=
  match sortByScore (withStatus .confirmed state.hypotheses),
      sortByScore (withStatus .«open» state.hypotheses) with
  | h :: _, _ =>
      "Confirmed root cause: " ++ h.text ++ " (score=" ++ PyText.format2f h.score ++ "). " ++
        "Automated remediation was not possible; human action required."
  | [], h :: _ =>
      "Most likely root cause (unconfirmed): " ++ h.text ++ " (score=" ++
        PyText.format2f h.score ++ "). " ++
        "Further investigation is needed before remediation."
  | [], [] =>
      "No hypothesis was confirmed during automated investigation. " ++
        "Alert: " ++ state.alert.rawMessage ++ " (service=" ++ state.alert.service ++ ")."

/-- The next step that mentions a compensating rollback. -/
def compensationHint : String :=
  "A compensating rollback was performed — " ++
    "verify the system returned to a known-good state."

/-- The fallback for a list of next steps that came out empty. -/
def orManualReview (steps : List String) : List String :=
  if steps.isEmpty then
    ["Manually review the incident timeline and alert labels."]
  else steps

theorem orManualReview_ne_nil (steps : List String) : orManualReview steps ≠ [] := by
  unfold orManualReview
  split
  · exact List.cons_ne_nil _ _
  · next h => simpa [List.isEmpty_iff] using h

def nextSteps (state : IncidentState) (reasons extraNextSteps : List String)
    (actions : List Action) : List String :=
  let confirmed := sortByScore (withStatus .confirmed state.hypotheses)
  let openHyps := sortByScore (withStatus .«open» state.hypotheses)
  orManualReview <|
    (confirmed.take 1).map (fun h => "Review confirmed hypothesis: " ++ h.text) ++
    (openHyps.take 2).map (fun h =>
      "Investigate open hypothesis: " ++ h.text ++ " (score=" ++
        PyText.format2f h.score ++ ")") ++
    (if reasons.isEmpty then []
      else ["Review automated attempt failure reasons listed above."]) ++
    (if state.servicesTouched.isEmpty then []
      else ["Inspect recently touched services: " ++
        PyText.join ", " state.servicesTouched]) ++
    (if actions.any fun a => a.type = .rollback then [compensationHint] else []) ++
    extraNextSteps

/-- `build_escalation_package`; `none` for the actions means the state's own.
No plans are kept on the state, so `attempts` stays empty. -/
def buildEscalationPackage (state : IncidentState) (failureReasons : List String)
    (extraNextSteps : List String) (actionsTaken : Option (List Action)) :
    EscalationPackage where
  incidentId := state.incidentId
  hypothesesConsidered := state.hypotheses
  keyFindings := state.findings
  attempts := []
  attemptFailureReasons := failureReasons
  currentWorkingTheory := workingTheory state
  suggestedNextSteps :=
    nextSteps state failureReasons extraNextSteps (actionsTaken.getD state.actionsTaken)

/-- A package never leaves the engineer without a next step. -/
theorem suggestedNextSteps_ne_nil (state : IncidentState)
    (failureReasons extraNextSteps : List String)
    (actionsTaken : Option (List Action)) :
    (buildEscalationPackage state failureReasons extraNextSteps
      actionsTaken).suggestedNextSteps ≠ [] :=
  orManualReview_ne_nil _

end AlphE.Coordinator
