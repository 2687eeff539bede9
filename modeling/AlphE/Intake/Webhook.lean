import AlphE.Schemas.Incident
import AlphE.Lib.PyText

/-!
The Alertmanager webhook (`intake/webhook.py`): a firing alert becomes the seed
state of an incident.
-/

namespace AlphE.Intake

/-- A single alert of an Alertmanager payload. -/
structure AlertmanagerAlert where
  status : String
  labels : InsertionDict String String := ∅
  annotations : InsertionDict String String := ∅
  startsAt : DateTime
  deriving DecidableEq, Repr

/-- What seeding reads from its surroundings. -/
structure IntakeEnv where
  now : DateTime
  lower : String → String
  uuid4Hex : String

/-- `_severity_from_label`. -/
def severityFromLabel (lower : String → String) (raw : Option String) : Severity :=
  let label := lower (raw.getD "")
  if label = "critical" ∨ label = "page" then .critical
  else if label = "high" ∨ label = "error" then .high
  else if label = "medium" ∨ label = "warning" ∨ label = "warn" then .medium
  else .low

/-- A value that is present and not the empty string. -/
def truthy (x : Option String) : Option String := x.filter fun s => !s.isEmpty

/-- `_service_from_labels`: the first of four labels that says something. -/
def serviceFromLabels (labels : InsertionDict String String) : String :=
  (["service", "app", "app_kubernetes_io_name", "job"].findSome? fun key =>
    truthy (labels.get? key)).getD "unknown"

def rawMessageOf (alert : AlertmanagerAlert) : String :=
  ((truthy (alert.annotations.get? "description")).or
    (truthy (alert.annotations.get? "summary"))).getD
      ((alert.labels.get? "alertname").getD "unknown-alert")

/-- `_seed_incident`. -/
def seedIncident (env : IntakeEnv) (alert : AlertmanagerAlert) (receiver : String) :
    IncidentState :=
  { incidentId := "inc_" ++ PyText.takeChars 10 env.uuid4Hex
    alert :=
      { source := "alertmanager:" ++ receiver
        rawMessage := rawMessageOf alert
        service := serviceFromLabels alert.labels
        severity := severityFromLabel env.lower (alert.labels.get? "severity")
        firedAt := alert.startsAt
        labels := alert.labels }
    phase := .intake
    createdAt := env.now
    updatedAt := env.now }

/-- A firing alert is accepted, any other one ignored: the seeds of a batch. -/
def seedBatch (env : ℕ → IntakeEnv) (alerts : List AlertmanagerAlert)
    (receiver : String) : List IncidentState :=
  (alerts.filter fun alert => alert.status = "firing").mapIdx fun i alert =>
    seedIncident (env i) alert receiver

/-- Every seed starts the investigation from nothing. -/
theorem seedBatch_fresh (env : ℕ → IntakeEnv) (alerts : List AlertmanagerAlert)
    (receiver : String) :
    ∀ seed ∈ seedBatch env alerts receiver,
      seed.hypotheses = [] ∧ seed.actionIntents = [] ∧ seed.investigationAttempts = 0 := by
  intro seed hmem
  rw [seedBatch, List.mem_mapIdx] at hmem
  obtain ⟨i, hi, rfl⟩ := hmem
  exact ⟨rfl, rfl, rfl⟩

end AlphE.Intake
