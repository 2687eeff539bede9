import AlphE.Collectors.Evidence
import Mathlib.Tactic.NormNum

/-!
The kube collector (`collectors/internal/kube`, `cmd/kube-collector`): a
question is parsed into one read of the Kubernetes API, and what the read
returns, or the error it fails with, is summarised. A collector without a
kubeconfig is degraded and answers every question with the reason.

An API object is known by the fields the summaries use, beside its JSON.
-/

namespace AlphE.Collectors

open Go

namespace Kube

/-! ### The Kubernetes API -/

structure Terminated where
  exitCode : Int32
  reason : String
  finishedAt : Time

structure ContainerStatus where
  name : String
  restartCount : Int32
  lastTerminated : Option Terminated

structure Pod where
  name : String
  phase : String
  containerStatuses : List ContainerStatus

structure Event where
  lastTimestamp : Time
  reason : String
  message : String

structure DeploymentCondition where
  type : String
  status : String
  message : String

structure Deployment where
  specReplicas : Option Int32
  readyReplicas : Int32
  conditions : List DeploymentCondition

/-- What the API returns, with the JSON that is stored of it. -/
structure Read (α : Type) where
  object : α
  raw : GoString

/-- The reads of a clientset; each returns or fails with the text of its error. -/
structure Clientset where
  listPods : (ns : String) → Except GoString (Read (List Pod))
  listEvents : (ns fieldSelector : String) → Except GoString (Read (List Event))
  getDeployment : (ns name : String) → Except GoString (Read Deployment)

/-! ### Questions -/

inductive QueryKind
  | podStatus | podEvents | deployStatus | default
  deriving DecidableEq, Repr

structure ParsedQuery where
  kind : QueryKind
  ns : String
  name : String := ""
  deriving DecidableEq, Repr

/-- `scope_services[0]` up to a slash. -/
def defaultNamespace : List String → String
  | [] => "demo"
  | scope :: _ =>
      let first := match cut scope '/' with
        | some (before, _) => before
        | none => scope
      if first ≠ "" then first else "demo"

def parseScopedName (kind : QueryKind) (arg defaultNs : String) : ParsedQuery :=
  match cut (trimSpace arg) '/' with
  | some (ns, name) => { kind := kind, ns := ns, name := name }
  | none => { kind := kind, ns := defaultNs, name := trimSpace arg }

def parseQuestion (inp : CollectorInput) : ParsedQuery :=
  let ns := defaultNamespace inp.scopeServices
  let q := trimSpace inp.question
  if hasPrefix q "pod:status " then
    { kind := .podStatus, ns := trimSpace (trimPrefix q "pod:status ") }
  else if hasPrefix q "pod:events " then
    parseScopedName .podEvents (trimPrefix q "pod:events ") ns
  else if hasPrefix q "deploy:status " then
    parseScopedName .deployStatus (trimPrefix q "deploy:status ") ns
  else { kind := .default, ns := ns }

/-! ### Dispatch -/

structure DispatchResult where
  rawBody : GoString
  summary : GoString
  confidence : Float64
  queryCount : Int

/-- An API error, verbatim and with no confidence. -/
def errResult (raw err : GoString) (queryCount : Int) : DispatchResult :=
  { rawBody := raw
    summary := utf8 "kubernetes API error: " ++ err
    confidence := .fin 0
    queryCount := queryCount }

/-- One read: its summary, as sure as reads of its kind are, or its error. -/
def dispatchRead {α : Type} (read : Except GoString (Read α)) (summary : α → String)
    (confidence : ℚ) : DispatchResult :=
  match read with
  | .error err => errResult [] err 1
  | .ok read =>
      { rawBody := read.raw
        summary := utf8 (summary read.object)
        confidence := .fin confidence
        queryCount := 1 }

def nsText (pq : ParsedQuery) : String := pq.ns ++ "/" ++ pq.name

section Dispatch

variable (isPrint : Char → Bool) (cs : Clientset) (pq : ParsedQuery)

def podRestarts (pod : Pod) : Int32 :=
  pod.containerStatuses.foldl (fun restarts s => restarts + s.restartCount) 0

def buildPodStatusSummary (pods : List Pod) : String :=
  if pods = [] then "no pods found in namespace " ++ quote isPrint (utf8 pq.ns)
  else String.intercalate " "
    ((toString pods.length ++ " pod(s) in namespace " ++ quote isPrint (utf8 pq.ns) ++ ":") ::
      pods.map fun pod => "[" ++ pod.name ++ " phase=" ++ pod.phase ++ " restarts=" ++
        toString (podRestarts pod).toInt ++ "]")

def dispatchPodStatus : DispatchResult :=
  dispatchRead (cs.listPods pq.ns) (buildPodStatusSummary isPrint pq) (1 / 2)

def fieldSelector : String :=
  "involvedObject.name=" ++ pq.name ++ ",involvedObject.namespace=" ++ pq.ns ++
    ",involvedObject.kind=Pod"

/-- The events by their last timestamp; equal ones keep their order. -/
def sortEvents (events : List Event) : List Event :=
  events.mergeSort fun e f => e.lastTimestamp.nanos ≤ f.lastTimestamp.nanos

def buildEventsSummary (events : List Event) : String :=
  if events = [] then "no events found for pod " ++ nsText pq
  else String.intercalate " "
    ((toString events.length ++ " event(s) for pod " ++ nsText pq ++ " (chronological):") ::
      events.map fun e => "[" ++ e.lastTimestamp.utc.rfc3339 ++ " " ++ e.reason ++ ": " ++
        e.message ++ "]")

def dispatchPodEvents : DispatchResult :=
  dispatchRead (cs.listEvents pq.ns (fieldSelector pq))
    (fun events => buildEventsSummary pq (sortEvents events)) (1 / 2)

/-- The last condition that says whether the deployment is available. -/
def availableText (conditions : List DeploymentCondition) : String :=
  conditions.foldl (fun text c =>
    if c.type = "Available" then "Available=" ++ c.status ++ " (" ++ c.message ++ ")"
    else text) ""

def deploySummary (deploy : Deployment) : String :=
  let desired := deploy.specReplicas.getD 0
  let ready := deploy.readyReplicas
  "deploy " ++ nsText pq ++ ": desired=" ++ toString desired.toInt ++ " ready=" ++
    toString ready.toInt ++ " rollout_complete=" ++ toString (ready == desired) ++ " " ++
    availableText deploy.conditions

def dispatchDeployStatus : DispatchResult :=
  dispatchRead (cs.getDeployment pq.ns pq.name) (deploySummary pq) 1

/-- The containers whose last state is terminated, with their pods' names. -/
def terminatedPods (pods : List Pod) : List (String × String × Terminated) :=
  pods.flatMap fun pod => pod.containerStatuses.filterMap fun s =>
    s.lastTerminated.map fun t => (pod.name, s.name, t)

def buildTerminatedSummary (rows : List (String × String × Terminated)) : String :=
  if rows.isEmpty then
    "no pods with terminated lastState found in namespace " ++ quote isPrint (utf8 pq.ns)
  else String.intercalate " "
    ((toString rows.length ++ " terminated container(s) in namespace " ++
      quote isPrint (utf8 pq.ns) ++ ":") ::
      rows.map fun (pod, container, t) => "[pod=" ++ pod ++ " container=" ++ container ++
        " exitCode=" ++ toString t.exitCode.toInt ++ " reason=" ++ t.reason ++
        " finishedAt=" ++ t.finishedAt.utc.rfc3339 ++ "]")

def dispatchDefault : DispatchResult :=
  dispatchRead (cs.listPods pq.ns)
    (fun pods => buildTerminatedSummary isPrint pq (terminatedPods pods)) (1 / 2)

/-- `Dispatch`, from the parsed question on. -/
def dispatchQuery : DispatchResult :=
  match pq.kind with
  | .podStatus => dispatchPodStatus isPrint cs pq
  | .podEvents => dispatchPodEvents cs pq
  | .deployStatus => dispatchDeployStatus cs pq
  | .default => dispatchDefault isPrint cs pq

end Dispatch

def dispatch (isPrint : Char → Bool) (cs : Clientset) (inp : CollectorInput) :
    DispatchResult :=
  dispatchQuery isPrint cs (parseQuestion inp)

/-! ### Collect -/

/-- Next steps for the Investigator: how to repair the access, or where to look
deeper after a list. -/
def suggestedFollowups (inp : CollectorInput) (dr : DispatchResult) :
    Option (List String) :=
  if dr.confidence.eq (.fin 0) then
    some ["verify RBAC permissions: kubectl auth can-i list pods --as=<serviceaccount>",
      "check kubeconfig path in KUBECONFIG_AGENT / KUBECONFIG env vars"]
  else
    match inp.scopeServices with
    | ns :: _ =>
        if dr.confidence.lt (.fin 1) then
          some ["pod:events " ++ ns ++ "/<pod-name> -- check per-pod OOM events",
            "deploy:status " ++ ns ++ "/<name> -- check rollout health"]
        else none
    | [] => none

/-- The blob that is stored where the API returned none. -/
def fallbackPayload (isPrint : Char → Bool) (inp : CollectorInput) (summary : GoString) :
    GoString :=
  utf8 ("\x7b\"question\":" ++ quote isPrint (utf8 inp.question) ++ ",\"scope\":" ++
    quoteAll isPrint inp.scopeServices ++ ",\"summary\":" ++ quote isPrint summary ++ "\x7d")

def putRequest (isPrint : Char → Bool) (inp : CollectorInput) (dr : DispatchResult) :
    PutRequest :=
  { incidentId := inp.incidentId
    contentType := "application/json"
    payload := if dr.rawBody = [] then fallbackPayload isPrint inp dr.summary
      else dr.rawBody }

def answer (env : CollectEnv) (inp : CollectorInput) (dr : DispatchResult)
    (ref : EvidenceRef) : CollectorOutput :=
  { finding :=
      { id := "f_" ++ ref.evidenceId
        collectorName := "kube"
        question := inp.question
        summary := dr.summary
        evidenceId := ref.evidenceId
        confidence := dr.confidence
        suggestedFollowups := suggestedFollowups inp dr
        createdAt := env.now.utc }
    evidence := ref
    toolCallsUsed := dr.queryCount }

/-- `kubeCollector.Collect`. -/
def collect (cs : Clientset) (env : CollectEnv) (inp : CollectorInput) :
    Except GoString CollectorOutput :=
  let dr := dispatch env.put.fmt.isPrint cs inp
  withEvidence env (putRequest env.put.fmt.isPrint inp dr) (answer env inp dr)

/-! ### A collector without a kubeconfig -/

def degradedPutRequest (isPrint : Char → Bool) (kubeErr : GoString) (inp : CollectorInput) :
    PutRequest :=
  { incidentId := inp.incidentId
    contentType := "application/json"
    payload := utf8 ("\x7b\"error\":" ++ quote isPrint kubeErr ++ "\x7d") }

def degradedAnswer (kubeErr : GoString) (env : CollectEnv) (inp : CollectorInput)
    (ref : EvidenceRef) : CollectorOutput :=
  { finding :=
      { id := "f_" ++ ref.evidenceId
        collectorName := "kube"
        question := inp.question
        summary := utf8 "kube-collector unavailable: " ++ kubeErr
        evidenceId := ref.evidenceId
        confidence := .fin 0
        suggestedFollowups := some
          ["verify KUBECONFIG_AGENT / KUBECONFIG env vars point to a readable kubeconfig",
            "check kubeconfig file permissions and cluster server URL"]
        createdAt := env.now.utc }
    evidence := ref }

/-- `degradedCollector.Collect`. -/
def degradedCollect (kubeErr : GoString) (env : CollectEnv) (inp : CollectorInput) :
    Except GoString CollectorOutput :=
  withEvidence env (degradedPutRequest env.put.fmt.isPrint kubeErr inp)
    (degradedAnswer kubeErr env inp)

/-! ### What a question is answered with -/

def errorOf {ε α : Type} : Except ε α → Option ε
  | .error err => some err
  | .ok _ => none

/-- The error of the read that a question leads to. -/
def apiError (cs : Clientset) (pq : ParsedQuery) : Option GoString :=
  match pq.kind with
  | .podStatus => errorOf (cs.listPods pq.ns)
  | .podEvents => errorOf (cs.listEvents pq.ns (fieldSelector pq))
  | .deployStatus => errorOf (cs.getDeployment pq.ns pq.name)
  | .default => errorOf (cs.listPods pq.ns)

/-- How sure the collector is of a read: a deployment is one object, the others are
lists. -/
def readConfidence : QueryKind → ℚ
  | .deployStatus => 1
  | _ => 1 / 2

/-- The summary of an error is text as far as the error is. -/
theorem validUtf8_errResult (raw err : GoString) (queryCount : Int) :
    validUtf8 (errResult raw err queryCount).summary = validUtf8 err := by
  rw [errResult, validUtf8_append, validUtf8_utf8, Bool.true_and]

theorem readConfidence_ne_zero (kind : QueryKind) : readConfidence kind ≠ 0 := by
  cases kind <;> norm_num [readConfidence]

theorem readConfidence_lt_one_iff (kind : QueryKind) :
    readConfidence kind < 1 ↔ kind ≠ .deployStatus := by
  cases kind with
  | deployStatus => exact iff_of_false (lt_irrefl _) fun h => h rfl
  | podStatus => exact iff_of_true one_half_lt_one (by decide)
  | podEvents => exact iff_of_true one_half_lt_one (by decide)
  | default => exact iff_of_true one_half_lt_one (by decide)

theorem readConfidence_mem (kind : QueryKind) :
    0 ≤ readConfidence kind ∧ readConfidence kind ≤ 1 := by
  cases kind <;> norm_num [readConfidence]

section DispatchSpec

theorem dispatchRead_of_error {α : Type} {read : Except GoString (Read α)} {err : GoString}
    (h : errorOf read = some err) (summary : α → String) (confidence : ℚ) :
    dispatchRead read summary confidence = errResult [] err 1 := by
  cases read with
  | error err' =>
      cases h
      rfl
  | ok read => cases h

theorem dispatchRead_of_ok {α : Type} {read : Except GoString (Read α)}
    (h : errorOf read = none) (summary : α → String) (confidence : ℚ) :
    (∃ text, (dispatchRead read summary confidence).summary = utf8 text) ∧
      (dispatchRead read summary confidence).confidence = .fin confidence ∧
      (dispatchRead read summary confidence).queryCount = 1 := by
  cases read with
  | error err => cases h
  | ok read => exact ⟨⟨_, rfl⟩, rfl, rfl⟩

variable (isPrint : Char → Bool) {cs : Clientset} {pq : ParsedQuery}

/-- A failed read is surfaced verbatim. -/
theorem dispatchQuery_of_error {err : GoString} (h : apiError cs pq = some err) :
    dispatchQuery isPrint cs pq = errResult [] err 1 := by
  obtain ⟨kind, ns, name⟩ := pq
  cases kind with
  | podStatus => exact dispatchRead_of_error h _ _
  | podEvents =>
      show dispatchPodEvents cs _ = _
      exact dispatchRead_of_error h _ _
  | deployStatus => exact dispatchRead_of_error h _ _
  | default =>
      show dispatchDefault isPrint cs _ = _
      exact dispatchRead_of_error h _ _

/-- A read is summarised as text. -/
theorem dispatchQuery_of_read (h : apiError cs pq = none) :
    (∃ text, (dispatchQuery isPrint cs pq).summary = utf8 text) ∧
      (dispatchQuery isPrint cs pq).confidence = .fin (readConfidence pq.kind) ∧
      (dispatchQuery isPrint cs pq).queryCount = 1 := by
  obtain ⟨kind, ns, name⟩ := pq
  cases kind with
  | podStatus => exact dispatchRead_of_ok h _ _
  | podEvents =>
      rw [dispatchQuery, dispatchPodEvents]
      exact dispatchRead_of_ok h _ _
  | deployStatus => exact dispatchRead_of_ok h _ _
  | default =>
      rw [dispatchQuery, dispatchDefault]
      exact dispatchRead_of_ok h _ _

end DispatchSpec

section Followups

variable {inp : CollectorInput} {dr : DispatchResult}

theorem suggestedFollowups_of_zero (h : dr.confidence = .fin 0) :
    suggestedFollowups inp dr ≠ none := by
  rw [suggestedFollowups, h]
  exact Option.some_ne_none _

/-- Without an error, only a list with a scope leads anywhere. -/
theorem suggestedFollowups_of_read {kind : QueryKind}
    (h : dr.confidence = .fin (readConfidence kind)) :
    suggestedFollowups inp dr ≠ none ↔
      kind ≠ .deployStatus ∧ inp.scopeServices ≠ [] := by
  have hzero := readConfidence_ne_zero kind
  have hlt := readConfidence_lt_one_iff kind
  cases hscope : inp.scopeServices with
  | nil => simp [suggestedFollowups, h, hscope, Float64.eq, hzero]
  | cons ns scope => simp [suggestedFollowups, h, hscope, Float64.eq, Float64.lt, hzero, hlt]

end Followups

end Kube

end AlphE.Collectors
