import AlphE.Coordinator.Preflight
import AlphE.Coordinator.Exec
import AlphE.Coordinator.Escalation
import Mathlib.Tactic.NormNum

/-!
The Coordinator node (`nodes/coordinator.py`): verify every intent before any
side effect, re-check the preconditions, execute, compensate. Each step is a
definition of its own; `coordinatorAsync` is the composition, with the exits
of the source in the source's order.

The verifier is a function that accepts an intent or raises with a text. The
executor is an `Executor`. Besides the returned update the model keeps what
the update does not show: the calls made on the executor, and the escalation
package that goes to the log.
-/

namespace AlphE.Coordinator

/-- What one invocation reads from its surroundings: the clock, one value for
the whole invocation, and what the executor reads. -/
structure CoordinatorEnv extends ExecEnv where
  isprintable : Char → Bool

def actor : String := "orchestrator:coordinator"

def makeEvent (env : CoordinatorEnv) (eventType : String)
    (refId : Option String) : TimelineEvent :=
  { ts := env.now, actor := actor, eventType := eventType, refId := refId }

/-- The dictionary the node returns; every exit writes the same channels. -/
structure CoordinatorUpdate where
  phase : IncidentPhase
  timeline : List TimelineEvent
  updatedAt : DateTime
  actionsTaken : List Action
  deriving DecidableEq, Repr

def CoordinatorUpdate.toStateUpdate (u : CoordinatorUpdate) : StateUpdate :=
  { phase := some u.phase
    timeline := some u.timeline
    updatedAt := some u.updatedAt
    actionsTaken := some u.actionsTaken }

structure CoordinatorResult where
  update : CoordinatorUpdate
  escalation : Option EscalationPackage := none
  calls : List ExecutorCall := []

/-- `_escalate`: build the package, log it, record the event. -/
def escalate (env : CoordinatorEnv) (state : IncidentState)
    (timeline : List TimelineEvent) (actionsTaken : List Action)
    (failureReasons extraNextSteps : List String) (calls : List ExecutorCall) :
    CoordinatorResult :=
  let package := buildEscalationPackage state failureReasons extraNextSteps
    (some actionsTaken)
  { update :=
      { phase := .escalated
        timeline := timeline ++
          [makeEvent env "coordinator.escalated" (some package.incidentId)]
        updatedAt := env.now
        actionsTaken := actionsTaken }
    escalation := some package
    calls := calls }

/-! ### Step 1: signature verification -/

/-- The verification loop: the intents verified so far, or the first one that
is rejected, with the text of the exception. -/
def verifyIntents (verify : ActionIntent → Except String Unit) :
    List ActionIntent → List ActionIntent →
      Except (ActionIntent × String) (List ActionIntent)
  | [], verified => .ok verified
  | intent :: intents, verified =>
      match verify intent with
      | .ok () => verifyIntents verify intents (verified ++ [intent])
      | .error exc => .error (intent, exc)

/-- The failed action recorded for a rejected intent. -/
def verifyFailAction (env : CoordinatorEnv) (intent : ActionIntent)
    (exc : String) : Action :=
  { id := "verify-fail-" ++ PyText.takeChars 8 intent.hash
    type := intent.actionType
    description := "Verification failed: " ++ exc
    status := .failed
    intentHash := some intent.hash
    executedAt := some env.now }

/-- Fail closed: nothing is executed once an intent is rejected. -/
def rejectIntent (env : CoordinatorEnv) (state : IncidentState)
    (timeline : List TimelineEvent) (intent : ActionIntent) (exc : String) :
    CoordinatorResult :=
  escalate env state
    (timeline ++
      [makeEvent env "coordinator.verification_failed" (some intent.hash)])
    (state.actionsTaken ++ [verifyFailAction env intent exc])
    ["Intent " ++ PyText.reprStr env.isprintable intent.hash ++
      " failed verification: " ++ exc]
    ["Review ActionIntent signing pipeline (F-05)."] []

/-! ### Step 4: execution -/

/-- The variables of the execution loop. -/
structure ExecLoop (σ : Type) where
  executor : σ
  actionsTaken : List Action
  timeline : List TimelineEvent
  failureReasons : List String := []
  calls : List ExecutorCall := []
  failedIntent : Option ActionIntent := none

def execFailAction (env : CoordinatorEnv) (intent : ActionIntent)
    (exc : String) : Action :=
  { id := "exec-fail-" ++ PyText.takeChars 8 intent.hash
    type := intent.actionType
    description := "Execution failed: " ++ exc
    status := .failed
    intentHash := some intent.hash
    executedAt := some env.now }

/-- The execution loop; it stops at the first call that raises. -/
def executeIntents {σ : Type} (env : CoordinatorEnv) (executor : Executor σ) :
    List ActionIntent → ExecLoop σ → ExecLoop σ
  | [], loop => loop
  | intent :: intents, loop =>
      match executor.execute loop.executor intent with
      | (.ok (record, action), ex) =>
          executeIntents env executor intents
            { loop with
              executor := ex
              actionsTaken := loop.actionsTaken ++ [action]
              timeline := loop.timeline ++
                [makeEvent env "coordinator.executed" (some intent.hash)]
              calls := loop.calls ++ [.execute intent (.ok (record, action))] }
      | (.error exc, ex) =>
          { executor := ex
            actionsTaken := loop.actionsTaken ++ [execFailAction env intent exc]
            timeline := loop.timeline ++
              [makeEvent env "coordinator.execution_failed" (some intent.hash)]
            failureReasons := loop.failureReasons ++
              ["Execution of intent " ++ PyText.reprStr env.isprintable intent.hash ++
                " raised: " ++ exc]
            calls := loop.calls ++ [.execute intent (.error exc)]
            failedIntent := some intent }

/-! ### Step 5: compensation -/

/-- Only the intent whose execution raised is compensated. -/
def compensateFailed {σ : Type} (env : CoordinatorEnv) (executor : Executor σ)
    (state : IncidentState) (loop : ExecLoop σ) (failed : ActionIntent) :
    CoordinatorResult :=
  let extra := ["Verify compensation was effective before retrying."]
  match executor.compensate loop.executor failed with
  | (.ok (record, action), _) =>
      escalate env state
        (loop.timeline ++
          [makeEvent env "coordinator.compensated" (some failed.hash)])
        (loop.actionsTaken ++ [action]) loop.failureReasons extra
        (loop.calls ++ [.compensate failed (.ok (record, action))])
  | (.error exc, _) =>
      escalate env state
        (loop.timeline ++
          [makeEvent env "coordinator.compensation_failed" (some failed.hash)])
        loop.actionsTaken
        (loop.failureReasons ++
          ["Compensation for intent " ++ PyText.reprStr env.isprintable failed.hash ++
            " also failed: " ++ exc])
        extra (loop.calls ++ [.compensate failed (.error exc)])

/-- Steps 4 and 5, and the exit after a loop that ran to its end. -/
def executeVerified {σ : Type} (env : CoordinatorEnv) (executor : Executor σ)
    (state : IncidentState) (timeline : List TimelineEvent)
    (verified : List ActionIntent) : CoordinatorResult :=
  let loop := executeIntents env executor verified
    { executor := executor.init
      actionsTaken := state.actionsTaken
      timeline := timeline }
  match loop.failedIntent with
  | some failed => compensateFailed env executor state loop failed
  | none =>
      if loop.failureReasons.isEmpty then
        { update :=
            { phase := .resolved
              timeline := loop.timeline ++ [makeEvent env "coordinator.resolved" none]
              updatedAt := env.now
              actionsTaken := loop.actionsTaken }
          calls := loop.calls }
      else
        escalate env state loop.timeline loop.actionsTaken loop.failureReasons []
          loop.calls

/-! ### The node -/

def noOpAction (env : CoordinatorEnv) : Action :=
  { id := "coordinator-no-op"
    type := .noOp
    description := "Incident self-resolved before coordinator could act."
    status := .succeeded
    executedAt := some env.now }

/-- Steps 2 to 5, once every intent is verified. -/
def afterVerification {σ : Type} (env : CoordinatorEnv) (executor : Executor σ)
    (state : IncidentState) (timeline : List TimelineEvent)
    (verified : List ActionIntent) : CoordinatorResult :=
  let preflight := checkPreflight state verified
  let timeline := timeline ++
    [makeEvent env ("coordinator.preflight." ++ preflight.outcome.value) none]
  match preflight.outcome with
  | .diagnosisInvalidated =>
      { update :=
          { phase := .investigating
            timeline := timeline
            updatedAt := env.now
            actionsTaken := state.actionsTaken } }
  | .parameterDrift =>
      if state.actionIntents.isEmpty then
        -- The Planner chose `type=none`: there is nothing to plan again.
        escalate env state timeline state.actionsTaken
          ["No ActionIntents available (Planner produced type=none or no intents)."]
          [] []
      else
        { update :=
            { phase := .planning
              timeline := timeline
              updatedAt := env.now
              actionsTaken := state.actionsTaken } }
  | .alreadyResolved =>
      { update :=
          { phase := .resolved
            timeline := timeline ++ [makeEvent env "coordinator.resolved.no_op" none]
            updatedAt := env.now
            actionsTaken := state.actionsTaken ++ [noOpAction env] } }
  | .ok =>
      if verified.isEmpty then
        escalate env state timeline state.actionsTaken
          ["No executable ActionIntents available after verification."] [] []
      else
        executeVerified env executor state timeline verified

/-- `_coordinator_async`. -/
def coordinatorAsync {σ : Type} (env : CoordinatorEnv)
    (verify : ActionIntent → Except String Unit) (executor : Executor σ)
    (state : IncidentState) : CoordinatorResult :=
  let timeline := state.timeline ++ [makeEvent env "coordinator.started" none]
  match verifyIntents verify state.actionIntents [] with
  | .error (intent, exc) => rejectIntent env state timeline intent exc
  | .ok verified => afterVerification env executor state timeline verified

/-- `coordinator_node`: the node as the graph runs it, with the executor it
constructs. -/
def coordinatorNode (env : CoordinatorEnv)
    (verify : ActionIntent → Except String Unit) (state : IncidentState) :
    CoordinatorResult :=
  coordinatorAsync env verify (coordinatorExecutor env.toExecEnv) state

/-! ### The incident of the unit tests

The concrete state the witnesses and counterexamples below run on. -/

def testEnv : CoordinatorEnv :=
  { now := testNow
    uuid4 := fun n => "uuid-" ++ toString n
    kubeconfigAgent := none
    isprintable := fun _ => true }

def testState (hypotheses : List Hypothesis) (intents : List ActionIntent) :
    IncidentState :=
  { incidentId := "inc_test"
    alert :=
      { source := "test"
        rawMessage := "PodOOMKilled: leaky-service"
        service := "leaky-service"
        severity := .high
        firedAt := testNow }
    hypotheses := hypotheses
    actionIntents := intents
    phase := .fixing
    createdAt := testNow
    updatedAt := testNow }

def testHypothesis (status : HypothesisStatus) : Hypothesis :=
  { id := "hyp_1"
    text := "Memory leak in leaky-service"
    score := ⟨9 / 10, by norm_num⟩
    status := status
    createdAt := testNow }

end AlphE.Coordinator
