import AlphE.Schemas.Incident
import AlphE.Lib.PyText
import Mathlib.Data.Finset.Insert

/-!
The idempotent action executor (`coordinator/exec.py`). Execution is a dry
run: what an execution leaves behind is an `ExecutionRecord` and the `Action`
for the state. The executor remembers the hashes it has executed in a set of
its own; that set lives and dies with the executor object, unless the caller
seeds it.

The Coordinator sees the executor through the interface `Executor`, which says
what a call may do: raise, or return a record and an action, the action bound
to the hash of the intent it was called with.
-/

namespace AlphE.Coordinator

/-- A record of an execution attempt, forward or compensating. -/
structure ExecutionRecord where
  recordId : String
  intentHash : String
  actionType : ActionType
  target : String
  parameters : Parameters := ∅
  isCompensation : Bool := false
  dryRun : Bool := true
  kubeconfigPath : Option String := none
  outcome : String := "dry_run_success"
  executedAt : DateTime
  notes : String := ""
  deriving DecidableEq, Repr

/-- What an executor call reads from its surroundings: the clock, the supply
of fresh uuids and the value of `KUBECONFIG_AGENT`. -/
structure ExecEnv where
  now : DateTime
  uuid4 : ℕ → String
  kubeconfigAgent : Option String

/-- The executor object. `evidence` answers whether the store accepts a
record; `persisted` is what it has accepted; `drawn` counts the uuids used. -/
structure IdempotentExecutor where
  evidence : Option (ExecutionRecord → Bool)
  executedHashes : Finset String
  persisted : List ExecutionRecord := []
  drawn : ℕ := 0

namespace IdempotentExecutor

/-- `IdempotentExecutor(evidence_client, already_executed=...)`. -/
def new (evidence : Option (ExecutionRecord → Bool)) (alreadyExecuted : Finset String) :
    IdempotentExecutor :=
  { evidence := evidence, executedHashes := alreadyExecuted }

/-- Writing a record to the evidence store is best-effort: whatever goes wrong
is logged, and the executor carries on. -/
def persistRecord (ex : IdempotentExecutor) (record : ExecutionRecord) :
    IdempotentExecutor :=
  match ex.evidence with
  | none => ex
  | some accepts =>
      if accepts record then { ex with persisted := ex.persisted ++ [record] } else ex

def execute (env : ExecEnv) (ex : IdempotentExecutor) (intent : ActionIntent) :
    (ExecutionRecord × Action) × IdempotentExecutor :=
  if intent.hash ∈ ex.executedHashes then
    let record : ExecutionRecord :=
      { recordId := env.uuid4 ex.drawn
        intentHash := intent.hash
        actionType := intent.actionType
        target := intent.target
        parameters := intent.parameters
        outcome := "skipped_idempotent"
        kubeconfigPath := env.kubeconfigAgent
        executedAt := env.now
        notes := "Idempotent skip — execution record already present." }
    let action : Action :=
      { id := env.uuid4 (ex.drawn + 1)
        type := intent.actionType
        description := "[idempotent-skip] " ++ intent.expectedEffect
        status := .succeeded
        intentHash := some intent.hash
        executedAt := some record.executedAt }
    ((record, action), { ex with drawn := ex.drawn + 2 })
  else
    let record : ExecutionRecord :=
      { recordId := env.uuid4 ex.drawn
        intentHash := intent.hash
        actionType := intent.actionType
        target := intent.target
        parameters := intent.parameters
        kubeconfigPath := env.kubeconfigAgent
        executedAt := env.now
        notes := "DRY-RUN: would execute " ++ intent.actionType.value ++ " on " ++
          intent.target ++ ". Expected effect: " ++ intent.expectedEffect }
    -- The hash is remembered before the record is persisted.
    let ex' := { ex with executedHashes := insert intent.hash ex.executedHashes }
    let action : Action :=
      { id := env.uuid4 (ex.drawn + 1)
        type := intent.actionType
        description := intent.expectedEffect
        status := .succeeded
        intentHash := some intent.hash
        executedAt := some record.executedAt }
    ((record, action), { ex'.persistRecord record with drawn := ex.drawn + 2 })

/-- The compensating action: always a record of its own, with the inverse
taken from `rollback_hint`. -/
def compensate (env : ExecEnv) (ex : IdempotentExecutor) (intent : ActionIntent) :
    (ExecutionRecord × Action) × IdempotentExecutor :=
  let record : ExecutionRecord :=
    { recordId := env.uuid4 ex.drawn
      intentHash := intent.hash
      actionType := .rollback
      target := intent.target
      parameters := intent.parameters
      isCompensation := true
      kubeconfigPath := env.kubeconfigAgent
      executedAt := env.now
      notes := "DRY-RUN compensation: " ++ intent.rollbackHint ++
        ". Original target: " ++ intent.target }
  let action : Action :=
    { id := env.uuid4 (ex.drawn + 1)
      type := .rollback
      description := "Compensation: " ++ intent.rollbackHint
      status := .succeeded
      intentHash := some intent.hash
      executedAt := some record.executedAt }
  ((record, action), { ex.persistRecord record with drawn := ex.drawn + 2 })

/-! ### What a call does to the seen-set -/

@[simp] theorem executedHashes_persistRecord (ex : IdempotentExecutor)
    (record : ExecutionRecord) :
    (ex.persistRecord record).executedHashes = ex.executedHashes := by
  unfold persistRecord
  split
  · rfl
  · split <;> rfl

theorem executedHashes_execute (env : ExecEnv) (ex : IdempotentExecutor)
    (intent : ActionIntent) :
    (ex.execute env intent).2.executedHashes =
      insert intent.hash ex.executedHashes := by
  unfold execute
  split
  · next h => exact (Finset.insert_eq_of_mem h).symm
  · exact executedHashes_persistRecord _ _

/-- The outcome label tells a first execution from a repeated one. -/
theorem execute_outcome (env : ExecEnv) (ex : IdempotentExecutor)
    (intent : ActionIntent) :
    (ex.execute env intent).1.1.outcome =
      if intent.hash ∈ ex.executedHashes then "skipped_idempotent"
      else "dry_run_success" := by
  unfold execute
  split <;> rfl

theorem execute_intentHash (env : ExecEnv) (ex : IdempotentExecutor)
    (intent : ActionIntent) :
    (ex.execute env intent).1.2.intentHash = some intent.hash := by
  unfold execute
  split <;> rfl

theorem execute_status (env : ExecEnv) (ex : IdempotentExecutor)
    (intent : ActionIntent) :
    (ex.execute env intent).1.2.status = .succeeded := by
  unfold execute
  split <;> rfl

end IdempotentExecutor

/-! ### The interface -/

/-- What an executor call ends in: an exception with its text, or a record and
the action for the state. -/
abbrev ExecOutcome := Except String (ExecutionRecord × Action)

/-- An executor as the Coordinator sees it. Calls may raise, and may depend on
everything that happened to the object before. -/
structure Executor (σ : Type) where
  init : σ
  execute : σ → ActionIntent → ExecOutcome × σ
  compensate : σ → ActionIntent → ExecOutcome × σ
  execute_binds : ∀ ex intent p, (execute ex intent).1 = .ok p →
    p.2.intentHash = some intent.hash
  compensate_binds : ∀ ex intent p, (compensate ex intent).1 = .ok p →
    p.2.intentHash = some intent.hash

/-- The executor the Coordinator constructs: no evidence client, nothing
seeded. Neither of its calls raises. -/
def coordinatorExecutor (env : ExecEnv) : Executor IdempotentExecutor where
  init := .new none ∅
  execute ex intent := (.ok (ex.execute env intent).1, (ex.execute env intent).2)
  compensate ex intent :=
    (.ok (ex.compensate env intent).1, (ex.compensate env intent).2)
  execute_binds := by
    rintro ex intent p h
    cases h
    exact IdempotentExecutor.execute_intentHash env ex intent
  compensate_binds := by
    rintro ex intent p h
    cases h
    rfl

/-- A call on the executor, with what it ended in. -/
inductive ExecutorCall
  | execute (intent : ActionIntent) (outcome : ExecOutcome)
  | compensate (intent : ActionIntent) (outcome : ExecOutcome)

end AlphE.Coordinator
