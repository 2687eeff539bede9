import AlphE.Nodes.Repair

/-!
The Dev agent itself (`run_dev` of `nodes/dev.py`), with the diff validator it
asks (`dev/diff_validator.py`).

One run makes one call of the LLM, or two: when the diffs of the first answer do
not validate, the second call is told which of them failed and why. What a run
returns is kept together with the calls it made. The parser of unified diffs is
a parameter, which returns the number of files in a patch set or the text of its
error, and so are the snapshot of a repository and the spelling of a float in
the prompt.
-/

namespace AlphE.Nodes

/-! ### Validating the diffs -/

/-- What `validate_file_changes` raises: the plain `ValueError` for an empty
list, or a `DiffValidationError` with a detail for each file that failed. -/
inductive ChangesError
  | noChanges
  | invalidDiffs (failures : InsertionDict (String × String) String)
  deriving DecidableEq

/-- The failures as the messages list them. -/
def failureLines (bullet : String) (failures : InsertionDict (String × String) String) :
    List String :=
  failures.items.map fun p => bullet ++ p.1.1 ++ "/" ++ p.1.2 ++ ": " ++ p.2

/-- `str(exc)`. -/
def ChangesError.text : ChangesError → String
  | .noChanges => "FixProposal.changes must contain at least one FileChange."
  | .invalidDiffs failures =>
      "Diff validation failed for " ++ toString failures.items.length ++ " file(s):\n" ++
        PyText.join "\n" (failureLines "  " failures)

/-- The failures `run_dev` goes on with: none for the plain `ValueError`. -/
def ChangesError.failures : ChangesError → InsertionDict (String × String) String
  | .noChanges => ∅
  | .invalidDiffs failures => failures

section Validation

variable (patchSet : String → Except String ℕ)

/-- What is wrong with one diff, if anything is. -/
def diffFailure (change : FileChange) : Option String :=
  let diffText := PyText.strip change.diff
  if diffText.isEmpty then some "diff is empty"
  else
    match patchSet diffText with
    | .error exc => some exc
    | .ok 0 => some "diff parsed but contains no hunks"
    | .ok (_ + 1) => none

/-- One pass of the loop: a failure is filed under the file it is about. -/
def recordFailure (failures : InsertionDict (String × String) String)
    (change : FileChange) : InsertionDict (String × String) String :=
  match diffFailure patchSet change with
  | some detail => failures.set (change.repo, change.path) detail
  | none => failures

/-- `validate_file_changes`. -/
def validateFileChanges (changes : List FileChange) : Except ChangesError Unit :=
  if changes.isEmpty then .error .noChanges
  else
    let failures := changes.foldl (recordFailure patchSet) ∅
    if failures.items.isEmpty then .ok () else .error (.invalidDiffs failures)

/-- `is_valid_diff`. -/
def isValidDiff (diffText : String) : Bool :=
  if (PyText.strip diffText).isEmpty then false
  else
    match patchSet (PyText.strip diffText) with
    | .ok n => decide (0 < n)
    | .error _ => false

/-- A file that failed stays on record, also when a later change of the same
file is fine. -/
theorem items_foldl_recordFailure_eq_nil_iff (changes : List FileChange)
    (failures : InsertionDict (String × String) String) :
    (changes.foldl (recordFailure patchSet) failures).items = [] ↔
      failures.items = [] ∧ ∀ change ∈ changes, diffFailure patchSet change = none := by
  induction changes generalizing failures with
  | nil => simp
  | cons change changes ih =>
      rw [List.foldl_cons, ih, List.forall_mem_cons, recordFailure]
      cases hfailure : diffFailure patchSet change with
      | none => simp
      | some detail =>
          have hne := failures.items_set_ne_nil (change.repo, change.path) detail
          simp [hne]

variable {patchSet}

theorem validateFileChanges_eq_ok_iff {changes : List FileChange} :
    validateFileChanges patchSet changes = .ok () ↔
      changes ≠ [] ∧ ∀ change ∈ changes, diffFailure patchSet change = none := by
  have hrecord := items_foldl_recordFailure_eq_nil_iff patchSet changes ∅
  rw [validateFileChanges]
  split
  · next hempty => simp [List.isEmpty_iff.mp hempty]
  · next hempty =>
      rw [List.isEmpty_iff] at hempty
      dsimp only
      split
      · next hnil => simpa [hempty] using (hrecord.mp (List.isEmpty_iff.mp hnil)).2
      · next hnil =>
          rw [List.isEmpty_iff] at hnil
          simp only [reduceCtorEq, false_iff, not_and]
          intro _ hall
          exact hnil (hrecord.mpr ⟨rfl, hall⟩)

end Validation

/-! ### The prompt -/

/-- A turn of the conversation, in plain text. -/
inductive Message
  | user (content : String)
  | assistant (content : String)
  deriving DecidableEq, Repr

/-- The surroundings of a run: the tables and services it reads, and the LLM. -/
structure DevEnv where
  isprintable : Char → Bool
  formatFloat : UnitFloat → String
  readRepoSnapshot : String → String
  systemPrompt : String
  patchSet : String → Except String ℕ
  uuidHex : String
  /-- `complete_typed` without retries: an answer, or the text of the
  `StructuredOutputError`. -/
  completeTyped : String → List Message → Except String DevLLMOutput

/-- The findings the plan cites, or all of them when it cites none. -/
def citedFindings (plan : RemediationPlan) (findings : List Finding) : List Finding :=
  if plan.evidenceIds.isEmpty then findings
  else findings.filter fun f => f.evidenceId ∈ plan.evidenceIds

/-- The confirmed hypothesis: the first one found. -/
def firstConfirmed (hypotheses : List Hypothesis) : Option Hypothesis :=
  hypotheses.find? fun h => h.status = .confirmed

section Prompt

variable (env : DevEnv) (plan : RemediationPlan)

def planPart : List String :=
  ["## RemediationPlan",
    "- id: " ++ plan.id,
    "- type: " ++ plan.type.value,
    "- rationale: " ++ plan.rationale,
    "- target_repos: " ++ PyText.reprStrList env.isprintable plan.targetRepos,
    "- rollback_plan: " ++ if plan.rollbackPlan.isEmpty then "(none)" else plan.rollbackPlan,
    "- confidence: " ++ env.formatFloat plan.confidence]

def hypothesisPart (h : Hypothesis) : List String :=
  ["",
    "## Confirmed Hypothesis",
    "- id: **" ++ h.id ++ "**",
    "- text: " ++ h.text,
    "- score: " ++ env.formatFloat h.score]

def findingPart (f : Finding) : List String :=
  ["### Finding " ++ f.id,
    "- collector: " ++ f.collectorName,
    "- question: " ++ f.question,
    "- summary: " ++ f.summary,
    "- evidence_id: " ++ f.evidenceId,
    "- confidence: " ++ env.formatFloat f.confidence]

/-- `_build_user_message`. -/
def buildUserMessage (findings : List Finding) (confirmed : Option Hypothesis)
    (repoSnapshots : InsertionDict String String) : String :=
  PyText.join "\n" (
    planPart env plan ++
      (confirmed.map (hypothesisPart env)).getD [] ++
      (if findings.isEmpty then []
        else ["", "## Cited Findings"] ++ findings.flatMap (findingPart env)) ++
      (repoSnapshots.items.flatMap fun p => ["", "## Repo snapshot: " ++ p.1, p.2]) ++
      ["",
        "Produce a FixProposal for this plan.  " ++
          "Call the devllmoutput tool with valid unified diffs for every changed file.  " ++
          "The PR body MUST reference the confirmed hypothesis id verbatim.  " ++
          "Never touch files in repos not listed in target_repos."])

/-- The user turn a run starts with. -/
def userContent (state : IncidentState) : String :=
  buildUserMessage env plan (citedFindings plan state.findings)
    (firstConfirmed state.hypotheses)
    (.ofList (plan.targetRepos.map fun repo => (repo, env.readRepoSnapshot repo)))

end Prompt

/-- `_corrective_diff_message`. -/
def correctiveDiffMessage (failures : InsertionDict (String × String) String) : String :=
  PyText.join "\n" (
    ["Your previous response contained invalid unified diffs.  " ++
        "Fix each diff listed below and call the devllmoutput tool again.",
      "",
      "Diff validation failures:"] ++
      failureLines "  - " failures ++
      ["",
        "A valid unified diff must start with '--- a/path' and '+++ b/path' " ++
          "headers followed by one or more '@@ ... @@' hunks.  " ++
          "Do not omit the file headers."])

/-! ### The run -/

/-- What `run_dev` returns. -/
inductive DevResult
  | output (out : DevOutput)
  | blocked (report : BlockedReport)
  deriving DecidableEq

/-- A call of the LLM with what came of it. -/
structure DevCall where
  messages : List Message
  answer : Except String DevLLMOutput

/-- What a run returns, and the calls it made on the way. -/
structure DevRun where
  calls : List DevCall
  result : DevResult

/-- The last output the LLM gave in a run. -/
def DevRun.lastOutput (run : DevRun) : Option DevLLMOutput :=
  (run.calls.filterMap fun call => call.answer.toOption).getLast?

section Run

variable (env : DevEnv) (plan : RemediationPlan) (state : IncidentState)

def askLlm (messages : List Message) : DevCall :=
  { messages := messages, answer := env.completeTyped env.systemPrompt messages }

def blockedReport (whatWasTried whatFailed : List String) (decisionNeeded : String) :
    DevResult :=
  .blocked
    { workItemId := "B-04:" ++ plan.id
      whatWasTried := whatWasTried
      whatFailed := whatFailed
      decisionNeeded := decisionNeeded }

/-- The PR body with the citation that is appended to one that lacks it. -/
def citedBody (confirmed : Option Hypothesis) (prBody : String) : String :=
  match confirmed with
  | none => prBody
  | some h =>
      if PyText.occursIn h.id prBody then prBody
      else prBody ++ "\n\n---\n_Hypothesis ref: " ++ h.id ++ "_"

def buildProposal (llmOutput : DevLLMOutput) : FixProposal :=
  { id := "fix_" ++ PyText.takeChars 8 env.uuidHex
    planId := plan.id
    branchName := llmOutput.branchName
    changes := llmOutput.changes
    commitMessage := llmOutput.commitMessage
    prBody := citedBody (firstConfirmed state.hypotheses) llmOutput.prBody }

/-- The end of a run whose diffs are valid: the guardrail on the repositories,
and the proposal. -/
def deliver (whatWasTried : List String) (llmOutput : DevLLMOutput) : DevResult :=
  let outOfScope := llmOutput.changes.filter fun change => change.repo ∉ plan.targetRepos
  if outOfScope.isEmpty then
    .output
      { proposal := buildProposal env plan state llmOutput
        reasoning := llmOutput.reasoning }
  else
    blockedReport plan whatWasTried
      ["LLM attempted to modify files outside target_repos: " ++
        PyText.join ", " (outOfScope.map fun change => change.repo ++ "/" ++ change.path)]
      ("The LLM tried to modify repos not listed in the plan.  " ++
        "This is a guardrail violation.  Human must review and re-scope.")

def firstTried : List String := ["LLM call attempt 1"]

def retryTried : List String := firstTried ++ ["LLM call attempt 2 (corrective diff retry)"]

def firstFailure (exc : ChangesError) : String := "Diff validation attempt 1: " ++ exc.text

/-- The conversation of the corrective call. -/
def retryMessages (exc : ChangesError) : List Message :=
  [.user (userContent env plan state),
    .assistant ("[Previous response had invalid diffs: " ++ firstFailure exc ++ "]"),
    .user (correctiveDiffMessage exc.failures)]

/-- The second half of a run, after diffs that failed. -/
def retryDev (exc : ChangesError) : DevResult :=
  match (askLlm env (retryMessages env plan state exc)).answer with
  | .error err =>
      blockedReport plan retryTried
        [firstFailure exc, "Schema validation failed on retry: " ++ err]
        ("After one corrective retry the LLM still could not produce " ++
          "a schema-valid FixProposal.  Human engineer must produce the " ++
          "diff manually.")
  | .ok llmOutput =>
      match validateFileChanges env.patchSet llmOutput.changes with
      | .error again =>
          blockedReport plan retryTried
            [firstFailure exc, "Diff validation attempt 2: " ++ again.text]
            ("After one corrective retry the LLM still produced syntactically " ++
              "invalid unified diffs.  A human engineer must write the diff.")
      | .ok () => deliver env plan state retryTried llmOutput

/-- `run_dev`. -/
def runDev : DevRun :=
  let first := askLlm env [.user (userContent env plan state)]
  match first.answer with
  | .error err =>
      { calls := [first]
        result := blockedReport plan ["LLM call attempt 1 (schema validation)"]
          ["Schema validation failed: " ++ err]
          ("The LLM could not produce a schema-valid DevLLMOutput after the " ++
            "first attempt.  A human engineer should review the plan and " ++
            "produce the FixProposal manually.") }
  | .ok llmOutput =>
      match validateFileChanges env.patchSet llmOutput.changes with
      | .ok () => { calls := [first], result := deliver env plan state firstTried llmOutput }
      | .error exc =>
          { calls := [first, askLlm env (retryMessages env plan state exc)]
            result := retryDev env plan state exc }

end Run

/-! ### The ways through a run -/

section Paths

variable {env : DevEnv} {plan : RemediationPlan} {state : IncidentState}

/-- The five ways a run can go. -/
inductive DevPath (env : DevEnv) (plan : RemediationPlan) (state : IncidentState) :
    DevRun → Prop
  | firstRaises {first : DevCall} {err : String} {report : BlockedReport}
      (hanswer : first.answer = .error err) (htried : report.whatWasTried ≠ [])
      (hfailed : report.whatFailed ≠ []) :
      DevPath env plan state { calls := [first], result := .blocked report }
  | firstValid {first : DevCall} {llmOutput : DevLLMOutput}
      (hanswer : first.answer = .ok llmOutput)
      (hvalid : validateFileChanges env.patchSet llmOutput.changes = .ok ()) :
      DevPath env plan state
        { calls := [first], result := deliver env plan state firstTried llmOutput }
  | retryRaises {first second : DevCall} {llmOutput : DevLLMOutput} {exc : ChangesError}
      {err : String} {report : BlockedReport} (hanswer : first.answer = .ok llmOutput)
      (hinvalid : validateFileChanges env.patchSet llmOutput.changes = .error exc)
      (hagain : second.answer = .error err) (htried : report.whatWasTried ≠ [])
      (hfailed : report.whatFailed ≠ []) :
      DevPath env plan state { calls := [first, second], result := .blocked report }
  | retryInvalid {first second : DevCall} {llmOutput other : DevLLMOutput}
      {exc again : ChangesError} {report : BlockedReport}
      (hanswer : first.answer = .ok llmOutput)
      (hinvalid : validateFileChanges env.patchSet llmOutput.changes = .error exc)
      (hagain : second.answer = .ok other)
      (hstill : validateFileChanges env.patchSet other.changes = .error again)
      (htried : report.whatWasTried ≠ []) (hfailed : report.whatFailed ≠ []) :
      DevPath env plan state { calls := [first, second], result := .blocked report }
  | retryValid {first second : DevCall} {llmOutput other : DevLLMOutput}
      {exc : ChangesError} (hanswer : first.answer = .ok llmOutput)
      (hinvalid : validateFileChanges env.patchSet llmOutput.changes = .error exc)
      (hagain : second.answer = .ok other)
      (hvalid : validateFileChanges env.patchSet other.changes = .ok ()) :
      DevPath env plan state
        { calls := [first, second], result := deliver env plan state retryTried other }

theorem devPath_runDev : DevPath env plan state (runDev env plan state) := by
  rw [runDev]
  split
  · next err hanswer =>
      exact .firstRaises hanswer (List.cons_ne_nil _ _) (List.cons_ne_nil _ _)
  · next llmOutput hanswer =>
      split
      · next hvalid => exact .firstValid hanswer hvalid
      · next exc hinvalid =>
          rw [retryDev]
          split
          · next err hagain =>
              exact .retryRaises hanswer hinvalid hagain (List.cons_ne_nil _ _)
                (List.cons_ne_nil _ _)
          · next other hagain =>
              split
              · next again hstill =>
                  exact .retryInvalid hanswer hinvalid hagain hstill (List.cons_ne_nil _ _)
                    (List.cons_ne_nil _ _)
              · next hvalid => exact .retryValid hanswer hinvalid hagain hvalid

/-- Every call of a run puts its own conversation to the LLM. -/
theorem answer_of_mem_calls {call : DevCall} (h : call ∈ (runDev env plan state).calls) :
    call.answer = env.completeTyped env.systemPrompt call.messages := by
  have hask : ∃ messages, call = askLlm env messages := by
    rw [runDev] at h
    split at h
    · exact ⟨_, List.mem_singleton.mp h⟩
    · split at h
      · exact ⟨_, List.mem_singleton.mp h⟩
      · rcases List.mem_pair.mp h with h | h
        · exact ⟨_, h⟩
        · exact ⟨_, h⟩
  obtain ⟨messages, rfl⟩ := hask
  rfl

end Paths

/-! ### What is delivered -/

section Delivery

variable {env : DevEnv} {plan : RemediationPlan} {state : IncidentState}
  {whatWasTried : List String} {llmOutput : DevLLMOutput}

/-- Every change of an output is in a repository of the plan. -/
def InScope (plan : RemediationPlan) (llmOutput : DevLLMOutput) : Prop :=
  ∀ change ∈ llmOutput.changes, change.repo ∈ plan.targetRepos

theorem outOfScope_isEmpty_iff :
    (llmOutput.changes.filter fun change => change.repo ∉ plan.targetRepos).isEmpty = true ↔
      InScope plan llmOutput := by
  simp [InScope, List.isEmpty_iff, List.filter_eq_nil_iff]

theorem deliver_of_inScope (h : InScope plan llmOutput) :
    deliver env plan state whatWasTried llmOutput = .output
      { proposal := buildProposal env plan state llmOutput
        reasoning := llmOutput.reasoning } := by
  rw [deliver]
  exact if_pos (outOfScope_isEmpty_iff.mpr h)

theorem deliver_eq_output_iff {out : DevOutput} :
    deliver env plan state whatWasTried llmOutput = .output out ↔
      InScope plan llmOutput ∧ out =
        { proposal := buildProposal env plan state llmOutput
          reasoning := llmOutput.reasoning } := by
  by_cases hscope : InScope plan llmOutput
  · rw [deliver_of_inScope hscope, DevResult.output.injEq, eq_comm]
    exact (and_iff_right hscope).symm
  · rw [deliver, if_neg (mt outOfScope_isEmpty_iff.mp hscope), blockedReport]
    simp [hscope]

/-- What the guardrail blocks names what was tried and what failed. -/
theorem deliver_eq_blocked {report : BlockedReport}
    (h : deliver env plan state whatWasTried llmOutput = .blocked report) :
    report.whatWasTried = whatWasTried ∧ report.whatFailed ≠ [] := by
  rw [deliver] at h
  split at h
  · cases h
  · rw [blockedReport, DevResult.blocked.injEq] at h
    subst h
    exact ⟨rfl, List.cons_ne_nil _ _⟩

/-- A body is only ever extended. -/
theorem prefix_citedBody (confirmed : Option Hypothesis) (prBody : String) :
    prBody.toList <+: (citedBody confirmed prBody).toList := by
  unfold citedBody
  split
  · exact List.prefix_refl _
  · split
    · exact List.prefix_refl _
    · simp only [String.toList_append, List.append_assoc]
      exact List.prefix_append _ _

/-- The body that is delivered cites the confirmed hypothesis. -/
theorem occursIn_citedBody (h : Hypothesis) (prBody : String) :
    PyText.occursIn h.id (citedBody (some h) prBody) = true := by
  rw [citedBody]
  split
  · next hcited => exact hcited
  · exact PyText.occursIn_append_right _
      (PyText.occursIn_append_left _ (PyText.occursIn_self h.id))

/-- The Reviewer's rule on repositories, for changes the Dev node let through. -/
theorem checkDiffRepos_eq_none {isprintable : Char → Bool} {proposal : FixProposal}
    (hne : proposal.changes ≠ [])
    (h : ∀ change ∈ proposal.changes, change.repo ∈ plan.targetRepos) :
    checkDiffRepos isprintable proposal plan = none := by
  have hrepos : plan.targetRepos.isEmpty = false := by
    obtain ⟨change, hchange⟩ := List.exists_mem_of_ne_nil _ hne
    exact List.isEmpty_eq_false_iff_exists_mem.mpr ⟨_, h change hchange⟩
  have hout : (proposal.changes.map FileChange.repo).filter
      (fun repo => repo ∉ plan.targetRepos) = [] := by
    simpa [List.filter_eq_nil_iff] using h
  rw [checkDiffRepos, hrepos, hout]
  rfl

end Delivery

/-! ### A run as a whole -/

section Whole

variable (env : DevEnv) (plan : RemediationPlan) (state : IncidentState)

/-- At most two calls, and the second one after diffs that failed. -/
theorem calls_runDev {run : DevRun} (h : DevPath env plan state run) :
    run.calls ≠ [] ∧ run.calls.length ≤ 2 ∧
      (run.calls.length = 2 ↔ ∃ first llmOutput, run.calls.head? = some first ∧
        first.answer = .ok llmOutput ∧
        validateFileChanges env.patchSet llmOutput.changes ≠ .ok ()) := by
  cases h with
  | firstRaises hanswer => simp [hanswer]
  | firstValid hanswer hvalid => simp [hanswer, hvalid]
  | retryRaises hanswer hinvalid => simp [hanswer, hinvalid]
  | retryInvalid hanswer hinvalid => simp [hanswer, hinvalid]
  | retryValid hanswer hinvalid => simp [hanswer, hinvalid]

/-- An output is delivered exactly when the last output validates and stays in
the repositories of the plan. -/
theorem result_runDev {run : DevRun} (h : DevPath env plan state run) (out : DevOutput) :
    run.result = .output out ↔
      ∃ llmOutput, run.lastOutput = some llmOutput ∧
        validateFileChanges env.patchSet llmOutput.changes = .ok () ∧
        InScope plan llmOutput ∧ out =
          { proposal := buildProposal env plan state llmOutput
            reasoning := llmOutput.reasoning } := by
  cases h with
  | firstRaises hanswer => simp [DevRun.lastOutput, hanswer, Except.toOption]
  | firstValid hanswer hvalid =>
      simp [DevRun.lastOutput, hanswer, Except.toOption, hvalid, deliver_eq_output_iff]
  | retryRaises hanswer hinvalid hagain =>
      simp [DevRun.lastOutput, hanswer, hagain, Except.toOption, hinvalid]
  | retryInvalid hanswer _ hagain hstill =>
      simp [DevRun.lastOutput, hanswer, hagain, Except.toOption, hstill]
  | retryValid hanswer _ hagain hvalid =>
      simp [DevRun.lastOutput, hanswer, hagain, Except.toOption, hvalid, deliver_eq_output_iff]

/-- A report names what was tried and what failed. -/
theorem blocked_runDev {run : DevRun} (h : DevPath env plan state run)
    {report : BlockedReport} (hreport : run.result = .blocked report) :
    report.whatWasTried ≠ [] ∧ report.whatFailed ≠ [] := by
  cases h with
  | firstRaises _ htried hfailed =>
      cases hreport
      exact ⟨htried, hfailed⟩
  | firstValid =>
      obtain ⟨htried, hfailed⟩ := deliver_eq_blocked hreport
      exact ⟨htried ▸ List.cons_ne_nil _ _, hfailed⟩
  | retryRaises _ _ _ htried hfailed =>
      cases hreport
      exact ⟨htried, hfailed⟩
  | retryInvalid _ _ _ _ htried hfailed =>
      cases hreport
      exact ⟨htried, hfailed⟩
  | retryValid =>
      obtain ⟨htried, hfailed⟩ := deliver_eq_blocked hreport
      exact ⟨htried ▸ List.cons_ne_nil _ _, hfailed⟩

end Whole

end AlphE.Nodes
