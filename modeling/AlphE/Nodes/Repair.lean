import AlphE.Nodes.Collectors
import AlphE.Llm.OutputModels

/-!
The Dev, Verifier and Reviewer nodes as the graph holds them (`nodes/dev.py`,
`nodes/verifier.py`, `nodes/reviewer.py`), with the precondition check of
`verifier/checks.py` and the policy of `reviewer/policy.py`. The answer of the
LLM is what `complete_typed` returns or raises; the subprocesses behind the dry
runs are parameters. Beside its update, a node's product is kept: the Verifier's
result and the Reviewer's output, which name no channel of the state.
-/

namespace AlphE.Nodes

/-- `dev_node`, the wrapper of the graph: it skips the proposal. -/
def devNode (now : DateTime) (state : IncidentState) : StateUpdate :=
  { phase := some .fixing
    timeline := some (state.timeline ++
      [{ ts := now, actor := "orchestrator:dev", eventType := "dev.proposal.skipped" }])
    updatedAt := some now }

/-! ### The Verifier -/

/-- The dry runs on a proposal: whether they passed, and their raw output. -/
structure DryRun where
  checkGitApply : FixProposal → Bool × String
  checkKubectlDryRun : FixProposal → Bool × String

/-- What `make_verifier_node` closes over. The snapshot maps a target to the
`repr` of what was found there. -/
structure VerifierConfig where
  fixProposal : Option FixProposal := none
  liveStateSnapshot : String → Option String := fun _ => none

/-- One entry of `check_results`. -/
structure CheckResult where
  name : String
  passed : Bool
  output : String
  deriving DecidableEq, Repr

/-- `check_action_intent_precondition`. -/
def checkActionIntentPrecondition (liveStateSnapshot : String → Option String)
    (intent : ActionIntent) : Bool × String :=
  let lines := ["target: " ++ intent.target, "expected_effect: " ++ intent.expectedEffect]
  match liveStateSnapshot intent.target with
  | none => (false, PyText.join "\n" (lines ++
      ["FAIL: target '" ++ intent.target ++ "' not found in live state snapshot."]))
  | some found => (true, PyText.join "\n" (lines ++
      ["PASS: target found in snapshot: " ++ found]))

/-- The last pending intent, or the last one when none is pending. -/
def activeIntent (intents : List ActionIntent) : Option ActionIntent :=
  let pending := intents.filter fun i => i.approvalStatus = "pending"
  if pending.isEmpty then intents.getLast? else pending.getLast?

/-- The checks of a proposal; the dry run of `kubectl` counts when it said
something. -/
def proposalChecks (dryRun : DryRun) (proposal : FixProposal) : List CheckResult :=
  let git := dryRun.checkGitApply proposal
  let kube := dryRun.checkKubectlDryRun proposal
  { name := "git.apply.check", passed := git.1, output := git.2 } ::
    if kube.2.isEmpty then []
    else [{ name := "kubectl.apply.dry-run.server", passed := kube.1, output := kube.2 }]

/-- The deterministic checks, with what is kept of their output; `none` when
there is no subject. -/
def runChecks (config : VerifierConfig) (dryRun : DryRun) (state : IncidentState) :
    Option (List CheckResult × String) :=
  match config.fixProposal with
  | some proposal =>
      let results := proposalChecks dryRun proposal
      some (results, PyText.join "\n"
        ((results.map CheckResult.output).filter fun o => !o.isEmpty))
  | none =>
      (activeIntent state.actionIntents).map fun intent =>
        let (passed, output) :=
          checkActionIntentPrecondition config.liveStateSnapshot intent
        ([{ name := "action_intent.precondition", passed := passed, output := output }],
          output)

/-- The result when there is no subject. -/
def noopResult : VerifierResult :=
  { kind := .passed
    checksRun := ["noop"]
    reasoning := "No FixProposal or ActionIntent present; verification skipped." }

def verifierUpdate (now : DateTime) (result : VerifierResult) (state : IncidentState) :
    StateUpdate :=
  { phase := some .verifying
    timeline := some (state.timeline ++
      [{ ts := now
         actor := "orchestrator:verifier"
         eventType := "verifier.result"
         refId := some (Llm.kindValue result.kind) }])
    updatedAt := some now }

/-- The result of the Verifier. -/
def verifierResult (config : VerifierConfig) (dryRun : DryRun)
    (llm : Except String VerifierLLMOutput) (state : IncidentState) :
    Except String VerifierResult :=
  match runChecks config dryRun state with
  | none => .ok noopResult
  | some (results, dryRunOutput) =>
      llm.map fun output =>
        { kind := output.kind
          checksRun := results.map CheckResult.name
          failures := output.failures
          dryRunOutput := dryRunOutput
          reasoning := output.reasoning }

/-- `make_verifier_node(...)`. -/
def makeVerifierNode (config : VerifierConfig) (dryRun : DryRun) (now : DateTime)
    (llm : Except String VerifierLLMOutput) (state : IncidentState) :
    Except String (StateUpdate × VerifierResult) :=
  (verifierResult config dryRun llm state).map fun result =>
    (verifierUpdate now result state, result)

/-- `verifier_node`, the default instance: no proposal, an empty snapshot. -/
def verifierNode (dryRun : DryRun) (now : DateTime) (llm : Except String VerifierLLMOutput)
    (state : IncidentState) : Except String (StateUpdate × VerifierResult) :=
  makeVerifierNode {} dryRun now llm state

/-! ### The Reviewer's policy -/

/-- A hard policy rule that the PR failed. -/
structure PolicyViolation where
  rule : String
  detail : String
  deriving DecidableEq, Repr

section Policy

variable (isprintable : Char → Bool) (proposal : FixProposal)

/-- `check_diff_repos`. -/
def checkDiffRepos (plan : RemediationPlan) : Option PolicyViolation :=
  if plan.targetRepos.isEmpty then
    some
      { rule := "diff_repos"
        detail := "RemediationPlan.target_repos is empty — cannot validate that " ++
          "changed files are within approved repositories." }
  else
    let outOfScope := (proposal.changes.map FileChange.repo).filter
      fun repo => repo ∉ plan.targetRepos
    if outOfScope.isEmpty then none
    else some
      { rule := "diff_repos"
        detail := "PR touches repos outside plan.target_repos. " ++
          "Out-of-scope repos: " ++
          PyText.reprStrList isprintable (sortedSet outOfScope) ++ ". " ++
          "Allowed: " ++ PyText.reprStrList isprintable (sortedSet plan.targetRepos) ++
          "." }

/-- `check_commit_message`. -/
def checkCommitMessage (confirmed : Hypothesis) : Option PolicyViolation :=
  if PyText.occursIn confirmed.id proposal.commitMessage then none
  else some
    { rule := "commit_message"
      detail := "Commit message does not reference the confirmed hypothesis ID " ++
        "'" ++ confirmed.id ++ "'. " ++
        "Commit message: " ++ PyText.reprStr isprintable proposal.commitMessage ++ "." }

/-- `check_pr_body_evidence`. -/
def checkPrBodyEvidence (findings : List Finding) : Option PolicyViolation :=
  let evidenceIds := findings.map Finding.evidenceId
  if evidenceIds.isEmpty then
    some
      { rule := "pr_body_evidence"
        detail := "No findings are present in IncidentState — cannot verify that " ++
          "the PR body references a known evidence_id." }
  else if evidenceIds.any fun eid => PyText.occursIn eid proposal.prBody then none
  else some
    { rule := "pr_body_evidence"
      detail := "PR body does not reference any Finding.evidence_id. " ++
        "Known evidence IDs: " ++
        PyText.reprStrList isprintable (sortedSet evidenceIds) ++ "." }

/-- `run_all_checks`. -/
def runAllChecks (plan : RemediationPlan) (confirmed : Hypothesis)
    (findings : List Finding) : List PolicyViolation :=
  (checkDiffRepos isprintable proposal plan).toList ++
    (checkCommitMessage isprintable proposal confirmed).toList ++
    (checkPrBodyEvidence isprintable proposal findings).toList

variable {isprintable} {proposal} {plan : RemediationPlan} {confirmed : Hypothesis}
  {findings : List Finding}

theorem checkCommitMessage_eq_none_iff :
    checkCommitMessage isprintable proposal confirmed = none ↔
      PyText.occursIn confirmed.id proposal.commitMessage = true := by
  rw [checkCommitMessage]
  split
  · next hcited => exact iff_of_true rfl hcited
  · next hcited => exact iff_of_false nofun hcited

/-- The rule on evidence looks for the ids as they are, the empty one too. -/
theorem checkPrBodyEvidence_eq_none_iff :
    checkPrBodyEvidence isprintable proposal findings = none ↔
      ∃ f ∈ findings, PyText.occursIn f.evidenceId proposal.prBody = true := by
  have hany : ((findings.map Finding.evidenceId).any fun eid =>
      PyText.occursIn eid proposal.prBody) = true ↔
      ∃ f ∈ findings, PyText.occursIn f.evidenceId proposal.prBody = true := by
    simp
  rw [checkPrBodyEvidence, ← hany]
  split
  · next hempty =>
      refine iff_of_false nofun ?_
      simp only [List.isEmpty_iff] at hempty
      simp [hempty]
  · split
    · next hcited => exact iff_of_true rfl hcited
    · next hcited => exact iff_of_false nofun hcited

theorem runAllChecks_eq_nil_iff :
    runAllChecks isprintable proposal plan confirmed findings = [] ↔
      checkDiffRepos isprintable proposal plan = none ∧
        checkCommitMessage isprintable proposal confirmed = none ∧
        checkPrBodyEvidence isprintable proposal findings = none := by
  simp [runAllChecks]

end Policy

/-! ### The Reviewer -/

/-- `_apply_guardrails`: a challenge has to cite evidence. -/
def applyGuardrails (output : ReviewerOutput) : ReviewerOutput :=
  if output.decision = .challengeRootCause ∧ output.citedEvidenceIds = [] then
    { decision := .requestChangesOnFix
      reasoning := "challenge_root_cause requested but no contradicting evidence cited. " ++
        "Falling back to request_changes_on_fix. " ++
        "Original reasoning: " ++ output.reasoning }
  else output

def reviewerUpdate (now : DateTime) (eventType : String) (state : IncidentState) :
    StateUpdate :=
  { phase := some .reviewing
    timeline := some (state.timeline ++
      [{ ts := now, actor := "orchestrator:reviewer", eventType := eventType }])
    updatedAt := some now }

/-- The verdict on a proposal: the policy first, then the LLM. -/
def reviewProposal (isprintable : Char → Bool) (llm : Except String ReviewerOutput)
    (proposal : FixProposal) (plan : RemediationPlan) (state : IncidentState) :
    Except String ReviewerOutput :=
  match state.hypotheses.find? fun h => h.status = .confirmed with
  | none => .ok
      { decision := .requestChangesOnFix
        reasoning := "Hard policy check failed: no confirmed hypothesis found in state. " ++
          "Cannot validate commit message references Hypothesis.id." }
  | some confirmed =>
      let violations := runAllChecks isprintable proposal plan confirmed state.findings
      if violations.isEmpty then llm.map applyGuardrails
      else .ok
        { decision := .requestChangesOnFix
          reasoning := "Hard policy check(s) failed: " ++ PyText.join "; "
            (violations.map fun v => "[" ++ v.rule ++ "] " ++ v.detail) }

/-- The Reviewer, given what `getattr` finds on the state. -/
def reviewWith (isprintable : Char → Bool) (now : DateTime)
    (llm : Except String ReviewerOutput) (proposal : Option FixProposal)
    (plan : Option RemediationPlan) (state : IncidentState) :
    Except String (StateUpdate × Option ReviewerOutput) :=
  match proposal, plan with
  | some proposal, some plan =>
      (reviewProposal isprintable llm proposal plan state).map fun output =>
        (reviewerUpdate now ("reviewer." ++ Llm.decisionValue output.decision) state, some output)
  | _, _ => .ok (reviewerUpdate now "reviewer.skipped.no_proposal" state, none)

/-- `reviewer_node` in the graph, whose state has neither a proposal nor a
plan. -/
def reviewerNode (isprintable : Char → Bool) (now : DateTime)
    (llm : Except String ReviewerOutput) (state : IncidentState) :
    Except String (StateUpdate × Option ReviewerOutput) :=
  reviewWith isprintable now llm none none state

/-! ### What the nodes write -/

/-- Whatever the Verifier is configured with, its update is the one of its
result. -/
theorem makeVerifierNode_eq_ok {config : VerifierConfig} {dryRun : DryRun}
    {now : DateTime} {llm : Except String VerifierLLMOutput} {state : IncidentState}
    {u : StateUpdate} {result : VerifierResult}
    (h : makeVerifierNode config dryRun now llm state = .ok (u, result)) :
    u = verifierUpdate now result state := by
  rw [makeVerifierNode] at h
  cases hresult : verifierResult config dryRun llm state with
  | error exc =>
      rw [hresult] at h
      cases h
  | ok r =>
      rw [hresult] at h
      cases h
      rfl

/-- The Reviewer's update records an event, whatever it decides. -/
theorem reviewWith_eq_ok {isprintable : Char → Bool} {now : DateTime}
    {llm : Except String ReviewerOutput} {proposal : Option FixProposal}
    {plan : Option RemediationPlan} {state : IncidentState} {u : StateUpdate}
    {output : Option ReviewerOutput}
    (h : reviewWith isprintable now llm proposal plan state = .ok (u, output)) :
    ∃ eventType, u = reviewerUpdate now eventType state := by
  unfold reviewWith at h
  split at h
  · next proposal plan =>
      cases hreview : reviewProposal isprintable llm proposal plan state with
      | error exc =>
          rw [hreview] at h
          cases h
      | ok r =>
          rw [hreview] at h
          cases h
          exact ⟨_, rfl⟩
  · cases h
    exact ⟨_, rfl⟩

/-- The answer of the LLM stands as it is: it approves, or it challenges the root cause and
cites evidence. -/
def AnswerStands (output : ReviewerOutput) : Prop :=
  output.decision = .approve ∨
    output.decision = .challengeRootCause ∧ output.citedEvidenceIds ≠ []

theorem applyGuardrails_of_stands {output : ReviewerOutput} (h : AnswerStands output) :
    applyGuardrails output = output := by
  rw [applyGuardrails, if_neg]
  rintro ⟨hchallenge, hnil⟩
  obtain happrove | ⟨-, hcited⟩ := h
  · rw [happrove] at hchallenge
    cases hchallenge
  · exact hcited hnil

/-- Every other answer ends in a request for changes. -/
theorem applyGuardrails_of_not_stands {output : ReviewerOutput} (h : ¬ AnswerStands output) :
    (applyGuardrails output).decision = .requestChangesOnFix := by
  rw [applyGuardrails]
  split
  · rfl
  · next hnot =>
      cases hdecision : output.decision with
      | requestChangesOnFix => rfl
      | approve => exact absurd (.inl hdecision) h
      | challengeRootCause =>
          have hcited : output.citedEvidenceIds ≠ [] := fun hnil => hnot ⟨hdecision, hnil⟩
          exact absurd (.inr ⟨hdecision, hcited⟩) h

end AlphE.Nodes
