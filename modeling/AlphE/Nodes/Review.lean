import AlphE.Nodes.Dev

/-!
The Reviewer as a gate. `reviewer_node` asks the LLM only behind the policy; here
the node is followed with the prompts it sends, which shows what the LLM can
decide and what it cannot. Next to it stands what the Reviewer's policy says
about a proposal of the Dev agent.
-/

namespace AlphE.Nodes

/-- What the Reviewer returns, and the prompts it sent to the LLM on the way. -/
structure ReviewRun where
  prompts : List String
  result : Except String (StateUpdate × Option ReviewerOutput)

/-- `_build_return`. -/
def buildReturn (now : DateTime) (state : IncidentState) (output : ReviewerOutput) :
    StateUpdate × Option ReviewerOutput :=
  (reviewerUpdate now ("reviewer." ++ Llm.decisionValue output.decision) state, some output)

section Gate

variable (isprintable : Char → Bool) (now : DateTime)
  (buildReviewPrompt : IncidentState → FixProposal → RemediationPlan → String)
  (completeTyped : String → Except String ReviewerOutput)

/-- `reviewer_node` on a state that has a proposal and a plan, call by call. -/
def reviewRun (proposal : FixProposal) (plan : RemediationPlan) (state : IncidentState) :
    ReviewRun :=
  match firstConfirmed state.hypotheses with
  | none =>
      { prompts := []
        result := .ok (buildReturn now state
          { decision := .requestChangesOnFix
            reasoning := "Hard policy check failed: no confirmed hypothesis found in state. " ++
              "Cannot validate commit message references Hypothesis.id." }) }
  | some confirmed =>
      let violations := runAllChecks isprintable proposal plan confirmed state.findings
      if violations.isEmpty then
        let userContent := buildReviewPrompt state proposal plan
        { prompts := [userContent]
          result := (completeTyped userContent).map fun rawOutput =>
            buildReturn now state (applyGuardrails rawOutput) }
      else
        { prompts := []
          result := .ok (buildReturn now state
            { decision := .requestChangesOnFix
              reasoning := "Hard policy check(s) failed: " ++ PyText.join "; "
                (violations.map fun v => "[" ++ v.rule ++ "] " ++ v.detail) }) }

variable {isprintable} {now} {buildReviewPrompt} {completeTyped} {proposal : FixProposal}
  {plan : RemediationPlan} {state : IncidentState}

/-- The prompts beside it, the node returns what `reviewWith` does. -/
theorem reviewRun_result :
    (reviewRun isprintable now buildReviewPrompt completeTyped proposal plan state).result =
      reviewWith isprintable now (completeTyped (buildReviewPrompt state proposal plan))
        (some proposal) (some plan) state := by
  rw [reviewRun, reviewWith, reviewProposal]
  cases hfirst : firstConfirmed state.hypotheses with
  | none =>
      rw [firstConfirmed] at hfirst
      simp only [hfirst]
      rfl
  | some confirmed =>
      rw [firstConfirmed] at hfirst
      simp only [hfirst]
      split
      · cases completeTyped (buildReviewPrompt state proposal plan) with
        | error exc => rfl
        | ok output => rfl
      · rfl

/-- The policy is met: there is a confirmed hypothesis, and the first one passes
every check. -/
def PolicyMet (isprintable : Char → Bool) (proposal : FixProposal) (plan : RemediationPlan)
    (state : IncidentState) : Prop :=
  ∃ confirmed, firstConfirmed state.hypotheses = some confirmed ∧
    runAllChecks isprintable proposal plan confirmed state.findings = []

variable (now) (buildReviewPrompt) (completeTyped)

/-- Behind the policy the LLM is asked once. -/
theorem reviewRun_of_policyMet (h : PolicyMet isprintable proposal plan state) :
    reviewRun isprintable now buildReviewPrompt completeTyped proposal plan state =
      { prompts := [buildReviewPrompt state proposal plan]
        result := (completeTyped (buildReviewPrompt state proposal plan)).map fun rawOutput =>
          buildReturn now state (applyGuardrails rawOutput) } := by
  obtain ⟨confirmed, hfirst, hchecks⟩ := h
  rw [reviewRun, hfirst]
  simp only [hchecks]
  rfl

/-- Before the policy is met nobody is asked, and the fix goes back. -/
theorem reviewRun_of_not_policyMet (h : ¬ PolicyMet isprintable proposal plan state) :
    ∃ output : ReviewerOutput, output.decision = .requestChangesOnFix ∧
      reviewRun isprintable now buildReviewPrompt completeTyped proposal plan state =
        { prompts := [], result := .ok (buildReturn now state output) } := by
  rw [reviewRun]
  cases hfirst : firstConfirmed state.hypotheses with
  | none => exact ⟨_, rfl, rfl⟩
  | some confirmed =>
      have hchecks : (runAllChecks isprintable proposal plan confirmed
          state.findings).isEmpty = false := by
        rw [← Bool.not_eq_true, List.isEmpty_iff]
        exact fun hnil => h ⟨confirmed, hfirst, hnil⟩
      simp only [hchecks]
      exact ⟨_, rfl, rfl⟩

/-- Who requests changes neither approves nor challenges. -/
theorem decided_of_request {output : ReviewerOutput} (P : Prop)
    (h : output.decision = .requestChangesOnFix) :
    ((output.decision = .approve ∨ output.decision = .challengeRootCause) → P) ∧
      (output.decision = .challengeRootCause → output.citedEvidenceIds ≠ []) := by
  rw [h]
  constructor
  · rintro (happrove | hchallenge)
    · cases happrove
    · cases hchallenge
  · intro hchallenge
    cases hchallenge

end Gate

/-! ### A delivered proposal before the policy -/

section Delivered

variable {env : DevEnv} {plan : RemediationPlan} {state : IncidentState}
  {llmOutput : DevLLMOutput} {out : DevOutput}

/-- **What the Dev agent delivers passes the policy** exactly when the LLM wrote
the hypothesis id into the commit message and the body, with the citation the
agent appends, holds the evidence id of a finding. The agent sees to neither. -/
theorem runAllChecks_delivered_iff (confirmed : Hypothesis)
    (hlast : (runDev env plan state).lastOutput = some llmOutput)
    (hresult : (runDev env plan state).result = .output out) :
    runAllChecks env.isprintable out.proposal plan confirmed state.findings = [] ↔
      PyText.occursIn confirmed.id llmOutput.commitMessage = true ∧
        ∃ f ∈ state.findings, PyText.occursIn f.evidenceId
          (citedBody (firstConfirmed state.hypotheses) llmOutput.prBody) = true := by
  obtain ⟨last, hsome, hvalid, hscope, rfl⟩ :=
    (result_runDev env plan state devPath_runDev out).mp hresult
  obtain rfl : last = llmOutput := Option.some.inj (hsome.symm.trans hlast)
  have hrepos : checkDiffRepos env.isprintable (buildProposal env plan state last) plan =
      none := checkDiffRepos_eq_none (validateFileChanges_eq_ok_iff.mp hvalid).1 hscope
  rw [runAllChecks_eq_nil_iff, checkCommitMessage_eq_none_iff, checkPrBodyEvidence_eq_none_iff]
  exact and_iff_right hrepos

/-- A hypothesis that is confirmed, and a finding that bears on it. -/
def testFixing : IncidentState :=
  { incidentId := "inc_1"
    alert :=
      { source := "alertmanager"
        rawMessage := "PodOOMKilled: leaky-service"
        service := "leaky-service"
        severity := .high
        firedAt := testNow }
    hypotheses :=
      [{ id := "hyp_oom"
         text := "pod.oom in leaky-service"
         status := .confirmed
         createdAt := testNow }]
    findings :=
      [{ id := "f_1"
         collectorName := "kube"
         question := "pod.oom in leaky-service"
         summary := "leaky-service restarted 4 times, OOMKilled."
         evidenceId := "ev_1"
         confidence := UnitFloat.one
         createdAt := testNow }]
    phase := .fixing
    createdAt := testNow
    updatedAt := testNow }

def testPlan : RemediationPlan :=
  { id := "plan_1"
    type := .pr
    rationale := "Cap the allocator."
    targetRepos := ["demo-app"] }

def testDevOutput (commitMessage prBody : String) : DevLLMOutput :=
  { changes := [{ repo := "demo-app", path := "leak.py", diff := "--- a/leak.py" }]
    commitMessage := commitMessage
    prBody := prBody
    branchName := "fix/oom-cap-allocator-rate"
    reasoning := "The allocator is not bounded." }

/-- An LLM with one answer, and a parser that finds one file in every diff. -/
def testDevEnv (answer : DevLLMOutput) : DevEnv where
  isprintable _ := true
  formatFloat _ := "0.0"
  readRepoSnapshot repo := "# Repo snapshot: " ++ repo
  systemPrompt := "# Dev"
  patchSet _ := .ok 1
  uuidHex := "0123456789abcdef"
  completeTyped _ _ := .ok answer

theorem runDev_test (commitMessage prBody : String) :
    runDev (testDevEnv (testDevOutput commitMessage prBody)) testPlan testFixing =
      { calls := [askLlm (testDevEnv (testDevOutput commitMessage prBody))
          [.user (userContent (testDevEnv (testDevOutput commitMessage prBody)) testPlan
            testFixing)]]
        result := .output
          { proposal := buildProposal (testDevEnv (testDevOutput commitMessage prBody))
              testPlan testFixing (testDevOutput commitMessage prBody)
            reasoning := "The allocator is not bounded." } } := rfl

/-- An output that names both ids goes through. -/
theorem runAllChecks_delivered_cited :
    runAllChecks (fun _ => true)
      (buildProposal (testDevEnv (testDevOutput "fix: cap the allocator (hyp_oom)"
        "Root cause: hyp_oom. Evidence: ev_1.")) testPlan testFixing
        (testDevOutput "fix: cap the allocator (hyp_oom)"
          "Root cause: hyp_oom. Evidence: ev_1."))
      testPlan { id := "hyp_oom", text := "pod.oom in leaky-service", createdAt := testNow }
      testFixing.findings = [] := by
  have hrun := runDev_test "fix: cap the allocator (hyp_oom)"
    "Root cause: hyp_oom. Evidence: ev_1."
  refine (runAllChecks_delivered_iff _ (congrArg DevRun.lastOutput hrun)
    (congrArg DevRun.result hrun)).mpr ⟨by decide, _, List.mem_singleton.mpr rfl, by decide⟩

/-- A commit message in the Conventional Commits format, as the prompt asks for
it, does not name the hypothesis. -/
theorem not_runAllChecks_delivered :
    ¬ ∀ (env : DevEnv) (plan : RemediationPlan) (state : IncidentState)
        (confirmed : Hypothesis),
        firstConfirmed state.hypotheses = some confirmed → confirmed.id ≠ "" →
        (∃ f ∈ state.findings, f.evidenceId ≠ "") →
        ∀ out, (runDev env plan state).result = .output out →
          runAllChecks env.isprintable out.proposal plan confirmed state.findings = [] := by
  intro h
  have hrun := runDev_test "fix(leaky-service): cap the allocator"
    "Root cause: hyp_oom. Evidence: ev_1."
  have hnil := h _ _ _ _ rfl (by decide) ⟨_, List.mem_singleton.mpr rfl, by decide⟩ _
    (congrArg DevRun.result hrun)
  have hmessage := checkCommitMessage_eq_none_iff.mp (runAllChecks_eq_nil_iff.mp hnil).2.1
  exact absurd hmessage (by decide)

end Delivered

end AlphE.Nodes
