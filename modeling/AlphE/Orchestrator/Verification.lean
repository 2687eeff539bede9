import AlphE.Orchestrator.Routing
import AlphE.Nodes.Checks

/-!
What a failed dry run comes to. The Verifier runs its checks, drops the one of
`kubectl` when it had no output, and reports the kind the LLM chose; the routing
looks at the kind only.
-/

namespace AlphE.Orchestrator

open Nodes

section Performed

variable (config : VerifierConfig) (dryRun : DryRun) (state : IncidentState)

/-- The checks that are performed, whether they are reported or not. -/
def performedChecks : List CheckResult :=
  match config.fixProposal with
  | some proposal =>
      let git := dryRun.checkGitApply proposal
      let kube := dryRun.checkKubectlDryRun proposal
      [{ name := "git.apply.check", passed := git.1, output := git.2 },
        { name := "kubectl.apply.dry-run.server", passed := kube.1, output := kube.2 }]
  | none =>
      (activeIntent state.actionIntents).toList.map fun intent =>
        let precond := checkActionIntentPrecondition config.liveStateSnapshot intent
        { name := "action_intent.precondition", passed := precond.1, output := precond.2 }

/-- Some check that was performed has failed. -/
def CheckFailed : Prop :=
  ∃ check ∈ performedChecks config dryRun state, check.passed = false

/-- Every failed check is named in a list of reported checks. -/
def FailuresReported (checksRun : List String) : Prop :=
  ∀ check ∈ performedChecks config dryRun state, check.passed = false →
    check.name ∈ checksRun

/-- After a failed check the result is not `passed`, so that the routing does
not go on to the Reviewer, and every check that failed is among those run. -/
def HoldsBack (now : DateTime) (output : VerifierLLMOutput) : Prop :=
  ∀ u result, makeVerifierNode config dryRun now (.ok output) state = .ok (u, result) →
    CheckFailed config dryRun state →
      (result.kind ≠ .passed ∧ routeAfterVerifier result ≠ .reviewer) ∧
        FailuresReported config dryRun state result.checksRun

end Performed

section Reported

variable {config : VerifierConfig} {dryRun : DryRun} {state : IncidentState} {now : DateTime}
  {output : VerifierLLMOutput}

theorem routeAfterVerifier_eq_reviewer_iff {result : VerifierResult} :
    routeAfterVerifier result = .reviewer ↔ result.kind = .passed := by
  unfold routeAfterVerifier
  cases result.kind with
  | passed => simp
  | implementationError => simp
  | diagnosisInvalidated => simp

/-- With something to check, the node reports the LLM's kind and the names of
the checks that were kept. -/
theorem holdsBack_iff_of_runChecks {results : List CheckResult} {dryRunOutput : String}
    (h : runChecks config dryRun state = some (results, dryRunOutput)) :
    HoldsBack config dryRun state now output ↔
      (CheckFailed config dryRun state →
        output.kind ≠ .passed ∧
          FailuresReported config dryRun state (results.map CheckResult.name)) := by
  have hnode : makeVerifierNode config dryRun now (.ok output) state =
      .ok (verifierUpdate now
          { kind := output.kind
            checksRun := results.map CheckResult.name
            failures := output.failures
            dryRunOutput := dryRunOutput
            reasoning := output.reasoning } state,
        { kind := output.kind
          checksRun := results.map CheckResult.name
          failures := output.failures
          dryRunOutput := dryRunOutput
          reasoning := output.reasoning }) := by
    rw [makeVerifierNode, verifierResult, h]
    rfl
  constructor
  · intro hholds hfailed
    obtain ⟨⟨hkind, -⟩, hreported⟩ := hholds _ _ hnode hfailed
    exact ⟨hkind, hreported⟩
  · intro hdecision u result hresult hfailed
    obtain ⟨-, rfl⟩ := Prod.mk.inj (Except.ok.inj (hnode.symm.trans hresult))
    obtain ⟨hkind, hreported⟩ := hdecision hfailed
    exact ⟨⟨hkind, mt routeAfterVerifier_eq_reviewer_iff.mp hkind⟩, hreported⟩

/-- A check on a proposal goes unreported only by failing without output. -/
theorem failuresReported_proposal_iff {proposal : FixProposal}
    (h : config.fixProposal = some proposal) :
    FailuresReported config dryRun state
        ((proposalChecks dryRun proposal).map CheckResult.name) ↔
      ¬ ((dryRun.checkKubectlDryRun proposal).1 = false ∧
        (dryRun.checkKubectlDryRun proposal).2.isEmpty = true) := by
  simp only [FailuresReported, performedChecks, h, proposalChecks, List.map_cons,
    List.mem_cons]
  cases (dryRun.checkKubectlDryRun proposal).2.isEmpty with
  | true => simp
  | false => simp

theorem failuresReported_intent {intent : ActionIntent} (h : config.fixProposal = none)
    (hintent : activeIntent state.actionIntents = some intent) :
    FailuresReported config dryRun state ["action_intent.precondition"] := by
  simp [FailuresReported, performedChecks, h, hintent]

end Reported

/-! ### When a failed check is held against a fix -/

section Main

variable (config : VerifierConfig) (env : CheckEnv) (state : IncidentState)

/-- What makes a check fail: a process that ends with an error, or a target that
is not in the snapshot. -/
def SomethingFails : Prop :=
  match config.fixProposal with
  | some proposal =>
      (∃ (i : ℕ) (change : FileChange), proposal.changes[i]? = some change ∧
        (gitProcess env i change).returncode ≠ 0) ∨
      (∃ change ∈ proposal.changes, looksLikeK8sManifest env.lower change = true) ∧
        (kubectlProcess env proposal).returncode ≠ 0
  | none =>
      ∃ intent, activeIntent state.actionIntents = some intent ∧
        config.liveStateSnapshot intent.target = none

variable {config} {env} {state}

theorem checkActionIntentPrecondition_eq_false_iff {snapshot : String → Option String}
    {intent : ActionIntent} :
    (checkActionIntentPrecondition snapshot intent).1 = false ↔
      snapshot intent.target = none := by
  rw [checkActionIntentPrecondition]
  cases snapshot intent.target with
  | none => simp
  | some found => simp

theorem checkFailed_iff :
    CheckFailed config env.dryRun state ↔ SomethingFails config env state := by
  rw [CheckFailed, performedChecks, SomethingFails]
  cases config.fixProposal with
  | some proposal =>
      simp only [CheckEnv.dryRun, List.exists_mem_cons_iff, List.not_mem_nil, false_and,
        exists_false, or_false, checkGitApply_eq_false_iff, checkKubectlDryRun_eq_false_iff]
  | none =>
      simp only [List.mem_map, Option.mem_toList]
      constructor
      · rintro ⟨check, ⟨intent, hintent, rfl⟩, hfailed⟩
        exact ⟨intent, hintent, checkActionIntentPrecondition_eq_false_iff.mp hfailed⟩
      · rintro ⟨intent, hintent, hmissing⟩
        exact ⟨_, ⟨intent, hintent, rfl⟩,
          checkActionIntentPrecondition_eq_false_iff.mpr hmissing⟩

/-- **A failed check is held against a fix** exactly when the LLM agrees that
something failed, and `kubectl` did not fail without a word: the Verifier
overrules nothing, and takes silence for the absence of manifests. -/
theorem holdsBack_iff (now : DateTime) (output : VerifierLLMOutput) :
    HoldsBack config env.dryRun state now output ↔
      (SomethingFails config env state → output.kind ≠ .passed) ∧
        ∀ proposal, config.fixProposal = some proposal →
          ¬ SilentKubectlFailure env proposal := by
  rw [← checkFailed_iff]
  cases hproposal : config.fixProposal with
  | some proposal =>
      have hrun : runChecks config env.dryRun state =
          some (proposalChecks env.dryRun proposal, PyText.join "\n"
            (((proposalChecks env.dryRun proposal).map CheckResult.output).filter
              fun o => !o.isEmpty)) := by
        rw [runChecks, hproposal]
      rw [holdsBack_iff_of_runChecks hrun, failuresReported_proposal_iff hproposal]
      simp only [Option.some.injEq, forall_eq', silentKubectlFailure_iff]
      constructor
      · intro hholds
        refine ⟨fun hfailed => (hholds hfailed).1, fun hsilent => ?_⟩
        have hfailed : CheckFailed config env.dryRun state := by
          rw [checkFailed_iff, SomethingFails, hproposal]
          exact .inr (checkKubectlDryRun_eq_false_iff.mp hsilent.1)
        exact (hholds hfailed).2 hsilent
      · rintro ⟨hkind, hspoken⟩ hfailed
        exact ⟨hkind hfailed, hspoken⟩
  | none =>
      simp only [reduceCtorEq, false_implies, implies_true, and_true]
      cases hintent : activeIntent state.actionIntents with
      | some intent =>
          have hrun : ∃ results dryRunOutput,
              runChecks config env.dryRun state = some (results, dryRunOutput) ∧
                results.map CheckResult.name = ["action_intent.precondition"] := by
            rw [runChecks, hproposal]
            simp [hintent]
          obtain ⟨results, dryRunOutput, hrun, hnames⟩ := hrun
          rw [holdsBack_iff_of_runChecks hrun, hnames,
            and_iff_left (failuresReported_intent hproposal hintent)]
      | none =>
          have hnothing : ¬ CheckFailed config env.dryRun state := by
            simp [CheckFailed, performedChecks, hproposal, hintent]
          exact iff_of_true (fun _ _ _ hfailed => absurd hfailed hnothing)
            fun hfailed => absurd hfailed hnothing

/-- A diff that does not apply: every process ends with 1 and says so. -/
def failingCheckEnv : CheckEnv :=
  .constant { returncode := 1, stdout := "", stderr := "error: patch does not apply" }

def testProposal : FixProposal :=
  { id := "fix_01234567"
    planId := "plan_1"
    branchName := "fix/oom-cap-allocator-rate"
    changes := [{ repo := "demo-app", path := "leak.py", diff := "--- a/leak.py" }]
    commitMessage := "fix: cap the allocator (hyp_1)"
    prBody := "Root cause: hyp_1. Evidence: ev_1." }

/-- An LLM that calls a patch sound which does not apply is believed. -/
theorem not_holdsBack :
    ¬ ∀ (config : VerifierConfig) (env : CheckEnv) (state : IncidentState) (now : DateTime)
        (output : VerifierLLMOutput), HoldsBack config env.dryRun state now output := by
  intro h
  have hholds := h { fixProposal := some testProposal } failingCheckEnv testIncident testNow
    { kind := .passed, reasoning := "The fix is sound." }
  have hfailed : CheckFailed { fixProposal := some testProposal } failingCheckEnv.dryRun
      testIncident :=
    checkFailed_iff.mpr (.inl ⟨0, _, rfl, by decide⟩)
  exact ((holdsBack_iff_of_runChecks rfl).mp hholds hfailed).1 rfl

end Main

end AlphE.Orchestrator
