import AlphE.Nodes.Repair

/-!
The dry runs behind the Verifier (`verifier/checks.py`). Every check starts a
process and looks at how it ended: `git apply --check` once for each change, and
`kubectl apply --dry-run=server` once for all manifests among them. The
processes are a parameter: how the `n`-th one that is started ends.
-/

namespace AlphE.Nodes

/-- What `subprocess.run` is asked for. -/
structure Command where
  cmd : List String
  cwd : Option String := none
  stdin : Option String := none
  deriving DecidableEq

structure CompletedProcess where
  returncode : ℤ
  stdout : String
  stderr : String
  deriving DecidableEq

/-- `(success, combined_output)` of `_run`. -/
def CompletedProcess.outcome (p : CompletedProcess) : Bool × String :=
  (decide (p.returncode = 0), p.stdout ++ p.stderr)

/-! ### Manifests -/

def k8sExtensions : List String := [".yaml", ".yml", ".json"]

def k8sPathKeywords : List String := ["deploy", "manifest", "k8s", "kubernetes", "helm", "chart"]

/-- `_has_k8s_markers`. -/
def hasK8sMarkers (diff : String) : Bool :=
  (PyText.splitlines diff).any fun line =>
    let stripped := PyText.lstrip (PyText.lstripChars ['+', '-'] line)
    PyText.startsWith "apiVersion:" stripped || PyText.startsWith "kind:" stripped

/-- `_looks_like_k8s_manifest`. -/
def looksLikeK8sManifest (lower : String → String) (change : FileChange) : Bool :=
  if PyText.pathSuffix change.path ∉ k8sExtensions then false
  else
    let lowered := lower (PyText.pathStr change.path)
    (k8sPathKeywords.any fun kw => PyText.occursIn kw lowered) || hasK8sMarkers change.diff

/-- `_extract_new_content`: the added lines, or the whole text when there are
none. -/
def extractNewContent (diff : String) : String :=
  let plusLines := (PyText.splitlines diff).filter fun line =>
    PyText.startsWith "+" line && !PyText.startsWith "+++" line
  if plusLines.isEmpty then diff
  else PyText.join "\n" (plusLines.map fun line => String.ofList (line.toList.drop 1))

/-! ### The checks -/

/-- What the checks read: the tables of `str.lower`, the processes, and the
working tree. -/
structure CheckEnv where
  lower : String → String
  subprocess : ℕ → Command → CompletedProcess
  repoPath : String := "."

/-- A system whose processes all end alike. -/
def CheckEnv.constant (process : CompletedProcess) : CheckEnv where
  lower := id
  subprocess _ _ := process

section Checks

variable (env : CheckEnv) (proposal : FixProposal)

/-- `git apply --check` on the `i`-th change. -/
def gitProcess (i : ℕ) (change : FileChange) : CompletedProcess :=
  env.subprocess i
    { cmd := ["git", "apply", "--check", "-"]
      cwd := some env.repoPath
      stdin := some change.diff }

/-- `check_git_apply`. -/
def checkGitApply : Bool × String :=
  let results := proposal.changes.mapIdx fun i change =>
    (change.path, (gitProcess env i change).outcome)
  (results.all fun r => r.2.1,
    PyText.join "\n" (results.map fun r => "# " ++ r.1 ++ "\n" ++ r.2.2))

def k8sChanges : List FileChange :=
  proposal.changes.filter (looksLikeK8sManifest env.lower)

/-- `kubectl apply --dry-run=server` on the manifests. -/
def kubectlCommand : Command :=
  { cmd := ["kubectl", "apply", "--dry-run=server", "-f", "-"]
    stdin := some (PyText.join "\n---\n" ((k8sChanges env proposal).map fun change =>
      extractNewContent change.diff)) }

/-- It runs after the runs of `git`. -/
def kubectlProcess : CompletedProcess :=
  env.subprocess proposal.changes.length (kubectlCommand env proposal)

/-- `check_kubectl_dry_run`. -/
def checkKubectlDryRun : Bool × String :=
  if (k8sChanges env proposal).isEmpty then (true, "")
  else (kubectlProcess env proposal).outcome

end Checks

/-- The dry runs of the Verifier. -/
def CheckEnv.dryRun (env : CheckEnv) : DryRun where
  checkGitApply := checkGitApply env
  checkKubectlDryRun := checkKubectlDryRun env

/-! ### When a check fails -/

section Failures

variable {env : CheckEnv} {proposal : FixProposal}

theorem checkGitApply_eq_false_iff :
    (checkGitApply env proposal).1 = false ↔
      ∃ (i : ℕ) (change : FileChange), proposal.changes[i]? = some change ∧
        (gitProcess env i change).returncode ≠ 0 := by
  rw [checkGitApply, List.all_eq_false]
  constructor
  · rintro ⟨r, hr, hfailed⟩
    obtain ⟨i, hi, rfl⟩ := List.mem_mapIdx.mp hr
    refine ⟨i, proposal.changes[i], List.getElem?_eq_getElem hi, ?_⟩
    simpa [CompletedProcess.outcome] using hfailed
  · rintro ⟨i, change, hchange, hfailed⟩
    obtain ⟨hi, rfl⟩ := List.getElem?_eq_some_iff.mp hchange
    refine ⟨_, List.mem_mapIdx.mpr ⟨i, hi, rfl⟩, ?_⟩
    simpa [CompletedProcess.outcome] using hfailed

theorem checkKubectlDryRun_eq_false_iff :
    (checkKubectlDryRun env proposal).1 = false ↔
      (∃ change ∈ proposal.changes, looksLikeK8sManifest env.lower change = true) ∧
        (kubectlProcess env proposal).returncode ≠ 0 := by
  have hmanifest : (k8sChanges env proposal).isEmpty = false ↔
      ∃ change ∈ proposal.changes, looksLikeK8sManifest env.lower change = true := by
    simp [k8sChanges, ← Bool.not_eq_true, List.isEmpty_iff, List.filter_eq_nil_iff]
  rw [← hmanifest, checkKubectlDryRun]
  cases hempty : (k8sChanges env proposal).isEmpty with
  | true => simp
  | false => simp [CompletedProcess.outcome]

/-- A manifest that `kubectl` turns down without a word. -/
def SilentKubectlFailure (env : CheckEnv) (proposal : FixProposal) : Prop :=
  (∃ change ∈ proposal.changes, looksLikeK8sManifest env.lower change = true) ∧
    (kubectlProcess env proposal).returncode ≠ 0 ∧
    (kubectlProcess env proposal).stdout = "" ∧ (kubectlProcess env proposal).stderr = ""

theorem silentKubectlFailure_iff :
    SilentKubectlFailure env proposal ↔
      (checkKubectlDryRun env proposal).1 = false ∧
        (checkKubectlDryRun env proposal).2.isEmpty = true := by
  rw [checkKubectlDryRun_eq_false_iff, SilentKubectlFailure, and_assoc]
  refine and_congr_right fun hmanifest => and_congr_right fun _ => ?_
  have hsome : (k8sChanges env proposal).isEmpty = false := by
    obtain ⟨change, hchange, hlooks⟩ := hmanifest
    exact List.isEmpty_eq_false_iff_exists_mem.mpr
      ⟨change, List.mem_filter.mpr ⟨hchange, hlooks⟩⟩
  rw [checkKubectlDryRun, hsome]
  simp [CompletedProcess.outcome]

end Failures

end AlphE.Nodes
