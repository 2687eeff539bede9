import AlphE.Nodes.Checks
import AlphE.Lib.UnifiedDiff

/-!
What `kubectl` is given to check. The new content of a manifest is put together from
the added lines of its diff alone: the lines that the patch leaves as they are do not
come along, nor does an added line that begins with two plus signs of its own.
-/

namespace AlphE.Nodes

open UnifiedDiff

/-- Every change gives the content of its patched file, and `kubectl` gets that of the
manifests. -/
structure SendsPatched (env : CheckEnv) (proposal : FixProposal)
    (diffOf : FileChange → WholeFile) : Prop where
  extracted : ∀ change ∈ proposal.changes,
    extractNewContent change.diff = (diffOf change).newContent
  submitted : (kubectlCommand env proposal).stdin =
    some (PyText.join "\n---\n" ((k8sChanges env proposal).map fun change =>
      (diffOf change).newContent))

/-! ### What is extracted -/

/-- The line is one the extraction carries over, or none of the new file. -/
def Carried : BodyLine → Prop
  | .context _ => False
  | .removed _ => True
  | .added s => PyText.startsWith "++" s = false

/-- A line that the extraction keeps. -/
def keptLine : BodyLine → Option String
  | .context _ => none
  | .removed _ => none
  | .added s => if PyText.startsWith "++" s then none else some s

def keptLines (body : List BodyLine) : List String := body.filterMap keptLine

theorem startsWith_plus_text (line : BodyLine) :
    PyText.startsWith "+" line.text = (line.new.isSome && line.old.isNone) := by
  have hsign : ∀ (sign : Char) (s : String),
      PyText.startsWith "+" (String.ofList [sign] ++ s) = (sign == '+') := by
    intro sign s
    have hone : (String.ofList [sign]).toList = [sign] := String.toList_ofList
    rw [PyText.startsWith, String.toList_append, hone, Bool.beq_comm]
    exact Bool.and_true ('+' == sign)
  cases line with
  | context s => exact hsign ' ' s
  | removed s => exact hsign '-' s
  | added s => exact hsign '+' s

theorem startsWith_plusses_added (s : String) :
    PyText.startsWith "+++" (BodyLine.added s).text = PyText.startsWith "++" s := by
  simp [BodyLine.text, PyText.startsWith]

/-- The added lines of a hunk, without their signs. -/
theorem map_drop_filter_text (body : List BodyLine) :
    ((body.map BodyLine.text).filter fun line =>
        PyText.startsWith "+" line && !PyText.startsWith "+++" line).map
      (fun line => String.ofList (line.toList.drop 1)) = keptLines body := by
  induction body with
  | nil => rfl
  | cons line body ih =>
      rw [List.map_cons, List.filter_cons, keptLines, List.filterMap_cons, startsWith_plus_text]
      cases line with
      | context s => exact ih
      | removed s => exact ih
      | added s =>
          rw [startsWith_plusses_added]
          cases hplus : PyText.startsWith "++" s with
          | true =>
              simp only [keptLine, hplus, if_true]
              exact ih
          | false =>
              have hsign : String.ofList ((BodyLine.added s).text.toList.drop 1) = s := by
                simp [BodyLine.text]
              simp only [keptLine, hplus, Bool.false_eq_true, if_false]
              exact congrArg₂ List.cons hsign ih

/-- No line of the headers counts as added. -/
theorem filter_header (d : WholeFile) :
    (d.header.filter fun line =>
      PyText.startsWith "+" line && !PyText.startsWith "+++" line) = [] := by
  simp [WholeFile.header, PyText.startsWith]

theorem extractNewContent_text (d : WholeFile) :
    extractNewContent d.text =
      if keptLines d.body = [] then d.text else PyText.join "\n" (keptLines d.body) := by
  have hkept := map_drop_filter_text d.body
  have hplus : ((d.lines).filter fun line =>
      PyText.startsWith "+" line && !PyText.startsWith "+++" line) =
      (d.body.map BodyLine.text).filter fun line =>
        PyText.startsWith "+" line && !PyText.startsWith "+++" line := by
    rw [WholeFile.lines, List.filter_append, filter_header, List.nil_append]
  rw [extractNewContent, d.splitlines_text, hplus]
  generalize ((d.body.map BodyLine.text).filter fun line =>
    PyText.startsWith "+" line && !PyText.startsWith "+++" line) = plusLines at hkept ⊢
  rw [← hkept]
  cases plusLines with
  | nil => rfl
  | cons line lines => rfl

/-! ### When it is the new file -/

theorem keptLines_sublist (body : List BodyLine) : (keptLines body).Sublist (newLines body) := by
  induction body with
  | nil => exact List.Sublist.refl _
  | cons line body ih =>
      rw [keptLines, newLines, List.filterMap_cons, List.filterMap_cons]
      cases line with
      | context s => exact ih.cons s
      | removed s => exact ih
      | added s =>
          cases hplus : PyText.startsWith "++" s with
          | true =>
              simp only [keptLine, hplus, if_true]
              exact ih.cons s
          | false =>
              simp only [keptLine, hplus, Bool.false_eq_true, if_false]
              exact ih.cons_cons s

theorem keptLines_eq_iff (body : List BodyLine) :
    keptLines body = newLines body ↔ ∀ line ∈ body, Carried line := by
  induction body with
  | nil => simp [keptLines, newLines]
  | cons line body ih =>
      have hle := (keptLines_sublist body).length_le
      rw [List.forall_mem_cons, ← ih, keptLines, newLines, List.filterMap_cons,
        List.filterMap_cons]
      have hshort : ∀ s, keptLines body ≠ s :: newLines body := by
        intro s h
        rw [h, List.length_cons] at hle
        omega
      cases line with
      | context s => exact iff_of_false (hshort s) fun h => h.1
      | removed s => exact (and_iff_right trivial).symm
      | added s =>
          cases hplus : PyText.startsWith "++" s with
          | true =>
              simp only [keptLine, hplus, if_true, Carried]
              exact iff_of_false (hshort s) fun h => absurd h.1 (by simp)
          | false =>
              simp only [keptLine, hplus, Bool.false_eq_true, if_false, Carried, true_and]
              exact List.cons_inj_right s

theorem extractNewContent_eq_iff (d : WholeFile) (hnew : newLines d.body ≠ []) :
    extractNewContent d.text = d.newContent ↔ ∀ line ∈ d.body, Carried line := by
  have hbreak : ∀ {xs : List String}, xs.Sublist (newLines d.body) →
      ∀ x ∈ xs, '\n' ∉ x.toList :=
    fun hsub x hx => (d.noBreak_newLines x (hsub.subset hx)).newline_not_mem
  have hlength : (newLines d.body).length ≤ d.body.length := List.length_filterMap_le _ _
  rw [extractNewContent_text, ← keptLines_eq_iff]
  split
  · next hnone =>
      -- Nothing is kept, and the whole text is taken for the file.
      refine iff_of_false (d.text_ne_join d.noBreak_newLines hnew hlength) ?_
      rw [hnone]
      exact hnew.symm
  · next hsome =>
      constructor
      · intro h
        have hsub := keptLines_sublist d.body
        exact PyText.join_injective (hbreak hsub) (hbreak (List.Sublist.refl _)) hsome hnew h
      · intro h
        rw [h]
        rfl

/-- **When the manifests that are checked are the patched files.** Exactly when the
diffs have no line of context and no added line that begins with two plus signs. -/
theorem sendsPatched_iff (env : CheckEnv) {proposal : FixProposal}
    {diffOf : FileChange → WholeFile}
    (hdiff : ∀ change ∈ proposal.changes, change.diff = (diffOf change).text)
    (hnew : ∀ change ∈ proposal.changes, newLines (diffOf change).body ≠ []) :
    SendsPatched env proposal diffOf ↔
      ∀ change ∈ proposal.changes, ∀ line ∈ (diffOf change).body, Carried line := by
  have hchange : ∀ change ∈ proposal.changes,
      (extractNewContent change.diff = (diffOf change).newContent ↔
        ∀ line ∈ (diffOf change).body, Carried line) := by
    intro change hmem
    rw [hdiff change hmem]
    exact extractNewContent_eq_iff _ (hnew change hmem)
  constructor
  · intro h change hmem
    exact (hchange change hmem).mp (h.extracted change hmem)
  · intro h
    have hextracted : ∀ change ∈ proposal.changes,
        extractNewContent change.diff = (diffOf change).newContent :=
      fun change hmem => (hchange change hmem).mpr (h change hmem)
    refine ⟨hextracted, ?_⟩
    rw [kubectlCommand, Option.some.injEq]
    apply congrArg
    apply List.map_congr_left
    intro change hmem
    exact hextracted change (List.mem_of_mem_filter hmem)

/-! ### A memory limit that is raised -/

def testManifest : WholeFile where
  oldFile := "a/deploy/deployment.yaml"
  newFile := "b/deploy/deployment.yaml"
  oldRange := "1,3"
  newRange := "1,3"
  heading := ""
  body :=
    [.context "apiVersion: apps/v1", .context "kind: Deployment", .removed "  memory: 128Mi",
      .added "  memory: 256Mi"]
  finalNewline := true
  oldRange_mem := by decide
  newRange_mem := by decide
  noBreak := PyText.forall_noBreak_of_all id (by decide)
  noBreak_body := PyText.forall_noBreak_of_all BodyLine.content (by decide)

def testManifestProposal : FixProposal :=
  { id := "fp_002"
    planId := "plan_001"
    branchName := "fix/oom-limit"
    changes := [{ repo := "my-repo", path := "deploy/deployment.yaml", diff := testManifest.text }]
    commitMessage := "fix: raise memory limit"
    prBody := "Raises the 128Mi limit." }

theorem sendsPatched_iff_testManifest :
    SendsPatched (.constant ⟨0, "", ""⟩) testManifestProposal (fun _ => testManifest) ↔
      ∀ change ∈ testManifestProposal.changes, ∀ line ∈ testManifest.body, Carried line :=
  sendsPatched_iff (.constant ⟨0, "", ""⟩) (by simp [testManifestProposal]) (by decide)

/-- `kubectl` gets the limit without the deployment around it. -/
theorem not_sendsPatched :
    ¬ ∀ (env : CheckEnv) (proposal : FixProposal) (diffOf : FileChange → WholeFile),
      (∀ change ∈ proposal.changes, change.diff = (diffOf change).text) →
      (∀ change ∈ proposal.changes, newLines (diffOf change).body ≠ []) →
      SendsPatched env proposal diffOf := by
  intro h
  have hsends := h (.constant ⟨0, "", ""⟩) testManifestProposal (fun _ => testManifest)
    (by simp [testManifestProposal]) (by decide)
  have hextracted := hsends.extracted _ List.mem_cons_self
  rw [extractNewContent_eq_iff testManifest (by decide)] at hextracted
  exact hextracted (.context "apiVersion: apps/v1") List.mem_cons_self

end AlphE.Nodes
