import AlphE.Nodes.Review
import AlphE.Nodes.Trimming

/-!
Whether a change patches the file it declares. The diff of a change names its files in
the headers of its sections, and the change gives a path of its own. The validator counts
the sections and looks at no header: the path may be any other, and the checks that come
later go by it.
-/

namespace AlphE.Nodes

open PyText UnifiedDiff

/-! ### The files of a diff -/

/-- The file that a header names, if it names one. -/
def headerFile (mark name : String) : Option String :=
  if name = "/dev/null" then none
  else if startsWith mark name then some (String.ofList (name.toList.drop mark.length))
  else some name

/-- The files that the headers of a section name. -/
def sectionFiles (s : FileSection) : List String :=
  (headerFile "a/" s.source).toList ++ (headerFile "b/" s.target).toList

def namedFiles (sections : List FileSection) : Set String :=
  {file | ∃ s ∈ sections, file ∈ sectionFiles s}

section Labels

variable (parse : String → Except String (List FileSection))

/-- The diff of the change names its path, and nothing else. -/
def NamesItsFile (change : FileChange) : Prop :=
  ∃ sections, parse (strip change.diff) = .ok sections ∧ namedFiles sections = {change.path}

/-- No header names another file than the path, and some header names it. -/
def labelled (change : FileChange) : Bool :=
  match parse (strip change.diff) with
  | .error _ => false
  | .ok sections =>
      let files := sections.flatMap sectionFiles
      files.all (fun file => file = change.path) && !files.isEmpty

variable {parse}

theorem namedFiles_eq_singleton_iff (sections : List FileSection) (path : String) :
    namedFiles sections = {path} ↔
      (∀ file ∈ sections.flatMap sectionFiles, file = path) ∧
        sections.flatMap sectionFiles ≠ [] := by
  have hmem : ∀ file, file ∈ namedFiles sections ↔ file ∈ sections.flatMap sectionFiles := by
    intro file
    rw [List.mem_flatMap]
    rfl
  constructor
  · intro h
    refine ⟨?_, ?_⟩
    · intro file hfile
      rw [← hmem, h] at hfile
      exact hfile
    · have hpath : path ∈ namedFiles sections := h ▸ Set.mem_singleton path
      exact List.ne_nil_of_mem ((hmem path).mp hpath)
  · rintro ⟨hall, hne⟩
    obtain ⟨file, hfile⟩ := List.exists_mem_of_ne_nil _ hne
    rw [Set.eq_singleton_iff_unique_mem]
    refine ⟨?_, ?_⟩
    · rw [hmem, ← hall file hfile]
      exact hfile
    · intro other hother
      exact hall other ((hmem other).mp hother)

theorem namesItsFile_iff (change : FileChange) :
    NamesItsFile parse change ↔ labelled parse change = true := by
  unfold labelled NamesItsFile
  cases parse (strip change.diff) with
  | error exc => simp
  | ok sections =>
      simp only [Except.ok.injEq, exists_eq_left', namedFiles_eq_singleton_iff, Bool.and_eq_true,
        List.all_eq_true, decide_eq_true_eq, Bool.not_eq_true', List.isEmpty_eq_false_iff]

end Labels

/-! ### What goes by the path -/

/-- The change, with another path. -/
def relabel (label : FileChange → String) (change : FileChange) : FileChange :=
  { change with path := label change }

section Relabel

variable (label : FileChange → String)

/-- Whether diffs are valid has nothing to do with the paths they come under. -/
theorem validateFileChanges_relabel {patchSet : String → Except String ℕ}
    {changes : List FileChange} :
    validateFileChanges patchSet (changes.map (relabel label)) = .ok () ↔
      validateFileChanges patchSet changes = .ok () := by
  rw [validateFileChanges_eq_ok_iff, validateFileChanges_eq_ok_iff, List.forall_mem_map]
  apply and_congr_left
  intro _
  simp

/-- Nor has the rule on repositories. -/
theorem checkDiffRepos_relabel (isprintable : Char → Bool) (proposal : FixProposal)
    (plan : RemediationPlan) :
    checkDiffRepos isprintable
        { proposal with changes := proposal.changes.map (relabel label) } plan =
      checkDiffRepos isprintable proposal plan := by
  have hrepos : (proposal.changes.map (relabel label)).map FileChange.repo =
      proposal.changes.map FileChange.repo := by
    rw [List.map_map]
    rfl
  simp only [checkDiffRepos, hrepos]

end Relabel

/-! ### What is delivered -/

section Delivered

variable (env : DevEnv) (parse : String → Except String (List FileSection))
  (plan : RemediationPlan) (state : IncidentState)

/-- The surroundings of a run, with this parser for its diffs. -/
def reading : DevEnv := { env with patchSet := fun text => (parse text).map List.length }

/-- **When a proposal touches only the files it declares.** Exactly when the last output,
if it is one that is delivered, declares for every change the file its diff names. -/
theorem delivers_namesItsFile_iff :
    (∀ out, (runDev (reading env parse) plan state).result = .output out →
      ∀ change ∈ out.proposal.changes, NamesItsFile parse change) ↔
    ∀ llmOutput, (runDev (reading env parse) plan state).lastOutput = some llmOutput →
      validateFileChanges (reading env parse).patchSet llmOutput.changes = .ok () →
      InScope plan llmOutput →
      ∀ change ∈ llmOutput.changes, labelled parse change = true := by
  have hpath : DevPath (reading env parse) plan state (runDev (reading env parse) plan state) :=
    devPath_runDev
  constructor
  · intro h llmOutput hlast hvalid hscope change hchange
    rw [← namesItsFile_iff]
    have hresult := (result_runDev (reading env parse) plan state hpath _).mpr
      ⟨llmOutput, hlast, hvalid, hscope, rfl⟩
    exact h _ hresult change hchange
  · intro h out hout change hchange
    obtain ⟨llmOutput, hlast, hvalid, hscope, rfl⟩ :=
      (result_runDev (reading env parse) plan state hpath out).mp hout
    rw [namesItsFile_iff]
    exact h llmOutput hlast hvalid hscope change hchange

end Delivered

/-! ### Another file -/

/-- The change declares a module, and its diff patches a manifest. -/
def testMislabelled : DevLLMOutput :=
  { testDevOutput "fix: cap the allocator" "Root cause: hyp_oom." with
    changes :=
      [{ repo := "demo-app"
         path := "leak.py"
         diff := "--- a/app.yaml\n+++ b/app.yaml\n@@ -1,3 +1,3 @@\n-cpu: 1\n+cpu: 9\n" ++
           " a: 0\n b: 0\n" }] }

/-- A first answer that is valid and in scope is delivered. -/
theorem result_runDev_of_valid {env : DevEnv} {plan : RemediationPlan} {state : IncidentState}
    {llmOutput : DevLLMOutput}
    (hanswer : ∀ messages, env.completeTyped env.systemPrompt messages = .ok llmOutput)
    (hvalid : validateFileChanges env.patchSet llmOutput.changes = .ok ())
    (hscope : InScope plan llmOutput) :
    (runDev env plan state).result = .output
      { proposal := buildProposal env plan state llmOutput
        reasoning := llmOutput.reasoning } := by
  simp only [runDev, askLlm, hanswer, hvalid]
  exact deliver_of_inScope hscope

theorem not_delivers_namesItsFile :
    ¬ ∀ (env : DevEnv) (parse : String → Except String (List FileSection))
      (plan : RemediationPlan) (state : IncidentState) (out : DevOutput),
      (runDev (reading env parse) plan state).result = .output out →
      ∀ change ∈ out.proposal.changes, NamesItsFile parse change := by
  intro h
  have hscope : InScope testPlan testMislabelled := by
    unfold InScope
    decide
  have hanswer : ∀ messages, (reading (testDevEnv testMislabelled) testReader.read).completeTyped
      "# Dev" messages = .ok testMislabelled := fun _ => rfl
  have hvalid : validateFileChanges
      (reading (testDevEnv testMislabelled) testReader.read).patchSet testMislabelled.changes =
      .ok () := by
    decide
  have hnames := h _ _ _ testFixing _ (result_runDev_of_valid hanswer hvalid hscope) _
    List.mem_cons_self
  rw [namesItsFile_iff] at hnames
  revert hnames
  decide

end AlphE.Nodes
