import AlphE.Nodes.Dev
import AlphE.Lib.PatchReader

/-!
Whether trimming a diff changes what it is (`dev/diff_validator.py`). The validator
strips a diff before it is parsed. A hunk may end in blank lines of the context: they go
with the rest of the white space, and the hunk is short of them.
-/

namespace AlphE.Nodes

open PyText UnifiedDiff

section Validity

variable (patchSet : String → Except String ℕ)

/-- `PatchSet(d)` parses and is not empty. -/
def Parses (diff : String) : Prop := ∃ n, patchSet diff = .ok (n + 1)

/-- The change is accepted. -/
def Accepted (change : FileChange) : Prop := validateFileChanges patchSet [change] = .ok ()

/-- The keys of the failures that are raised. -/
def failureKeys (changes : List FileChange) : List (String × String) :=
  match validateFileChanges patchSet changes with
  | .ok () => []
  | .error exc => exc.failures.keys

/-- Trimming does not change whether a diff is valid, and what is reported are the changes
that are rejected. -/
structure KeepsValidity (diff : String) : Prop where
  validated : ∀ repo path,
    Accepted patchSet { repo := repo, path := path, diff := diff } ↔ Parses patchSet diff
  asked : ∀ repo path, isValidDiff patchSet diff = true ↔
    Accepted patchSet { repo := repo, path := path, diff := diff }
  recorded : ∀ changes, changes ≠ [] → ∀ key, key ∈ failureKeys patchSet changes ↔
    ∃ change ∈ changes, (change.repo, change.path) = key ∧ ¬ Accepted patchSet change

/-! ### What the validator says -/

variable {patchSet}

theorem diffFailure_eq_none_iff {change : FileChange} :
    diffFailure patchSet change = none ↔
      strip change.diff ≠ "" ∧ Parses patchSet (strip change.diff) := by
  simp only [diffFailure, Parses, String.isEmpty_iff]
  split
  · next hempty => simp [hempty]
  · next hempty =>
      cases hparse : patchSet (strip change.diff) with
      | error exc => simp
      | ok n => cases n <;> simp [hempty]

theorem accepted_iff {change : FileChange} :
    Accepted patchSet change ↔ diffFailure patchSet change = none := by
  rw [Accepted, validateFileChanges_eq_ok_iff]
  simp

theorem isValidDiff_iff {diff : String} :
    isValidDiff patchSet diff = true ↔ strip diff ≠ "" ∧ Parses patchSet (strip diff) := by
  simp only [isValidDiff, Parses, String.isEmpty_iff]
  split
  · next hempty => simp [hempty]
  · next hempty =>
      cases hparse : patchSet (strip diff) with
      | error exc => simp
      | ok n => cases n <;> simp [hempty]

theorem mem_keys_foldl_recordFailure (changes : List FileChange)
    (failures : InsertionDict (String × String) String) (key : String × String) :
    key ∈ (changes.foldl (recordFailure patchSet) failures).keys ↔
      key ∈ failures.keys ∨ ∃ change ∈ changes, (change.repo, change.path) = key ∧
        diffFailure patchSet change ≠ none := by
  induction changes generalizing failures with
  | nil => simp
  | cons change changes ih =>
      rw [List.foldl_cons, ih, recordFailure]
      cases hfailure : diffFailure patchSet change with
      | none => simp [hfailure]
      | some detail =>
          have hhead : ((change.repo, change.path) = key ∧ diffFailure patchSet change ≠ none) ↔
              key = (change.repo, change.path) := by
            rw [hfailure]
            simp [eq_comm]
          rw [InsertionDict.mem_keys_set, List.exists_mem_cons_iff, hhead, or_assoc]

theorem failureKeys_eq (changes : List FileChange) (hne : changes ≠ []) :
    failureKeys patchSet changes = (changes.foldl (recordFailure patchSet) ∅).keys := by
  have hempty : changes.isEmpty = false := List.isEmpty_eq_false_iff.mpr hne
  simp only [failureKeys, validateFileChanges, hempty, Bool.false_eq_true, if_false]
  cases hitems : (changes.foldl (recordFailure patchSet) ∅).items with
  | nil => simp [InsertionDict.keys, hitems]
  | cons p ps => rfl

theorem mem_failureKeys_iff {changes : List FileChange} (hne : changes ≠ [])
    (key : String × String) :
    key ∈ failureKeys patchSet changes ↔
      ∃ change ∈ changes, (change.repo, change.path) = key ∧ ¬ Accepted patchSet change := by
  rw [failureKeys_eq changes hne, mem_keys_foldl_recordFailure]
  simp only [accepted_iff]
  exact or_iff_right List.not_mem_nil

/-- Trimming matters to the parser alone. -/
theorem keepsValidity_iff_parses {diff : String} (h : strip diff ≠ "") :
    KeepsValidity patchSet diff ↔
      (Parses patchSet diff ↔ Parses patchSet (strip diff)) := by
  have haccepted : ∀ repo path,
      Accepted patchSet { repo := repo, path := path, diff := diff } ↔
        Parses patchSet (strip diff) := by
    intro repo path
    rw [accepted_iff, diffFailure_eq_none_iff]
    exact and_iff_right h
  constructor
  · intro hkeeps
    rw [← haccepted "" ""]
    exact (hkeeps.validated "" "").symm
  · intro hparses
    refine ⟨?_, ?_, fun changes hne key => mem_failureKeys_iff hne key⟩
    · intro repo path
      rw [haccepted, hparses]
    · intro repo path
      rw [haccepted, isValidDiff_iff]
      exact and_iff_right h

end Validity

/-! ### What is cut off -/

section Reader

variable {σ : Type} (R : Reader σ)

/-- `PatchSet`, by its length. -/
def patchSet (text : String) : Except String ℕ := (R.read text).map List.length

/-- The blank lines that are cut off at the end complete no hunk, and are not refused
where the text ends. -/
structure CutClean (diff : String) : Prop where
  complete : ¬ R.Completes (innerLines (streamLines diff)) (trailingLines (streamLines diff))
  admitted : R.Admits (innerLines (streamLines diff)) (trailingLines (streamLines diff))

/-- The text is taken with the white space at the start of its first line and at the end
of its last one as it is without. -/
def EdgesKeep (diff : String) : Prop :=
  R.Takes (innerLines (streamLines diff)) ↔ R.Takes (streamLines (strip diff))

variable {R}

theorem parses_iff {text : String} : Parses (patchSet R) text ↔ R.Takes (streamLines text) := by
  rw [← Reader.exists_read_iff, Parses]
  simp only [patchSet]
  cases R.read text with
  | error exc =>
      constructor
      · rintro ⟨n, hn⟩
        cases hn
      · rintro ⟨sections, hread, -⟩
        cases hread
  | ok sections =>
      constructor
      · rintro ⟨n, hn⟩
        refine ⟨sections, rfl, ?_⟩
        rintro rfl
        cases hn
      · rintro ⟨sections', hread, hne⟩
        cases hread
        cases sections with
        | nil => exact absurd rfl hne
        | cons s sections => exact ⟨sections.length, rfl⟩

theorem takes_streamLines_iff (diff : String) :
    R.Takes (streamLines diff) ↔
      R.Takes (innerLines (streamLines diff) ++ trailingLines (streamLines diff)) := by
  have hlines := takeWhile_append_inner_append_trailing (streamLines diff)
  have hblank : ∀ line ∈ (streamLines diff).takeWhile blank, blank line = true :=
    fun _ hline => blank_of_mem_takeWhile hline
  have hafter := R.after_blank_append hblank
    (innerLines (streamLines diff) ++ trailingLines (streamLines diff))
  rw [hlines] at hafter
  simp only [Reader.Takes, hafter]

/-- What changes twice between two ends is what it was. -/
theorem iff_iff_of_between (a b c : Prop) : (a ↔ c) ↔ ((a ↔ b) ↔ (b ↔ c)) := by
  by_cases hb : b
  · simp [hb]
  · simp [hb, not_iff_not]

theorem cutClean_iff (diff : String) :
    CutClean R diff ↔
      (R.Takes (innerLines (streamLines diff) ++ trailingLines (streamLines diff)) ↔
        R.Takes (innerLines (streamLines diff))) := by
  have hblank : ∀ line ∈ trailingLines (streamLines diff), blank line = true :=
    fun _ hline => blank_of_mem_trailingLines hline
  rw [Reader.takes_append_iff hblank]
  constructor
  · intro hcut
    exact ⟨hcut.complete, hcut.admitted⟩
  · rintro ⟨hcomplete, hadmitted⟩
    exact ⟨hcomplete, hadmitted⟩

/-- The parser takes the diff and the trimmed diff alike when the blank lines that are cut
off do not matter and neither do the edges of the text, or the two make up for each
other. -/
theorem parses_strip_iff (diff : String) :
    (Parses (patchSet R) diff ↔ Parses (patchSet R) (strip diff)) ↔
      (CutClean R diff ↔ EdgesKeep R diff) := by
  rw [parses_iff, parses_iff, takes_streamLines_iff, cutClean_iff, EdgesKeep]
  exact iff_iff_of_between _ _ _

/-- A diff whose header is not indented, and that ends in a hunk on a line with no white
space after it, stays what it is unless the blank lines complete its last hunk. -/
theorem keepsValidity_framed_iff {lead core trail : List Char} (h : Framed lead core trail)
    (hsettled : ∀ s, R.after (streamLines (String.ofList core)) = .ok (.outside s) →
      R.settled s) :
    KeepsValidity (patchSet R) (String.ofList (lead ++ core ++ trail)) ↔
      ¬ R.Completes (streamLines (String.ofList core))
        (trailingLines (streamLines (String.ofList (lead ++ core ++ trail)))) := by
  have hinner := innerLines_of_framed h
  have hstrip := strip_of_framed h
  have hne : strip (String.ofList (lead ++ core ++ trail)) ≠ "" := by
    obtain ⟨c, cs, hcore, -⟩ := h.first
    rw [hstrip, hcore, Ne, ← String.toList_eq_nil_iff, String.toList_ofList]
    exact List.cons_ne_nil c cs
  have hedges : EdgesKeep R (String.ofList (lead ++ core ++ trail)) := by
    rw [EdgesKeep, hinner, hstrip]
  have hblank : ∀ line ∈ trailingLines (streamLines (String.ofList (lead ++ core ++ trail))),
      blank line = true := fun _ hline => blank_of_mem_trailingLines hline
  rw [keepsValidity_iff_parses hne, parses_strip_iff, iff_true_right hedges]
  constructor
  · intro hclean
    rw [← hinner]
    exact hclean.complete
  · intro hcomplete
    refine ⟨?_, ?_⟩
    · rw [hinner]
      exact hcomplete
    · rw [hinner]
      exact Reader.admits_of_settled hblank hsettled

end Reader

/-! ### A hunk that ends in blank lines -/

/-- What a line outside a hunk means, for diffs with hunks of three lines. The state is
the file header that was read, if any, and the files. -/
def testScan : Option String × List FileSection → String →
    Scan (Option String × List FileSection)
  | s, line =>
      if startsWith "--- " line then .goesOn (some (String.ofList (line.toList.drop 4)), s.2)
      else if startsWith "+++ " line then
        match s.1 with
        | some source =>
            .goesOn (none, s.2 ++ [⟨source, String.ofList (line.toList.drop 4)⟩])
        | none => .fails ("Target without source: " ++ line)
      else if line = "@@ -1,3 +1,3 @@" then
        if s.2 = [] then .fails ("Unexpected hunk found: " ++ line) else .opens 3 3 s
      else .goesOn s

def testKind (line : String) : Option LineKind :=
  match line.toList with
  | [] | ' ' :: _ => some .context
  | '-' :: _ => some .removed
  | '+' :: _ => some .added
  | '\\' :: _ => some .marker
  | _ => none

theorem testScan_blank (s : Option String × List FileSection) {line : String}
    (h : blank line = true) : testScan s line = .goesOn s := by
  have hstart : ∀ {start : String} (c : Char) (cs : List Char), start.toList = c :: cs →
      isSpace c = false → startsWith start line = false := by
    intro start c cs hstart hc
    rw [startsWith, hstart]
    cases hline : line.toList with
    | nil => rfl
    | cons d ds =>
        rw [blank, hline, List.all_cons, Bool.and_eq_true] at h
        have hne : c ≠ d := by
          rintro rfl
          rw [hc] at h
          cases h.1
        simp [List.isPrefixOf, hne]
  have hheader : line ≠ "@@ -1,3 +1,3 @@" := by
    rintro rfl
    revert h
    decide
  rw [testScan, hstart '-' _ rfl rfl, hstart '+' _ rfl rfl, if_neg hheader]
  rfl

/-- A hunk has a file. -/
theorem files_of_testScan_opens {s s' : Option String × List FileSection} {line : String}
    {m n : ℕ} (h : testScan s line = .opens m n s') : s'.2 ≠ [] := by
  rw [testScan] at h
  by_cases hsource : startsWith "--- " line = true
  · rw [if_pos hsource] at h
    cases h
  · rw [if_neg hsource] at h
    by_cases htarget : startsWith "+++ " line = true
    · rw [if_pos htarget] at h
      split at h <;> cases h
    · rw [if_neg htarget] at h
      by_cases hheader : line = "@@ -1,3 +1,3 @@"
      · rw [if_pos hheader] at h
        by_cases hfiles : s.2 = []
        · rw [if_pos hfiles] at h
          cases h
        · rw [if_neg hfiles] at h
          cases h
          exact hfiles
      · rw [if_neg hheader] at h
        cases h

theorem testKind_blank {line : String} (h : blank line = true) :
    testKind line = none ∨ testKind line = some .context := by
  rw [blank] at h
  unfold testKind
  split
  · exact .inr rfl
  · exact .inr rfl
  · next hline =>
      rw [hline] at h
      cases h
  · next hline =>
      rw [hline] at h
      cases h
  · next hline =>
      rw [hline] at h
      cases h
  · exact .inl rfl

def testReader : Reader (Option String × List FileSection) where
  start := (none, [])
  scan := testScan
  files s := s.2
  kind := testKind
  unexpected line := "Hunk diff line expected: " ++ line
  longer := "Hunk is longer than expected"
  shorter := "Hunk is shorter than expected"
  settled _ := True
  scan_start _ h := testScan_blank _ h
  scan_blank s _ h := .inr ⟨s, testScan_blank s h, rfl⟩
  scan_settled s _ _ h := ⟨s, testScan_blank s h, trivial⟩
  settled_of_opens _ _ _ _ _ h := ⟨trivial, files_of_testScan_opens h⟩
  kind_blank _ h := testKind_blank h

/-- The last two lines of the file are blank. -/
def testDiff : String :=
  "--- a/app.py\n+++ b/app.py\n@@ -1,3 +1,3 @@\n-limit = 0\n+limit = 512\n \n \n"

end AlphE.Nodes
