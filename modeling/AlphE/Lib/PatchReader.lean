import AlphE.Lib.StreamLines

/-!
Readers of unified diffs. A text is read line by line. What a line outside a hunk
means is up to the reader; the lines of a hunk are counted against its header until both
counts are met, and a text that ends before that is refused. Blank lines at the start
are skipped; blank lines at the end may be the rest of a hunk.
-/

namespace UnifiedDiff

open PyText

/-! ### Readers -/

/-- A file section, by the names in its two headers. -/
structure FileSection where
  source : String
  target : String
  deriving DecidableEq, Repr

/-- What a line is in a hunk. -/
inductive LineKind
  | context
  | removed
  | added
  | marker
  deriving DecidableEq, Repr

/-- What becomes of a line outside a hunk: the header of a hunk gives the number of
lines of the old file and of the new one. -/
inductive Scan (σ : Type)
  | fails (exc : String)
  | goesOn (s : σ)
  | opens (source target : ℕ) (s : σ)

/-- A reader. Blank lines before the first header are skipped, and so are those after a
hunk; nowhere do they open a hunk or a file. A hunk needs a file. -/
structure Reader (σ : Type) where
  start : σ
  scan : σ → String → Scan σ
  files : σ → List FileSection
  kind : String → Option LineKind
  unexpected : String → String
  longer : String
  shorter : String
  settled : σ → Prop
  scan_start : ∀ line, blank line = true → scan start line = .goesOn start
  scan_blank : ∀ s line, blank line = true → (∃ exc, scan s line = .fails exc) ∨
    ∃ s', scan s line = .goesOn s' ∧ files s' = files s
  scan_settled : ∀ s line, settled s → blank line = true →
    ∃ s', scan s line = .goesOn s' ∧ settled s'
  settled_of_opens : ∀ s line m n s', scan s line = .opens m n s' →
    settled s' ∧ files s' ≠ []
  kind_blank : ∀ line, blank line = true → kind line = none ∨ kind line = some .context

/-- Where a reader is: outside hunks, or in one that lacks so many lines of the old file
and of the new one. -/
inductive Pos (σ : Type)
  | outside (s : σ)
  | hunk (source target : ℕ) (s : σ)

/-- In a hunk, unless nothing is lacking. -/
def within {σ : Type} (m n : ℕ) (s : σ) : Pos σ :=
  if m = 0 ∧ n = 0 then .outside s else .hunk m n s

namespace Reader

variable {σ : Type} (R : Reader σ)

/-- A line of a hunk is counted. -/
def count (m n : ℕ) (s : σ) (line : String) : Except String (Pos σ) :=
  match R.kind line, m, n with
  | none, _, _ => .error (R.unexpected line)
  | some .marker, m, n => .ok (.hunk m n s)
  | some .context, m + 1, n + 1 => .ok (within m n s)
  | some .removed, m + 1, n => .ok (within m n s)
  | some .added, m, n + 1 => .ok (within m n s)
  | some _, _, _ => .error R.longer

def step : Pos σ → String → Except String (Pos σ)
  | .outside s, line =>
      match R.scan s line with
      | .fails exc => .error exc
      | .goesOn s' => .ok (.outside s')
      | .opens m n s' => .ok (within m n s')
  | .hunk m n s, line => R.count m n s line

def run (p : Pos σ) (lines : List String) : Except String (Pos σ) := lines.foldlM R.step p

/-- Where the reader is after these lines. -/
def after (lines : List String) : Except String (Pos σ) := R.run (.outside R.start) lines

/-- The sections of a text that ends here. -/
def finish : Pos σ → Except String (List FileSection)
  | .outside s => .ok (R.files s)
  | .hunk _ _ _ => .error R.shorter

/-- The sections of a text. -/
def read (text : String) : Except String (List FileSection) :=
  R.after (streamLines text) >>= R.finish

/-- The text is read, and there is a file in it. -/
def Takes (lines : List String) : Prop :=
  ∃ s, R.after lines = .ok (.outside s) ∧ R.files s ≠ []

theorem run_append (p : Pos σ) (xs ys : List String) :
    R.run p (xs ++ ys) = R.run p xs >>= fun q => R.run q ys :=
  List.foldlM_append

theorem run_cons (p : Pos σ) (line : String) (lines : List String) :
    R.run p (line :: lines) = R.step p line >>= fun q => R.run q lines :=
  List.foldlM_cons

theorem after_append (xs ys : List String) :
    R.after (xs ++ ys) = R.after xs >>= fun q => R.run q ys :=
  R.run_append _ xs ys

/-! ### What a run keeps -/

/-- A hunk that is open lacks something, and there is a file it is of. -/
def Sound : Pos σ → Prop
  | .outside _ => True
  | .hunk m n s => (m ≠ 0 ∨ n ≠ 0) ∧ R.settled s ∧ R.files s ≠ []

variable {R}

theorem sound_within {m n : ℕ} {s : σ} (h : R.settled s ∧ R.files s ≠ []) :
    R.Sound (within m n s) := by
  rw [within]
  split
  · trivial
  · next hlack =>
      rw [not_and_or] at hlack
      exact ⟨hlack, h⟩

theorem Sound.step {p q : Pos σ} (h : R.Sound p) {line : String}
    (hstep : R.step p line = .ok q) : R.Sound q := by
  cases p with
  | outside s =>
      rw [Reader.step] at hstep
      cases hscan : R.scan s line with
      | fails exc =>
          rw [hscan] at hstep
          cases hstep
      | goesOn s' =>
          rw [hscan] at hstep
          cases hstep
          trivial
      | opens m n s' =>
          rw [hscan] at hstep
          cases hstep
          exact sound_within (R.settled_of_opens s line m n s' hscan)
  | hunk m n s =>
      have hwithin : ∀ m n : ℕ, R.Sound (within m n s) := fun m n => sound_within h.2
      rw [Reader.step] at hstep
      unfold count at hstep
      split at hstep
      · cases hstep
      · cases hstep
        exact h
      · cases hstep
        exact hwithin _ _
      · cases hstep
        exact hwithin _ _
      · cases hstep
        exact hwithin _ _
      · cases hstep

theorem Sound.run {p q : Pos σ} (h : R.Sound p) {lines : List String}
    (hrun : R.run p lines = .ok q) : R.Sound q := by
  induction lines generalizing p with
  | nil =>
      cases hrun
      exact h
  | cons line lines ih =>
      rw [run_cons] at hrun
      cases hstep : R.step p line with
      | error exc =>
          rw [hstep] at hrun
          cases hrun
      | ok p' =>
          rw [hstep] at hrun
          exact ih (h.step hstep) hrun

theorem sound_after {q : Pos σ} {lines : List String} (h : R.after lines = .ok q) :
    R.Sound q :=
  Sound.run (p := .outside R.start) trivial h

/-! ### Blank lines -/

theorem run_start_blank {lines : List String} (h : ∀ line ∈ lines, blank line = true) :
    R.run (.outside R.start) lines = .ok (.outside R.start) := by
  induction lines with
  | nil => rfl
  | cons line lines ih =>
      rw [List.forall_mem_cons] at h
      rw [run_cons, step, R.scan_start line h.1]
      exact ih h.2

/-- Blank lines before the text. -/
theorem after_blank_append {lines : List String} (h : ∀ line ∈ lines, blank line = true)
    (rest : List String) : R.after (lines ++ rest) = R.after rest := by
  rw [after_append, after, run_start_blank h]
  rfl

/-- Blank lines outside hunks leave the files as they are. -/
theorem files_run_blank {lines : List String} (h : ∀ line ∈ lines, blank line = true) {s : σ}
    {q : Pos σ} (hrun : R.run (.outside s) lines = .ok q) :
    ∃ s', q = .outside s' ∧ R.files s' = R.files s := by
  induction lines generalizing s with
  | nil =>
      cases hrun
      exact ⟨s, rfl, rfl⟩
  | cons line lines ih =>
      rw [List.forall_mem_cons] at h
      rw [run_cons, step] at hrun
      obtain ⟨exc, hscan⟩ | ⟨s', hscan, hfiles⟩ := R.scan_blank s line h.1
      · rw [hscan] at hrun
        cases hrun
      · rw [hscan] at hrun
        obtain ⟨s'', rfl, hsame⟩ := ih h.2 hrun
        exact ⟨s'', rfl, hsame.trans hfiles⟩

/-- After a hunk, blank lines are skipped. -/
theorem run_settled_blank {lines : List String} (h : ∀ line ∈ lines, blank line = true) {s : σ}
    (hs : R.settled s) : ∃ s', R.run (.outside s) lines = .ok (.outside s') := by
  induction lines generalizing s with
  | nil => exact ⟨s, rfl⟩
  | cons line lines ih =>
      rw [List.forall_mem_cons] at h
      obtain ⟨s', hscan, hs'⟩ := R.scan_settled s line hs h.1
      rw [run_cons, step, hscan]
      exact ih h.2 hs'

/-- A blank line in a hunk that lacks something is a line of the context that it lacks in
both files, or it is refused. -/
theorem step_hunk_blank {line : String} (h : blank line = true) (m n : ℕ) (s : σ) :
    (∃ m' n', m = m' + 1 ∧ n = n' + 1 ∧ R.kind line = some .context ∧
      R.step (.hunk m n s) line = .ok (within m' n' s)) ∨
    ((∃ exc, R.step (.hunk m n s) line = .error exc) ∧
      (R.kind line = some .context → m = 0 ∨ n = 0)) := by
  obtain hkind | hkind := R.kind_blank line h
  · right
    rw [hkind]
    refine ⟨⟨R.unexpected line, ?_⟩, nofun⟩
    simp only [step, count, hkind]
  · cases m with
    | zero =>
        right
        refine ⟨⟨R.longer, ?_⟩, fun _ => .inl rfl⟩
        simp only [step, count, hkind]
    | succ m =>
        cases n with
        | zero =>
            right
            refine ⟨⟨R.longer, ?_⟩, fun _ => .inr rfl⟩
            simp only [step, count, hkind]
        | succ n =>
            left
            refine ⟨m, n, rfl, rfl, hkind, ?_⟩
            simp only [step, count, hkind]

/-- Blank lines complete a hunk when it lacks as many lines of either file, and as many
of them, the first ones, are lines of the context. -/
theorem run_hunk_blank_iff {lines : List String} (h : ∀ line ∈ lines, blank line = true)
    {m n : ℕ} {s : σ} (hsound : R.Sound (.hunk m n s)) :
    (∃ s', R.run (.hunk m n s) lines = .ok (.outside s')) ↔
      m = n ∧ m ≤ lines.length ∧ ∀ line ∈ lines.take m, R.kind line = some .context := by
  induction lines generalizing m n with
  | nil =>
      constructor
      · rintro ⟨s', hrun⟩
        cases hrun
      · rintro ⟨rfl, hle, -⟩
        have hzero : m = 0 := Nat.le_zero.mp hle
        exact absurd hzero (or_self_iff.mp hsound.1)
  | cons line lines ih =>
      rw [List.forall_mem_cons] at h
      rw [run_cons]
      obtain ⟨m, n, rfl, rfl, hkind, hstep⟩ | ⟨⟨exc, hstep⟩, hlack⟩ :=
        R.step_hunk_blank h.1 m n s
      · have hrest : (m + 1 = n + 1 ∧ m + 1 ≤ (line :: lines).length ∧
            ∀ l ∈ (line :: lines).take (m + 1), R.kind l = some .context) ↔
            m = n ∧ m ≤ lines.length ∧ ∀ l ∈ lines.take m, R.kind l = some .context := by
          rw [List.take_succ_cons, List.forall_mem_cons, List.length_cons,
            Nat.add_le_add_iff_right, Nat.add_right_cancel_iff]
          simp only [hkind, true_and]
        rw [hstep, hrest]
        by_cases hzero : m = 0 ∧ n = 0
        · obtain ⟨rfl, rfl⟩ := hzero
          refine iff_of_true (run_settled_blank h.2 hsound.2.1) ⟨rfl, Nat.zero_le _, ?_⟩
          intro l hl
          cases hl
        · have hwithin : within m n s = .hunk m n s := if_neg hzero
          rw [hwithin]
          rw [not_and_or] at hzero
          exact ih h.2 ⟨hzero, hsound.2⟩
      · -- The line is refused.
        rw [hstep]
        constructor
        · rintro ⟨s', hrun⟩
          cases hrun
        · rintro ⟨rfl, -, hcontext⟩
          cases m with
          | zero => exact absurd rfl (or_self_iff.mp hsound.1)
          | succ m =>
              have hzero := hlack (hcontext line List.mem_cons_self)
              exact absurd (or_self_iff.mp hzero) (Nat.succ_ne_zero m)

/-- Where a completed hunk leaves the reader, there is a file. -/
theorem files_run_hunk_blank {lines : List String} (h : ∀ line ∈ lines, blank line = true)
    {m n : ℕ} {s s' : σ} (hrun : R.run (.hunk m n s) lines = .ok (.outside s')) :
    R.files s' = R.files s := by
  induction lines generalizing m n with
  | nil => cases hrun
  | cons line lines ih =>
      rw [List.forall_mem_cons] at h
      rw [run_cons] at hrun
      obtain ⟨m, n, rfl, rfl, -, hstep⟩ | ⟨⟨exc, hstep⟩, -⟩ := R.step_hunk_blank h.1 m n s
      · rw [hstep] at hrun
        by_cases hzero : m = 0 ∧ n = 0
        · have hwithin : within m n s = .outside s := if_pos hzero
          rw [hwithin] at hrun
          obtain ⟨s'', heq, hsame⟩ := files_run_blank h.2 hrun
          cases heq
          exact hsame
        · have hwithin : within m n s = .hunk m n s := if_neg hzero
          rw [hwithin] at hrun
          exact ih h.2 hrun
      · rw [hstep] at hrun
        cases hrun

/-! ### What a text is taken for -/

section Takes

variable {xs : List String}

theorem not_takes_of_error {exc : String} (h : R.after xs = .error exc) : ¬ R.Takes xs := by
  rintro ⟨s, hs, -⟩
  rw [h] at hs
  cases hs

theorem not_takes_of_hunk {m n : ℕ} {s : σ} (h : R.after xs = .ok (.hunk m n s)) :
    ¬ R.Takes xs := by
  rintro ⟨s', hs', -⟩
  rw [h] at hs'
  cases hs'

theorem takes_iff_of_outside {s : σ} (h : R.after xs = .ok (.outside s)) :
    R.Takes xs ↔ R.files s ≠ [] := by
  constructor
  · rintro ⟨s', hs', hfiles⟩
    rw [h] at hs'
    cases hs'
    exact hfiles
  · intro hfiles
    exact ⟨s, h, hfiles⟩

/-- A text is taken when it is read and has a section. -/
theorem exists_read_iff {text : String} :
    (∃ sections, R.read text = .ok sections ∧ sections ≠ []) ↔
      R.Takes (streamLines text) := by
  rw [read]
  cases hafter : R.after (streamLines text) with
  | error exc =>
      refine iff_of_false ?_ (not_takes_of_error hafter)
      rintro ⟨sections, hread, -⟩
      cases hread
  | ok q =>
      cases q with
      | outside s =>
          rw [takes_iff_of_outside hafter]
          constructor
          · rintro ⟨sections, hread, hne⟩
            cases hread
            exact hne
          · intro hne
            exact ⟨R.files s, rfl, hne⟩
      | hunk m n s =>
          refine iff_of_false ?_ (not_takes_of_hunk hafter)
          rintro ⟨sections, hread, -⟩
          cases hread

end Takes

/-! ### Blank lines after a text -/

/-- The blank lines complete a hunk that the text leaves open. -/
def Completes (R : Reader σ) (xs lines : List String) : Prop :=
  ∃ n s, R.after xs = .ok (.hunk n n s) ∧ n ≤ lines.length ∧
    ∀ line ∈ lines.take n, R.kind line = some .context

/-- Where the text ends with a file, the lines may follow. -/
def Admits (R : Reader σ) (xs lines : List String) : Prop :=
  ∀ s, R.after xs = .ok (.outside s) → R.files s ≠ [] →
    ∃ s', R.run (.outside s) lines = .ok (.outside s')

section Trailing

variable {xs lines : List String} (h : ∀ line ∈ lines, blank line = true)

include h

/-- After a hunk, they may. -/
theorem admits_of_settled (hsettled : ∀ s, R.after xs = .ok (.outside s) → R.settled s) :
    R.Admits xs lines := by
  intro s hs _
  exact run_settled_blank h (hsettled s hs)

/-- Lines after a text that ends outside a hunk. -/
theorem takes_append_iff_of_outside {s : σ} (hafter : R.after xs = .ok (.outside s)) :
    R.Takes (xs ++ lines) ↔
      R.files s ≠ [] ∧ ∃ s', R.run (.outside s) lines = .ok (.outside s') := by
  have hrest : R.after (xs ++ lines) = R.run (.outside s) lines := by
    rw [after_append, hafter]
    rfl
  constructor
  · rintro ⟨s', hs', hfiles⟩
    rw [hrest] at hs'
    obtain ⟨s'', heq, hsame⟩ := files_run_blank h hs'
    cases heq
    exact ⟨hsame ▸ hfiles, s', hs'⟩
  · rintro ⟨hfiles, s', hs'⟩
    obtain ⟨s'', heq, hsame⟩ := files_run_blank h hs'
    cases heq
    exact ⟨s', hrest.trans hs', hsame ▸ hfiles⟩

/-- Lines after a text that ends in a hunk. -/
theorem takes_append_iff_of_hunk {m n : ℕ} {s : σ} (hafter : R.after xs = .ok (.hunk m n s)) :
    R.Takes (xs ++ lines) ↔ R.Completes xs lines := by
  have hsound := sound_after hafter
  have hrest : R.after (xs ++ lines) = R.run (.hunk m n s) lines := by
    rw [after_append, hafter]
    rfl
  constructor
  · rintro ⟨s', hs', -⟩
    rw [hrest] at hs'
    obtain ⟨rfl, hle, hcontext⟩ := (run_hunk_blank_iff h hsound).mp ⟨s', hs'⟩
    exact ⟨m, s, hafter, hle, hcontext⟩
  · rintro ⟨n', s', hs', hle, hcontext⟩
    rw [hafter] at hs'
    cases hs'
    obtain ⟨s', hs'⟩ := (run_hunk_blank_iff h hsound).mpr ⟨rfl, hle, hcontext⟩
    refine ⟨s', hrest.trans hs', ?_⟩
    rw [files_run_hunk_blank h hs']
    exact hsound.2.2

/-- A text is read with blank lines after it as it is without them, exactly when they
complete no hunk and are not refused. -/
theorem takes_append_iff :
    (R.Takes (xs ++ lines) ↔ R.Takes xs) ↔ ¬ R.Completes xs lines ∧ R.Admits xs lines := by
  cases hafter : R.after xs with
  | error exc =>
      have hboth : R.after (xs ++ lines) = .error exc := by
        rw [after_append, hafter]
        rfl
      refine iff_of_true
        (iff_of_false (not_takes_of_error hboth) (not_takes_of_error hafter)) ⟨?_, ?_⟩
      · rintro ⟨n, s, hs, -⟩
        rw [hafter] at hs
        cases hs
      · intro s hs
        rw [hafter] at hs
        cases hs
  | ok q =>
      cases q with
      | outside s =>
          have hcompletes : ¬ R.Completes xs lines := by
            rintro ⟨n, s', hs', -⟩
            rw [hafter] at hs'
            cases hs'
          have hadmits : R.Admits xs lines ↔
              (R.files s ≠ [] → ∃ s', R.run (.outside s) lines = .ok (.outside s')) := by
            constructor
            · intro ha
              exact ha s hafter
            · intro ha s' hs'
              rw [hafter] at hs'
              cases hs'
              exact ha
          rw [takes_iff_of_outside hafter, takes_append_iff_of_outside h hafter, hadmits]
          tauto
      | hunk m n s =>
          have hadmits : R.Admits xs lines := by
            intro s' hs'
            rw [hafter] at hs'
            cases hs'
          have hnot := not_takes_of_hunk hafter
          rw [takes_append_iff_of_hunk h hafter]
          tauto

end Trailing

end Reader

end UnifiedDiff
