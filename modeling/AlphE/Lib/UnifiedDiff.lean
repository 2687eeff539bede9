import AlphE.Lib.PyText

/-!
Unified diffs. A hunk is a list of lines, each of which says whether it is in the old
file, in the new one, or in both.
-/

namespace UnifiedDiff

open PyText

inductive BodyLine
  | context (content : String)
  | removed (content : String)
  | added (content : String)
  deriving DecidableEq, Repr

namespace BodyLine

def content : BodyLine → String
  | context s => s
  | removed s => s
  | added s => s

/-- The line as it stands in a hunk. -/
def text : BodyLine → String
  | context s => " " ++ s
  | removed s => "-" ++ s
  | added s => "+" ++ s

/-- The line of the old file. -/
def old : BodyLine → Option String
  | context s => some s
  | removed s => some s
  | added _ => none

/-- The line of the new file. -/
def new : BodyLine → Option String
  | context s => some s
  | removed _ => none
  | added s => some s

theorem text_ne_empty (line : BodyLine) : line.text ≠ "" := by
  intro h
  have hlength := congrArg String.length h
  cases line <;> rw [text, String.length_append] at hlength <;> simp at hlength

end BodyLine

def oldLines (body : List BodyLine) : List String := body.filterMap BodyLine.old

def newLines (body : List BodyLine) : List String := body.filterMap BodyLine.new

/-- How a hunk header gives the lines of a whole file: a count of one may be left
out. -/
def rangeTexts (count : ℕ) : List String :=
  if count = 0 then ["0,0"]
  else if count = 1 then ["1", "1,1"]
  else ["1," ++ toString count]

/-- A diff of one file with one hunk, which covers the whole file. -/
structure WholeFile where
  oldFile : String
  newFile : String
  oldRange : String
  newRange : String
  heading : String
  body : List BodyLine
  finalNewline : Bool
  oldRange_mem : oldRange ∈ rangeTexts (oldLines body).length
  newRange_mem : newRange ∈ rangeTexts (newLines body).length
  noBreak : ∀ s ∈ [oldFile, newFile, heading], NoBreak s
  noBreak_body : ∀ line ∈ body, NoBreak line.content

namespace WholeFile

def header (d : WholeFile) : List String :=
  ["--- " ++ d.oldFile, "+++ " ++ d.newFile,
    "@@ -" ++ d.oldRange ++ " +" ++ d.newRange ++ " @@" ++ d.heading]

def lines (d : WholeFile) : List String := d.header ++ d.body.map BodyLine.text

def text (d : WholeFile) : String :=
  if d.finalNewline then join "\n" d.lines ++ "\n" else join "\n" d.lines

/-- The new file. -/
def newContent (d : WholeFile) : String := join "\n" (newLines d.body)

end WholeFile

/-! ### The lines of the text -/

theorem noBreak_toString (n : ℕ) : NoBreak (toString n) := by
  intro c hc
  have hdigit : c.isDigit = true :=
    Nat.isDigit_of_mem_toDigits (b := 10) (n := n) (by decide) (by decide)
      (by simpa [Nat.toString_eq_ofList_toDigits] using hc)
  obtain ⟨hzero, hnine⟩ := Char.isDigit_iff_toNat.mp hdigit
  have hlow : 48 ≤ c.toNat := hzero
  have hhigh : c.toNat ≤ 57 := hnine
  simp only [isLineBreak, Bool.or_eq_false_iff, Bool.and_eq_false_iff, decide_eq_false_iff_not,
    beq_eq_false_iff_ne]
  omega

theorem noBreak_rangeTexts {count : ℕ} {s : String} (h : s ∈ rangeTexts count) : NoBreak s := by
  rw [rangeTexts] at h
  split at h
  · rw [List.mem_singleton.mp h]
    exact noBreak_of_all (by decide)
  · split at h
    · obtain rfl | rfl : s = "1" ∨ s = "1,1" := by simpa using h
      · exact noBreak_of_all (by decide)
      · exact noBreak_of_all (by decide)
    · rw [List.mem_singleton.mp h]
      exact .append (noBreak_of_all (by decide)) (noBreak_toString count)

namespace WholeFile

variable (d : WholeFile)

theorem noBreak_lines : ∀ line ∈ d.lines, NoBreak line := by
  have hliteral : ∀ s ∈ ["--- ", "+++ ", "@@ -", " +", " @@", " ", "-", "+"], NoBreak s :=
    forall_noBreak_of_all id (by decide)
  intro line hline
  obtain hheader | hbody := List.mem_append.mp hline
  · obtain rfl | rfl | rfl : line = "--- " ++ d.oldFile ∨ line = "+++ " ++ d.newFile ∨
        line = "@@ -" ++ d.oldRange ++ " +" ++ d.newRange ++ " @@" ++ d.heading := by
      simpa [header] using hheader
    · exact .append (hliteral _ (by simp)) (d.noBreak _ (by simp))
    · exact .append (hliteral _ (by simp)) (d.noBreak _ (by simp))
    · refine .append (.append (.append (.append (.append ?_ ?_) ?_) ?_) ?_) ?_
      · exact hliteral _ (by simp)
      · exact noBreak_rangeTexts d.oldRange_mem
      · exact hliteral _ (by simp)
      · exact noBreak_rangeTexts d.newRange_mem
      · exact hliteral _ (by simp)
      · exact d.noBreak _ (by simp)
  · obtain ⟨l, hl, rfl⟩ := List.mem_map.mp hbody
    have hcontent := d.noBreak_body l hl
    cases l with
    | context s => exact .append (hliteral " " (by simp)) hcontent
    | removed s => exact .append (hliteral "-" (by simp)) hcontent
    | added s => exact .append (hliteral "+" (by simp)) hcontent

theorem ne_empty_of_mem_lines : ∀ line ∈ d.lines, line ≠ "" := by
  have happend : ∀ {s t : String}, s ≠ "" → s ++ t ≠ "" := by
    intro s t hs h
    rw [String.append_eq_empty_iff] at h
    exact hs h.1
  intro line hline
  obtain hheader | hbody := List.mem_append.mp hline
  · obtain rfl | rfl | rfl : line = "--- " ++ d.oldFile ∨ line = "+++ " ++ d.newFile ∨
        line = "@@ -" ++ d.oldRange ++ " +" ++ d.newRange ++ " @@" ++ d.heading := by
      simpa [header] using hheader
    · exact happend (by decide)
    · exact happend (by decide)
    · exact happend (happend (happend (happend (happend (by decide)))))
  · obtain ⟨l, -, rfl⟩ := List.mem_map.mp hbody
    exact l.text_ne_empty

/-- What the text is split into. -/
theorem splitlines_text : splitlines d.text = d.lines := by
  rw [text]
  split
  · exact splitlines_join_newline d.noBreak_lines (List.cons_ne_nil _ _)
  · exact splitlines_join d.noBreak_lines d.ne_empty_of_mem_lines

theorem noBreak_newLines : ∀ line ∈ newLines d.body, NoBreak line := by
  intro line hline
  obtain ⟨l, hl, hnew⟩ := List.mem_filterMap.mp hline
  have hcontent := d.noBreak_body l hl
  cases l with
  | context s =>
      cases hnew
      exact hcontent
  | removed s => cases hnew
  | added s =>
      cases hnew
      exact hcontent

/-- The text is no file with as many lines as the hunk. -/
theorem text_ne_join {xs : List String} (hbreak : ∀ x ∈ xs, NoBreak x) (hxs : xs ≠ [])
    (hlength : xs.length ≤ d.body.length) : d.text ≠ join "\n" xs := by
  have hx : ∀ x ∈ xs, '\n' ∉ x.toList := fun x hmem => (hbreak x hmem).newline_not_mem
  have hd : ∀ x ∈ d.lines, '\n' ∉ x.toList :=
    fun x hmem => (d.noBreak_lines x hmem).newline_not_mem
  have hlong : d.lines.length = d.body.length + 3 := by
    rw [lines, List.length_append, List.length_map, Nat.add_comm]
    rfl
  intro h
  rw [text] at h
  split at h
  · -- The newline at the end is an empty line more.
    have hend : join "\n" (d.lines ++ [""]) = join "\n" d.lines ++ "\n" := by
      have hlines : d.lines ≠ [] := List.cons_ne_nil _ _
      rw [join, String.intercalate_append_of_ne_nil hlines (List.cons_ne_nil _ _),
        String.intercalate_singleton, String.append_empty]
      rfl
    have hends : ∀ x ∈ d.lines ++ [""], '\n' ∉ x.toList := by
      intro x hmem
      obtain hmem | hmem := List.mem_append.mp hmem
      · exact hd x hmem
      · rw [List.mem_singleton.mp hmem]
        exact List.not_mem_nil
    rw [← hend] at h
    have heq := join_injective hends hx (by simp) hxs h
    rw [← heq, List.length_append, hlong, List.length_singleton] at hlength
    omega
  · have heq := join_injective hd hx (List.cons_ne_nil _ _) hxs h
    rw [← heq, hlong] at hlength
    omega

end WholeFile

end UnifiedDiff
