import AlphE.Lib.PyText

/-!
The lines of a text stream, which end at newlines only, and what trimming the text does
to them: where the white space around a text begins and ends with a newline, the blank
lines at both ends go, and nothing else changes.
-/

namespace PyText

/-- The lines of a text stream from here on, with what the current one holds so far. A
newline at the end makes no further line. -/
def streamFrom : List Char → List Char → List String
  | line, [] => if line.isEmpty then [] else [String.ofList line]
  | line, c :: cs =>
      if c = '\n' then String.ofList line :: streamFrom [] cs
      else streamFrom (line ++ [c]) cs

def streamLines (text : String) : List String := streamFrom [] text.toList

/-- A line of white space. -/
def blank (line : String) : Bool := line.toList.all isSpace

/-- The lines from the first to the last that is not blank. -/
def innerLines (lines : List String) : List String :=
  (lines.dropWhile blank).rdropWhile blank

/-- The blank lines after them. -/
def trailingLines (lines : List String) : List String :=
  (lines.dropWhile blank).rtakeWhile blank

theorem takeWhile_append_inner_append_trailing (lines : List String) :
    lines.takeWhile blank ++ (innerLines lines ++ trailingLines lines) = lines := by
  rw [innerLines, trailingLines, List.rdropWhile_append_rtakeWhile,
    List.takeWhile_append_dropWhile]

theorem blank_of_mem_takeWhile {lines : List String} {line : String}
    (h : line ∈ lines.takeWhile blank) : blank line = true :=
  List.mem_takeWhile_imp h

theorem blank_of_mem_trailingLines {lines : List String} {line : String}
    (h : line ∈ trailingLines lines) : blank line = true :=
  List.mem_rtakeWhile_imp h

/-! ### A text and its trimmed form -/

theorem streamFrom_append_newline (line xs ys : List Char) :
    streamFrom line (xs ++ '\n' :: ys) =
      streamFrom line (xs ++ ['\n']) ++ streamFrom [] ys := by
  induction xs generalizing line with
  | nil => rfl
  | cons c xs ih =>
      rw [List.cons_append, List.cons_append, streamFrom, streamFrom]
      split
      · rw [ih, List.cons_append]
      · exact ih _

/-- A newline at the end makes no further line. -/
theorem streamFrom_concat_newline {c : Char} (hc : c ≠ '\n') (line xs : List Char) :
    streamFrom line (xs ++ [c] ++ ['\n']) = streamFrom line (xs ++ [c]) := by
  induction xs generalizing line with
  | nil =>
      have hne : (line ++ [c]).isEmpty = false := by simp
      simp [streamFrom, hc]
  | cons d xs ih =>
      rw [List.cons_append, List.cons_append, streamFrom, streamFrom]
      split
      · rw [ih]
      · exact ih _

theorem blank_ofList (cs : List Char) : blank (String.ofList cs) = cs.all isSpace := by
  rw [blank, String.toList_ofList]

theorem blank_of_mem_streamFrom {line cs : List Char} (hline : line.all isSpace = true)
    (hcs : cs.all isSpace = true) : ∀ l ∈ streamFrom line cs, blank l = true := by
  induction cs generalizing line with
  | nil =>
      intro l hl
      rw [streamFrom] at hl
      split at hl
      · cases hl
      · rw [List.mem_singleton.mp hl, blank_ofList]
        exact hline
  | cons c cs ih =>
      rw [List.all_cons, Bool.and_eq_true] at hcs
      intro l hl
      rw [streamFrom] at hl
      split at hl
      · obtain rfl | hl := List.mem_cons.mp hl
        · rw [blank_ofList]
          exact hline
        · exact ih List.all_nil hcs.2 l hl
      · refine ih ?_ hcs.2 l hl
        simp [hline, hcs.1]

/-- The first line has the first character. -/
theorem head_streamFrom {c : Char} {line cs : List Char} (hmem : c ∈ line) :
    ∃ l ls, streamFrom line cs = l :: ls ∧ c ∈ l.toList := by
  induction cs generalizing line with
  | nil =>
      have hne : line.isEmpty = false := by
        rw [List.isEmpty_eq_false_iff]
        exact List.ne_nil_of_mem hmem
      refine ⟨String.ofList line, [], ?_, ?_⟩
      · rw [streamFrom, hne]
        rfl
      · rw [String.toList_ofList]
        exact hmem
  | cons d cs ih =>
      rw [streamFrom]
      split
      · refine ⟨String.ofList line, streamFrom [] cs, rfl, ?_⟩
        rw [String.toList_ofList]
        exact hmem
      · exact ih (List.mem_append_left _ hmem)

/-- The last line has the last character. -/
theorem last_streamFrom {c : Char} (hc : c ≠ '\n') (line cs : List Char) :
    ∃ ls l, streamFrom line (cs ++ [c]) = ls ++ [l] ∧ c ∈ l.toList := by
  induction cs generalizing line with
  | nil =>
      refine ⟨[], String.ofList (line ++ [c]), ?_, ?_⟩
      · simp [streamFrom, hc]
      · simp
  | cons d cs ih =>
      rw [List.cons_append, streamFrom]
      split
      · obtain ⟨ls, l, heq, hmem⟩ := ih []
        exact ⟨String.ofList line :: ls, l, by rw [heq]; rfl, hmem⟩
      · exact ih _

theorem innerLines_append {as xs bs : List String} (ha : ∀ line ∈ as, blank line = true)
    (hb : ∀ line ∈ bs, blank line = true) (hfirst : ∃ x xs', xs = x :: xs' ∧ blank x = false)
    (hlast : ∃ xs' x, xs = xs' ++ [x] ∧ blank x = false) : innerLines (as ++ xs ++ bs) = xs := by
  have hdrop : (as ++ xs ++ bs).dropWhile blank = xs ++ bs := by
    obtain ⟨x, xs', rfl, hx⟩ := hfirst
    rw [List.append_assoc, List.dropWhile_append_of_pos ha, List.cons_append,
      List.dropWhile_cons_of_neg (by simp [hx])]
  obtain ⟨xs', x, rfl, hx⟩ := hlast
  rw [innerLines, hdrop, List.rdropWhile, List.reverse_append,
    List.dropWhile_append_of_pos (by simpa using hb), List.reverse_append, List.reverse_singleton,
    List.singleton_append, List.dropWhile_cons_of_neg (by simp [hx]), List.reverse_cons,
    List.reverse_reverse]

/-- A text with a character at both ends, and white space around it that begins and ends
with a newline. -/
structure Framed (lead core trail : List Char) : Prop where
  lead_space : lead.all isSpace = true
  trail_space : trail.all isSpace = true
  lead_newline : lead = [] ∨ ∃ l, lead = l ++ ['\n']
  trail_newline : trail = [] ∨ ∃ t, trail = '\n' :: t
  first : ∃ c cs, core = c :: cs ∧ isSpace c = false
  last : ∃ cs c, core = cs ++ [c] ∧ isSpace c = false

theorem strip_of_framed {lead core trail : List Char} (h : Framed lead core trail) :
    strip (String.ofList (lead ++ core ++ trail)) = String.ofList core := by
  obtain ⟨c, cs, hcore, hc⟩ := h.first
  obtain ⟨cs', c', hcore', hc'⟩ := h.last
  have hdrop : (lead ++ core ++ trail).dropWhile isSpace = core ++ trail := by
    rw [List.append_assoc, List.dropWhile_append_of_pos (by simpa using h.lead_space), hcore,
      List.cons_append, List.dropWhile_cons_of_neg (by simp [hc])]
  rw [strip, String.toList_ofList, hdrop, List.rdropWhile, List.reverse_append,
    List.dropWhile_append_of_pos (by simpa using h.trail_space), hcore', List.reverse_append,
    List.reverse_singleton, List.singleton_append, List.dropWhile_cons_of_neg (by simp [hc']),
    List.reverse_cons, List.reverse_reverse]

/-- The trimmed text has the lines of the text, without the blank ones at either end. -/
theorem innerLines_of_framed {lead core trail : List Char} (h : Framed lead core trail) :
    innerLines (streamLines (String.ofList (lead ++ core ++ trail))) =
      streamLines (String.ofList core) := by
  have hnewline : ∀ {c : Char}, isSpace c = false → c ≠ '\n' := by
    rintro c hc rfl
    cases hc
  have hblank : ∀ {l : String} {c : Char}, c ∈ l.toList → isSpace c = false →
      blank l = false := by
    intro l c hmem hc
    rw [blank, List.all_eq_false]
    exact ⟨c, hmem, by rw [hc]; exact Bool.false_ne_true⟩
  obtain ⟨c, cs, hcore, hc⟩ := h.first
  obtain ⟨cs', c', hcore', hc'⟩ := h.last
  have hfirst : ∃ x xs, streamFrom [] core = x :: xs ∧ blank x = false := by
    obtain ⟨l, ls, heq, hmem⟩ : ∃ l ls, streamFrom [c] cs = l :: ls ∧ c ∈ l.toList :=
      head_streamFrom List.mem_cons_self
    refine ⟨l, ls, ?_, hblank hmem hc⟩
    rw [hcore, streamFrom, if_neg (hnewline hc)]
    exact heq
  have hlast : ∃ xs x, streamFrom [] core = xs ++ [x] ∧ blank x = false := by
    obtain ⟨ls, l, heq, hmem⟩ := last_streamFrom (hnewline hc') [] cs'
    exact ⟨ls, l, hcore' ▸ heq, hblank hmem hc'⟩
  -- The white space after the text is in lines of its own.
  have htrail : ∃ bs, streamFrom [] (core ++ trail) = streamFrom [] core ++ bs ∧
      ∀ line ∈ bs, blank line = true := by
    obtain hnil | ⟨t, ht⟩ := h.trail_newline
    · refine ⟨[], ?_, nofun⟩
      rw [hnil, List.append_nil, List.append_nil]
    · have hspace := h.trail_space
      rw [ht, List.all_cons, Bool.and_eq_true] at hspace
      refine ⟨streamFrom [] t, ?_, blank_of_mem_streamFrom List.all_nil hspace.2⟩
      rw [ht, streamFrom_append_newline, hcore', streamFrom_concat_newline (hnewline hc')]
  have hlead : ∃ as, streamFrom [] (lead ++ (core ++ trail)) =
      as ++ streamFrom [] (core ++ trail) ∧ ∀ line ∈ as, blank line = true := by
    obtain hnil | ⟨l, hl⟩ := h.lead_newline
    · refine ⟨[], ?_, nofun⟩
      rw [hnil, List.nil_append, List.nil_append]
    · refine ⟨streamFrom [] lead, ?_, blank_of_mem_streamFrom List.all_nil h.lead_space⟩
      rw [hl, List.append_assoc, List.singleton_append, streamFrom_append_newline]
  obtain ⟨bs, hbs, hb⟩ := htrail
  obtain ⟨as, has, ha⟩ := hlead
  rw [streamLines, streamLines, String.toList_ofList, String.toList_ofList, List.append_assoc,
    has, hbs, ← List.append_assoc]
  exact innerLines_append ha hb hfirst hlast

end PyText
