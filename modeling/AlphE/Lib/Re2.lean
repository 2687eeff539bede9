import Mathlib.Data.List.Forall2

/-!
Regular expressions that are alternations of plain sequences: characters and dots
between bars. Whether a dot stands for a newline, too, is a flag of the engine. A
text matches as a whole or not at all.
-/

namespace Re2

inductive Atom
  | char (c : Char)
  | any
  deriving DecidableEq, Repr

/-- The characters that have a meaning of their own besides the dot and the bar. -/
def metaChars : List Char := ['\\', '^', '$', '*', '+', '?', '(', ')', '[', ']', '{', '}']

/-- One character of a pattern; the others make up expressions of more kinds. -/
def atom (c : Char) : Option Atom :=
  if c = '.' then some .any else if c ∈ metaChars then none else some (.char c)

/-- The alternatives of a pattern. -/
def parse (pattern : List Char) : Option (List (List Atom)) :=
  (pattern.splitOn '|').mapM fun alternative => alternative.mapM atom

def Atom.Matches (dotAll : Bool) : Atom → Char → Prop
  | .char c, d => c = d
  | .any, d => dotAll = true ∨ d ≠ '\n'

/-- The whole text is one of an alternative. -/
def Matches (dotAll : Bool) (pattern text : List Char) : Prop :=
  ∃ alternatives, parse pattern = some alternatives ∧
    ∃ atoms ∈ alternatives, List.Forall₂ (Atom.Matches dotAll) atoms text

/-! ### Patterns made of names -/

/-- A text that is a sequence of plain characters and dots. -/
def Simple (text : List Char) : Prop := ∀ c ∈ text, c ≠ '|' ∧ c ∉ metaChars

def plainAtom (c : Char) : Atom := if c = '.' then .any else .char c

theorem Simple.mapM_atom {text : List Char} (h : Simple text) :
    text.mapM atom = some (text.map plainAtom) := by
  induction text with
  | nil => rfl
  | cons c text ih =>
      obtain ⟨hc, htext⟩ := List.forall_mem_cons.mp h
      have hatom : atom c = some (plainAtom c) := by
        rw [atom, plainAtom]
        split
        · rfl
        · rw [if_neg hc.2]
      rw [List.mapM_cons, hatom, ih htext]
      rfl

/-- A text matches names joined by bars where it matches one of them. -/
theorem matches_intercalate_iff {dotAll : Bool} {names : List (List Char)} (hne : names ≠ [])
    (hsimple : ∀ name ∈ names, Simple name) (text : List Char) :
    Matches dotAll (['|'].intercalate names) text ↔
      ∃ name ∈ names, List.Forall₂ (Atom.Matches dotAll) (name.map plainAtom) text := by
  have hbars : ∀ name ∈ names, '|' ∉ name := fun name hname hbar =>
    (hsimple name hname '|' hbar).1 rfl
  have hparse : parse (['|'].intercalate names) =
      some (names.map fun name => name.map plainAtom) := by
    rw [parse, List.splitOn_intercalate '|' hbars hne]
    clear hne hbars
    induction names with
    | nil => rfl
    | cons name names ih =>
        rw [List.forall_mem_cons] at hsimple
        rw [List.mapM_cons, hsimple.1.mapM_atom, ih hsimple.2]
        rfl
  simp only [Matches, hparse, Option.some.injEq, exists_eq_left', List.mem_map,
    exists_exists_and_eq_and]

/-- Without a dot a name matches itself only. -/
theorem forall₂_plainAtom_iff {dotAll : Bool} {name text : List Char} (h : '.' ∉ name) :
    List.Forall₂ (Atom.Matches dotAll) (name.map plainAtom) text ↔ text = name := by
  induction name generalizing text with
  | nil => simp
  | cons c name ih =>
      rw [List.mem_cons, not_or] at h
      rw [List.map_cons, List.forall₂_cons_left_iff, plainAtom, if_neg (Ne.symm h.1)]
      constructor
      · rintro ⟨d, rest, rfl, hrest, rfl⟩
        rw [(ih h.2).mp hrest]
      · rintro rfl
        exact ⟨c, name, rfl, (ih h.2).mpr rfl, rfl⟩

/-- Every name matches itself, and itself with another character for its dots. -/
theorem forall₂_plainAtom_map (dotAll : Bool) {d : Char} (hd : d ≠ '\n') (name : List Char) :
    List.Forall₂ (Atom.Matches dotAll) (name.map plainAtom)
      (name.map fun c => if c = '.' then d else c) := by
  rw [List.forall₂_map_left_iff, List.forall₂_map_right_iff, List.forall₂_same]
  intro c _
  rw [plainAtom]
  split
  · exact .inr hd
  · rfl

end Re2
