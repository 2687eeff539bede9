import AlphE.Lib.Separators
import Mathlib.Data.List.Infix

/-!
`str.lower`. ASCII is lowered character by character. What becomes of another character is
a table of the interpreter, which may look at what stands around it (a final sigma): it
never leaves nothing, and the only ASCII characters in it are the `i` and the `k` of U+0130
and of U+212A. For words without these two the table does not matter.
-/

namespace PyLower

def IsAscii (c : Char) : Prop := c.toNat < 0x80

instance (c : Char) : Decidable (IsAscii c) := inferInstanceAs (Decidable (c.toNat < 0x80))

/-- The lower case of a character outside ASCII, from what stands before it, nearest first,
and what follows. -/
structure LowerTable where
  image : List Char → Char → List Char → List Char
  image_ne_nil : ∀ front c rest, image front c rest ≠ []
  ascii_image : ∀ front c rest, ¬ IsAscii c → ∀ d ∈ image front c rest, IsAscii d →
    d = 'i' ∨ d = 'k'

namespace LowerTable

variable (T : LowerTable)

def lowerFrom : List Char → List Char → List Char
  | _, [] => []
  | front, c :: rest =>
      (if IsAscii c then [c.toLower] else T.image front c rest) ++ lowerFrom (c :: front) rest

/-- `s.lower()`. -/
def lower (s : String) : String := String.ofList (T.lowerFrom [] s.toList)

/-- The table of an interpreter that leaves everything outside ASCII as it is. -/
def keeping : LowerTable where
  image _ c _ := [c]
  image_ne_nil := by simp
  ascii_image := by
    intro front c rest hc d hd hascii
    rw [List.mem_singleton] at hd
    exact absurd (hd ▸ hascii) hc

/-! ### Looking for a word -/

/-- A word that no character outside ASCII lowers into. -/
def Plain (w : List Char) : Prop := ∀ c ∈ w, IsAscii c ∧ c ≠ 'i' ∧ c ≠ 'k'

instance (w : List Char) : Decidable (Plain w) :=
  List.decidableBAll (fun c => IsAscii c ∧ c ≠ 'i' ∧ c ≠ 'k') w

variable {T} {w : List Char}

theorem toLower_of_not_isAscii {c : Char} (h : ¬ IsAscii c) : c.toLower = c := by
  have hcapital : ¬ (c.val ≥ 'A'.val ∧ c.val ≤ 'Z'.val) := by
    rintro ⟨-, hhigh⟩
    have hhigh : c.toNat ≤ 90 := hhigh
    have h : ¬ c.toNat < 0x80 := h
    omega
  exact dif_neg hcapital

theorem notMem_of_not_isAscii (hw : Plain w) {c : Char} (h : ¬ IsAscii c) : c ∉ w :=
  fun hmem => h (hw c hmem).1

theorem notMem_of_mem_image (hw : Plain w) {front rest : List Char} {c d : Char}
    (hc : ¬ IsAscii c) (hd : d ∈ T.image front c rest) : d ∉ w := by
  intro hmem
  obtain ⟨hascii, hi, hk⟩ := hw d hmem
  rcases T.ascii_image front c rest hc d hd hascii with rfl | rfl
  · exact hi rfl
  · exact hk rfl

theorem prefix_lowerFrom_iff (hw : Plain w) (front text : List Char) :
    w <+: T.lowerFrom front text ↔ w <+: text.map Char.toLower := by
  induction text generalizing front w with
  | nil => rfl
  | cons c rest ih =>
      cases w with
      | nil => simp
      | cons a w =>
          have hrest : Plain w := fun b hb => hw b (List.mem_cons_of_mem a hb)
          rw [lowerFrom, List.map_cons, List.cons_prefix_cons]
          by_cases hc : IsAscii c
          · rw [if_pos hc, List.singleton_append, List.cons_prefix_cons, ih hrest]
          · -- The image begins with a character that the word does not have.
            rw [if_neg hc, toLower_of_not_isAscii hc]
            obtain ⟨d, ds, himage⟩ := List.exists_cons_of_ne_nil (T.image_ne_nil front c rest)
            have hd : d ∈ T.image front c rest := himage ▸ List.mem_cons_self
            rw [himage, List.cons_append, List.cons_prefix_cons]
            refine iff_of_false ?_ ?_
            · rintro ⟨rfl, -⟩
              exact notMem_of_mem_image hw hc hd List.mem_cons_self
            · rintro ⟨rfl, -⟩
              exact notMem_of_not_isAscii hw hc List.mem_cons_self

theorem infix_lowerFrom_iff (hw : Plain w) (front text : List Char) :
    w <:+: T.lowerFrom front text ↔ w <:+: text.map Char.toLower := by
  induction text generalizing front with
  | nil => rfl
  | cons c rest ih =>
      by_cases hc : IsAscii c
      · have hprefix := prefix_lowerFrom_iff (T := T) hw front (c :: rest)
        rw [List.map_cons] at hprefix ⊢
        rw [lowerFrom, if_pos hc, List.singleton_append] at hprefix ⊢
        rw [List.infix_cons_iff, hprefix, ih, List.infix_cons_iff]
      · have himage := Separators.infix_append_of_notMem
          (fun d hd => notMem_of_mem_image (T := T) hw hc hd) (T.lowerFrom (c :: front) rest)
          (u := T.image front c rest)
        have hc' := Separators.infix_append_of_notMem (w := w) (u := [c])
          (by simpa using notMem_of_not_isAscii hw hc) (rest.map Char.toLower)
        rw [lowerFrom, if_neg hc, himage, ih, List.map_cons, toLower_of_not_isAscii hc]
        exact hc'.symm

/-- A plain word is in the lowered text when it is there after ASCII is lowered. -/
theorem infix_lower_iff (hw : Plain w) (s : String) :
    w <:+: (T.lower s).toList ↔ w <:+: s.toList.map Char.toLower := by
  rw [lower, String.toList_ofList, infix_lowerFrom_iff hw]

end LowerTable

end PyLower
