import AlphE.Lib.GoText
import Mathlib.Data.List.DropRight

/-!
Trimmed text, of which an argument is read. A form ends with a space, so where a trimmed
text begins with a form something is left behind it.
-/

namespace Go

/-- The text does not end with a space. -/
def EndsPlain (cs : List Char) : Prop := ∀ c ∈ cs.getLast?, isSpace c = false

instance (cs : List Char) : Decidable (EndsPlain cs) :=
  Option.decidableForallMem (p := fun c => isSpace c = false) cs.getLast?

/-- `strings.TrimLeft`, of spaces. -/
def trimLeft (s : String) : String := String.ofList (s.toList.dropWhile isSpace)

theorem toList_trimLeft (s : String) : (trimLeft s).toList = s.toList.dropWhile isSpace := by
  rw [trimLeft, String.toList_ofList]

theorem toList_trimSpace (s : String) :
    (trimSpace s).toList = (trimLeft s).toList.rdropWhile isSpace := by
  rw [trimSpace, toList_trimLeft, String.toList_ofList, List.rdropWhile]

theorem endsPlain_trimSpace (s : String) : EndsPlain (trimSpace s).toList := by
  intro c hc
  obtain ⟨hne, rfl⟩ := List.mem_getLast?_eq_getLast hc
  simp only [toList_trimSpace] at hne ⊢
  exact Bool.eq_false_iff.mpr (List.rdropWhile_last_not isSpace _ hne)

theorem EndsPlain.of_suffix {cs ds : List Char} (h : EndsPlain ds) (hsuffix : cs <:+ ds) :
    EndsPlain cs := by
  intro c hc
  obtain ⟨front, rfl⟩ := hsuffix
  apply h c
  rw [List.getLast?_append, hc]
  rfl

theorem EndsPlain.append {ds : List Char} (h : EndsPlain ds) (hne : ds ≠ []) (cs : List Char) :
    EndsPlain (cs ++ ds) := by
  intro c hc
  rw [List.getLast?_append_of_ne_nil cs hne] at hc
  exact h c hc

/-- At the end there is nothing to trim. -/
theorem trimSpace_of_endsPlain {s : String} (h : EndsPlain s.toList) :
    trimSpace s = trimLeft s := by
  have hplain : EndsPlain (trimLeft s).toList := by
    rw [toList_trimLeft]
    exact h.of_suffix (List.dropWhile_suffix isSpace)
  rw [← String.toList_inj, toList_trimSpace, List.rdropWhile_eq_self_iff]
  intro hne hspace
  have hlast := hplain _ (List.getLast?_eq_getLast_of_ne_nil hne)
  rw [hspace] at hlast
  cases hlast

theorem trimLeft_of_head {s : String} (h : ∀ c ∈ s.toList.head?, isSpace c = false) :
    trimLeft s = s := by
  rw [← String.toList_inj, toList_trimLeft]
  cases hs : s.toList with
  | nil => rfl
  | cons c cs =>
      rw [hs] at h
      exact List.dropWhile_cons_of_neg (Bool.not_eq_true _ ▸ h c rfl)

/-- Trimming goes no further than a character that is no space. -/
theorem dropWhile_append_cons {c : Char} (hc : isSpace c = false) (cs ds : List Char) :
    (cs ++ c :: ds).dropWhile isSpace = cs.dropWhile isSpace ++ c :: ds := by
  induction cs with
  | nil => exact List.dropWhile_cons_of_neg (Bool.not_eq_true _ ▸ hc)
  | cons d cs ih =>
      rw [List.cons_append, List.dropWhile_cons, List.dropWhile_cons, ih]
      split <;> rfl

theorem mem_dropWhile_iff {c : Char} (hc : isSpace c = false) (cs : List Char) :
    c ∈ cs.dropWhile isSpace ↔ c ∈ cs := by
  constructor
  · exact fun h => (List.dropWhile_sublist isSpace).subset h
  · intro h
    obtain ⟨front, back, rfl⟩ := List.append_of_mem h
    rw [dropWhile_append_cons hc]
    exact List.mem_append_right _ List.mem_cons_self

/-- A space at the end is trimmed. -/
theorem trimSpace_append_space (s : String) : trimSpace (s ++ " ") = trimSpace s := by
  have hchars : (s ++ " ").toList = s.toList ++ [' '] := by simp
  rw [trimSpace, trimSpace, hchars, List.dropWhile_append]
  split
  next hempty =>
      rw [List.isEmpty_iff.mp hempty]
      rfl
  next =>
      rw [List.reverse_append, List.reverse_singleton, List.singleton_append,
        List.dropWhile_cons_of_pos (by decide)]

theorem trimSpace_ne_empty {s : String} (h : EndsPlain s.toList) (hne : s ≠ "") :
    trimSpace s ≠ "" := by
  have hchars : s.toList ≠ [] := fun hnil => hne (String.toList_eq_nil_iff.mp hnil)
  obtain ⟨cs, c, hcs⟩ := List.eq_nil_or_concat s.toList |>.resolve_left hchars
  have hlast : c ∈ s.toList.getLast? := by
    rw [hcs, List.concat_eq_append, List.getLast?_concat]
    rfl
  have hc : isSpace c = false := h c hlast
  have hmem : c ∈ (trimLeft s).toList := by
    rw [toList_trimLeft, mem_dropWhile_iff hc, hcs, List.concat_eq_append]
    exact List.mem_append_right _ List.mem_cons_self
  rw [trimSpace_of_endsPlain h]
  intro hempty
  rw [hempty] at hmem
  cases hmem

/-- A character in front that is no space stays in front. -/
theorem head?_trimSpace {s : String} {c : Char} (hs : s.toList.head? = some c)
    (hc : isSpace c = false) : (trimSpace s).toList.head? = some c := by
  obtain ⟨cs, hcs⟩ := List.head?_eq_some_iff.mp hs
  have hfront : (c :: cs).dropWhile isSpace = c :: cs := by
    rw [List.dropWhile_cons_of_neg]
    simp [hc]
  rw [toList_trimSpace, toList_trimLeft, hcs, hfront, List.rdropWhile, List.reverse_cons,
    dropWhile_append_cons hc, List.reverse_append, List.reverse_singleton,
    List.singleton_append, List.head?_cons]

/-! ### What stands behind a form -/

/-- A text with a form begins with its first character. -/
theorem hasPrefix_eq_false_of_head? {s form : String} {c : Char}
    (hs : s.toList.head? = some c) (hform : form.toList.head?.isSome)
    (hne : form.toList.head? ≠ some c) : hasPrefix s form = false := by
  obtain ⟨d, hd⟩ := Option.isSome_iff_exists.mp hform
  obtain ⟨ds, hds⟩ := List.head?_eq_some_iff.mp hd
  rw [Bool.eq_false_iff]
  intro hprefix
  obtain ⟨rest, hrest⟩ := hasPrefix_iff.mp hprefix
  rw [← hrest, hds, List.cons_append, List.head?_cons] at hs
  exact hne (hd.trans hs)

theorem hasPrefix_append (form arg : String) : hasPrefix (form ++ arg) form = true := by
  rw [hasPrefix_iff, String.toList_append]
  exact List.prefix_append _ _

theorem trimPrefix_append (form arg : String) : trimPrefix (form ++ arg) form = arg := by
  rw [trimPrefix, if_pos (hasPrefix_append form arg), String.toList_append,
    ← String.length_toList, List.drop_left, String.ofList_toList]

/-- Of two forms of one text, one begins with the other. -/
theorem forms_nested {s form form' : String} (h : hasPrefix s form = true)
    (h' : hasPrefix s form' = true) :
    form.toList <+: form'.toList ∨ form'.toList <+: form.toList :=
  List.prefix_or_prefix_of_prefix (hasPrefix_iff.mp h) (hasPrefix_iff.mp h')

/-- A text with a form is the form and what stands behind it. -/
theorem append_trimPrefix {s form : String} (h : hasPrefix s form = true) :
    form ++ trimPrefix s form = s := by
  obtain ⟨rest, hrest⟩ := hasPrefix_iff.mp h
  have hs : s = form ++ String.ofList rest := by
    rw [← String.toList_inj, String.toList_append, String.toList_ofList, hrest]
  rw [hs, trimPrefix_append]

/-- Behind a form that ends with a space there is an argument. -/
theorem argument_of_form {question form : String} (hform : ¬ EndsPlain form.toList)
    (h : hasPrefix (trimSpace question) form = true) :
    trimSpace (trimPrefix (trimSpace question) form) ≠ "" := by
  have hwhole := append_trimPrefix h
  have hplain := endsPlain_trimSpace question
  rw [← hwhole, String.toList_append] at hplain
  apply trimSpace_ne_empty (hplain.of_suffix (List.suffix_append _ _))
  intro hempty
  rw [hempty, String.toList_empty, List.append_nil] at hplain
  exact hform hplain

end Go
