import Mathlib.Data.List.Basic

/-!
Lists with a separator in them. A part that does not hold the separator ends where the
first one stands, or begins where the last one does. A separator may be one element or a
word; what stands before the first occurrence of a word is read off from the front.
-/

namespace Separators

variable {α : Type*} {a b : α}

/-- What stands before the first separator is told from what follows. -/
theorem append_cons_inj_left {u v x y : List α} (hu : a ∉ u) (hv : a ∉ v) :
    u ++ a :: x = v ++ a :: y ↔ u = v ∧ x = y := by
  constructor
  · intro h
    induction u generalizing v with
    | nil =>
        cases v with
        | nil => exact ⟨rfl, (List.cons.inj h).2⟩
        | cons c v =>
            obtain ⟨rfl, -⟩ := List.cons.inj h
            exact absurd List.mem_cons_self hv
    | cons c u ih =>
        cases v with
        | nil =>
            obtain ⟨rfl, -⟩ := List.cons.inj h
            exact absurd List.mem_cons_self hu
        | cons d v =>
            obtain ⟨rfl, htail⟩ := List.cons.inj h
            obtain ⟨rfl, hrest⟩ := ih (List.not_mem_of_not_mem_cons hu)
              (List.not_mem_of_not_mem_cons hv) htail
            exact ⟨rfl, hrest⟩
  · rintro ⟨rfl, rfl⟩
    rfl

/-- What follows the last separator is read off from behind. -/
theorem append_cons_inj_right {u v x y : List α} (hx : a ∉ x) (hy : a ∉ y) :
    u ++ a :: x = v ++ a :: y ↔ u = v ∧ x = y := by
  rw [← List.reverse_inj, List.reverse_append, List.reverse_append, List.reverse_cons,
    List.reverse_cons, List.append_assoc, List.append_assoc, List.singleton_append,
    List.singleton_append, append_cons_inj_left (by simpa) (by simpa), List.reverse_inj,
    List.reverse_inj, and_comm]

/-- Two separators do not both come first. -/
theorem append_cons_ne {u v x y : List α} (hne : a ≠ b) (hu : b ∉ u) (hv : a ∉ v) :
    u ++ a :: x ≠ v ++ b :: y := by
  intro h
  rcases List.append_eq_append_iff.mp h with ⟨t, rfl, ht⟩ | ⟨t, rfl, ht⟩
  · cases t with
    | nil => exact hne (List.cons.inj ht).1
    | cons c t =>
        obtain ⟨rfl, -⟩ := List.cons.inj ht
        exact hv (by simp)
  · cases t with
    | nil => exact hne (List.cons.inj ht).1.symm
    | cons c t =>
        obtain ⟨rfl, -⟩ := List.cons.inj ht
        exact hu (by simp)

/-! ### Words on one side of a separator -/

theorem prefix_append_cons_iff {w : List α} (h : a ∉ w) (u v : List α) :
    w <+: u ++ a :: v ↔ w <+: u := by
  constructor
  · intro hprefix
    rcases List.prefix_or_prefix_of_prefix hprefix (List.prefix_append u _) with hu | ⟨t, rfl⟩
    · exact hu
    · cases t with
      | nil => simp
      | cons c t =>
          obtain ⟨rfl, -⟩ := List.cons_prefix_cons.mp
            ((List.prefix_append_right_inj u).mp hprefix)
          exact absurd (List.mem_append_right u List.mem_cons_self) h
  · intro hprefix
    exact hprefix.trans (List.prefix_append u _)

/-- A word without the separator stands on one side of it. -/
theorem infix_append_cons_iff {w : List α} (h : a ∉ w) (u v : List α) :
    w <:+: u ++ a :: v ↔ w <:+: u ∨ w <:+: v := by
  induction u with
  | nil =>
      rw [List.nil_append, List.infix_cons_iff, List.infix_nil]
      have hnil := prefix_append_cons_iff h [] v
      rw [List.nil_append, List.prefix_nil] at hnil
      rw [hnil]
  | cons b u ih =>
      have hprefix := prefix_append_cons_iff h (b :: u) v
      rw [List.cons_append] at hprefix ⊢
      rw [List.infix_cons_iff, hprefix, ih, List.infix_cons_iff, or_assoc]

/-- Elements that a word does not have, in front of the text, are no part of it. -/
theorem infix_append_of_notMem {w u : List α} (hu : ∀ c ∈ u, c ∉ w) (v : List α) :
    w <:+: u ++ v ↔ w <:+: v := by
  induction u with
  | nil => rfl
  | cons c u ih =>
      rw [List.forall_mem_cons] at hu
      have hcons := infix_append_cons_iff hu.1 [] (u ++ v)
      rw [List.nil_append] at hcons
      rw [List.cons_append, hcons, ih hu.2, or_iff_right_iff_imp]
      intro hnil
      exact hnil.trans List.nil_infix

/-- A word at the end stands where its first element may. -/
theorem suffix_of_suffix_append {w u v : List α} (h : a :: w <:+ u ++ v) (hu : a ∉ u) :
    a :: w <:+ v := by
  rcases List.suffix_or_suffix_of_suffix h (List.suffix_append u v) with hv | ⟨t, ht⟩
  · exact hv
  · cases t with
    | nil => exact ht ▸ List.suffix_rfl
    | cons c t =>
        obtain ⟨s, hs⟩ := h
        have hwhole : (s ++ c :: t) ++ v = u ++ v := by rw [List.append_assoc, ht, hs]
        have hu' : s ++ c :: t = u := List.append_cancel_right hwhole
        obtain ⟨rfl, -⟩ := List.cons.inj ht
        exact absurd (hu' ▸ List.mem_append_right s List.mem_cons_self) hu

/-! ### What stands before a word -/

section Before

variable [DecidableEq α]

/-- What stands before the first occurrence of `sep`. -/
def before (sep : List α) : List α → List α
  | [] => []
  | x :: xs => if sep.isPrefixOf (x :: xs) then [] else x :: before sep xs

theorem before_isPrefix (sep xs : List α) : before sep xs <+: xs := by
  induction xs with
  | nil => exact List.prefix_rfl
  | cons x xs ih =>
      rw [before]
      split
      · exact List.nil_prefix
      · exact List.cons_prefix_cons.mpr ⟨rfl, ih⟩

theorem before_of_isPrefix {sep xs : List α} (h : sep <+: xs) : before sep xs = [] := by
  cases xs with
  | nil => rfl
  | cons x xs => rw [before, if_pos (List.isPrefixOf_iff_prefix.mpr h)]

/-- The first occurrence decides; what follows it does not matter. -/
theorem before_append_of_isInfix {sep u : List α} (h : sep <:+: u) (v : List α) :
    before sep (u ++ v) = before sep u := by
  induction u with
  | nil =>
      rw [List.infix_nil] at h
      rw [h, before_of_isPrefix List.nil_prefix, before]
  | cons x u ih =>
      by_cases hshort : sep <+: x :: u
      · rw [before_of_isPrefix hshort, before_of_isPrefix (hshort.trans (List.prefix_append _ v))]
      · have hu : sep <:+: u := (List.infix_cons_iff.mp h).resolve_left hshort
        have hlong : ¬ sep <+: x :: (u ++ v) := by
          intro hlong
          have hlength : sep.length ≤ (x :: u).length := Nat.le_succ_of_le hu.length_le
          exact hshort (List.prefix_of_prefix_length_le hlong
            (List.prefix_append (x :: u) v) hlength)
        rw [List.cons_append, before, before, if_neg (mt List.isPrefixOf_iff_prefix.mp hlong),
          if_neg (mt List.isPrefixOf_iff_prefix.mp hshort), ih hu]

/-- Up to an element that the word does not have there is nothing to find. -/
theorem before_append_cons {sep u : List α} (ha : a ∉ sep) (hu : ¬ sep <:+: u) (v : List α) :
    before sep (u ++ a :: v) = u ++ a :: before sep v := by
  induction u with
  | nil =>
      have hne : ¬ sep <+: a :: v := by
        intro h
        have hnil := (prefix_append_cons_iff ha [] v).mp h
        exact hu hnil.isInfix
      rw [List.nil_append, before, if_neg (mt List.isPrefixOf_iff_prefix.mp hne), List.nil_append]
  | cons x u ih =>
      have hne : ¬ sep <+: (x :: u) ++ a :: v := by
        intro h
        exact hu ((prefix_append_cons_iff ha _ v).mp h).isInfix
      rw [List.cons_append] at hne ⊢
      rw [before, if_neg (mt List.isPrefixOf_iff_prefix.mp hne),
        ih fun h => hu (List.infix_cons h), List.cons_append]

/-- Where a word cannot begin there is nothing to find. -/
theorem before_append_of_notMem {sep u : List α} (ha : a ∉ u) (v : List α) :
    before (a :: sep) (u ++ v) = u ++ before (a :: sep) v := by
  induction u with
  | nil => rfl
  | cons x u ih =>
      rw [List.mem_cons, not_or] at ha
      have hne : ¬ a :: sep <+: x :: (u ++ v) := by
        intro h
        exact ha.1 (List.cons_prefix_cons.mp h).1
      rw [List.cons_append, before, if_neg (mt List.isPrefixOf_iff_prefix.mp hne), ih ha.2,
        List.cons_append]

end Before

end Separators
