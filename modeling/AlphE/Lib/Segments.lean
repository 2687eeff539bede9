import Mathlib.Data.List.Infix
import Mathlib.Data.List.Basic

/-!
Occurrences between marks. A list is cut into segments by the occurrences of a
mark `sep`; `Within` bounds how often an element `x` occurs in each segment, by
walking along the list with a budget that every `x` draws on and every mark
restores.
-/

namespace Segments

variable {α : Type*} [DecidableEq α] (sep x : α) (n : ℕ)

/-- With `budget` left in the first segment, no segment exceeds `n`. -/
def Within : ℕ → List α → Prop
  | _, [] => True
  | budget, a :: as =>
      if a = sep then Within n as
      else if a = x then 0 < budget ∧ Within (budget - 1) as
      else Within budget as

@[simp] theorem within_nil (budget : ℕ) : Within sep x n budget [] := trivial

@[simp] theorem within_sep_cons (budget : ℕ) (as : List α) :
    Within sep x n budget (sep :: as) ↔ Within sep x n n as := by
  rw [Within, if_pos rfl]

variable {sep x n}

theorem within_cons_self (hx : x ≠ sep) (budget : ℕ) (as : List α) :
    Within sep x n budget (x :: as) ↔ 0 < budget ∧ Within sep x n (budget - 1) as := by
  rw [Within, if_neg hx, if_pos rfl]

theorem within_cons_of_ne {a : α} (hsep : a ≠ sep) (hx : a ≠ x) (budget : ℕ)
    (as : List α) :
    Within sep x n budget (a :: as) ↔ Within sep x n budget as := by
  rw [Within, if_neg hsep, if_neg hx]

/-- The part of a list before its first mark draws on the budget. -/
theorem within_append (hx : x ≠ sep) {as bs : List α} (hsep : sep ∉ as) (budget : ℕ) :
    Within sep x n budget (as ++ bs) ↔
      as.count x ≤ budget ∧ Within sep x n (budget - as.count x) bs := by
  induction as generalizing budget with
  | nil => simp
  | cons a as ih =>
      rw [List.mem_cons, not_or] at hsep
      obtain ⟨ha, hsep⟩ := hsep
      by_cases hax : a = x
      · subst hax
        rw [List.cons_append, within_cons_self hx, ih hsep, List.count_cons_self,
          Nat.sub_sub, Nat.add_comm 1]
        constructor
        · rintro ⟨hpos, hle, hrest⟩
          exact ⟨by omega, hrest⟩
        · rintro ⟨hle, hrest⟩
          exact ⟨by omega, by omega, hrest⟩
      · rw [List.cons_append, within_cons_of_ne (Ne.symm ha) hax, ih hsep,
          List.count_cons_of_ne hax]

/-- The budget bounds the first segment, and `n` every segment. -/
theorem within_bounds (hx : x ≠ sep) {budget : ℕ} (hbudget : budget ≤ n) {as : List α}
    (h : Within sep x n budget as) :
    ∀ seg, seg <:+: as → sep ∉ seg → seg.count x ≤ n ∧ (seg <+: as → seg.count x ≤ budget) := by
  induction as generalizing budget with
  | nil =>
      intro seg hseg _
      rw [List.infix_nil] at hseg
      subst hseg
      simp
  | cons a as ih =>
      -- What is left of the budget after `a` bounds the rest of the segment.
      have hfirst : ∀ seg, seg <+: a :: as → sep ∉ seg → seg.count x ≤ budget := by
        intro seg hseg hsep
        rcases List.prefix_cons_iff.mp hseg with rfl | ⟨t, rfl, ht⟩
        · simp
        · rw [List.mem_cons, not_or] at hsep
          obtain ⟨ha, hsep⟩ := hsep
          by_cases hax : a = x
          · subst hax
            rw [within_cons_self hx] at h
            have hle := (ih (by omega) h.2 t ht.isInfix hsep).2 ht
            rw [List.count_cons_self]
            omega
          · rw [within_cons_of_ne (Ne.symm ha) hax] at h
            rw [List.count_cons_of_ne hax]
            exact (ih hbudget h t ht.isInfix hsep).2 ht
      intro seg hseg hsep
      refine ⟨?_, fun hpre => hfirst seg hpre hsep⟩
      rcases List.infix_cons_iff.mp hseg with hpre | hinf
      · exact (hfirst seg hpre hsep).trans hbudget
      · by_cases ha : a = sep
        · subst ha
          rw [within_sep_cons] at h
          exact (ih le_rfl h seg hinf hsep).1
        · by_cases hax : a = x
          · subst hax
            rw [within_cons_self hx] at h
            exact (ih (by omega) h.2 seg hinf hsep).1
          · rw [within_cons_of_ne ha hax] at h
            exact (ih hbudget h seg hinf hsep).1

end Segments
