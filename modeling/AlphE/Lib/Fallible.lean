import Mathlib.Data.List.Forall2
import Mathlib.Data.List.Perm.Basic

/-!
A function that may fail, called for the elements of a list one after the other. The
list succeeds where each of them does, whatever their order; the error it fails with is the one
of the first that fails.
-/

namespace Fallible

variable {α β ε : Type} {f : α → Except ε β} {l : List α}

theorem mapM_cons_of_error {a : α} {err : ε} (h : f a = .error err) (l : List α) :
    (a :: l).mapM f = .error err := by
  rw [List.mapM_cons, h]
  rfl

theorem mapM_cons_of_ok {a : α} {b : β} (h : f a = .ok b) (l : List α) :
    (a :: l).mapM f = (l.mapM f).map (b :: ·) := by
  rw [List.mapM_cons, h]
  cases l.mapM f <;> rfl

/-- The results are those of the elements. -/
theorem mapM_eq_ok_iff {bs : List β} :
    l.mapM f = .ok bs ↔ List.Forall₂ (fun a b => f a = .ok b) l bs := by
  induction l generalizing bs with
  | nil =>
      rw [List.forall₂_nil_left_iff]
      constructor
      · rintro ⟨⟩
        rfl
      · rintro rfl
        rfl
  | cons a l ih =>
      rw [List.forall₂_cons_left_iff]
      constructor
      · intro h
        cases ha : f a with
        | error err =>
            rw [mapM_cons_of_error ha] at h
            cases h
        | ok b =>
            rw [mapM_cons_of_ok ha] at h
            cases hl : l.mapM f with
            | error err =>
                rw [hl] at h
                cases h
            | ok cs =>
                rw [hl] at h
                cases h
                exact ⟨b, cs, rfl, ih.mp hl, rfl⟩
      · rintro ⟨b, cs, ha, hl, rfl⟩
        rw [mapM_cons_of_ok ha, ih.mpr hl]
        rfl

theorem ok_of_mem_mapM {bs : List β} (h : l.mapM f = .ok bs) {b : β} (hb : b ∈ bs) :
    ∃ a ∈ l, f a = .ok b := by
  rw [mapM_eq_ok_iff] at h
  induction h with
  | nil => cases hb
  | cons hab _ ih =>
      rcases List.mem_cons.mp hb with rfl | hb
      · exact ⟨_, List.mem_cons_self, hab⟩
      · obtain ⟨a, ha, hfa⟩ := ih hb
        exact ⟨a, List.mem_cons_of_mem _ ha, hfa⟩

/-- In another order a list fails again, or it has the same results in that order. -/
theorem mapM_perm {l' : List α} (h : l.Perm l') :
    (∃ err err', l.mapM f = .error err ∧ l'.mapM f = .error err') ∨
      ∃ bs bs', l.mapM f = .ok bs ∧ l'.mapM f = .ok bs' ∧ bs.Perm bs' := by
  have hok : ∀ {l l' : List α} {bs : List β}, l.Perm l' → l.mapM f = .ok bs →
      ∃ bs', l'.mapM f = .ok bs' ∧ bs.Perm bs' := by
    intro l l' bs h hbs
    obtain ⟨bs', hbs', hperm⟩ := List.perm_comp_forall₂ h.symm (mapM_eq_ok_iff.mp hbs)
    exact ⟨bs', mapM_eq_ok_iff.mpr hbs', hperm.symm⟩
  cases hl : l.mapM f with
  | ok bs =>
      obtain ⟨bs', hl', hperm⟩ := hok h hl
      exact .inr ⟨bs, bs', rfl, hl', hperm⟩
  | error err =>
      cases hl' : l'.mapM f with
      | ok bs' =>
          obtain ⟨bs, hbs, -⟩ := hok h.symm hl'
          rw [hl] at hbs
          cases hbs
      | error err' => exact .inl ⟨err, err', rfl, rfl⟩

/-- Two outcomes are the same error, or results that are related. -/
def Alike (R : β → β → Prop) : Except ε β → Except ε β → Prop
  | .error err, .error err' => err = err'
  | .ok b, .ok b' => R b b'
  | _, _ => False

end Fallible
