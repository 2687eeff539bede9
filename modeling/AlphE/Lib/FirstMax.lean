import Mathlib.Order.Lattice
import Mathlib.Order.Defs.LinearOrder
import Mathlib.Data.List.Perm.Basic

/-!
The first of the largest elements, as a loop finds it: a variable is overwritten by
every element that is strictly larger. The loop may be run over blocks, keeping the
winner of each. Which element wins depends on the order only among those that are
largest.
-/

namespace FirstMax

variable {α κ β : Type} [LinearOrder κ] (key : α → κ)

/-- The variable after one more element. -/
def later (a b : α) : α := if key a < key b then b else a

/-- The variable after a list of elements. -/
def latest (init : α) (l : List α) : α := l.foldl (later key) init

@[simp] theorem latest_nil (init : α) : latest key init [] = init := rfl

@[simp] theorem latest_cons (init a : α) (l : List α) :
    latest key init (a :: l) = latest key (later key init a) l := rfl

theorem latest_append (init : α) (l l' : List α) :
    latest key init (l ++ l') = latest key (latest key init l) l' :=
  List.foldl_append

section Later

variable {key} {a b c : α}

theorem later_of_lt (h : key a < key b) : later key a b = b := if_pos h

theorem later_of_le (h : key b ≤ key a) : later key a b = a := if_neg (not_lt.mpr h)

theorem key_later (key : α → κ) (a b : α) : key (later key a b) = max (key a) (key b) := by
  rcases lt_or_ge (key a) (key b) with hlt | hle
  · rw [later_of_lt hlt, max_eq_right (le_of_lt hlt)]
  · rw [later_of_le hle, max_eq_left hle]

theorem later_assoc (a b c : α) :
    later key (later key a b) c = later key a (later key b c) := by
  rcases lt_or_ge (key b) (key c) with hbc | hbc
  · rw [later_of_lt hbc]
    rcases lt_or_ge (key a) (key b) with hab | hab
    · rw [later_of_lt hab, later_of_lt hbc, later_of_lt (lt_trans hab hbc)]
    · rw [later_of_le hab]
  · rw [later_of_le hbc]
    rcases lt_or_ge (key a) (key b) with hab | hab
    · rw [later_of_lt hab, later_of_le hbc]
    · rw [later_of_le hab, later_of_le (le_trans hbc hab)]

end Later

section Latest

variable {key} {init : α} {l l' : List α}

theorem latest_mem (key : α → κ) (init : α) (l : List α) : latest key init l ∈ init :: l := by
  induction l generalizing init with
  | nil => exact List.mem_singleton_self init
  | cons a l ih =>
      have hmem := ih (later key init a)
      rw [List.mem_cons] at hmem
      rw [latest_cons, List.mem_cons, List.mem_cons]
      rcases hmem with heq | hmem
      · rw [heq, later]
        split
        · exact .inr (.inl rfl)
        · exact .inl rfl
      · exact .inr (.inr hmem)

theorem key_init_le (init : α) (l : List α) : key init ≤ key (latest key init l) := by
  induction l generalizing init with
  | nil => exact le_rfl
  | cons a l ih =>
      refine le_trans ?_ (ih (later key init a))
      rw [key_later key]
      exact le_max_left _ _

theorem key_le_of_mem {a : α} (h : a ∈ l) (init : α) : key a ≤ key (latest key init l) := by
  induction l generalizing init with
  | nil => cases h
  | cons b l ih =>
      rcases List.mem_cons.mp h with rfl | hmem
      · refine le_trans ?_ (key_init_le (later key init a) l)
        rw [key_later key]
        exact le_max_right _ _
      · exact ih hmem (later key init b)

/-- Nothing overwrites an element that is as large as any. -/
theorem latest_of_le (h : ∀ a ∈ l, key a ≤ key init) : latest key init l = init := by
  induction l with
  | nil => rfl
  | cons a l ih =>
      rw [List.forall_mem_cons] at h
      rw [latest_cons, later_of_le h.1, ih h.2]

/-- The loop over one more block overwrites the variable with the block's winner, if
with anything. -/
theorem latest_latest {a : α} (h : key init ≤ key a) (l : List α) :
    latest key a l = later key a (latest key init l) := by
  have hassoc : ∀ (l : List α) (b : α), latest key (later key a b) l =
      later key a (latest key b l) := by
    intro l
    induction l with
    | nil => exact fun _ => rfl
    | cons c l ih =>
        intro b
        rw [latest_cons, latest_cons, later_assoc, ih]
  have hkeep := hassoc l init
  rwa [later_of_le h] at hkeep

/-- The loop over blocks is the loop over their winners. -/
theorem latest_flatMap (f : β → List α) (init : α) (bs : List β) :
    latest key init (bs.flatMap f) =
      latest key init (bs.map fun b => latest key init (f b)) := by
  have hblocks : ∀ (bs : List β) (a : α), key init ≤ key a →
      latest key a (bs.flatMap f) = latest key a (bs.map fun b => latest key init (f b)) := by
    intro bs
    induction bs with
    | nil => exact fun _ _ => rfl
    | cons b bs ih =>
        intro a ha
        rw [List.flatMap_cons, latest_append, List.map_cons, latest_cons, latest_latest ha]
        apply ih
        rw [key_later key]
        exact le_trans ha (le_max_left _ _)
  exact hblocks bs init le_rfl

/-- The winner's key is the same in every order. -/
theorem key_latest_perm (key : α → κ) (h : l.Perm l') (init : α) :
    key (latest key init l) = key (latest key init l') := by
  have hle : ∀ {l l' : List α}, l.Perm l' →
      key (latest key init l) ≤ key (latest key init l') := by
    intro l l' h
    have hmem := latest_mem key init l
    rcases List.mem_cons.mp hmem with heq | hmem
    · rw [heq]
      exact key_init_le init l'
    · exact key_le_of_mem (h.mem_iff.mp hmem) init
  exact le_antisymm (hle h) (hle h.symm)

/-- A winner that is no larger than what the loop began with is that. -/
theorem latest_eq_init (h : key (latest key init l) ≤ key init) : latest key init l = init :=
  latest_of_le fun _ ha => le_trans (key_le_of_mem ha init) h

/-- What is seen of the winner of winners is the same in every order of the blocks
exactly when the largest winners look alike. -/
theorem latest_perm_iff {γ : Type} (g : α → γ) (w : β → α) {bs : List β}
    (hinit : ∀ b ∈ bs, key (w b) ≤ key init → w b = init) :
    (∀ bs', bs.Perm bs' →
        g (latest key init (bs.map w)) = g (latest key init (bs'.map w))) ↔
      ∀ a ∈ bs, ∀ b ∈ bs, (∀ c ∈ bs, key (w c) ≤ key (w a)) → key (w a) = key (w b) →
        g (w a) = g (w b) := by
  constructor
  · intro h
    have hwins : ∀ a ∈ bs, (∀ c ∈ bs, key (w c) ≤ key (w a)) →
        g (latest key init (bs.map w)) = g (w a) := by
      intro a ha hmax
      obtain ⟨front, back, rfl⟩ := List.append_of_mem ha
      rw [h (a :: (front ++ back)) List.perm_middle, List.map_cons, latest_cons]
      have hrest : ∀ x ∈ (front ++ back).map w, key x ≤ key (w a) := by
        intro x hx
        obtain ⟨c, hc, rfl⟩ := List.mem_map.mp hx
        apply hmax
        rw [List.mem_append] at hc ⊢
        exact hc.imp_right (List.mem_cons_of_mem _)
      rcases lt_or_ge (key init) (key (w a)) with hlt | hle
      · rw [later_of_lt hlt, latest_of_le hrest]
      · rw [later_of_le hle, ← hinit a ha hle, latest_of_le hrest]
    intro a ha b hb hmax hkey
    rw [← hwins a ha hmax, ← hwins b hb fun c hc => hkey ▸ hmax c hc]
  · intro h bs' hperm
    have hkey := key_latest_perm key (hperm.map w) init
    rcases le_or_gt (key (latest key init (bs.map w))) (key init) with hle | hlt
    · rw [latest_eq_init hle, latest_eq_init (hkey ▸ hle)]
    · -- Above the start, both winners are among the blocks'.
      have hwinner : ∀ {cs : List β}, key init < key (latest key init (cs.map w)) →
          ∃ c ∈ cs, w c = latest key init (cs.map w) := by
        intro cs hlt
        rcases List.mem_cons.mp (latest_mem key init (cs.map w)) with heq | hmem
        · rw [heq] at hlt
          exact absurd hlt (lt_irrefl _)
        · exact List.mem_map.mp hmem
      obtain ⟨a, ha, hwa⟩ := hwinner hlt
      obtain ⟨b, hb, hwb⟩ := hwinner (hkey ▸ hlt)
      rw [← hwa, ← hwb]
      apply h a ha b (hperm.mem_iff.mpr hb)
      · intro c hc
        rw [hwa]
        exact key_le_of_mem (List.mem_map_of_mem hc) init
      · rw [hwa, hwb, hkey]

end Latest

end FirstMax
