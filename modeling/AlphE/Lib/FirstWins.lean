import Mathlib.Data.List.Basic

/-!
Entries that come one after the other, each under a key. A collection that keeps
the first entry of a key and one that keeps the last show the same view of every
key, all along, exactly when the entries of a key all look the same.
-/

universe u v w

namespace FirstWins

variable {α : Type u} {κ : Type v} {β : Type w} [DecidableEq κ] (key : α → κ)

/-- The first entry under a key. -/
def first (k : κ) (xs : List α) : Option α := xs.find? fun x => key x = k

/-- The last entry under a key. -/
def last (k : κ) (xs : List α) : Option α := first key k xs.reverse

/-- An entry is added, unless its key is taken. -/
def add (xs : List α) (x : α) : List α :=
  if key x ∈ xs.map key then xs else xs ++ [x]

section Lookup

variable {key} {k : κ} {x y : α} {xs ys : List α}

@[simp] theorem first_nil : first key k ([] : List α) = none := rfl

theorem mem_of_first (h : first key k xs = some x) : x ∈ xs :=
  List.mem_of_find?_eq_some h

theorem key_of_first (h : first key k xs = some x) : key x = k := by
  simpa using List.find?_some h

theorem first_append :
    first key k (xs ++ ys) = (first key k xs).or (first key k ys) :=
  List.find?_append

theorem first_append_of_some (h : first key k xs = some x) :
    first key k (xs ++ ys) = some x := by
  rw [first_append, h, Option.some_or]

theorem first_singleton : first key k [x] = if key x = k then some x else none := by
  by_cases h : key x = k
  · simp [first, h]
  · simp [first, h]

theorem first_eq_none_iff : first key k xs = none ↔ k ∉ xs.map key := by
  simp [first, List.find?_eq_none]

theorem exists_first (h : x ∈ xs) : ∃ y, first key (key x) xs = some y := by
  cases hfirst : first key (key x) xs with
  | some y => exact ⟨y, rfl⟩
  | none => exact absurd (List.mem_map_of_mem h) (first_eq_none_iff.mp hfirst)

/-- The last entry under a key, one entry later. -/
theorem last_concat : last key k (xs ++ [x]) = if key x = k then some x else last key k xs := by
  rw [last, List.reverse_append, List.reverse_singleton, List.singleton_append, first, last,
    first]
  by_cases h : key x = k
  · simp [h]
  · simp [h]

theorem mem_of_last (h : last key k xs = some x) : x ∈ xs :=
  List.mem_reverse.mp (mem_of_first h)

theorem key_of_last (h : last key k xs = some x) : key x = k := key_of_first h

/-- What is found in a collection after an entry was added is what is found among
the entries. -/
theorem first_add : first key k (add key xs x) = first key k (xs ++ [x]) := by
  rw [add]
  split
  · next htaken =>
      rw [first_append, first_singleton]
      by_cases hkey : key x = k
      · -- The key has its entry already.
        have hsome : first key k xs ≠ none := by
          rw [Ne, first_eq_none_iff, not_not, ← hkey]
          exact htaken
        cases hfirst : first key k xs with
        | none => exact absurd hfirst hsome
        | some y => rfl
      · rw [if_neg hkey, Option.or_none]
  · rfl

theorem first_foldl_add (ys : List α) :
    first key k (ys.foldl (add key) xs) = first key k (xs ++ ys) := by
  induction ys generalizing xs with
  | nil => rw [List.foldl_nil, List.append_nil]
  | cons y ys ih =>
      rw [List.foldl_cons, ih, first_append, first_add, ← first_append, List.append_assoc,
        List.singleton_append]

/-- Nothing is found in a collection but what was there or came. -/
theorem mem_of_mem_foldl_add (ys : List α) (h : x ∈ ys.foldl (add key) xs) : x ∈ xs ++ ys := by
  induction ys generalizing xs with
  | nil => rwa [List.append_nil]
  | cons y ys ih =>
      obtain hadd | hys := List.mem_append.mp (ih h)
      · rw [add] at hadd
        split at hadd
        · exact List.mem_append_left _ hadd
        · obtain hxs | hy := List.mem_append.mp hadd
          · exact List.mem_append_left _ hxs
          · rw [List.mem_singleton.mp hy]
            exact List.mem_append_right _ List.mem_cons_self
      · exact List.mem_append_right _ (List.mem_cons_of_mem _ hys)

end Lookup

/-! ### When the two agree -/

section Agree

variable {key} (view : α → β) {xs : List α}

/-- The entries of one key all look the same. -/
def Uniform (key : α → κ) (view : α → β) (xs : List α) : Prop :=
  ∀ x ∈ xs, ∀ y ∈ xs, key x = key y → view x = view y

/-- Every entry, when it comes, looks like the first one of its key. -/
def Confirmed (key : α → κ) (view : α → β) (xs : List α) : Prop :=
  ∀ ys y, ys ++ [y] <+: xs → ∀ x, first key (key y) ys = some x → view x = view y

variable {view}

/-- The first entry of the key of a confirmed one. -/
theorem Confirmed.view_first (h : Confirmed key view xs) {x y : α} (hy : y ∈ xs)
    (hfirst : first key (key y) xs = some x) : view x = view y := by
  obtain ⟨before, after, rfl⟩ := List.append_of_mem hy
  cases hbefore : first key (key y) before with
  | some z =>
      rw [first_append_of_some hbefore, Option.some.injEq] at hfirst
      subst hfirst
      exact h before y (by simp) z hbefore
  | none =>
      -- It is the first one itself.
      have hself : first key (key y) (y :: after) = some y := by simp [first]
      rw [first_append, hbefore, Option.none_or, hself, Option.some.injEq] at hfirst
      rw [hfirst]

theorem confirmed_iff_uniform : Confirmed key view xs ↔ Uniform key view xs := by
  constructor
  · intro h x hx y hy hkey
    obtain ⟨z, hz⟩ : ∃ z, first key (key y) xs = some z := exists_first hy
    have hzy : view z = view y := h.view_first hy hz
    have hzx : view z = view x := h.view_first hx (hkey ▸ hz)
    exact hzx.symm.trans hzy
  · intro h ys y hys x hfirst
    have hx : x ∈ xs := hys.subset (List.mem_append_left _ (mem_of_first hfirst))
    have hy : y ∈ xs := hys.subset (by simp)
    exact h x hx y hy (key_of_first hfirst)

/-- All along, the first and the last entry of every key look the same. -/
def Agree (key : α → κ) (view : α → β) (xs : List α) : Prop :=
  ∀ ys, ys <+: xs → ∀ k x y, first key k ys = some x → last key k ys = some y →
    view x = view y

theorem agree_iff_uniform : Agree key view xs ↔ Uniform key view xs := by
  constructor
  · intro h
    rw [← confirmed_iff_uniform]
    intro ys y hys x hfirst
    refine h (ys ++ [y]) hys (key y) x y (first_append_of_some hfirst) ?_
    rw [last_concat, if_pos rfl]
  · intro h ys hys k x y hfirst hlast
    apply h x (hys.subset (mem_of_first hfirst)) y (hys.subset (mem_of_last hlast))
    rw [key_of_first hfirst, key_of_last hlast]

end Agree

end FirstWins
