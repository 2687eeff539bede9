import Mathlib.Data.List.Nodup
import Mathlib.Data.List.Perm.Basic
import Mathlib.Data.List.Perm.Lattice

/-!
Insertion-ordered dictionaries.

A dictionary is a list of entries whose keys are pairwise distinct; the
distinctness is a field, so a list with a repeated key is not a dictionary.
Assigning to a key that is present replaces the value where it stands, and
assigning to a fresh key appends: iteration order is the order of first
insertion. Two dictionaries are *equivalent* when they agree as finite maps,
whatever the order their entries were inserted in.
-/

universe u v

/-- A finite map that remembers the order in which its keys were inserted. -/
structure InsertionDict (κ : Type u) (α : Type v) where
  items : List (κ × α)
  nodup : (items.map Prod.fst).Nodup
  deriving DecidableEq, Repr

namespace InsertionDict

variable {κ : Type u} {α : Type v}

@[ext] theorem ext {d e : InsertionDict κ α} (h : d.items = e.items) : d = e := by
  cases d
  cases e
  cases h
  rfl

def empty : InsertionDict κ α := ⟨[], List.nodup_nil⟩

instance : EmptyCollection (InsertionDict κ α) := ⟨empty⟩

instance : Inhabited (InsertionDict κ α) := ⟨empty⟩

@[simp] theorem items_empty : (∅ : InsertionDict κ α).items = [] := rfl

def keys (d : InsertionDict κ α) : List κ := d.items.map Prod.fst

def values (d : InsertionDict κ α) : List α := d.items.map Prod.snd

theorem keys_nodup (d : InsertionDict κ α) : d.keys.Nodup := d.nodup

theorem items_nodup (d : InsertionDict κ α) : d.items.Nodup :=
  List.Nodup.of_map Prod.fst d.nodup

/-- When every value stands under its own key, the keys of the values are the
keys. -/
theorem map_key_values (key : α → κ) {d : InsertionDict κ α} (h : ∀ p ∈ d.items, key p.2 = p.1) :
    d.values.map key = d.keys := by
  rw [values, keys, List.map_map]
  apply List.map_congr_left
  intro p hp
  exact h p hp

variable [DecidableEq κ]

/-- The value stored under a key, if the key is present. -/
def get? (d : InsertionDict κ α) (k : κ) : Option α :=
  (d.items.find? fun p => p.1 = k).map Prod.snd

/-! ### Assignment -/

/-- The entries after `d[k] = x`: in place where the key is present, at the
end where it is not. -/
def assign (k : κ) (x : α) : List (κ × α) → List (κ × α)
  | [] => [(k, x)]
  | p :: ps => if p.1 = k then (k, x) :: ps else p :: assign k x ps

theorem map_fst_assign (k : κ) (x : α) (ps : List (κ × α)) :
    (assign k x ps).map Prod.fst =
      if k ∈ ps.map Prod.fst then ps.map Prod.fst else ps.map Prod.fst ++ [k] := by
  induction ps with
  | nil => simp [assign]
  | cons p ps ih =>
      by_cases hp : p.1 = k
      · simp [assign, hp]
      · by_cases hk : k ∈ ps.map Prod.fst
        · simp only [List.mem_map] at hk
          simp_all [assign, Ne.symm hp]
        · simp only [List.mem_map] at hk
          simp_all [assign, Ne.symm hp]

theorem nodup_assign (k : κ) (x : α) {ps : List (κ × α)}
    (h : (ps.map Prod.fst).Nodup) : ((assign k x ps).map Prod.fst).Nodup := by
  rw [map_fst_assign]
  split
  · exact h
  · next hk =>
      rw [List.nodup_append]
      refine ⟨h, List.nodup_singleton k, ?_⟩
      intro a ha b hb
      rw [List.mem_singleton] at hb
      rintro rfl
      exact hk (hb ▸ ha)

/-- `d[k] = x`. -/
def set (d : InsertionDict κ α) (k : κ) (x : α) : InsertionDict κ α :=
  ⟨assign k x d.items, nodup_assign k x d.nodup⟩

/-- The dictionary built by assigning the entries of a list in order. -/
def ofList (ps : List (κ × α)) : InsertionDict κ α :=
  ps.foldl (fun d p => d.set p.1 p.2) ∅

theorem find?_assign (k j : κ) (x : α) (ps : List (κ × α)) :
    (assign k x ps).find? (fun p => p.1 = j) =
      if k = j then some (k, x) else ps.find? fun p => p.1 = j := by
  induction ps with
  | nil => by_cases hj : k = j <;> simp [assign, hj]
  | cons p ps ih =>
      by_cases hp : p.1 = k
      · by_cases hj : k = j <;> simp [assign, hp, hj]
      · simp only [assign, hp, if_false, List.find?_cons, ih]
        by_cases hj : k = j
        · have hpj : p.1 ≠ j := hj ▸ hp
          simp [hpj, hj]
        · simp only [hj, if_false]

/-- Reading after an assignment: the assigned key holds the new value, every
other key what it held. -/
theorem get?_set (d : InsertionDict κ α) (k j : κ) (x : α) :
    (d.set k x).get? j = if k = j then some x else d.get? j := by
  rw [get?, set, find?_assign]
  split <;> rfl

/-- An assignment leaves nothing empty. -/
theorem items_set_ne_nil (d : InsertionDict κ α) (k : κ) (x : α) :
    (d.set k x).items ≠ [] := by
  intro hnil
  have hget := d.get?_set k k x
  rw [get?, hnil] at hget
  simp at hget

theorem assign_of_notMem {k : κ} (x : α) {ps : List (κ × α)}
    (h : k ∉ ps.map Prod.fst) : assign k x ps = ps ++ [(k, x)] := by
  induction ps with
  | nil => rfl
  | cons p ps ih =>
      rw [List.map_cons, List.mem_cons, not_or] at h
      rw [assign, if_neg (Ne.symm h.1), ih h.2]
      rfl

theorem foldl_set_items (ps : List (κ × α)) (d : InsertionDict κ α)
    (h : ((d.items ++ ps).map Prod.fst).Nodup) :
    (ps.foldl (fun d p => d.set p.1 p.2) d).items = d.items ++ ps := by
  induction ps generalizing d with
  | nil => exact (List.append_nil _).symm
  | cons p ps ih =>
      have hfresh : p.1 ∉ d.items.map Prod.fst := by
        rw [List.map_append, List.map_cons, List.nodup_append] at h
        intro hmem
        exact h.2.2 _ hmem _ List.mem_cons_self rfl
      have hset : (d.set p.1 p.2).items = d.items ++ [p] := assign_of_notMem p.2 hfresh
      rw [List.foldl_cons, ih, hset, List.append_assoc]
      · rfl
      · rw [hset, List.append_assoc]
        exact h

/-- Assigning the entries of a dictionary in order gives it back. -/
@[simp] theorem ofList_items (d : InsertionDict κ α) : ofList d.items = d := by
  apply InsertionDict.ext
  exact foldl_set_items d.items ∅ d.nodup

/-! ### Dictionaries as finite maps -/

theorem find?_eq_some_iff_mem {ps : List (κ × α)} (h : (ps.map Prod.fst).Nodup)
    (k : κ) (x : α) :
    (ps.find? fun p => p.1 = k) = some (k, x) ↔ (k, x) ∈ ps := by
  induction ps with
  | nil => simp
  | cons p ps ih =>
      rw [List.map_cons, List.nodup_cons] at h
      by_cases hp : p.1 = k
      · have hx : ∀ y, (k, y) ∉ ps := by
          intro y hy
          exact h.1 (hp ▸ List.mem_map_of_mem (f := Prod.fst) hy)
        simp [hp, hx, Prod.ext_iff, eq_comm]
      · have hne : (k, x) ≠ p := by
          rintro rfl
          exact hp rfl
        simp [hp, ih h.2, hne]

theorem get?_eq_some_iff (d : InsertionDict κ α) (k : κ) (x : α) :
    d.get? k = some x ↔ (k, x) ∈ d.items := by
  rw [← find?_eq_some_iff_mem d.nodup, get?, Option.map_eq_some_iff]
  constructor
  · rintro ⟨p, hp, rfl⟩
    have hk : p.1 = k := by simpa using List.find?_some hp
    rw [hp, ← hk]
  · intro h
    exact ⟨(k, x), h, rfl⟩

/-- Agreement as finite maps. -/
def Equiv (d e : InsertionDict κ α) : Prop := ∀ k, d.get? k = e.get? k

/-- Equivalent dictionaries are permutations of one another. -/
theorem equiv_iff_perm (d e : InsertionDict κ α) :
    d.Equiv e ↔ d.items.Perm e.items := by
  constructor
  · intro h
    rw [List.perm_ext_iff_of_nodup d.items_nodup e.items_nodup]
    rintro ⟨k, x⟩
    rw [← get?_eq_some_iff, ← get?_eq_some_iff, h k]
  · intro h k
    apply Option.ext
    intro x
    rw [get?_eq_some_iff, get?_eq_some_iff]
    exact h.mem_iff

/-! ### Filing values under keys of their own -/

theorem mem_keys_set (d : InsertionDict κ α) (k j : κ) (x : α) :
    j ∈ (d.set k x).keys ↔ j ∈ d.keys ∨ j = k := by
  rw [keys, set, map_fst_assign]
  split
  · next hk =>
      constructor
      · exact .inl
      · rintro (hj | rfl)
        · exact hj
        · exact hk
  · rw [List.mem_append, List.mem_singleton]
    rfl

theorem mem_items_set {d : InsertionDict κ α} {k : κ} {x : α} {p : κ × α}
    (h : p ∈ (d.set k x).items) : p = (k, x) ∨ p ∈ d.items := by
  obtain ⟨j, y⟩ := p
  have hget := (get?_eq_some_iff _ j y).mpr h
  rw [get?_set] at hget
  split at hget
  · next hk =>
      rw [Option.some.injEq] at hget
      rw [hk, hget]
      exact .inl rfl
  · exact .inr ((get?_eq_some_iff _ j y).mp hget)

section Filing

variable (key : α → κ)

theorem mem_keys_foldl_set (xs : List α) (d : InsertionDict κ α) (k : κ) :
    k ∈ (xs.foldl (fun d x => d.set (key x) x) d).keys ↔
      k ∈ d.keys ∨ k ∈ xs.map key := by
  induction xs generalizing d with
  | nil => simp
  | cons x xs ih =>
      rw [List.foldl_cons, ih, mem_keys_set, List.map_cons, List.mem_cons, or_assoc]

theorem filed_foldl_set (xs : List α) {d : InsertionDict κ α}
    (h : ∀ p ∈ d.items, key p.2 = p.1) :
    ∀ p ∈ (xs.foldl (fun d x => d.set (key x) x) d).items, key p.2 = p.1 := by
  induction xs generalizing d with
  | nil => exact h
  | cons x xs ih =>
      apply ih
      intro p hp
      rcases mem_items_set hp with rfl | hmem
      · rfl
      · exact h p hmem

end Filing

end InsertionDict
