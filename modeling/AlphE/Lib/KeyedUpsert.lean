import AlphE.Lib.InsertionDict
import Mathlib.Data.List.Find

/-!
A list of values merged into a dictionary by their keys, one after the other. The keys
that were there keep their places and the new ones follow as they come up; a key holds the
last value that was merged under it. Merging the same list once more changes nothing.
-/

universe u v

namespace InsertionDict

variable {κ : Type u} {α : Type v} [DecidableEq κ]

theorem keys_set (d : InsertionDict κ α) (k : κ) (x : α) :
    (d.set k x).keys = if k ∈ d.keys then d.keys else d.keys ++ [k] :=
  map_fst_assign k x d.items

theorem items_eq_filterMap (d : InsertionDict κ α) :
    d.items = d.keys.filterMap fun k => (d.get? k).map fun x => (k, x) := by
  have hentry : ∀ p ∈ d.items, (((fun k => (d.get? k).map fun x => (k, x)) ∘ Prod.fst) p) =
      some p := by
    rintro ⟨k, x⟩ hp
    rw [Function.comp_apply, (get?_eq_some_iff d k x).mpr hp]
    rfl
  rw [keys, List.filterMap_map, List.filterMap_congr hentry, List.filterMap_some]

/-- A dictionary is its keys in order and what it holds under each. -/
theorem ext_get? {d e : InsertionDict κ α} (hkeys : d.keys = e.keys)
    (hget : ∀ k, d.get? k = e.get? k) : d = e := by
  apply InsertionDict.ext
  rw [items_eq_filterMap, items_eq_filterMap, hkeys]
  exact List.filterMap_congr fun k _ => by rw [hget]

section Upsert

variable (key : α → κ)

/-- The values are filed under their keys. -/
def Filed (d : InsertionDict κ α) : Prop := ∀ p ∈ d.items, key p.2 = p.1

/-- Each value is filed, over the one of its key. -/
def upsertAll (d : InsertionDict κ α) (xs : List α) : InsertionDict κ α :=
  xs.foldl (fun d x => d.set (key x) x) d

theorem Filed.upsertAll {d : InsertionDict κ α} (h : d.Filed key) (xs : List α) :
    (d.upsertAll key xs).Filed key :=
  filed_foldl_set key xs h

theorem keys_upsertAll (d : InsertionDict κ α) (xs : List α) :
    (d.upsertAll key xs).keys = d.keys ++ ((xs.map key).filter (· ∉ d.keys)).eraseDups := by
  induction xs generalizing d with
  | nil => simp [upsertAll]
  | cons x xs ih =>
      have hstep : d.upsertAll key (x :: xs) = (d.set (key x) x).upsertAll key xs := rfl
      rw [hstep, ih, keys_set, List.map_cons]
      by_cases hx : key x ∈ d.keys
      · rw [if_pos hx, List.filter_cons_of_neg (by simpa using hx)]
      · have hnew : (fun k => decide (k ∉ d.keys ++ [key x])) =
            fun k => (!k == key x) && decide (k ∉ d.keys) := by
          funext k
          by_cases hk : k = key x <;> simp [hk]
        rw [if_neg hx, List.filter_cons_of_pos (by simpa using hx), List.eraseDups_cons,
          List.append_assoc, List.singleton_append, List.filter_filter, hnew]

theorem get?_upsertAll (d : InsertionDict κ α) (xs : List α) (k : κ) :
    (d.upsertAll key xs).get? k = ((xs.filter fun x => key x = k).getLast?).or (d.get? k) := by
  induction xs generalizing d with
  | nil => simp [upsertAll]
  | cons x xs ih =>
      have hstep : d.upsertAll key (x :: xs) = (d.set (key x) x).upsertAll key xs := rfl
      rw [hstep, ih, get?_set]
      by_cases hx : key x = k
      · rw [if_pos hx, List.filter_cons_of_pos (by simpa using hx), List.getLast?_cons]
        cases (xs.filter fun x => key x = k).getLast? <;> rfl
      · rw [if_neg hx, List.filter_cons_of_neg (by simpa using hx)]

/-- What holds under its key is found by it. -/
theorem find?_values {d : InsertionDict κ α} (h : d.Filed key) (k : κ) :
    d.values.find? (fun x => key x = k) = d.get? k := by
  rw [values, List.find?_map, get?]
  congr 1
  have hitems : ∀ p ∈ d.items, ((fun x => decide (key x = k)) ∘ Prod.snd) p = decide (p.1 = k) := by
    intro p hp
    rw [Function.comp_apply, h p hp]
  exact List.find?_congr hitems

/-- The values of a dictionary, filed anew, give it back. -/
theorem upsertAll_values {d : InsertionDict κ α} (h : d.Filed key) :
    (∅ : InsertionDict κ α).upsertAll key d.values = d := by
  have hitems : d.items = d.values.map fun x => (key x, x) := by
    rw [values, List.map_map]
    refine (List.map_id _).symm.trans (List.map_congr_left ?_)
    rintro p hp
    rw [Function.comp_apply, h p hp]
    rfl
  have hfold : (∅ : InsertionDict κ α).upsertAll key d.values = ofList d.items := by
    rw [ofList, hitems, List.foldl_map]
    rfl
  rw [hfold, ofList_items]

/-- Values with keys of their own stand in their order. -/
theorem values_upsertAll_empty {xs : List α} (h : (xs.map key).Nodup) :
    ((∅ : InsertionDict κ α).upsertAll key xs).values = xs := by
  have hkeys : ((xs.map fun x => (key x, x)).map Prod.fst).Nodup := by
    rw [List.map_map]
    exact h
  have hfold : (∅ : InsertionDict κ α).upsertAll key xs = ofList (xs.map fun x => (key x, x)) := by
    rw [ofList, List.foldl_map]
    rfl
  have hitems : (ofList (xs.map fun x => (key x, x))).items = xs.map fun x => (key x, x) :=
    foldl_set_items _ _ hkeys
  rw [hfold, values, hitems, List.map_map]
  exact List.map_id xs

/-- The same list merged again changes nothing. -/
theorem upsertAll_upsertAll (d : InsertionDict κ α) (xs : List α) :
    (d.upsertAll key xs).upsertAll key xs = d.upsertAll key xs := by
  apply ext_get?
  · have hnone : (xs.map key).filter (· ∉ (d.upsertAll key xs).keys) = [] := by
      rw [List.filter_eq_nil_iff]
      intro k hk
      have hmem : k ∈ (d.upsertAll key xs).keys := (mem_keys_foldl_set key xs d k).mpr (.inr hk)
      simpa using hmem
    rw [keys_upsertAll, hnone, List.eraseDups_nil, List.append_nil]
  · intro k
    rw [get?_upsertAll, get?_upsertAll]
    cases (xs.filter fun x => key x = k).getLast? <;> rfl

end Upsert

end InsertionDict
