import Mathlib.Data.Finset.Insert

/-!
Scanning a list with a set of keys seen so far. An element is *fresh* when its
key is not in the set at the time it is reached; its key then joins the set.
-/

namespace SeenSet

variable {α κ : Type} (key : α → κ)

/-- `x` stands in the list before every other element with its key. -/
def FirstOfKey (xs : List α) (x : α) : Prop :=
  ∃ before after, xs = before ++ x :: after ∧ ∀ y ∈ before, key y ≠ key x

theorem firstOfKey_cons {x y : α} {ys : List α} :
    FirstOfKey key (y :: ys) x ↔ x = y ∨ key y ≠ key x ∧ FirstOfKey key ys x := by
  constructor
  · rintro ⟨before, after, heq, hbefore⟩
    cases before with
    | nil =>
        injection heq with hxy
        exact .inl hxy.symm
    | cons z before =>
        injection heq with hzy hrest
        rw [List.forall_mem_cons] at hbefore
        exact .inr ⟨hzy ▸ hbefore.1, before, after, hrest, hbefore.2⟩
  · rintro (rfl | ⟨hne, before, after, rfl, hbefore⟩)
    · exact ⟨[], ys, rfl, by simp⟩
    · exact ⟨y :: before, after, rfl, List.forall_mem_cons.mpr ⟨hne, hbefore⟩⟩

/-! ### The scan -/

variable [DecidableEq κ]

/-- The elements of a list, in order, each with whether it is fresh. -/
def scan (seen : Finset κ) : List α → List (α × Bool)
  | [] => []
  | x :: xs => (x, decide (key x ∉ seen)) :: scan (insert (key x) seen) xs

/-- The fresh elements are the first of their key, among those whose key was
not seen before the scan. -/
theorem mem_scan_fresh_iff (seen : Finset κ) (xs : List α) (x : α) :
    (x, true) ∈ scan key seen xs ↔ key x ∉ seen ∧ FirstOfKey key xs x := by
  induction xs generalizing seen with
  | nil => simp [scan, FirstOfKey]
  | cons y ys ih =>
      rw [scan, List.mem_cons, ih, firstOfKey_cons, Finset.mem_insert, not_or,
        Prod.mk.injEq]
      constructor
      · rintro (⟨rfl, hfresh⟩ | ⟨⟨hne, hseen⟩, hfirst⟩)
        · exact ⟨of_decide_eq_true hfresh.symm, .inl rfl⟩
        · exact ⟨hseen, .inr ⟨Ne.symm hne, hfirst⟩⟩
      · rintro ⟨hseen, rfl | ⟨hne, hfirst⟩⟩
        · exact .inl ⟨rfl, (decide_eq_true hseen).symm⟩
        · exact .inr ⟨⟨Ne.symm hne, hseen⟩, hfirst⟩

theorem not_fresh_of_mem_seen {seen : Finset κ} {xs : List α} {p : α × Bool}
    (hp : p ∈ scan key seen xs) (hseen : key p.1 ∈ seen) : p.2 = false := by
  obtain ⟨x, fresh⟩ := p
  cases fresh with
  | false => rfl
  | true => exact absurd hseen ((mem_scan_fresh_iff key seen xs x).mp hp).1

/-- No key is fresh a second time. -/
theorem pairwise_scan (seen : Finset κ) (xs : List α) :
    (scan key seen xs).Pairwise fun p q => key p.1 = key q.1 → q.2 = false := by
  induction xs generalizing seen with
  | nil => exact List.Pairwise.nil
  | cons x xs ih =>
      refine List.Pairwise.cons ?_ (ih _)
      intro q hq hkey
      apply not_fresh_of_mem_seen key hq
      exact Finset.mem_insert.mpr (.inl hkey.symm)

/-- A key of the list that was not seen before the scan is fresh once. -/
theorem exists_fresh {seen : Finset κ} {xs : List α} {x : α} (hx : x ∈ xs)
    (hseen : key x ∉ seen) : ∃ y, key y = key x ∧ (y, true) ∈ scan key seen xs := by
  induction xs generalizing seen with
  | nil => cases hx
  | cons z xs ih =>
      rw [scan]
      by_cases hz : key z = key x
      · refine ⟨z, hz, ?_⟩
        rw [decide_eq_true (hz ▸ hseen)]
        exact List.mem_cons_self
      · have hx : x ∈ xs := by
          obtain rfl | hx := List.mem_cons.mp hx
          · exact absurd rfl hz
          · exact hx
        have hseen : key x ∉ insert (key z) seen := by
          rw [Finset.mem_insert, not_or]
          exact ⟨Ne.symm hz, hseen⟩
        obtain ⟨y, hy, hfresh⟩ := ih hx hseen
        exact ⟨y, hy, List.mem_cons_of_mem _ hfresh⟩

theorem mem_of_mem_scan {seen : Finset κ} {xs : List α} {p : α × Bool}
    (h : p ∈ scan key seen xs) : p.1 ∈ xs := by
  induction xs generalizing seen with
  | nil => cases h
  | cons x xs ih =>
      rw [scan] at h
      obtain rfl | h := List.mem_cons.mp h
      · exact List.mem_cons_self
      · exact List.mem_cons_of_mem _ (ih h)

theorem exists_of_mem {seen : Finset κ} {xs : List α} {x : α} (hx : x ∈ xs) :
    ∃ fresh, (x, fresh) ∈ scan key seen xs := by
  induction xs generalizing seen with
  | nil => cases hx
  | cons z xs ih =>
      rw [scan]
      obtain rfl | hx := List.mem_cons.mp hx
      · exact ⟨_, List.mem_cons_self⟩
      · obtain ⟨fresh, hfresh⟩ := ih hx
        exact ⟨fresh, List.mem_cons_of_mem _ hfresh⟩

/-! ### Scans one after the other -/

/-- Of several scans, each with a seed of its own, no key is fresh a second time exactly
when the seed of a scan has every key that it shares with an earlier one. -/
theorem pairwise_flatMap_scan_iff (scans : List (Finset κ × List α)) :
    (scans.flatMap fun p => scan key p.1 p.2).Pairwise
        (fun p q => key p.1 = key q.1 → q.2 = false) ↔
      scans.Pairwise fun p q => ∀ x ∈ p.2, ∀ y ∈ q.2, key x = key y → key y ∈ q.1 := by
  have hscan : ∀ p ∈ scans, (scan key p.1 p.2).Pairwise
      fun p q => key p.1 = key q.1 → q.2 = false := fun p _ => pairwise_scan key p.1 p.2
  rw [List.pairwise_flatMap, and_iff_right hscan]
  apply List.Pairwise.iff
  intro p q
  constructor
  · intro h x hx y hy hkey
    by_contra hseen
    obtain ⟨fresh, hmem⟩ : ∃ fresh, (x, fresh) ∈ scan key p.1 p.2 := exists_of_mem key hx
    obtain ⟨y', hy', hfresh⟩ := exists_fresh key hy hseen
    have hskipped := h _ hmem _ hfresh (hkey.trans hy'.symm)
    cases hskipped
  · intro h a ha b hb hkey
    exact not_fresh_of_mem_seen key hb
      (h a.1 (mem_of_mem_scan key ha) b.1 (mem_of_mem_scan key hb) hkey)

end SeenSet
