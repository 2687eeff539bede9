import AlphE.Schemas.Incident
import AlphE.Dispatch.Cache

/-!
What a cache key stands for. With a hash that is injective on the texts that are hashed,
two results have one key exactly when they depend on the same things: the times count by
their texts, and the services of the scope as a multiset.
-/

namespace AlphE.Dispatch

open CompactJson

/-- Agreement on everything a key is made of. -/
structure KeyComponents.Equiv (k k' : KeyComponents) : Prop where
  incidentId : k.incidentId = k'.incidentId
  collectorName : k.collectorName = k'.collectorName
  question : k.question = k'.question
  start : isoformat k.timeRange.start = isoformat k'.timeRange.start
  stop : isoformat k.timeRange.stop = isoformat k'.timeRange.stop
  scopeServices : k.scopeServices.Perm k'.scopeServices
  environmentFingerprint : k.environmentFingerprint = k'.environmentFingerprint

/-! ### The members of the text -/

theorem insertionSort_eq_iff_perm (xs ys : List String) :
    xs.insertionSort (· ≤ ·) = ys.insertionSort (· ≤ ·) ↔ xs.Perm ys := by
  have hperm := List.perm_insertionSort (α := String) (· ≤ ·)
  have hsorted := List.pairwise_insertionSort (α := String) (· ≤ ·)
  constructor
  · intro h
    have hsame := hperm xs
    rw [h] at hsame
    exact hsame.symm.trans (hperm ys)
  · intro h
    have hsame := (hperm xs).trans (h.trans (hperm ys).symm)
    exact hsame.eq_of_pairwise' (hsorted xs) (hsorted ys)

theorem sortElems_map_str (xs : List String) : sortElems (xs.map .str) = xs.map .str := by
  induction xs with
  | nil => rfl
  | cons x xs ih => rw [List.map_cons, sortElems, sortKeys, ih]

/-- Sorted, the scope is a list of strings in one order. -/
theorem sortKeys_scope_eq_iff (xs ys : List String) :
    sortKeys (.arr ((xs.insertionSort (· ≤ ·)).map .str)) =
        sortKeys (.arr ((ys.insertionSort (· ≤ ·)).map .str)) ↔ xs.Perm ys := by
  have hstr : Function.Injective Json.str := fun _ _ => Json.str.inj
  rw [sortKeys, sortKeys, sortElems_map_str, sortElems_map_str, Json.arr.injEq,
    (List.map_injective_iff.mpr hstr).eq_iff, insertionSort_eq_iff_perm]

theorem sortKeys_timeRangeJson_eq_iff (r r' : TimeRange) :
    sortKeys (timeRangeJson r) = sortKeys (timeRangeJson r') ↔
      isoformat r.start = isoformat r'.start ∧ isoformat r.stop = isoformat r'.stop := by
  rw [timeRangeJson, timeRangeJson, sortKeys_obj_eq_iff_of_keys_eq (by simp) (by simp)]
  simp [sortMembers, sortKeys]

theorem sortKeys_fingerprintJson_eq_iff (f f' : EnvironmentFingerprint) :
    sortKeys (fingerprintJson f) = sortKeys (fingerprintJson f') ↔ f = f' := by
  rw [fingerprintJson, fingerprintJson, sortKeys_obj_eq_iff_of_keys_eq (by simp) (by simp),
    EnvironmentFingerprint.mk.injEq]
  simp [sortMembers, sortKeys]

/-! ### The key -/

/-- The text is canonical, and says everything. -/
theorem keyText_eq_iff (k k' : KeyComponents) : keyText k = keyText k' ↔ k.Equiv k' := by
  have hstr : ∀ s, sortKeys (.str s) = .str s := fun _ => rfl
  rw [keyText, keyText, dumps_eq_iff, componentsJson, componentsJson,
    sortKeys_obj_eq_iff_of_keys_eq (by simp) (by simp)]
  simp only [sortMembers, List.cons.injEq, Prod.mk.injEq, true_and, and_true, hstr,
    Json.str.injEq, sortKeys_timeRangeJson_eq_iff, sortKeys_scope_eq_iff,
    sortKeys_fingerprintJson_eq_iff]
  constructor
  · rintro ⟨hincident, hcollector, hquestion, ⟨hstart, hstop⟩, hscope, hfingerprint⟩
    exact ⟨hincident, hcollector, hquestion, hstart, hstop, hscope, hfingerprint⟩
  · rintro ⟨hincident, hcollector, hquestion, hstart, hstop, hscope, hfingerprint⟩
    exact ⟨hincident, hcollector, hquestion, ⟨hstart, hstop⟩, hscope, hfingerprint⟩

/-- The bytes that are hashed, for some components. -/
def hashed : Set Bytes := Set.range fun k : KeyComponents => (keyText k).encodeUtf8

/-- **The key is canonical and free of collisions.** -/
theorem makeCacheKey_eq_iff {sha256 : Bytes → String} (hsha : Set.InjOn sha256 hashed)
    (k k' : KeyComponents) :
    makeCacheKey sha256 k = makeCacheKey sha256 k' ↔ k.Equiv k' := by
  have htext := hsha.eq_iff (Set.mem_range_self k) (Set.mem_range_self k')
  rw [makeCacheKey, makeCacheKey, htext, String.encodeUtf8_injective.eq_iff, keyText_eq_iff]

/-! ### Two orders of the services -/

def testComponents (services : List String) : KeyComponents :=
  { incidentId := "inc_001"
    collectorName := "prom"
    question := "q"
    timeRange := ⟨testNow.addMicros (-DateTime.minutes 10), testNow⟩
    scopeServices := services
    environmentFingerprint :=
      { cluster := "k3d-lab", account := "local", region := "local"
        deployRevision := "abc123", rolloutGeneration := "1" } }

/-- SHA-256 as an injective function: its value on the text of the components of the unit
test is the real one. -/
def testKeyHash : Bytes → String :=
  pinnedHash (keyText (testComponents ["svc-a", "svc-b"])).encodeUtf8
    "65c0aad5c42e3b3e00ec64b1fb627dcfdd4764ed995ec1a2492716e2e49bef05"

theorem makeCacheKey_eq_iff_testComponents :
    makeCacheKey testKeyHash (testComponents ["svc-a", "svc-b"]) =
        makeCacheKey testKeyHash (testComponents ["svc-b", "svc-a"]) ↔
      (testComponents ["svc-a", "svc-b"]).Equiv (testComponents ["svc-b", "svc-a"]) :=
  makeCacheKey_eq_iff (pinnedHash_injective _ _).injOn _ _

end AlphE.Dispatch
