import AlphE.Orchestrator.Focus
import AlphE.Lib.KeyedUpsert

/-!
The hypotheses of an incident over the ticks of the Investigator. An answer is merged into
what is there by ids, some of which are made of the texts: one entry for each id, the
earlier ones in their places and the latest answer in force.
-/

namespace AlphE.Orchestrator

open Nodes InsertionDict

/-- What a merge makes of two lists. -/
structure StableUpsert (existing proposed merged : List Hypothesis) : Prop where
  nodup : (merged.map Hypothesis.id).Nodup
  /-- The ids that were there, and the others in the order in which they first appear. -/
  ids : merged.map Hypothesis.id = existing.map Hypothesis.id ++
    ((proposed.map Hypothesis.id).filter (· ∉ existing.map Hypothesis.id)).eraseDups
  /-- The last proposal of an id, or the entry that was there. -/
  entry : ∀ id, merged.find? (fun h => h.id = id) =
    ((proposed.filter fun h => h.id = id).getLast?).or (existing.find? fun h => h.id = id)
  again : mergeHypotheses merged proposed = merged

/-! ### One merge -/

section Merge

theorem filed_byId (existing : List Hypothesis) : (byId existing).Filed Hypothesis.id :=
  Filed.upsertAll Hypothesis.id (by simp [Filed]) existing

variable {existing : List Hypothesis} (hexisting : (existing.map Hypothesis.id).Nodup)

include hexisting

theorem values_byId : (byId existing).values = existing :=
  values_upsertAll_empty Hypothesis.id hexisting

theorem keys_byId : (byId existing).keys = existing.map Hypothesis.id := by
  rw [← map_key_values Hypothesis.id (filed_byId existing), values_byId hexisting]

theorem get?_byId (id : String) :
    (byId existing).get? id = existing.find? fun h => h.id = id := by
  rw [← find?_values Hypothesis.id (filed_byId existing), values_byId hexisting]

/-- Merging is filing the proposals over the entries. -/
theorem stableUpsert_mergeHypotheses (proposed : List Hypothesis) :
    StableUpsert existing proposed (mergeHypotheses existing proposed) := by
  let filed := (byId existing).upsertAll Hypothesis.id proposed
  have hmerge : mergeHypotheses existing proposed = filed.values := rfl
  have hfiled : filed.Filed Hypothesis.id := (filed_byId existing).upsertAll Hypothesis.id proposed
  have hids : filed.values.map Hypothesis.id = filed.keys := map_key_values Hypothesis.id hfiled
  rw [hmerge]
  refine ⟨?_, ?_, ?_, ?_⟩
  · rw [hids]
    exact filed.keys_nodup
  · rw [hids, keys_upsertAll, keys_byId hexisting]
  · intro id
    rw [find?_values Hypothesis.id hfiled, get?_upsertAll, get?_byId hexisting]
  · -- The merged list is filed as it stands, and then nothing is new.
    have hbyId : byId filed.values = filed := upsertAll_values Hypothesis.id hfiled
    have hagain : mergeHypotheses filed.values proposed =
        ((byId filed.values).upsertAll Hypothesis.id proposed).values := rfl
    rw [hagain, hbyId, upsertAll_upsertAll]

end Merge

/-! ### Any number of ticks -/

section Ticks

variable {sha256 : Bytes → String}

/-- A tick leaves one entry for each id. -/
theorem nodup_ids_apply {s : IncidentState} (h : (s.hypotheses.map Hypothesis.id).Nodup)
    (tick : Tick) : ((tick.apply sha256 s).hypotheses.map Hypothesis.id).Nodup := by
  cases tick with
  | intake now => exact h
  | investigator now answer =>
      by_cases hcap : maxAttempts ≤ s.investigationAttempts
      · rw [Tick.apply, investigatorNode, if_pos hcap]
        exact h
      · rw [Tick.apply, investigatorNode_hypotheses _ _ _ _ (Nat.not_le.mp hcap)]
        exact (stableUpsert_mergeHypotheses h _).nodup
  | collectors env =>
      rw [Tick.apply, collectorsNode_hypotheses]
      exact h

theorem nodup_ids_foldl {seed : IncidentState} (h : (seed.hypotheses.map Hypothesis.id).Nodup)
    (ticks : List Tick) :
    ((ticks.foldl (Tick.apply sha256) seed).hypotheses.map Hypothesis.id).Nodup := by
  induction ticks generalizing seed with
  | nil => exact h
  | cons tick ticks ih => exact ih (nodup_ids_apply h tick)

theorem ne_empty_of_mem_merge (hsha : ∀ m, sha256 m ≠ "") {existing proposed : List Hypothesis}
    (hexisting : ∀ h ∈ existing, h.id ≠ "") :
    ∀ h ∈ mergeHypotheses existing (proposed.map (ensureId sha256)), h.id ≠ "" := by
  intro h hh
  have hid := List.mem_map_of_mem (f := Hypothesis.id) hh
  rw [mem_ids_mergeHypotheses, List.map_map] at hid
  rcases hid with hid | hid
  · obtain ⟨g, hg, hsame⟩ := List.mem_map.mp hid
    exact hsame ▸ hexisting g hg
  · obtain ⟨g, -, hsame⟩ := List.mem_map.mp hid
    exact hsame ▸ ensureId_ne_empty hsha g

/-- **One entry for each id.** Merging an answer is a stable upsert by the ids, none of
which is empty if none was, and after any ticks the ids of the state are distinct if those
of the seed were. -/
theorem merge_isStableUpsert (hsha : ∀ m, sha256 m ≠ "") :
    (∀ existing proposed : List Hypothesis, (existing.map Hypothesis.id).Nodup →
      StableUpsert existing (proposed.map (ensureId sha256))
          (mergeHypotheses existing (proposed.map (ensureId sha256))) ∧
        ((∀ h ∈ existing, h.id ≠ "") →
          ∀ h ∈ mergeHypotheses existing (proposed.map (ensureId sha256)), h.id ≠ "")) ∧
      ∀ (seed : IncidentState) (ticks : List Tick), (seed.hypotheses.map Hypothesis.id).Nodup →
        ((ticks.foldl (Tick.apply sha256) seed).hypotheses.map Hypothesis.id).Nodup := by
  refine ⟨fun existing proposed hexisting => ⟨?_, ?_⟩, fun seed ticks hseed => ?_⟩
  · exact stableUpsert_mergeHypotheses hexisting _
  · exact ne_empty_of_mem_merge hsha
  · exact nodup_ids_foldl hseed ticks

/-- The hypothesis is asserted again, and one without an id is proposed with it. -/
theorem merge_isStableUpsert_testTicks :
    StableUpsert [Coordinator.testHypothesis .«open»]
        ([Coordinator.testHypothesis .confirmed, { Coordinator.testHypothesis .«open» with
          id := "" }].map (ensureId fun _ => testEmptyDigest))
        (mergeHypotheses [Coordinator.testHypothesis .«open»]
          ([Coordinator.testHypothesis .confirmed, { Coordinator.testHypothesis .«open» with
            id := "" }].map (ensureId fun _ => testEmptyDigest))) ∧
      ((testTicks.foldl (Tick.apply fun _ => testEmptyDigest)
        (Intake.seedIncident testIntake testAlert "default")).hypotheses.map
          Hypothesis.id).Nodup :=
  have htheorem := @merge_isStableUpsert (fun _ => testEmptyDigest) fun _ => by decide
  ⟨(htheorem.1 [Coordinator.testHypothesis .«open»] _ (by decide)).1,
    htheorem.2 (Intake.seedIncident testIntake testAlert "default") testTicks List.nodup_nil⟩

end Ticks

end AlphE.Orchestrator
