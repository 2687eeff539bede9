import AlphE.Coordinator.Forward
import AlphE.Security.Integrity

/-!
Authorisation at execution time. An intent authorises its execution up to its
`expires_at`, and as long as its approval is neither rejected nor invalidated.
The Coordinator reads neither field: which intents run depends on the
verification, the hypotheses and the hashes only.
-/

namespace AlphE.Coordinator

/-- The intent authorises an execution at time `t`. -/
structure Authorised (t : DateTime) (intent : ActionIntent) : Prop where
  not_expired : t.instant ≤ intent.expiresAt.instant
  not_rejected : intent.approvalStatus ≠ "rejected"
  not_invalidated : intent.approvalStatus ≠ "invalidated"

/-- The invocation executed the intent forward, as opposed to skipping it. -/
def CoordinatorResult.ForwardExecutes (result : CoordinatorResult)
    (intent : ActionIntent) : Prop :=
  (intent, "dry_run_success") ∈ result.forward

theorem mem_forwardOutcomes_success_iff (seen : Finset String)
    (intents : List ActionIntent) (intent : ActionIntent) :
    (intent, "dry_run_success") ∈ forwardOutcomes seen intents ↔
      intent.hash ∉ seen ∧ SeenSet.FirstOfKey ActionIntent.hash intents intent := by
  rw [← SeenSet.mem_scan_fresh_iff, forwardOutcomes, List.mem_map]
  constructor
  · rintro ⟨⟨i, fresh⟩, hmem, heq⟩
    obtain ⟨rfl, hlabel⟩ := Prod.mk.inj heq
    have hfresh : fresh = true := outcomeLabel_injective hlabel
    rwa [← hfresh]
  · intro hmem
    exact ⟨(intent, true), hmem, rfl⟩

/-- Exactly the first intent of each hash is executed. -/
theorem coordinatorNode_forwardExecutes_iff (env : CoordinatorEnv)
    {verify : ActionIntent → Except String Unit} {state : IncidentState}
    (hverified : AllVerified verify state.actionIntents) (intent : ActionIntent) :
    (coordinatorNode env verify state).ForwardExecutes intent ↔
      HasConfirmed state ∧
        SeenSet.FirstOfKey ActionIntent.hash state.actionIntents intent := by
  rw [CoordinatorResult.ForwardExecutes, coordinatorNode_forward]
  by_cases hconf : HasConfirmed state
  · rw [if_pos ⟨hverified, hconf⟩, mem_forwardOutcomes_success_iff]
    simp [hconf]
  · simp [hconf]

/-- **When only live authorisations are executed.** On verified intents, every
intent that runs is authorised at the time of the invocation exactly when no
hypothesis is confirmed, so that nothing runs, or every intent that is the
first of its hash happens to be authorised. -/
theorem coordinatorNode_authorised_iff (env : CoordinatorEnv)
    (verify : ActionIntent → Except String Unit) (state : IncidentState)
    (hverified : AllVerified verify state.actionIntents) :
    (∀ intent, (coordinatorNode env verify state).ForwardExecutes intent →
      Authorised env.now intent) ↔
    (HasConfirmed state →
      ∀ intent, SeenSet.FirstOfKey ActionIntent.hash state.actionIntents intent →
        Authorised env.now intent) := by
  constructor
  · intro h hconf intent hfirst
    apply h
    rw [coordinatorNode_forwardExecutes_iff env hverified]
    exact ⟨hconf, hfirst⟩
  · intro h intent hexec
    rw [coordinatorNode_forwardExecutes_iff env hverified] at hexec
    exact h hexec.1 intent hexec.2

/-! ### An expired intent -/

open Security

/-- The Coordinator reaches the signed intent a minute after its expiry. -/
def testLate : CoordinatorEnv :=
  { testEnv with now := testIntent.expiresAt.addMicros (DateTime.minutes 1) }

theorem allVerified_testSigned : AllVerified testCheck [testSigned] :=
  allVerified_singleton.mpr testCheck_testSigned

theorem coordinatorNode_authorised_iff_late :
    (∀ intent, (coordinatorNode testLate testCheck
        (testState [testHypothesis .confirmed] [testSigned])).ForwardExecutes intent →
      Authorised testLate.now intent) ↔
    (HasConfirmed (testState [testHypothesis .confirmed] [testSigned]) →
      ∀ intent, SeenSet.FirstOfKey ActionIntent.hash [testSigned] intent →
        Authorised testLate.now intent) :=
  coordinatorNode_authorised_iff testLate testCheck
    (testState [testHypothesis .confirmed] [testSigned]) allVerified_testSigned

/-- A signed intent runs a minute after it expired. -/
theorem not_coordinatorNode_authorised :
    ¬ ∀ (env : CoordinatorEnv) (state : IncidentState),
      AllVerified testCheck state.actionIntents →
      ∀ intent, (coordinatorNode env testCheck state).ForwardExecutes intent →
        Authorised env.now intent := by
  intro h
  have hexec : (coordinatorNode testLate testCheck
      (testState [testHypothesis .confirmed] [testSigned])).ForwardExecutes testSigned := by
    rw [coordinatorNode_forwardExecutes_iff]
    · refine ⟨⟨testHypothesis .confirmed, by simp [testState], rfl⟩, ?_⟩
      exact ⟨[], [], rfl, by simp⟩
    · exact allVerified_testSigned
  have hauth := h testLate (testState [testHypothesis .confirmed] [testSigned])
    allVerified_testSigned testSigned hexec
  have hexpired : testSigned.expiresAt.instant < testLate.now.instant := by
    show testIntent.expiresAt.instant <
      (testIntent.expiresAt.addMicros (DateTime.minutes 1)).instant
    rw [DateTime.instant_addMicros, DateTime.minutes]
    omega
  exact absurd hauth.not_expired (not_le.mpr hexpired)

end AlphE.Coordinator
