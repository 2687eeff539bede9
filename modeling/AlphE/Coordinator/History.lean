import AlphE.Coordinator.Forward
import AlphE.Security.Integrity

/-!
Invocations of the Coordinator over the life of an incident. A history starts
from one state; every later invocation works on the outcome of an earlier one,
or on the input of an earlier one that is delivered again because the process
died before the checkpoint.

The executor's memory does not outlive an invocation, and the update leaves
the hypotheses and the intents alone. So every invocation of a history
executes the same list forward, each time from an empty seen-set.
-/

namespace AlphE.Coordinator

/-- One invocation: its surroundings and the state it is given. -/
structure Invocation where
  env : CoordinatorEnv
  input : IncidentState

namespace Invocation

variable (verify : ActionIntent → Except String Unit)

def result (inv : Invocation) : CoordinatorResult :=
  coordinatorNode inv.env verify inv.input

/-- The state after the invocation. -/
def output (inv : Invocation) : IncidentState :=
  inv.input.merge (inv.result verify).update.toStateUpdate

end Invocation

/-- The histories of an incident that starts in state `s₀`. -/
inductive History (verify : ActionIntent → Except String Unit) (s₀ : IncidentState) :
    List Invocation → Prop
  | nil : History verify s₀ []
  | deliver {invs : List Invocation} (h : History verify s₀ invs) (env : CoordinatorEnv) :
      History verify s₀ (invs ++ [⟨env, s₀⟩])
  | redeliver {invs : List Invocation} (h : History verify s₀ invs) {inv : Invocation}
      (hmem : inv ∈ invs) (env : CoordinatorEnv) :
      History verify s₀ (invs ++ [⟨env, inv.input⟩])
  | continue {invs : List Invocation} (h : History verify s₀ invs) {inv : Invocation}
      (hmem : inv ∈ invs) (env : CoordinatorEnv) :
      History verify s₀ (invs ++ [⟨env, inv.output verify⟩])

/-- The forward executions of a history, in order. -/
def forwardTrace (verify : ActionIntent → Except String Unit) (invs : List Invocation) :
    List (ActionIntent × String) :=
  invs.flatMap fun inv => (inv.result verify).forward

/-- Each hash is executed at most once: whatever comes later under the same
hash is skipped. -/
def AtMostOnce (trace : List (ActionIntent × String)) : Prop :=
  trace.Pairwise fun p q => p.1.hash = q.1.hash → q.2 = "skipped_idempotent"

section Histories

variable {verify : ActionIntent → Except String Unit} {s₀ : IncidentState}
  {invs : List Invocation}

/-- Every invocation of a history sees the hypotheses and the intents the
incident started with. -/
theorem History.input_eq (h : History verify s₀ invs) :
    ∀ inv ∈ invs, inv.input.hypotheses = s₀.hypotheses ∧
      inv.input.actionIntents = s₀.actionIntents := by
  induction h with
  | nil => simp
  | deliver h env ih =>
      intro inv hmem
      rcases List.mem_append.mp hmem with hmem | hmem
      · exact ih inv hmem
      · rw [List.mem_singleton] at hmem
        exact hmem ▸ ⟨rfl, rfl⟩
  | redeliver h hprev env ih =>
      intro inv hmem
      rcases List.mem_append.mp hmem with hmem | hmem
      · exact ih inv hmem
      · rw [List.mem_singleton] at hmem
        have hsame := ih _ hprev
        rw [hmem]
        exact hsame
  | «continue» h hprev env ih =>
      intro inv hmem
      rcases List.mem_append.mp hmem with hmem | hmem
      · exact ih inv hmem
      · rw [List.mem_singleton] at hmem
        have hsame := ih _ hprev
        rw [hmem]
        exact hsame

/-- What every invocation of a history executes. -/
def forwardOf (verify : ActionIntent → Except String Unit) (s₀ : IncidentState) :
    List (ActionIntent × String) :=
  if AllVerified verify s₀.actionIntents ∧ HasConfirmed s₀ then
    forwardOutcomes ∅ s₀.actionIntents
  else []

theorem History.forward_eq (h : History verify s₀ invs) :
    ∀ inv ∈ invs, (inv.result verify).forward = forwardOf verify s₀ := by
  intro inv hmem
  obtain ⟨hhyps, hintents⟩ := h.input_eq inv hmem
  rw [Invocation.result, coordinatorNode_forward, forwardOf, hintents]
  simp only [hasConfirmed_congr hhyps]

/-- The trace of a history repeats one list. -/
theorem History.forwardTrace_eq (h : History verify s₀ invs) :
    forwardTrace verify invs =
      (List.replicate invs.length (forwardOf verify s₀)).flatten := by
  rw [forwardTrace, List.flatMap_def, List.map_congr_left h.forward_eq, List.map_const']

end Histories

/-! ### Once per hash -/

theorem atMostOnce_forwardOutcomes (seen : Finset String) (intents : List ActionIntent) :
    AtMostOnce (forwardOutcomes seen intents) := by
  rw [AtMostOnce, forwardOutcomes, List.pairwise_map]
  apply (SeenSet.pairwise_scan ActionIntent.hash seen intents).imp
  intro p q hpq hkey
  show outcomeLabel q.2 = outcomeLabel false
  rw [hpq hkey]

theorem atMostOnce_forwardOf (verify : ActionIntent → Except String Unit)
    (s₀ : IncidentState) : AtMostOnce (forwardOf verify s₀) := by
  rw [forwardOf]
  split
  · exact atMostOnce_forwardOutcomes ∅ _
  · exact List.Pairwise.nil

/-- A list that executes something cannot be run twice. -/
theorem not_atMostOnce_append_self {intent : ActionIntent}
    {rest before after : List (ActionIntent × String)}
    (hsuccess : before = (intent, "dry_run_success") :: rest) :
    ¬ AtMostOnce (before ++ (before ++ after)) := by
  intro h
  rw [AtMostOnce, List.pairwise_append] at h
  have hmem : (intent, "dry_run_success") ∈ before := by
    rw [hsuccess]
    exact List.mem_cons_self
  have hskipped := h.2.2 _ hmem _ (List.mem_append_left after hmem) rfl
  exact absurd hskipped
    (show ("dry_run_success" : String) ≠ "skipped_idempotent" by decide)

/-- Something is executed exactly when the intents are verified and the
preflight comes out `ok`; the first of the list is then executed for real. -/
theorem forwardOf_cases (verify : ActionIntent → Except String Unit)
    (s₀ : IncidentState) :
    (AllVerified verify s₀.actionIntents ∧
      (checkPreflight s₀ s₀.actionIntents).outcome = .ok ∧
      ∃ intent rest, forwardOf verify s₀ = (intent, "dry_run_success") :: rest) ∨
    (¬ (AllVerified verify s₀.actionIntents ∧
        (checkPreflight s₀ s₀.actionIntents).outcome = .ok) ∧
      forwardOf verify s₀ = []) := by
  rw [checkPreflight_ok_iff, forwardOf]
  by_cases h : AllVerified verify s₀.actionIntents ∧ HasConfirmed s₀
  · rw [if_pos h]
    cases hintents : s₀.actionIntents with
    | nil =>
        right
        exact ⟨fun hne => hne.2.1 rfl, rfl⟩
    | cons intent intents =>
        left
        refine ⟨hintents ▸ h.1, ⟨List.cons_ne_nil _ _, h.2⟩, intent,
          forwardOutcomes (insert intent.hash ∅) intents, ?_⟩
        rw [forwardOutcomes_cons]
        rfl
  · rw [if_neg h]
    right
    exact ⟨fun hboth => h ⟨hboth.1, hboth.2.2⟩, rfl⟩

/-- **When a hash is an idempotency key.** Over a history each hash is executed
at most once exactly when there is at most one invocation, or nothing is ever
executed. -/
theorem history_atMostOnce_iff (verify : ActionIntent → Except String Unit)
    (s₀ : IncidentState) (invs : List Invocation) (h : History verify s₀ invs) :
    AtMostOnce (forwardTrace verify invs) ↔
      invs.length ≤ 1 ∨
      ¬ (AllVerified verify s₀.actionIntents ∧
        (checkPreflight s₀ s₀.actionIntents).outcome = .ok) := by
  rw [h.forwardTrace_eq]
  rcases forwardOf_cases verify s₀ with ⟨hall, hok, intent, rest, hfwd⟩ | ⟨hnot, hfwd⟩
  · have hlicensed : AllVerified verify s₀.actionIntents ∧
        (checkPreflight s₀ s₀.actionIntents).outcome = .ok := ⟨hall, hok⟩
    simp only [hlicensed, not_true_eq_false, or_false, and_self]
    match hlen : invs.length with
    | 0 => simp [AtMostOnce]
    | 1 => simpa using atMostOnce_forwardOf verify s₀
    | n + 2 =>
        -- The list that is repeated starts with an execution.
        rw [List.replicate_succ, List.replicate_succ, List.flatten_cons, List.flatten_cons]
        constructor
        · intro honce
          exact absurd honce (not_atMostOnce_append_self hfwd)
        · intro hle
          omega
  · rw [hfwd]
    simp only [hnot, not_false_eq_true, or_true, iff_true]
    have hempty : (List.replicate invs.length
        ([] : List (ActionIntent × String))).flatten = [] := by
      rw [List.flatten_eq_nil_iff]
      intro l hl
      exact List.eq_of_mem_replicate hl
    rw [hempty]
    exact List.Pairwise.nil

/-! ### A retry

The Coordinator runs on a signed intent, dies before the checkpoint, and is
given the same state again. -/

open Security

def testPlanned : IncidentState := testState [testHypothesis .confirmed] [testSigned]

def testRetry : List Invocation := [⟨testEnv, testPlanned⟩, ⟨testEnv, testPlanned⟩]

theorem history_testRetry : History testCheck testPlanned testRetry :=
  .deliver (.deliver .nil testEnv) testEnv

theorem history_atMostOnce_iff_testRetry :
    AtMostOnce (forwardTrace testCheck testRetry) ↔
      testRetry.length ≤ 1 ∨
      ¬ (AllVerified testCheck testPlanned.actionIntents ∧
        (checkPreflight testPlanned testPlanned.actionIntents).outcome = .ok) :=
  history_atMostOnce_iff testCheck testPlanned testRetry history_testRetry

theorem forwardOf_testPlanned :
    forwardOf testCheck testPlanned = [(testSigned, "dry_run_success")] := by
  have hverified : AllVerified testCheck testPlanned.actionIntents :=
    allVerified_singleton.mpr testCheck_testSigned
  have hconf : HasConfirmed testPlanned :=
    ⟨testHypothesis .confirmed, by simp [testPlanned, testState], rfl⟩
  rw [forwardOf, if_pos ⟨hverified, hconf⟩]
  exact forwardOutcomes_cons ∅ testSigned []

/-- The signed intent is executed a second time. -/
theorem not_history_atMostOnce :
    ¬ ∀ (verify : ActionIntent → Except String Unit) (s₀ : IncidentState)
      (invs : List Invocation), History verify s₀ invs →
        AtMostOnce (forwardTrace verify invs) := by
  intro h
  have honce := h testCheck testPlanned testRetry history_testRetry
  rw [history_testRetry.forwardTrace_eq] at honce
  exact not_atMostOnce_append_self forwardOf_testPlanned honce

end AlphE.Coordinator
