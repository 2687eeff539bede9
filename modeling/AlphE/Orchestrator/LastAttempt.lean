import AlphE.Orchestrator.Fallible

/-!
Whether a confirmed diagnosis is acted on. The Investigator counts an attempt before
the router compares the counter with the same cap, so the router never looks at what
the last answer confirms: the attempt is allowed, and its result goes to the
Coordinator without a plan.
-/

namespace AlphE.Orchestrator

open Nodes Coordinator

/-- After an Investigator tick that called the LLM and leaves a confirmed hypothesis,
the Planner is next. -/
def ActsOn (c : Config Node IncidentState) (v : Node) (c' : Config Node IncidentState) : Prop :=
  v = .investigator → AsksLLM .investigator c.state → HasConfirmed c'.state →
    c'.next = some .planner

/-- So does every tick of a journal. -/
def ActsOnConfirmed (c : Config Node IncidentState)
    (commits : List (Node × Config Node IncidentState)) : Prop :=
  Workflow.Chain ActsOn c commits

section Runs

variable {κ ν : Type} (F : Fallible κ ν)

/-- Of the calls from the one numbered `n` on, which all are answered, it takes the
last one to leave a confirmed hypothesis. -/
structure LateFrom (start : List Hypothesis) (attempts n : ℕ) : Prop where
  answered : ∀ k, n ≤ k → k < attempts → F.raises .investigator k = none
  unconfirmed : ∀ k, n < k → k < attempts → ¬ F.ConfirmsFrom start k
  confirmed : F.ConfirmsFrom start attempts

/-! ### After the loop -/

section Journal

variable {F}

theorem actsOnConfirmed_cons {c c' : Config Node IncidentState} {v : Node}
    {r : Workflow.Run Node IncidentState String} :
    ActsOnConfirmed c (r.cons v c').commits ↔ ActsOn c v c' ∧ ActsOnConfirmed c' r.commits :=
  Iff.rfl

theorem actsOn_of_ne {c c' : Config Node IncidentState} {v : Node} (hv : v ≠ .investigator) :
    ActsOn c v c' :=
  fun heq => absurd heq hv

/-- The Coordinator is the last one. -/
theorem actsOnConfirmed_coordinate (limit : ℕ) (before : List Node) (s : IncidentState) :
    ActsOnConfirmed ⟨s, some .coordinator⟩
      (F.run limit before ⟨s, some .coordinator⟩).commits := by
  cases limit with
  | zero => trivial
  | succ limit =>
      rw [F.run_coordinate]
      exact ⟨actsOn_of_ne (by simp), trivial⟩

/-- The Planner leads to the Coordinator, or its call raises. -/
theorem actsOnConfirmed_plan (limit : ℕ) (before : List Node) (s : IncidentState) :
    ActsOnConfirmed ⟨s, some .planner⟩ (F.run limit before ⟨s, some .planner⟩).commits := by
  cases limit with
  | zero => trivial
  | succ limit =>
      cases hraises : F.raises .planner (before.count .planner) with
      | some exc =>
          rw [F.run_of_raises (v := .planner) trivial hraises]
          trivial
      | none =>
          rw [F.run_plan _ _ _ hraises, actsOnConfirmed_cons]
          exact ⟨actsOn_of_ne (by simp), actsOnConfirmed_coordinate limit _ _⟩

end Journal

/-! ### The loop -/

/-- Where a run is between two rounds, when it started with `start` and had so many
`attempts` left. -/
structure Underway (start : List Hypothesis) (attempts : ℕ) (before : List Node)
    (s : IncidentState) : Prop where
  attempts_lt : s.investigationAttempts < maxInvestigationAttempts
  ticks_eq : before.count .investigator + maxInvestigationAttempts =
    s.investigationAttempts + attempts
  hypotheses_eq : s.hypotheses = F.hypothesesFrom start (before.count .investigator)

section Rounds

variable {F} {start : List Hypothesis} {attempts : ℕ} {before : List Node} {s : IncidentState}

theorem Underway.attempts_tick (h : Underway F start attempts before s) :
    (F.tick before s).investigationAttempts = s.investigationAttempts + 1 := by
  rw [F.tick_attempts, if_neg (Nat.not_le.mpr h.attempts_lt)]

theorem Underway.hypotheses_tick (h : Underway F start attempts before s) :
    (F.tick before s).hypotheses =
      F.hypothesesFrom start (before.count .investigator + 1) := by
  rw [World.tick, investigatorNode_hypotheses _ _ _ _ h.attempts_lt, h.hypotheses_eq,
    World.answerAt]
  rfl

theorem Underway.hasConfirmed_tick_iff (h : Underway F start attempts before s) :
    HasConfirmed (F.tick before s) ↔
      F.ConfirmsFrom start (before.count .investigator + 1) := by
  rw [HasConfirmed, World.ConfirmsFrom, h.hypotheses_tick]

/-- A round below the cap keeps it. -/
theorem Underway.round (h : Underway F start attempts before s)
    (hlt : (F.tick before s).investigationAttempts < maxInvestigationAttempts) :
    Underway F start attempts (before ++ [.investigator] ++ [.collectors])
      (F.collect (before ++ [.investigator]) (F.tick before s)) := by
  have hcount : (before ++ [Node.investigator] ++ [Node.collectors]).count .investigator =
      before.count .investigator + 1 := by
    simp
  refine ⟨?_, ?_, ?_⟩
  · rwa [F.collect_attempts]
  · have hticks := h.ticks_eq
    rw [hcount, F.collect_attempts, h.attempts_tick]
    omega
  · rw [hcount, World.collect, collectorsNode_hypotheses]
    exact h.hypotheses_tick

theorem lateFrom_succ_iff {n : ℕ} (hanswers : F.raises .investigator n = none)
    (hnone : ¬ F.ConfirmsFrom start (n + 1)) :
    LateFrom F start attempts n ↔ LateFrom F start attempts (n + 1) := by
  constructor
  · intro h
    refine ⟨?_, ?_, h.confirmed⟩
    · intro k hle hk
      exact h.answered k (by omega) hk
    · intro k hlt hk
      exact h.unconfirmed k (by omega) hk
  · intro h
    refine ⟨?_, ?_, h.confirmed⟩
    · intro k hle hk
      rcases Nat.lt_or_eq_of_le hle with hlt | rfl
      · exact h.answered k hlt hk
      · exact hanswers
    · intro k hlt hk
      rcases Nat.lt_or_eq_of_le (Nat.succ_le_of_lt hlt) with hlt | rfl
      · exact h.unconfirmed k hlt hk
      · exact hnone

/-- With one answer left, that answer decides. -/
theorem lateFrom_last_iff {n : ℕ} (hanswers : F.raises .investigator n = none) :
    LateFrom F start (n + 1) n ↔ F.ConfirmsFrom start (n + 1) := by
  constructor
  · intro h
    exact h.confirmed
  · intro hconfirms
    refine ⟨?_, ?_, hconfirms⟩
    · intro k hle hk
      obtain rfl : k = n := by omega
      exact hanswers
    · intro k hgt hk
      omega

end Rounds

/-- The loop acts on what is confirmed, unless it takes the last answer to confirm
it. The induction is on the ticks left. -/
theorem actsOnConfirmed_loop_iff {start : List Hypothesis} {attempts : ℕ}
    (ticksLeft limit : ℕ) (before : List Node) (s : IncidentState)
    (h : Underway F start attempts before s)
    (hleft : maxInvestigationAttempts - s.investigationAttempts = ticksLeft)
    (hlimit : 2 * ticksLeft ≤ limit) :
    ActsOnConfirmed ⟨s, some .investigator⟩
        (F.run limit before ⟨s, some .investigator⟩).commits ↔
      ¬ LateFrom F start attempts (before.count .investigator) := by
  induction ticksLeft generalizing limit before s with
  | zero =>
      have hlt := h.attempts_lt
      omega
  | succ ticksLeft ih =>
      obtain ⟨limit, rfl⟩ : ∃ l, limit = l + 2 := ⟨limit - 2, by omega⟩
      have hlt := h.attempts_lt
      have hticks := h.ticks_eq
      have hleft' : before.count .investigator < attempts := by omega
      cases hcall : F.raises .investigator (before.count .investigator) with
      | some exc =>
          rw [F.run_of_raises (v := .investigator) hlt hcall]
          refine iff_of_true trivial ?_
          intro hlate
          rw [hlate.answered _ le_rfl hleft'] at hcall
          cases hcall
      | none =>
          have hattempts := h.attempts_tick
          have hconfirms := h.hasConfirmed_tick_iff
          rw [F.run_tick _ _ _ hcall, actsOnConfirmed_cons]
          by_cases hlast : maxInvestigationAttempts ≤ (F.tick before s).investigationAttempts
          · -- The last attempt: whatever it confirms, the Coordinator is next.
            obtain rfl : attempts = before.count .investigator + 1 := by omega
            rw [routeAfterInvestigator, if_pos hlast, lateFrom_last_iff hcall, ← hconfirms]
            constructor
            · rintro ⟨hacts, -⟩ hconf
              cases hacts rfl hlt hconf
            · intro hnone
              refine ⟨?_, actsOnConfirmed_coordinate _ _ _⟩
              intro _ _ hconf
              exact absurd hconf hnone
          · by_cases hconf : HasConfirmed (F.tick before s)
            · -- Confirmed in time.
              rw [routeAfterInvestigator, if_neg hlast, if_pos hconf]
              refine iff_of_true ⟨fun _ _ _ => rfl, actsOnConfirmed_plan _ _ _⟩ ?_
              intro hlate
              exact hlate.unconfirmed (before.count .investigator + 1) (by omega) (by omega)
                (hconfirms.mp hconf)
            · -- Another round, whose collectors leave the invariant alone.
              have hround := h.round (Nat.not_le.mp hlast)
              have hcount : (before ++ [Node.investigator] ++ [Node.collectors]).count
                  .investigator = before.count .investigator + 1 := by
                simp
              have hrest := ih limit _ _ hround
                (by rw [F.collect_attempts, hattempts]; omega) (by omega)
              rw [hcount] at hrest
              rw [routeAfterInvestigator, if_neg hlast, if_neg hconf, F.run_collect,
                actsOnConfirmed_cons, hrest,
                lateFrom_succ_iff hcall (fun hc => hconf (hconfirms.mpr hc))]
              refine ⟨fun hacts => hacts.2.2, fun hlate => ⟨?_, actsOn_of_ne (by simp), hlate⟩⟩
              intro _ _ hyes
              exact absurd hyes hconf

/-- A run from its entry point. -/
theorem actsOnConfirmed_entry_iff {seed : IncidentState}
    (h : seed.investigationAttempts < maxInvestigationAttempts) :
    ActsOnConfirmed (entry seed) (F.run recursionLimit [] (entry seed)).commits ↔
      ¬ LateFrom F seed.hypotheses (maxInvestigationAttempts - seed.investigationAttempts) 0 := by
  have hunderway : Underway F seed.hypotheses
      (maxInvestigationAttempts - seed.investigationAttempts) [.intake] (F.accept [] seed) := by
    refine ⟨h, ?_, rfl⟩
    show 0 + maxInvestigationAttempts = seed.investigationAttempts +
      (maxInvestigationAttempts - seed.investigationAttempts)
    omega
  have hleft : 2 * (maxInvestigationAttempts - seed.investigationAttempts) ≤ 24 := by
    have hcap : maxInvestigationAttempts = 5 := rfl
    omega
  have hloop := actsOnConfirmed_loop_iff F _ 24 _ _ hunderway rfl hleft
  rw [recursionLimit, entry, F.run_intake, actsOnConfirmed_cons]
  exact ⟨fun hacts => hloop.mp hacts.2,
    fun hlate => ⟨actsOn_of_ne (by simp), hloop.mpr hlate⟩⟩

end Runs

/-- **When a confirmed diagnosis is acted on.** In a run from a state below the cap,
unless its calls are all answered and it takes the answer to the last attempt to leave a
confirmed hypothesis. -/
theorem actsOnConfirmed_iff {κ ν : Type} (F : Fallible κ ν) {seed : IncidentState}
    (h : seed.investigationAttempts < 5) :
    ActsOnConfirmed (entry seed) (F.run recursionLimit [] (entry seed)).commits ↔
      ¬ ((∀ k < 5 - seed.investigationAttempts, F.raises .investigator k = none) ∧
        (∀ k < 5 - seed.investigationAttempts, 0 < k → ¬ F.ConfirmsFrom seed.hypotheses k) ∧
        F.ConfirmsFrom seed.hypotheses (5 - seed.investigationAttempts)) := by
  rw [actsOnConfirmed_entry_iff F h]
  apply not_congr
  constructor
  · intro hlate
    refine ⟨?_, ?_, hlate.confirmed⟩
    · intro k hk
      exact hlate.answered k (Nat.zero_le k) hk
    · intro k hk hpos
      exact hlate.unconfirmed k hpos hk
  · rintro ⟨hanswered, hunconfirmed, hconfirmed⟩
    refine ⟨?_, ?_, hconfirmed⟩
    · intro k _ hk
      exact hanswered k hk
    · intro k hpos hk
      exact hunconfirmed k hk hpos

/-! ### Confirmed by the fifth answer -/

/-- The LLM keeps a hypothesis open four times, and confirms it then. -/
def patientWorld : Fallible Unit Unit where
  toWorld :=
    { silentWorld with
      investigatorAnswer := fun k =>
        { hypotheses := [Coordinator.testHypothesis (if k < 4 then .«open» else .confirmed)]
          currentFocusHypothesisId := "hyp_1"
          reasoning := "The heap grows without bound." } }
  raises _ _ := none

def testFresh : IncidentState := Intake.seedIncident testIntake testAlert "default"

theorem actsOnConfirmed_iff_testFresh :
    ActsOnConfirmed (entry testFresh)
        (patientWorld.run recursionLimit [] (entry testFresh)).commits ↔
      ¬ ((∀ k < 5 - testFresh.investigationAttempts,
          patientWorld.raises .investigator k = none) ∧
        (∀ k < 5 - testFresh.investigationAttempts, 0 < k →
          ¬ patientWorld.ConfirmsFrom testFresh.hypotheses k) ∧
        patientWorld.ConfirmsFrom testFresh.hypotheses (5 - testFresh.investigationAttempts)) :=
  actsOnConfirmed_iff patientWorld (by decide)

theorem lateFrom_patientWorld : LateFrom patientWorld [] 5 0 := by
  have hopen : ∀ k < 5, 0 < k → ¬ patientWorld.ConfirmsFrom [] k := by decide
  refine ⟨fun _ _ _ => rfl, fun k hpos hk => hopen k hk hpos, by decide⟩

/-- The diagnosis goes to the Coordinator, which has no plan to carry out. -/
theorem not_actsOnConfirmed :
    ¬ ∀ (F : Fallible Unit Unit) (seed : IncidentState), seed.investigationAttempts < 5 →
      ActsOnConfirmed (entry seed) (F.run recursionLimit [] (entry seed)).commits := by
  intro h
  have hacts := h patientWorld testFresh (by decide)
  rw [actsOnConfirmed_entry_iff patientWorld (by decide)] at hacts
  exact hacts lateFrom_patientWorld

end AlphE.Orchestrator
