import AlphE.Orchestrator.Fallible
import AlphE.Orchestrator.Verdict
import AlphE.Llm.Structured

/-!
Runs whose LLM is at the other end of a wire: every answer is what `complete_typed` makes
of tool inputs that are JSON. The nodes take an answer as their types have it, and the
graph goes on with it; this puts the two together. Nothing is assumed of what the LLM says,
of the conversations or of the errors of the client.
-/

namespace AlphE.Orchestrator

open Nodes Coordinator Llm Workflow

/-- `max_retries` of the calls in the Investigator and the Planner. -/
def completeRetries : ℕ := 1

/-- The calls of the LLM, each by the node that makes it and the number of its calls
before: what the client raises, what the completion meets, and the conversation it starts
with. -/
structure LLM where
  apiError : Node → ℕ → Option String
  completion : Node → ℕ → CompletionEnv
  messages : Node → ℕ → List Llm.Turn
  spell : CompletionError → String

namespace LLM

variable (L : LLM)

/-- What a call of `complete_typed` returns or raises. -/
def ask (M : OutputModel) (v : Node) (n : ℕ) : Except String M.Answer :=
  match L.apiError v n with
  | some exc => .error exc
  | none =>
      (completeTyped (L.completion v n) M.toolName M.validator (L.messages v n)
        completeRetries).result.mapError L.spell

/-- Tool inputs are read from JSON text. -/
def SpeaksJson : Prop :=
  ∀ v n k turns name input,
    .toolUse name input ∈ (L.completion v n).complete k turns → input.OfJson

def raised {α : Type} : Except String α → Option String
  | .ok _ => none
  | .error exc => some exc

/-- The world with this LLM in it. -/
def fallible {κ ν : Type} (W : World κ ν) : Fallible κ ν :=
  { W with
    investigatorAnswer := fun n =>
      match L.ask .investigator .investigator n with
      | .ok a => a
      | .error _ => W.investigatorAnswer n
    plannerAnswer := fun n =>
      match L.ask .planner .planner n with
      | .ok a => a
      | .error _ => W.plannerAnswer n
    raises := fun v n =>
      match v with
      | .investigator => raised (L.ask .investigator .investigator n)
      | .planner => raised (L.ask .planner .planner n)
      | _ => none }

variable {L}

/-- Whatever the LLM says, what comes back has no hypotheses. -/
theorem hypotheses_of_ask (hjson : L.SpeaksJson) {v : Node} {n : ℕ} {a : InvestigatorOutput}
    (h : L.ask .investigator v n = .ok a) : a.hypotheses = [] := by
  rw [ask] at h
  cases hclient : L.apiError v n with
  | some exc =>
      rw [hclient] at h
      cases h
  | none =>
      rw [hclient] at h
      cases hresult : (completeTyped (L.completion v n) OutputModel.investigator.toolName
          OutputModel.investigator.validator (L.messages v n) completeRetries).result with
      | error err =>
          simp only [hresult] at h
          cases h
      | ok b =>
          simp only [hresult] at h
          obtain rfl : b = a := Except.ok.inj h
          obtain ⟨k, turns, raw, hraw, hvalid⟩ := exists_raw_of_attempts hresult
          exact hypotheses_of_json (hjson v n k turns _ raw (mem_of_extractToolInput hraw)) hvalid

theorem raises_eq_some_iff {κ ν : Type} (W : World κ ν) (n : ℕ) (exc : String) :
    (L.fallible W).raises .investigator n = some exc ↔
      L.ask .investigator .investigator n = .error exc := by
  show raised (L.ask .investigator .investigator n) = some exc ↔ _
  cases L.ask .investigator .investigator n <;> simp [raised]

theorem answer_of_raises {κ ν : Type} (W : World κ ν) {n : ℕ}
    (h : (L.fallible W).raises .investigator n = none) :
    L.ask .investigator .investigator n =
      .ok ((L.fallible W).investigatorAnswer n) := by
  change raised (L.ask .investigator .investigator n) = none at h
  cases hask : L.ask .investigator .investigator n with
  | error exc =>
      rw [hask] at h
      cases h
  | ok a => simp only [fallible, hask]

end LLM

/-! ### An incident that nobody knows anything about -/

/-- There is no hypothesis, no finding and no intent. -/
structure Barren (s : IncidentState) : Prop where
  hypotheses_eq : s.hypotheses = []
  findings_eq : s.findings = []
  intents_eq : s.actionIntents = []

section Barren

variable {κ ν : Type} {W : World κ ν} {s : IncidentState} (h : Barren s) (before : List Node)

include h

/-- An answer without hypotheses adds none. -/
theorem Barren.tick (hlt : s.investigationAttempts < maxAttempts)
    (hanswer : (W.answerAt before).hypotheses = []) : Barren (W.tick before s) where
  hypotheses_eq := by
    rw [World.tick, investigatorNode_hypotheses _ _ _ _ hlt, h.hypotheses_eq, hanswer]
    rfl
  findings_eq := by
    rw [← h.findings_eq, World.tick, investigatorNode]
    split <;> rfl
  intents_eq := by
    rw [World.tick, investigatorNode_actionIntents, h.intents_eq]

/-- Without a hypothesis the collectors are not asked anything. -/
theorem Barren.collect : Barren (W.collect before s) := by
  have hfocus : focusHypothesis s = none := by
    rw [focusHypothesis, h.hypotheses_eq]
    rfl
  refine ⟨?_, ?_, ?_⟩
  · rw [World.collect, collectorsNode_hypotheses, h.hypotheses_eq]
  · rw [World.collect, collectorsNode, hfocus]
    exact h.findings_eq
  · rw [World.collect, collectorsNode_actionIntents, h.intents_eq]

/-- The Coordinator takes the incident for gone. -/
theorem Barren.coordinate :
    Barren (s.merge (W.coordinate before s).update.toStateUpdate) ∧
      (s.merge (W.coordinate before s).update.toStateUpdate).phase = .resolved := by
  refine ⟨⟨h.hypotheses_eq, h.findings_eq, h.intents_eq⟩, ?_⟩
  have hend := coordinatorNode_of_no_intents (W.coordinatorEnv before) W.verify h.intents_eq
  rw [if_pos h.hypotheses_eq] at hend
  exact hend

end Barren

/-! ### The run -/

section Runs

variable {κ ν : Type} (F : Fallible κ ν)

/-- The rest of a run after `k` rounds. It stops at the first call that raises, and with
none it ends with the incident resolved. -/
structure Fruitless (k : ℕ) (c : Config Node IncidentState)
    (r : Workflow.Run Node IncidentState String) : Prop where
  barren : ∀ p ∈ r.commits, Barren p.2.state
  stops : (∃ j exc, j < maxInvestigationAttempts ∧
      (∀ i, k ≤ i → i < j → F.raises .investigator i = none) ∧
      F.raises .investigator j = some exc ∧ r.outcome = .raised exc ∧
      afterRounds k ++ r.visited = afterRounds j) ∨
    ((∀ i, k ≤ i → i < maxInvestigationAttempts → F.raises .investigator i = none) ∧
      r.outcome = .done ∧
      afterRounds k ++ r.visited = beforePlanner (maxInvestigationAttempts - 1) ++ [.coordinator] ∧
      (r.final c).state.phase = .resolved)

variable {F}

/-- The induction is on the ticks left. -/
theorem fruitless_run
    (hmute : ∀ n, F.raises .investigator n = none → (F.investigatorAnswer n).hypotheses = [])
    (ticksLeft limit k : ℕ) (s : IncidentState) (h : Barren s)
    (hattempts : s.investigationAttempts = k) (hk : k < maxInvestigationAttempts)
    (hleft : maxInvestigationAttempts - k = ticksLeft) (hlimit : 2 * ticksLeft ≤ limit) :
    Fruitless F k ⟨s, some .investigator⟩
      (F.run limit (afterRounds k) ⟨s, some .investigator⟩) := by
  induction ticksLeft generalizing limit k s with
  | zero => omega
  | succ ticksLeft ih =>
      obtain ⟨limit, rfl⟩ : ∃ l, limit = l + 2 := ⟨limit - 2, by omega⟩
      have hcount : (afterRounds k).count .investigator = k := (count_afterRounds k).1
      have hlt : s.investigationAttempts < maxAttempts := hattempts ▸ hk
      cases hcall : F.raises .investigator k with
      | some exc =>
          rw [F.run_of_raises (v := .investigator) hlt (by rw [hcount, hcall])]
          refine ⟨?_, .inl ⟨k, exc, hk, ?_, hcall, rfl, ?_⟩⟩
          · intro p hp
            cases hp
          · intro i hki hik
            omega
          · exact List.append_nil _
      | none =>
          have hanswer : (F.answerAt (afterRounds k)).hypotheses = [] := by
            rw [World.answerAt, hcount]
            exact hmute k hcall
          have htick := h.tick (afterRounds k) hlt hanswer
          have hticked : (F.tick (afterRounds k) s).investigationAttempts = k + 1 := by
            have hbelow : ¬ maxInvestigationAttempts ≤ s.investigationAttempts := by omega
            rw [F.tick_attempts, if_neg hbelow, hattempts]
          rw [F.run_tick _ _ _ (by rw [hcount, hcall])]
          by_cases hlast : maxInvestigationAttempts ≤ k + 1
          · -- The last attempt.
            obtain rfl : k = maxInvestigationAttempts - 1 := by omega
            rw [routeAfterInvestigator, if_pos (by rwa [hticked]), F.run_coordinate]
            obtain ⟨hbarren, hphase⟩ := htick.coordinate (W := F.toWorld)
              (afterRounds (maxInvestigationAttempts - 1) ++ [.investigator])
            refine ⟨?_, .inr ⟨?_, rfl, ?_, hphase⟩⟩
            · intro p hp
              simp only [Run.commits_cons, List.mem_cons, List.not_mem_nil, or_false] at hp
              obtain rfl | rfl := hp
              · exact htick
              · exact hbarren
            · intro i hki hi
              obtain rfl : i = maxInvestigationAttempts - 1 := by omega
              exact hcall
            · rfl
          · -- Nothing is confirmed, and nobody is asked before the next round.
            have hnone : ¬ HasConfirmed (F.tick (afterRounds k) s) := by
              rintro ⟨hyp, hmem, -⟩
              rw [htick.hypotheses_eq] at hmem
              cases hmem
            have hcollect := htick.collect (W := F.toWorld) (afterRounds k ++ [.investigator])
            have hrounds : afterRounds k ++ [.investigator] ++ [.collectors] =
                afterRounds (k + 1) := List.append_assoc _ _ _
            rw [routeAfterInvestigator, if_neg (by rwa [hticked]), if_neg hnone, F.run_collect,
              hrounds]
            obtain ⟨hbarren, hstops⟩ := ih limit (k + 1) _ hcollect
              (by rw [F.collect_attempts, hticked]) (by omega) (by omega) (by omega)
            have hround : ∀ vs, afterRounds k ++ .investigator :: .collectors :: vs =
                afterRounds (k + 1) ++ vs := by
              intro vs
              rw [afterRounds, List.append_assoc]
              rfl
            have hanswered : ∀ i, k ≤ i → (k + 1 ≤ i → F.raises .investigator i = none) →
                F.raises .investigator i = none := by
              intro i hki hlater
              obtain rfl | hgt := Nat.eq_or_lt_of_le hki
              · exact hcall
              · exact hlater hgt
            refine ⟨?_, ?_⟩
            · intro p hp
              simp only [Run.commits_cons, List.mem_cons] at hp
              obtain rfl | rfl | hp := hp
              · exact htick
              · exact hcollect
              · exact hbarren p hp
            · rw [Run.visited_cons, Run.visited_cons, hround, Run.final_cons, Run.final_cons,
                Run.outcome_cons, Run.outcome_cons]
              obtain ⟨j, exc, hj, hbefore, hraises, hout⟩ | ⟨hall, hdone⟩ := hstops
              · left
                exact ⟨j, exc, hj, fun i hki hij => hanswered i hki fun hi => hbefore i hi hij,
                  hraises, hout⟩
              · right
                exact ⟨fun i hki hi => hanswered i hki fun hlater => hall i hlater hi, hdone⟩

end Runs

/-- **What an LLM can do for an incident.** In a run from the seed of an alert, with an LLM
that speaks JSON, nobody ever knows anything: there is no hypothesis, no finding and no
intent in any state. The run stops where the first call of the Investigator raises; if five
calls are answered, it ends with the incident resolved. -/
theorem seedRun_overWire {κ ν : Type} (L : LLM) (hjson : L.SpeaksJson) (W : World κ ν)
    (env : Intake.IntakeEnv) (alert : Intake.AlertmanagerAlert) (receiver : String) :
    let start := entry (Intake.seedIncident env alert receiver)
    let r := (L.fallible W).run recursionLimit [] start
    (∀ c ∈ r.journal start, Barren c.state) ∧
    ((∃ k exc, k < maxInvestigationAttempts ∧
        (∀ i < k, ∃ a, L.ask .investigator .investigator i = .ok a) ∧
        L.ask .investigator .investigator k = .error exc ∧
        r.outcome = .raised exc ∧ r.visited = afterRounds k) ∨
      ((∀ i < maxInvestigationAttempts, ∃ a, L.ask .investigator .investigator i = .ok a) ∧
        r.outcome = .done ∧
        r.visited = beforePlanner (maxInvestigationAttempts - 1) ++ [.coordinator] ∧
        (r.final start).state.phase = .resolved)) := by
  intro start r
  have hmute : ∀ n, (L.fallible W).raises .investigator n = none →
      ((L.fallible W).investigatorAnswer n).hypotheses = [] := fun n h =>
    LLM.hypotheses_of_ask hjson (LLM.answer_of_raises W h)
  have hanswered : ∀ i, (L.fallible W).raises .investigator i = none →
      ∃ a, L.ask .investigator .investigator i = .ok a := fun i h =>
    ⟨_, LLM.answer_of_raises W h⟩
  have hseed : Barren (Intake.seedIncident env alert receiver) := ⟨rfl, rfl, rfl⟩
  have haccept : Barren ((L.fallible W).accept [] (Intake.seedIncident env alert receiver)) :=
    ⟨rfl, rfl, rfl⟩
  obtain ⟨hbarren, hstops⟩ := fruitless_run hmute 5 24 0 _ haccept rfl (by decide) rfl
    (by decide)
  have hrun : r = _ := (L.fallible W).run_intake 24 [] (Intake.seedIncident env alert receiver)
  rw [hrun]
  refine ⟨?_, ?_⟩
  · intro c hc
    rw [Run.journal, Run.commits_cons, List.mem_cons, List.map_cons, List.mem_cons,
      List.mem_map] at hc
    obtain rfl | rfl | ⟨p, hp, rfl⟩ := hc
    · exact hseed
    · exact haccept
    · exact hbarren p hp
  · rw [Run.outcome_cons, Run.visited_cons, Run.final_cons]
    obtain ⟨k, exc, hk, hbefore, hraises, hout, hvisited⟩ | ⟨hall, hdone, hvisited, hphase⟩ :=
      hstops
    · left
      exact ⟨k, exc, hk, fun i hi => hanswered i (hbefore i (Nat.zero_le i) hi),
        (LLM.raises_eq_some_iff W k exc).mp hraises, hout, hvisited⟩
    · right
      exact ⟨fun i hi => hanswered i (hall i (Nat.zero_le i) hi), hdone, hvisited, hphase⟩

/-! ### A hypothesis that is not heard -/

/-- The LLM suspects a leak, and says so in JSON. -/
def testLLM : LLM where
  apiError _ _ := none
  completion _ _ :=
    OutputModel.constantEnv "investigatoroutput"
      (OutputModel.jsonForm (fun _ => "2026-04-21T14:00:00Z") .investigator
        OutputModel.testAnswer)
  messages _ _ := [.user "start"]
  spell _ := "structured output failed validation"

theorem speaksJson_testLLM : testLLM.SpeaksJson := by
  intro v n k turns name input hmem
  cases List.mem_singleton.mp hmem
  exact ofJson_dumpInvestigatorOutput _ _

/-- Nobody gets to know of the leak. -/
theorem seedRun_overWire_testLLM :
    let start := entry (Intake.seedIncident testIntake testAlert "default")
    ∀ c ∈ ((testLLM.fallible silentWorld).run recursionLimit [] start).journal start,
      Barren c.state :=
  (seedRun_overWire testLLM speaksJson_testLLM silentWorld testIntake testAlert "default").1

end AlphE.Orchestrator
