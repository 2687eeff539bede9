import AlphE.Llm.Requests
import AlphE.Orchestrator.Wire

/-!
What a run costs in calls of `messages.create` and in pauses of the client. Three bounds
multiply: the attempts of the investigation, the attempts of `complete_typed` and the tries
of the client; what the library below sends again is not counted. The Planner is no extra:
it is asked only while the Investigator has an attempt left, and nobody is asked after it.
-/

namespace AlphE.Orchestrator

open Nodes Coordinator Llm Workflow

/-- The output model of the call a node makes. -/
def outputModel : Node → OutputModel
  | .planner => .planner
  | .dev => .dev
  | .verifier => .verifier
  | .reviewer => .reviewer
  | _ => .investigator

/-- `messages.create` behind the nodes: its outcomes, by the node, the number of its calls
before and what the call has sent; and the conversation each call starts with. -/
structure Provider where
  settings : LLMSettings
  spelling : Spelling
  api : Node → ℕ → MessagesApi
  messages : Node → ℕ → List Llm.Message
  spell : CallError → String

namespace Provider

variable (P : Provider)

def caller (v : Node) (n : ℕ) : Caller (outputModel v).Answer where
  settings := P.settings
  spelling := P.spelling
  toolName := (outputModel v).toolName
  validate := (outputModel v).validator
  api := P.api v n

def call (v : Node) (n : ℕ) : Call (outputModel v).Answer :=
  (P.caller v n).call (P.messages v n) completeRetries

/-- The LLM as the nodes see it. -/
def llm : LLM where
  apiError v n :=
    match (P.call v n).result with
    | .error (.client exc) => some (P.spell (.client exc))
    | _ => none
  completion v n := responseEnv P.spelling ((P.caller v n).responseAt (P.messages v n))
  messages _ _ := []  -- the responses are what they are
  spell err := P.spell (.completion err)

/-- A node gets what its call returns or raises. -/
theorem ask_llm (v : Node) (n : ℕ) :
    P.llm.ask (outputModel v) v n = (P.call v n).result.mapError P.spell := by
  have hcompletion := completion_converse P.spelling (outputModel v).toolName
    (outputModel v).validator ((P.caller v n).responseAt (P.messages v n)) (P.messages v n) []
    completeRetries
  obtain ⟨exc, hexc⟩ | hreturned :=
    (P.caller v n).call_result_cases (P.messages v n) completeRetries
  · have hresult : (P.call v n).result = .error (.client exc) := hexc
    simp only [LLM.ask, llm, hresult]
    rfl
  · have hresult : (P.call v n).result = (completeTyped (P.llm.completion v n)
        (outputModel v).toolName (outputModel v).validator [] completeRetries).result.mapError
          CallError.completion :=
      hreturned.trans (congrArg (fun c => c.result.mapError CallError.completion) hcompletion)
    -- Its own errors are not errors of the client.
    have hnone : P.llm.apiError v n = none := by
      simp only [llm, hresult]
      cases (completeTyped _ (outputModel v).toolName (outputModel v).validator []
        completeRetries).result <;> rfl
    rw [LLM.ask, hnone, hresult]
    show (completeTyped (P.llm.completion v n) (outputModel v).toolName (outputModel v).validator
      [] completeRetries).result.mapError P.llm.spell = _
    cases (completeTyped (P.llm.completion v n) (outputModel v).toolName
      (outputModel v).validator [] completeRetries).result <;> rfl

/-! ### The traffic of a run -/

/-- What the call of a node sends, if it makes one. -/
def traffic (before : List Node) (v : Node) (s : IncidentState) : List Traffic :=
  if AsksLLM v s then [(P.call v (before.count v)).traffic] else []

variable {κ ν : Type} (W : World κ ν)

/-- The traffic of the calls of a run, in their order. -/
def wire (limit : ℕ) (before : List Node) (c : Config Node IncidentState) : List Traffic :=
  (graph (P.llm.fallible W).update).emitted P.traffic limit before c

def requestCount (limit : ℕ) (seed : IncidentState) : ℕ :=
  ((P.wire W limit [] (entry seed)).map fun t => t.requests.length).sum

def pauseTime (limit : ℕ) (seed : IncidentState) : ℚ :=
  ((P.wire W limit [] (entry seed)).map fun t => t.sleeps.sum).sum

/-- The calls a run can still make. -/
def callsLeft (c : Config Node IncidentState) : ℕ :=
  match c.next with
  | some .planner => 1
  | some .intake | some .investigator | some .collectors =>
      maxInvestigationAttempts - c.state.investigationAttempts
  | _ => 0

theorem length_traffic_le (before : List Node) (v : Node) (s : IncidentState) :
    (P.traffic before v s).length ≤ callsLeft ⟨s, some v⟩ := by
  unfold traffic
  split
  · next hasks =>
      cases v with
      | investigator => exact Nat.sub_pos_of_lt hasks
      | planner => exact le_rfl
      | _ => cases hasks
  · exact Nat.zero_le _

/-- What is left after the route of the Investigator. -/
theorem callsLeft_route (s : IncidentState) :
    callsLeft ⟨s, some (routeAfterInvestigator s)⟩ ≤
      maxInvestigationAttempts - s.investigationAttempts := by
  unfold routeAfterInvestigator
  split
  · exact Nat.zero_le _
  · next hbelow =>
      split
      · exact Nat.sub_pos_of_lt (Nat.lt_of_not_le hbelow)
      · exact le_rfl

/-- A call is taken off what is left. The last attempt leaves none for the Planner, and a
hypothesis confirmed before leaves the Planner's only. -/
theorem traffic_step {before : List Node} {v : Node} {s s' : IncidentState}
    (h : (graph (P.llm.fallible W).update).exec before v s = .ok s') :
    (P.traffic before v s).length + callsLeft ⟨s', route v s'⟩ ≤ callsLeft ⟨s, some v⟩ := by
  obtain ⟨u, hu, rfl⟩ := graph_exec_eq_ok h
  have hworld := (P.llm.fallible W).toWorld_update_of_ok hu
  cases v with
  | intake =>
      cases hworld
      exact (Nat.zero_add _).le
  | investigator =>
      cases hworld
      have hattempts := (P.llm.fallible W).tick_attempts before s
      refine Nat.le_trans (Nat.add_le_add_left (callsLeft_route _) _) ?_
      show _ + (maxInvestigationAttempts -
        ((P.llm.fallible W).tick before s).investigationAttempts) ≤
          maxInvestigationAttempts - s.investigationAttempts
      rw [hattempts, traffic]
      by_cases hcap : maxInvestigationAttempts ≤ s.investigationAttempts
      · have hnot : ¬ AsksLLM .investigator s := Nat.not_lt.mpr hcap
        rw [if_pos hcap, if_neg hnot]
        exact (Nat.zero_add _).le
      · have hasks : AsksLLM .investigator s := Nat.lt_of_not_le hcap
        rw [if_neg hcap, if_pos hasks, List.length_singleton]
        omega
  | collectors =>
      cases hworld
      show 0 + (maxInvestigationAttempts -
        ((P.llm.fallible W).collect before s).investigationAttempts) ≤ _
      rw [World.collect_attempts, Nat.zero_add]
      exact le_rfl
  | planner =>
      cases hworld
      exact le_rfl
  | dev => exact le_rfl
  | verifier => exact le_rfl
  | reviewer => exact le_rfl
  | coordinator => exact le_rfl

theorem length_wire_le (limit : ℕ) (before : List Node) (c : Config Node IncidentState) :
    (P.wire W limit before c).length ≤ callsLeft c :=
  length_emitted_le _ P.length_traffic_le (fun _ _ _ _ h => P.traffic_step W h) limit before c

/-! ### The most a run can cost -/

/-- What holds of every call holds of the traffic. -/
theorem forall_mem_wire {Q : Traffic → Prop} (h : ∀ v n, Q (P.call v n).traffic) (limit : ℕ)
    (before : List Node) (c : Config Node IncidentState) :
    ∀ t ∈ P.wire W limit before c, Q t := by
  refine forall_mem_emitted _ ?_ limit before c
  intro before v s t ht
  unfold traffic at ht
  split at ht
  · obtain rfl := List.mem_singleton.mp ht
    exact h v _
  · cases ht

/-- The sum of what the calls of a run cost. -/
theorem sum_wire_le {M : Type} [AddCommMonoid M] [PartialOrder M] [IsOrderedAddMonoid M]
    (cost : Traffic → M) {b : M} (hb : 0 ≤ b) (hcost : ∀ v n, cost (P.call v n).traffic ≤ b)
    (limit : ℕ) (seed : IncidentState) :
    ((P.wire W limit [] (entry seed)).map cost).sum ≤ maxInvestigationAttempts • b := by
  have hlength : (P.wire W limit [] (entry seed)).length ≤ maxInvestigationAttempts :=
    (P.length_wire_le W limit [] (entry seed)).trans (Nat.sub_le _ _)
  have hsum := List.sum_le_card_nsmul ((P.wire W limit [] (entry seed)).map cost) b
    (List.forall_mem_map.mpr (P.forall_mem_wire W hcost limit [] (entry seed)))
  rw [List.length_map] at hsum
  exact hsum.trans (nsmul_le_nsmul_left hb hlength)

theorem requestCount_le (limit : ℕ) (seed : IncidentState) :
    P.requestCount W limit seed ≤
      maxInvestigationAttempts * ((completeRetries + 1) * (P.settings.maxRetries + 1)) := by
  have hcost : ∀ v n, (P.call v n).traffic.requests.length ≤
      (completeRetries + 1) * (P.settings.maxRetries + 1) := fun v n =>
    (P.caller v n).length_requests_call_le (P.messages v n) completeRetries
  exact P.sum_wire_le W (fun t => t.requests.length) (Nat.zero_le _) hcost limit seed

theorem pauseTime_le (hinitial : 0 ≤ P.settings.initialBackoff)
    (hmax : 0 ≤ P.settings.maxBackoff) (limit : ℕ) (seed : IncidentState) :
    P.pauseTime W limit seed ≤
      maxInvestigationAttempts • (completeRetries + 1) • P.settings.longestPause := by
  have hcost : ∀ v n, (P.call v n).traffic.sleeps.sum ≤
      (completeRetries + 1) • P.settings.longestPause := fun v n =>
    (P.caller v n).sum_sleeps_call_le hinitial hmax (P.messages v n) completeRetries
  have hpause : 0 ≤ P.settings.longestPause := LLMSettings.longestPause_nonneg hinitial hmax
  exact P.sum_wire_le W (fun t => t.sleeps.sum) (nsmul_nonneg hpause _) hcost limit seed

/-! ### A run that costs that much -/

theorem wire_of_answers {limit : ℕ} {before : List Node} {v : Node} {s : IncidentState}
    {u : StateUpdate} (h : AsksLLM v s → (P.llm.fallible W).raises v (before.count v) = none)
    (hu : (P.llm.fallible W).toWorld.update before v s = .ok u) :
    P.wire W (limit + 1) before ⟨s, some v⟩ =
      P.traffic before v s ++ P.wire W limit (before ++ [v]) ⟨s.merge u, route v (s.merge u)⟩ := by
  have hexec : (graph (P.llm.fallible W).update).exec before v s = .ok (s.merge u) := by
    show ((P.llm.fallible W).update before v s).map s.merge = .ok (s.merge u)
    rw [(P.llm.fallible W).update_of_answers h, hu]
    rfl
  exact emitted_of_ok _ hexec

/-- Nobody is asked from the Coordinator on. -/
theorem wire_coordinate (limit : ℕ) (before : List Node) (s : IncidentState) :
    P.wire W limit before ⟨s, some .coordinator⟩ = [] :=
  List.eq_nil_of_length_eq_zero (Nat.le_zero.mp (P.length_wire_le W limit before _))

/-- The collectors ask nobody either. -/
theorem wire_collect (limit : ℕ) (before : List Node) (s : IncidentState) :
    P.wire W (limit + 1) before ⟨s, some .collectors⟩ =
      P.wire W limit (before ++ [.collectors])
        ⟨(P.llm.fallible W).collect before s, some .investigator⟩ :=
  P.wire_of_answers W (v := .collectors) (fun hasks => hasks.elim) rfl

section Mute

variable {P W} (hmute : ∀ n, (P.llm.fallible W).raises .investigator n = none ∧
  ((P.llm.fallible W).investigatorAnswer n).hypotheses = [])

include hmute

/-- A tick that asks is one call. -/
theorem wire_tick (limit : ℕ) (before : List Node) {s : IncidentState}
    (hlt : s.investigationAttempts < maxInvestigationAttempts) :
    P.wire W (limit + 1) before ⟨s, some .investigator⟩ =
      (P.call .investigator (before.count .investigator)).traffic ::
        P.wire W limit (before ++ [.investigator])
          ⟨(P.llm.fallible W).tick before s,
            some (routeAfterInvestigator ((P.llm.fallible W).tick before s))⟩ := by
  have htraffic : P.traffic before .investigator s =
      [(P.call .investigator (before.count .investigator)).traffic] :=
    if_pos (show AsksLLM .investigator s from hlt)
  rw [P.wire_of_answers W (fun _ => (hmute _).1) rfl, htraffic]
  rfl

/-- An LLM that never has a lead is asked as often as it may be. The induction is on the
ticks left after this one. -/
theorem wire_of_mute (ticksLeft limit : ℕ) (before : List Node) (s : IncidentState)
    (h : Barren s) (hleft : s.investigationAttempts + (ticksLeft + 1) = maxInvestigationAttempts)
    (hlimit : 2 * ticksLeft < limit) :
    P.wire W limit before ⟨s, some .investigator⟩ =
      (List.range' (before.count .investigator) (ticksLeft + 1)).map fun n =>
        (P.call .investigator n).traffic := by
  induction ticksLeft generalizing limit before s with
  | zero =>
      obtain ⟨limit, rfl⟩ : ∃ l, limit = l + 1 := ⟨limit - 1, by omega⟩
      have hlt : s.investigationAttempts < maxInvestigationAttempts := by omega
      have hattempts := (P.llm.fallible W).tick_attempts before s
      rw [if_neg (Nat.not_le.mpr hlt)] at hattempts
      rw [wire_tick hmute limit before hlt, routeAfterInvestigator, if_pos (by omega),
        wire_coordinate]
      rfl
  | succ ticksLeft ih =>
      obtain ⟨limit, rfl⟩ : ∃ l, limit = l + 2 := ⟨limit - 2, by omega⟩
      have hlt : s.investigationAttempts < maxInvestigationAttempts := by omega
      have hattempts := (P.llm.fallible W).tick_attempts before s
      rw [if_neg (Nat.not_le.mpr hlt)] at hattempts
      have htick := h.tick (W := (P.llm.fallible W).toWorld) before hlt (hmute _).2
      have hnone : ¬ HasConfirmed ((P.llm.fallible W).tick before s) := by
        rintro ⟨hyp, hmem, -⟩
        rw [htick.hypotheses_eq] at hmem
        cases hmem
      have hcollect := htick.collect (W := (P.llm.fallible W).toWorld) (before ++ [.investigator])
      rw [wire_tick hmute (limit + 1) before hlt, routeAfterInvestigator, if_neg (by omega),
        if_neg hnone, wire_collect,
        ih limit _ _ hcollect (by rw [World.collect_attempts]; omega) (by omega)]
      have hcount : (before ++ [Node.investigator] ++ [Node.collectors]).count .investigator =
          before.count .investigator + 1 := by
        simp
      rw [hcount]
      rfl

end Mute

end Provider

/-- An API that is overloaded before every response. The first response of a call is empty,
and from the second on there is something in it. -/
def overloadedApi (settings : LLMSettings) (exc : APIStatusError) (response : Response) :
    MessagesApi := fun k _ =>
  if k % (settings.maxRetries + 1) < settings.maxRetries then .apiStatusError exc
  else .success (if k ≤ settings.maxRetries then [] else response)

def noLead : InvestigatorOutput :=
  { hypotheses := []
    currentFocusHypothesisId := ""
    reasoning := "The alert gives no lead." }

def noLeadResponse (v : Node) : Response :=
  [.toolUse "toolu_1" (outputModel v).toolName (dumpInvestigatorOutput (fun _ => "") noLead)]

/-- The LLM behind it has no lead. -/
def overloaded (settings : LLMSettings) (exc : APIStatusError) : Provider where
  settings := settings
  spelling := { jsonDumps := fun _ => "\x7b\x7d", formatErrors := fun _ => "" }
  api v _ := overloadedApi settings exc (noLeadResponse v)
  messages _ _ := [userTurn "start"]
  spell _ := ""

section Overloaded

variable {settings : LLMSettings} {exc : APIStatusError}
  (hfloat : settings.maxRetries ≤ maxExponent + 1)
  (hlisted : exc.statusCode ∈ settings.retryableStatusCodes)

include hfloat hlisted

/-- The client's run after `k` full ones. -/
theorem completed_overloaded (n k : ℕ) {a : Attempt}
    (hk : a.traffic.requests.length = k * (settings.maxRetries + 1)) :
    ((overloaded settings exc).caller .investigator n).completed a =
      { result := .ok (if k = 0 then [] else noLeadResponse .investigator)
        calls := settings.maxRetries + 1
        sleeps := (List.range settings.maxRetries).map settings.delay } := by
  have hapi : ∀ i ≤ settings.maxRetries, (overloaded settings exc).api .investigator n
      (k * (settings.maxRetries + 1) + i) a.conversation =
        if i < settings.maxRetries then .apiStatusError exc
        else .success (if k * (settings.maxRetries + 1) + i ≤ settings.maxRetries then []
          else noLeadResponse .investigator) := by
    intro i hi
    show overloadedApi settings exc (noLeadResponse .investigator) _ a.conversation = _
    rw [overloadedApi, Nat.mul_add_mod_self_right, Nat.mod_eq_of_lt (Nat.lt_succ_of_le hi)]
  rw [Caller.completed, hk]
  apply LLMSettings.complete_of_late hfloat
  · intro i hi
    exact ⟨exc, (hapi i (Nat.le_of_lt hi)).trans (if_pos hi), hlisted⟩
  · refine (hapi _ le_rfl).trans ((if_neg (Nat.lt_irrefl _)).trans (congrArg Outcome.success ?_))
    cases k with
    | zero =>
        rw [Nat.zero_mul, Nat.zero_add]
        exact (if_pos le_rfl).trans (if_pos rfl).symm
    | succ k =>
        have hlarge : ¬ (k + 1) * (settings.maxRetries + 1) + settings.maxRetries ≤
            settings.maxRetries := by
          rw [Nat.succ_mul]
          omega
        rw [if_neg hlarge, if_neg (Nat.succ_ne_zero k)]

/-- A call makes all the requests it may make, and is answered in the end. -/
theorem call_overloaded (n : ℕ) :
    ((overloaded settings exc).call .investigator n).result = .ok noLead ∧
      ((overloaded settings exc).call .investigator n).traffic.requests.length =
        (completeRetries + 1) * (settings.maxRetries + 1) ∧
      ((overloaded settings exc).call .investigator n).traffic.sleeps.sum =
        (completeRetries + 1) • settings.longestPause := by
  let C := (overloaded settings exc).caller .investigator n
  let first : Attempt := { conversation := [userTurn "start"] }
  let second := C.next first [] (C.excAfter first [])
  have hfirst := completed_overloaded hfloat hlisted n 0 (a := first) (Nat.zero_mul _).symm
  have hlength : second.traffic.requests.length = 1 * (settings.maxRetries + 1) := by
    show ([] ++ List.replicate (C.completed first).calls _).length = _
    rw [hfirst, List.nil_append, List.length_replicate, Nat.one_mul]
  have hsecond := completed_overloaded hfloat hlisted n 1 hlength
  have hrejects : C.Rejects [] := rejected_of_extractInput_eq_none rfl
  have hempty : (C.completed first).result = .ok [] := congrArg Completed.result hfirst
  have hretry : C.callFrom 1 first = C.callFrom 0 second :=
    Caller.callFrom_of_rejects 0 hempty hrejects
  have hlast : C.callFrom 0 second = ⟨C.resultAt second, C.sent second⟩ :=
    Caller.callFrom_of_last (.inl rfl)
  have hcall : (overloaded settings exc).call .investigator n =
      ⟨C.resultAt second, C.sent second⟩ := hretry.trans hlast
  rw [hcall]
  refine ⟨?_, ?_, ?_⟩
  · have hok : (C.completed second).result = .ok (noLeadResponse .investigator) :=
      congrArg Completed.result hsecond
    have hvalid : investigatorOutput (dumpInvestigatorOutput (fun _ => "") noLead) =
        .valid noLead := (investigatorOutput_dump_iff _ _).mpr rfl
    have hinput : (extractInput C.toolName (noLeadResponse .investigator)).map C.validate =
        some (.valid noLead) := congrArg some hvalid
    show C.resultAt second = _
    rw [Caller.resultAt, hok]
    simp only [hinput]
  · show (second.traffic.requests ++ List.replicate (C.completed second).calls _).length = _
    rw [List.length_append, hlength, hsecond, List.length_replicate]
    exact (Nat.succ_mul 1 _).symm
  · show (([] ++ (C.completed first).sleeps) ++ (C.completed second).sleeps).sum = _
    rw [hfirst, hsecond, List.nil_append, List.sum_append]
    exact (two_nsmul _).symm

/-- So every run from a fresh state does. -/
theorem wire_overloaded {κ ν : Type} (W : World κ ν) (seed : IncidentState) (h : Barren seed)
    (hattempts : seed.investigationAttempts = 0) :
    (overloaded settings exc).wire W recursionLimit [] (entry seed) =
      (List.range maxInvestigationAttempts).map fun n =>
        ((overloaded settings exc).call .investigator n).traffic := by
  have hask : ∀ n, (overloaded settings exc).llm.ask .investigator .investigator n =
      .ok noLead := by
    intro n
    have h := (overloaded settings exc).ask_llm .investigator n
    rwa [(call_overloaded hfloat hlisted n).1] at h
  have hmute : ∀ n, ((overloaded settings exc).llm.fallible W).raises .investigator n = none ∧
      (((overloaded settings exc).llm.fallible W).investigatorAnswer n).hypotheses = [] := by
    intro n
    constructor
    · show LLM.raised ((overloaded settings exc).llm.ask .investigator .investigator n) = none
      rw [hask]
      rfl
    · simp only [LLM.fallible, hask]
      rfl
  have haccept : Barren (((overloaded settings exc).llm.fallible W).accept [] seed) :=
    ⟨h.hypotheses_eq, h.findings_eq, h.intents_eq⟩
  rw [recursionLimit, entry, Provider.wire_of_answers _ W (v := .intake) (fun hasks => hasks.elim)
    rfl]
  have hrun := Provider.wire_of_mute hmute 4 24 [.intake] _ haccept (by
    show seed.investigationAttempts + 5 = 5
    rw [hattempts]) (by decide)
  rw [List.range_eq_range']
  exact hrun

theorem sum_wire_overloaded {κ ν : Type} (W : World κ ν) (seed : IncidentState)
    (h : Barren seed) (hattempts : seed.investigationAttempts = 0) {M : Type} [AddCommMonoid M]
    (cost : Traffic → M) {b : M}
    (hcost : ∀ n, cost ((overloaded settings exc).call .investigator n).traffic = b) :
    (((overloaded settings exc).wire W recursionLimit [] (entry seed)).map cost).sum =
      maxInvestigationAttempts • b := by
  have hall : ((overloaded settings exc).wire W recursionLimit [] (entry seed)).map cost =
      List.replicate maxInvestigationAttempts b := by
    rw [wire_overloaded hfloat hlisted W seed h hattempts, List.map_map, List.eq_replicate_iff]
    refine ⟨by rw [List.length_map, List.length_range], ?_⟩
    rw [List.forall_mem_map]
    exact fun n _ => hcost n
  rw [hall, List.sum_replicate]

end Overloaded

/-- **What an incident can cost.** Over all LLMs, conversations, answers of the API,
surroundings of the graph, incidents and step limits, a run calls `messages.create` at most
five times the attempts of `complete_typed` times the tries of the client, and the client
pauses as long as that many times; both are reached. -/
theorem run_costs {κ ν : Type} (W : World κ ν) (env : Intake.IntakeEnv)
    (alert : Intake.AlertmanagerAlert) (receiver : String) (settings : LLMSettings)
    (hfloat : settings.maxRetries ≤ maxExponent + 1)
    (hlisted : settings.retryableStatusCodes ≠ []) (hinitial : 0 ≤ settings.initialBackoff)
    (hmax : 0 ≤ settings.maxBackoff) :
    let seed := Intake.seedIncident env alert receiver
    IsGreatest {n | ∃ P : Provider, ∃ limit, P.settings = settings ∧
        P.requestCount W limit seed = n}
      (maxInvestigationAttempts * ((completeRetries + 1) * (settings.maxRetries + 1))) ∧
    IsGreatest {q | ∃ P : Provider, ∃ limit, P.settings = settings ∧
        P.pauseTime W limit seed = q}
      (maxInvestigationAttempts • (completeRetries + 1) • settings.longestPause) := by
  intro seed
  obtain ⟨code, hcode⟩ := List.exists_mem_of_ne_nil _ hlisted
  let exc : APIStatusError := { statusCode := code, message := "Overloaded" }
  have hlist : exc.statusCode ∈ settings.retryableStatusCodes := hcode
  refine ⟨⟨⟨overloaded settings exc, recursionLimit, rfl, ?_⟩, ?_⟩,
    ⟨overloaded settings exc, recursionLimit, rfl, ?_⟩, ?_⟩
  · exact sum_wire_overloaded hfloat hlist W seed ⟨rfl, rfl, rfl⟩ rfl
      (fun t => t.requests.length) fun n => (call_overloaded hfloat hlist n).2.1
  · rintro n ⟨P, limit, rfl, rfl⟩
    exact P.requestCount_le W limit seed
  · exact sum_wire_overloaded hfloat hlist W seed ⟨rfl, rfl, rfl⟩ rfl
      (fun t => t.sleeps.sum) fun n => (call_overloaded hfloat hlist n).2.2
  · rintro q ⟨P, limit, rfl, rfl⟩
    exact P.pauseTime_le W hinitial hmax limit seed

/-- With the settings as they are by default: thirty calls of `messages.create`, and thirty
seconds. -/
theorem run_costs_testAlert :
    IsGreatest {n | ∃ P : Provider, ∃ limit, P.settings = {} ∧
        P.requestCount silentWorld limit
          (Intake.seedIncident testIntake testAlert "default") = n} 30 ∧
    IsGreatest {q | ∃ P : Provider, ∃ limit, P.settings = {} ∧
        P.pauseTime silentWorld limit
          (Intake.seedIncident testIntake testAlert "default") = q} 30 := by
  have h := run_costs silentWorld testIntake testAlert "default" {} (by decide) (by decide)
    (by decide) (by decide)
  have hpause : maxInvestigationAttempts • (completeRetries + 1) •
      ({} : LLMSettings).longestPause = 30 := by
    decide +kernel
  rwa [hpause] at h

end AlphE.Orchestrator
