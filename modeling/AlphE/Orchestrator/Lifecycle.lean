import AlphE.Orchestrator.Routing
import AlphE.Lib.Segments

/-!
The repair lifecycle as the routing functions describe it: the walk of the
routed graph in which every plan, every Verifier result and every Reviewer
decision is a choice. Two cycles are nested in it. The outer one, through the
Investigator, is cut by the attempts; the inner one, Dev to Verifier to Reviewer
and back, is cut by nothing but the choices, since no routing function counts the
rounds and none leads from the Reviewer to the Coordinator.
-/

namespace AlphE.Orchestrator

open Nodes

/-- What is chosen along a walk, visit by visit. The nodes' updates are
arbitrary up to the attempts, which behave as in `investigator_node`. -/
structure Choices where
  update : List Node → Node → IncidentState → StateUpdate
  plan : ℕ → RemediationPlan
  result : ℕ → VerifierResult
  review : ℕ → Option ReviewerOutput
  attempts_tick : ∀ (before : List Node) (s : IncidentState),
    (s.merge (update before .investigator s)).investigationAttempts =
      if maxAttempts ≤ s.investigationAttempts then s.investigationAttempts
      else s.investigationAttempts + 1
  attempts_other : ∀ (before : List Node) (v : Node) (s : IncidentState), v ≠ .investigator →
    (s.merge (update before v s)).investigationAttempts = s.investigationAttempts

/-- The Reviewer decides for `approve`. -/
def approves (output : Option ReviewerOutput) : Bool :=
  output.any fun o => o.decision = .approve

theorem challenges_of_approves {output : Option ReviewerOutput}
    (h : approves output = true) : challenges output = false := by
  cases output with
  | none => cases h
  | some o =>
      have happrove : o.decision = .approve := by simpa [approves] using h
      simp [challenges, happrove]

namespace Choices

variable (C : Choices)

/-- The product of a visit. -/
def product (before : List Node) : (v : Node) → Produces v
  | .planner => C.plan (before.count .planner)
  | .verifier => C.result (before.count .verifier)
  | .reviewer => C.review (before.count .reviewer)
  | .intake => ()
  | .investigator => ()
  | .collectors => ()
  | .dev => ()
  | .coordinator => ()

def outputs : NodeOutputs := fun before v s => .ok (C.update before v s, C.product before v)

/-- The walk leads from one configuration to another, through these nodes. -/
def Leads : List Node → Config Node Logged → List Node → Config Node Logged → Prop :=
  (routedGraph C.outputs).Path

/-- The configuration after a visit. -/
def after (before : List Node) (v : Node) (l : Logged) : Config Node Logged :=
  let s := l.state.merge (C.update before v l.state)
  { state := { state := s, output := some ⟨v, C.product before v⟩ }
    next := prescribed v (C.product before v) s }

theorem leads_cons {before : List Node} {v : Node} {c c' : Config Node Logged}
    {vs : List Node} (hnext : c.next = some v)
    (h : C.Leads (before ++ [v]) (C.after before v c.state) vs c') :
    C.Leads before c (v :: vs) c' := by
  obtain ⟨l, next⟩ := c
  cases hnext
  have hexec : (routedGraph C.outputs).exec before v l = .ok (C.after before v l).state :=
    rfl
  exact .cons hexec h

theorem next_after_verifier (before : List Node) (l : Logged) :
    (C.after before .verifier l).next =
      some (routeAfterVerifier (C.result (before.count .verifier))) := rfl

theorem next_after_reviewer (before : List Node) (l : Logged) :
    (C.after before .reviewer l).next =
      some (routeAfterReviewer (challenges (C.review (before.count .reviewer)))) := rfl

/-! ### Going back -/

/-- Within so many rounds the repair is sent back to the Investigator, by the
Verifier or by the Reviewer, and the Reviewer approves nothing before. The two
numbers count the results and the decisions that were used. -/
def SentBack : ℕ → ℕ → ℕ → Prop
  | 0, _, _ => False
  | rounds + 1, v, r =>
      match (C.result v).kind with
      | .diagnosisInvalidated => True
      | .implementationError => SentBack rounds (v + 1) r
      | .passed => challenges (C.review r) ∨
          (approves (C.review r) = false ∧ SentBack rounds (v + 1) (r + 1))

/-- None of the decisions used between two moments approves. -/
def NoneApproves (before after : List Node) : Prop :=
  ∀ k, before.count .reviewer ≤ k → k < after.count .reviewer →
    approves (C.review k) = false

variable {C}

theorem NoneApproves.refl (before : List Node) : C.NoneApproves before (before ++ []) := by
  intro k hle hlt
  rw [List.append_nil] at hlt
  omega

theorem NoneApproves.cons {before vs : List Node} {v : Node}
    (h : C.NoneApproves (before ++ [v]) (before ++ [v] ++ vs))
    (hv : v = .reviewer → approves (C.review (before.count .reviewer)) = false) :
    C.NoneApproves before (before ++ v :: vs) := by
  intro k hle hlt
  rw [List.append_assoc, List.singleton_append] at h
  by_cases hrev : v = .reviewer
  · have hcount : (before ++ [v]).count .reviewer = before.count .reviewer + 1 := by
      simp [hrev]
    rcases Nat.lt_or_eq_of_le hle with hgt | rfl
    · exact h k (by omega) hlt
    · exact hv hrev
  · apply h k _ hlt
    simpa [hrev] using hle

theorem NoneApproves.append {before vs ws : List Node}
    (h : C.NoneApproves before (before ++ vs))
    (h' : C.NoneApproves (before ++ vs) (before ++ vs ++ ws)) :
    C.NoneApproves before (before ++ (vs ++ ws)) := by
  intro k hle hlt
  rw [← List.append_assoc] at hlt
  by_cases hk : k < (before ++ vs).count .reviewer
  · exact h k hle hk
  · exact h' k (Nat.not_lt.mp hk) hlt

variable (C)

/-- The walk comes back to the Investigator, with at most so many visits of
Dev. -/
def Returns (rounds : ℕ) (before : List Node) (c : Config Node Logged) : Prop :=
  ∃ vs c', C.Leads before c vs c' ∧ c'.next = some .investigator ∧ .investigator ∉ vs ∧
    vs.count .dev ≤ rounds ∧
    c'.state.state.investigationAttempts = c.state.state.investigationAttempts ∧
    C.NoneApproves before (before ++ vs)

section Returns

variable {C} {rounds : ℕ} {before : List Node} {c : Config Node Logged}

theorem returns_of_next (hnext : c.next = some .investigator) :
    C.Returns rounds before c :=
  ⟨[], c, .nil _ _, hnext, by simp, by simp, rfl, .refl before⟩

/-- One more visit in front, of another node than Dev. -/
theorem Returns.cons {v : Node} (hnext : c.next = some v)
    (h : C.Returns rounds (before ++ [v]) (C.after before v c.state))
    (hinv : v ≠ .investigator) (hdev : v ≠ .dev)
    (hv : v = .reviewer → approves (C.review (before.count .reviewer)) = false) :
    C.Returns rounds before c := by
  obtain ⟨vs, c', hleads, hend, hnot, hcount, hattempts, hnone⟩ := h
  refine ⟨v :: vs, c', C.leads_cons hnext hleads, hend, ?_, ?_, ?_, hnone.cons hv⟩
  · simp [Ne.symm hinv, hnot]
  · rwa [List.count_cons_of_ne hdev]
  · rw [hattempts]
    exact C.attempts_other before v c.state.state hinv

theorem Returns.cons_dev (hnext : c.next = some .dev)
    (h : C.Returns rounds (before ++ [.dev]) (C.after before .dev c.state)) :
    C.Returns (rounds + 1) before c := by
  obtain ⟨vs, c', hleads, hend, hnot, hcount, hattempts, hnone⟩ := h
  refine ⟨.dev :: vs, c', C.leads_cons hnext hleads, hend, ?_, ?_, ?_, hnone.cons (by simp)⟩
  · simp [hnot]
  · rw [List.count_cons_self]
    omega
  · rw [hattempts]
    exact C.attempts_other before .dev c.state.state (by simp)

/-- A repair that is sent back comes back. One round is Dev, the Verifier, and
the Reviewer when the checks passed. -/
theorem returns_of_sentBack (hnext : c.next = some .dev)
    (h : C.SentBack rounds (before.count .verifier) (before.count .reviewer)) :
    C.Returns rounds before c := by
  induction rounds generalizing before c with
  | zero => exact h.elim
  | succ rounds ih =>
      apply Returns.cons_dev hnext
      apply Returns.cons (v := .verifier) rfl _ (by simp) (by simp) (by simp)
      have hresult : (before ++ [Node.dev]).count .verifier = before.count .verifier := by
        simp
      have hroute := C.next_after_verifier (before ++ [.dev]) (C.after before .dev c.state).state
      rw [hresult, routeAfterVerifier] at hroute
      rw [SentBack] at h
      cases hkind : (C.result (before.count .verifier)).kind with
      | diagnosisInvalidated =>
          rw [hkind] at hroute
          exact returns_of_next hroute
      | implementationError =>
          rw [hkind] at hroute h
          apply ih hroute
          simpa using h
      | passed =>
          rw [hkind] at hroute h
          have hreview : (before ++ [Node.dev] ++ [Node.verifier]).count .reviewer =
              before.count .reviewer := by simp
          have hdecision : approves (C.review (before.count .reviewer)) = false := by
            rcases h with hchallenge | ⟨hnot, -⟩
            · by_contra happroves
              rw [Bool.not_eq_false] at happroves
              rw [challenges_of_approves happroves] at hchallenge
              cases hchallenge
            · exact hnot
          apply Returns.cons hroute _ (by simp) (by simp)
            (fun _ => by rw [hreview]; exact hdecision)
          have hback := C.next_after_reviewer (before ++ [.dev] ++ [.verifier])
            (C.after (before ++ [.dev]) .verifier (C.after before .dev c.state).state).state
          rw [hreview, routeAfterReviewer] at hback
          cases hchallenge : challenges (C.review (before.count .reviewer)) with
          | true =>
              rw [hchallenge] at hback
              exact returns_of_next hback
          | false =>
              rw [hchallenge] at hback
              have hrest := h.resolve_left (by simp [hchallenge])
              apply ih hback
              simpa using hrest.2

end Returns

/-! ### Going round -/

/-- The walk goes on without the Investigator: it visits Dev so many times, or the
Reviewer approves and it is sent to Dev. -/
def Strays (rounds : ℕ) (before : List Node) (c : Config Node Logged) : Prop :=
  ∃ vs c', C.Leads before c vs c' ∧ .investigator ∉ vs ∧
    (vs.count .dev = rounds ∨
      ∃ us, vs = us ++ [.reviewer] ∧
        approves (C.review ((before ++ us).count .reviewer)) = true ∧ c'.next = some .dev)

section Strays

variable {C} {rounds : ℕ} {before : List Node} {c : Config Node Logged}

theorem Strays.cons {v : Node} (hnext : c.next = some v)
    (h : C.Strays rounds (before ++ [v]) (C.after before v c.state))
    (hinv : v ≠ .investigator) (hdev : v ≠ .dev) : C.Strays rounds before c := by
  obtain ⟨vs, c', hleads, hnot, hend⟩ := h
  refine ⟨v :: vs, c', C.leads_cons hnext hleads, by simp [Ne.symm hinv, hnot], ?_⟩
  rcases hend with hcount | ⟨us, rfl, happroves, hback⟩
  · left
    rwa [List.count_cons_of_ne hdev]
  · right
    refine ⟨v :: us, rfl, ?_, hback⟩
    rwa [List.append_assoc] at happroves

theorem Strays.cons_dev (hnext : c.next = some .dev)
    (h : C.Strays rounds (before ++ [.dev]) (C.after before .dev c.state)) :
    C.Strays (rounds + 1) before c := by
  obtain ⟨vs, c', hleads, hnot, hend⟩ := h
  refine ⟨.dev :: vs, c', C.leads_cons hnext hleads, by simp [hnot], ?_⟩
  rcases hend with hcount | ⟨us, rfl, happroves, hback⟩
  · left
    rw [List.count_cons_self, hcount]
  · right
    refine ⟨.dev :: us, rfl, ?_, hback⟩
    rwa [List.append_assoc] at happroves

/-- A repair that is not sent back goes on for one round more, or the Reviewer
approves it and sends it to Dev. -/
theorem strays_of_not_sentBack (hnext : c.next = some .dev)
    (h : ¬ C.SentBack rounds (before.count .verifier) (before.count .reviewer)) :
    C.Strays (rounds + 1) before c := by
  induction rounds generalizing before c with
  | zero => exact Strays.cons_dev hnext ⟨[], _, .nil _ _, by simp, .inl rfl⟩
  | succ rounds ih =>
      apply Strays.cons_dev hnext
      apply Strays.cons (v := .verifier) rfl _ (by simp) (by simp)
      have hresult : (before ++ [Node.dev]).count .verifier = before.count .verifier := by
        simp
      have hroute := C.next_after_verifier (before ++ [.dev]) (C.after before .dev c.state).state
      rw [hresult, routeAfterVerifier] at hroute
      rw [SentBack] at h
      cases hkind : (C.result (before.count .verifier)).kind with
      | diagnosisInvalidated =>
          rw [hkind] at h
          exact absurd trivial h
      | implementationError =>
          rw [hkind] at hroute h
          apply ih hroute
          simpa using h
      | passed =>
          rw [hkind] at hroute h
          rw [not_or] at h
          have hreview : (before ++ [Node.dev] ++ [Node.verifier]).count .reviewer =
              before.count .reviewer := by simp
          have hchallenge : challenges (C.review (before.count .reviewer)) = false :=
            Bool.not_eq_true _ ▸ h.1
          have hback := C.next_after_reviewer (before ++ [.dev] ++ [.verifier])
            (C.after (before ++ [.dev]) .verifier (C.after before .dev c.state).state).state
          rw [hreview, routeAfterReviewer, hchallenge] at hback
          cases hdecision : approves (C.review (before.count .reviewer)) with
          | true =>
              refine ⟨[.reviewer], _, C.leads_cons hroute (.nil _ _), by simp, .inr ?_⟩
              exact ⟨[], rfl, by simpa using hdecision, hback⟩
          | false =>
              apply Strays.cons hroute _ (by simp) (by simp)
              have hrest : ¬ C.SentBack rounds (before.count .verifier + 1)
                  (before.count .reviewer + 1) := fun hsent => h.2 ⟨hdecision, hsent⟩
              apply ih hback
              simpa using hrest

end Strays

/-! ### The lifecycle -/

/-- Whenever the walk comes to plan a pull request, the repair that follows is
sent back in time. -/
def RepairsSentBack (before : List Node) (c : Config Node Logged) : Prop :=
  ∀ vs c', C.Leads before c vs c' → c'.next = some .planner →
    (C.plan ((before ++ vs).count .planner)).type = .pr →
    C.SentBack maxDevVerifyIterations ((before ++ vs).count .verifier)
      ((before ++ vs).count .reviewer)

/-- From the Investigator the walk comes to its end. -/
def Finishes (before : List Node) (c : Config Node Logged) : Prop :=
  ∃ vs c', C.Leads before c (.investigator :: vs) c' ∧ c'.next = none ∧
    .coordinator ∈ vs ∧
    Segments.Within .investigator .dev maxDevVerifyIterations maxDevVerifyIterations vs ∧
    C.NoneApproves before (before ++ .investigator :: vs)

section Finishes

variable {C} {before : List Node} {c : Config Node Logged}

theorem RepairsSentBack.of_leads {vs : List Node} {c' : Config Node Logged}
    (h : C.RepairsSentBack before c) (hleads : C.Leads before c vs c') :
    C.RepairsSentBack (before ++ vs) c' := by
  intro ws c'' hws hnext hpr
  rw [List.append_assoc] at hpr ⊢
  exact h (vs ++ ws) c'' (hleads.append _ hws) hnext hpr

/-- The walk goes through one segment to the Coordinator, and so to its end. -/
theorem finishes_of_coordinator {us : List Node} {c' : Config Node Logged}
    (hleads : C.Leads before c (.investigator :: us) c') (hnext : c'.next = some .coordinator)
    (hnot : .investigator ∉ us) (hdev : us.count .dev ≤ maxDevVerifyIterations)
    (hnone : C.NoneApproves before (before ++ .investigator :: us)) :
    C.Finishes before c := by
  have hend : C.Leads (before ++ .investigator :: us) c' [.coordinator]
      (C.after (before ++ .investigator :: us) .coordinator c'.state) :=
    C.leads_cons hnext (.nil _ _)
  have hwithin : Segments.Within .investigator .dev maxDevVerifyIterations
      maxDevVerifyIterations (us ++ [.coordinator] ++ []) := by
    rw [Segments.within_append (by simp) (by simpa using hnot)]
    exact ⟨by simpa using hdev, Segments.within_nil _ _ _ _⟩
  rw [List.append_nil] at hwithin
  have hnone' : C.NoneApproves (before ++ .investigator :: us)
      (before ++ .investigator :: us ++ [.coordinator]) :=
    (NoneApproves.refl _).cons (by simp)
  exact ⟨us ++ [Node.coordinator], _, hleads.append _ hend, rfl, by simp, hwithin,
    hnone.append hnone'⟩

/-- The walk goes through one segment back to the Investigator, and finishes from
there. -/
theorem Finishes.of_leads {us : List Node} {c' : Config Node Logged}
    (h : C.Finishes (before ++ .investigator :: us) c')
    (hleads : C.Leads before c (.investigator :: us) c') (hnot : .investigator ∉ us)
    (hdev : us.count .dev ≤ maxDevVerifyIterations)
    (hnone : C.NoneApproves before (before ++ .investigator :: us)) :
    C.Finishes before c := by
  obtain ⟨vs, c'', hrest, hend, hcoord, hwithin, hnone'⟩ := h
  refine ⟨us ++ .investigator :: vs, c'', ?_, hend, by simp [hcoord], ?_, ?_⟩
  · exact hleads.append _ hrest
  · rw [Segments.within_append (by simp) hnot, Segments.within_sep_cons]
    exact ⟨hdev, hwithin⟩
  · exact hnone.append hnone'

/-- The outer cycle: every return to the Investigator costs an attempt. -/
theorem finishes_of_repairsSentBack (ticksLeft : ℕ) (hnext : c.next = some .investigator)
    (hleft : maxInvestigationAttempts - c.state.state.investigationAttempts = ticksLeft)
    (h : C.RepairsSentBack before c) : C.Finishes before c := by
  induction ticksLeft using Nat.strong_induction_on generalizing before c with
  | _ ticksLeft ih =>
      let before₁ := before ++ [Node.investigator]
      let c₁ := C.after before .investigator c.state
      have htick : C.Leads before c [.investigator] c₁ := C.leads_cons hnext (.nil _ _)
      have hnone : C.NoneApproves before (before ++ [.investigator]) :=
        (NoneApproves.refl _).cons (by simp)
      have hattempts : c₁.state.state.investigationAttempts =
          if maxInvestigationAttempts ≤ c.state.state.investigationAttempts then
            c.state.state.investigationAttempts
          else c.state.state.investigationAttempts + 1 :=
        C.attempts_tick before c.state.state
      have hroute : c₁.next = some (routeAfterInvestigator c₁.state.state) := rfl
      by_cases hcap : maxInvestigationAttempts ≤ c₁.state.state.investigationAttempts
      · -- The attempts are spent.
        rw [routeAfterInvestigator, if_pos hcap] at hroute
        exact finishes_of_coordinator htick hroute (by simp) (by simp) hnone
      · have hspent : c₁.state.state.investigationAttempts =
            c.state.state.investigationAttempts + 1 := by
          split at hattempts <;> omega
        by_cases hconf : Coordinator.HasConfirmed c₁.state.state
        · -- A hypothesis is confirmed: the Planner is next.
          rw [routeAfterInvestigator, if_neg hcap, if_pos hconf] at hroute
          let before₂ := before₁ ++ [Node.planner]
          let c₂ := C.after before₁ .planner c₁.state
          have hplan : C.Leads before₁ c₁ [.planner] c₂ := C.leads_cons hroute (.nil _ _)
          have hnone₂ : C.NoneApproves before₁ (before₁ ++ [.planner]) :=
            (NoneApproves.refl _).cons (by simp)
          have hroute₂ : c₂.next =
              some (routeAfterPlanner (C.plan (before₁.count .planner))) := rfl
          by_cases hpr : (C.plan (before₁.count .planner)).type = .pr
          · -- The repair is sent back, at the cost of the attempt.
            rw [routeAfterPlanner, if_pos hpr] at hroute₂
            have hsent := h [.investigator] c₁ htick hroute hpr
            have hcounts : C.SentBack maxDevVerifyIterations (before₂.count .verifier)
                (before₂.count .reviewer) := by simpa [before₂, before₁] using hsent
            obtain ⟨vs, c₃, hback, hnext₃, hnot, hdev, hattempts₃, hnone₃⟩ :=
              returns_of_sentBack hroute₂ hcounts
            have hall : C.Leads before c (.investigator :: .planner :: vs) c₃ :=
              htick.append _ (hplan.append _ hback)
            have hsame : c₂.state.state.investigationAttempts =
                c₁.state.state.investigationAttempts :=
              C.attempts_other before₁ .planner c₁.state.state (by simp)
            have hrest := ih _ (by omega) hnext₃ rfl (h.of_leads hall)
            exact hrest.of_leads hall (by simpa using hnot) (by simpa using hdev)
              (hnone.append (hnone₂.append hnone₃))
          · -- An operation, or nothing.
            rw [routeAfterPlanner, if_neg hpr] at hroute₂
            have hwalk : C.Leads before c [.investigator, .planner] c₂ :=
              htick.append _ hplan
            exact finishes_of_coordinator hwalk hroute₂ (by simp) (by simp)
              (hnone.append hnone₂)
        · -- Another question for the collectors.
          rw [routeAfterInvestigator, if_neg hcap, if_neg hconf] at hroute
          let c₂ := C.after before₁ .collectors c₁.state
          have hcollect : C.Leads before₁ c₁ [.collectors] c₂ := C.leads_cons hroute (.nil _ _)
          have hall : C.Leads before c [.investigator, .collectors] c₂ :=
            htick.append _ hcollect
          have hsame : c₂.state.state.investigationAttempts =
              c₁.state.state.investigationAttempts :=
            C.attempts_other before₁ .collectors c₁.state.state (by simp)
          have hrest := ih _ (by omega) rfl rfl (h.of_leads hall)
          exact hrest.of_leads hall (by simp) (by simp)
            (hnone.append ((NoneApproves.refl _).cons (by simp)))

end Finishes

/-- The routed repair lifecycle terminates: the walk comes to the Coordinator and
ends, Dev is entered a bounded number of times without the Investigator in
between, and an approval leads to the Coordinator. -/
structure Terminates (seed : IncidentState) : Prop where
  ends : ∃ vs c, C.Leads [] (loggedEntry seed) vs c ∧ .coordinator ∈ vs ∧ c.next = none
  bounded : ∀ vs c, C.Leads [] (loggedEntry seed) vs c →
    ∀ seg, seg <:+: vs → .investigator ∉ seg → seg.count .dev ≤ maxDevVerifyIterations
  approved : ∀ vs c, C.Leads [] (loggedEntry seed) (vs ++ [.reviewer]) c →
    approves (C.review (vs.count .reviewer)) = true → c.next = some .coordinator

theorem terminates_of_repairsSentBack {seed : IncidentState}
    (h : C.RepairsSentBack [] (loggedEntry seed)) : C.Terminates seed := by
  have hintake : C.Leads [] (loggedEntry seed) [.intake]
      (C.after [] .intake (loggedEntry seed).state) := C.leads_cons rfl (.nil _ _)
  obtain ⟨vs, c, hleads, hend, hcoord, hwithin, hnone⟩ :=
    finishes_of_repairsSentBack _ rfl rfl (h.of_leads hintake)
  have hall : C.Leads [] (loggedEntry seed) (.intake :: .investigator :: vs) c :=
    hintake.append _ hleads
  refine ⟨⟨_, c, hall, by simp [hcoord], hend⟩, ?_, ?_⟩
  · intro ws c' hws seg hseg hnot
    have hprefix : ws <+: .intake :: .investigator :: vs := hall.prefix_of_end _ hend hws
    have hbounds : Segments.Within .investigator .dev maxDevVerifyIterations
        maxDevVerifyIterations (.intake :: .investigator :: vs) := by
      rw [Segments.within_cons_of_ne (by simp) (by simp), Segments.within_sep_cons]
      exact hwithin
    exact (Segments.within_bounds (by simp) le_rfl hbounds seg
      (hseg.trans hprefix.isInfix) hnot).1
  · intro ws c' hws happroves
    -- The decision is one of those the walk to the end uses.
    have hprefix : ws ++ [.reviewer] <+: .intake :: .investigator :: vs :=
      hall.prefix_of_end _ hend hws
    have hused := hprefix.sublist.count_le .reviewer
    rw [List.count_append, List.count_singleton_self] at hused
    have hdecision := hnone (ws.count .reviewer) (by simp) (Nat.lt_of_succ_le hused)
    rw [happroves] at hdecision
    cases hdecision

theorem repairsSentBack_of_terminates {seed : IncidentState} (h : C.Terminates seed) :
    C.RepairsSentBack [] (loggedEntry seed) := by
  intro vs c hleads hnext hpr
  rw [List.nil_append] at hpr ⊢
  by_contra hsent
  let c₁ := C.after vs .planner c.state
  have hplan : C.Leads vs c [.planner] c₁ := C.leads_cons hnext (.nil _ _)
  have hroute : c₁.next = some .dev := by
    show some (routeAfterPlanner (C.plan (vs.count .planner))) = some .dev
    rw [routeAfterPlanner, if_pos hpr]
  have hcounts : ¬ C.SentBack maxDevVerifyIterations ((vs ++ [Node.planner]).count .verifier)
      ((vs ++ [Node.planner]).count .reviewer) := by simpa using hsent
  obtain ⟨ws, c', hws, hnot, hend⟩ := strays_of_not_sentBack hroute hcounts
  have hall : C.Leads [] (loggedEntry seed) (vs ++ .planner :: ws) c' :=
    hleads.append _ (hplan.append _ hws)
  rcases hend with hcount | ⟨us, rfl, happroves, hdev⟩
  · have hinfix : ws <:+: vs ++ .planner :: ws := ⟨vs ++ [.planner], [], by simp⟩
    have hle := h.bounded _ c' hall ws hinfix hnot
    omega
  · have happroved := h.approved (vs ++ .planner :: us) c' (by simpa using hall)
      (by simpa using happroves)
    rw [hdev] at happroved
    cases happroved

/-- **When the routed repair lifecycle terminates.** Exactly when every repair it
comes to is sent back to the Investigator within three rounds, with no approval
before: an approval goes back to Dev, and the rounds are not counted. -/
theorem terminates_iff (seed : IncidentState) :
    C.Terminates seed ↔
      ∀ vs c, C.Leads [] (loggedEntry seed) vs c → c.next = some .planner →
        (C.plan (vs.count .planner)).type = .pr →
        C.SentBack 3 (vs.count .verifier) (vs.count .reviewer) :=
  ⟨C.repairsSentBack_of_terminates, C.terminates_of_repairsSentBack⟩

end Choices

/-! ### The nodes of the repository -/

section World

variable {κ ν : Type} (W : World κ ν) (result : ℕ → VerifierResult)
  (review : ℕ → Option ReviewerOutput)

/-- The event of a review. -/
def reviewEvent (output : Option ReviewerOutput) : String :=
  match output with
  | some o => "reviewer." ++ Llm.decisionValue o.decision
  | none => "reviewer.skipped.no_proposal"

/-- What the nodes write along a walk. -/
def walkUpdate (before : List Node) : Node → IncidentState → StateUpdate
  | .intake, s => intakeNode (W.clock before) s
  | .investigator, s => investigatorNode (W.clock before) W.sha256 (W.answerAt before) s
  | .collectors, s => collectorsNode (W.collectorsEnv before) s
  | .planner, s =>
      plannerNode (W.clock before) W.sign (W.plannerAnswer (before.count .planner)) s
  | .dev, s => devNode (W.clock before) s
  | .verifier, s => verifierUpdate (W.clock before) (result (before.count .verifier)) s
  | .reviewer, s =>
      reviewerUpdate (W.clock before) (reviewEvent (review (before.count .reviewer))) s
  | .coordinator, s => (W.coordinate before s).update.toStateUpdate

/-- The walk of the nodes of the repository, for any results of the Verifier and
any decisions of the Reviewer. -/
def World.choices : Choices where
  update := walkUpdate W result review
  plan n := gatedPlan (W.plannerAnswer n)
  result := result
  review := review
  attempts_tick before s := W.tick_attempts before s
  attempts_other before v s hv := by
    cases v with
    | investigator => exact absurd rfl hv
    | collectors => exact W.collect_attempts before s
    | intake => rfl
    | planner => rfl
    | dev => rfl
    | verifier => rfl
    | reviewer => rfl
    | coordinator => rfl

end World

/-! ### An approved fix -/

/-- The checks pass and the Reviewer approves, and the fix goes back to Dev. -/
theorem not_terminates :
    ¬ ∀ (C : Choices) (env : Intake.IntakeEnv) (alert : Intake.AlertmanagerAlert)
      (receiver : String), C.Terminates (Intake.seedIncident env alert receiver) := by
  intro h
  let result : VerifierResult := { kind := .passed }
  let review : ReviewerOutput := { decision := .approve, reasoning := "The fix is sound." }
  let C := pullRequestWorld.choices (fun _ => result) (fun _ => some review)
  have hterminates := h C testIntake testAlert "default"
  have hsent := C.repairsSentBack_of_terminates hterminates [.intake, .investigator]
    (C.after [.intake] .investigator (C.after [] .intake { state := testIncident }).state)
    (C.leads_cons rfl (C.leads_cons rfl (.nil _ _)))
  have hplanner := hsent (congrArg some routeAfterInvestigator_pullRequest)
  have hpr : (gatedPlan (pullRequestWorld.plannerAnswer 0)).type = .pr := by
    by_contra hnot
    have hroute := routeAfterPlanner_pullRequest
    rw [routeAfterPlanner, if_neg hnot] at hroute
    cases hroute
  have hback := hplanner hpr
  rcases hback with hchallenge | ⟨happroves, -⟩
  · cases hchallenge
  · cases happroves

end AlphE.Orchestrator
