import Mathlib.Data.List.Basic

/-!
Sequential workflows. A workflow executes one node after another on a state;
each node hands the state on, or raises, and a routing function says which node
comes next, or that the workflow ends. A run keeps a journal: after every node,
the state it left and the node that is next.

The number of nodes a run may execute is limited. What executing a node does
may depend on the nodes executed before it in the same run, so that a run reads
the answers of its surroundings one after another.
-/

universe u v w

/-- A state, and the node that is next; `none` is the end. -/
structure Config (ν : Type u) (σ : Type v) where
  state : σ
  next : Option ν

structure Workflow (ν : Type u) (σ : Type v) (ε : Type w) where
  exec : List ν → ν → σ → Except ε σ
  route : ν → σ → Option ν

namespace Workflow

variable {ν : Type u} {σ : Type v} {ε : Type w}

/-- How a run stops. -/
inductive Outcome (ε : Type w)
  | done
  | raised (e : ε)
  | outOfSteps

/-- The journal of a run, one entry for each node that completed, and how the
run stops. -/
@[ext] structure Run (ν : Type u) (σ : Type v) (ε : Type w) where
  commits : List (ν × Config ν σ)
  outcome : Outcome ε

/-- The last configuration of a journal that starts in `c`. -/
def lastOf (c : Config ν σ) (commits : List (ν × Config ν σ)) : Config ν σ :=
  (commits.map Prod.snd).getLastD c

@[simp] theorem lastOf_nil (c : Config ν σ) :
    lastOf c ([] : List (ν × Config ν σ)) = c := rfl

@[simp] theorem lastOf_cons (c c' : Config ν σ) (v : ν)
    (commits : List (ν × Config ν σ)) :
    lastOf c ((v, c') :: commits) = lastOf c' commits := by
  rw [lastOf, List.map_cons, List.getLastD_cons]
  rfl

namespace Run

/-- The nodes that completed. -/
def visited (r : Run ν σ ε) : List ν := r.commits.map Prod.fst

/-- The last configuration the run leaves when it starts in `c`. -/
def final (r : Run ν σ ε) (c : Config ν σ) : Config ν σ := lastOf c r.commits

/-- What the run has put into its journal, the start included. -/
def journal (r : Run ν σ ε) (c : Config ν σ) : List (Config ν σ) :=
  c :: r.commits.map Prod.snd

/-- The journal of a run that was cut after `n` nodes ends in the last entry
left. -/
theorem getLast?_take_journal (r : Run ν σ ε) (c : Config ν σ) (n : ℕ) :
    ((r.journal c).take (n + 1)).getLast? = some (lastOf c (r.commits.take n)) := by
  rw [journal, List.take_succ_cons, List.getLast?_cons, ← List.map_take, lastOf,
    List.getLastD_eq_getLast?]

theorem getLast?_journal (r : Run ν σ ε) (c : Config ν σ) :
    (r.journal c).getLast? = some (r.final c) := by
  rw [journal, List.getLast?_cons, final, lastOf, List.getLastD_eq_getLast?]

/-- The run with one more entry at the front. -/
def cons (v : ν) (c : Config ν σ) (r : Run ν σ ε) : Run ν σ ε :=
  { r with commits := (v, c) :: r.commits }

@[simp] theorem visited_cons (v : ν) (c : Config ν σ) (r : Run ν σ ε) :
    (r.cons v c).visited = v :: r.visited := rfl

@[simp] theorem outcome_cons (v : ν) (c : Config ν σ) (r : Run ν σ ε) :
    (r.cons v c).outcome = r.outcome := rfl

@[simp] theorem commits_cons (v : ν) (c : Config ν σ) (r : Run ν σ ε) :
    (r.cons v c).commits = (v, c) :: r.commits := rfl

@[simp] theorem final_cons (v : ν) (c c₀ : Config ν σ) (r : Run ν σ ε) :
    (r.cons v c).final c₀ = r.final c :=
  lastOf_cons c₀ c v r.commits

end Run

variable (W : Workflow ν σ ε)

/-- The run from a configuration, after the nodes `before`, of at most `limit`
nodes. -/
def run : ℕ → List ν → Config ν σ → Run ν σ ε
  | _, _, ⟨_, none⟩ => ⟨[], .done⟩
  | 0, _, ⟨_, some _⟩ => ⟨[], .outOfSteps⟩
  | limit + 1, before, ⟨s, some v⟩ =>
      match W.exec before v s with
      | .error e => ⟨[], .raised e⟩
      | .ok s' =>
          (run limit (before ++ [v]) ⟨s', W.route v s'⟩).cons v ⟨s', W.route v s'⟩

theorem run_end (limit : ℕ) (before : List ν) (s : σ) :
    W.run limit before ⟨s, none⟩ = ⟨[], .done⟩ := by
  cases limit <;> rfl

theorem run_of_ok {limit : ℕ} {before : List ν} {v : ν} {s s' : σ}
    (h : W.exec before v s = .ok s') :
    W.run (limit + 1) before ⟨s, some v⟩ =
      (W.run limit (before ++ [v]) ⟨s', W.route v s'⟩).cons v ⟨s', W.route v s'⟩ := by
  rw [run, h]

theorem run_of_error {limit : ℕ} {before : List ν} {v : ν} {s : σ} {e : ε}
    (h : W.exec before v s = .error e) :
    W.run (limit + 1) before ⟨s, some v⟩ = ⟨[], .raised e⟩ := by
  rw [run, h]

/-! ### Rules about runs -/

/-- Consecutive configurations of a journal are related by `R`. -/
def Chain (R : Config ν σ → ν → Config ν σ → Prop) :
    Config ν σ → List (ν × Config ν σ) → Prop
  | _, [] => True
  | c, (v, c') :: rest => R c v c' ∧ Chain R c' rest

/-- The step rule: what every node guarantees from a configuration that meets
the invariant `P`, which every node restores, holds along the journal. -/
theorem run_chain {P : Config ν σ → Prop} {R : Config ν σ → ν → Config ν σ → Prop}
    (hstep : ∀ before v s s', P ⟨s, some v⟩ → W.exec before v s = .ok s' →
      P ⟨s', W.route v s'⟩ ∧ R ⟨s, some v⟩ v ⟨s', W.route v s'⟩)
    (limit : ℕ) (before : List ν) (c : Config ν σ) (hc : P c) :
    Chain R c (W.run limit before c).commits := by
  induction limit generalizing before c with
  | zero =>
      obtain ⟨s, next⟩ := c
      cases next <;> trivial
  | succ limit ih =>
      obtain ⟨s, next⟩ := c
      cases next with
      | none => trivial
      | some v =>
          cases hexec : W.exec before v s with
          | error e =>
              rw [run, hexec]
              trivial
          | ok s' =>
              obtain ⟨hc', hR⟩ := hstep before v s s' hc hexec
              rw [W.run_of_ok hexec]
              exact ⟨hR, ih _ _ hc'⟩

/-- What every node guarantees of the configuration it leaves holds of every
entry of a journal. -/
theorem run_forall {Q : ν → Config ν σ → Prop}
    (hstep : ∀ before v s s', W.exec before v s = .ok s' → Q v ⟨s', W.route v s'⟩)
    (limit : ℕ) (before : List ν) (c : Config ν σ) :
    ∀ p ∈ (W.run limit before c).commits, Q p.1 p.2 := by
  induction limit generalizing before c with
  | zero =>
      obtain ⟨s, next⟩ := c
      cases next <;> simp [run]
  | succ limit ih =>
      obtain ⟨s, next⟩ := c
      cases next with
      | none => simp [run]
      | some v =>
          cases hexec : W.exec before v s with
          | error e => simp [run, hexec]
          | ok s' =>
              rw [W.run_of_ok hexec, Run.commits_cons, List.forall_mem_cons]
              exact ⟨hstep before v s s' hexec, ih _ _⟩

/-- The invariant rule. -/
theorem Chain.invariant {R : Config ν σ → ν → Config ν σ → Prop}
    {P : Config ν σ → Prop} (hR : ∀ c v c', R c v c' → P c → P c')
    {c : Config ν σ} {commits : List (ν × Config ν σ)} (hP : P c)
    (h : Chain R c commits) : ∀ p ∈ commits, P p.2 := by
  induction commits generalizing c with
  | nil => simp
  | cons p commits ih =>
      obtain ⟨v, c'⟩ := p
      have hc' : P c' := hR c v c' h.1 hP
      rw [List.forall_mem_cons]
      exact ⟨hc', ih hc' h.2⟩

/-- What holds from one entry to the next holds from every entry to every later
one, when it is reflexive and transitive. -/
theorem Chain.pairwise {R : Config ν σ → ν → Config ν σ → Prop}
    {S : Config ν σ → Config ν σ → Prop} (hR : ∀ c v c', R c v c' → S c c')
    (hrefl : ∀ c, S c c) (htrans : ∀ {a b c}, S a b → S b c → S a c)
    {c : Config ν σ} {commits : List (ν × Config ν σ)} (h : Chain R c commits) :
    (c :: commits.map Prod.snd).Pairwise S := by
  induction commits generalizing c with
  | nil => simp
  | cons p commits ih =>
      obtain ⟨v, c'⟩ := p
      rw [List.pairwise_cons]
      refine ⟨?_, ih h.2⟩
      have hlater := Chain.invariant (P := S c)
        (fun a v b hab hca => htrans hca (hR a v b hab)) (hrefl c) h
      intro b hb
      obtain ⟨q, hq, rfl⟩ := List.mem_map.mp hb
      exact hlater q hq

theorem Chain.append {R : Config ν σ → ν → Config ν σ → Prop} {c : Config ν σ}
    {xs ys : List (ν × Config ν σ)} (h : Chain R c (xs ++ ys)) :
    Chain R c xs ∧ Chain R (lastOf c xs) ys := by
  induction xs generalizing c with
  | nil => exact ⟨trivial, h⟩
  | cons p xs ih =>
      obtain ⟨v, c'⟩ := p
      obtain ⟨hxs, hys⟩ := ih h.2
      exact ⟨⟨h.1, hxs⟩, by rwa [lastOf_cons]⟩

/-- The composition rule: what relates a step to what follows it relates the ends of
a journal, through the nodes in between. -/
theorem Chain.compose {R : Config ν σ → ν → Config ν σ → Prop}
    {T : Config ν σ → List ν → Config ν σ → Prop} (hrefl : ∀ c, T c [] c)
    (hstep : ∀ {c v c' vs c''}, R c v c' → T c' vs c'' → T c (v :: vs) c'')
    {c : Config ν σ} {commits : List (ν × Config ν σ)} (h : Chain R c commits) :
    T c (commits.map Prod.fst) (lastOf c commits) := by
  induction commits generalizing c with
  | nil => exact hrefl c
  | cons p commits ih =>
      obtain ⟨v, c'⟩ := p
      rw [lastOf_cons]
      exact hstep h.1 (ih h.2)

/-- What every entry of a journal records: the node that was next, and the
route from it. -/
def Follows (c : Config ν σ) (v : ν) (c' : Config ν σ) : Prop :=
  c.next = some v ∧ c'.next = W.route v c'.state

theorem run_follows (limit : ℕ) (before : List ν) (c : Config ν σ) :
    Chain W.Follows c (W.run limit before c).commits := by
  apply run_chain (P := fun _ => True)
  · intro before v s s' _ _
    exact ⟨trivial, rfl, rfl⟩
  · trivial

/-- Nothing follows the end. -/
theorem Chain.eq_nil_of_end {c : Config ν σ} {commits : List (ν × Config ν σ)}
    (h : Chain W.Follows c commits) (hend : c.next = none) : commits = [] := by
  cases commits with
  | nil => rfl
  | cons p commits =>
      obtain ⟨hnext, -⟩ := h.1
      rw [hend] at hnext
      cases hnext

/-- The last entry of a journal records the route from the last node. -/
theorem Chain.next_lastOf {c : Config ν σ} {commits : List (ν × Config ν σ)}
    (h : Chain W.Follows c commits) (v : ν)
    (hlast : (commits.map Prod.fst).getLast? = some v) :
    (lastOf c commits).next = W.route v (lastOf c commits).state := by
  induction commits generalizing c with
  | nil => cases hlast
  | cons p commits ih =>
      obtain ⟨w, c'⟩ := p
      obtain ⟨hstep, hrest⟩ := h
      rw [lastOf_cons]
      cases commits with
      | nil =>
          rw [List.map_cons, List.map_nil, List.getLast?_singleton, Option.some.injEq] at hlast
          rw [← hlast]
          exact hstep.2
      | cons q commits => exact ih hrest hlast

/-- A run ends exactly when the configuration it leaves has no next node. -/
theorem run_done_iff (limit : ℕ) (before : List ν) (c : Config ν σ) :
    (W.run limit before c).outcome = .done ↔
      ((W.run limit before c).final c).next = none := by
  induction limit generalizing before c with
  | zero =>
      obtain ⟨s, next⟩ := c
      cases next <;> simp [run, Run.final, lastOf]
  | succ limit ih =>
      obtain ⟨s, next⟩ := c
      cases next with
      | none => simp [run, Run.final, lastOf]
      | some v =>
          cases hexec : W.exec before v s with
          | error e => simp [run, hexec, Run.final, lastOf]
          | ok s' =>
              rw [W.run_of_ok hexec, Run.outcome_cons, Run.final_cons]
              exact ih _ _

/-! ### Paths

What a run does without a limit: the workflow leads from one configuration to
another through the nodes of a list. -/

inductive Path : List ν → Config ν σ → List ν → Config ν σ → Prop
  | nil (before : List ν) (c : Config ν σ) : Path before c [] c
  | cons {before : List ν} {v : ν} {s s' : σ} {vs : List ν} {c : Config ν σ}
      (hexec : W.exec before v s = .ok s')
      (rest : Path (before ++ [v]) ⟨s', W.route v s'⟩ vs c) :
      Path before ⟨s, some v⟩ (v :: vs) c

theorem Path.append {before vs ws : List ν} {c c' c'' : Config ν σ}
    (h : W.Path before c vs c') (h' : W.Path (before ++ vs) c' ws c'') :
    W.Path before c (vs ++ ws) c'' := by
  induction h with
  | nil before c => rwa [List.append_nil] at h'
  | @cons before v s s' vs c hexec rest ih =>
      apply Path.cons hexec
      apply ih
      rwa [List.append_assoc, List.singleton_append]

/-- There is one path only: what does not go beyond the end is the beginning of
the path to the end. -/
theorem Path.prefix_of_end {before vs ws : List ν} {c c' c'' : Config ν σ}
    (h : W.Path before c vs c') (hend : c'.next = none) (h' : W.Path before c ws c'') :
    ws <+: vs := by
  induction h generalizing ws with
  | nil before c =>
      cases h' with
      | nil => exact List.prefix_rfl
      | cons => cases hend
  | @cons before v s s' vs c hexec rest ih =>
      cases h' with
      | nil => exact List.nil_prefix
      | cons hexec' rest' =>
          rw [hexec, Except.ok.injEq] at hexec'
          subst hexec'
          rw [List.prefix_cons_inj]
          exact ih hend rest'

/-- A path is what a run goes along that may execute so many nodes. -/
theorem Path.run {before vs : List ν} {c c' : Config ν σ} (h : W.Path before c vs c') :
    (W.run vs.length before c).visited = vs ∧
      (W.run vs.length before c).final c = c' := by
  induction h with
  | nil before c =>
      obtain ⟨s, next⟩ := c
      cases next <;> exact ⟨rfl, rfl⟩
  | @cons before v s s' vs c hexec rest ih =>
      obtain ⟨hvisited, hfinal⟩ := ih
      rw [List.length_cons, W.run_of_ok hexec, Run.visited_cons, Run.final_cons]
      exact ⟨by rw [hvisited], hfinal⟩

/-! ### Forgetting part of the state -/

universe x

/-- A run in which only an image of each state is kept. -/
def Run.mapState {τ : Type x} (f : σ → τ) (r : Run ν σ ε) : Run ν τ ε :=
  { commits := r.commits.map fun p => (p.1, ⟨f p.2.state, p.2.next⟩), outcome := r.outcome }

/-- When the nodes act on the image of a state as they act on the state, and the
route is read off the image, the runs of the images are the images of the
runs. -/
theorem run_mapState {τ : Type x} (W' : Workflow ν τ ε) (f : σ → τ)
    (hexec : ∀ before v s, W'.exec before v (f s) = (W.exec before v s).map f)
    (hroute : ∀ v s, W'.route v (f s) = W.route v s) (limit : ℕ) (before : List ν)
    (s : σ) (next : Option ν) :
    W'.run limit before ⟨f s, next⟩ = (W.run limit before ⟨s, next⟩).mapState f := by
  induction limit generalizing before s next with
  | zero => cases next <;> rfl
  | succ limit ih =>
      cases next with
      | none => rfl
      | some v =>
          have hstep := hexec before v s
          cases h : W.exec before v s with
          | error e =>
              rw [h] at hstep
              rw [run, run, h, hstep]
              rfl
          | ok s' =>
              rw [h] at hstep
              rw [W.run_of_ok h, W'.run_of_ok hstep, hroute, ih]
              rfl

/-! ### Two ways of routing -/

/-- The same nodes, routed differently. -/
def withRoute (route' : ν → σ → Option ν) : Workflow ν σ ε :=
  { W with route := route' }

/-- Two ways of routing give the same run exactly when they agree on every step
of it. -/
theorem run_eq_withRoute_iff (route' : ν → σ → Option ν) (limit : ℕ) (before : List ν)
    (c : Config ν σ) :
    W.run limit before c = (W.withRoute route').run limit before c ↔
      ∀ p ∈ (W.run limit before c).commits, p.2.next = route' p.1 p.2.state := by
  induction limit generalizing before c with
  | zero =>
      obtain ⟨s, next⟩ := c
      cases next <;> simp [run]
  | succ limit ih =>
      obtain ⟨s, next⟩ := c
      cases next with
      | none => simp [run]
      | some v =>
          cases hexec : W.exec before v s with
          | error e =>
              have hexec' : (W.withRoute route').exec before v s = .error e := hexec
              rw [run, run, hexec, hexec']
              simp
          | ok s' =>
              have hexec' : (W.withRoute route').exec before v s = .ok s' := hexec
              rw [W.run_of_ok hexec, run_of_ok _ hexec', Run.commits_cons, List.forall_mem_cons]
              by_cases hroute : W.route v s' = route' v s'
              · -- The step agrees, and the rest has to.
                have hnext : (W.withRoute route').route v s' = W.route v s' := hroute.symm
                rw [hnext, ← ih]
                simp [hroute, Run.cons, Run.ext_iff]
              · constructor
                · intro hrun
                  rw [Run.ext_iff, Run.commits_cons, Run.commits_cons, List.cons.injEq,
                    Prod.mk.injEq, Config.mk.injEq] at hrun
                  exact absurd hrun.1.1.2.2 hroute
                · rintro ⟨hstep, -⟩
                  exact absurd hstep hroute

/-! ### What a run emits -/

section Emitted

universe y

variable {β : Type y} (emit : List ν → ν → σ → List β)

/-- What the nodes emit when they are executed, the one that raises included. -/
def emitted : ℕ → List ν → Config ν σ → List β
  | _, _, ⟨_, none⟩ => []
  | 0, _, ⟨_, some _⟩ => []
  | limit + 1, before, ⟨s, some v⟩ =>
      emit before v s ++
        match W.exec before v s with
        | .error _ => []
        | .ok s' => emitted limit (before ++ [v]) ⟨s', W.route v s'⟩

variable {emit}

theorem emitted_of_ok {limit : ℕ} {before : List ν} {v : ν} {s s' : σ}
    (h : W.exec before v s = .ok s') :
    W.emitted emit (limit + 1) before ⟨s, some v⟩ =
      emit before v s ++ W.emitted emit limit (before ++ [v]) ⟨s', W.route v s'⟩ := by
  rw [emitted, h]

theorem emitted_of_error {limit : ℕ} {before : List ν} {v : ν} {s : σ} {e : ε}
    (h : W.exec before v s = .error e) :
    W.emitted emit (limit + 1) before ⟨s, some v⟩ = emit before v s := by
  rw [emitted, h]
  exact List.append_nil _

/-- Everything that is emitted was emitted by some node. -/
theorem forall_mem_emitted {P : β → Prop} (h : ∀ before v s, ∀ x ∈ emit before v s, P x)
    (limit : ℕ) (before : List ν) (c : Config ν σ) :
    ∀ x ∈ W.emitted emit limit before c, P x := by
  induction limit generalizing before c with
  | zero =>
      obtain ⟨s, next⟩ := c
      cases next <;> exact fun x hx => absurd hx List.not_mem_nil
  | succ limit ih =>
      obtain ⟨s, next⟩ := c
      cases next with
      | none => exact fun x hx => absurd hx List.not_mem_nil
      | some v =>
          cases hexec : W.exec before v s with
          | error e =>
              rw [W.emitted_of_error hexec]
              exact h before v s
          | ok s' =>
              rw [W.emitted_of_ok hexec, List.forall_mem_append]
              exact ⟨h before v s, ih _ _⟩

/-- The potential rule: every node pays for what it emits out of a potential that is never
refilled. -/
theorem length_emitted_le {φ : Config ν σ → ℕ}
    (hpays : ∀ before v s, (emit before v s).length ≤ φ ⟨s, some v⟩)
    (hstep : ∀ before v s s', W.exec before v s = .ok s' →
      (emit before v s).length + φ ⟨s', W.route v s'⟩ ≤ φ ⟨s, some v⟩)
    (limit : ℕ) (before : List ν) (c : Config ν σ) :
    (W.emitted emit limit before c).length ≤ φ c := by
  induction limit generalizing before c with
  | zero =>
      obtain ⟨s, next⟩ := c
      cases next <;> exact Nat.zero_le _
  | succ limit ih =>
      obtain ⟨s, next⟩ := c
      cases next with
      | none => exact Nat.zero_le _
      | some v =>
          cases hexec : W.exec before v s with
          | error e =>
              rw [W.emitted_of_error hexec]
              exact hpays before v s
          | ok s' =>
              rw [W.emitted_of_ok hexec, List.length_append]
              exact Nat.le_trans (Nat.add_le_add_left (ih _ _) _) (hstep before v s s' hexec)

end Emitted

end Workflow
