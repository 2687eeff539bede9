import AlphE.Lib.Operations
import Mathlib.Logic.Function.Basic

/-!
Threads over a shared state. Each thread has a local state and takes atomic steps; a
step reads and writes the local state of its thread and the shared one, and has an
outcome that is given from outside. A schedule says which thread takes the next step,
and with which outcome.

What is proved of a whole schedule rests on two facts about one step: the thread that
takes it keeps the invariant and its own assertion, and it does not interfere with the
assertions of the others.
-/

universe u v w x

structure Threads (ι : Type u) (τ : Type v) (σ : Type w) where
  locals : ι → τ
  shared : σ

namespace Threads

variable {ι : Type u} {τ : Type v} {σ : Type w} {α : Type x} [DecidableEq ι]
  (step : ι → τ → σ → α → τ × σ)

/-- Thread `op.1` takes a step with the outcome `op.2`. -/
def act (c : Threads ι τ σ) (op : ι × α) : Threads ι τ σ where
  locals := Function.update c.locals op.1 (step op.1 (c.locals op.1) c.shared op.2).1
  shared := (step op.1 (c.locals op.1) c.shared op.2).2

theorem locals_act_self (c : Threads ι τ σ) (i : ι) (a : α) :
    (c.act step (i, a)).locals i = (step i (c.locals i) c.shared a).1 :=
  Function.update_self _ _ _

theorem locals_act_of_ne (c : Threads ι τ σ) {i j : ι} (h : j ≠ i) (a : α) :
    (c.act step (i, a)).locals j = c.locals j :=
  Function.update_of_ne h _ _

/-- A thread that runs alone. -/
theorem foldl_act_solo (c : Threads ι τ σ) (i : ι) (as : List α) :
    (as.map fun a => (i, a)).foldl (act step) c =
      { locals := Function.update c.locals i
          (as.foldl (fun p a => step i p.1 p.2 a) (c.locals i, c.shared)).1
        shared := (as.foldl (fun p a => step i p.1 p.2 a) (c.locals i, c.shared)).2 } := by
  induction as generalizing c with
  | nil =>
      obtain ⟨locals, shared⟩ := c
      rw [List.foldl_nil, Function.update_eq_self]
      rfl
  | cons a as ih =>
      rw [List.map_cons, List.foldl_cons, ih, locals_act_self, act, Function.update_idem]
      rfl

/-- The assertions of all threads. -/
def Asserted (L : ι → τ → σ → Prop) (c : Threads ι τ σ) : Prop :=
  ∀ i, L i (c.locals i) c.shared

variable {step}

/-- The rule for a step: the thread keeps its own assertion, and does not interfere with
those of the others. -/
theorem Asserted.act {L : ι → τ → σ → Prop} {c : Threads ι τ σ} (h : Asserted L c) {i : ι}
    {a : α}
    (hown : L i (step i (c.locals i) c.shared a).1 (step i (c.locals i) c.shared a).2)
    (hothers : ∀ j, j ≠ i → L j (c.locals j) c.shared →
      L j (c.locals j) (step i (c.locals i) c.shared a).2) :
    Asserted L (c.act step (i, a)) := by
  intro j
  by_cases hj : j = i
  · rw [hj, locals_act_self]
    exact hown
  · rw [locals_act_of_ne step c hj]
    exact hothers j hj (h j)

end Threads
