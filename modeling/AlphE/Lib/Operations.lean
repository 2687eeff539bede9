import Mathlib.Data.List.Basic

/-!
A state that changes by operations, one after the other. What an operation does
is a function of the state it is made in; which operations may be made there, and
which of them keep an invariant, are predicates of that state and the operation.
An operation may put something out, and the state may collect it.
-/

universe u v w

namespace Operations

variable {σ : Type u} {ο : Type v} (step : σ → ο → σ)

/-- The states after each operation. -/
def states : σ → List ο → List σ
  | _, [] => []
  | s, op :: ops => step s op :: states (step s op) ops

/-- Each operation meets `P` in the state it is made in. -/
def Along (P : σ → ο → Prop) : σ → List ο → Prop
  | _, [] => True
  | s, op :: ops => P s op ∧ Along P (step s op) ops

variable {step}

/-- Along a list that is continued. -/
theorem along_append {P : σ → ο → Prop} {s : σ} {ops ops' : List ο} :
    Along step P s (ops ++ ops') ↔
      Along step P s ops ∧ Along step P (ops.foldl step s) ops' := by
  induction ops generalizing s with
  | nil => simp [Along]
  | cons op ops ih =>
      rw [List.cons_append, Along, Along, ih, List.foldl_cons, and_assoc]

/-- Along operations that are made where an invariant holds, two conditions agree when
they agree there and one of them keeps the invariant. -/
theorem along_congr {I : σ → Prop} {A P Q : σ → ο → Prop}
    (hiff : ∀ s op, I s → A s op → (P s op ↔ Q s op))
    (hnext : ∀ s op, I s → A s op → Q s op → I (step s op)) {s : σ} {ops : List ο}
    (hs : I s) (hops : Along step A s ops) : Along step P s ops ↔ Along step Q s ops := by
  induction ops generalizing s with
  | nil => exact Iff.rfl
  | cons op ops ih =>
      obtain ⟨hop, hrest⟩ := hops
      rw [Along, Along, hiff s op hs hop]
      apply and_congr_right
      intro hgood
      exact ih (hnext s op hs hop hgood) hrest

theorem along_true (s : σ) (ops : List ο) : Along step (fun _ _ => True) s ops := by
  induction ops generalizing s with
  | nil => trivial
  | cons op ops ih => exact ⟨trivial, ih _⟩

/-- When the operations that keep the invariant are known, it holds after every
operation exactly when every operation is one of them. -/
theorem states_invariant_iff {I : σ → Prop} {A G : σ → ο → Prop}
    (hstep : ∀ s op, I s → A s op → (I (step s op) ↔ G s op)) {s : σ} {ops : List ο}
    (hs : I s) (hops : Along step A s ops) :
    (∀ t ∈ states step s ops, I t) ↔ Along step G s ops := by
  induction ops generalizing s with
  | nil => simp [states, Along]
  | cons op ops ih =>
      obtain ⟨hop, hrest⟩ := hops
      rw [states, List.forall_mem_cons, Along, hstep s op hs hop]
      apply and_congr_right
      intro hgood
      exact ih ((hstep s op hs hop).mpr hgood) hrest

/-- The invariant rule: what every operation that may be made keeps holds at the
end. -/
theorem invariant_foldl {I : σ → Prop} {A : σ → ο → Prop}
    (hstep : ∀ s op, I s → A s op → I (step s op)) {s : σ} {ops : List ο}
    (hs : I s) (hops : Along step A s ops) : I (ops.foldl step s) := by
  induction ops generalizing s with
  | nil => exact hs
  | cons op ops ih => exact ih (hstep s op hs hops.1) hops.2

/-- A property of states holds after every operation exactly when every operation is one
of those that bring it about, along an invariant which these keep. -/
theorem forall_states_iff {I P : σ → Prop} {G : σ → ο → Prop}
    (hiff : ∀ s op, I s → (P (step s op) ↔ G s op))
    (hnext : ∀ s op, I s → G s op → I (step s op)) {s : σ} {ops : List ο} (hs : I s) :
    (∀ t ∈ states step s ops, P t) ↔ Along step G s ops := by
  induction ops generalizing s with
  | nil => simp [states, Along]
  | cons op ops ih =>
      rw [states, List.forall_mem_cons, Along, hiff s op hs]
      apply and_congr_right
      intro hgood
      exact ih (hnext s op hs hgood)

/-! ### The last operation that counts -/

/-- Either no operation is a `T`, or there is a last one. -/
theorem along_not_or_exists_last (T : σ → ο → Prop) (s : σ) (ops : List ο) :
    Along step (fun s op => ¬ T s op) s ops ∨
      ∃ front op back, ops = front ++ op :: back ∧ T (front.foldl step s) op ∧
        Along step (fun s op => ¬ T s op) (step (front.foldl step s) op) back := by
  induction ops generalizing s with
  | nil => exact .inl trivial
  | cons op ops ih =>
      obtain hrest | ⟨front, last, back, rfl, hlast, hback⟩ := ih (step s op)
      · by_cases hop : T s op
        · exact .inr ⟨[], op, ops, rfl, hop, hrest⟩
        · exact .inl ⟨hop, hrest⟩
      · exact .inr ⟨op :: front, last, back, rfl, hlast, hback⟩

/-- What only a `T` changes is as before when no operation is one. -/
theorem view_foldl {γ : Type w} {T : σ → ο → Prop} (view : σ → γ)
    (hkeep : ∀ s op, ¬ T s op → view (step s op) = view s) {s : σ} {ops : List ο}
    (hops : Along step (fun s op => ¬ T s op) s ops) : view (ops.foldl step s) = view s := by
  refine invariant_foldl (I := fun t => view t = view s) ?_ rfl hops
  intro t op ht hop
  exact (hkeep t op hop).trans ht

/-! ### Operations that go unnoticed -/

/-- The unwinding rule: when what is kept keeps a relation, and what is left out does not
leave it, it holds between the ends of a list and of its kept part. -/
theorem unwinding {R : σ → σ → Prop} {keep : ο → Bool}
    (hkeep : ∀ s t op, keep op = true → R s t → R (step s op) (step t op))
    (hskip : ∀ s t op, keep op = false → R s t → R (step s op) t) {s t : σ} (ops : List ο)
    (h : R s t) : R (ops.foldl step s) ((ops.filter keep).foldl step t) := by
  induction ops generalizing s t with
  | nil => exact h
  | cons op ops ih =>
      rw [List.foldl_cons]
      cases hop : keep op with
      | true =>
          rw [List.filter_cons_of_pos hop, List.foldl_cons]
          exact ih (hkeep s t op hop h)
      | false =>
          rw [List.filter_cons_of_neg (ne_true_of_eq_false hop)]
          exact ih (hskip s t op hop h)

/-! ### What is put out -/

section Outputs

variable {β : Type w} (step) (out : σ → ο → Option β)

/-- What the operations put out, in order. -/
def outputs : σ → List ο → List β
  | _, [] => []
  | s, op :: ops => (out s op).toList ++ outputs (step s op) ops

variable {step out}

theorem outputs_append {s : σ} {ops ops' : List ο} :
    outputs step out s (ops ++ ops') =
      outputs step out s ops ++ outputs step out (ops.foldl step s) ops' := by
  induction ops generalizing s with
  | nil => rfl
  | cons op ops ih =>
      rw [List.cons_append, outputs, outputs, ih, List.foldl_cons, List.append_assoc]

theorem outputs_subset {s : σ} {ops ops' : List ο} (h : ops <+: ops') :
    outputs step out s ops ⊆ outputs step out s ops' := by
  obtain ⟨rest, rfl⟩ := h
  rw [outputs_append]
  exact List.subset_append_left _ _

theorem mem_outputs {s : σ} {before after : List ο} {op : ο} {y : β}
    (h : out (before.foldl step s) op = some y) :
    y ∈ outputs step out s (before ++ op :: after) := by
  rw [outputs_append, outputs, h]
  simp

/-- What is put out is put out by some operation, after the ones before it. -/
theorem exists_of_prefix_outputs {s : σ} {ops : List ο} {ys : List β} {y : β}
    (h : ys ++ [y] <+: outputs step out s ops) :
    ∃ before op after, ops = before ++ op :: after ∧
      outputs step out s before = ys ∧ out (before.foldl step s) op = some y := by
  induction ops generalizing s ys with
  | nil => simp [outputs] at h
  | cons op ops ih =>
      rw [outputs] at h
      cases hout : out s op with
      | none =>
          rw [hout, Option.toList_none, List.nil_append] at h
          obtain ⟨before, op', after, rfl, hbefore, hop'⟩ := ih h
          refine ⟨op :: before, op', after, rfl, ?_, hop'⟩
          rw [outputs, hout, Option.toList_none, List.nil_append, hbefore]
      | some x =>
          rw [hout, Option.toList_some, List.singleton_append] at h
          cases ys with
          | nil =>
              have heq : y = x := (List.cons_prefix_cons.mp h).1
              exact ⟨[], op, ops, rfl, rfl, heq ▸ hout⟩
          | cons x' ys =>
              obtain ⟨rfl, hrest⟩ := List.cons_prefix_cons.mp h
              obtain ⟨before, op', after, rfl, hbefore, hop'⟩ := ih hrest
              refine ⟨op :: before, op', after, rfl, ?_, hop'⟩
              rw [outputs, hout, Option.toList_some, List.singleton_append, hbefore]

/-- A part of what is made of a list, up to some entry, is made of a part of it. -/
theorem exists_of_prefix_map {γ : Type w} {f : β → γ} {xs : List β} {ys : List γ} {y : γ}
    (h : ys ++ [y] <+: xs.map f) :
    ∃ xs' x, xs' ++ [x] <+: xs ∧ xs'.map f = ys ∧ f x = y := by
  obtain ⟨front, hfront, heq⟩ := List.prefix_map_iff.mp h
  obtain ⟨xs', last, rfl, hxs', hlast⟩ := List.map_eq_append_iff.mp heq.symm
  obtain ⟨x, rfl, hx⟩ := List.map_eq_singleton_iff.mp hlast
  exact ⟨xs', x, hfront, hxs', hx⟩

/-- What a state has collected, when every operation adds what it puts out. -/
theorem collected_foldl {γ : Type w} (collected : σ → γ) {add : γ → β → γ}
    (hstep : ∀ s op, collected (step s op) = (out s op).toList.foldl add (collected s))
    (s : σ) (ops : List ο) :
    collected (ops.foldl step s) = (outputs step out s ops).foldl add (collected s) := by
  induction ops generalizing s with
  | nil => rfl
  | cons op ops ih => rw [List.foldl_cons, ih, hstep, outputs, List.foldl_append]

end Outputs

end Operations
