import Mathlib.Data.List.Basic

/-!
Protocols as automata. A protocol says which events may come next: it is in a
state, and an event that is allowed there takes it to the next one. Where a
conversation starts and where it may stop is said beside it.

A record of a conversation may be kept in another alphabet, the lines of a log,
say. Reading the lines back turns the protocol into one over lines.
-/

universe u v w

structure Protocol (σ : Type u) (ε : Type v) where
  next : σ → ε → Option σ

namespace Protocol

variable {σ : Type u} {ε : Type v} {γ : Type w} (P : Protocol σ ε)

/-- The state after a trace, if every event of it was allowed. -/
def after (s : σ) (trace : List ε) : Option σ := trace.foldlM P.next s

@[simp] theorem after_nil (s : σ) : P.after s [] = some s := rfl

theorem after_cons (s : σ) (e : ε) (trace : List ε) :
    P.after s (e :: trace) = (P.next s e).bind fun s' => P.after s' trace := rfl

theorem after_append (s : σ) (trace trace' : List ε) :
    P.after s (trace ++ trace') =
      (P.after s trace).bind fun s' => P.after s' trace' := by
  rw [after, List.foldlM_append]
  rfl

variable {P}

theorem after_cons_of_next {s s' : σ} {e : ε} (h : P.next s e = some s')
    (trace : List ε) : P.after s (e :: trace) = P.after s' trace := by
  rw [after_cons, h, Option.bind_some]

theorem after_append_of_after {s s' : σ} {trace : List ε} (h : P.after s trace = some s')
    (trace' : List ε) : P.after s (trace ++ trace') = P.after s' trace' := by
  rw [after_append, h, Option.bind_some]

theorem after_singleton (s : σ) (e : ε) : P.after s [e] = P.next s e := by
  rw [after_cons]
  exact Option.bind_fun_some _

/-- A first event that was allowed. -/
theorem exists_of_after_cons {s s'' : σ} {e : ε} {trace : List ε}
    (h : P.after s (e :: trace) = some s'') :
    ∃ s', P.next s e = some s' ∧ P.after s' trace = some s'' := by
  rw [after_cons] at h
  exact Option.bind_eq_some_iff.mp h

/-! ### Other alphabets -/

variable (P)

/-- The protocol over lines that are read as events; a line that cannot be read is
not allowed. -/
def reading (read : γ → Option ε) : Protocol σ γ where
  next s line := (read line).bind (P.next s)

/-- Lines that are read as a trace are allowed as the trace is. -/
theorem after_reading {read : γ → Option ε} {lines : List γ} {trace : List ε}
    (hread : List.Forall₂ (fun line e => read line = some e) lines trace) (s : σ) :
    (P.reading read).after s lines = P.after s trace := by
  induction hread generalizing s with
  | nil => rfl
  | @cons line e lines trace hline _ ih =>
      have hnext : (P.reading read).next s line = P.next s e := by
        show (read line).bind (P.next s) = P.next s e
        rw [hline, Option.bind_some]
      rw [after_cons, after_cons, hnext]
      congr 1
      funext s'
      exact ih s'

end Protocol
