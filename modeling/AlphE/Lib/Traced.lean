/-!
Computations that make calls, one after the other, and may raise. What was called is
kept, also when the call raised and the exception was caught.
-/

/-- What a computation returns or raises, and the calls it made on the way. -/
structure Traced (κ ε α : Type) where
  result : Except ε α
  calls : List κ

namespace Traced

variable {κ ε α β : Type}

def ret (a : α) : Traced κ ε α := ⟨.ok a, []⟩

def raise (e : ε) : Traced κ ε α := ⟨.error e, []⟩

/-- A call is made, whatever comes of it. -/
def call (c : κ) (answer : Except ε α) : Traced κ ε α := ⟨answer, [c]⟩

/-- `try: x; except: handler; else: rest`. What `rest` raises is not handled. -/
def tryElse (x : Traced κ ε α) (handler : ε → Traced κ ε β) (rest : α → Traced κ ε β) :
    Traced κ ε β :=
  let after := match x.result with
    | .ok a => rest a
    | .error e => handler e
  ⟨after.result, x.calls ++ after.calls⟩

instance : Monad (Traced κ ε) where
  pure := ret
  bind x rest := x.tryElse raise rest

/-- The computation returns, with these calls. -/
def Returns (x : Traced κ ε α) (a : α) (calls : List κ) : Prop := x = ⟨.ok a, calls⟩

section Rules

variable {x : Traced κ ε α} {a : α} {b : β} {calls calls' : List κ}

theorem returns_call (c : κ) (a : α) : (call c (.ok a) : Traced κ ε α).Returns a [c] := rfl

theorem returns_pure (a : α) : (pure a : Traced κ ε α).Returns a [] := rfl

/-- What follows a computation that returns. -/
theorem Returns.tryElse (hx : x.Returns a calls) (handler : ε → Traced κ ε β)
    {rest : α → Traced κ ε β} (hrest : (rest a).Returns b calls') :
    (x.tryElse handler rest).Returns b (calls ++ calls') := by
  rw [Returns] at hx hrest
  subst hx
  rw [Returns, Traced.tryElse]
  dsimp only
  rw [hrest]

/-- What was raised is handled. -/
theorem Returns.handle {e : ε} (hx : x = ⟨.error e, calls⟩) {handler : ε → Traced κ ε β}
    (rest : α → Traced κ ε β) (hhandler : (handler e).Returns b calls') :
    (x.tryElse handler rest).Returns b (calls ++ calls') := by
  rw [Returns] at hhandler
  subst hx
  rw [Returns, Traced.tryElse]
  dsimp only
  rw [hhandler]

theorem Returns.bind (hx : x.Returns a calls) {rest : α → Traced κ ε β}
    (hrest : (rest a).Returns b calls') : (x >>= rest).Returns b (calls ++ calls') :=
  hx.tryElse raise hrest

/-- A call in a `try` whose handler catches everything returns, with that one
call. -/
theorem returns_call_tryElse (c : κ) (answer : Except ε α) {handler : ε → Traced κ ε β}
    {rest : α → Traced κ ε β} (hrest : ∀ a, answer = .ok a → (rest a).Returns b [])
    (hhandler : ∀ e, answer = .error e → (handler e).Returns b []) :
    ((call c answer).tryElse handler rest).Returns b [c] := by
  cases hanswer : answer with
  | ok a =>
      have hcall : (call c (.ok a) : Traced κ ε α).Returns a [c] := rfl
      exact hcall.tryElse handler (hrest a hanswer)
  | error e =>
      have hcall : (call c (.error e) : Traced κ ε α) = ⟨.error e, [c]⟩ := rfl
      exact Returns.handle hcall rest (hhandler e hanswer)

end Rules

/-! ### Which calls are made -/

section Calls

variable {x : Traced κ ε α} {handler : ε → Traced κ ε β} {rest : α → Traced κ ε β} {c : κ}
  {b : β} {e : ε}

@[simp] theorem calls_pure (a : α) : (pure a : Traced κ ε α).calls = [] := rfl

@[simp] theorem result_pure (a : α) : (pure a : Traced κ ε α).result = .ok a := rfl

theorem mem_calls_tryElse : c ∈ (x.tryElse handler rest).calls ↔
    c ∈ x.calls ∨ (∃ a, x.result = .ok a ∧ c ∈ (rest a).calls) ∨
      ∃ e, x.result = .error e ∧ c ∈ (handler e).calls := by
  obtain ⟨result, calls⟩ := x
  cases result with
  | ok a => simp [tryElse]
  | error e => simp [tryElse]

theorem mem_calls_bind : c ∈ (x >>= rest).calls ↔
    c ∈ x.calls ∨ ∃ a, x.result = .ok a ∧ c ∈ (rest a).calls := by
  obtain ⟨result, calls⟩ := x
  cases result with
  | ok a => simp [bind, tryElse]
  | error e => simp [bind, tryElse, raise]

theorem result_bind_eq_ok : (x >>= rest).result = .ok b ↔
    ∃ a, x.result = .ok a ∧ (rest a).result = .ok b := by
  obtain ⟨result, calls⟩ := x
  cases result with
  | ok a => simp [bind, tryElse]
  | error e => simp [bind, tryElse, raise]

theorem result_bind_eq_error : (x >>= rest).result = .error e ↔
    x.result = .error e ∨ ∃ a, x.result = .ok a ∧ (rest a).result = .error e := by
  obtain ⟨result, calls⟩ := x
  cases result with
  | ok a => simp [bind, tryElse]
  | error e => simp [bind, tryElse, raise]

end Calls

end Traced
