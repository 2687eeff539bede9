import AlphE.Lib.Operations

/-!
A party whose answers come back to it. It reacts to some of the messages that reach it:
the reaction yields something, and answers. Every answer is a message on its way to it
again, and messages arrive in any order. In an exchange that one message starts, there is
one reaction and an end exactly when the party reacts to none of its answers.
-/

universe u v w

namespace Feedback

open Operations

/-- Which messages a party reacts to, and what it yields and answers in the surroundings it
finds. -/
structure Responder (μ : Type u) (ε : Type v) (ρ : Type w) where
  reacts : μ → Bool
  yields : ε → μ → List ρ
  answers : ε → μ → List μ
  yields_ne_nil : ∀ e m, reacts m = true → yields e m ≠ []
  yields_eq_nil : ∀ e m, reacts m = false → yields e m = []
  answers_eq_nil : ∀ e m, reacts m = false → answers e m = []

/-- The messages on their way, and what the party has yielded so far. -/
structure Exchange (μ : Type u) (ρ : Type w) where
  pending : List μ
  yielded : List ρ

namespace Responder

variable {μ : Type u} {ε : Type v} {ρ : Type w} (R : Responder μ ε ρ)

/-- One of the messages on their way arrives, in some surroundings. -/
def deliver (x : Exchange μ ρ) (d : ℕ × ε) : Exchange μ ρ :=
  match x.pending[d.1]? with
  | none => x
  | some m =>
      { pending := x.pending.eraseIdx d.1 ++ R.answers d.2 m
        yielded := x.yielded ++ R.yields d.2 m }

/-- The message that starts the exchange has arrived. -/
def opened (e : ε) (m : μ) : Exchange μ ρ := R.deliver ⟨[m], []⟩ (0, e)

/-- There is such a message. -/
def Arrives (x : Exchange μ ρ) (d : ℕ × ε) : Prop := d.1 < x.pending.length

/-- However its answers come back, the message is all that is reacted to, and no more
messages arrive than there were answers. -/
structure AnswersOnce (e : ε) (m : μ) : Prop where
  yielded : ∀ ds : List (ℕ × ε), (ds.foldl R.deliver (R.opened e m)).yielded = R.yields e m
  stops : ∀ ds : List (ℕ × ε), Along R.deliver Arrives (R.opened e m) ds →
    ds.length ≤ (R.answers e m).length

theorem deliver_of_getElem? {x : Exchange μ ρ} {i : ℕ} {m : μ} (h : x.pending[i]? = some m)
    (e : ε) :
    R.deliver x (i, e) =
      ⟨x.pending.eraseIdx i ++ R.answers e m, x.yielded ++ R.yields e m⟩ := by
  rw [deliver, h]

theorem opened_eq (e : ε) (m : μ) : R.opened e m = ⟨R.answers e m, R.yields e m⟩ := by
  rw [opened, R.deliver_of_getElem? rfl]
  simp

/-! ### Messages of no concern -/

/-- No message on its way is reacted to. -/
def Quiet (x : Exchange μ ρ) : Prop := ∀ m ∈ x.pending, R.reacts m = false

variable {R} {x : Exchange μ ρ}

theorem deliver_of_quiet (hx : R.Quiet x) (d : ℕ × ε) :
    R.deliver x d = ⟨x.pending.eraseIdx d.1, x.yielded⟩ := by
  rw [deliver]
  split
  next hnone => rw [List.eraseIdx_of_length_le (List.getElem?_eq_none_iff.mp hnone)]
  next m hm =>
      have hquiet := hx m (List.mem_of_getElem? hm)
      rw [R.answers_eq_nil _ _ hquiet, R.yields_eq_nil _ _ hquiet, List.append_nil,
        List.append_nil]

theorem Quiet.deliver (hx : R.Quiet x) (d : ℕ × ε) : R.Quiet (R.deliver x d) := by
  rw [deliver_of_quiet hx]
  intro m hm
  exact hx m (List.mem_of_mem_eraseIdx hm)

/-- Nothing is yielded any more. -/
theorem yielded_of_quiet (hx : R.Quiet x) (ds : List (ℕ × ε)) :
    (ds.foldl R.deliver x).yielded = x.yielded := by
  induction ds generalizing x with
  | nil => rfl
  | cons d ds ih => rw [List.foldl_cons, ih (hx.deliver d), deliver_of_quiet hx]

/-- Every message that arrives is one less. -/
theorem length_le_of_quiet (hx : R.Quiet x) {ds : List (ℕ × ε)}
    (hds : Along R.deliver Arrives x ds) : ds.length ≤ x.pending.length := by
  induction ds generalizing x with
  | nil => exact Nat.zero_le _
  | cons d ds ih =>
      obtain ⟨hd, hrest⟩ := hds
      have hlength := ih (hx.deliver d) hrest
      have hd : d.1 < x.pending.length := hd
      rw [deliver_of_quiet hx] at hlength
      have herase := List.length_eraseIdx_add_one hd
      rw [List.length_cons]
      dsimp only at hlength
      omega

/-! ### One reaction -/

/-- An answer that is reacted to yields something more as soon as it arrives. -/
theorem answersOnce_iff (R : Responder μ ε ρ) (e : ε) (m : μ) :
    R.AnswersOnce e m ↔ ∀ a ∈ R.answers e m, R.reacts a = false := by
  constructor
  · intro h a ha
    obtain ⟨i, hi⟩ := List.mem_iff_getElem?.mp ha
    rw [Bool.eq_false_iff]
    intro hreacts
    have honce := h.yielded [(i, e)]
    rw [List.foldl_cons, List.foldl_nil, opened_eq, R.deliver_of_getElem? hi] at honce
    exact R.yields_ne_nil e a hreacts (List.append_right_eq_self.mp honce)
  · intro h
    have hquiet : R.Quiet (R.opened e m) := by
      rw [opened_eq]
      exact h
    refine ⟨fun ds => ?_, fun ds hds => ?_⟩
    · rw [yielded_of_quiet hquiet, opened_eq]
    · have hlength := length_le_of_quiet hquiet hds
      rw [opened_eq] at hlength
      exact hlength

end Responder

end Feedback
