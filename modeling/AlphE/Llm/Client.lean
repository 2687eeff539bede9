import Mathlib.Algebra.Order.Field.Basic
import Mathlib.Algebra.Order.Ring.Rat
import Mathlib.Data.List.Range
import Mathlib.Tactic.Linarith

/-!
The LLM client (`llm/client.py`, `llm/settings.py`): one call of the Messages API,
made again after an error whose status is listed, as often as the settings allow
and after a pause that doubles.

What the API answers is a sequence of outcomes, one for each call. Backoffs are
finite: a product with a power of two is exact, and one that is no float any more
is above every limit.
-/

namespace AlphE.Llm

/-- `LLMSettings`, without what is only passed on. -/
structure LLMSettings where
  maxRetries : ℕ := 2
  initialBackoff : ℚ := 1
  maxBackoff : ℚ := 30
  retryableStatusCodes : List ℕ := [429, 500, 502, 503, 504]

/-- `anthropic.APIStatusError`. -/
structure APIStatusError where
  statusCode : ℕ
  message : String
  deriving DecidableEq, Repr

/-- The outcome of one `messages.create`. -/
inductive Outcome (ρ : Type)
  | success (response : ρ)
  | apiStatusError (exc : APIStatusError)

/-- What `complete` raises. A power of two that is too large for a float is an
`OverflowError`. -/
inductive Raised
  | apiStatusError (exc : APIStatusError)
  | overflowError

/-- What `complete` returns or raises, with the calls it made and the pauses between
them. -/
structure Completed (ρ : Type) where
  result : Except Raised ρ
  calls : ℕ
  sleeps : List ℚ

/-- The largest power of two that is a float is `2 ** 1023`. -/
def maxExponent : ℕ := 1023

namespace LLMSettings

variable {ρ : Type} (settings : LLMSettings)

/-- `min(initial_backoff * (2**attempt), max_backoff)` -/
def delay (attempt : ℕ) : ℚ := min (settings.initialBackoff * 2 ^ attempt) settings.maxBackoff

def backoff (attempt : ℕ) : Option ℚ :=
  if attempt ≤ maxExponent then some (settings.delay attempt) else none

/-- The loop from an attempt on, with `retries` of them left. -/
def completeFrom (outcomes : ℕ → Outcome ρ) : ℕ → ℕ → List ℚ → Completed ρ
  | retries, attempt, sleeps =>
      match outcomes attempt with
      | .success response =>
          { result := .ok response, calls := attempt + 1, sleeps := sleeps }
      | .apiStatusError exc =>
          let raised : Completed ρ :=
            { result := .error (.apiStatusError exc), calls := attempt + 1, sleeps := sleeps }
          if exc.statusCode ∉ settings.retryableStatusCodes then raised
          else
            match retries with
            | 0 => raised
            | retries + 1 =>
                match settings.backoff attempt with
                | none =>
                    { result := .error .overflowError, calls := attempt + 1, sleeps := sleeps }
                | some backoff =>
                    completeFrom outcomes retries (attempt + 1) (sleeps ++ [backoff])

/-- `Client.complete`. -/
def complete (outcomes : ℕ → Outcome ρ) : Completed ρ :=
  settings.completeFrom outcomes settings.maxRetries 0 []

/-! ### One attempt -/

/-- The outcome is an error whose status is listed. -/
def Retryable (outcome : Outcome ρ) : Prop :=
  ∃ exc, outcome = .apiStatusError exc ∧ exc.statusCode ∈ settings.retryableStatusCodes

/-- The attempt is followed by another. -/
def GoesOn (outcomes : ℕ → Outcome ρ) (attempt : ℕ) : Prop :=
  settings.Retryable (outcomes attempt) ∧ attempt < settings.maxRetries ∧ attempt ≤ maxExponent

/-- What the last attempt leads to. -/
def resultAt (outcomes : ℕ → Outcome ρ) (attempt : ℕ) : Except Raised ρ :=
  match outcomes attempt with
  | .success response => .ok response
  | .apiStatusError exc =>
      if exc.statusCode ∈ settings.retryableStatusCodes ∧ attempt < settings.maxRetries then
        .error .overflowError
      else .error (.apiStatusError exc)

variable {settings} {outcomes : ℕ → Outcome ρ}

theorem completeFrom_of_goesOn {retries attempt : ℕ} (sleeps : List ℚ)
    (hattempt : attempt + retries = settings.maxRetries) (h : settings.GoesOn outcomes attempt) :
    ∃ retries', retries = retries' + 1 ∧
      settings.completeFrom outcomes retries attempt sleeps =
        settings.completeFrom outcomes retries' (attempt + 1)
          (sleeps ++ [settings.delay attempt]) := by
  obtain ⟨⟨exc, houtcome, hlisted⟩, hlt, hexponent⟩ := h
  obtain ⟨retries', rfl⟩ : ∃ retries', retries = retries' + 1 := ⟨retries - 1, by omega⟩
  refine ⟨retries', rfl, ?_⟩
  -- Listed, with a retry left and a float for its pause.
  rw [completeFrom, houtcome]
  simp only [hlisted, not_true_eq_false, if_false, backoff, hexponent, if_true]

theorem completeFrom_of_not_goesOn {retries attempt : ℕ} (sleeps : List ℚ)
    (hattempt : attempt + retries = settings.maxRetries)
    (h : ¬ settings.GoesOn outcomes attempt) :
    settings.completeFrom outcomes retries attempt sleeps =
      { result := settings.resultAt outcomes attempt, calls := attempt + 1, sleeps := sleeps } := by
  unfold completeFrom
  rw [resultAt]
  cases houtcome : outcomes attempt with
  | success response => rfl
  | apiStatusError exc =>
      by_cases hlisted : exc.statusCode ∈ settings.retryableStatusCodes
      · have hretryable : settings.Retryable (outcomes attempt) := ⟨exc, houtcome, hlisted⟩
        cases retries with
        | zero =>
            have hlast : ¬ attempt < settings.maxRetries := by omega
            simp only [hlisted, hlast, not_true_eq_false, and_false, if_false]
        | succ retries =>
            have hlt : attempt < settings.maxRetries := by omega
            have hexponent : ¬ attempt ≤ maxExponent := fun hle => h ⟨hretryable, hlt, hle⟩
            simp only [hlisted, hlt, hexponent, not_true_eq_false, and_self, if_false, if_true,
              backoff]
      · simp only [hlisted, not_false_eq_true, false_and, if_false, if_true]

/-! ### The whole run -/

/-- The attempts go on up to one that ends the run. -/
theorem exists_completeFrom (settings : LLMSettings) (outcomes : ℕ → Outcome ρ)
    (retries attempt : ℕ) (sleeps : List ℚ)
    (hattempt : attempt + retries = settings.maxRetries) :
    ∃ last, attempt ≤ last ∧ last ≤ settings.maxRetries ∧
      (∀ j, attempt ≤ j → j < last → settings.GoesOn outcomes j) ∧
      ¬ settings.GoesOn outcomes last ∧
      settings.completeFrom outcomes retries attempt sleeps =
        { result := settings.resultAt outcomes last
          calls := last + 1
          sleeps := sleeps ++ (List.range' attempt (last - attempt)).map settings.delay } := by
  induction retries generalizing attempt sleeps with
  | zero =>
      have hlast : ¬ settings.GoesOn outcomes attempt := fun h => by
        have hlt := h.2.1
        omega
      refine ⟨attempt, le_rfl, by omega, fun j hj hlt => absurd hlt (Nat.not_lt.mpr hj), hlast, ?_⟩
      rw [completeFrom_of_not_goesOn sleeps hattempt hlast, Nat.sub_self]
      simp
  | succ retries ih =>
      by_cases h : settings.GoesOn outcomes attempt
      · obtain ⟨last, hfirst, hmax, hgo, hlast, hrun⟩ :=
          ih (attempt + 1) (sleeps ++ [settings.delay attempt]) (by omega)
        refine ⟨last, by omega, hmax, ?_, hlast, ?_⟩
        · intro j hj hlt
          rcases Nat.eq_or_lt_of_le hj with rfl | hgt
          · exact h
          · exact hgo j hgt hlt
        · obtain ⟨retries', hretries, hstep⟩ := completeFrom_of_goesOn sleeps hattempt h
          obtain rfl : retries = retries' := by omega
          have hlength : last - attempt = (last - (attempt + 1)) + 1 := by omega
          rw [hstep, hrun, hlength, List.range'_succ, List.map_cons, List.append_assoc,
            List.singleton_append]
      · refine ⟨attempt, le_rfl, by omega, fun j hj hlt => absurd hlt (Nat.not_lt.mpr hj), h, ?_⟩
        rw [completeFrom_of_not_goesOn sleeps hattempt h, Nat.sub_self]
        simp

/-- A run of `complete`: every attempt before the last was retried. -/
theorem exists_complete (settings : LLMSettings) (outcomes : ℕ → Outcome ρ) :
    ∃ last ≤ settings.maxRetries, (∀ j < last, settings.GoesOn outcomes j) ∧
      ¬ settings.GoesOn outcomes last ∧
      settings.complete outcomes =
        { result := settings.resultAt outcomes last
          calls := last + 1
          sleeps := (List.range last).map settings.delay } := by
  obtain ⟨last, -, hmax, hgo, hlast, hrun⟩ :=
    exists_completeFrom settings outcomes settings.maxRetries 0 [] (Nat.zero_add _)
  refine ⟨last, hmax, fun j hj => hgo j (Nat.zero_le j) hj, hlast, ?_⟩
  rw [complete, hrun, List.nil_append, Nat.sub_zero, List.range_eq_range']

/-! ### Transient failures -/

/-- "429 / 5xx" -/
def Transient (statusCode : ℕ) : Prop :=
  statusCode = 429 ∨ 500 ≤ statusCode ∧ statusCode < 600

/-- What `complete` promises about its retries. -/
structure RetriesTransient (settings : LLMSettings) (outcomes : ℕ → Outcome ρ)
    (c : Completed ρ) : Prop where
  calls_le : c.calls ≤ settings.maxRetries + 1
  returned : ∀ i < c.calls, ∀ response, outcomes i = .success response →
    c.calls = i + 1 ∧ c.result = .ok response
  retried : ∀ i < c.calls, ∀ exc, outcomes i = .apiStatusError exc →
    (i + 1 < c.calls ↔ Transient exc.statusCode ∧ i < settings.maxRetries)
  raised : ∀ i exc, c.calls = i + 1 → outcomes i = .apiStatusError exc →
    c.result = .error (.apiStatusError exc)
  length_sleeps : c.sleeps.length + 1 = c.calls
  sleep_eq : ∀ i d, c.sleeps[i]? = some d →
    d = min (settings.initialBackoff * 2 ^ i) settings.maxBackoff
  sleeps_mono : c.sleeps.Pairwise (· ≤ ·)
  sleeps_le : ∀ d ∈ c.sleeps, d ≤ settings.maxBackoff

/-- Of the errors that are met while retries are left, no 5xx is missing from the
list, and no listed one comes when the power of two is no float any more. -/
def ListsErrors (settings : LLMSettings) (outcomes : ℕ → Outcome ρ) : Prop :=
  ∀ i < settings.maxRetries, (∀ j < i, settings.Retryable (outcomes j)) →
    ∀ exc, outcomes i = .apiStatusError exc →
      (500 ≤ exc.statusCode → exc.statusCode < 600 → exc.statusCode ∈ [500, 502, 503, 504]) ∧
      (maxExponent < i → exc.statusCode ∉ [429, 500, 502, 503, 504])

/-- The codes are the ones the settings have by default. -/
def DefaultCodes (settings : LLMSettings) : Prop :=
  settings.retryableStatusCodes = ({} : LLMSettings).retryableStatusCodes

theorem mem_codes_iff (hcodes : settings.DefaultCodes) (statusCode : ℕ) :
    statusCode ∈ settings.retryableStatusCodes ↔
      statusCode ∈ [429, 500, 502, 503, 504] := by
  rw [hcodes]

/-- Every listed code is transient. -/
theorem transient_of_mem {statusCode : ℕ} (h : statusCode ∈ [429, 500, 502, 503, 504]) :
    Transient statusCode := by
  simp only [List.mem_cons, List.not_mem_nil, or_false] at h
  rw [Transient]
  omega

theorem Retryable.transient (hcodes : settings.DefaultCodes) {outcome : Outcome ρ}
    (h : settings.Retryable outcome) {exc : APIStatusError}
    (hexc : outcome = .apiStatusError exc) : Transient exc.statusCode := by
  obtain ⟨exc', houtcome, hlisted⟩ := h
  cases hexc.symm.trans houtcome
  exact transient_of_mem ((mem_codes_iff hcodes _).mp hlisted)

theorem delay_mono (hinitial : 0 ≤ settings.initialBackoff) {i j : ℕ} (h : i ≤ j) :
    settings.delay i ≤ settings.delay j := by
  have hpow : (2 : ℚ) ^ i ≤ 2 ^ j := pow_le_pow_right₀ one_le_two h
  exact min_le_min_right _ (mul_le_mul_of_nonneg_left hpow hinitial)

/-- What holds of the pauses in any case. -/
theorem pairwise_delays (hinitial : 0 ≤ settings.initialBackoff) (n : ℕ) :
    ((List.range n).map settings.delay).Pairwise (· ≤ ·) := by
  rw [List.pairwise_map]
  exact List.pairwise_lt_range.imp fun hlt => delay_mono hinitial (Nat.le_of_lt hlt)

theorem eq_delay_of_getElem? {n i : ℕ} {d : ℚ}
    (h : ((List.range n).map settings.delay)[i]? = some d) : d = settings.delay i := by
  rw [List.getElem?_map, Option.map_eq_some_iff] at h
  obtain ⟨j, hj, rfl⟩ := h
  obtain ⟨-, rfl⟩ := List.getElem?_eq_some_iff.mp hj
  rw [List.getElem_range]

section Settings

variable (hcodes : settings.DefaultCodes)

include hcodes

/-- The attempt a run ends with is not one that should have been retried. -/
theorem ListsErrors.not_transient {last : ℕ} (h : settings.ListsErrors outcomes)
    (hgo : ∀ j < last, settings.GoesOn outcomes j) (hlast : ¬ settings.GoesOn outcomes last)
    {exc : APIStatusError} (hexc : outcomes last = .apiStatusError exc) :
    ¬ (Transient exc.statusCode ∧ last < settings.maxRetries) := by
  rintro ⟨htransient, hlt⟩
  obtain ⟨hserver, hlarge⟩ := h last hlt (fun j hj => (hgo j hj).1) exc hexc
  have hlisted : exc.statusCode ∈ [429, 500, 502, 503, 504] := by
    rcases htransient with hcode | ⟨hlow, hhigh⟩
    · rw [hcode]
      decide
    · exact List.mem_cons_of_mem _ (hserver hlow hhigh)
  apply hlast
  refine ⟨⟨exc, hexc, (mem_codes_iff hcodes _).mpr hlisted⟩, hlt, ?_⟩
  by_contra hexponent
  exact hlarge (Nat.lt_of_not_le hexponent) hlisted

theorem retriesTransient_of_listsErrors (hinitial : 0 ≤ settings.initialBackoff)
    (h : settings.ListsErrors outcomes) :
    RetriesTransient settings outcomes (settings.complete outcomes) := by
  obtain ⟨last, hle, hgo, hlast, hrun⟩ := exists_complete settings outcomes
  rw [hrun]
  constructor
  · exact Nat.succ_le_succ hle
  · intro i hi response hresponse
    -- Whatever comes before the last attempt is an error.
    obtain rfl : i = last := by
      by_contra hne
      obtain ⟨exc, hexc, -⟩ := (hgo i (by simp only at hi; omega)).1
      rw [hresponse] at hexc
      cases hexc
    refine ⟨rfl, ?_⟩
    simp only [resultAt, hresponse]
  · intro i hi exc hexc
    rcases Nat.lt_succ_iff_lt_or_eq.mp hi with hlt | rfl
    · exact iff_of_true (Nat.succ_lt_succ hlt)
        ⟨(hgo i hlt).1.transient hcodes hexc, (hgo i hlt).2.1⟩
    · exact iff_of_false (Nat.lt_irrefl _) (h.not_transient hcodes hgo hlast hexc)
  · intro i exc hi hexc
    obtain rfl : i = last := (Nat.succ.inj hi).symm
    have hnot := h.not_transient hcodes hgo hlast hexc
    have hraised : ¬ (exc.statusCode ∈ settings.retryableStatusCodes ∧
        i < settings.maxRetries) := by
      rintro ⟨hlisted, hlt⟩
      exact hnot ⟨transient_of_mem ((mem_codes_iff hcodes _).mp hlisted), hlt⟩
    simp only [resultAt, hexc, if_neg hraised]
  · simp
  · intro i d hd
    exact eq_delay_of_getElem? hd
  · exact pairwise_delays hinitial last
  · intro d hd
    obtain ⟨i, -, rfl⟩ := List.mem_map.mp hd
    exact min_le_right _ _

theorem listsErrors_of_retriesTransient
    (h : RetriesTransient settings outcomes (settings.complete outcomes)) :
    settings.ListsErrors outcomes := by
  obtain ⟨last, hle, hgo, hlast, hrun⟩ := exists_complete settings outcomes
  have hretried := h.retried
  rw [hrun] at hretried
  -- A listed error is retried, so the exponent stays in range.
  have hexponent : ∀ i < settings.maxRetries, settings.Retryable (outcomes i) → i = last →
      False := by
    rintro i hi hretryable rfl
    obtain ⟨exc, hexc, -⟩ := id hretryable
    have hmore := (hretried i (Nat.lt_succ_self i) exc hexc).mpr
      ⟨hretryable.transient hcodes hexc, hi⟩
    exact Nat.lt_irrefl _ hmore
  intro i hi hbefore exc hexc
  have hreached : i ≤ last := by
    by_contra hlt
    exact hexponent last (by omega) (hbefore last (by omega)) rfl
  rcases Nat.lt_or_eq_of_le hreached with hlt | rfl
  · obtain ⟨⟨exc', hexc', hlisted⟩, -, hle'⟩ := hgo i hlt
    cases hexc.symm.trans hexc'
    rw [mem_codes_iff hcodes] at hlisted
    refine ⟨fun hlow hhigh => ?_, fun hlarge => absurd hle' (Nat.not_le.mpr hlarge)⟩
    simp only [List.mem_cons, List.not_mem_nil, or_false] at hlisted ⊢
    omega
  · have hnot : ¬ Transient exc.statusCode := fun htransient =>
      Nat.lt_irrefl _ ((hretried i (Nat.lt_succ_self i) exc hexc).mpr ⟨htransient, hi⟩)
    refine ⟨fun hlow hhigh => absurd (.inr ⟨hlow, hhigh⟩) hnot, fun _ hlisted => ?_⟩
    exact hnot (transient_of_mem hlisted)

/-- **When exactly the transient failures are retried.** The list stands for a
family: whatever 5xx is missing from it is raised at once. Pauses end with a power
of two that is no float any more. -/
theorem retriesTransient_iff (hinitial : 0 ≤ settings.initialBackoff) :
    RetriesTransient settings outcomes (settings.complete outcomes) ↔
      settings.ListsErrors outcomes := by
  constructor
  · intro h
    exact listsErrors_of_retriesTransient hcodes h
  · intro h
    exact retriesTransient_of_listsErrors hcodes hinitial h

end Settings

/-! ### The provider is overloaded -/

/-- An overloaded provider, and an answer after it. -/
def testOutcomes : ℕ → Outcome String
  | 0 => .apiStatusError { statusCode := 529, message := "Overloaded" }
  | _ => .success "ok"

theorem retriesTransient_iff_testOutcomes :
    RetriesTransient {} testOutcomes (({} : LLMSettings).complete testOutcomes) ↔
      ({} : LLMSettings).ListsErrors testOutcomes :=
  retriesTransient_iff rfl (by decide)

/-- The status 529 is a 5xx, and it is raised at once. -/
theorem not_retriesTransient :
    ¬ ∀ (settings : LLMSettings) (outcomes : ℕ → Outcome String), settings.DefaultCodes →
      0 ≤ settings.initialBackoff → 0 ≤ settings.maxBackoff →
      RetriesTransient settings outcomes (settings.complete outcomes) := by
  intro h
  have hlists := listsErrors_of_retriesTransient rfl
    (h {} testOutcomes rfl (by decide) (by decide))
  have hserver := (hlists 0 (by decide) nofun _ rfl).1 (by decide) (by decide)
  exact absurd hserver (by decide)

end LLMSettings

end AlphE.Llm
