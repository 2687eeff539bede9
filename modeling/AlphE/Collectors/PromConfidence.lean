import AlphE.Collectors.PromClient
import AlphE.Collectors.Agreement

/-!
The confidence of a finding of the prom collector. It is a share of samples, or a
reading that is divided and cut off above; what is read may be negative, infinite or
no number. The quotients here are exact ones.
-/

namespace AlphE.Collectors

open Go

namespace Prom

/-- A confidence that is a number from zero to one. -/
def Legal (confidence : Float64) : Prop := ∃ q : ℚ, confidence = .fin q ∧ 0 ≤ q ∧ q ≤ 1

theorem legal_zero : Legal (.fin 0) := ⟨0, rfl, le_rfl, zero_le_one⟩

theorem legal_one : Legal (.fin 1) := ⟨1, rfl, zero_le_one, le_rfl⟩

/-- Cutting off at one. -/
theorem min_one_fin (q : ℚ) : Float64.min (.fin 1) (.fin q) = .fin (min 1 q) := by
  simp only [Float64.min, Float64.lt, reduceCtorEq, or_self, if_false, decide_eq_true_eq]
  split
  · next hlt => rw [min_eq_left (le_of_lt hlt)]
  · next hle => rw [min_eq_right (not_lt.mp hle)]

theorem legal_min_one_iff (q : ℚ) : Legal (Float64.min (.fin 1) (.fin q)) ↔ 0 ≤ q := by
  rw [min_one_fin]
  constructor
  · rintro ⟨p, hp, hpos, -⟩
    cases hp
    exact le_trans hpos (min_le_right _ _)
  · intro hq
    exact ⟨min 1 q, rfl, le_min zero_le_one hq, min_le_left _ _⟩

/-! ### A share of samples -/

section Dispatch

variable {fmt : Fmt} {client : Client} {pq : ParsedQuery} {tr : TimeRange}

theorem legal_dispatchRate : Legal (dispatchRate Float64.div fmt client pq tr).confidence := by
  rw [dispatchRate]
  cases client.queryRange pq.expr tr.start tr.stop (step tr) with
  | error err => exact legal_zero
  | ok result =>
      simp only
      split
      · next hpos =>
          have htotal : ((countSamples pq result.series).total : ℚ) ≠ 0 :=
            Nat.cast_ne_zero.mpr (Nat.ne_of_gt hpos)
          rw [Float64.div, if_pos htotal, legal_min_one_iff]
          exact div_nonneg (Nat.cast_nonneg _) (Nat.cast_nonneg _)
      · exact legal_zero

/-! ### A reading -/

/-- The reading is cut off above only: what is below zero stays there. -/
theorem legal_value_iff (v : Float64) :
    Legal (if Float64.lt (.fin 0) v then .fin 1
      else Float64.min (.fin 1) (v.div (.fin 1000000000))) ↔
        Float64.le (.fin 0) v = true := by
  cases v with
  | nan =>
      refine iff_of_false ?_ (by decide)
      rintro ⟨q, hq, -⟩
      cases hq
  | inf negative =>
      cases negative with
      | false => exact iff_of_true legal_one rfl
      | true =>
          refine iff_of_false ?_ (by decide)
          rintro ⟨q, hq, -⟩
          cases hq
  | fin q =>
      have hbillion : (1000000000 : ℚ) ≠ 0 := by decide
      simp only [Float64.lt, Float64.le, Float64.eq, Float64.div, hbillion, ne_eq,
        not_false_eq_true, if_true, decide_eq_true_eq, Bool.or_eq_true]
      split
      · next hpos => exact iff_of_true legal_one (.inl hpos)
      · next hpos =>
          rw [legal_min_one_iff, ← le_iff_lt_or_eq]
          constructor
          · intro hq
            have hmul := mul_nonneg hq (show (0 : ℚ) ≤ 1000000000 by decide)
            rwa [div_mul_cancel₀ q hbillion] at hmul
          · intro hq
            exact div_nonneg hq (by decide)

/-- A count is looked at only when it is positive. -/
theorem legal_default (v : Float64) :
    Legal (if Float64.lt (.fin 0) v then Float64.min (.fin 1) (v.div (.fin 10))
      else .fin 0) := by
  split
  · next hpos =>
      cases v with
      | nan => exact absurd hpos (by decide)
      | inf negative =>
          cases negative with
          | false => exact legal_one
          | true => exact absurd hpos (by decide)
      | fin q =>
          have hq : 0 < q := by simpa [Float64.lt] using hpos
          rw [Float64.div, if_pos (by decide), legal_min_one_iff]
          exact div_nonneg (le_of_lt hq) (by decide)
  · exact legal_zero

theorem legal_dispatchValue_iff :
    Legal (dispatchValue Float64.div fmt client pq tr).confidence ↔
      ∀ result labels, client.queryInstant pq.expr tr.stop = .ok result →
        result.metric = some labels → Float64.le (.fin 0) result.value.value = true := by
  rw [dispatchValue]
  cases client.queryInstant pq.expr tr.stop with
  | error err =>
      refine iff_of_true legal_zero ?_
      rintro result labels ⟨⟩
  | ok result =>
      cases hmetric : result.metric with
      | none =>
          -- Without labels nothing is said, and the confidence is zero.
          refine iff_of_true (by simpa only [hmetric] using legal_zero) ?_
          rintro _ labels ⟨⟩ hsome
          rw [hmetric] at hsome
          cases hsome
      | some labels =>
          simp only [hmetric, legal_value_iff]
          constructor
          · rintro h _ _ ⟨⟩ -
            exact h
          · intro h
            exact h result labels rfl hmetric

theorem legal_dispatchDefault :
    Legal (dispatchDefault Float64.div fmt client pq tr).confidence := by
  rw [dispatchDefault]
  cases client.queryInstant pq.expr tr.stop with
  | error err => exact legal_zero
  | ok result =>
      cases hmetric : result.metric with
      | none =>
          simp only [hmetric]
          exact legal_zero
      | some labels =>
          simp only [hmetric]
          exact legal_default _

end Dispatch

/-- **Which confidences are legal**, with exact quotients. All but the one of a
`metric:value` question whose first row is below zero or no number. -/
theorem legal_confidence_iff (fmt : Fmt) (client : Client) (inp : CollectorInput) :
    Legal (dispatch Float64.div fmt client inp).confidence ↔
      ∀ result labels, (parseQuestion fmt inp).kind = .value →
        client.queryInstant (parseQuestion fmt inp).expr inp.timeRange.stop = .ok result →
        result.metric = some labels → Float64.le (.fin 0) result.value.value = true := by
  rw [dispatch]
  cases hkind : (parseQuestion fmt inp).kind with
  | rate =>
      refine iff_of_true (by simpa only [hkind] using legal_dispatchRate) ?_
      rintro result labels ⟨⟩
  | value => simp only [legal_dispatchValue_iff, forall_const]
  | default =>
      refine iff_of_true (by simpa only [hkind] using legal_dispatchDefault) ?_
      rintro result labels ⟨⟩

/-! ### A gauge below zero -/

def testValueRequest : CollectorInput := { testRequest with question := "metric:value up" }

/-- A gauge that reads `-1`. -/
def testGauge : Client where
  queryInstant _ _ := .ok
    { metric := some ∅
      value := { timestamp := testTime, value := .fin (-1) }
      rawBody := utf8 "\x7b\x7d" }
  queryRange _ _ _ _ := .error { text := utf8 "bad_data" }

theorem not_legal_confidence :
    ¬ ∀ (fmt : Fmt) (client : Client) (inp : CollectorInput),
      Legal (dispatch Float64.div fmt client inp).confidence := by
  intro h
  have hkind : (parseQuestion testCollectEnv.put.fmt testValueRequest).kind = .value := by
    decide
  have hlegal := h testCollectEnv.put.fmt testGauge testValueRequest
  simp only [dispatch, hkind] at hlegal
  exact absurd (legal_dispatchValue_iff.mp hlegal _ ∅ rfl rfl) (by decide)

end Prom

end AlphE.Collectors
