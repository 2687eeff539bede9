import AlphE.Lib.GoFloatText
import AlphE.Lib.PyText
import Mathlib.Data.Int.Log

/-!
Rounding to a `float64`: to the nearest number that has 53 binary digits, of which none
stands below the 1074th place behind the point, and of two that are equally near to the
even one. A quotient of two numbers is rounded once.
-/

namespace Go

/-- The place of the last digit. -/
def lastPlace (q : ℚ) : ℤ := max (Int.log 2 |q| - 52) (-1074)

/-- The nearest `float64`, as far as there is no largest one. -/
def nearestFloat (q : ℚ) : ℚ :=
  PyText.roundHalfEven (q / 2 ^ lastPlace q) * 2 ^ lastPlace q

theorem roundHalfEven_nonneg {q : ℚ} (h : 0 ≤ q) : 0 ≤ PyText.roundHalfEven q := by
  have hfloor : 0 ≤ q.floor := Rat.le_floor_iff.mpr h
  rw [PyText.roundHalfEven]
  split_ifs
  · exact hfloor
  · omega
  · exact hfloor
  · omega

theorem roundHalfEven_nonpos {q : ℚ} (h : q ≤ 0) : PyText.roundHalfEven q ≤ 0 := by
  obtain rfl | hneg := h.eq_or_lt
  · decide +kernel
  · -- Below zero the next integer is at most zero.
    have hfloor : q.floor < 0 := Rat.floor_lt_iff.mpr hneg
    rw [PyText.roundHalfEven]
    split_ifs
    · omega
    · omega
    · omega
    · omega

theorem nearestFloat_nonneg {q : ℚ} (h : 0 ≤ q) : 0 ≤ nearestFloat q := by
  have hplace : (0 : ℚ) ≤ 2 ^ lastPlace q := zpow_nonneg zero_le_two _
  have hround : 0 ≤ PyText.roundHalfEven (q / 2 ^ lastPlace q) :=
    roundHalfEven_nonneg (div_nonneg h hplace)
  exact mul_nonneg (Int.cast_nonneg hround) hplace

theorem nearestFloat_nonpos {q : ℚ} (h : q ≤ 0) : nearestFloat q ≤ 0 := by
  have hplace : (0 : ℚ) ≤ 2 ^ lastPlace q := zpow_nonneg zero_le_two _
  have hround : PyText.roundHalfEven (q / 2 ^ lastPlace q) ≤ 0 :=
    roundHalfEven_nonpos (div_nonpos_of_nonpos_of_nonneg h hplace)
  exact mul_nonpos_of_nonpos_of_nonneg (Int.cast_nonpos.mpr hround) hplace

namespace Float64

/-- The `float64` of a number. -/
def ofRat (q : ℚ) : Float64 :=
  if |q| < floatLimit then .fin (nearestFloat q) else .inf (decide (q < 0))

/-- `x / y`: the exact quotient, rounded. -/
def quo (x y : Float64) : Float64 :=
  match x.div y with
  | .fin q => ofRat q
  | v => v

/-- A tenth has no finite number of binary digits. -/
example : quo (.fin 1) (.fin 10) = .fin (3602879701896397 / 36028797018963968) := by
  decide +kernel

/-- Rounding makes two quotients one. -/
example : quo (.fin (5 + 2 / 2 ^ 50)) (.fin 10) = quo (.fin (5 + 3 / 2 ^ 50)) (.fin 10) := by
  decide +kernel

theorem lt_zero_ofRat_of_nonpos {q : ℚ} (h : q ≤ 0) : lt (.fin 0) (ofRat q) = false := by
  rw [ofRat]
  split
  · exact decide_eq_false (not_lt.mpr (nearestFloat_nonpos h))
  · next hlimit =>
      have hneg : q < 0 := by
        refine lt_of_le_of_ne h ?_
        rintro rfl
        exact hlimit (by rw [abs_zero]; exact lt_trans (by decide) lt_floatLimit)
      rw [decide_eq_true hneg]
      rfl

/-- What a number that is not negative is rounded to. -/
theorem ofRat_of_nonneg {q : ℚ} (h : 0 ≤ q) :
    ofRat q = .inf false ∨ ∃ r : ℚ, ofRat q = .fin r ∧ 0 ≤ r := by
  rw [ofRat]
  split
  · exact .inr ⟨nearestFloat q, rfl, nearestFloat_nonneg h⟩
  · rw [decide_eq_false (not_lt.mpr h)]
    exact .inl rfl

section Quotients

variable {c : ℚ} (hc : 0 < c)

include hc

theorem quo_fin_of_pos (v : Float64) :
    quo v (.fin c) =
      match v with
      | .fin q => ofRat (q / c)
      | v => v := by
  cases v with
  | nan => rfl
  | inf negative => simp [quo, div, not_lt.mpr (le_of_lt hc)]
  | fin q => simp [quo, div, ne_of_gt hc]

/-- Dividing by a positive number makes nothing positive. -/
theorem lt_zero_quo_of_not_pos {v : Float64} (h : lt (.fin 0) v = false) :
    lt (.fin 0) (quo v (.fin c)) = false := by
  rw [quo_fin_of_pos hc]
  cases v with
  | nan => rfl
  | inf negative => exact h
  | fin q =>
      have hq : q ≤ 0 := by simpa [lt] using h
      exact lt_zero_ofRat_of_nonpos (div_nonpos_of_nonpos_of_nonneg hq (le_of_lt hc))

/-- What is positive may become zero. -/
theorem quo_of_pos {v : Float64} (h : lt (.fin 0) v = true) :
    quo v (.fin c) = .inf false ∨ ∃ r : ℚ, quo v (.fin c) = .fin r ∧ 0 ≤ r := by
  rw [quo_fin_of_pos hc]
  cases v with
  | nan => cases h
  | inf negative =>
      cases negative with
      | false => exact .inl rfl
      | true => cases h
  | fin q =>
      have hq : 0 < q := by simpa [lt] using h
      exact ofRat_of_nonneg (div_nonneg (le_of_lt hq) (le_of_lt hc))

end Quotients

end Float64

end Go
