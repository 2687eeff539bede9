import AlphE.Lib.Rfc3339
import Mathlib.Tactic.Linarith

/-!
Python's `datetime.isoformat()`: the date and the time of day, the microseconds
when there are any, and the offset from UTC when the value has one. A value is a
number of microseconds on its own clock, counted from 1970.
-/

namespace IsoFormat

open Rfc3339

def microsPerSecond : ℕ := 1000000

/-- The microseconds after the second, where there are any. -/
def fraction (micros : ℕ) : List Char := if micros = 0 then [] else '.' :: padded 6 micros

/-- An offset from UTC, in microseconds: hours and minutes, and the rest when
there is one. -/
def offset (o : Int) : List Char :=
  let seconds := o.natAbs / microsPerSecond
  let micros := o.natAbs % microsPerSecond
  (if o < 0 then '-' else '+') :: (padded 2 (seconds / 3600) ++
    ':' :: (padded 2 (seconds / 60 % 60) ++
      if seconds % 60 = 0 ∧ micros = 0 then []
      else ':' :: (padded 2 (seconds % 60) ++ fraction micros)))

def microsOf (t : Int) : ℕ := (t % microsPerSecond).toNat

def isoformat (t : Int) (utcoffset : Option Int) : String :=
  String.ofList (clock (t * 1000) ++ (fraction (microsOf t) ++ (utcoffset.map offset).getD []))

/-- The year on the value's own clock. -/
def year (t : Int) : Int := (civil (dayOf (t * 1000))).year

/-- From `datetime.MINYEAR` to `datetime.MAXYEAR`. -/
structure InCalendar (t : Int) : Prop where
  minYear : 1 ≤ year t
  maxYear : year t ≤ 9999

/-! ### The text determines the value -/

theorem padded_inj {w m n : ℕ} (hm : m < 10 ^ w) (hn : n < 10 ^ w)
    (h : padded w m = padded w n) : m = n := by
  have hread := readDigits_padded hm
  rw [h, readDigits_padded hn, Option.some.injEq] at hread
  exact hread.symm

theorem fraction_inj {m n : ℕ} (hm : m < microsPerSecond) (hn : n < microsPerSecond)
    (h : fraction m = fraction n) : m = n := by
  rw [fraction, fraction] at h
  by_cases hm0 : m = 0
  · by_cases hn0 : n = 0
    · rw [hm0, hn0]
    · simp [hm0, hn0] at h
  · by_cases hn0 : n = 0
    · simp [hm0, hn0] at h
    · rw [if_neg hm0, if_neg hn0, List.cons.injEq] at h
      exact padded_inj hm hn h.2

theorem length_clock {t : Int} (hyear : 0 ≤ (civil (dayOf t)).year)
    (hyear' : (civil (dayOf t)).year < 10000) : (clock t).length = 19 := by
  simp [clock, yearText_eq_padded hyear hyear']

/-- The text of the clock determines the second. -/
theorem clock_inj {t u : Int} (ht : 0 ≤ (civil (dayOf t)).year)
    (ht' : (civil (dayOf t)).year < 10000) (hu : 0 ≤ (civil (dayOf u)).year)
    (hu' : (civil (dayOf u)).year < 10000) (h : clock t = clock u) :
    t / nanosPerSecond = u / nanosPerSecond := by
  -- Down to the second both are read back from their text.
  have hfloor : ∀ v : Int, dayOf (v / nanosPerSecond * nanosPerSecond) = dayOf v ∧
      secondOfDay (v / nanosPerSecond * nanosPerSecond) = secondOfDay v ∧
      nanosOf (v / nanosPerSecond * nanosPerSecond) = 0 := by
    intro v
    simp only [dayOf, secondOfDay, nanosOf, nanosPerSecond, secondsPerDay]
    omega
  have hread : ∀ v : Int, 0 ≤ (civil (dayOf v)).year → (civil (dayOf v)).year < 10000 →
      parse (String.ofList (clock v ++ ['Z'])) =
        some (v / nanosPerSecond * nanosPerSecond / 1000) := by
    intro v hv hv'
    obtain ⟨hday, hsecond, hnanos⟩ := hfloor v
    have hparse := parse_format (t := v / nanosPerSecond * nanosPerSecond)
      (by rw [hday]; exact hv) (by rw [hday]; exact hv')
    have hformat : format (v / nanosPerSecond * nanosPerSecond) =
        String.ofList (clock v ++ ['Z']) := by
      rw [format, clock, clock, hday, hsecond, hnanos]
      rfl
    rw [hformat] at hparse
    exact hparse
  have heq := hread t ht ht'
  rw [h, hread u hu hu', Option.some.injEq] at heq
  simp only [nanosPerSecond] at *
  omega

/-- Two values with the same offset and the same text are one value. -/
theorem isoformat_inj {t u : Int} {utcoffset : Option Int} (ht : InCalendar t)
    (hu : InCalendar u) (h : isoformat t utcoffset = isoformat u utcoffset) : t = u := by
  have htyear : 0 ≤ year t ∧ year t < 10000 := by
    constructor <;> linarith [ht.minYear, ht.maxYear]
  have huyear : 0 ≤ year u ∧ year u < 10000 := by
    constructor <;> linarith [hu.minYear, hu.maxYear]
  rw [isoformat, isoformat, String.ofList_inj, ← List.append_assoc, ← List.append_assoc] at h
  have hparts := List.append_cancel_right h
  obtain ⟨hclock, hfraction⟩ := List.append_inj hparts
    (by rw [length_clock htyear.1 htyear.2, length_clock huyear.1 huyear.2])
  have hsecond := clock_inj htyear.1 htyear.2 huyear.1 huyear.2 hclock
  have hmicros : microsOf t = microsOf u := by
    apply fraction_inj _ _ hfraction
    · simp only [microsOf, microsPerSecond]
      omega
    · simp only [microsOf, microsPerSecond]
      omega
  simp only [microsOf, microsPerSecond, nanosPerSecond] at hmicros hsecond
  omega

example : isoformat 1767225600000000 (some 0) = "2026-01-01T00:00:00+00:00" := by decide

end IsoFormat
