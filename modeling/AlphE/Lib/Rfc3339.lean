import Mathlib.Algebra.Ring.Nat
import Mathlib.Data.List.DropRight

/-!
Timestamps as RFC 3339 text on the UTC clock, with as many fractional digits as
the nanoseconds need and none where there are none, and the reader that keeps
the first six of them. An instant is a number of nanoseconds since 1970.

The calendar is the proleptic Gregorian one, counted in eras of 400 years that
start on the first of March, so that the day a leap year has more is the last of
its year.
-/

namespace Rfc3339

/-! ### The calendar -/

structure Date where
  year : Int
  month : ℕ
  day : ℕ
  deriving DecidableEq, Repr

def daysPerEra : ℕ := 146097

/-- Days from the first of March of the year 0 to 1970-01-01. -/
def epochDay : Int := 719468

/-- Days of an era before its year `yoe`. -/
def daysBeforeYear (yoe : ℕ) : ℕ := yoe * 365 + yoe / 4 - yoe / 100

/-- The year of the era that the day `doe` of the era lies in: a century is
36524 days, but the fourth one a day longer, and four years are 1461 days. -/
def yearOfEra (doe : ℕ) : ℕ :=
  let century := min 3 (doe / 36524)
  let inCentury := doe - 36524 * century
  let four := inCentury / 1461
  100 * century + 4 * four + min 3 ((inCentury - 1461 * four) / 365)

/-- The day of its year, which starts in March. -/
def dayOfYear (doe : ℕ) : ℕ := doe - daysBeforeYear (yearOfEra doe)

/-- Days of a year before its month `mp`, where March is 0. -/
def daysBeforeMonth (mp : ℕ) : ℕ := (153 * mp + 2) / 5

def monthOfYear (doy : ℕ) : ℕ := (5 * doy + 2) / 153

/-- The month as dates count it, where January is 1, and back. -/
def calendarMonth (mp : ℕ) : ℕ := if mp < 10 then mp + 3 else mp - 9

def marchMonth (month : ℕ) : ℕ := if 2 < month then month - 3 else month + 9

/-- The day of its era of a day counted from 1970-01-01. -/
def dayOfEra (days : Int) : ℕ := ((days + epochDay) % daysPerEra).toNat

/-- The year, from March to February, that a day lies in. -/
def marchYear (days : Int) : Int :=
  (days + epochDay) / daysPerEra * 400 + yearOfEra (dayOfEra days)

/-- The first day of a year from March to February. -/
def firstOfMarch (y : Int) : Int :=
  y / 400 * daysPerEra + daysBeforeYear (y % 400).toNat - epochDay

/-- The date of a day, counted from 1970-01-01. -/
def civil (days : Int) : Date :=
  let doy := dayOfYear (dayOfEra days)
  let month := calendarMonth (monthOfYear doy)
  { year := if month ≤ 2 then marchYear days + 1 else marchYear days
    month := month
    day := doy - daysBeforeMonth (monthOfYear doy) + 1 }

/-- The number of a date's day, counted from 1970-01-01. -/
def daysFromCivil (d : Date) : Int :=
  firstOfMarch (if d.month ≤ 2 then d.year - 1 else d.year) +
    (daysBeforeMonth (marchMonth d.month) + (d.day - 1) : ℕ)

theorem dayOfEra_lt (days : Int) : dayOfEra days < daysPerEra := by
  simp only [dayOfEra, daysPerEra]
  omega

theorem yearOfEra_lt {doe : ℕ} (h : doe < daysPerEra) : yearOfEra doe < 400 := by
  simp only [yearOfEra, daysPerEra] at *
  omega

theorem daysBeforeYear_mul_add {century four year : ℕ} (hfour : four < 25)
    (hyear : year < 4) :
    daysBeforeYear (100 * century + 4 * four + year) =
      36524 * century + 1461 * four + 365 * year := by
  rw [daysBeforeYear]
  omega

/-- The days of an era before the year that a day lies in. -/
theorem daysBeforeYear_yearOfEra {doe : ℕ} (h : doe < daysPerEra) :
    daysBeforeYear (yearOfEra doe) ≤ doe ∧ doe < daysBeforeYear (yearOfEra doe) + 366 := by
  rw [daysPerEra] at h
  have hfour : (doe - 36524 * min 3 (doe / 36524)) / 1461 < 25 := by omega
  rw [yearOfEra, daysBeforeYear_mul_add hfour (by omega)]
  omega

theorem dayOfYear_lt {doe : ℕ} (h : doe < daysPerEra) : dayOfYear doe < 366 := by
  obtain ⟨hle, hlt⟩ := daysBeforeYear_yearOfEra h
  exact Nat.sub_lt_left_of_lt_add hle hlt

theorem daysBeforeYear_add_dayOfYear {doe : ℕ} (h : doe < daysPerEra) :
    daysBeforeYear (yearOfEra doe) + dayOfYear doe = doe :=
  Nat.add_sub_of_le (daysBeforeYear_yearOfEra h).1

theorem monthOfYear_lt {doy : ℕ} (h : doy < 366) : monthOfYear doy < 12 := by
  rw [monthOfYear]
  omega

theorem daysBeforeMonth_monthOfYear (doy : ℕ) :
    daysBeforeMonth (monthOfYear doy) ≤ doy ∧
      doy < daysBeforeMonth (monthOfYear doy) + 31 := by
  rw [daysBeforeMonth, monthOfYear]
  omega

theorem monthOfYear_dayOfYear_lt (days : Int) :
    monthOfYear (dayOfYear (dayOfEra days)) < 12 :=
  monthOfYear_lt (dayOfYear_lt (dayOfEra_lt days))

theorem calendarMonth_lt {mp : ℕ} (h : mp < 12) : calendarMonth mp < 13 := by
  rw [calendarMonth]
  split <;> omega

@[simp] theorem marchMonth_calendarMonth {mp : ℕ} (h : mp < 12) :
    marchMonth (calendarMonth mp) = mp := by
  rw [calendarMonth, marchMonth]
  split <;> split <;> omega

theorem month_civil_lt (days : Int) : (civil days).month < 13 :=
  calendarMonth_lt (monthOfYear_dayOfYear_lt days)

theorem day_civil_lt (days : Int) : (civil days).day < 32 := by
  have hday := daysBeforeMonth_monthOfYear (dayOfYear (dayOfEra days))
  simp only [civil]
  omega

theorem firstOfMarch_marchYear_add (days : Int) :
    firstOfMarch (marchYear days) + (dayOfYear (dayOfEra days) : ℕ) = days := by
  have hyoe := yearOfEra_lt (dayOfEra_lt days)
  have hdoe := daysBeforeYear_add_dayOfYear (dayOfEra_lt days)
  have hdiv : marchYear days / 400 = (days + epochDay) / daysPerEra := by
    rw [marchYear]
    omega
  have hmod : (marchYear days % 400).toNat = yearOfEra (dayOfEra days) := by
    rw [marchYear]
    omega
  have hera : (days + epochDay) / daysPerEra * daysPerEra + (dayOfEra days : ℕ) =
      days + epochDay := by
    simp only [dayOfEra, daysPerEra]
    omega
  rw [firstOfMarch, hdiv, hmod]
  omega

/-- Counting the days up to the date of a day gives the day. -/
theorem daysFromCivil_civil (days : Int) : daysFromCivil (civil days) = days := by
  have hyear : (if (civil days).month ≤ 2 then (civil days).year - 1
      else (civil days).year) = marchYear days := by
    simp only [civil]
    split <;> omega
  have hmp : marchMonth (civil days).month = monthOfYear (dayOfYear (dayOfEra days)) :=
    marchMonth_calendarMonth (monthOfYear_dayOfYear_lt days)
  have hday : daysBeforeMonth (monthOfYear (dayOfYear (dayOfEra days))) +
      ((civil days).day - 1) = dayOfYear (dayOfEra days) := by
    simp only [civil, Nat.add_sub_cancel]
    exact Nat.add_sub_of_le (daysBeforeMonth_monthOfYear _).1
  rw [daysFromCivil, hyear, hmp, hday, firstOfMarch_marchYear_add]

/-! ### Digits -/

/-- The last `w` decimal digits of `n`, most significant first. -/
def padded : ℕ → ℕ → List Char
  | 0, _ => []
  | w + 1, n => padded w (n / 10) ++ [Nat.digitChar (n % 10)]

def digitValue (c : Char) : Option ℕ :=
  if '0' ≤ c ∧ c ≤ '9' then some (c.toNat - 48) else none

/-- The number that digits spell, if they are digits. -/
def readDigits (cs : List Char) : Option ℕ :=
  cs.foldlM (fun n c => (digitValue c).map (10 * n + ·)) 0

theorem digitValue_digitChar : ∀ d < 10, digitValue (Nat.digitChar d) = some d := by
  decide

@[simp] theorem length_padded (w n : ℕ) : (padded w n).length = w := by
  induction w generalizing n with
  | zero => rfl
  | succ w ih => simp [padded, ih]

theorem readDigits_append_singleton (cs : List Char) (c : Char) :
    readDigits (cs ++ [c]) =
      (readDigits cs).bind fun n => (digitValue c).map (10 * n + ·) := by
  simp [readDigits, List.foldlM_append]

theorem readDigits_padded {w n : ℕ} (h : n < 10 ^ w) :
    readDigits (padded w n) = some n := by
  induction w generalizing n with
  | zero =>
      have hn : n = 0 := by simpa using h
      rw [hn]
      rfl
  | succ w ih =>
      have hdiv : n / 10 < 10 ^ w := Nat.div_lt_of_lt_mul (by rwa [Nat.pow_succ'] at h)
      rw [padded, readDigits_append_singleton, ih hdiv, Option.bind_some,
        digitValue_digitChar _ (Nat.mod_lt n (by decide)), Option.map_some,
        Nat.div_add_mod]

/-- A zero appended is a factor of ten. -/
theorem readDigits_append_zeros (cs : List Char) (k : ℕ) :
    readDigits (cs ++ List.replicate k '0') = (readDigits cs).map (· * 10 ^ k) := by
  induction k with
  | zero => simp
  | succ k ih =>
      rw [List.replicate_succ', ← List.append_assoc, readDigits_append_singleton, ih]
      cases readDigits cs with
      | none => rfl
      | some n =>
          have hzero : digitValue '0' = some 0 := rfl
          simp only [Option.map_some, Option.bind_some, hzero, Nat.add_zero, Nat.pow_succ]
          rw [Nat.mul_left_comm, Nat.mul_comm 10]

/-! ### Timestamps -/

def nanosPerSecond : ℕ := 1000000000

def secondsPerDay : ℕ := 86400

/-- The fraction of a second without its trailing zeros, and nothing at all when
there is none. -/
def fraction (nanos : ℕ) : List Char :=
  if nanos = 0 then [] else '.' :: (padded 9 nanos).rdropWhile (· = '0')

def dayOf (t : Int) : Int := t / nanosPerSecond / secondsPerDay

def secondOfDay (t : Int) : ℕ := (t / nanosPerSecond % secondsPerDay).toNat

def nanosOf (t : Int) : ℕ := (t % nanosPerSecond).toNat

/-- A year in four digits, or in more where it has more. -/
def yearText (y : Int) : List Char :=
  (if y < 0 then ['-'] else []) ++
    (if y.natAbs < 10000 then padded 4 y.natAbs else Nat.toDigits 10 y.natAbs)

/-- The date and the time of day, in seconds, of the instant `t`. -/
def clock (t : Int) : List Char :=
  let date := civil (dayOf t)
  let s := secondOfDay t
  yearText date.year ++ '-' :: (padded 2 date.month ++ '-' :: (padded 2 date.day ++ 'T' ::
    (padded 2 (s / 3600) ++ ':' :: (padded 2 (s / 60 % 60) ++ ':' :: padded 2 (s % 60)))))

/-- The instant `t`, in nanoseconds since 1970, on the UTC clock. -/
def format (t : Int) : String :=
  String.ofList (clock t ++ (fraction (nanosOf t) ++ ['Z']))

/-- A number of `w` digits, and what follows the separator after it. -/
def field (w : ℕ) (sep : Char) (cs : List Char) : Option (ℕ × List Char) :=
  match readDigits (cs.take w), cs.drop w with
  | some n, c :: rest => if c = sep then some (n, rest) else none
  | _, _ => none

/-- The microseconds of a fraction, down from as many digits as it has. -/
def readFraction : List Char → Option ℕ
  | ['Z'] => some 0
  | '.' :: cs =>
      if cs.getLast? = some 'Z' then
        (readDigits cs.dropLast).map fun n => n * 1000000 / 10 ^ (cs.length - 1)
      else none
  | _ => none

/-- The microseconds since 1970 of a timestamp on the UTC clock. -/
def parse (text : String) : Option Int := do
  let (year, cs) ← field 4 '-' text.toList
  let (month, cs) ← field 2 '-' cs
  let (day, cs) ← field 2 'T' cs
  let (hour, cs) ← field 2 ':' cs
  let (minute, cs) ← field 2 ':' cs
  let second ← readDigits (cs.take 2)
  let micros ← readFraction (cs.drop 2)
  let date : Date := { year := year, month := month, day := day }
  if civil (daysFromCivil date) = date ∧ hour < 24 ∧ minute < 60 ∧ second < 60 then
    some ((daysFromCivil date * secondsPerDay + (hour * 3600 + minute * 60 + second : ℕ)) *
      1000000 + micros)
  else none

theorem field_padded {w n : ℕ} (h : n < 10 ^ w) (sep : Char) (rest : List Char) :
    field w sep (padded w n ++ sep :: rest) = some (n, rest) := by
  have htake : (padded w n ++ sep :: rest).take w = padded w n :=
    List.take_left' (length_padded w n)
  have hdrop : (padded w n ++ sep :: rest).drop w = sep :: rest :=
    List.drop_left' (length_padded w n)
  rw [field, htake, hdrop, readDigits_padded h]
  simp

theorem exists_rdropWhile_append_replicate (c : Char) (cs : List Char) :
    ∃ k, cs.rdropWhile (· = c) ++ List.replicate k c = cs := by
  induction cs using List.reverseRecOn with
  | nil => exact ⟨0, rfl⟩
  | append_singleton cs d ih =>
      by_cases hd : d = c
      · obtain ⟨k, hk⟩ := ih
        refine ⟨k + 1, ?_⟩
        rw [List.rdropWhile_concat_pos _ _ _ (by simpa using hd), List.replicate_succ',
          ← List.append_assoc, hk, hd]
      · refine ⟨0, ?_⟩
        rw [List.rdropWhile_concat_neg _ _ _ (by simpa using hd)]
        simp

theorem micros_eq {len k : ℕ} (h : len + k = 9) (n : ℕ) :
    n * 1000000 / 10 ^ len = n * 10 ^ k / 1000 := by
  have hpow : 10 ^ len * 10 ^ k = 1000 * 1000000 := by rw [← Nat.pow_add, h]
  calc
    n * 1000000 / 10 ^ len = n * 1000000 * 10 ^ k / (10 ^ len * 10 ^ k) :=
      (Nat.mul_div_mul_right _ _ (Nat.pow_pos (by decide))).symm
    _ = n * 10 ^ k * 1000000 / (1000 * 1000000) := by rw [hpow, Nat.mul_right_comm]
    _ = n * 10 ^ k / 1000 := Nat.mul_div_mul_right _ _ (by decide)

/-- The fraction is read back down to microseconds. -/
theorem readFraction_fraction {nanos : ℕ} (h : nanos < nanosPerSecond) :
    readFraction (fraction nanos ++ ['Z']) = some (nanos / 1000) := by
  by_cases hzero : nanos = 0
  · rw [hzero]
    rfl
  obtain ⟨k, hk⟩ := exists_rdropWhile_append_replicate '0' (padded 9 nanos)
  have hlength := congrArg List.length hk
  have hread := readDigits_append_zeros ((padded 9 nanos).rdropWhile (· = '0')) k
  rw [hk, readDigits_padded (by simpa [nanosPerSecond] using h)] at hread
  rw [List.length_append, List.length_replicate, length_padded] at hlength
  obtain ⟨n, hn, hnanos⟩ := Option.map_eq_some_iff.mp hread.symm
  rw [fraction, if_neg hzero, List.cons_append, readFraction, List.getLast?_concat,
    if_pos rfl, List.dropLast_concat, hn, Option.map_some, List.length_append,
    List.length_singleton, Nat.add_sub_cancel, micros_eq hlength n, hnanos]

theorem mem_padded {w n : ℕ} {c : Char} (h : c ∈ padded w n) :
    ∃ d < 10, c = Nat.digitChar d := by
  induction w generalizing n with
  | zero => cases h
  | succ w ih =>
      rw [padded, List.mem_append, List.mem_singleton] at h
      rcases h with h | rfl
      · exact ih h
      · exact ⟨n % 10, Nat.mod_lt n (by decide), rfl⟩

theorem digitChar_ne_space : ∀ d < 10, Nat.digitChar d ≠ ' ' := by
  decide

theorem space_notMem_padded (w n : ℕ) : ' ' ∉ padded w n := by
  intro h
  obtain ⟨d, hd, hspace⟩ := mem_padded h
  exact digitChar_ne_space d hd hspace.symm

theorem space_notMem_yearText (y : Int) : ' ' ∉ yearText y := by
  rw [yearText, List.mem_append, not_or]
  constructor
  · split
    · decide
    · exact List.not_mem_nil
  · split
    · exact space_notMem_padded 4 _
    · intro h
      exact absurd (Nat.isDigit_of_mem_toDigits (by decide) (by decide) h) (by decide)

/-- A clock is one word. -/
theorem space_notMem_clock (t : Int) : ' ' ∉ clock t := by
  have hdash : ' ' ≠ '-' := by decide
  have hcolon : ' ' ≠ ':' := by decide
  have hday : ' ' ≠ 'T' := by decide
  simp only [clock, List.mem_append, List.mem_cons, space_notMem_yearText, space_notMem_padded,
    hdash, hcolon, hday, or_self, not_false_eq_true]

theorem secondOfDay_lt (t : Int) : secondOfDay t < 86400 := by
  simp only [secondOfDay, secondsPerDay]
  omega

theorem nanosOf_lt (t : Int) : nanosOf t < nanosPerSecond := by
  simp only [nanosOf, nanosPerSecond]
  omega

theorem yearText_eq_padded {y : Int} (hy : 0 ≤ y) (hy' : y < 10000) :
    yearText y = padded 4 y.natAbs := by
  rw [yearText, if_neg (Int.not_lt.mpr hy), if_pos (by omega), List.nil_append]

/-- Hours, minutes and seconds make up the time of day again. -/
theorem clock_parts (s : ℕ) : s / 3600 * 3600 + s / 60 % 60 * 60 + s % 60 = s := by
  omega

/-- The day, the time of day and the fraction make up the instant again. -/
theorem instant_parts (t : Int) :
    (dayOf t * secondsPerDay + (secondOfDay t : ℕ)) * 1000000 + (nanosOf t / 1000 : ℕ) =
      t / 1000 := by
  simp only [dayOf, secondOfDay, nanosOf, secondsPerDay, nanosPerSecond]
  omega

/-- **Round trip.** A timestamp of the years 0 to 9999 is read back down to
microseconds. -/
theorem parse_format {t : Int} (hyear : 0 ≤ (civil (dayOf t)).year)
    (hyear' : (civil (dayOf t)).year < 10000) : parse (format t) = some (t / 1000) := by
  have hmonth := month_civil_lt (dayOf t)
  have hday := day_civil_lt (dayOf t)
  have hsecond := secondOfDay_lt t
  have hdate : (⟨((civil (dayOf t)).year.natAbs : ℕ), (civil (dayOf t)).month,
      (civil (dayOf t)).day⟩ : Date) = civil (dayOf t) := by
    rw [Int.natAbs_of_nonneg hyear]
  have hsec : ∀ rest : List Char,
      readDigits ((padded 2 (secondOfDay t % 60) ++ rest).take 2) =
        some (secondOfDay t % 60) := by
    intro rest
    rw [List.take_left' (length_padded 2 _), readDigits_padded (by omega)]
  have hdrop : ∀ rest : List Char,
      (padded 2 (secondOfDay t % 60) ++ rest).drop 2 = rest :=
    fun rest => List.drop_left' (length_padded 2 _)
  simp only [parse, format, clock, String.toList_ofList, yearText_eq_padded hyear hyear',
    List.append_assoc, List.cons_append]
  -- The five fields that end with a separator, from the year to the minutes.
  rw [field_padded (by omega)]
  simp only [Option.bind_eq_bind, Option.bind_some]
  rw [field_padded (by omega)]
  simp only [Option.bind_some]
  rw [field_padded (by omega)]
  simp only [Option.bind_some]
  rw [field_padded (by omega)]
  simp only [Option.bind_some]
  rw [field_padded (by omega)]
  simp only [Option.bind_some, hsec, hdrop, readFraction_fraction (nanosOf_lt t), hdate,
    daysFromCivil_civil, clock_parts, instant_parts]
  rw [if_pos]
  refine ⟨trivial, ?_, ?_, ?_⟩ <;> omega

end Rfc3339
