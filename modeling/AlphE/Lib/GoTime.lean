import AlphE.Lib.GoValues
import AlphE.Lib.IsoFormat

/-!
Reading a `time.Time` from RFC 3339 text, as `Time.UnmarshalJSON` does: the date
and the time of day, a fraction of a second, of which nine digits count, and the
zone, which has to be there.
-/

namespace Go

namespace Time

open Rfc3339

/-- The seconds since 1970 on the clock a text starts with, and the rest. -/
def readClock (cs : List Char) : Option (Int × List Char) := do
  let (year, cs) ← field 4 '-' cs
  let (month, cs) ← field 2 '-' cs
  let (day, cs) ← field 2 'T' cs
  let (hour, cs) ← field 2 ':' cs
  let (minute, cs) ← field 2 ':' cs
  let second ← readDigits (cs.take 2)
  let date : Date := { year := year, month := month, day := day }
  if (cs.take 2).length = 2 ∧ civil (daysFromCivil date) = date ∧ hour < 24 ∧ minute < 60 ∧
      second < 60 then
    some (daysFromCivil date * secondsPerDay + (hour * 3600 + minute * 60 + second : ℕ),
      cs.drop 2)
  else none

/-- Nine digits of a fraction count. -/
def nanosOfDigits (digits : List Char) : ℕ :=
  (readDigits (digits.take 9)).getD 0 * 10 ^ (9 - (digits.take 9).length)

/-- The nanoseconds of the fraction a text starts with, if it does, and the
rest. -/
def readNanos : List Char → ℕ × List Char
  | '.' :: cs =>
      if cs.takeWhile Char.isDigit = [] then (0, '.' :: cs)
      else (nanosOfDigits (cs.takeWhile Char.isDigit), cs.dropWhile Char.isDigit)
  | cs => (0, cs)

/-- `Z`, or hours and minutes with a sign: the seconds east of UTC. -/
def readZone : List Char → Option Int
  | [] => none
  | sign :: cs =>
      if sign = 'Z' then if cs = [] then some 0 else none
      else do
        let (hour, digits) ← field 2 ':' cs
        let minute ← readDigits digits
        if (sign = '+' ∨ sign = '-') ∧ digits.length = 2 ∧ hour < 24 ∧ minute < 60 then
          some ((if sign = '-' then -1 else 1) * (hour * 3600 + minute * 60 : ℕ))
        else none

/-- `Time.UnmarshalJSON`, for the text of a JSON string. -/
def unmarshal (text : String) : Option Time := do
  let (seconds, cs) ← readClock text.toList
  let (nanos, cs) := readNanos cs
  let zone ← readZone cs
  return { nanos := (seconds - zone) * nanosPerSecond + nanos, zone := zone }

/-! ### What is written is read -/

theorem readClock_clock {t : Int} (hyear : 0 ≤ (civil (dayOf t)).year)
    (hyear' : (civil (dayOf t)).year < 10000) (rest : List Char) :
    readClock (clock t ++ rest) = some (t / nanosPerSecond, rest) := by
  have hmonth := month_civil_lt (dayOf t)
  have hday := day_civil_lt (dayOf t)
  have hsecond := secondOfDay_lt t
  have hdate : (⟨((civil (dayOf t)).year.natAbs : ℕ), (civil (dayOf t)).month,
      (civil (dayOf t)).day⟩ : Date) = civil (dayOf t) := by
    rw [Int.natAbs_of_nonneg hyear]
  have htake : (padded 2 (secondOfDay t % 60) ++ rest).take 2 =
      padded 2 (secondOfDay t % 60) :=
    List.take_left' (length_padded 2 _)
  have hdrop : (padded 2 (secondOfDay t % 60) ++ rest).drop 2 = rest :=
    List.drop_left' (length_padded 2 _)
  have hread : readDigits (padded 2 (secondOfDay t % 60)) = some (secondOfDay t % 60) :=
    readDigits_padded (by omega)
  have hsum : dayOf t * secondsPerDay + (secondOfDay t : ℕ) = t / nanosPerSecond := by
    simp only [dayOf, secondOfDay, secondsPerDay, nanosPerSecond]
    omega
  simp only [readClock, clock, yearText_eq_padded hyear hyear', List.append_assoc,
    List.cons_append]
  rw [field_padded (by omega)]
  simp only [Option.bind_eq_bind, Option.bind_some]
  rw [field_padded (by omega)]
  simp only [Option.bind_some]
  rw [field_padded (by omega)]
  simp only [Option.bind_some]
  rw [field_padded (by omega)]
  simp only [Option.bind_some]
  rw [field_padded (by omega)]
  simp only [Option.bind_some, htake, hdrop, hread, hdate, daysFromCivil_civil, clock_parts,
    length_padded, hsum]
  rw [if_pos]
  refine ⟨trivial, trivial, ?_, ?_, ?_⟩ <;> omega

theorem isDigit_digitChar : ∀ d < 10, (Nat.digitChar d).isDigit = true := by
  decide

theorem isDigit_of_mem_padded {w n : ℕ} : ∀ c ∈ padded w n, c.isDigit = true := by
  induction w generalizing n with
  | zero => simp [padded]
  | succ w ih =>
      intro c hc
      rw [padded, List.mem_append, List.mem_singleton] at hc
      obtain hc | rfl := hc
      · exact ih c hc
      · exact isDigit_digitChar _ (Nat.mod_lt _ (by decide))

/-- What stands after a number and its fraction starts with neither. -/
def EndsNumber (rest : List Char) : Prop := ∀ c ∈ rest.head?, c ≠ '.' ∧ c.isDigit = false

theorem readNanos_of_endsNumber {rest : List Char} (h : EndsNumber rest) :
    readNanos rest = (0, rest) := by
  cases rest with
  | nil => rfl
  | cons c rest =>
      have hc : c ≠ '.' := (h c rfl).1
      unfold readNanos
      split
      next cs heq => exact absurd (List.cons.inj heq).1 hc
      next => rfl

theorem readNanos_fraction {m : ℕ} (hm : m < IsoFormat.microsPerSecond) {rest : List Char}
    (h : EndsNumber rest) : readNanos (IsoFormat.fraction m ++ rest) = (m * 1000, rest) := by
  by_cases hzero : m = 0
  · rw [hzero]
    exact readNanos_of_endsNumber h
  · have hspan : rest.takeWhile Char.isDigit = [] ∧ rest.dropWhile Char.isDigit = rest := by
      cases rest with
      | nil => exact ⟨rfl, rfl⟩
      | cons c rest => simp [(h c rfl).2]
    have htake : (padded 6 m ++ rest).takeWhile Char.isDigit = padded 6 m := by
      rw [List.takeWhile_append_of_pos isDigit_of_mem_padded, hspan.1, List.append_nil]
    have hdrop : (padded 6 m ++ rest).dropWhile Char.isDigit = rest := by
      rw [List.dropWhile_append_of_pos isDigit_of_mem_padded, hspan.2]
    have hne : padded 6 m ≠ [] := List.ne_nil_of_length_pos (by simp)
    have hlength : (padded 6 m).take 9 = padded 6 m := List.take_of_length_le (by simp)
    rw [IsoFormat.fraction, if_neg hzero, List.cons_append, readNanos, htake, hdrop,
      if_neg hne, nanosOfDigits, hlength, readDigits_padded hm, length_padded,
      Option.getD_some]
    rfl

theorem readZone_zoneText {zone : Int} (hminutes : zone % 60 = 0)
    (hday : zone.natAbs < 86400) : readZone (zoneText zone) = some zone := by
  by_cases hzero : zone = 0
  · rw [hzero]
    rfl
  · have hread : ∀ sign : Char, sign ≠ 'Z' → (sign = '+' ∨ sign = '-') →
        readZone (sign :: (padded 2 (zone.natAbs / 3600) ++ ':' ::
          padded 2 (zone.natAbs / 60 % 60))) =
        some ((if sign = '-' then (-1 : Int) else 1) *
          (zone.natAbs / 3600 * 3600 + zone.natAbs / 60 % 60 * 60 : ℕ)) := by
      intro sign hZ hsign
      rw [readZone, if_neg hZ, field_padded (by omega)]
      simp only [Option.bind_eq_bind, Option.bind_some]
      rw [readDigits_padded (by omega)]
      simp only [Option.bind_some]
      rw [if_pos]
      exact ⟨hsign, length_padded _ _, by omega, by omega⟩
    rw [zoneText, if_neg hzero]
    by_cases hneg : zone < 0
    · rw [if_pos hneg, hread '-' (by decide) (.inr rfl), if_pos rfl]
      congr 1
      omega
    · rw [if_neg hneg, hread '+' (by decide) (.inl rfl), if_neg (by decide)]
      congr 1
      omega

theorem endsNumber_zoneText (zone : Int) : EndsNumber (zoneText zone) := by
  intro c hc
  rw [zoneText] at hc
  split at hc
  · obtain rfl : 'Z' = c := by simpa using hc
    decide
  · rw [List.head?_cons, Option.mem_some_iff] at hc
    split at hc
    · rw [← hc]
      decide
    · rw [← hc]
      decide

/-- A time of day in microseconds, as text. -/
def microsText (t : Int) : List Char :=
  clock (t * 1000) ++ IsoFormat.fraction (IsoFormat.microsOf t)

theorem unmarshal_microsText {t : Int} (ht : IsoFormat.InCalendar t) {rest : List Char}
    (h : EndsNumber rest) :
    unmarshal (String.ofList (microsText t ++ rest)) =
      (readZone rest).map fun zone =>
        { nanos := t * 1000 - zone * nanosPerSecond, zone := zone } := by
  have hyear : 0 ≤ (civil (dayOf (t * 1000))).year ∧
      (civil (dayOf (t * 1000))).year < 10000 := by
    have hmin : 1 ≤ (civil (dayOf (t * 1000))).year := ht.minYear
    have hmax : (civil (dayOf (t * 1000))).year ≤ 9999 := ht.maxYear
    omega
  have hmicros : IsoFormat.microsOf t < IsoFormat.microsPerSecond := by
    simp only [IsoFormat.microsOf, IsoFormat.microsPerSecond]
    omega
  rw [unmarshal, String.toList_ofList, microsText, List.append_assoc,
    readClock_clock hyear.1 hyear.2]
  simp only [Option.bind_eq_bind, Option.bind_some, readNanos_fraction hmicros h]
  cases readZone rest with
  | none => rfl
  | some zone =>
      have hinstant : (t * 1000 / nanosPerSecond - zone) * nanosPerSecond +
          ((IsoFormat.microsOf t * 1000 : ℕ) : Int) = t * 1000 - zone * nanosPerSecond := by
        simp only [IsoFormat.microsOf, IsoFormat.microsPerSecond, nanosPerSecond]
        omega
      simp only [Option.bind_some, Option.map_some, hinstant]
      rfl

/-- **Round trip.** A time of the calendar is read back with its zone, when that is
given to the minute. -/
theorem unmarshal_zoneText {t zone : Int} (ht : IsoFormat.InCalendar t)
    (hminutes : zone % 60 = 0) (hday : zone.natAbs < 86400) :
    unmarshal (String.ofList (microsText t ++ zoneText zone)) =
      some { nanos := t * 1000 - zone * nanosPerSecond, zone := zone } := by
  rw [unmarshal_microsText ht (endsNumber_zoneText zone), readZone_zoneText hminutes hday,
    Option.map_some]

/-- What `isoformat` writes of a time in UTC is read, though UTC is not `Z` there. -/
theorem unmarshal_isoformat_utc {t : Int} (ht : IsoFormat.InCalendar t) :
    unmarshal (IsoFormat.isoformat t (some 0)) = some { nanos := t * 1000 } := by
  have hrest : EndsNumber "+00:00".toList := by
    intro c hc
    obtain rfl : '+' = c := by simpa using hc
    decide
  have hread := unmarshal_microsText ht hrest
  have htext : IsoFormat.isoformat t (some 0) =
      String.ofList (microsText t ++ "+00:00".toList) := by
    rw [microsText, List.append_assoc]
    rfl
  have hzone : readZone "+00:00".toList = some 0 := by decide
  rw [htext, hread, hzone, Option.map_some, zero_mul, sub_zero]

/-- Without a zone a time is not read. -/
theorem unmarshal_of_naive {t : Int} (ht : IsoFormat.InCalendar t) :
    unmarshal (String.ofList (microsText t)) = none := by
  have hrest : EndsNumber [] := by
    intro c hc
    cases hc
  have hread := unmarshal_microsText ht hrest
  rwa [List.append_nil] at hread

end Time

end Go
