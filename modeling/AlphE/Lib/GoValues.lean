import AlphE.Lib.Rfc3339
import Mathlib.Data.Rat.Floor

/-!
Go's numbers and times. A `float64` is a number, an infinity or no number at
all; what is computed with finite numbers is exact, and zero has one sign. A
`time.Time` is an instant, in nanoseconds since 1970, and the clock it is read
on, in seconds east of UTC.
-/

namespace Go

inductive Float64
  | nan
  | inf (negative : Bool)
  | fin (q : ℚ)
  deriving DecidableEq, Repr

namespace Float64

/-- No comparison with `nan` holds. -/
def lt : Float64 → Float64 → Bool
  | .nan, _ => false
  | _, .nan => false
  | .inf negative, .inf negative' => negative && !negative'
  | .inf negative, .fin _ => negative
  | .fin _, .inf negative => !negative
  | .fin p, .fin q => p < q

def eq : Float64 → Float64 → Bool
  | .inf negative, .inf negative' => negative = negative'
  | .fin p, .fin q => p = q
  | _, _ => false

def le (x y : Float64) : Bool := lt x y || eq x y

def div : Float64 → Float64 → Float64
  | .nan, _ => .nan
  | _, .nan => .nan
  | .inf _, .inf _ => .nan
  | .inf negative, .fin q => .inf (negative ^^ decide (q < 0))
  | .fin _, .inf _ => .fin 0
  | .fin p, .fin q =>
      if q ≠ 0 then .fin (p / q) else if p = 0 then .nan else .inf (decide (p < 0))

/-- `math.Min`: an infinity below comes before `nan`. -/
def min (x y : Float64) : Float64 :=
  if x = .inf true ∨ y = .inf true then .inf true
  else if x = .nan ∨ y = .nan then .nan
  else if lt x y then x else y

end Float64

/-- `strconv.ParseInt(s, 10, 64)`. -/
def parseInt64 (s : String) : Option Int :=
  let (negative, digits) := match s.toList with
    | '-' :: digits => (true, digits)
    | '+' :: digits => (false, digits)
    | digits => (false, digits)
  if digits = [] then none
  else (Rfc3339.readDigits digits).bind fun n =>
    let value : Int := if negative then -n else n
    if -2 ^ 63 ≤ value ∧ value < 2 ^ 63 then some value else none

/-- What of formatting and scanning is a table or an algorithm of its own: which
characters outside ASCII are printable, `%g` read by `Sscanf`, and `%.4g` and
`%.0f` written. -/
structure Fmt where
  isPrint : Char → Bool
  scanG : String → Option Float64
  format4g : Float64 → String
  format0f : Float64 → String

/-- A `time.Time`. -/
structure Time where
  nanos : Int
  zone : Int := 0
  deriving DecidableEq, Repr

namespace Time

/-- `time.Unix(sec, nsec)`, on the UTC clock. -/
def unix (sec nsec : Int) : Time := { nanos := sec * Rfc3339.nanosPerSecond + nsec }

def utc (t : Time) : Time := { t with zone := 0 }

def add (t : Time) (delta : Int) : Time := { t with nanos := t.nanos + delta }

def after (t u : Time) : Bool := u.nanos < t.nanos

theorem eq_of_nanos {t u : Time} (hnanos : t.nanos = u.nanos) (hzone : t.zone = u.zone) :
    t = u := by
  cases t
  cases u
  cases hnanos
  cases hzone
  rfl

/-- The zero value: the first instant of the year 1. -/
def zeroNanos : Int := -62135596800000000000

def isZero (t : Time) : Bool := t.nanos = zeroNanos

/-- The instant whose UTC clock shows what the clock of `t` does. -/
def wall (t : Time) : Int := t.nanos + t.zone * Rfc3339.nanosPerSecond

def year (t : Time) : Int := (Rfc3339.civil (Rfc3339.dayOf t.wall)).year

/-- `Z07:00`. -/
def zoneText (zone : Int) : List Char :=
  if zone = 0 then ['Z']
  else (if zone < 0 then '-' else '+') ::
    (Rfc3339.padded 2 (zone.natAbs / 3600) ++ ':' ::
      Rfc3339.padded 2 (zone.natAbs / 60 % 60))

/-- `Format(time.RFC3339)`. -/
def rfc3339 (t : Time) : String :=
  String.ofList (Rfc3339.clock t.wall ++ zoneText t.zone)

theorem space_notMem_zoneText (zone : Int) : ' ' ∉ zoneText zone := by
  have hcolon : ' ' ≠ ':' := by decide
  rw [zoneText]
  split
  · decide
  · rw [List.mem_cons, List.mem_append, List.mem_cons]
    have hsign : ' ' ≠ (if zone < 0 then '-' else '+') := by split <;> decide
    simp only [hsign, hcolon, Rfc3339.space_notMem_padded, or_self, not_false_eq_true]

theorem space_notMem_rfc3339 (t : Time) : ' ' ∉ t.rfc3339.toList := by
  rw [rfc3339, String.toList_ofList, List.mem_append, not_or]
  exact ⟨Rfc3339.space_notMem_clock t.wall, space_notMem_zoneText t.zone⟩

/-- `Format("15:04:05")`. -/
def clockTime (t : Time) : String :=
  String.ofList ((Rfc3339.clock t.wall).reverse.take 8).reverse

open Rfc3339 in
/-- Two digits each, with colons between them. -/
theorem toList_clockTime (t : Time) :
    t.clockTime.toList = padded 2 (secondOfDay t.wall / 3600) ++ ':' ::
      (padded 2 (secondOfDay t.wall / 60 % 60) ++ ':' :: padded 2 (secondOfDay t.wall % 60)) := by
  have hdate : ∃ date, clock t.wall = date ++
      (padded 2 (secondOfDay t.wall / 3600) ++ ':' :: (padded 2 (secondOfDay t.wall / 60 % 60) ++
        ':' :: padded 2 (secondOfDay t.wall % 60))) := by
    refine ⟨yearText (civil (dayOf t.wall)).year ++ '-' ::
      (padded 2 (civil (dayOf t.wall)).month ++ '-' ::
        (padded 2 (civil (dayOf t.wall)).day ++ ['T'])), ?_⟩
    simp [clock]
  obtain ⟨date, hdate⟩ := hdate
  rw [clockTime, String.toList_ofList, hdate, List.reverse_append, List.take_left' (by simp),
    List.reverse_reverse]

theorem length_clockTime (t : Time) : t.clockTime.toList.length = 8 := by
  rw [toList_clockTime]
  simp

theorem comma_notMem_clockTime (t : Time) : ',' ∉ t.clockTime.toList := by
  have hpadded (n : ℕ) : ',' ∉ Rfc3339.padded 2 n := by
    intro h
    obtain ⟨d, hd, hcomma⟩ := Rfc3339.mem_padded h
    have hne : ∀ d < 10, ',' ≠ Nat.digitChar d := by decide
    exact hne d hd hcomma
  rw [toList_clockTime]
  simp [hpadded]

/-- `MarshalJSON`, which fails outside the years RFC 3339 has and on a clock a
day or more from UTC. -/
def marshal (t : Time) : Option String :=
  if 0 ≤ t.year ∧ t.year < 10000 ∧ t.zone.natAbs < 86400 then
    some (String.ofList (Rfc3339.clock t.wall ++
      (Rfc3339.fraction (Rfc3339.nanosOf t.wall) ++ zoneText t.zone)))
  else none

/-- A time on the UTC clock in the years that calendars of other languages have,
too. -/
structure Common (t : Time) : Prop where
  utc : t.zone = 0
  year_pos : 1 ≤ t.year
  year_lt : t.year < 10000

theorem wall_of_zone_eq_zero {t : Time} (h : t.zone = 0) : t.wall = t.nanos := by
  rw [wall, h, Int.zero_mul, Int.add_zero]

theorem Common.marshal {t : Time} (h : t.Common) :
    t.marshal = some (Rfc3339.format t.nanos) := by
  have hzone : t.zone.natAbs < 86400 := by
    rw [h.utc]
    decide
  rw [Time.marshal, if_pos ⟨by have := h.year_pos; omega, h.year_lt, hzone⟩, h.utc, zoneText,
    if_pos rfl, wall_of_zone_eq_zero h.utc, Rfc3339.format]

/-- What is written of such a time reads back down to microseconds. -/
theorem Common.parse {t : Time} (h : t.Common) :
    Rfc3339.parse (Rfc3339.format t.nanos) = some (t.nanos / 1000) := by
  have hyear := h.year_pos
  have hyear' := h.year_lt
  rw [year, wall_of_zone_eq_zero h.utc] at hyear hyear'
  exact Rfc3339.parse_format (by omega) hyear'

end Time

end Go
