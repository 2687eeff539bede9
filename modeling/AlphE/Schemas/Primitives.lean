import Mathlib.Data.Rat.Defs
import Mathlib.Algebra.Order.Ring.Rat
import AlphE.Lib.InsertionDict

/-!
The scalar types under the schemas: timestamps, and the floating-point fields
that are declared with `ge=0.0, le=1.0`.
-/

namespace AlphE

/-- A `datetime`: microseconds on the clock it was written against, and the
offset of that clock from UTC when the value is timezone-aware. The line of
microseconds has no end on either side, where the runtime's calendar stops at
the years 1 and 9999. -/
structure DateTime where
  clock : Int
  utcoffset : Option Int
  deriving DecidableEq, Repr

namespace DateTime

/-- `datetime.fromtimestamp(_, UTC)`: an aware value on the UTC clock. -/
def utc (micros : Int) : DateTime := ⟨micros, some 0⟩

/-- The instant a value denotes; a naive value is read on the UTC clock. -/
def instant (t : DateTime) : Int := t.clock - t.utcoffset.getD 0

/-- `t + timedelta(microseconds=delta)`, which keeps the timezone. -/
def addMicros (t : DateTime) (delta : Int) : DateTime :=
  { t with clock := t.clock + delta }

/-- `timedelta(minutes=n)` in microseconds. -/
def minutes (n : Int) : Int := n * 60000000

@[simp] theorem instant_addMicros (t : DateTime) (delta : Int) :
    (t.addMicros delta).instant = t.instant + delta := by
  simp only [addMicros, instant]
  omega

end DateTime

/-- A `float` field with `ge=0.0, le=1.0`. -/
abbrev UnitFloat := { q : ℚ // 0 ≤ q ∧ q ≤ 1 }

namespace UnitFloat

def zero : UnitFloat := ⟨0, by decide⟩

def one : UnitFloat := ⟨1, by decide⟩

instance : Inhabited UnitFloat := ⟨zero⟩

end UnitFloat

end AlphE
