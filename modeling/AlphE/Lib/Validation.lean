import Mathlib.Data.Rat.Cast.Order
import Mathlib.Algebra.Order.Ring.Rat

/-!
Validation of dynamically typed values against typed fields, as a schema
library does it: a validator takes a value and returns a typed one or the list
of everything that is wrong, each error with the path to where it is.

The validators come in two modes. In *strict* mode a value is taken for what it
is: only an enumeration member passes for an enumeration, only a datetime for a
datetime, and a dictionary for a nested model. In *json* mode the value was read
from JSON text, and a datetime is parsed from a string. What json mode makes of a
number given as a string or as a boolean is left out.
-/

namespace Validation

/-- A dynamically typed value; `δ` is the type of datetimes. JSON has the first
seven kinds. -/
inductive Value (δ : Type)
  | null
  | bool (b : Bool)
  | int (n : Int)
  | float (q : ℚ)
  | str (s : String)
  | list (elems : List (Value δ))
  | dict (items : List (String × Value δ))
  | enum (cls member : String)
  | datetime (t : δ)

/-- The values that JSON text can hold. -/
inductive Value.OfJson {δ : Type} : Value δ → Prop
  | null : OfJson .null
  | bool (b : Bool) : OfJson (.bool b)
  | int (n : Int) : OfJson (.int n)
  | float (q : ℚ) : OfJson (.float q)
  | str (s : String) : OfJson (.str s)
  | list {elems : List (Value δ)} (h : ∀ x ∈ elems, OfJson x) : OfJson (.list elems)
  | dict {items : List (String × Value δ)} (h : ∀ p ∈ items, OfJson p.2) : OfJson (.dict items)

inductive Loc
  | field (name : String)
  | index (i : ℕ)
  deriving DecidableEq, Repr

structure ErrorLine where
  loc : List Loc
  type : String
  deriving DecidableEq, Repr

/-- The outcome of a validation. -/
inductive Validated (α : Type)
  | valid (a : α)
  | invalid (errors : List ErrorLine)

namespace Validated

variable {α β : Type}

def fail (type : String) : Validated α := .invalid [⟨[], type⟩]

def map (f : α → β) : Validated α → Validated β
  | .valid a => .valid (f a)
  | .invalid errors => .invalid errors

/-- Both outcomes are needed; the errors of both are kept, in order. -/
def ap (f : Validated (α → β)) (x : Validated α) : Validated β :=
  match f, x with
  | .valid f, .valid a => .valid (f a)
  | .valid _, .invalid errors => .invalid errors
  | .invalid errors, .valid _ => .invalid errors
  | .invalid errors, .invalid errors' => .invalid (errors ++ errors')

/-- The outcome for a part that stands at `loc`. -/
def at_ (loc : Loc) : Validated α → Validated α
  | .valid a => .valid a
  | .invalid errors => .invalid (errors.map fun e => { e with loc := loc :: e.loc })

def IsValid (x : Validated α) : Prop := ∃ a, x = .valid a

@[simp] theorem map_valid (f : α → β) (a : α) : (valid a).map f = valid (f a) := rfl

@[simp] theorem ap_valid (f : α → β) (a : α) : (valid f).ap (valid a) = valid (f a) := rfl

@[simp] theorem at_valid (loc : Loc) (a : α) : (valid a).at_ loc = valid a := rfl

@[simp] theorem isValid_valid (a : α) : (valid a).IsValid := ⟨a, rfl⟩

@[simp] theorem not_isValid_invalid (errors : List ErrorLine) :
    ¬ (invalid errors : Validated α).IsValid := by
  rintro ⟨a, h⟩
  cases h

@[simp] theorem not_isValid_fail (type : String) : ¬ (fail type : Validated α).IsValid :=
  not_isValid_invalid _

@[simp] theorem isValid_map_iff (f : α → β) (x : Validated α) :
    (x.map f).IsValid ↔ x.IsValid := by
  cases x <;> simp [map]

@[simp] theorem isValid_at_iff (loc : Loc) (x : Validated α) :
    (x.at_ loc).IsValid ↔ x.IsValid := by
  cases x <;> simp [at_]

/-- One wrong field makes the whole wrong. -/
@[simp] theorem isValid_ap_iff (f : Validated (α → β)) (x : Validated α) :
    (f.ap x).IsValid ↔ f.IsValid ∧ x.IsValid := by
  cases f <;> cases x <;> simp [ap]

@[simp] theorem at_eq_valid_iff {loc : Loc} {x : Validated α} {a : α} :
    x.at_ loc = valid a ↔ x = valid a := by
  cases x <;> simp [at_]

theorem ap_eq_valid_iff {f : Validated (α → β)} {x : Validated α} {b : β} :
    f.ap x = valid b ↔ ∃ g a, f = valid g ∧ x = valid a ∧ g a = b := by
  cases f with
  | valid g => cases x <;> simp [ap]
  | invalid errors => cases x <;> simp [ap]

end Validated

open Validated

variable {δ α β : Type}

abbrev Validator (δ α : Type) := Value δ → Validated α

/-! ### Scalars -/

def str : Validator δ String
  | .str s => .valid s
  | _ => fail "string_type"

def bool : Validator δ Bool
  | .bool b => .valid b
  | _ => fail "bool_type"

def int : Validator δ Int
  | .int n => .valid n
  | _ => fail "int_type"

/-- An integer is a float in both modes. -/
def float : Validator δ ℚ
  | .float q => .valid q
  | .int n => .valid n
  | _ => fail "float_type"

/-- An integer with `ge=0`. -/
def natural : Validator δ ℕ := fun v =>
  match int v with
  | .invalid errors => .invalid errors
  | .valid n => if 0 ≤ n then .valid n.toNat else fail "greater_than_equal"

/-- A float with `ge=0.0, le=1.0`. -/
def unitFloat : Validator δ { q : ℚ // 0 ≤ q ∧ q ≤ 1 } := fun v =>
  match float v with
  | .invalid errors => .invalid errors
  | .valid q =>
      if hge : 0 ≤ q then
        if hle : q ≤ 1 then .valid ⟨q, hge, hle⟩ else fail "less_than_equal"
      else fail "greater_than_equal"

/-- One of the strings of a `Literal`. -/
def literal (members : List (String × α)) : Validator δ α
  | .str s =>
      match members.lookup s with
      | some a => .valid a
      | none => fail "literal_error"
  | _ => fail "literal_error"

/-- Strict mode: a member of the enumeration, and not a string that names one. -/
def enumStrict (cls : String) (members : List (String × α)) : Validator δ α
  | .enum cls' member =>
      if cls' = cls then
        match members.lookup member with
        | some a => .valid a
        | none => fail "is_instance_of"
      else fail "is_instance_of"
  | _ => fail "is_instance_of"

/-- Strict mode: a datetime, and not a string that spells one. -/
def datetimeStrict : Validator δ δ
  | .datetime t => .valid t
  | _ => fail "datetime_type"

/-- Json mode: a string that spells a datetime. -/
def datetimeJson (parse : String → Option δ) : Validator δ δ
  | .str s =>
      match parse s with
      | some t => .valid t
      | none => fail "datetime_from_date_parsing"
  | .datetime t => .valid t
  | _ => fail "datetime_type"

/-! ### Containers -/

/-- The elements one after another, from index `i` on. -/
def elems (v : Validator δ α) : ℕ → List (Value δ) → Validated (List α)
  | _, [] => .valid []
  | i, x :: xs => (((v x).at_ (.index i)).map List.cons).ap (elems v (i + 1) xs)

def list (v : Validator δ α) : Validator δ (List α)
  | .list xs => elems v 0 xs
  | _ => fail "list_type"

/-- The entries of a dictionary with string keys. -/
def entries (v : Validator δ α) : List (String × Value δ) → Validated (List (String × α))
  | [] => .valid []
  | (k, x) :: xs =>
      (((v x).at_ (.field k)).map fun a rest => (k, a) :: rest).ap (entries v xs)

def dict (v : Validator δ α) : Validator δ (List (String × α))
  | .dict items => entries v items
  | _ => fail "dict_type"

/-! ### Models -/

/-- A field without a default. -/
def required (name : String) (v : Validator δ α) (items : List (String × Value δ)) :
    Validated α :=
  match items.lookup name with
  | some x => (v x).at_ (.field name)
  | none => (fail "missing").at_ (.field name)

def defaulted (name : String) (default : α) (v : Validator δ α)
    (items : List (String × Value δ)) : Validated α :=
  match items.lookup name with
  | some x => (v x).at_ (.field name)
  | none => .valid default

/-- A nested model is given as a dictionary; keys that are no fields are
ignored. -/
def model (fields : List (String × Value δ) → Validated α) : Validator δ α
  | .dict items => fields items
  | _ => fail "model_type"

/-! ### Reading back what was written -/

section ReadBack

variable {v : Validator δ α} {dump : α → Value δ}

theorem elems_map (hread : ∀ a, v (dump a) = .valid a) (i : ℕ) (as : List α) :
    elems v i (as.map dump) = .valid as := by
  induction as generalizing i with
  | nil => rfl
  | cons a as ih => rw [List.map_cons, elems, hread, ih]; rfl

theorem list_map (hread : ∀ a, v (dump a) = .valid a) (as : List α) :
    list v (.list (as.map dump)) = .valid as :=
  elems_map hread 0 as

theorem entries_map (hread : ∀ a, v (dump a) = .valid a) (as : List (String × α)) :
    entries v (as.map fun p => (p.1, dump p.2)) = .valid as := by
  induction as with
  | nil => rfl
  | cons a as ih => rw [List.map_cons, entries, hread, ih]; rfl

theorem dict_map (hread : ∀ a, v (dump a) = .valid a) (as : List (String × α)) :
    dict v (.dict (as.map fun p => (p.1, dump p.2))) = .valid as :=
  entries_map hread as

/-- A list of values none of which is accepted is accepted only when empty. -/
theorem isValid_list_map_iff (hreject : ∀ a, ¬ (v (dump a)).IsValid) (as : List α) :
    (list v (.list (as.map dump))).IsValid ↔ as = [] := by
  cases as with
  | nil => exact ⟨fun _ => rfl, fun _ => ⟨[], rfl⟩⟩
  | cons a as => simp [list, elems, hreject]

end ReadBack

/-! ### Strict mode and JSON -/

/-- A list of values none of which is accepted: it has to be empty. -/
theorem eq_nil_of_elems {v : Validator δ α} {xs : List (Value δ)} {as : List α}
    (hreject : ∀ x ∈ xs, ¬ (v x).IsValid) {i : ℕ} (h : elems v i xs = .valid as) : as = [] := by
  cases xs with
  | nil =>
      cases h
      rfl
  | cons x xs =>
      have hvalid : (elems v i (x :: xs)).IsValid := ⟨as, h⟩
      simp only [elems, isValid_ap_iff, isValid_map_iff, isValid_at_iff] at hvalid
      exact absurd hvalid.1 (hreject x List.mem_cons_self)

/-- No JSON value is a datetime. -/
theorem not_isValid_datetimeStrict {x : Value δ} (h : x.OfJson) :
    ¬ (datetimeStrict x).IsValid := by
  cases h <;> exact not_isValid_fail _

theorem ofJson_of_lookup {name : String} {items : List (String × Value δ)} {x : Value δ}
    (hitems : ∀ p ∈ items, p.2.OfJson) (h : items.lookup name = some x) : x.OfJson := by
  obtain ⟨front, rest, rfl, -⟩ := List.lookup_eq_some_iff.mp h
  exact hitems (name, x) (by simp)

/-- A field that takes no JSON value is missing or wrong. -/
theorem not_isValid_required {name : String} {v : Validator δ α}
    {items : List (String × Value δ)} (hitems : ∀ p ∈ items, p.2.OfJson)
    (hreject : ∀ x : Value δ, x.OfJson → ¬ (v x).IsValid) :
    ¬ (required name v items).IsValid := by
  rw [required]
  cases hlookup : items.lookup name with
  | none => simp
  | some x =>
      rw [isValid_at_iff]
      exact hreject x (ofJson_of_lookup hitems hlookup)

@[simp] theorem str_str (s : String) : str (.str s : Value δ) = .valid s := rfl

@[simp] theorem bool_bool (b : Bool) : bool (.bool b : Value δ) = .valid b := rfl

@[simp] theorem natural_int (n : ℕ) : natural (.int n : Value δ) = .valid n := by
  simp [natural, int]

@[simp] theorem unitFloat_float (q : { q : ℚ // 0 ≤ q ∧ q ≤ 1 }) :
    unitFloat (.float q.val : Value δ) = .valid q := by
  simp [unitFloat, float, q.2.1, q.2.2]

end Validation
