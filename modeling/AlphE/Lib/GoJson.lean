import AlphE.Lib.GoTime
import AlphE.Lib.InsertionDict
import AlphE.Lib.Validation

/-!
Go's `encoding/json` decoder with `DisallowUnknownFields`, on a value that was
read from JSON text. A value is decoded into a variable: a null leaves it as it
is, and the members of an object go to the fields of a struct, whose names are
compared regardless of case. What the errors say is left out.
-/

namespace Go

namespace Json

open Validation

variable {δ σ τ : Type}

/-- Decoding into a variable. -/
abbrev Reader (δ σ : Type) := Value δ → σ → Option σ

/-- Characters outside ASCII that fold to a letter of ASCII come first. -/
def foldChar (c : Char) : Char :=
  if c.toNat = 0x17f then 's' else if c.toNat = 0x212a then 'k' else c.toLower

def sameName (name key : String) : Bool :=
  name.toList.map foldChar = key.toList.map foldChar

def string : Reader δ String
  | .str s, _ => some s
  | .null, s => some s
  | _, _ => none

def int64 : Reader δ Int
  | .int n, _ =>
      if -9223372036854775808 ≤ n ∧ n ≤ 9223372036854775807 then some n else none
  | .null, n => some n
  | _, _ => none

/-- `[]string`; a slice that is `nil` is empty. -/
def strings : Reader δ (List String)
  | .list elems, _ => elems.mapM fun elem => string elem ""
  | .null, _ => some []
  | _, _ => none

def time : Reader δ Time
  | .str text, _ => Time.unmarshal text
  | .null, t => some t
  | _, _ => none

/-- Decoding into a field of a struct. -/
def field (get : σ → τ) (set : σ → τ → σ) (read : Reader δ τ) : Reader δ σ :=
  fun v s => (read v (get s)).map (set s)

/-- The member goes to the field that has its name. -/
def member (fields : List (String × Reader δ σ)) (s : σ) (item : String × Value δ) : Option σ :=
  (fields.find? fun f => sameName f.1 item.1).bind fun f => f.2 item.2 s

def object (fields : List (String × Reader δ σ)) : Reader δ σ
  | .dict items, s => items.foldlM (member fields) s
  | .null, s => some s
  | _, _ => none

/-- Without `DisallowUnknownFields`: what has no field is skipped. -/
def looseMember (fields : List (String × Reader δ σ)) (s : σ) (item : String × Value δ) :
    Option σ :=
  match fields.find? fun f => sameName f.1 item.1 with
  | some f => f.2 item.2 s
  | none => some s

def looseObject (fields : List (String × Reader δ σ)) : Reader δ σ
  | .dict items, s => items.foldlM (looseMember fields) s
  | .null, s => some s
  | _, _ => none

/-- A slice, whose elements are read into new variables. -/
def slice (read : Reader δ τ) (zero : τ) : Reader δ (List τ)
  | .list elems, _ => elems.mapM fun elem => read elem zero
  | .null, _ => some []
  | _, _ => none

/-- `[2]string`: what is missing is empty, and what is too much is skipped. -/
def stringPair : Reader δ (String × String)
  | .list [], _ => some ("", "")
  | .list [a], p => (string a p.1).map fun s => (s, "")
  | .list (a :: b :: _), p => (string a p.1).bind fun s => (string b p.2).map fun t => (s, t)
  | .null, p => some p
  | _, _ => none

/-- `map[string]string`, which may be `nil`. -/
def stringMap : Reader δ (Option (InsertionDict String String))
  | .dict items, d =>
      (items.foldlM (fun d item => (string item.2 "").map (d.set item.1)) (d.getD ∅)).map some
  | .null, _ => some none
  | _, _ => none

/-- One member after the other. -/
theorem object_dict_cons (fields : List (String × Reader δ σ)) (item : String × Value δ)
    (items : List (String × Value δ)) (s : σ) :
    object fields (.dict (item :: items)) s =
      (member fields s item).bind (object fields (.dict items)) := by
  rw [object, List.foldlM_cons]
  rfl

@[simp] theorem object_dict_nil (fields : List (String × Reader δ σ)) (s : σ) :
    object fields (.dict []) s = some s := rfl

section Loose

variable {f : String × Reader δ σ} {fields : List (String × Reader δ σ)} {key : String}

theorem looseMember_of_sameName (h : sameName f.1 key = true) (s : σ) (v : Value δ) :
    looseMember (f :: fields) s (key, v) = f.2 v s := by
  simp only [looseMember, List.find?_cons, h]

theorem looseMember_of_ne (h : sameName f.1 key = false) (s : σ) (v : Value δ) :
    looseMember (f :: fields) s (key, v) = looseMember fields s (key, v) := by
  simp only [looseMember, List.find?_cons, h]

@[simp] theorem looseMember_nil (s : σ) (item : String × Value δ) :
    looseMember [] s item = some s := rfl

end Loose

theorem looseObject_dict_cons (fields : List (String × Reader δ σ)) (item : String × Value δ)
    (items : List (String × Value δ)) (s : σ) :
    looseObject fields (.dict (item :: items)) s =
      (looseMember fields s item).bind (looseObject fields (.dict items)) := by
  rw [looseObject, List.foldlM_cons]
  rfl

@[simp] theorem looseObject_dict_nil (fields : List (String × Reader δ σ)) (s : σ) :
    looseObject fields (.dict []) s = some s := rfl

@[simp] theorem strings_map_str (ss old : List String) :
    strings (.list (ss.map .str) : Value δ) old = some ss := by
  rw [strings]
  induction ss with
  | nil => rfl
  | cons s ss ih =>
      rw [List.map_cons, List.mapM_cons, ih]
      rfl

/-- A slice is read where each of its elements is. -/
theorem slice_list_map {α : Type} {read : Reader δ τ} {zero : τ} {f : α → Value δ} {g : α → τ}
    {xs : List α} (h : ∀ x ∈ xs, read (f x) zero = some (g x)) (old : List τ) :
    slice read zero (.list (xs.map f)) old = some (xs.map g) := by
  rw [slice]
  induction xs with
  | nil => rfl
  | cons x xs ih =>
      rw [List.forall_mem_cons] at h
      rw [List.map_cons, List.mapM_cons, h.1, ih h.2]
      rfl

theorem slice_eq_none {read : Reader δ τ} {zero : τ} {elems : List (Value δ)} {elem : Value δ}
    (hmem : elem ∈ elems) (h : read elem zero = none) (old : List τ) :
    slice read zero (.list elems) old = none := by
  rw [slice]
  induction elems with
  | nil => cases hmem
  | cons a elems ih =>
      rw [List.mapM_cons]
      cases ha : read a zero with
      | none => rfl
      | some x =>
          have hrest : elem ∈ elems := by
            rcases List.mem_cons.mp hmem with rfl | hrest
            · rw [h] at ha
              cases ha
            · exact hrest
          rw [ih hrest]
          rfl

/-- A map of strings is read as it is. -/
theorem stringMap_dict (d : InsertionDict String String) :
    stringMap (.dict (d.items.map fun item => (item.1, .str item.2)) : Value δ) none =
      some (some d) := by
  have hfold : ∀ (items : List (String × String)) (e : InsertionDict String String),
      (items.map fun item => (item.1, (.str item.2 : Value δ))).foldlM
        (fun d item => (string item.2 "").map (d.set item.1)) e =
      some (items.foldl (fun d item => d.set item.1 item.2) e) := by
    intro items
    induction items with
    | nil => exact fun _ => rfl
    | cons item items ih =>
        intro e
        rw [List.map_cons, List.foldlM_cons, List.foldl_cons, ← ih]
        rfl
  rw [stringMap, Option.getD_none, hfold, Option.map_some]
  congr 2
  exact InsertionDict.ofList_items d

end Json

end Go
