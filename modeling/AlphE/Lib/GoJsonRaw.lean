import AlphE.Lib.GoJsonRead
import AlphE.Lib.GoRound

/-!
Parts of a JSON document that stay text (`json.RawMessage`). A document is taken apart one
level deep; each part is the text it has in the document, to be decoded by itself later. A
byte that is no character stands in it as the one that decoding puts in its place.
-/

namespace Go

namespace Json

open Validation

variable {σ τ : Type}

/-! ### One level deep -/

/-- The text of the value that comes next, and what follows it. -/
def readRaw (fuel : ℕ) (cs : List Char) : Option (GoString × List Char) :=
  let cs := cs.dropWhile JsonScan.isSpace
  (readValue (δ := Empty) fuel cs).map fun a =>
    ((cs.take (cs.length - a.2.length)).map Piece.rune, a.2)

/-- The elements of an array. -/
def rawElements (bs : GoString) : Option (List GoString) :=
  match (bs.map Piece.toRune).dropWhile JsonScan.isSpace with
  | '[' :: cs => (readEnclosed (readRaw bs.length) ']' bs.length cs).map Prod.fst
  | _ => none

/-- The members of an object. -/
def rawMembers (bs : GoString) : Option (List (String × GoString)) :=
  match (bs.map Piece.toRune).dropWhile JsonScan.isSpace with
  | '\x7b' :: cs =>
      (readEnclosed (readMember (readRaw bs.length)) '\x7d' bs.length cs).map Prod.fst
  | _ => none

def isNull (bs : GoString) : Bool :=
  ((bs.map Piece.toRune).dropWhile JsonScan.isSpace).head? = some 'n'

/-! ### Decoding -/

/-- A part of a text that does not fit its variable: the members that lead to it, and the part. -/
structure Misfit where
  path : List String
  text : GoString
  deriving DecidableEq, Repr

def Misfit.below (name : String) (m : Misfit) : Misfit := { m with path := name :: m.path }

/-- Decoding a text into a variable. What does not fit is left as it was and the rest is
decoded all the same; the first misfit is what the error is about. -/
abbrev RawReader (σ : Type) := GoString → σ → σ × Option Misfit

def misfit (bs : GoString) (s : σ) : σ × Option Misfit := (s, some { path := [], text := bs })

/-- A `json.RawMessage`, which keeps even a null. -/
def message : RawReader GoString := fun bs _ => (bs, none)

/-- A variable that nothing is to be kept of as text. -/
def whole (read : Reader Empty σ) : RawReader σ := fun bs s =>
  match (parse bs).bind fun v => read v s with
  | some s => (s, none)
  | none => misfit bs s

def rawField (get : σ → τ) (set : σ → τ → σ) (read : RawReader τ) : RawReader σ :=
  fun bs s => (read bs (get s)).map (set s) id

/-- A member without a field is skipped. -/
def rawMember (fields : List (String × RawReader σ)) (s : σ) (item : String × GoString) :
    σ × Option Misfit :=
  match fields.find? fun f => sameName f.1 item.1 with
  | some f => (f.2 item.2 s).map id (Option.map (Misfit.below f.1))
  | none => (s, none)

def rawObject (fields : List (String × RawReader σ)) : RawReader σ := fun bs s =>
  match rawMembers bs with
  | some items =>
      items.foldl (fun r item => (rawMember fields r.1 item).map id (r.2 <|> ·)) (s, none)
  | none => if isNull bs then (s, none) else misfit bs s

/-- `[2]json.RawMessage`: what is missing is empty, and what is too much is skipped. -/
def messagePair : RawReader (GoString × GoString) := fun bs p =>
  match rawElements bs with
  | some [] => (([], []), none)
  | some [a] => ((a, []), none)
  | some (a :: b :: _) => ((a, b), none)
  | none => if isNull bs then (p, none) else misfit bs p

/-- A `float64`, rounded to the nearest one. -/
def float64 : Reader Empty Float64
  | .int n, _ => if |(n : ℚ)| < floatLimit then some (.fin (nearestFloat n)) else none
  | .float q, _ => if |q| < floatLimit then some (.fin (nearestFloat q)) else none
  | .null, x => some x
  | _, _ => none

def rawSlice (read : RawReader τ) (zero : τ) : RawReader (List τ) := fun bs l =>
  match rawElements bs with
  | some elems =>
      let read := elems.map fun elem => read elem zero
      (read.map Prod.fst, read.findSome? Prod.snd)
  | none => if isNull bs then ([], none) else misfit bs l

/-- The parts of a document. -/
example : rawElements (utf8 " [1, \x7b\"a\": [2]\x7d ]") =
    some [utf8 "1", utf8 "\x7b\"a\": [2]\x7d"] := by
  decide +kernel

end Json

end Go
