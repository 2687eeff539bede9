import Mathlib.Data.List.Basic

/-!
A scanner that tells whether a text is a JSON document. It reads one character
at a time and keeps a stack of the objects and arrays that are open; at the first
character that no document has there it stops. What a part of a text does to the
scanner is all that the rest of the text has to know of it.
-/

namespace JsonScan

/-! ### The scanner -/

/-- What is open around the scanner. -/
inductive Frame
  | objectKey | objectValue | arrayValue
  deriving DecidableEq, Repr

/-- What the scanner has just read, or waits for. -/
inductive Mode
  | beginValue | beginValueOrEmpty | beginString | beginStringOrEmpty | endValue
  | inString | inStringEsc | inStringEscU (digitsLeft : ℕ)
  | neg | int | zero | dot | frac | exp | expSign | expDigits
  | literal (rest : List Char)
  deriving DecidableEq, Repr

structure State where
  mode : Mode
  stack : List Frame
  deriving DecidableEq, Repr

def isSpace (c : Char) : Bool := c = ' ' || c = '\t' || c = '\r' || c = '\n'

def isHex (c : Char) : Bool :=
  c.isDigit || ('a'.toNat ≤ c.toNat && c.toNat ≤ 'f'.toNat) ||
    ('A'.toNat ≤ c.toNat && c.toNat ≤ 'F'.toNat)

/-- After a value comes what the innermost frame goes on with. -/
def stepEndValue (stack : List Frame) (c : Char) : Option State :=
  if isSpace c then some ⟨.endValue, stack⟩
  else
    match stack with
    | [] => none
    | .objectKey :: stack =>
        if c = ':' then some ⟨.beginValue, .objectValue :: stack⟩ else none
    | .objectValue :: stack =>
        if c = ',' then some ⟨.beginString, .objectKey :: stack⟩
        else if c = '}' then some ⟨.endValue, stack⟩
        else none
    | .arrayValue :: stack =>
        if c = ',' then some ⟨.beginValue, .arrayValue :: stack⟩
        else if c = ']' then some ⟨.endValue, stack⟩
        else none

def stepBeginString (stack : List Frame) (c : Char) : Option State :=
  if isSpace c then some ⟨.beginString, stack⟩
  else if c = '"' then some ⟨.inString, stack⟩
  else none

def stepBeginValue (stack : List Frame) (c : Char) : Option State :=
  if isSpace c then some ⟨.beginValue, stack⟩
  else
    match c with
    | '{' => some ⟨.beginStringOrEmpty, .objectKey :: stack⟩
    | '[' => some ⟨.beginValueOrEmpty, .arrayValue :: stack⟩
    | '"' => some ⟨.inString, stack⟩
    | '-' => some ⟨.neg, stack⟩
    | '0' => some ⟨.zero, stack⟩
    | 't' => some ⟨.literal ['r', 'u', 'e'], stack⟩
    | 'f' => some ⟨.literal ['a', 'l', 's', 'e'], stack⟩
    | 'n' => some ⟨.literal ['u', 'l', 'l'], stack⟩
    | _ => if c.isDigit then some ⟨.int, stack⟩ else none

/-- The escapes of one letter. -/
def isEscape (c : Char) : Bool :=
  c = '"' || c = '\\' || c = '/' || c = 'b' || c = 'f' || c = 'n' || c = 'r' || c = 't'

/-- A digit leads to the given mode. -/
def stepDigit (mode : Mode) (stack : List Frame) (c : Char) : Option State :=
  if c.isDigit then some ⟨mode, stack⟩ else none

/-- The number may go on with an exponent, or is over. -/
def stepExponent (stack : List Frame) (c : Char) : Option State :=
  if c = 'e' || c = 'E' then some ⟨.exp, stack⟩ else stepEndValue stack c

def stepFraction (stack : List Frame) (c : Char) : Option State :=
  if c = '.' then some ⟨.dot, stack⟩ else stepExponent stack c

def step : State → Char → Option State
  | ⟨.beginValue, stack⟩, c => stepBeginValue stack c
  | ⟨.beginValueOrEmpty, stack⟩, c =>
      if isSpace c then some ⟨.beginValueOrEmpty, stack⟩
      else if c = ']' then stepEndValue stack c
      else stepBeginValue stack c
  | ⟨.beginString, stack⟩, c => stepBeginString stack c
  | ⟨.beginStringOrEmpty, stack⟩, c =>
      if isSpace c then some ⟨.beginStringOrEmpty, stack⟩
      else if c = '}' then some ⟨.endValue, stack.tail⟩
      else stepBeginString stack c
  | ⟨.endValue, stack⟩, c => stepEndValue stack c
  | ⟨.inString, stack⟩, c =>
      if c = '"' then some ⟨.endValue, stack⟩
      else if c = '\\' then some ⟨.inStringEsc, stack⟩
      else if c.toNat < 0x20 then none
      else some ⟨.inString, stack⟩
  | ⟨.inStringEsc, stack⟩, c =>
      if c = 'u' then some ⟨.inStringEscU 4, stack⟩
      else if isEscape c then some ⟨.inString, stack⟩
      else none
  | ⟨.inStringEscU digitsLeft, stack⟩, c =>
      if isHex c then
        if digitsLeft ≤ 1 then some ⟨.inString, stack⟩
        else some ⟨.inStringEscU (digitsLeft - 1), stack⟩
      else none
  | ⟨.neg, stack⟩, c =>
      if c = '0' then some ⟨.zero, stack⟩ else stepDigit .int stack c
  | ⟨.int, stack⟩, c =>
      if c.isDigit then some ⟨.int, stack⟩ else stepFraction stack c
  | ⟨.zero, stack⟩, c => stepFraction stack c
  | ⟨.dot, stack⟩, c => stepDigit .frac stack c
  | ⟨.frac, stack⟩, c =>
      if c.isDigit then some ⟨.frac, stack⟩ else stepExponent stack c
  | ⟨.exp, stack⟩, c =>
      if c = '+' || c = '-' then some ⟨.expSign, stack⟩ else stepDigit .expDigits stack c
  | ⟨.expSign, stack⟩, c => stepDigit .expDigits stack c
  | ⟨.expDigits, stack⟩, c =>
      if c.isDigit then some ⟨.expDigits, stack⟩ else stepEndValue stack c
  | ⟨.literal rest, stack⟩, c =>
      match rest with
      | [] => stepEndValue stack c
      | [d] => if c = d then some ⟨.endValue, stack⟩ else none
      | d :: rest => if c = d then some ⟨.literal rest, stack⟩ else none

def scan (s : State) (cs : List Char) : Option State := cs.foldlM step s

/-- A text is a document when one value is over at its end, with nothing left
open. The space ends a number. -/
def Accepts (cs : List Char) : Prop :=
  scan ⟨.beginValue, []⟩ (cs ++ [' ']) = some ⟨.endValue, []⟩

instance (cs : List Char) : Decidable (Accepts cs) :=
  inferInstanceAs (Decidable (_ = _))

/-! ### Parts of a text -/

/-- From `s` the text leads to `t` in the case `ok`, and to no document in the
other. -/
def Leads (s : State) (cs : List Char) (t : State) (ok : Bool) : Prop :=
  scan s cs = if ok then some t else none

section Leads

variable {s t u : State} {cs ds : List Char} {a b : Bool}

theorem scan_append (s : State) (cs ds : List Char) :
    scan s (cs ++ ds) = (scan s cs).bind fun t => scan t ds :=
  List.foldlM_append

/-- One part after the other. -/
theorem Leads.append (h : Leads s cs t a) (h' : Leads t ds u b) :
    Leads s (cs ++ ds) u (a && b) := by
  rw [Leads, scan_append, h]
  cases a with
  | false => rfl
  | true => exact h'

theorem Leads.cons {c : Char} (hstep : step s c = some t) (h : Leads t cs u a) :
    Leads s (c :: cs) u a := by
  rw [Leads, scan, List.foldlM_cons, hstep]
  exact h

theorem Leads.nil (s : State) : Leads s [] s true := rfl

theorem Leads.snoc {c : Char} (h : Leads s cs t a) (hstep : step t c = some u) :
    Leads s (cs ++ [c]) u a := by
  have hlast : Leads t [c] u true := .cons hstep (.nil u)
  simpa using h.append hlast

/-- What no document goes on with. -/
theorem Leads.stop {c : Char} (hstep : step s c = none) (cs : List Char) :
    Leads s (c :: cs) t false := by
  rw [Leads, scan, List.foldlM_cons, hstep]
  rfl

/-- Parts that all lead back. -/
theorem Leads.flatMap {α : Type} {f : α → List Char} {ok : α → Bool}
    (h : ∀ x, Leads s (f x) s (ok x)) (xs : List α) :
    Leads s (xs.flatMap f) s (xs.all ok) := by
  induction xs with
  | nil => exact .nil s
  | cons x xs ih => exact (h x).append ih

end Leads

/-! ### Values -/

/-- The text is a value in the case `ok`, whatever is open around it, and the
beginning of none in the other. -/
def Value (cs : List Char) (ok : Bool) : Prop :=
  ∀ stack, Leads ⟨.beginValue, stack⟩ cs ⟨.endValue, stack⟩ ok

/-- A value stands alone. -/
theorem Value.accepts_iff {cs : List Char} {ok : Bool} (h : Value cs ok) :
    Accepts cs ↔ ok = true := by
  have htext : Leads ⟨.beginValue, []⟩ (cs ++ [' ']) ⟨.endValue, []⟩ ok :=
    (h []).snoc rfl
  rw [Accepts, htext]
  cases ok <;> simp

/-- What stands between the quotes of a string. -/
def Content (cs : List Char) (ok : Bool) : Prop :=
  ∀ stack, Leads ⟨.inString, stack⟩ cs ⟨.inString, stack⟩ ok

section Strings

variable {cs : List Char} {ok : Bool}

/-- The quotes are what is waited for, and what ends the string. -/
theorem Content.quoted (h : Content cs ok) {mode : Mode} {stack : List Frame}
    (hbegin : step ⟨mode, stack⟩ '"' = some ⟨.inString, stack⟩) :
    Leads ⟨mode, stack⟩ ('"' :: (cs ++ ['"'])) ⟨.endValue, stack⟩ ok :=
  ((h stack).snoc rfl).cons hbegin

theorem Content.value (h : Content cs ok) : Value ('"' :: (cs ++ ['"'])) ok :=
  fun _ => h.quoted rfl

theorem Content.flatMap {α : Type} {f : α → List Char} {ok : α → Bool}
    (h : ∀ x, Content (f x) (ok x)) (xs : List α) :
    Content (xs.flatMap f) (xs.all ok) :=
  fun stack => Leads.flatMap (fun x => h x stack) xs

/-- A character that is no quote, no backslash and no control character. -/
theorem content_plain {c : Char} (hquote : c ≠ '"') (hslash : c ≠ '\\')
    (hcontrol : ¬ c.toNat < 0x20) : Content [c] true := by
  intro stack
  refine .cons ?_ (.nil _)
  rw [step, if_neg hquote, if_neg hslash, if_neg hcontrol]

/-- An escape of one letter. -/
theorem content_escape {c : Char} (hu : c ≠ 'u') :
    Content ['\\', c] (isEscape c) := by
  intro stack
  have hstep : step ⟨.inStringEsc, stack⟩ c =
      if isEscape c then some ⟨.inString, stack⟩ else none := by
    rw [step, if_neg hu]
  refine .cons (t := ⟨.inStringEsc, stack⟩) rfl ?_
  rw [Leads, scan, List.foldlM_cons, hstep]
  cases isEscape c <;> rfl

/-- An escape that JSON does not have, with whatever follows it. -/
theorem content_escape_none {c : Char} (hu : c ≠ 'u') (hnone : isEscape c = false)
    (cs : List Char) : Content ('\\' :: c :: cs) false := by
  intro stack
  refine .cons (t := ⟨.inStringEsc, stack⟩) rfl ?_
  refine .stop ?_ cs
  rw [step, if_neg hu, hnone]
  rfl

/-- The digits of an escape. -/
theorem leads_digits {ds : List Char} (hhex : ∀ d ∈ ds, isHex d = true) (hne : ds ≠ [])
    (stack : List Frame) :
    Leads ⟨.inStringEscU ds.length, stack⟩ ds ⟨.inString, stack⟩ true := by
  induction ds with
  | nil => exact absurd rfl hne
  | cons d ds ih =>
      rw [List.forall_mem_cons] at hhex
      cases ds with
      | nil =>
          refine .cons ?_ (.nil _)
          simp [step, hhex.1]
      | cons d' ds =>
          refine .cons ?_ (ih hhex.2 (List.cons_ne_nil d' ds))
          simp [step, hhex.1]

theorem content_unicode {ds : List Char} (hhex : ∀ d ∈ ds, isHex d = true)
    (hlength : ds.length = 4) : Content ('\\' :: 'u' :: ds) true := by
  intro stack
  have hne : ds ≠ [] := by
    rintro rfl
    cases hlength
  refine .cons (t := ⟨.inStringEsc, stack⟩) rfl (.cons rfl ?_)
  rw [← hlength]
  exact leads_digits hhex hne stack

end Strings

/-! ### Objects -/

/-- A member of an object, wherever a name is waited for. -/
def Member (cs : List Char) (ok : Bool) : Prop :=
  ∀ mode stack, (∀ stack, step ⟨mode, stack⟩ '"' = some ⟨.inString, stack⟩) →
    Leads ⟨mode, .objectKey :: stack⟩ cs ⟨.endValue, .objectValue :: stack⟩ ok

section Objects

variable {cs ds : List Char} {a b : Bool}

theorem Content.member (hname : Content cs a) (hvalue : Value ds b) :
    Member ('"' :: (cs ++ ['"']) ++ ':' :: ds) (a && b) := by
  intro mode stack hbegin
  exact (hname.quoted (hbegin _)).append (.cons rfl (hvalue _))

variable {α : Type} {member : α → List Char} {ok : α → Bool}

/-- The members are separated by commas. -/
theorem leads_members (h : ∀ x, Member (member x) (ok x)) (x : α) (xs : List α)
    (mode : Mode) (hbegin : ∀ stack, step ⟨mode, stack⟩ '"' = some ⟨.inString, stack⟩)
    (stack : List Frame) :
    Leads ⟨mode, .objectKey :: stack⟩ ([','].intercalate ((x :: xs).map member))
      ⟨.endValue, .objectValue :: stack⟩ ((x :: xs).all ok) := by
  induction xs generalizing x mode with
  | nil =>
      rw [List.map_singleton, List.intercalate_singleton, List.all_cons, List.all_nil,
        Bool.and_true]
      exact h x mode stack hbegin
  | cons y ys ih =>
      rw [List.map_cons, List.map_cons, List.intercalate_cons_cons, List.append_assoc,
        List.all_cons]
      refine (h x mode stack hbegin).append (.cons rfl ?_)
      exact ih y .beginString fun _ => rfl

theorem value_object (h : ∀ x, Member (member x) (ok x)) (xs : List α) :
    Value ('{' :: ([','].intercalate (xs.map member) ++ ['}'])) (xs.all ok) := by
  intro stack
  cases xs with
  | nil => exact rfl
  | cons x xs =>
      have hmembers := leads_members h x xs .beginStringOrEmpty (fun _ => rfl) stack
      exact (hmembers.snoc rfl).cons rfl

end Objects

end JsonScan
