import AlphE.Lib.Hex
import Mathlib.Data.List.TakeDrop
import Mathlib.Data.List.TakeWhile

/-!
Go's strings. A string holds bytes; what ranging over it yields are its runes,
and one by one the bytes that belong to no rune. Texts that come out of a JSON
decoder have no such bytes and are plain strings here.
-/

namespace Go

/-! ### Bytes that are mostly text -/

inductive Piece
  | rune (c : Char)
  | stray (b : UInt8)
  deriving DecidableEq, Repr

/-- A `string` or a `[]byte`. -/
abbrev GoString := List Piece

/-- The bytes of a text. -/
def utf8 (s : String) : GoString := s.toList.map .rune

def Piece.isRune : Piece → Bool
  | .rune _ => true
  | .stray _ => false

/-- `utf8.Valid`. -/
def validUtf8 (bs : GoString) : Bool := bs.all Piece.isRune

/-- `len`. -/
def byteLen (bs : GoString) : ℕ :=
  (bs.map fun
    | .rune c => c.utf8Size
    | .stray _ => 1).sum

/-- A piece as JSON text can hold it: a byte of no rune turns into U+FFFD. -/
def Piece.toRune : Piece → Char
  | .rune c => c
  | .stray _ => Char.ofNat 0xFFFD

/-- The text a JSON encoder makes of a string. -/
def toText (bs : GoString) : String := String.ofList (bs.map Piece.toRune)

@[simp] theorem validUtf8_utf8 (s : String) : validUtf8 (utf8 s) = true := by
  simp [validUtf8, utf8, Piece.isRune]

@[simp] theorem validUtf8_append (bs cs : GoString) :
    validUtf8 (bs ++ cs) = (validUtf8 bs && validUtf8 cs) := by
  simp [validUtf8]

theorem rune_toRune_iff (p : Piece) : Piece.rune p.toRune = p ↔ p.isRune = true := by
  cases p <;> simp [Piece.toRune, Piece.isRune]

/-- Only text comes through a JSON encoder as it is. -/
theorem utf8_toText_iff (bs : GoString) : utf8 (toText bs) = bs ↔ validUtf8 bs = true := by
  induction bs with
  | nil => simp [utf8, toText, validUtf8]
  | cons p bs ih =>
      simp only [utf8, toText, validUtf8, String.toList_ofList, List.map_cons, List.all_cons,
        List.cons.injEq, Bool.and_eq_true, rune_toRune_iff] at ih ⊢
      rw [ih]

theorem rune_notMem_map {c : Char} {cs : List Char} (h : c ∉ cs) :
    Piece.rune c ∉ cs.map .rune := by
  intro hmem
  obtain ⟨d, hd, heq⟩ := List.mem_map.mp hmem
  cases heq
  exact h hd

theorem rune_notMem_utf8 {c : Char} {s : String} (h : c ∉ s.toList) : Piece.rune c ∉ utf8 s :=
  rune_notMem_map h

theorem utf8_injective {s t : String} (h : utf8 s = utf8 t) : s = t := by
  apply String.toList_inj.mp
  exact List.map_injective_iff.mpr (fun _ _ hrune => Piece.rune.inj hrune) h

@[simp] theorem utf8_append (s t : String) : utf8 (s ++ t) = utf8 s ++ utf8 t := by
  rw [utf8, String.toList_append, List.map_append]
  rfl

/-! ### The strings package -/

/-- `unicode.IsSpace`. -/
def isSpace (c : Char) : Bool :=
  let n := c.toNat
  (0x09 ≤ n && n ≤ 0x0d) || n = 0x20 || n = 0x85 || n = 0xa0 || n = 0x1680 ||
    (0x2000 ≤ n && n ≤ 0x200a) || n = 0x2028 || n = 0x2029 || n = 0x202f || n = 0x205f ||
    n = 0x3000

def trimSpace (s : String) : String :=
  String.ofList ((s.toList.dropWhile isSpace).reverse.dropWhile isSpace).reverse

def hasPrefix (s pre : String) : Bool := pre.toList.isPrefixOf s.toList

def trimPrefix (s pre : String) : String :=
  if hasPrefix s pre then String.ofList (s.toList.drop pre.length) else s

/-- What stands before and after the first `sep`: `strings.SplitN(s, sep, 2)` when
it has two parts. -/
def cut (s : String) (sep : Char) : Option (String × String) :=
  match s.toList.span (· ≠ sep) with
  | (before, _ :: after) => some (String.ofList before, String.ofList after)
  | (_, []) => none

theorem hasPrefix_iff {s pre : String} : hasPrefix s pre = true ↔ pre.toList <+: s.toList :=
  List.isPrefixOf_iff_prefix

theorem ne_of_notMem {sep : Char} {cs : List Char} (h : sep ∉ cs) :
    ∀ c ∈ cs, decide (c ≠ sep) = true := by
  intro c hc
  have hne : c ≠ sep := by
    rintro rfl
    exact h hc
  simpa using hne

/-- A text without the separator is not cut. -/
theorem cut_eq_none {s : String} {sep : Char} (h : sep ∉ s.toList) : cut s sep = none := by
  have hall := ne_of_notMem h
  rw [cut, List.span_eq_takeWhile_dropWhile, List.takeWhile_eq_self_iff.mpr hall,
    List.dropWhile_eq_nil_iff.mpr hall]

/-- A text is cut at its first separator. -/
theorem cut_of_toList_eq {s : String} {sep : Char} {before after : List Char}
    (h : s.toList = before ++ sep :: after) (hfirst : sep ∉ before) :
    cut s sep = some (String.ofList before, String.ofList after) := by
  have hall := ne_of_notMem hfirst
  rw [cut, List.span_eq_takeWhile_dropWhile, h, List.takeWhile_append_of_pos hall,
    List.dropWhile_append_of_pos hall]
  simp

/-- Trimming takes spaces off both ends. -/
theorem exists_trimSpace (s : String) :
    ∃ front back, s.toList = front ++ (trimSpace s).toList ++ back ∧
      ∀ c ∈ front, isSpace c = true := by
  let rest := s.toList.dropWhile isSpace
  refine ⟨s.toList.takeWhile isSpace, (rest.reverse.takeWhile isSpace).reverse, ?_, ?_⟩
  · rw [trimSpace, String.toList_ofList, List.append_assoc, ← List.reverse_append,
      List.takeWhile_append_dropWhile, List.reverse_reverse, List.takeWhile_append_dropWhile]
  · intro c hc
    exact List.mem_takeWhile_imp hc

/-- A text without a space is not trimmed. -/
theorem trimSpace_of_no_space {s : String} (h : ∀ c ∈ s.toList, isSpace c = false) :
    trimSpace s = s := by
  have hkeep : ∀ {cs : List Char}, (∀ c ∈ cs, isSpace c = false) → cs.dropWhile isSpace = cs := by
    intro cs hcs
    cases cs with
    | nil => rfl
    | cons c cs => exact List.dropWhile_cons_of_neg (by simp [hcs c])
  rw [trimSpace, hkeep h, hkeep (by simpa using h), List.reverse_reverse, String.ofList_toList]

/-- The runs of characters that are no space, a run that has begun first. -/
def fieldsFrom : List Char → List Char → List String
  | run, [] => if run = [] then [] else [String.ofList run.reverse]
  | run, c :: cs =>
      if isSpace c then
        if run = [] then fieldsFrom [] cs
        else String.ofList run.reverse :: fieldsFrom [] cs
      else fieldsFrom (c :: run) cs

/-- `strings.Fields`. -/
def fields (s : String) : List String := fieldsFrom [] s.toList

theorem ofList_reverse_run {run : List Char} (hne : run ≠ [])
    (hrun : ∀ c ∈ run, isSpace c = false) :
    String.ofList run.reverse ≠ "" ∧
      ∀ c ∈ (String.ofList run.reverse).toList, isSpace c = false := by
  constructor
  · intro hempty
    have hnil := congrArg String.toList hempty
    rw [String.toList_ofList] at hnil
    exact hne (List.reverse_eq_nil_iff.mp hnil)
  · intro c hc
    rw [String.toList_ofList, List.mem_reverse] at hc
    exact hrun c hc

theorem mem_fieldsFrom {run cs : List Char} (hrun : ∀ c ∈ run, isSpace c = false)
    {field : String} (h : field ∈ fieldsFrom run cs) :
    field ≠ "" ∧ ∀ c ∈ field.toList, isSpace c = false := by
  induction cs generalizing run with
  | nil =>
      rw [fieldsFrom] at h
      split at h
      · cases h
      · next hne =>
          obtain rfl := List.mem_singleton.mp h
          exact ofList_reverse_run hne hrun
  | cons c cs ih =>
      rw [fieldsFrom] at h
      split at h
      · split at h
        · exact ih (by simp) h
        · next hne =>
            rcases List.mem_cons.mp h with rfl | h
            · exact ofList_reverse_run hne hrun
            · exact ih (by simp) h
      · next hspace =>
          exact ih (List.forall_mem_cons.mpr ⟨Bool.eq_false_iff.mpr hspace, hrun⟩) h

/-- A field is a text of its own, without a space. -/
theorem mem_fields {s field : String} (h : field ∈ fields s) :
    field ≠ "" ∧ ∀ c ∈ field.toList, isSpace c = false :=
  mem_fieldsFrom (by simp) h

/-! ### Quoting -/

def quoteMark : Char := Char.ofNat 34

def backslash : Char := Char.ofNat 92

/-- The letter of an escape that has one. -/
def escapeLetter (c : Char) : Option Char :=
  match c.toNat with
  | 7 => some 'a'
  | 8 => some 'b'
  | 9 => some 't'
  | 10 => some 'n'
  | 11 => some 'v'
  | 12 => some 'f'
  | 13 => some 'r'
  | _ => none

/-- `strconv.IsPrint` agrees with ASCII; outside of it, it is a table. -/
def quoteRune (isPrint : Char → Bool) (c : Char) : List Char :=
  if c = quoteMark ∨ c = backslash then [backslash, c]
  else if 0x20 ≤ c.toNat ∧ c.toNat < 0x7f ∨ 0x80 ≤ c.toNat ∧ isPrint c then [c]
  else
    match escapeLetter c with
    | some letter => [backslash, letter]
    | none =>
        if c.toNat < 0x20 ∨ c.toNat = 0x7f then backslash :: 'x' :: Hex.padded 2 c.toNat
        else if c.toNat < 0x10000 then backslash :: 'u' :: Hex.padded 4 c.toNat
        else backslash :: 'U' :: Hex.padded 8 c.toNat

def quotePiece (isPrint : Char → Bool) : Piece → List Char
  | .rune c => quoteRune isPrint c
  | .stray b => backslash :: 'x' :: Hex.padded 2 b.toNat

/-- `strconv.Quote`, which is what the verb `%q` formats. -/
def quote (isPrint : Char → Bool) (bs : GoString) : String :=
  String.ofList (quoteMark :: (bs.flatMap (quotePiece isPrint) ++ [quoteMark]))

/-- `%q` of a slice. -/
def quoteAll (isPrint : Char → Bool) (ss : List String) : String :=
  "[" ++ String.intercalate " " (ss.map fun s => quote isPrint (utf8 s)) ++ "]"

/-! ### JSON text -/

/-- A piece inside a JSON string, with what HTML would read escaped, too. -/
def jsonRune (c : Char) : List Char :=
  if c = quoteMark ∨ c = backslash then [backslash, c]
  else if c = '\n' then [backslash, 'n']
  else if c = '\r' then [backslash, 'r']
  else if c = '\t' then [backslash, 't']
  else if c.toNat = 8 then [backslash, 'b']
  else if c.toNat = 12 then [backslash, 'f']
  else if c.toNat < 0x20 ∨ c = '<' ∨ c = '>' ∨ c = '&' ∨ c.toNat = 0x2028 ∨
      c.toNat = 0x2029 then
    backslash :: 'u' :: Hex.padded 4 c.toNat
  else [c]

/-- A string as `encoding/json` writes it. -/
def jsonString (s : String) : String :=
  String.ofList (quoteMark :: (s.toList.flatMap jsonRune ++ [quoteMark]))

/-! ### Lines -/

/-- The lines of a text, the one that has begun first; what follows the last
newline is a line unless it is empty. -/
def linesFrom : GoString → GoString → List GoString
  | line, [] => if line = [] then [] else [line.reverse]
  | line, p :: bs =>
      if p = .rune '\n' then line.reverse :: linesFrom [] bs else linesFrom (p :: line) bs

section Lines

variable {bs : GoString} (h : Piece.rune '\n' ∉ bs)

include h

theorem linesFrom_append_newline (line cs : GoString) :
    linesFrom line (bs ++ .rune '\n' :: cs) = (line.reverse ++ bs) :: linesFrom [] cs := by
  induction bs generalizing line with
  | nil => simp [linesFrom]
  | cons p bs ih =>
      rw [List.mem_cons, not_or] at h
      rw [List.cons_append, linesFrom, if_neg (Ne.symm h.1), ih h.2, List.reverse_cons,
        List.append_assoc, List.singleton_append]

/-- Without a newline there is one line. -/
theorem linesFrom_of_notMem {line : GoString} (hne : line ≠ [] ∨ bs ≠ []) :
    linesFrom line bs = [line.reverse ++ bs] := by
  induction bs generalizing line with
  | nil =>
      rw [linesFrom, if_neg (hne.resolve_right fun hnil => hnil rfl), List.append_nil]
  | cons p bs ih =>
      rw [List.mem_cons, not_or] at h
      rw [linesFrom, if_neg (Ne.symm h.1), ih h.2 (.inl (List.cons_ne_nil p line)),
        List.reverse_cons, List.append_assoc, List.singleton_append]

end Lines

def dropCr (line : GoString) : GoString :=
  if line.getLast? = some (.rune '\r') then line.dropLast else line

theorem dropCr_concat {p : Piece} (h : p ≠ .rune '\r') (line : GoString) :
    dropCr (line ++ [p]) = line ++ [p] := by
  rw [dropCr, List.getLast?_concat, if_neg]
  rintro ⟨⟩
  exact h rfl

/-- The tokens of a `bufio.Scanner`: the lines, up to the first that its buffer of
64 KiB does not hold. -/
def scanLines (bs : GoString) : List GoString :=
  ((linesFrom [] bs).takeWhile fun line => byteLen line < 65536).map dropCr

end Go
