import AlphE.Lib.Hex
import Mathlib.Data.List.DropRight
import Mathlib.Data.List.Infix
import Mathlib.Data.Rat.Floor

/-!
The string built-ins of Python that messages are put together with: `repr` of
a string, slicing a prefix, `str.join`, stripping, splitting into lines, the
text and the suffix of a path, and formatting a number with two decimals. Strings are
sequences of Unicode scalar values. Which characters outside ASCII are printable is a table of the
interpreter and stays a parameter.
-/

namespace PyText

/-- `s[:n]`. -/
def takeChars (n : ℕ) (s : String) : String := String.ofList (s.toList.take n)

/-- `sep.join(xs)`. -/
def join (sep : String) (xs : List String) : String := String.intercalate sep xs

def singleQuote : Char := Char.ofNat 39

def doubleQuote : Char := Char.ofNat 34

def backslash : Char := Char.ofNat 92

/-- The quote `repr` encloses a string in: single, unless the string holds a
single quote and no double quote. -/
def reprQuote (cs : List Char) : Char :=
  if singleQuote ∈ cs ∧ doubleQuote ∉ cs then doubleQuote else singleQuote

/-- A character as `repr` writes it between quotes `q`. -/
def reprChar (isprintable : Char → Bool) (q c : Char) : List Char :=
  if c = q ∨ c = backslash then [backslash, c]
  else if c = '\t' then [backslash, 't']
  else if c = '\n' then [backslash, 'n']
  else if c = '\r' then [backslash, 'r']
  else if c.toNat < 0x20 ∨ c.toNat = 0x7f then
    backslash :: 'x' :: Hex.padded 2 c.toNat
  else if c.toNat < 0x7f ∨ isprintable c then [c]
  else if c.toNat < 0x100 then backslash :: 'x' :: Hex.padded 2 c.toNat
  else if c.toNat < 0x10000 then backslash :: 'u' :: Hex.padded 4 c.toNat
  else backslash :: 'U' :: Hex.padded 8 c.toNat

/-- `repr(s)`, which is also what `{s!r}` formats. -/
def reprStr (isprintable : Char → Bool) (s : String) : String :=
  let q := reprQuote s.toList
  String.ofList (q :: (s.toList.flatMap (reprChar isprintable q) ++ [q]))

/-- `repr` of a list of strings. -/
def reprStrList (isprintable : Char → Bool) (xs : List String) : String :=
  "[" ++ join ", " (xs.map (reprStr isprintable)) ++ "]"

/-- `needle in s`. -/
def occursIn (needle s : String) : Bool := decide (needle.toList <:+: s.toList)

/-- `needle in s`, as a decomposition of `s`. -/
theorem occursIn_iff {needle s : String} :
    occursIn needle s = true ↔ needle.toList <:+: s.toList := decide_eq_true_iff

theorem occursIn_append_right {needle s : String} (t : String)
    (h : occursIn needle s = true) : occursIn needle (s ++ t) = true := by
  rw [occursIn_iff] at h ⊢
  rw [String.toList_append]
  exact h.trans (List.prefix_append s.toList t.toList).isInfix

theorem occursIn_append_left {needle t : String} (s : String)
    (h : occursIn needle t = true) : occursIn needle (s ++ t) = true := by
  rw [occursIn_iff] at h ⊢
  rw [String.toList_append]
  exact h.trans (List.suffix_append s.toList t.toList).isInfix

theorem occursIn_self (s : String) : occursIn s s = true :=
  occursIn_iff.mpr (List.infix_refl _)

theorem eq_empty_of_occursIn {needle : String} (h : occursIn needle "" = true) :
    needle = "" := by
  rw [occursIn_iff, String.toList_empty, List.infix_nil] at h
  exact String.toList_eq_nil_iff.mp h

/-! ### White space and lines -/

/-- `c.isspace()`. -/
def isSpace (c : Char) : Bool :=
  let n := c.toNat
  (0x09 ≤ n && n ≤ 0x0d) || (0x1c ≤ n && n ≤ 0x20) || n == 0x85 || n == 0xa0 ||
    n == 0x1680 || (0x2000 ≤ n && n ≤ 0x200a) || n == 0x2028 || n == 0x2029 ||
    n == 0x202f || n == 0x205f || n == 0x3000

/-- `s.strip()`. -/
def strip (s : String) : String :=
  String.ofList ((s.toList.dropWhile isSpace).rdropWhile isSpace)

/-- `s.startswith(start)`. -/
def startsWith (start s : String) : Bool := start.toList.isPrefixOf s.toList

/-- `s.lstrip()`. -/
def lstrip (s : String) : String := String.ofList (s.toList.dropWhile isSpace)

/-- `s.lstrip(chars)`. -/
def lstripChars (chars : List Char) (s : String) : String :=
  String.ofList (s.toList.dropWhile fun c => c ∈ chars)

/-- What `splitlines` takes for the end of a line, beside `\r\n`. -/
def isLineBreak (c : Char) : Bool :=
  let n := c.toNat
  (0x0a ≤ n && n ≤ 0x0d) || (0x1c ≤ n && n ≤ 0x1e) || n == 0x85 || n == 0x2028 || n == 0x2029

/-- The lines from here on, with what the current one holds so far. -/
def linesFrom : List Char → List Char → List String
  | line, [] => if line.isEmpty then [] else [String.ofList line]
  | line, '\r' :: '\n' :: cs => String.ofList line :: linesFrom [] cs
  | line, c :: cs =>
      if isLineBreak c then String.ofList line :: linesFrom [] cs
      else linesFrom (line ++ [c]) cs

/-- `s.splitlines()`. -/
def splitlines (s : String) : List String := linesFrom [] s.toList

/-- The text has one line at most. -/
def NoBreak (s : String) : Prop := ∀ c ∈ s.toList, isLineBreak c = false

theorem noBreak_of_all {s : String}
    (h : s.toList.all (fun c => !isLineBreak c) = true) : NoBreak s := by
  intro c hc
  simpa using List.all_eq_true.mp h c hc

theorem forall_noBreak_of_all {α : Type} (text : α → String) {xs : List α}
    (h : xs.all (fun x => (text x).toList.all fun c => !isLineBreak c) = true) :
    ∀ x ∈ xs, NoBreak (text x) := by
  intro x hx
  exact noBreak_of_all (List.all_eq_true.mp h x hx)

theorem NoBreak.append {s t : String} (hs : NoBreak s) (ht : NoBreak t) : NoBreak (s ++ t) := by
  intro c hc
  rw [String.toList_append, List.mem_append] at hc
  exact hc.elim (hs c) (ht c)

theorem linesFrom_cons {c : Char} (h : isLineBreak c = false) (line cs : List Char) :
    linesFrom line (c :: cs) = linesFrom (line ++ [c]) cs := by
  have hcr : c ≠ '\r' := by
    rintro rfl
    cases h
  rw [linesFrom, h]
  · rfl
  · intro cs' hc _
    exact hcr hc

/-- A line before a newline. -/
theorem linesFrom_append_newline {cs : List Char} (h : ∀ c ∈ cs, isLineBreak c = false)
    (line rest : List Char) :
    linesFrom line (cs ++ '\n' :: rest) = String.ofList (line ++ cs) :: linesFrom [] rest := by
  induction cs generalizing line with
  | nil =>
      rw [List.nil_append, linesFrom, List.append_nil]
      · rfl
      · intro cs' hc _
        cases hc
  | cons c cs ih =>
      rw [List.forall_mem_cons] at h
      rw [List.cons_append, linesFrom_cons h.1, ih h.2, List.append_assoc]
      rfl

/-- The last line. -/
theorem linesFrom_of_noBreak {cs : List Char} (h : ∀ c ∈ cs, isLineBreak c = false)
    (line : List Char) :
    linesFrom line cs = if (line ++ cs).isEmpty then [] else [String.ofList (line ++ cs)] := by
  induction cs generalizing line with
  | nil => rw [linesFrom, List.append_nil]
  | cons c cs ih =>
      rw [List.forall_mem_cons] at h
      rw [linesFrom_cons h.1, ih h.2, List.append_assoc]
      rfl

theorem toList_join_cons (line line' : String) (lines : List String) :
    (join "\n" (line :: line' :: lines)).toList =
      line.toList ++ '\n' :: (join "\n" (line' :: lines)).toList := by
  rw [join, String.intercalate_cons_cons, String.toList_append, String.toList_append,
    List.append_assoc]
  rfl

/-- What is joined is split again, with or without a newline at the end. -/
theorem splitlines_join {lines : List String} (hbreak : ∀ line ∈ lines, NoBreak line)
    (hne : ∀ line ∈ lines, line ≠ "") : splitlines (join "\n" lines) = lines := by
  induction lines with
  | nil => rfl
  | cons line lines ih =>
      rw [List.forall_mem_cons] at hbreak hne
      cases lines with
      | nil =>
          have hempty : line.toList.isEmpty = false := by
            rw [List.isEmpty_eq_false_iff, Ne, String.toList_eq_nil_iff]
            exact hne.1
          have hone : join "\n" [line] = line := String.intercalate_singleton
          rw [splitlines, hone, linesFrom_of_noBreak hbreak.1, List.nil_append, hempty,
            String.ofList_toList]
          rfl
      | cons line' lines =>
          rw [splitlines, toList_join_cons, linesFrom_append_newline hbreak.1, List.nil_append,
            String.ofList_toList]
          exact congrArg (line :: ·) (ih hbreak.2 hne.2)

theorem splitlines_join_newline {lines : List String} (hbreak : ∀ line ∈ lines, NoBreak line)
    (hlines : lines ≠ []) : splitlines (join "\n" lines ++ "\n") = lines := by
  induction lines with
  | nil => exact absurd rfl hlines
  | cons line lines ih =>
      rw [List.forall_mem_cons] at hbreak
      rw [splitlines, String.toList_append]
      cases lines with
      | nil =>
          have hone : join "\n" [line] = line := String.intercalate_singleton
          rw [hone]
          refine (linesFrom_append_newline hbreak.1 [] []).trans ?_
          rw [List.nil_append, String.ofList_toList, linesFrom]
          rfl
      | cons line' lines =>
          rw [toList_join_cons, List.append_assoc, List.cons_append,
            linesFrom_append_newline hbreak.1, List.nil_append, String.ofList_toList,
            ← String.toList_append]
          exact congrArg (line :: ·) (ih hbreak.2 (List.cons_ne_nil _ _))

theorem NoBreak.newline_not_mem {s : String} (h : NoBreak s) : '\n' ∉ s.toList := by
  intro hmem
  cases h '\n' hmem

/-- Lines can be told from what they are joined to, when there are any. -/
theorem join_injective {xs ys : List String} (hx : ∀ x ∈ xs, '\n' ∉ x.toList)
    (hy : ∀ y ∈ ys, '\n' ∉ y.toList) (hxs : xs ≠ []) (hys : ys ≠ [])
    (h : join "\n" xs = join "\n" ys) : xs = ys := by
  have hsplit : ∀ {zs : List String}, (∀ z ∈ zs, '\n' ∉ z.toList) → zs ≠ [] →
      (join "\n" zs).toList.splitOn '\n' = zs.map String.toList := by
    intro zs hz hzs
    have hsep : "\n".toList = ['\n'] := rfl
    rw [join, String.toList_intercalate, hsep]
    apply List.splitOn_intercalate
    · intro l hl
      obtain ⟨z, hmem, rfl⟩ := List.mem_map.mp hl
      exact hz z hmem
    · simpa using hzs
  have hmap : xs.map String.toList = ys.map String.toList := by
    rw [← hsplit hx hxs, ← hsplit hy hys, h]
  exact List.map_injective_iff.mpr (fun _ _ hchars => String.toList_injective hchars) hmap

/-! ### Paths -/

/-- The root of a path: two slashes are kept, any other number counts as one. -/
def pathRoot (s : String) : String :=
  match s.toList with
  | '/' :: '/' :: '/' :: _ => "/"
  | '/' :: '/' :: _ => "//"
  | '/' :: _ => "/"
  | _ => ""

/-- The parts of a path below its root. -/
def pathParts (s : String) : List String :=
  ((s.toList.splitOn '/').map String.ofList).filter fun part => part ≠ "" ∧ part ≠ "."

/-- `str(Path(s))`. -/
def pathStr (s : String) : String :=
  let text := pathRoot s ++ join "/" (pathParts s)
  if text.isEmpty then "." else text

/-- `Path(s).suffix`: from the last dot of the name on, unless the name starts
or ends with it. -/
def pathSuffix (s : String) : String :=
  let name := ((pathParts s).getLast?.getD "").toList
  let extension := name.rtakeWhile fun c => c ≠ '.'
  if extension.isEmpty ∨ name.length ≤ extension.length + 1 then ""
  else String.ofList ('.' :: extension)

/-! ### Numbers -/

/-- Rounding to the nearest integer, ties to the even one. -/
def roundHalfEven (q : ℚ) : ℤ :=
  let below := q.floor
  let rest := q - below
  if rest < 1 / 2 then below
  else if 1 / 2 < rest then below + 1
  else if below % 2 = 0 then below
  else below + 1

/-- `{q:.2f}` of a number that is not negative. -/
def format2f (q : ℚ) : String :=
  let n := (roundHalfEven (q * 100)).toNat
  toString (n / 100) ++ "." ++ toString (n / 10 % 10) ++ toString (n % 10)

end PyText
