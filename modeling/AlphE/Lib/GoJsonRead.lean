import AlphE.Lib.GoFloatText
import AlphE.Lib.GoJson
import AlphE.Lib.GoJsonText
import AlphE.Lib.GoUnquote

/-!
JSON text read as `json.Unmarshal` reads it: the scanner goes over all of it first, so
that what builds the value can rely on a document. What `encoding/json` writes is read
back.
-/

namespace Go

namespace Json

open Validation

variable {δ : Type}

/-! ### Strings -/

/-- A rune, or the number of an escape. -/
abbrev CodeUnit := Char ⊕ ℕ

def hexValue (ds : List Char) : Option ℕ :=
  ds.foldlM (fun n d => (digitOf 16 d).map fun k => n * 16 + k) 0

def unescape (c : Char) : Option Char :=
  match c with
  | 'b' => some (Char.ofNat 8)
  | 'f' => some (Char.ofNat 12)
  | 'n' => some '\n'
  | 'r' => some '\r'
  | 't' => some '\t'
  | _ => if c = quoteMark ∨ c = backslash ∨ c = '/' then some c else none

/-- What stands up to the closing quote, and what follows it. -/
def readUnits : List Char → Option (List CodeUnit × List Char)
  | [] => none
  | c :: cs =>
      if c = quoteMark then some ([], cs)
      else if c = backslash then
        match cs with
        | [] => none
        -- The scanner has made sure of four digits.
        | 'u' :: d₁ :: d₂ :: d₃ :: d₄ :: cs =>
            (hexValue [d₁, d₂, d₃, d₄]).bind fun n =>
              (readUnits cs).map fun a => (.inr n :: a.1, a.2)
        | letter :: cs =>
            (unescape letter).bind fun c => (readUnits cs).map fun a => (.inl c :: a.1, a.2)
      else (readUnits cs).map fun a => (.inl c :: a.1, a.2)

/-- `utf16.IsSurrogate`. -/
def isSurrogate (n : ℕ) : Bool := 0xd800 ≤ n && n < 0xe000

/-- `utf16.DecodeRune`. -/
def decodeRune (high low : ℕ) : Option Char :=
  if 0xd800 ≤ high ∧ high < 0xdc00 ∧ 0xdc00 ≤ low ∧ low < 0xe000 then
    some (Char.ofNat ((high - 0xd800) * 1024 + (low - 0xdc00) + 0x10000))
  else none

/-- A surrogate without its other half is no rune. -/
def loneRune : CodeUnit → Char
  | .inl c => c
  | .inr n => if isSurrogate n then Char.ofNat 0xFFFD else Char.ofNat n

def runes : List CodeUnit → List Char
  | [] => []
  | .inr high :: .inr low :: us =>
      match decodeRune high low with
      | some c => c :: runes us
      | none => loneRune (.inr high) :: runes (.inr low :: us)
  | u :: us => loneRune u :: runes us

/-- The string whose first quote has been read. -/
def readString (cs : List Char) : Option (String × List Char) :=
  (readUnits cs).map fun a => (String.ofList (runes a.1), a.2)

/-! ### Values -/

/-- A mark, behind what space there is. -/
def expect (mark : Char) (cs : List Char) : Option (List Char) :=
  match cs.dropWhile JsonScan.isSpace with
  | [] => none
  | c :: cs => if c = mark then some cs else none

section Lists

variable {α : Type} (read : List Char → Option (α × List Char)) (close : Char)

/-- One or more, with commas between them. -/
def readSeparated : ℕ → List Char → Option (List α × List Char)
  | 0, _ => none
  | fuel + 1, cs =>
      (read cs).bind fun a =>
        match expect close a.2 with
        | some rest => some ([a.1], rest)
        | none =>
            (expect ',' a.2).bind fun rest =>
              (readSeparated fuel rest).map fun b => (a.1 :: b.1, b.2)

def readEnclosed (fuel : ℕ) (cs : List Char) : Option (List α × List Char) :=
  match expect close cs with
  | some rest => some ([], rest)
  | none => readSeparated read close fuel cs

end Lists

def readMember {α : Type} (read : List Char → Option (α × List Char)) (cs : List Char) :
    Option ((String × α) × List Char) :=
  (expect quoteMark cs).bind fun cs =>
    (readString cs).bind fun name =>
      (expect ':' name.2).bind fun cs => (read cs).map fun a => ((name.1, a.1), a.2)

def numberChar (c : Char) : Bool := c.isDigit || oneOf "+-.eE" c

def number (word : List Char) : Option (Value δ) :=
  if word.all fun c => c.isDigit || c = '-' then
    let (negative, digits) := readSign word
    some (.int (if negative then -digitsValue 10 digits else digitsValue 10 digits))
  else (readFloat word).map .float

/-- The first letter tells which word it is. -/
def readWord (cs : List Char) : Option (Value δ × List Char) :=
  match cs with
  | 'n' :: cs => some (.null, cs.drop 3)
  | 't' :: cs => some (.bool true, cs.drop 3)
  | 'f' :: cs => some (.bool false, cs.drop 4)
  | cs => (number (cs.takeWhile numberChar)).map fun v => (v, cs.dropWhile numberChar)

/-- The value a document starts with, and what follows it. -/
def readValue : ℕ → List Char → Option (Value δ × List Char)
  | 0, _ => none
  | fuel + 1, cs =>
      match cs.dropWhile JsonScan.isSpace with
      | [] => none
      | c :: cs =>
          if c = quoteMark then (readString cs).map fun a => (.str a.1, a.2)
          else if c = '\x7b' then
            (readEnclosed (readMember (readValue fuel)) '\x7d' fuel cs).map fun a =>
              (.dict a.1, a.2)
          else if c = '[' then
            (readEnclosed (readValue fuel) ']' fuel cs).map fun a => (.list a.1, a.2)
          else readWord (c :: cs)

/-- The document in a text. -/
def parse (bs : GoString) : Option (Value δ) :=
  if jsonValid bs then (readValue bs.length (bs.map Piece.toRune)).map Prod.fst else none

/-! ### Strings are read back -/

theorem hexValue_padded (w : ℕ) {n : ℕ} (hn : n < 16 ^ w) :
    hexValue (Hex.padded w n) = some n := by
  induction w generalizing n with
  | zero =>
      have hzero : n = 0 := by simpa using hn
      rw [hzero]
      rfl
  | succ w ih =>
      have hdiv : n / 16 < 16 ^ w := by
        rw [Nat.pow_succ'] at hn
        exact Nat.div_lt_of_lt_mul hn
      have hlast : n / 16 * 16 + n % 16 = n := by omega
      have hfront := ih hdiv
      rw [hexValue] at hfront ⊢
      rw [Hex.padded, List.foldlM_append, hfront]
      simp [digitOf_digitChar _ (Nat.mod_lt n (by decide)), hlast]

/-- A unit that stands for a rune on its own. -/
def Spells (u : CodeUnit) (c : Char) : Prop := ∀ us, runes (u :: us) = c :: runes us

theorem spells_rune (c : Char) : Spells (.inl c) c := by
  intro us
  rw [runes, loneRune]
  nofun

theorem not_isSurrogate (c : Char) : isSurrogate c.toNat = false := by
  have hvalid : c.toNat < 0xd800 ∨ 0xdfff < c.toNat ∧ c.toNat < 0x110000 := c.valid
  simp only [isSurrogate, Bool.and_eq_false_iff, decide_eq_false_iff_not]
  omega

theorem spells_number (c : Char) : Spells (.inr c.toNat) c := by
  have hlone : loneRune (.inr c.toNat) = c := by
    rw [loneRune, not_isSurrogate, if_neg Bool.false_ne_true, Char.ofNat_toNat]
  have hpair (low : ℕ) : decodeRune c.toNat low = none := by
    have hnot := not_isSurrogate c
    simp only [isSurrogate, Bool.and_eq_false_iff, decide_eq_false_iff_not] at hnot
    rw [decodeRune, if_neg (by omega)]
  intro us
  cases us with
  | nil => simp only [runes, hlone]
  | cons u us =>
      cases u with
      | inl d => simp only [runes, hlone]
      | inr low => simp only [runes, hpair, hlone]

/-- From a text in front of any other the unit is read. -/
def ReadsUnit (cs : List Char) (u : CodeUnit) : Prop :=
  ∀ rest, readUnits (cs ++ rest) = (readUnits rest).map fun a => (u :: a.1, a.2)

theorem readsUnit_plain {c : Char} (hquote : c ≠ quoteMark) (hslash : c ≠ backslash) :
    ReadsUnit [c] (.inl c) := by
  intro rest
  rw [List.singleton_append, readUnits.eq_def]
  simp only [if_neg hquote, if_neg hslash]

theorem readsUnit_letter {letter c : Char} (hu : letter ≠ 'u') (h : unescape letter = some c) :
    ReadsUnit [backslash, letter] (.inl c) := by
  intro rest
  rw [List.cons_append, List.singleton_append, readUnits.eq_def]
  simp only [if_neg (show backslash ≠ quoteMark by decide), ↓reduceIte]
  split
  · next heq => cases heq
  · next heq => exact absurd (List.cons.inj heq).1 hu
  · next heq =>
      obtain ⟨rfl, rfl⟩ := List.cons.inj heq
      rw [h, Option.bind_some]

theorem readsUnit_number {ds : List Char} {n : ℕ} (hlength : ds.length = 4)
    (h : hexValue ds = some n) : ReadsUnit (backslash :: 'u' :: ds) (.inr n) := by
  intro rest
  match ds, hlength with
  | [d₁, d₂, d₃, d₄], _ =>
      simp only [List.cons_append, List.nil_append]
      rw [readUnits, if_neg (by decide), if_pos rfl, h, Option.bind_some]

theorem exists_readsUnit_jsonRune (c : Char) :
    ∃ u, Spells u c ∧ ReadsUnit (jsonRune c) u := by
  unfold jsonRune
  split_ifs with hself hn hr ht hb hf hunicode
  · refine ⟨_, spells_rune c, readsUnit_letter ?_ ?_⟩
    · rcases hself with rfl | rfl <;> decide
    · rcases hself with rfl | rfl <;> decide
  · exact ⟨_, spells_rune c, readsUnit_letter (by decide) (by rw [hn]; rfl)⟩
  · exact ⟨_, spells_rune c, readsUnit_letter (by decide) (by rw [hr]; rfl)⟩
  · exact ⟨_, spells_rune c, readsUnit_letter (by decide) (by rw [ht]; rfl)⟩
  · exact ⟨_, spells_rune c, readsUnit_letter (by decide)
      (by rw [← Char.ofNat_toNat c, hb]; rfl)⟩
  · exact ⟨_, spells_rune c, readsUnit_letter (by decide)
      (by rw [← Char.ofNat_toNat c, hf]; rfl)⟩
  · refine ⟨_, spells_number c, readsUnit_number (Hex.length_padded 4 _) (hexValue_padded 4 ?_)⟩
    rcases hunicode with h | rfl | rfl | rfl | h | h
    · omega
    · decide
    · decide
    · decide
    · omega
    · omega
  · rw [not_or] at hself
    exact ⟨_, spells_rune c, readsUnit_plain hself.1 hself.2⟩

theorem readUnits_jsonRunes (cs rest : List Char) :
    ∃ us, runes us = cs ∧
      readUnits (cs.flatMap jsonRune ++ quoteMark :: rest) = some (us, rest) := by
  induction cs with
  | nil =>
      refine ⟨[], by rw [runes], ?_⟩
      rw [List.flatMap_nil, List.nil_append, readUnits.eq_def]
      exact if_pos rfl
  | cons c cs ih =>
      obtain ⟨us, hrunes, hread⟩ := ih
      obtain ⟨u, hspells, hunit⟩ := exists_readsUnit_jsonRune c
      refine ⟨u :: us, by rw [hspells us, hrunes], ?_⟩
      rw [List.flatMap_cons, List.append_assoc, hunit, hread, Option.map_some]

theorem toList_jsonString (s : String) (rest : List Char) :
    (jsonString s).toList ++ rest =
      quoteMark :: (s.toList.flatMap jsonRune ++ quoteMark :: rest) := by
  rw [jsonString, String.toList_ofList, List.cons_append, List.append_assoc,
    List.singleton_append]

/-- What is written of a string is read back. -/
theorem readString_jsonRunes (s : String) (rest : List Char) :
    readString (s.toList.flatMap jsonRune ++ quoteMark :: rest) = some (s, rest) := by
  obtain ⟨us, hrunes, hread⟩ := readUnits_jsonRunes s.toList rest
  rw [readString, hread, Option.map_some, hrunes, String.ofList_toList]

/-! ### Values are read back -/

theorem expect_cons {c : Char} (hspace : JsonScan.isSpace c = false) (mark : Char)
    (cs : List Char) : expect mark (c :: cs) = if c = mark then some cs else none := by
  rw [expect, List.dropWhile_cons_of_neg (by simp [hspace])]

/-- With as much fuel as it has characters the text is read, in front of any other. -/
def Reads (cs : List Char) (v : Value δ) : Prop :=
  ∀ fuel rest, cs.length ≤ fuel → readValue fuel (cs ++ rest) = some (v, rest)

theorem reads_jsonString (s : String) : Reads (jsonString s).toList (.str s : Value δ) := by
  intro fuel rest hfuel
  rw [toList_jsonString]
  match fuel, hfuel with
  | 0, hfuel => simp [jsonString] at hfuel
  | fuel + 1, _ =>
      rw [readValue, List.dropWhile_cons_of_neg (by decide)]
      simp only [↓reduceIte, readString_jsonRunes, Option.map_some]

theorem reads_null : Reads "null".toList (.null : Value δ) := by
  intro fuel rest hfuel
  match fuel, hfuel with
  | fuel + 1, _ => rfl

section Objects

variable {α : Type} (name : α → String) (text : α → List Char) (value : α → Value δ)

/-- A member as it is written. -/
def memberText (x : α) : List Char := (jsonString (name x)).toList ++ ':' :: text x

/-- A member is read where its value is. -/
theorem readMember_memberText {read : List Char → Option (Value δ × List Char)} {x : α}
    {rest : List Char} (h : read (text x ++ rest) = some (value x, rest)) :
    readMember read (memberText name text x ++ rest) = some ((name x, value x), rest) := by
  rw [memberText, List.append_assoc, toList_jsonString, readMember,
    expect_cons (by decide), if_pos rfl, Option.bind_some, readString_jsonRunes,
    Option.bind_some, List.cons_append, expect_cons (by decide), if_pos rfl, Option.bind_some, h,
    Option.map_some]

theorem length_le_intercalate (sep : List Char) {ts : List (List Char)} {t : List Char}
    (h : t ∈ ts) : t.length ≤ (sep.intercalate ts).length := by
  induction ts with
  | nil => cases h
  | cons u ts ih =>
      cases ts with
      | nil =>
          obtain rfl := List.mem_singleton.mp h
          rw [List.intercalate_singleton]
      | cons v ts =>
          rw [List.intercalate_cons_cons, List.length_append, List.length_append]
          rcases List.mem_cons.mp h with rfl | h
          · omega
          · have := ih h
            omega

theorem readSeparated_members {read : List Char → Option (Value δ × List Char)} {xs : List α}
    (h : ∀ x ∈ xs, ∀ rest, read (text x ++ rest) = some (value x, rest)) (hne : xs ≠ [])
    {fuel : ℕ}
    (hfuel : ([','].intercalate (xs.map (memberText name text))).length ≤ fuel)
    (rest : List Char) :
    readSeparated (readMember read) '\x7d' fuel
        ([','].intercalate (xs.map (memberText name text)) ++ '\x7d' :: rest) =
      some (xs.map fun x => (name x, value x), rest) := by
  induction xs generalizing fuel with
  | nil => exact absurd rfl hne
  | cons x xs ih =>
      rw [List.forall_mem_cons] at h
      have hmember (rest : List Char) := readMember_memberText name text value (h.1 rest)
      have hlength : 0 < (memberText name text x).length := by simp [memberText]
      cases xs with
      | nil =>
          rw [List.map_singleton, List.intercalate_singleton] at hfuel ⊢
          obtain ⟨fuel, rfl⟩ := Nat.exists_eq_add_one.mpr (hlength.trans_le hfuel)
          rw [readSeparated, hmember, Option.bind_some, expect_cons (by decide), if_pos rfl]
          rfl
      | cons y ys =>
          rw [List.map_cons, List.map_cons, List.intercalate_cons_cons,
            List.append_assoc] at hfuel ⊢
          rw [List.length_append, List.length_append, List.length_singleton] at hfuel
          obtain ⟨fuel, rfl⟩ := Nat.exists_eq_add_one.mpr (by omega : 0 < fuel)
          rw [List.append_assoc, readSeparated, hmember, Option.bind_some, List.singleton_append]
          simp only [expect_cons (show JsonScan.isSpace ',' = false by decide),
            Char.reduceEq, ↓reduceIte, Option.bind_some]
          rw [← List.map_cons, ih h.2 (List.cons_ne_nil y ys) (by rw [List.map_cons]; omega)]
          rfl

/-- An object is read where its values are. -/
theorem reads_object {xs : List α} (h : ∀ x ∈ xs, Reads (text x) (value x)) :
    Reads ('\x7b' :: ([','].intercalate (xs.map (memberText name text)) ++ ['\x7d']))
      (.dict (xs.map fun x => (name x, value x))) := by
  intro fuel rest hfuel
  rw [List.length_cons, List.length_append, List.length_singleton] at hfuel
  obtain ⟨fuel, rfl⟩ := Nat.exists_eq_add_one.mpr (by omega : 0 < fuel)
  rw [List.cons_append, List.append_assoc, List.singleton_append, readValue,
    List.dropWhile_cons_of_neg (by decide)]
  simp only [show '\x7b' ≠ quoteMark by decide, ↓reduceIte]
  rw [readEnclosed]
  cases xs with
  | nil => rfl
  | cons x xs =>
      -- The fuel that is left is enough for every value.
      have hread : ∀ y ∈ x :: xs, ∀ rest,
          readValue fuel (text y ++ rest) = some (value y, rest) := by
        intro y hy rest
        refine h y hy fuel rest ?_
        have hmember := length_le_intercalate [',']
          (List.mem_map_of_mem (f := memberText name text) hy)
        rw [memberText, List.length_append, List.length_cons] at hmember
        omega
      -- What an object begins with is no closing brace.
      have hopen : expect '\x7d' ([','].intercalate ((x :: xs).map (memberText name text)) ++
          '\x7d' :: rest) = none := by
        obtain ⟨tail, htail⟩ : ∃ tail, [','].intercalate
            ((x :: xs).map (memberText name text)) = quoteMark :: tail := by
          cases xs with
          | nil =>
              rw [List.map_singleton, List.intercalate_singleton, memberText, toList_jsonString]
              exact ⟨_, rfl⟩
          | cons y ys =>
              rw [List.map_cons, List.map_cons, List.intercalate_cons_cons, memberText,
                List.append_assoc, toList_jsonString]
              exact ⟨_, rfl⟩
        rw [htail, List.cons_append, expect_cons (by decide), if_neg (by decide)]
      have hmembers := readSeparated_members name text value hread (List.cons_ne_nil x xs)
        (by omega : _ ≤ fuel) rest
      rw [hopen]
      simp only [hmembers, Option.map_some]

end Objects

/-- A text that is read is the document it says. -/
theorem parse_utf8 {s : String} {v : Value δ} (hvalid : JsonScan.Value s.toList true)
    (hreads : Reads s.toList v) : parse (utf8 s) = some v := by
  have htext : (utf8 s).map Piece.toRune = s.toList := by
    rw [utf8, List.map_map]
    exact List.map_id s.toList
  have hread := hreads (utf8 s).length [] (by rw [utf8, List.length_map])
  rw [List.append_nil] at hread
  rw [parse, if_pos ((isJson_utf8_iff hvalid).mpr rfl).valid, htext, hread, Option.map_some]

end Json

end Go
