import AlphE.Lib.GoText

/-!
Go's string literals read back. A literal stands for bytes; an escape may stand for a
byte of its own or for a rune. What `%q` writes is read back as it was.
-/

namespace Go

/-! ### Bytes -/

def Piece.bytes : Piece → List UInt8
  | .rune c => String.utf8EncodeChar c
  | .stray b => [b]

/-- The bytes of a string. -/
def bytes (bs : GoString) : List UInt8 := bs.flatMap Piece.bytes

@[simp] theorem bytes_append (bs cs : GoString) : bytes (bs ++ cs) = bytes bs ++ bytes cs :=
  List.flatMap_append

theorem toByteArray_bytes (s : String) : (bytes (utf8 s)).toByteArray = s.toByteArray := by
  rw [← String.utf8Encode_toList, List.utf8Encode, bytes, utf8, List.flatMap_map]
  rfl

/-- Texts are told apart by their bytes. -/
theorem bytes_utf8_injective {s t : String} (h : bytes (utf8 s) = bytes (utf8 t)) : s = t := by
  rw [← String.toByteArray_inj, ← toByteArray_bytes, ← toByteArray_bytes, h]

theorem utf8EncodeChar_of_ascii {c : Char} (h : c.toNat < 0x80) :
    String.utf8EncodeChar c = [UInt8.ofNat c.toNat] := by
  rw [String.utf8EncodeChar]
  exact if_pos (Nat.le_of_lt_succ h)

/-! ### Reading a literal -/

def singleMark : Char := Char.ofNat 39

def backMark : Char := Char.ofNat 96

/-- Where a literal is being read: between escapes, after a backslash, or among the
digits of an escape. -/
inductive Reading
  | plain
  | escape
  | digits (asByte : Bool) (base left value : ℕ)
  deriving DecidableEq, Repr

def digitOf (base : ℕ) (c : Char) : Option ℕ :=
  let n := c.toNat
  let value :=
    if 48 ≤ n ∧ n ≤ 57 then n - 48
    else if 97 ≤ n ∧ n ≤ 102 then n - 87
    else if 65 ≤ n ∧ n ≤ 70 then n - 55
    else base
  if value < base then some value else none

/-- What the digits of an escape stand for. -/
def escaped (asByte : Bool) (value : ℕ) : Option (List UInt8) :=
  if asByte then if value < 256 then some [UInt8.ofNat value] else none
  else if value.isValidChar then some (String.utf8EncodeChar (Char.ofNat value)) else none

/-- The byte that a letter after a backslash stands for. -/
def letterByte (c : Char) : Option UInt8 :=
  match c with
  | 'a' => some 7
  | 'b' => some 8
  | 't' => some 9
  | 'n' => some 10
  | 'v' => some 11
  | 'f' => some 12
  | 'r' => some 13
  | _ => none

def readEscape (mark c : Char) : Option (Reading × List UInt8) :=
  if c = backslash ∨ c = mark then some (.plain, String.utf8EncodeChar c)
  else
    match letterByte c with
    | some b => some (.plain, [b])
    | none =>
        if c = 'x' then some (.digits true 16 2 0, [])
        else if c = 'u' then some (.digits false 16 4 0, [])
        else if c = 'U' then some (.digits false 16 8 0, [])
        else (digitOf 8 c).map fun d => (.digits true 8 2 d, [])

def readChar (mark : Char) : Reading → Char → Option (Reading × List UInt8)
  | .plain, c =>
      if c = mark ∨ c = '\n' then none
      else if c = backslash then some (.escape, [])
      else some (.plain, String.utf8EncodeChar c)
  | .escape, c => readEscape mark c
  | .digits asByte base left value, c =>
      (digitOf base c).bind fun d =>
        if left ≤ 1 then (escaped asByte (value * base + d)).map fun bs => (.plain, bs)
        else some (.digits asByte base (left - 1) (value * base + d), [])

/-- The bytes that a part of a literal stands for, and where it ends. -/
def readChars (mark : Char) : Reading → List Char → Option (Reading × List UInt8)
  | r, [] => some (r, [])
  | r, c :: cs =>
      (readChar mark r c).bind fun a =>
        (readChars mark a.1 cs).map fun b => (b.1, a.2 ++ b.2)

/-- What stands between the marks of a literal. -/
def unquoteBody (mark : Char) (body : List Char) : Option (List UInt8) :=
  if mark = backMark then
    if backMark ∈ body then none else some (body.flatMap String.utf8EncodeChar)
  else if mark = quoteMark ∨ mark = singleMark then
    (readChars mark .plain body).bind fun a => if a.1 = .plain then some a.2 else none
  else none

/-- `strconv.Unquote`, with more than one character in single quotes, too. -/
def unquote : List Char → Option (List UInt8)
  | [] => none
  | mark :: rest => if rest.getLast? = some mark then unquoteBody mark rest.dropLast else none

theorem unquote_append_mark (mark : Char) (body : List Char) :
    unquote (mark :: (body ++ [mark])) = unquoteBody mark body := by
  rw [unquote, List.getLast?_append, if_pos (by simp), List.dropLast_concat]

theorem readChars_singleton (mark : Char) (r : Reading) (c : Char) :
    readChars mark r [c] = readChar mark r c := by
  rw [readChars]
  cases readChar mark r c with
  | none => rfl
  | some a => simp only [readChars, Option.bind_some, Option.map_some, List.append_nil]

theorem readChars_append {mark : Char} {r r' : Reading} {cs : List Char} {bs : List UInt8}
    (h : readChars mark r cs = some (r', bs)) (ds : List Char) :
    readChars mark r (cs ++ ds) = (readChars mark r' ds).map fun b => (b.1, bs ++ b.2) := by
  induction cs generalizing r bs with
  | nil =>
      cases h
      rw [List.nil_append]
      exact Option.map_id'.symm
  | cons c cs ih =>
      rw [readChars, Option.bind_eq_some_iff] at h
      obtain ⟨a, ha, hrest⟩ := h
      obtain ⟨b, hb, heq⟩ := Option.map_eq_some_iff.mp hrest
      cases heq
      rw [List.cons_append, readChars, ha, Option.bind_some, ih hb, Option.map_map]
      congr 1
      funext e
      rw [Function.comp_apply, List.append_assoc]

/-! ### What is quoted is read back -/

section Digits

variable (mark : Char) (asByte : Bool)

theorem digitOf_digitChar : ∀ d < 16, digitOf 16 (Nat.digitChar d) = some d := by
  decide

/-- Digits that are not the last are added up. -/
theorem readChars_padded (w left : ℕ) (value : ℕ) {n : ℕ} (hn : n < 16 ^ w) :
    readChars mark (.digits asByte 16 (w + left + 1) value) (Hex.padded w n) =
      some (.digits asByte 16 (left + 1) (value * 16 ^ w + n), []) := by
  induction w generalizing left n with
  | zero =>
      have hzero : n = 0 := by simpa using hn
      simp [Hex.padded, readChars, hzero]
  | succ w ih =>
      have hdiv : n / 16 < 16 ^ w := by
        rw [Nat.pow_succ'] at hn
        exact Nat.div_lt_of_lt_mul hn
      have hfront := ih (left + 1) hdiv
      have hleft : w + (left + 1) + 1 = w + 1 + left + 1 := by omega
      rw [hleft] at hfront
      have hvalue : (value * 16 ^ w + n / 16) * 16 + n % 16 = value * 16 ^ (w + 1) + n := by
        have hpow : value * 16 ^ (w + 1) = value * 16 ^ w * 16 := by
          rw [Nat.pow_succ, Nat.mul_assoc]
        omega
      have hmany : ¬ left + 1 + 1 ≤ 1 := by omega
      rw [Hex.padded, readChars_append hfront, readChars_singleton]
      simp only [readChar, digitOf_digitChar _ (Nat.mod_lt n (by decide)), Option.bind_some,
        if_neg hmany, hvalue, Option.map_some, List.append_nil, Nat.add_sub_cancel]

/-- The digits of an escape stand for the number that they spell. -/
theorem readChars_padded_last (w : ℕ) {n : ℕ} (hn : n < 16 ^ (w + 1)) :
    readChars mark (.digits asByte 16 (w + 1) 0) (Hex.padded (w + 1) n) =
      (escaped asByte n).map fun bs => (.plain, bs) := by
  have hdiv : n / 16 < 16 ^ w := by
    rw [Nat.pow_succ'] at hn
    exact Nat.div_lt_of_lt_mul hn
  have hfront := readChars_padded mark asByte w 0 0 hdiv
  have hvalue : (0 * 16 ^ w + n / 16) * 16 + n % 16 = n := by omega
  rw [Hex.padded, readChars_append hfront, readChars_singleton]
  simp only [readChar, digitOf_digitChar _ (Nat.mod_lt n (by decide)), Option.bind_some,
    Nat.zero_add, le_refl, if_true, hvalue, List.nil_append]
  exact Option.map_id'

end Digits

/-- An escape of digits stands for its number. -/
theorem readChars_escape {letter : Char} {asByte : Bool} {w : ℕ}
    (hletter : readEscape quoteMark letter = some (.digits asByte 16 (w + 1) 0, []))
    {n : ℕ} (hn : n < 16 ^ (w + 1)) :
    readChars quoteMark .plain (backslash :: letter :: Hex.padded (w + 1) n) =
      (escaped asByte n).map fun bs => (.plain, bs) := by
  have hmark : ¬ (backslash = quoteMark ∨ backslash = '\n') := by decide
  rw [readChars, readChar, if_neg hmark, if_pos rfl, Option.bind_some, readChars, readChar,
    hletter, Option.bind_some, readChars_padded_last quoteMark asByte w hn]
  cases escaped asByte n <;> rfl

/-- An escape of one letter stands for a byte. -/
theorem readChars_letter {letter : Char} {bs : List UInt8}
    (hletter : readEscape quoteMark letter = some (.plain, bs)) :
    readChars quoteMark .plain [backslash, letter] = some (.plain, bs) := by
  have hmark : ¬ (backslash = quoteMark ∨ backslash = '\n') := by decide
  rw [readChars, readChar, if_neg hmark, if_pos rfl, Option.bind_some, readChars_singleton,
    readChar, hletter]
  rfl

theorem readEscape_escapeLetter {c letter : Char} (h : escapeLetter c = some letter) :
    c.toNat < 0x80 ∧ readEscape quoteMark letter = some (.plain, [UInt8.ofNat c.toNat]) := by
  rw [escapeLetter] at h
  split at h
  all_goals
    first
      | cases h; next hc => rw [hc]; decide
      | cases h

theorem escaped_toNat (c : Char) :
    escaped false c.toNat = some (String.utf8EncodeChar c) := by
  have hvalid : c.toNat.isValidChar := c.valid
  rw [escaped, if_neg (by decide), if_pos hvalid, Char.ofNat_toNat]

theorem toNat_lt (c : Char) : c.toNat < 16 ^ 8 := by
  have hlt := c.val.toNat_lt
  exact lt_of_lt_of_le hlt (by decide)

theorem readChars_quoteRune (isPrint : Char → Bool) (c : Char) :
    readChars quoteMark .plain (quoteRune isPrint c) =
      some (.plain, String.utf8EncodeChar c) := by
  rw [quoteRune]
  split
  · next hmark =>
      apply readChars_letter
      rw [readEscape, if_pos (or_comm.mp hmark)]
  · next hmark =>
      rw [not_or] at hmark
      split
      · next hprint =>
          have hnewline : c ≠ '\n' := by
            rintro rfl
            simp at hprint
          rw [readChars_singleton, readChar, if_neg (not_or.mpr ⟨hmark.1, hnewline⟩),
            if_neg hmark.2]
      · split
        · next letter hletter =>
            obtain ⟨hascii, hread⟩ := readEscape_escapeLetter hletter
            rw [readChars_letter hread, utf8EncodeChar_of_ascii hascii]
        · split
          · next hcontrol =>
              have hascii : c.toNat < 0x80 := by omega
              rw [readChars_escape rfl (by omega), escaped, if_pos rfl, if_pos (by omega),
                utf8EncodeChar_of_ascii hascii]
              rfl
          · split
            · next hshort =>
                rw [readChars_escape rfl hshort, escaped_toNat]
                rfl
            · rw [readChars_escape rfl (toNat_lt c), escaped_toNat]
              rfl

theorem readChars_quotePiece (isPrint : Char → Bool) (p : Piece) :
    readChars quoteMark .plain (quotePiece isPrint p) = some (.plain, p.bytes) := by
  cases p with
  | rune c => exact readChars_quoteRune isPrint c
  | stray b =>
      have hlt : b.toNat < 256 := b.toNat_lt
      rw [quotePiece, readChars_escape rfl hlt, escaped, if_pos rfl, if_pos hlt,
        UInt8.ofNat_toNat]
      rfl

theorem readChars_flatMap (isPrint : Char → Bool) (bs : GoString) :
    readChars quoteMark .plain (bs.flatMap (quotePiece isPrint)) = some (.plain, bytes bs) := by
  induction bs with
  | nil => rfl
  | cons p bs ih =>
      rw [List.flatMap_cons, readChars_append (readChars_quotePiece isPrint p), ih]
      rfl

/-- What `%q` writes is read back. -/
theorem unquote_quote (isPrint : Char → Bool) (bs : GoString) :
    unquote (quote isPrint bs).toList = some (bytes bs) := by
  rw [quote, String.toList_ofList, unquote_append_mark, unquoteBody, if_neg (by decide),
    if_pos (.inl rfl), readChars_flatMap, Option.bind_some, if_pos rfl]

end Go
