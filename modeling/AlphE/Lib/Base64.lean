import Mathlib.Data.List.Basic

/-!
Base64 as the standard library of Python has it: `base64.b64encode`, and
`base64.b64decode` without validation, which skips what is outside the
alphabet and stops at a complete padding.
-/

namespace Base64

/-- The character of a six-bit value. -/
def digit (n : ℕ) : Char :=
  if n < 26 then Char.ofNat (65 + n)
  else if n < 52 then Char.ofNat (71 + n)
  else if n < 62 then Char.ofNat (n - 4)
  else if n = 62 then '+'
  else '/'

/-- `table_a2b_base64`. -/
def digitValue (c : Char) : Option ℕ :=
  if 65 ≤ c.toNat ∧ c.toNat ≤ 90 then some (c.toNat - 65)
  else if 97 ≤ c.toNat ∧ c.toNat ≤ 122 then some (c.toNat - 71)
  else if 48 ≤ c.toNat ∧ c.toNat ≤ 57 then some (c.toNat + 4)
  else if c = '+' then some 62
  else if c = '/' then some 63
  else none

theorem digitValue_digit : ∀ n < 64, digitValue (digit n) = some n := by
  decide

theorem digit_ne_pad : ∀ n < 64, digit n ≠ '=' := by
  decide

theorem digit_isAscii : ∀ n < 64, (digit n).toNat < 128 := by
  decide

/-! ### Encoding -/

def encode : List UInt8 → List Char
  | [] => []
  | [a] => [digit (a.toNat / 4), digit (a.toNat % 4 * 16), '=', '=']
  | [a, b] =>
      [digit (a.toNat / 4), digit (a.toNat % 4 * 16 + b.toNat / 16),
        digit (b.toNat % 16 * 4), '=']
  | a :: b :: c :: rest =>
      digit (a.toNat / 4) :: digit (a.toNat % 4 * 16 + b.toNat / 16) ::
        digit (b.toNat % 16 * 4 + c.toNat / 64) :: digit (c.toNat % 64) :: encode rest

def b64encode (bytes : List UInt8) : String := String.ofList (encode bytes)

/-! ### Decoding -/

/-- The variables of the decoding loop: how many characters of the current
group have been read, the bits of the last one that wait for the next, and the
paddings seen since. -/
structure Scan where
  quadPos : ℕ := 0
  leftchar : ℕ := 0
  pads : ℕ := 0
  out : List UInt8 := []

/-- A character of the alphabet, with value `v`. -/
def Scan.push (s : Scan) (v : ℕ) : Scan :=
  match s.quadPos with
  | 0 => { s with quadPos := 1, leftchar := v, pads := 0 }
  | 1 =>
      { quadPos := 2
        leftchar := v % 16
        out := s.out ++ [UInt8.ofNat (s.leftchar * 4 + v / 16)] }
  | 2 =>
      { quadPos := 3
        leftchar := v % 4
        out := s.out ++ [UInt8.ofNat (s.leftchar * 16 + v / 4)] }
  | _ => { out := s.out ++ [UInt8.ofNat (s.leftchar * 64 + v)] }

/-- The end of the input. -/
def Scan.finish (s : Scan) : Except String (List UInt8) :=
  if s.quadPos = 0 then .ok s.out
  else if s.quadPos = 1 then
    .error ("Invalid base64-encoded string: number of data characters (" ++
      toString (s.out.length / 3 * 4 + 1) ++
      ") cannot be 1 more than a multiple of 4")
  else .error "Incorrect padding"

def scan : List Char → Scan → Except String (List UInt8)
  | [], s => s.finish
  | c :: cs, s =>
      if c = '=' then
        if 2 ≤ s.quadPos then
          -- A complete padding ends the input, whatever follows it.
          if 4 ≤ s.quadPos + (s.pads + 1) then .ok s.out
          else scan cs { s with pads := s.pads + 1 }
        else scan cs s
      else
        match digitValue c with
        | none => scan cs s
        | some v => scan cs (s.push v)

def b64decode (s : String) : Except String (List UInt8) :=
  if s.toList.all fun c => c.toNat < 128 then scan s.toList {}
  else .error "string argument should contain only ASCII characters"

/-! ### The round trip -/

theorem scan_digit {n : ℕ} (h : n < 64) (cs : List Char) (s : Scan) :
    scan (digit n :: cs) s = scan cs (s.push n) := by
  rw [scan, if_neg (digit_ne_pad n h), digitValue_digit n h]

/-- Between groups the loop holds nothing but its output, and a group of the
encoding adds the bytes it was made from. -/
theorem scan_encode : ∀ (bytes out : List UInt8),
    scan (encode bytes) { out := out } = .ok (out ++ bytes)
  | [], out => by simp [encode, scan, Scan.finish]
  | [a], out => by
      have ha := a.toNat_lt
      have hbyte : a.toNat / 4 * 4 + a.toNat % 4 * 16 / 16 = a.toNat := by omega
      rw [encode, scan_digit (by omega), scan_digit (by omega)]
      simp only [Scan.push, hbyte, UInt8.ofNat_toNat]
      simp [scan]
  | [a, b], out => by
      have ha := a.toNat_lt
      have hb := b.toNat_lt
      have hfst : a.toNat / 4 * 4 + (a.toNat % 4 * 16 + b.toNat / 16) / 16 = a.toNat := by
        omega
      have hsnd : (a.toNat % 4 * 16 + b.toNat / 16) % 16 * 16 + b.toNat % 16 * 4 / 4 =
          b.toNat := by
        omega
      rw [encode, scan_digit (by omega), scan_digit (by omega), scan_digit (by omega)]
      simp only [Scan.push, hfst, hsnd, UInt8.ofNat_toNat]
      simp [scan]
  | a :: b :: c :: rest, out => by
      have ha := a.toNat_lt
      have hb := b.toNat_lt
      have hc := c.toNat_lt
      have hfst : a.toNat / 4 * 4 + (a.toNat % 4 * 16 + b.toNat / 16) / 16 = a.toNat := by
        omega
      have hsnd : (a.toNat % 4 * 16 + b.toNat / 16) % 16 * 16 +
          (b.toNat % 16 * 4 + c.toNat / 64) / 4 = b.toNat := by
        omega
      have htrd : (b.toNat % 16 * 4 + c.toNat / 64) % 4 * 64 + c.toNat % 64 = c.toNat := by
        omega
      rw [encode, scan_digit (by omega), scan_digit (by omega), scan_digit (by omega),
        scan_digit (by omega)]
      simp only [Scan.push, hfst, hsnd, htrd, UInt8.ofNat_toNat]
      rw [scan_encode rest]
      simp

theorem encode_isAscii : ∀ bytes : List UInt8, ∀ c ∈ encode bytes, c.toNat < 128
  | [] => by simp [encode]
  | [a] => by
      have ha := a.toNat_lt
      simp only [encode, List.forall_mem_cons]
      refine ⟨digit_isAscii _ (by omega), digit_isAscii _ (by omega), by decide,
        by decide, ?_⟩
      simp
  | [a, b] => by
      have ha := a.toNat_lt
      have hb := b.toNat_lt
      simp only [encode, List.forall_mem_cons]
      refine ⟨digit_isAscii _ (by omega), digit_isAscii _ (by omega),
        digit_isAscii _ (by omega), by decide, ?_⟩
      simp
  | a :: b :: c :: rest => by
      have ha := a.toNat_lt
      have hb := b.toNat_lt
      have hc := c.toNat_lt
      simp only [encode, List.forall_mem_cons]
      exact ⟨digit_isAscii _ (by omega), digit_isAscii _ (by omega),
        digit_isAscii _ (by omega), digit_isAscii _ (by omega), encode_isAscii rest⟩

/-- Decoding undoes encoding. -/
theorem b64decode_b64encode (bytes : List UInt8) :
    b64decode (b64encode bytes) = .ok bytes := by
  have hascii : ((b64encode bytes).toList.all fun c => c.toNat < 128) = true := by
    rw [b64encode, String.toList_ofList, List.all_eq_true]
    intro c hc
    exact decide_eq_true (encode_isAscii bytes c hc)
  rw [b64decode, if_pos hascii, b64encode, String.toList_ofList]
  exact scan_encode bytes []

end Base64
