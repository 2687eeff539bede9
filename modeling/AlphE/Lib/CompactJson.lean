import Mathlib.Data.String.Basic
import Mathlib.Data.List.Sort
import Mathlib.Tactic.SplitIfs
import AlphE.Lib.Hex

/-!
Compact JSON text, `json.dumps(_, separators=(",", ":"), ensure_ascii=True)`,
and its canonical form, with `sort_keys=True` on top. Strings are sequences of
Unicode scalar values.

The main facts are that the text determines the document (`render_injective`)
and that two documents have one canonical form exactly when they differ by the
order of object members (`sortKeys_obj_eq_iff` at one level). The text is
handled as a list of characters. Every lemma about it is a cancellation law:
from `render a ++ s = render b ++ t` conclude `a = b` and `s = t`, so that no
parser is needed.
-/

namespace CompactJson

/-- A JSON document whose numbers are integers. Object members are kept in
order, and nothing keeps a key from occurring twice. -/
inductive Json
  | null
  | bool (b : Bool)
  | int (n : Int)
  | str (s : String)
  | arr (elems : List Json)
  | obj (members : List (String × Json))

/-! ### Strings -/

/-- `ESCAPE_DCT`: the characters with an escape of two characters. -/
def shortEscape (c : Char) : Option Char :=
  if c = '"' then some '"'
  else if c = '\\' then some '\\'
  else if c = '\n' then some 'n'
  else if c = '\r' then some 'r'
  else if c = '\t' then some 't'
  else if c = '\x0c' then some 'f'
  else if c = '\x08' then some 'b'
  else none

/-- `'\\u{0:04x}'.format(n)`. -/
def unicodeEscape (n : ℕ) : List Char := '\\' :: 'u' :: Hex.padded 4 n

/-- A character between the quotes of a string literal. What lies outside the
range from the blank to the tilde is written by its UTF-16 code units. -/
def escapeChar (c : Char) : List Char :=
  match shortEscape c with
  | some e => ['\\', e]
  | none =>
      if 0x20 ≤ c.toNat ∧ c.toNat ≤ 0x7e then [c]
      else if c.toNat < 0x10000 then unicodeEscape c.toNat
      else
        let n := c.toNat - 0x10000
        unicodeEscape (0xd800 + n / 0x400) ++ unicodeEscape (0xdc00 + n % 0x400)

/-- What the escape of a character looks like. -/
theorem escapeChar_cases (c : Char) :
    (∃ e, shortEscape c = some e ∧ escapeChar c = ['\\', e]) ∨
    (c ≠ '\\' ∧ c ≠ '"' ∧ escapeChar c = [c]) ∨
    (c.toNat < 0xd800 ∨ 0xdfff < c.toNat) ∧ c.toNat < 0x10000 ∧
      escapeChar c = unicodeEscape c.toNat ∨
    (0x10000 ≤ c.toNat ∧ c.toNat < 0x110000 ∧
      escapeChar c = unicodeEscape (0xd800 + (c.toNat - 0x10000) / 0x400) ++
        unicodeEscape (0xdc00 + (c.toNat - 0x10000) % 0x400)) := by
  cases hshort : shortEscape c with
  | some e => exact .inl ⟨e, rfl, by simp [escapeChar, hshort]⟩
  | none =>
      right
      have hscalar : c.toNat < 0xd800 ∨ 0xdfff < c.toNat ∧ c.toNat < 0x110000 := c.valid
      have hne : c ≠ '\\' ∧ c ≠ '"' := by
        constructor <;> rintro rfl <;> cases hshort
      by_cases hplain : 0x20 ≤ c.toNat ∧ c.toNat ≤ 0x7e
      · exact .inl ⟨hne.1, hne.2, by simp [escapeChar, hshort, hplain]⟩
      · right
        by_cases hbmp : c.toNat < 0x10000
        · refine .inl ⟨by omega, hbmp, ?_⟩
          simp only [escapeChar, hshort, hplain, hbmp, if_false, if_true]
        · refine .inr ⟨by omega, by omega, ?_⟩
          simp only [escapeChar, hshort, hplain, hbmp, if_false]

theorem shortEscape_eq_some {c e : Char} (h : shortEscape c = some e) :
    (c, e) ∈ [('"', '"'), ('\\', '\\'), ('\n', 'n'), ('\r', 'r'), ('\t', 't'),
      ('\x0c', 'f'), ('\x08', 'b')] := by
  unfold shortEscape at h
  split_ifs at h <;> cases h <;> simp_all

theorem shortEscape_injOn {c d e : Char} (hc : shortEscape c = some e)
    (hd : shortEscape d = some e) : c = d := by
  have hc := shortEscape_eq_some hc
  have hd := shortEscape_eq_some hd
  simp only [List.mem_cons, Prod.mk.injEq, List.not_mem_nil, or_false] at hc hd
  rcases hc with hc | hc | hc | hc | hc | hc | hc <;>
    rcases hd with hd | hd | hd | hd | hd | hd | hd <;> simp_all

theorem shortEscape_ne_u {c : Char} : shortEscape c ≠ some 'u' := by
  intro h
  have h := shortEscape_eq_some h
  simp at h

theorem unicodeEscape_cancel {m n : ℕ} {s t : List Char} (hm : m < 0x10000)
    (hn : n < 0x10000) (h : unicodeEscape m ++ s = unicodeEscape n ++ t) :
    m = n ∧ s = t := by
  simp only [unicodeEscape, List.cons_append, List.cons.injEq, true_and] at h
  obtain ⟨hdigits, hrest⟩ := List.append_inj h (by simp)
  exact ⟨Hex.padded_injOn 4 hm hn hdigits, hrest⟩

/-- No escape is a prefix of another. The second character tells a short
escape from a code unit, and the first unit of a pair is a surrogate, which no
character of the basic plane is. -/
theorem escapeChar_cancel {c d : Char} {s t : List Char}
    (h : escapeChar c ++ s = escapeChar d ++ t) : c = d ∧ s = t := by
  have hofNat : c.toNat = d.toNat → c = d := fun heq => by
    rw [← Char.ofNat_toNat c, heq, Char.ofNat_toNat]
  have hshort := @shortEscape_ne_u
  rcases escapeChar_cases c with
    ⟨e, he, hc⟩ | ⟨hc₁, -, hc⟩ | ⟨hsurr, hbmp, hc⟩ | ⟨hlow, hhigh, hc⟩
  · rcases escapeChar_cases d with
      ⟨e', he', hd⟩ | ⟨hd₁, -, hd⟩ | ⟨-, -, hd⟩ | ⟨-, -, hd⟩
    · rw [hc, hd] at h
      injection h with _ h
      injection h with hee hst
      exact ⟨shortEscape_injOn he (hee ▸ he'), hst⟩
    · grind
    · grind [unicodeEscape]
    · grind [unicodeEscape]
  · rcases escapeChar_cases d with
      ⟨e', he', hd⟩ | ⟨hd₁, -, hd⟩ | ⟨-, -, hd⟩ | ⟨-, -, hd⟩
    · grind
    · rw [hc, hd] at h
      injection h with hcd hst
      exact ⟨hcd, hst⟩
    · grind [unicodeEscape]
    · grind [unicodeEscape]
  · rcases escapeChar_cases d with
      ⟨e', he', hd⟩ | ⟨hd₁, -, hd⟩ | ⟨hsurr', hbmp', hd⟩ | ⟨hlow', hhigh', hd⟩
    · grind [unicodeEscape]
    · grind [unicodeEscape]
    · rw [hc, hd] at h
      obtain ⟨hcode, hst⟩ := unicodeEscape_cancel hbmp hbmp' h
      exact ⟨hofNat hcode, hst⟩
    · -- A code unit against the first one of a pair, which is a surrogate.
      rw [hc, hd, List.append_assoc] at h
      obtain ⟨hcode, -⟩ := unicodeEscape_cancel hbmp (by omega) h
      omega
  · rcases escapeChar_cases d with
      ⟨e', he', hd⟩ | ⟨hd₁, -, hd⟩ | ⟨hsurr', hbmp', hd⟩ | ⟨hlow', hhigh', hd⟩
    · grind [unicodeEscape]
    · grind [unicodeEscape]
    · rw [hc, hd, List.append_assoc] at h
      obtain ⟨hcode, -⟩ := unicodeEscape_cancel (by omega) hbmp' h
      omega
    · rw [hc, hd, List.append_assoc, List.append_assoc] at h
      -- The two units are the quotient and the remainder of the code.
      obtain ⟨hhi, h⟩ := unicodeEscape_cancel (by omega) (by omega) h
      obtain ⟨hlo, hst⟩ := unicodeEscape_cancel (by omega) (by omega) h
      exact ⟨hofNat (by omega), hst⟩

def escape (cs : List Char) : List Char := cs.flatMap escapeChar

def renderStr (s : String) : List Char := '"' :: (escape s.toList ++ ['"'])

/-- An escape never starts with the quote that ends the literal. -/
theorem escapeChar_ne_quote (c : Char) (s t : List Char) :
    escapeChar c ++ s ≠ '"' :: t := by
  intro h
  rcases escapeChar_cases c with
    ⟨e, -, hc⟩ | ⟨-, hquote, hc⟩ | ⟨-, -, hc⟩ | ⟨-, -, hc⟩ <;>
    simp_all [unicodeEscape]

theorem escape_cancel {cs ds s t : List Char}
    (h : escape cs ++ '"' :: s = escape ds ++ '"' :: t) : cs = ds ∧ s = t := by
  induction cs generalizing ds with
  | nil =>
      cases ds with
      | nil => simpa [escape] using h
      | cons d ds =>
          simp only [escape, List.flatMap_nil, List.nil_append, List.flatMap_cons,
            List.append_assoc] at h
          exact absurd h.symm (escapeChar_ne_quote d _ _)
  | cons c cs ih =>
      cases ds with
      | nil =>
          simp only [escape, List.flatMap_nil, List.nil_append, List.flatMap_cons,
            List.append_assoc] at h
          exact absurd h (escapeChar_ne_quote c _ _)
      | cons d ds =>
          simp only [escape, List.flatMap_cons, List.append_assoc] at h
          obtain ⟨rfl, hrest⟩ := escapeChar_cancel h
          obtain ⟨rfl, hst⟩ := ih hrest
          exact ⟨rfl, hst⟩

theorem renderStr_cancel {a b : String} {s t : List Char}
    (h : renderStr a ++ s = renderStr b ++ t) : a = b ∧ s = t := by
  simp only [renderStr, List.cons_append, List.append_assoc, List.nil_append,
    List.cons.injEq, true_and] at h
  obtain ⟨hab, hst⟩ := escape_cancel h
  exact ⟨String.toList_inj.mp hab, hst⟩

/-! ### Numbers -/

def renderInt : Int → List Char
  | .ofNat n => Nat.toDigits 10 n
  | .negSucc n => '-' :: Nat.toDigits 10 (n + 1)

/-- What may follow a number: anything that is no digit. -/
def Delim (s : List Char) : Prop := ∀ c ∈ s.head?, c.isDigit = false

theorem delim_cons {c : Char} (s : List Char) (h : c.isDigit = false) :
    Delim (c :: s) := by
  intro d hd
  rw [List.head?_cons, Option.mem_some_iff] at hd
  exact hd ▸ h

theorem takeWhile_digits_append {ds s : List Char} (hds : ∀ c ∈ ds, c.isDigit)
    (hs : Delim s) : (ds ++ s).takeWhile Char.isDigit = ds := by
  rw [List.takeWhile_append_of_pos hds]
  cases s with
  | nil => simp
  | cons c s =>
      have hc : c.isDigit = false := hs c rfl
      simp [hc]

theorem isDigit_of_mem_toDigits_ten {n : ℕ} :
    ∀ c ∈ Nat.toDigits 10 n, c.isDigit := fun _ hc =>
  Nat.isDigit_of_mem_toDigits (by decide) (by decide) hc

theorem toDigits_cancel {m n : ℕ} {s t : List Char} (hs : Delim s) (ht : Delim t)
    (h : Nat.toDigits 10 m ++ s = Nat.toDigits 10 n ++ t) : m = n ∧ s = t := by
  have hdigits : Nat.toDigits 10 m = Nat.toDigits 10 n := by
    rw [← takeWhile_digits_append isDigit_of_mem_toDigits_ten hs, h,
      takeWhile_digits_append isDigit_of_mem_toDigits_ten ht]
  rw [hdigits] at h
  refine ⟨?_, List.append_cancel_left h⟩
  rw [← Nat.ofDigitChars_ten_toDigits (n := m), hdigits, Nat.ofDigitChars_ten_toDigits]

theorem toDigits_ne_minus (n : ℕ) (s t : List Char) :
    Nat.toDigits 10 n ++ s ≠ '-' :: t := by
  intro h
  cases hd : Nat.toDigits 10 n with
  | nil => exact Nat.toDigits_ne_nil hd
  | cons c cs =>
      rw [hd, List.cons_append] at h
      injection h with hc
      have hdigit : c.isDigit :=
        isDigit_of_mem_toDigits_ten c (hd ▸ List.mem_cons_self)
      rw [hc] at hdigit
      exact absurd hdigit (by decide)

theorem renderInt_cancel {m n : Int} {s t : List Char} (hs : Delim s) (ht : Delim t)
    (h : renderInt m ++ s = renderInt n ++ t) : m = n ∧ s = t := by
  cases m with
  | ofNat m =>
      cases n with
      | ofNat n =>
          obtain ⟨rfl, hst⟩ := toDigits_cancel hs ht h
          exact ⟨rfl, hst⟩
      | negSucc n => exact absurd h (toDigits_ne_minus m _ _)
  | negSucc m =>
      cases n with
      | ofNat n => exact absurd h.symm (toDigits_ne_minus n _ _)
      | negSucc n =>
          injection h with _ h
          obtain ⟨hmn, hst⟩ := toDigits_cancel hs ht h
          exact ⟨by rw [Nat.succ.inj hmn], hst⟩

/-! ### Documents -/

mutual

def render : Json → List Char
  | .null => ['n', 'u', 'l', 'l']
  | .bool true => ['t', 'r', 'u', 'e']
  | .bool false => ['f', 'a', 'l', 's', 'e']
  | .int n => renderInt n
  | .str s => renderStr s
  | .arr [] => ['[', ']']
  | .arr (x :: xs) => '[' :: (render x ++ renderElems xs)
  | .obj [] => ['{', '}']
  | .obj ((k, x) :: ms) => '{' :: (renderStr k ++ ':' :: (render x ++ renderMembers ms))

/-- The elements after the first, and the closing bracket. -/
def renderElems : List Json → List Char
  | [] => [']']
  | x :: xs => ',' :: (render x ++ renderElems xs)

/-- The members after the first, and the closing brace. -/
def renderMembers : List (String × Json) → List Char
  | [] => ['}']
  | (k, x) :: ms => ',' :: (renderStr k ++ ':' :: (render x ++ renderMembers ms))

end

/-! ### The text determines the document -/

inductive Kind
  | null | bool | int | str | arr | obj
  deriving DecidableEq

def Json.kind : Json → Kind
  | .null => .null
  | .bool _ => .bool
  | .int _ => .int
  | .str _ => .str
  | .arr _ => .arr
  | .obj _ => .obj

/-- The kind of a document, by the first character of its text. -/
def kindOf (c : Char) : Option Kind :=
  if c = 'n' then some .null
  else if c = 't' ∨ c = 'f' then some .bool
  else if c = '"' then some .str
  else if c = '[' then some .arr
  else if c = '{' then some .obj
  else if c = '-' ∨ c.isDigit then some .int
  else none

theorem kindOf_digit {c : Char} (h : c.isDigit) : kindOf c = some .int := by
  have hne : ∀ d : Char, d.isDigit = false → c ≠ d := by
    rintro d hd rfl
    rw [hd] at h
    cases h
  simp [kindOf, h, hne]

theorem exists_renderInt_eq (n : Int) :
    ∃ c r, renderInt n = c :: r ∧ kindOf c = some .int := by
  cases n with
  | negSucc n => exact ⟨'-', _, rfl, by decide⟩
  | ofNat n =>
      cases hd : Nat.toDigits 10 n with
      | nil => exact absurd hd Nat.toDigits_ne_nil
      | cons c r =>
          refine ⟨c, r, hd, kindOf_digit ?_⟩
          exact isDigit_of_mem_toDigits_ten c (hd ▸ List.mem_cons_self)

theorem exists_render_eq (a : Json) :
    ∃ c r, render a = c :: r ∧ kindOf c = some a.kind := by
  cases a with
  | null => exact ⟨_, _, by rw [render], by decide⟩
  | bool b => cases b <;> exact ⟨_, _, by rw [render], by decide⟩
  | int n =>
      obtain ⟨c, r, hr, hk⟩ := exists_renderInt_eq n
      exact ⟨c, r, by rw [render, hr], hk⟩
  | str s => exact ⟨_, _, by rw [render, renderStr], rfl⟩
  | arr xs => cases xs <;> exact ⟨_, _, by rw [render], rfl⟩
  | obj ms =>
      cases ms with
      | nil => exact ⟨_, _, by rw [render], rfl⟩
      | cons m ms => exact ⟨_, _, by rw [render], rfl⟩

theorem kind_eq_of_render {a b : Json} {s t : List Char}
    (h : render a ++ s = render b ++ t) : a.kind = b.kind := by
  obtain ⟨c, r, ha, hca⟩ := exists_render_eq a
  obtain ⟨d, q, hb, hdb⟩ := exists_render_eq b
  rw [ha, hb, List.cons_append, List.cons_append] at h
  injection h with hcd
  rw [hcd, hdb] at hca
  exact (Option.some.inj hca).symm

/-- No document starts with a character that opens none. -/
theorem render_ne_cons (a : Json) (s t : List Char) {c : Char} (hc : kindOf c = none) :
    render a ++ s ≠ c :: t := by
  intro h
  obtain ⟨d, r, ha, hd⟩ := exists_render_eq a
  rw [ha, List.cons_append] at h
  injection h with hdc
  rw [hdc, hc] at hd
  cases hd

theorem renderStr_ne_brace (k : String) (s t : List Char) :
    renderStr k ++ s ≠ '}' :: t := by
  simp [renderStr]

theorem delim_renderElems (xs : List Json) (s : List Char) :
    Delim (renderElems xs ++ s) := by
  cases xs <;> exact delim_cons _ (by decide)

theorem delim_renderMembers (ms : List (String × Json)) (s : List Char) :
    Delim (renderMembers ms ++ s) := by
  cases ms <;> exact delim_cons _ (by decide)

mutual

/-- **Cancellation.** A document followed by something that does not continue
a number is read off the front of the text in one way only. -/
theorem render_cancel : ∀ (a b : Json) {s t : List Char}, Delim s → Delim t →
    render a ++ s = render b ++ t → a = b ∧ s = t
  | .null, b, s, t, _, _, h => by
      have hkind := kind_eq_of_render h
      cases b <;> cases hkind
      exact ⟨rfl, List.append_cancel_left h⟩
  | .bool x, b, s, t, _, _, h => by
      have hkind := kind_eq_of_render h
      cases b <;> cases hkind
      next y => cases x <;> cases y <;> simp_all [render]
  | .int m, b, s, t, hs, ht, h => by
      have hkind := kind_eq_of_render h
      cases b <;> cases hkind
      next n =>
        rw [render, render] at h
        obtain ⟨rfl, hst⟩ := renderInt_cancel hs ht h
        exact ⟨rfl, hst⟩
  | .str x, b, s, t, _, _, h => by
      have hkind := kind_eq_of_render h
      cases b <;> cases hkind
      next y =>
        rw [render, render] at h
        obtain ⟨rfl, hst⟩ := renderStr_cancel h
        exact ⟨rfl, hst⟩
  | .arr [], b, s, t, _, _, h => by
      have hkind := kind_eq_of_render h
      cases b <;> cases hkind
      next ys =>
        cases ys with
        | nil => exact ⟨rfl, List.append_cancel_left h⟩
        | cons y ys =>
            -- The empty array goes on with its bracket, which starts no element.
            simp only [render, List.cons_append, List.append_assoc, List.cons.injEq,
              true_and] at h
            exact absurd h.symm (render_ne_cons y _ _ (by decide))
  | .arr (x :: xs), b, s, t, _, _, h => by
      have hkind := kind_eq_of_render h
      cases b <;> cases hkind
      next ys =>
        cases ys with
        | nil =>
            simp only [render, List.cons_append, List.append_assoc, List.cons.injEq,
              true_and] at h
            exact absurd h (render_ne_cons x _ _ (by decide))
        | cons y ys =>
            -- What follows an element is a comma or the bracket, so no number
            -- runs on into it.
            simp only [render, List.cons_append, List.append_assoc, List.cons.injEq,
              true_and] at h
            obtain ⟨rfl, hrest⟩ := render_cancel x y (delim_renderElems xs s)
              (delim_renderElems ys t) h
            obtain ⟨rfl, hst⟩ := renderElems_cancel xs ys hrest
            exact ⟨rfl, hst⟩
  | .obj [], b, s, t, _, _, h => by
      have hkind := kind_eq_of_render h
      cases b <;> cases hkind
      next ns =>
        cases ns with
        | nil => exact ⟨rfl, List.append_cancel_left h⟩
        | cons n ns =>
            -- A brace against the quote that opens a key.
            simp only [render, List.cons_append, List.append_assoc, List.cons.injEq,
              true_and] at h
            exact absurd h.symm (renderStr_ne_brace n.1 _ _)
  | .obj ((k, x) :: ms), b, s, t, _, _, h => by
      have hkind := kind_eq_of_render h
      cases b <;> cases hkind
      next ns =>
        rcases ns with _ | ⟨⟨j, y⟩, ns⟩
        · simp only [render, List.cons_append, List.append_assoc, List.cons.injEq,
            true_and] at h
          exact absurd h (renderStr_ne_brace k _ _)
        · simp only [render, List.cons_append, List.append_assoc, List.cons.injEq,
            true_and] at h
          obtain ⟨rfl, hmember⟩ := renderStr_cancel h
          rw [List.cons.injEq] at hmember
          obtain ⟨rfl, hrest⟩ := render_cancel x y (delim_renderMembers ms s)
            (delim_renderMembers ns t) hmember.2
          obtain ⟨rfl, hst⟩ := renderMembers_cancel ms ns hrest
          exact ⟨rfl, hst⟩

theorem renderElems_cancel : ∀ (xs ys : List Json) {s t : List Char},
    renderElems xs ++ s = renderElems ys ++ t → xs = ys ∧ s = t
  | [], [], s, t, h => ⟨rfl, List.append_cancel_left h⟩
  | [], y :: ys, s, t, h => by simp [renderElems] at h
  | x :: xs, [], s, t, h => by simp [renderElems] at h
  | x :: xs, y :: ys, s, t, h => by
      simp only [renderElems, List.cons_append, List.append_assoc, List.cons.injEq,
        true_and] at h
      obtain ⟨rfl, hrest⟩ := render_cancel x y (delim_renderElems xs s)
        (delim_renderElems ys t) h
      obtain ⟨rfl, hst⟩ := renderElems_cancel xs ys hrest
      exact ⟨rfl, hst⟩

theorem renderMembers_cancel : ∀ (ms ns : List (String × Json)) {s t : List Char},
    renderMembers ms ++ s = renderMembers ns ++ t → ms = ns ∧ s = t
  | [], [], s, t, h => ⟨rfl, List.append_cancel_left h⟩
  | [], (j, y) :: ns, s, t, h => by simp [renderMembers] at h
  | (k, x) :: ms, [], s, t, h => by simp [renderMembers] at h
  | (k, x) :: ms, (j, y) :: ns, s, t, h => by
      simp only [renderMembers, List.cons_append, List.append_assoc, List.cons.injEq,
        true_and] at h
      obtain ⟨rfl, hmember⟩ := renderStr_cancel h
      rw [List.cons.injEq] at hmember
      obtain ⟨rfl, hrest⟩ := render_cancel x y (delim_renderMembers ms s)
        (delim_renderMembers ns t) hmember.2
      obtain ⟨rfl, hst⟩ := renderMembers_cancel ms ns hrest
      exact ⟨rfl, hst⟩

end

theorem render_injective : Function.Injective render := by
  intro a b h
  have hnil : Delim [] := by
    intro c hc
    cases hc
  exact (render_cancel a b hnil hnil (by rw [h])).1

/-! ### The canonical form -/

/-- The order `sort_keys` sorts members by. -/
def KeyLe (p q : String × Json) : Prop := p.1 ≤ q.1

instance : DecidableRel KeyLe := fun p q => inferInstanceAs (Decidable (p.1 ≤ q.1))

instance : Std.Total KeyLe := ⟨fun p q => le_total p.1 q.1⟩

instance : IsTrans (String × Json) KeyLe := ⟨fun _ _ _ => le_trans⟩

mutual

/-- The document with the members of every object sorted by key. -/
def sortKeys : Json → Json
  | .arr xs => .arr (sortElems xs)
  | .obj ms => .obj ((sortMembers ms).insertionSort KeyLe)
  | .null => .null
  | .bool b => .bool b
  | .int n => .int n
  | .str s => .str s

def sortElems : List Json → List Json
  | [] => []
  | x :: xs => sortKeys x :: sortElems xs

def sortMembers : List (String × Json) → List (String × Json)
  | [] => []
  | (k, x) :: ms => (k, sortKeys x) :: sortMembers ms

end

/-- `json.dumps(x, sort_keys=True, separators=(",", ":"), ensure_ascii=True)`. -/
def dumps (x : Json) : String := String.ofList (render (sortKeys x))

theorem dumps_eq_iff (a b : Json) : dumps a = dumps b ↔ sortKeys a = sortKeys b := by
  rw [dumps, dumps, String.ofList_inj, render_injective.eq_iff]

theorem sortMembers_eq_map (ms : List (String × Json)) :
    sortMembers ms = ms.map fun p => (p.1, sortKeys p.2) := by
  induction ms with
  | nil => rfl
  | cons m ms ih => rw [sortMembers, ih, List.map_cons]

@[simp] theorem map_fst_sortMembers (ms : List (String × Json)) :
    (sortMembers ms).map Prod.fst = ms.map Prod.fst := by
  rw [sortMembers_eq_map, List.map_map]
  rfl

/-- Sorting forgets the order of the members and nothing else: as the keys are
distinct there is one sorted arrangement. -/
theorem sortKeys_obj_eq_iff {ms ns : List (String × Json)}
    (hms : (ms.map Prod.fst).Nodup) :
    sortKeys (.obj ms) = sortKeys (.obj ns) ↔
      (sortMembers ms).Perm (sortMembers ns) := by
  rw [sortKeys, sortKeys, Json.obj.injEq]
  have hsorted := List.pairwise_insertionSort KeyLe
  have hperm := List.perm_insertionSort KeyLe
  constructor
  · intro h
    exact (hperm _).symm.trans (h ▸ hperm _)
  · intro h
    have hsort := (hperm (sortMembers ms)).trans (h.trans (hperm (sortMembers ns)).symm)
    refine hsort.eq_of_pairwise ?_ (hsorted _) (hsorted _)
    intro p q hp hq hpq hqp
    have hkey : p.1 = q.1 := le_antisymm hpq hqp
    have hnodup : ((sortMembers ms).map Prod.fst).Nodup := by
      rwa [map_fst_sortMembers]
    have hp' := (hperm _).mem_iff.mp hp
    have hq' := h.mem_iff.mpr ((hperm _).mem_iff.mp hq)
    exact List.inj_on_of_nodup_map hnodup hp' hq' hkey

theorem eq_of_perm_of_keys_eq : ∀ {ms ns : List (String × Json)},
    (ms.map Prod.fst).Nodup → ms.map Prod.fst = ns.map Prod.fst → ms.Perm ns → ms = ns
  | [], ns, _, _, h => h.nil_eq
  | (k, x) :: ms, [], _, _, h => absurd h.length_eq (by simp)
  | (k, x) :: ms, (j, y) :: ns, hnodup, hkeys, h => by
      rw [List.map_cons, List.map_cons, List.cons.injEq] at hkeys
      obtain ⟨rfl, hkeys⟩ : k = j ∧ _ := hkeys
      rw [List.map_cons, List.nodup_cons] at hnodup
      have hmem : (k, x) ∈ (k, y) :: ns := h.mem_iff.mp List.mem_cons_self
      rcases List.mem_cons.mp hmem with hxy | hmem
      · cases hxy
        rw [eq_of_perm_of_keys_eq hnodup.2 hkeys h.cons_inv]
      · have hk : k ∈ ns.map Prod.fst := List.mem_map.mpr ⟨_, hmem, rfl⟩
        exact absurd (hkeys ▸ hk) hnodup.1

/-- Objects written with the same keys in the same order have one canonical
form when their members agree. -/
theorem sortKeys_obj_eq_iff_of_keys_eq {ms ns : List (String × Json)}
    (hms : (ms.map Prod.fst).Nodup) (hkeys : ms.map Prod.fst = ns.map Prod.fst) :
    sortKeys (.obj ms) = sortKeys (.obj ns) ↔ sortMembers ms = sortMembers ns := by
  rw [sortKeys_obj_eq_iff hms]
  constructor
  · apply eq_of_perm_of_keys_eq
    · rwa [map_fst_sortMembers]
    · rwa [map_fst_sortMembers, map_fst_sortMembers]
  · intro h
    rw [h]

end CompactJson
