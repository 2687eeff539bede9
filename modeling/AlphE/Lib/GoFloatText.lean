import AlphE.Lib.GoValues

/-!
How Go reads a floating-point number. `Sscanf` takes characters as long as they could
go on, and whatever follows is left alone; `ParseFloat` reads what was taken as a whole.
-/

namespace Go

/-! ### Characters that are taken -/

def oneOf (set : String) (c : Char) : Bool := set.toList.contains c

/-- One character of a set, where it comes next. -/
def accept (set : Char → Bool) : List Char → Bool × List Char
  | [] => (false, [])
  | c :: cs => if set c then (true, cs) else (false, c :: cs)

/-- One character after the other; those before the first that is missing stay taken. -/
def acceptAll : List (Char → Bool) → List Char → Bool × List Char
  | [], cs => (true, cs)
  | set :: sets, cs =>
      let (ok, rest) := accept set cs
      if ok then acceptAll sets rest else (false, rest)

def exponentRest (marks : String) (cs : List Char) : List Char :=
  let (mark, rest) := accept (oneOf marks) cs
  if mark then (accept (oneOf "+-") rest).2.dropWhile (oneOf "0123456789_") else rest

def fractionRest (digits : String) (cs : List Char) : List Char :=
  let (dot, rest) := accept (oneOf ".") cs
  if dot then rest.dropWhile (oneOf digits) else rest

def numberRest (cs : List Char) : List Char :=
  let (hex, rest) := acceptAll [oneOf "0", oneOf "xX"] cs
  let digits := if hex then "0123456789aAbBcCdDeEfF_" else "0123456789_"
  exponentRest (if hex then "pP" else "eEpP")
    (fractionRest digits (rest.dropWhile (oneOf digits)))

/-- What `floatToken` leaves. -/
def floatRest (cs : List Char) : List Char :=
  let (nan, rest) := acceptAll [oneOf "nN", oneOf "aA", oneOf "nN"] cs
  if nan then rest
  else
    let (inf, rest) := acceptAll [oneOf "iI", oneOf "nN", oneOf "fF"] (accept (oneOf "+-") rest).2
    if inf then rest else numberRest rest

/-- `floatToken`: what was taken stands in front of what is left. -/
def floatToken (cs : List Char) : List Char := cs.take (cs.length - (floatRest cs).length)

/-! ### Numbers -/

/-- A sign, and whether it is a minus. -/
def readSign : List Char → Bool × List Char
  | '+' :: cs => (false, cs)
  | '-' :: cs => (true, cs)
  | cs => (false, cs)

def hexDigitValue (c : Char) : ℕ :=
  if c.isDigit then c.toNat - 48 else if 97 ≤ c.toNat then c.toNat - 87 else c.toNat - 55

def isHexDigit (c : Char) : Bool :=
  c.isDigit || ('a' ≤ c && c ≤ 'f') || ('A' ≤ c && c ≤ 'F')

/-- The number that digits spell. -/
def digitsValue (base : ℕ) (cs : List Char) : ℕ :=
  cs.foldl (fun n c => n * base + hexDigitValue c) 0

/-- Underscores stand between digits, or behind the prefix of a base. -/
def underscoresFrom (hex : Bool) : Char → List Char → Bool
  | saw, [] => saw ≠ '_'
  | saw, c :: cs =>
      if c.isDigit || (hex && isHexDigit c) then underscoresFrom hex '0' cs
      else if c = '_' then saw = '0' && underscoresFrom hex '_' cs
      else saw ≠ '_' && underscoresFrom hex '!' cs

def underscoreOK (cs : List Char) : Bool :=
  match (readSign cs).2 with
  | '0' :: c :: rest =>
      if oneOf "xX" c then underscoresFrom true '0' rest
      else if oneOf "bBoO" c then underscoresFrom false '0' rest
      else underscoresFrom false '^' ('0' :: c :: rest)
  | rest => underscoresFrom false '^' rest

/-- The prefix of hexadecimal numbers, where something follows it. -/
def readBase : List Char → Bool × List Char
  | '0' :: x :: c :: cs => if oneOf "xX" x then (true, c :: cs) else (false, '0' :: x :: c :: cs)
  | cs => (false, cs)

/-- The whole part and the fraction, with underscores, and what follows them. -/
def readMantissa (isDigit : Char → Bool) (cs : List Char) : List Char × List Char × List Char :=
  let part := fun c => isDigit c || c = '_'
  match cs.dropWhile part with
  | '.' :: rest => (cs.takeWhile part, rest.takeWhile part, rest.dropWhile part)
  | rest => (cs.takeWhile part, [], rest)

/-- The exponent behind its mark: the first character has to be a digit. -/
def readExponent (cs : List Char) : Option ℤ :=
  match readSign cs with
  | (negative, d :: ds) =>
      if d.isDigit && ds.all fun c => c.isDigit || c = '_' then
        let value : ℤ := digitsValue 10 ((d :: ds).filter (· ≠ '_'))
        some (if negative then -value else value)
      else none
  | (_, []) => none

/-- What follows the mantissa; a hexadecimal number has an exponent. -/
def readTail (hex : Bool) : List Char → Option ℤ
  | [] => if hex then none else some 0
  | mark :: cs => if oneOf (if hex then "pP" else "eE") mark then readExponent cs else none

/-- The number a text spells, decimal or hexadecimal. -/
def readFloat (cs : List Char) : Option ℚ :=
  let (negative, body) := readSign cs
  let (hex, body) := readBase body
  let (whole, fraction, rest) := readMantissa (if hex then isHexDigit else Char.isDigit) body
  let whole := whole.filter (· ≠ '_')
  let fraction := fraction.filter (· ≠ '_')
  if whole ++ fraction = [] ∨ ('_' ∈ cs ∧ underscoreOK cs = false) then none
  else
    (readTail hex rest).map fun (e : ℤ) =>
      let mantissa : ℚ := digitsValue (if hex then 16 else 10) (whole ++ fraction)
      (if negative then -mantissa else mantissa) *
        (if hex then 2 ^ (e - 4 * fraction.length) else 10 ^ (e - fraction.length) : ℚ)

/-- Names of what is no finite number. -/
def special (cs : List Char) : Option Float64 :=
  let (negative, body) := readSign cs
  let lower := body.map Char.toLower
  if lower = "inf".toList ∨ lower = "infinity".toList then some (.inf negative)
  else if cs.map Char.toLower = "nan".toList then some .nan
  else none

/-- From here on a number is rounded to an infinity. -/
def floatLimit : ℚ := 2 ^ 1024 - 2 ^ 970

theorem lt_floatLimit : 128 < floatLimit := by
  have hsmall : (2 : ℚ) ^ 7 ≤ 2 ^ 970 := pow_le_pow_right₀ one_le_two (by decide)
  have hsplit : (2 : ℚ) ^ 1024 = 2 ^ 54 * 2 ^ 970 := by rw [← pow_add]
  rw [floatLimit, hsplit]
  generalize (2 : ℚ) ^ 970 = x at *
  norm_num at hsmall ⊢
  linarith only [hsmall]

section Parse

-- The number that rounding to a `float64` makes of one in range.
variable (nearest : ℚ → ℚ)

/-- `strconv.ParseFloat`. -/
def parseFloat (cs : List Char) : Option Float64 :=
  match readFloat cs with
  | some q => if |q| < floatLimit then some (.fin (nearest q)) else none
  | none => special cs

/-- `math.Ldexp`. -/
def ldexp (m : ℤ) : Float64 → Float64
  | .fin q =>
      if |q * 2 ^ m| < floatLimit then .fin (nearest (q * 2 ^ m)) else .inf (decide (q < 0))
  | f => f

/-- `convertFloat`: a decimal number may have a binary exponent. -/
def convertFloat (cs : List Char) : Option Float64 :=
  if 'p' ∈ cs ∧ 'x' ∉ cs ∧ 'X' ∉ cs then
    (parseFloat nearest (cs.takeWhile (· ≠ 'p'))).bind fun f =>
      (parseInt64 (String.ofList (cs.dropWhile (· ≠ 'p')).tail)).map fun m => ldexp nearest m f
  else parseFloat nearest cs

/-- `Sscanf(s, "%g", &f)`, for a text without a space. -/
def scanFloat (s : String) : Option Float64 := convertFloat nearest (floatToken s.toList)

end Parse

/-! ### Decimal literals -/

/-- Digits, and nothing else. -/
def Digits (cs : List Char) : Prop := ∀ c ∈ cs, c.isDigit = true

def signText : Option Bool → List Char
  | none => []
  | some false => ['+']
  | some true => ['-']

/-- The exponent of a literal, behind `e` or `E`. -/
structure Exponent where
  upper : Bool
  sign : Option Bool
  digits : List Char
  digits_digits : Digits digits
  digits_ne : digits ≠ []

/-- A decimal literal, with or without a fraction and an exponent. -/
structure Decimal where
  sign : Option Bool
  whole : List Char
  fraction : Option (List Char)
  exponent : Option Exponent
  whole_digits : Digits whole
  fraction_digits : ∀ ds ∈ fraction, Digits ds
  digits_ne : whole ++ fraction.getD [] ≠ []

def Exponent.text (e : Exponent) : List Char :=
  (if e.upper then 'E' else 'e') :: (signText e.sign ++ e.digits)

def Exponent.value (e : Exponent) : ℤ :=
  if e.sign = some true then -(digitsValue 10 e.digits : ℤ) else digitsValue 10 e.digits

def fractionText : Option (List Char) → List Char
  | none => []
  | some ds => '.' :: ds

def exponentText : Option Exponent → List Char
  | none => []
  | some e => e.text

namespace Decimal

variable (d : Decimal)

/-- The literal without its sign. -/
def body : List Char := d.whole ++ (fractionText d.fraction ++ exponentText d.exponent)

def text : List Char := signText d.sign ++ d.body

def value : ℚ :=
  let mantissa : ℚ := digitsValue 10 (d.whole ++ d.fraction.getD [])
  (if d.sign = some true then -mantissa else mantissa) *
    10 ^ ((d.exponent.map Exponent.value).getD 0 - (d.fraction.getD []).length)

end Decimal

/-- The characters of decimal literals. -/
def isNumeric (c : Char) : Bool := c.isDigit || oneOf "+-.eE" c

theorem isNumeric_of_mem_signText {sign : Option Bool} {c : Char} (h : c ∈ signText sign) :
    isNumeric c = true := by
  cases sign with
  | none => cases h
  | some negative =>
      cases negative with
      | false =>
          obtain rfl := List.mem_singleton.mp h
          rfl
      | true =>
          obtain rfl := List.mem_singleton.mp h
          rfl

theorem Digits.isNumeric {cs : List Char} (h : Digits cs) {c : Char} (hc : c ∈ cs) :
    isNumeric c = true := by
  rw [Go.isNumeric, h c hc, Bool.true_or]

theorem Exponent.isNumeric (e : Exponent) {c : Char} (h : c ∈ e.text) : isNumeric c = true := by
  rw [text, List.mem_cons, List.mem_append] at h
  rcases h with rfl | h | h
  · cases e.upper <;> rfl
  · exact isNumeric_of_mem_signText h
  · exact e.digits_digits.isNumeric h

theorem Decimal.isNumeric_of_mem_body (d : Decimal) {c : Char} (h : c ∈ d.body) :
    isNumeric c = true := by
  rw [body, List.mem_append, List.mem_append] at h
  rcases h with h | h | h
  · exact d.whole_digits.isNumeric h
  · cases hfraction : d.fraction with
    | none =>
        rw [hfraction] at h
        cases h
    | some ds =>
        rw [hfraction, fractionText, List.mem_cons] at h
        rcases h with rfl | h
        · rfl
        · exact (d.fraction_digits ds hfraction).isNumeric h
  · cases hexponent : d.exponent with
    | none =>
        rw [hexponent] at h
        cases h
    | some e =>
        rw [hexponent] at h
        exact e.isNumeric h

theorem Decimal.isNumeric_of_mem_text (d : Decimal) {c : Char} (h : c ∈ d.text) :
    isNumeric c = true := by
  rw [text, List.mem_append] at h
  exact h.elim isNumeric_of_mem_signText d.isNumeric_of_mem_body

/-! ### A literal is taken as a whole -/

theorem accept_of_head {set : Char → Bool} {cs : List Char} (h : ∀ c ∈ cs.head?, set c = false) :
    accept set cs = (false, cs) := by
  cases cs with
  | nil => rfl
  | cons c cs => rw [accept, if_neg (by simp [h c rfl])]

theorem acceptAll_of_head {set : Char → Bool} (sets : List (Char → Bool)) {cs : List Char}
    (h : ∀ c ∈ cs.head?, set c = false) : acceptAll (set :: sets) cs = (false, cs) := by
  simp only [acceptAll, accept_of_head h]
  rfl

theorem dropWhile_of_head {set : Char → Bool} {cs : List Char}
    (h : ∀ c ∈ cs.head?, set c = false) : cs.dropWhile set = cs := by
  cases cs with
  | nil => rfl
  | cons c cs => exact List.dropWhile_cons_of_neg (by simp [h c rfl])

theorem takeWhile_of_head {set : Char → Bool} {cs : List Char}
    (h : ∀ c ∈ cs.head?, set c = false) : cs.takeWhile set = [] := by
  cases cs with
  | nil => rfl
  | cons c cs => exact List.takeWhile_cons_of_neg (by simp [h c rfl])

/-- A character that is of one kind, while a set has no such character. -/
theorem oneOf_eq_false {set : String} {c : Char} {p : Char → Bool} (hc : p c = true)
    (hset : set.toList.all (fun d => !p d) = true) : oneOf set c = false := by
  rw [oneOf, Bool.eq_false_iff]
  intro hmem
  have hd := List.all_eq_true.mp hset c (List.contains_iff_mem.mp hmem)
  rw [hc] at hd
  cases hd

theorem head_exponentText {exponent : Option Exponent} :
    ∀ c ∈ (exponentText exponent).head?, c = 'e' ∨ c = 'E' := by
  cases exponent with
  | none => exact fun _ => nofun
  | some e =>
      intro c hc
      cases hc
      cases e.upper with
      | false => exact .inl rfl
      | true => exact .inr rfl

theorem head_fractionText {fraction : Option (List Char)} {exponent : Option Exponent} :
    ∀ c ∈ (fractionText fraction ++ exponentText exponent).head?, c = '.' ∨ c = 'e' ∨ c = 'E' := by
  cases fraction with
  | none => exact fun c hc => .inr (head_exponentText c hc)
  | some ds =>
      intro c hc
      cases hc
      exact .inl rfl

theorem Decimal.head_body (d : Decimal) : ∀ c ∈ d.body.head?, c.isDigit = true ∨ c = '.' := by
  intro c hc
  cases hwhole : d.whole with
  | cons a whole =>
      rw [body, hwhole, List.cons_append, List.head?_cons, Option.mem_some_iff] at hc
      subst hc
      exact .inl (d.whole_digits a (by rw [hwhole]; exact List.mem_cons_self))
  | nil =>
      cases hfraction : d.fraction with
      | none =>
          have hne := d.digits_ne
          rw [hwhole, hfraction] at hne
          exact absurd rfl hne
      | some ds =>
          rw [body, hwhole, hfraction] at hc
          cases hc
          exact .inr rfl

theorem Exponent.head_digits (e : Exponent) : ∀ c ∈ e.digits.head?, c.isDigit = true :=
  fun c hc => e.digits_digits c (List.mem_of_mem_head? hc)

/-- Behind a sign that is there or not stands what no sign begins. -/
theorem accept_signText (sign : Option Bool) {cs : List Char}
    (h : ∀ c ∈ cs.head?, c.isDigit = true ∨ c = '.') :
    (accept (oneOf "+-") (signText sign ++ cs)).2 = cs := by
  cases sign with
  | none =>
      have hhead : ∀ c ∈ cs.head?, oneOf "+-" c = false := by
        intro c hc
        rcases h c hc with hdigit | rfl
        · exact oneOf_eq_false hdigit (by decide)
        · rfl
      rw [signText, List.nil_append, accept_of_head hhead]
  | some negative => cases negative <;> rfl

theorem dropWhile_digits {set : String} {ds cs : List Char} (hds : Digits ds)
    (hset : ∀ c : Char, c.isDigit = true → oneOf set c = true)
    (hcs : ∀ c ∈ cs.head?, oneOf set c = false) : (ds ++ cs).dropWhile (oneOf set) = cs := by
  rw [List.dropWhile_append_of_pos fun c hc => hset c (hds c hc), dropWhile_of_head hcs]

theorem oneOf_digits {c : Char} (h : c.isDigit = true) : oneOf "0123456789_" c = true := by
  have hdigits : ∀ n < 58, 48 ≤ n → oneOf "0123456789_" (Char.ofNat n) = true := by decide
  simp only [Char.isDigit, Bool.and_eq_true, decide_eq_true_eq, ge_iff_le,
    UInt32.le_iff_toNat_le] at h
  have hc := hdigits c.toNat (Nat.lt_succ_of_le h.2) h.1
  rwa [Char.ofNat_toNat] at hc

theorem exponentRest_exponentText (exponent : Option Exponent) :
    exponentRest "eEpP" (exponentText exponent) = [] := by
  cases exponent with
  | none => rfl
  | some e =>
      have hmark : accept (oneOf "eEpP") e.text = (true, signText e.sign ++ e.digits) := by
        rw [Exponent.text]
        cases e.upper <;> rfl
      have hsign := accept_signText e.sign fun c hc => .inl (e.head_digits c hc)
      have hdigits : (e.digits ++ []).dropWhile (oneOf "0123456789_") = [] :=
        dropWhile_digits e.digits_digits (fun _ => oneOf_digits) nofun
      simp only [exponentRest, exponentText, hmark, hsign, if_true]
      rwa [List.append_nil] at hdigits

theorem fractionRest_fractionText (fraction : Option (List Char)) (exponent : Option Exponent)
    (hfraction : ∀ ds ∈ fraction, Digits ds) :
    fractionRest "0123456789_" (fractionText fraction ++ exponentText exponent) =
      exponentText exponent := by
  have hset : ∀ set : String, oneOf set 'e' = false → oneOf set 'E' = false →
      ∀ c ∈ (exponentText exponent).head?, oneOf set c = false := by
    intro set he hE c hc
    rcases head_exponentText c hc with rfl | rfl
    · exact he
    · exact hE
  cases fraction with
  | none =>
      simp only [fractionRest, fractionText, List.nil_append,
        accept_of_head (hset "." rfl rfl), Bool.false_eq_true, if_false]
  | some ds =>
      have hdot : accept (oneOf ".") ('.' :: (ds ++ exponentText exponent)) =
          (true, ds ++ exponentText exponent) := rfl
      simp only [fractionRest, fractionText, List.cons_append, hdot, if_true]
      exact dropWhile_digits (hfraction ds rfl) (fun _ => oneOf_digits) (hset _ rfl rfl)

/-- Without an `x` there is no prefix of a base, and a zero is a digit. -/
theorem numberRest_of_notMem {cs : List Char} (hx : ∀ c ∈ cs, oneOf "xX" c = false) :
    numberRest cs =
      exponentRest "eEpP" (fractionRest "0123456789_" (cs.dropWhile (oneOf "0123456789_"))) := by
  have hbase : ∃ rest, acceptAll [oneOf "0", oneOf "xX"] cs = (false, rest) ∧
      rest.dropWhile (oneOf "0123456789_") = cs.dropWhile (oneOf "0123456789_") := by
    by_cases hzero : ∃ rest, cs = '0' :: rest
    · obtain ⟨rest, rfl⟩ := hzero
      have haccept : accept (oneOf "0") ('0' :: rest) = (true, rest) := rfl
      have hhead : ∀ c ∈ rest.head?, oneOf "xX" c = false := fun c hc =>
        hx c (List.mem_cons_of_mem _ (List.mem_of_mem_head? hc))
      refine ⟨rest, ?_, ?_⟩
      · simp only [acceptAll, haccept, if_true, accept_of_head hhead]
        rfl
      · rw [List.dropWhile_cons_of_pos rfl]
    · refine ⟨cs, acceptAll_of_head _ fun c hc => ?_, rfl⟩
      cases cs with
      | nil => cases hc
      | cons a cs =>
          rw [List.head?_cons, Option.mem_some_iff] at hc
          subst hc
          rw [Bool.eq_false_iff]
          intro hmem
          have hmem' : a ∈ ['0'] := List.contains_iff_mem.mp hmem
          exact hzero ⟨cs, by rw [List.mem_singleton.mp hmem']⟩
  obtain ⟨rest, hrest, hdrop⟩ := hbase
  simp only [numberRest, hrest, Bool.false_eq_true, if_false, hdrop]

namespace Decimal

variable (d : Decimal)

theorem oneOf_text {set : String} (hset : set.toList.all (fun c => !isNumeric c) = true) :
    ∀ c ∈ d.text, oneOf set c = false :=
  fun _ hc => oneOf_eq_false (d.isNumeric_of_mem_text hc) hset

theorem oneOf_body {set : String} (hset : set.toList.all (fun c => !isNumeric c) = true) :
    ∀ c ∈ d.body, oneOf set c = false :=
  fun _ hc => oneOf_eq_false (d.isNumeric_of_mem_body hc) hset

theorem numberRest_body : numberRest d.body = [] := by
  have htail : ∀ c ∈ (fractionText d.fraction ++ exponentText d.exponent).head?,
      oneOf "0123456789_" c = false := by
    intro c hc
    rcases head_fractionText c hc with rfl | rfl | rfl <;> rfl
  rw [numberRest_of_notMem (d.oneOf_body (by decide)), body,
    dropWhile_digits d.whole_digits (fun _ => oneOf_digits) htail,
    fractionRest_fractionText _ _ d.fraction_digits, exponentRest_exponentText]

/-- Nothing of a literal is left. -/
theorem floatToken_text : floatToken d.text = d.text := by
  have hnan : acceptAll [oneOf "nN", oneOf "aA", oneOf "nN"] d.text = (false, d.text) :=
    acceptAll_of_head _ fun c hc => d.oneOf_text (by decide) c (List.mem_of_mem_head? hc)
  have hinf : acceptAll [oneOf "iI", oneOf "nN", oneOf "fF"] d.body = (false, d.body) :=
    acceptAll_of_head _ fun c hc => d.oneOf_body (by decide) c (List.mem_of_mem_head? hc)
  have hsign : (accept (oneOf "+-") d.text).2 = d.body := accept_signText d.sign d.head_body
  have hrest : floatRest d.text = [] := by
    simp only [floatRest, hnan, hsign, hinf, Bool.false_eq_true, if_false, d.numberRest_body]
  rw [floatToken, hrest, List.length_nil, Nat.sub_zero, List.take_length]

end Decimal

/-! ### A literal is read as its value -/

theorem readSign_signText (sign : Option Bool) {cs : List Char}
    (h : ∀ c ∈ cs.head?, c.isDigit = true ∨ c = '.') :
    readSign (signText sign ++ cs) = (decide (sign = some true), cs) := by
  cases sign with
  | some negative => cases negative <;> rfl
  | none =>
      cases cs with
      | nil => rfl
      | cons c cs =>
          have hplus : c ≠ '+' := by
            rintro rfl
            exact absurd (h _ rfl) (by decide)
          have hminus : c ≠ '-' := by
            rintro rfl
            exact absurd (h _ rfl) (by decide)
          rw [signText, List.nil_append, readSign]
          · rfl
          · exact fun _ heq => hplus (List.cons.inj heq).1
          · exact fun _ heq => hminus (List.cons.inj heq).1

theorem filter_digits {ds : List Char} (h : Digits ds) : ds.filter (· ≠ '_') = ds := by
  rw [List.filter_eq_self]
  intro c hc
  have hne : c ≠ '_' := by
    rintro rfl
    exact absurd (h _ hc) (by decide)
  simpa using hne

namespace Decimal

variable (d : Decimal)

theorem readBase_body : readBase d.body = (false, d.body) := by
  have hx := d.oneOf_body (by decide : "xX".toList.all (fun c => !isNumeric c) = true)
  generalize d.body = cs at *
  rw [readBase.eq_def]
  split
  · next x c rest =>
      have hnot : ¬ oneOf "xX" x = true := by simp [hx x (by simp)]
      rw [if_neg hnot]
  · rfl

theorem readMantissa_body :
    readMantissa Char.isDigit d.body =
      (d.whole, d.fraction.getD [], exponentText d.exponent) := by
  have hpart : ∀ {ds : List Char}, Digits ds → ∀ c ∈ ds, (c.isDigit || c = '_') = true := by
    intro ds hds c hc
    rw [hds c hc, Bool.true_or]
  have htake : ∀ {ds cs : List Char}, Digits ds → (∀ c ∈ cs.head?, (c.isDigit || c = '_') = false) →
      (ds ++ cs).takeWhile (fun c => c.isDigit || c = '_') = ds ∧
        (ds ++ cs).dropWhile (fun c => c.isDigit || c = '_') = cs := by
    intro ds cs hds hcs
    rw [List.takeWhile_append_of_pos (hpart hds), List.dropWhile_append_of_pos (hpart hds),
      dropWhile_of_head hcs, takeWhile_of_head hcs, List.append_nil]
    exact ⟨rfl, rfl⟩
  have hexponent : ∀ c ∈ (exponentText d.exponent).head?, (c.isDigit || c = '_') = false := by
    intro c hc
    rcases head_exponentText c hc with rfl | rfl <;> rfl
  have hrest : ∀ c ∈ (fractionText d.fraction ++ exponentText d.exponent).head?,
      (c.isDigit || c = '_') = false := by
    intro c hc
    rcases head_fractionText c hc with rfl | rfl | rfl <;> rfl
  obtain ⟨hwhole, hbehind⟩ := htake d.whole_digits hrest
  simp only [readMantissa, body, hwhole, hbehind]
  cases hfraction : d.fraction with
  | none =>
      -- What follows is the exponent, which has no point.
      cases hexp : d.exponent with
      | none => rfl
      | some e =>
          cases hupper : e.upper <;> simp [fractionText, exponentText, Exponent.text, hupper]
  | some ds =>
      obtain ⟨hds, hbehind⟩ := htake (d.fraction_digits ds hfraction) hexponent
      simp only [fractionText, List.cons_append, hds, hbehind, Option.getD_some]

theorem readTail_exponentText (exponent : Option Exponent) :
    readTail false (exponentText exponent) =
      some ((exponent.map Exponent.value).getD 0) := by
  cases exponent with
  | none => rfl
  | some e =>
      have hmark : readTail false e.text = readExponent (signText e.sign ++ e.digits) := by
        rw [Exponent.text]
        cases e.upper <;> rfl
      have hsign := readSign_signText e.sign fun c hc => .inl (e.head_digits c hc)
      rw [exponentText, hmark, readExponent, hsign]
      cases hdigits : e.digits with
      | nil => exact absurd hdigits e.digits_ne
      | cons c ds =>
          have hall := e.digits_digits
          rw [hdigits] at hall
          obtain ⟨hc, hds⟩ := List.forall_mem_cons.mp hall
          have hrest : (ds.all fun c => c.isDigit || c = '_') = true := by
            rw [List.all_eq_true]
            intro c hc
            rw [hds c hc, Bool.true_or]
          simp only [hc, hrest, Bool.and_self, if_true, filter_digits hall, decide_eq_true_eq,
            Option.map_some, Option.getD_some, Exponent.value, hdigits]

theorem readFloat_text : readFloat d.text = some d.value := by
  have hsign : readSign d.text = (decide (d.sign = some true), d.body) :=
    readSign_signText d.sign d.head_body
  have hunderscore : '_' ∉ d.text := fun hmem => absurd (d.isNumeric_of_mem_text hmem) (by decide)
  have hfraction : Digits (d.fraction.getD []) := by
    cases hfraction : d.fraction with
    | none => exact fun _ => nofun
    | some ds => exact d.fraction_digits ds hfraction
  have hnone : ¬ (d.whole ++ d.fraction.getD [] = [] ∨
      ('_' ∈ d.text ∧ underscoreOK d.text = false)) := by
    rintro (hempty | ⟨hmem, -⟩)
    · exact d.digits_ne hempty
    · exact hunderscore hmem
  simp only [readFloat, hsign, d.readBase_body, Bool.false_eq_true, if_false,
    d.readMantissa_body, filter_digits d.whole_digits, filter_digits hfraction]
  rw [if_neg hnone, readTail_exponentText]
  simp only [Option.map_some, value, decide_eq_true_eq]

/-- A literal is its value, rounded, unless the value is out of range. -/
theorem convertFloat_text (nearest : ℚ → ℚ) :
    convertFloat nearest d.text =
      if |d.value| < floatLimit then some (.fin (nearest d.value)) else none := by
  have hp : ¬ ('p' ∈ d.text ∧ 'x' ∉ d.text ∧ 'X' ∉ d.text) := fun h =>
    absurd (d.isNumeric_of_mem_text h.1) (by decide)
  rw [convertFloat, if_neg hp, parseFloat, d.readFloat_text]

theorem scanFloat_text (nearest : ℚ → ℚ) :
    scanFloat nearest (String.ofList d.text) =
      if |d.value| < floatLimit then some (.fin (nearest d.value)) else none := by
  rw [scanFloat, String.toList_ofList, d.floatToken_text, d.convertFloat_text]

end Decimal

end Go
