import AlphE.Lib.GoText
import AlphE.Lib.JsonScan

/-!
What Go writes, before the JSON scanner. The strings of `encoding/json` are values
always; the verb `%q` writes Go's own escapes, which JSON shares in part, and
writes a slice without commas.
-/

namespace Go

open JsonScan

/-! ### JSON documents -/

/-- `json.Valid`, as far as nothing is nested too deep for it. A byte of no rune may
stand in a string. -/
def jsonValid (bs : GoString) : Prop := Accepts (bs.map Piece.toRune)

instance (bs : GoString) : Decidable (jsonValid bs) :=
  inferInstanceAs (Decidable (Accepts _))

/-- A JSON document is text. -/
structure IsJson (bs : GoString) : Prop where
  text : validUtf8 bs = true
  valid : jsonValid bs

theorem jsonValid_ne_nil {bs : GoString} (h : jsonValid bs) : bs ≠ [] := by
  rintro rfl
  exact absurd h (by decide)

theorem isJson_utf8_iff {s : String} {ok : Bool} (h : Value s.toList ok) :
    IsJson (utf8 s) ↔ ok = true := by
  have hvalid : jsonValid (utf8 s) ↔ ok = true := by
    rw [jsonValid, utf8, List.map_map]
    exact (List.map_id s.toList).symm ▸ h.accepts_iff
  exact ⟨fun hjson => hvalid.mp hjson.valid,
    fun hok => ⟨validUtf8_utf8 s, hvalid.mpr hok⟩⟩

/-! ### The verb `%q` -/

theorem isHex_digitChar : ∀ k < 16, isHex (Nat.digitChar k) = true := by
  decide

theorem isHex_of_mem_padded {w n : ℕ} {d : Char} (h : d ∈ Hex.padded w n) :
    isHex d = true := by
  obtain ⟨k, hk, rfl⟩ := Hex.mem_padded h
  exact isHex_digitChar k hk

/-- What `%q` writes for a piece stands in a JSON string, too. -/
def jsonSafe (isPrint : Char → Bool) : Piece → Bool
  | .rune c =>
      if c.toNat < 0x20 then 8 ≤ c.toNat && c.toNat ≤ 13 && c.toNat ≠ 11
      else c.toNat ≠ 0x7f && (c.toNat < 0x10000 || isPrint c)
  | .stray _ => false

section Quote

variable (isPrint : Char → Bool)

theorem jsonSafe_rune_iff (c : Char) :
    jsonSafe isPrint (.rune c) = true ↔
      8 ≤ c.toNat ∧ c.toNat ≤ 13 ∧ c.toNat ≠ 11 ∨
        0x20 ≤ c.toNat ∧ c.toNat ≠ 0x7f ∧ (c.toNat < 0x10000 ∨ isPrint c = true) := by
  rw [jsonSafe]
  split
  · simp
    omega
  · simp
    grind

/-- JSON has no escapes for the bell and for the vertical tab. -/
theorem jsonSafe_of_escapeLetter {c letter : Char} (h : escapeLetter c = some letter) :
    jsonSafe isPrint (.rune c) = isEscape letter ∧ letter ≠ 'u' := by
  unfold escapeLetter at h
  split at h <;> cases h
  all_goals
    next hc => exact ⟨by simp [jsonSafe, hc, isEscape], by decide⟩

theorem escapeLetter_eq_none {c : Char} (h : escapeLetter c = none) :
    c.toNat < 7 ∨ 13 < c.toNat := by
  unfold escapeLetter at h
  split at h <;> grind

theorem toNat_eq_of_quoted {c : Char} (h : c = quoteMark ∨ c = backslash) :
    c.toNat = 34 ∨ c.toNat = 92 := by
  rcases h with rfl | rfl
  · exact .inl rfl
  · exact .inr rfl

/-- The escape of a rune that is not printed. -/
theorem content_escaped {c : Char} (hescaped : ¬ (0x20 ≤ c.toNat ∧ c.toNat < 0x7f ∨
    0x80 ≤ c.toNat ∧ isPrint c)) (hletter : escapeLetter c = none) :
    Content (if c.toNat < 0x20 ∨ c.toNat = 0x7f then backslash :: 'x' :: Hex.padded 2 c.toNat
      else if c.toNat < 0x10000 then backslash :: 'u' :: Hex.padded 4 c.toNat
      else backslash :: 'U' :: Hex.padded 8 c.toNat) (jsonSafe isPrint (.rune c)) := by
  have hrange := escapeLetter_eq_none hletter
  have hsafe := jsonSafe_rune_iff isPrint c
  split
  · next hbyte =>
      rw [Bool.eq_false_iff.mpr (mt hsafe.mp (by omega))]
      exact content_escape_none (by decide) (by decide) _
  · next hbyte =>
      split
      · next hplane =>
          rw [hsafe.mpr (by omega)]
          exact content_unicode (fun d hd => isHex_of_mem_padded hd) (Hex.length_padded 4 _)
      · next hplane =>
          rw [Bool.eq_false_iff.mpr (mt hsafe.mp (by grind))]
          exact content_escape_none (by decide) (by decide) _

theorem content_quoteRune (c : Char) :
    Content (quoteRune isPrint c) (jsonSafe isPrint (.rune c)) := by
  have hsafe := jsonSafe_rune_iff isPrint c
  unfold quoteRune
  split
  · next hself =>
      have hnat := toNat_eq_of_quoted hself
      have hescape : isEscape c = true ∧ c ≠ 'u' := by rcases hself with rfl | rfl <;> decide
      rw [hsafe.mpr (by omega), ← hescape.1]
      exact content_escape hescape.2
  · next hself =>
      split
      · next hplain =>
          rw [hsafe.mpr (by grind)]
          exact content_plain (fun h => hself (.inl h)) (fun h => hself (.inr h)) (by omega)
      · next hescaped =>
          cases hletter : escapeLetter c with
          | some letter =>
              obtain ⟨hletterSafe, hu⟩ := jsonSafe_of_escapeLetter isPrint hletter
              rw [hletterSafe]
              exact content_escape hu
          | none => exact content_escaped isPrint hescaped hletter

/-- A piece of a Go string between the quotes of JSON. -/
theorem content_quotePiece (p : Piece) :
    Content (quotePiece isPrint p) (jsonSafe isPrint p) := by
  cases p with
  | rune c => exact content_quoteRune isPrint c
  | stray b => exact content_escape_none (by decide) (by decide) _

/-- What `%q` makes of a string is a JSON string exactly when every piece is safe. -/
theorem leads_quote (bs : GoString) {mode : Mode} {stack : List Frame}
    (hbegin : step ⟨mode, stack⟩ '"' = some ⟨.inString, stack⟩) :
    Leads ⟨mode, stack⟩ (quote isPrint bs).toList ⟨.endValue, stack⟩
      (bs.all (jsonSafe isPrint)) := by
  rw [quote, String.toList_ofList]
  exact (Content.flatMap (content_quotePiece isPrint) bs).quoted hbegin

theorem value_quote (bs : GoString) :
    Value (quote isPrint bs).toList (bs.all (jsonSafe isPrint)) :=
  fun _ => leads_quote isPrint bs rfl

theorem toList_quoteAll (ss : List String) :
    (quoteAll isPrint ss).toList =
      '[' :: ([' '].intercalate (ss.map fun s => (quote isPrint (utf8 s)).toList) ++ [']']) := by
  simp only [quoteAll, String.toList_append, String.toList_intercalate, List.map_map]
  rfl

/-- A slice of a string or none is written as JSON writes it; between two strings
JSON has a comma. -/
theorem value_quoteAll (ss : List String) :
    Value (quoteAll isPrint ss).toList
      (ss.length ≤ 1 && ss.all fun s => (utf8 s).all (jsonSafe isPrint)) := by
  intro stack
  rw [toList_quoteAll]
  have hfirst : ∀ s : String, Leads ⟨.beginValueOrEmpty, .arrayValue :: stack⟩
      (quote isPrint (utf8 s)).toList ⟨.endValue, .arrayValue :: stack⟩
      ((utf8 s).all (jsonSafe isPrint)) := fun s => leads_quote isPrint (utf8 s) rfl
  match ss with
  | [] => exact rfl
  | [s] =>
      have harray : Leads ⟨.beginValue, stack⟩
          ('[' :: ((quote isPrint (utf8 s)).toList ++ [']'])) ⟨.endValue, stack⟩
          ((utf8 s).all (jsonSafe isPrint)) := ((hfirst s).snoc rfl).cons rfl
      simpa using harray
  | s :: s' :: ss =>
      -- The scanner stops at the second string.
      obtain ⟨tail, htail⟩ : ∃ tail, [' '].intercalate
          ((s' :: ss).map fun s => (quote isPrint (utf8 s)).toList) ++ [']'] = '"' :: tail := by
        simp only [List.map_cons, quote, String.toList_ofList, List.intercalate_cons_cons_left]
        exact ⟨_, rfl⟩
      have hsecond : Leads ⟨.endValue, .arrayValue :: stack⟩ (' ' :: '"' :: tail)
          ⟨.endValue, stack⟩ false := .cons rfl (.stop rfl tail)
      have hnone : Leads ⟨.beginValue, stack⟩
          ('[' :: ((quote isPrint (utf8 s)).toList ++ ' ' :: '"' :: tail)) ⟨.endValue, stack⟩
          ((utf8 s).all (jsonSafe isPrint) && false) := ((hfirst s).append hsecond).cons rfl
      rw [List.map_cons] at htail
      rw [List.map_cons, List.map_cons, List.intercalate_cons_cons, List.append_assoc,
        List.append_assoc, htail]
      simpa using hnone

end Quote

/-! ### Strings of `encoding/json` -/

theorem content_jsonRune (c : Char) : Content (jsonRune c) true := by
  unfold jsonRune
  split
  · next hself =>
      have hescape : isEscape c = true ∧ c ≠ 'u' := by rcases hself with rfl | rfl <;> decide
      rw [← hescape.1]
      exact content_escape hescape.2
  · next hself =>
      have hletter : ∀ letter, isEscape letter = true → letter ≠ 'u' →
          Content [backslash, letter] true := by
        intro letter hescape hu
        rw [← hescape]
        exact content_escape hu
      split_ifs with hn hr ht hb hf hunicode
      · exact hletter 'n' rfl (by decide)
      · exact hletter 'r' rfl (by decide)
      · exact hletter 't' rfl (by decide)
      · exact hletter 'b' rfl (by decide)
      · exact hletter 'f' rfl (by decide)
      · exact content_unicode (fun d hd => isHex_of_mem_padded hd) (Hex.length_padded 4 _)
      · exact content_plain (fun h => hself (.inl h)) (fun h => hself (.inr h))
          fun h => hunicode (.inl h)

theorem content_jsonRunes (s : String) : Content (s.toList.flatMap jsonRune) true := by
  have hcontent := Content.flatMap content_jsonRune s.toList
  rwa [List.all_eq_true.mpr fun _ _ => rfl] at hcontent

theorem value_jsonString (s : String) : Value (jsonString s).toList true := by
  rw [jsonString, String.toList_ofList]
  exact (content_jsonRunes s).value

/-- A member whose value is a string. -/
theorem member_jsonString (name value : String) :
    Member (jsonString name ++ ":" ++ jsonString value).toList true := by
  rw [String.toList_append, String.toList_append, List.append_assoc, jsonString,
    String.toList_ofList]
  exact (content_jsonRunes name).member (value_jsonString value)

/-! ### No control characters -/

theorem printable_digitChar : ∀ k < 16, 0x20 ≤ (Nat.digitChar k).toNat := by
  decide

theorem printable_of_mem_padded {w n : ℕ} {d : Char} (h : d ∈ Hex.padded w n) :
    0x20 ≤ d.toNat := by
  obtain ⟨k, hk, rfl⟩ := Hex.mem_padded h
  exact printable_digitChar k hk

theorem printable_of_mem_escape {w n : ℕ} {letter d : Char} (hletter : 0x20 ≤ letter.toNat)
    (h : d ∈ backslash :: letter :: Hex.padded w n) : 0x20 ≤ d.toNat := by
  rw [List.mem_cons, List.mem_cons] at h
  rcases h with rfl | rfl | h
  · decide
  · exact hletter
  · exact printable_of_mem_padded h

theorem printable_of_mem_letter {letter d : Char} (hletter : 0x20 ≤ letter.toNat)
    (h : d ∈ [backslash, letter]) : 0x20 ≤ d.toNat :=
  printable_of_mem_escape (w := 0) (n := 0) hletter h

theorem printable_of_mem_quotePiece {isPrint : Char → Bool} {p : Piece} {d : Char}
    (h : d ∈ quotePiece isPrint p) : 0x20 ≤ d.toNat := by
  cases p with
  | stray b => exact printable_of_mem_escape (by decide) h
  | rune c =>
      rw [quotePiece, quoteRune] at h
      split at h
      · next hself =>
          have hnat := toNat_eq_of_quoted hself
          exact printable_of_mem_letter (by omega) h
      · split at h
        · next hplain =>
            obtain rfl := List.mem_singleton.mp h
            omega
        · cases hletter : escapeLetter c with
          | some letter =>
              rw [hletter] at h
              refine printable_of_mem_letter ?_ h
              unfold escapeLetter at hletter
              split at hletter <;> cases hletter <;> decide
          | none =>
              rw [hletter] at h
              simp only at h
              split_ifs at h
              · exact printable_of_mem_escape (by decide) h
              · exact printable_of_mem_escape (by decide) h
              · exact printable_of_mem_escape (by decide) h

theorem printable_of_mem_jsonRune {c d : Char} (h : d ∈ jsonRune c) : 0x20 ≤ d.toNat := by
  unfold jsonRune at h
  split at h
  · next hself =>
      have hnat := toNat_eq_of_quoted hself
      exact printable_of_mem_letter (by omega) h
  · split_ifs at h with hn hr ht hb hf hunicode
    · exact printable_of_mem_letter (by decide) h
    · exact printable_of_mem_letter (by decide) h
    · exact printable_of_mem_letter (by decide) h
    · exact printable_of_mem_letter (by decide) h
    · exact printable_of_mem_letter (by decide) h
    · exact printable_of_mem_escape (by decide) h
    · obtain rfl := List.mem_singleton.mp h
      omega

/-- A text of one line. -/
def OneLine (s : String) : Prop := '\n' ∉ s.toList

instance (s : String) : Decidable (OneLine s) := inferInstanceAs (Decidable (¬ _))

theorem oneLine_of_quoted {α : Type} {f : α → List Char}
    (h : ∀ x, ∀ d ∈ f x, 0x20 ≤ d.toNat) (xs : List α) :
    OneLine (String.ofList (quoteMark :: (xs.flatMap f ++ [quoteMark]))) := by
  intro hmem
  rw [String.toList_ofList, List.mem_cons, List.mem_append, List.mem_flatMap,
    List.mem_singleton] at hmem
  rcases hmem with hmem | ⟨x, -, hmem⟩ | hmem
  · exact absurd hmem (by decide)
  · exact absurd (h x _ hmem) (by decide)
  · exact absurd hmem (by decide)

theorem oneLine_quote (isPrint : Char → Bool) (bs : GoString) : OneLine (quote isPrint bs) :=
  oneLine_of_quoted (fun _ _ h => printable_of_mem_quotePiece h) bs

theorem oneLine_jsonString (s : String) : OneLine (jsonString s) :=
  oneLine_of_quoted (fun _ _ h => printable_of_mem_jsonRune h) s.toList

theorem OneLine.append {s t : String} (hs : OneLine s) (ht : OneLine t) : OneLine (s ++ t) := by
  rw [OneLine, String.toList_append, List.mem_append]
  exact fun h => h.elim hs ht

theorem OneLine.intercalate {sep : String} (hsep : OneLine sep) {ss : List String}
    (h : ∀ s ∈ ss, OneLine s) : OneLine (sep.intercalate ss) := by
  induction ss with
  | nil =>
      rw [String.intercalate_nil]
      decide
  | cons s ss ih =>
      rw [List.forall_mem_cons] at h
      cases ss with
      | nil =>
          rw [String.intercalate_singleton]
          exact h.1
      | cons s' ss =>
          rw [String.intercalate_cons_cons]
          exact (h.1.append hsep).append (ih h.2)

theorem OneLine.rune_notMem {s : String} (h : OneLine s) : Piece.rune '\n' ∉ utf8 s :=
  rune_notMem_utf8 h

end Go
