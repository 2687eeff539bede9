import AlphE.Lib.GoText

/-!
A lexer for query languages. It reads one character at a time and yields words,
string literals, operators of one or two characters and comments; what a part of a
text yields depends on where it begins only. Characters that no language uses are
operators, too: the grammar has none of them.
-/

namespace QueryLex

open Go

/-! ### Items -/

inductive Item
  | word (text : List Char)
  | literal (text : List Char)
  | operator (text : List Char)
  | comment (text : List Char)
  deriving DecidableEq, Repr

def Item.text : Item → List Char
  | .word text => text
  | .literal text => text
  | .operator text => text
  | .comment text => text

def op (text : String) : Item := .operator text.toList

def name (text : String) : Item := .word text.toList

/-- What the languages differ in: the characters of words, and which characters
make up an operator of two. -/
structure Language where
  isWord : Char → Bool
  joins : Char → Char → Bool

/-- Where the lexer is. What it has read of an item is kept in reverse order. -/
inductive Mode
  | between
  | word (run : List Char)
  | operator (c : Char)
  | literal (mark : Char) (run : List Char)
  | escape (mark : Char) (run : List Char)
  | comment (run : List Char)
  | broken
  deriving DecidableEq, Repr

def isSpace (c : Char) : Bool := c = ' ' || c = '\t' || c = '\r' || c = '\n'

def isMark (c : Char) : Bool :=
  c = quoteMark || c.toNat = 39 || c.toNat = 96

section Lexer

variable (lang : Language)

/-- A character between items. -/
def start (c : Char) : Mode :=
  if isSpace c then .between
  else if c = '#' then .comment [c]
  else if isMark c then .literal c [c]
  else if lang.isWord c then .word [c]
  else .operator c

/-- A character inside a literal; a raw one has no escapes and may have lines. -/
def stepLiteral (mark : Char) (run : List Char) (c : Char) : List Item × Mode :=
  if c = mark then ([.literal (c :: run).reverse], .between)
  else if mark.toNat = 96 then ([], .literal mark (c :: run))
  else if c = '\n' then ([], .broken)
  else if c = backslash then ([], .escape mark (c :: run))
  else ([], .literal mark (c :: run))

/-- The items that a character completes, and where it leads. -/
def step : Mode → Char → List Item × Mode
  | .between, c => ([], start lang c)
  | .word run, c =>
      if lang.isWord c then ([], .word (c :: run)) else ([.word run.reverse], start lang c)
  | .operator d, c =>
      if lang.joins d c then ([.operator [d, c]], .between) else ([.operator [d]], start lang c)
  | .literal mark run, c => stepLiteral mark run c
  | .escape mark run, c =>
      if c = '\n' then ([], .broken) else ([], .literal mark (c :: run))
  | .comment run, c =>
      if c = '\n' then ([.comment run.reverse], .between) else ([], .comment (c :: run))
  | .broken, _ => ([], .broken)

def run : Mode → List Char → List Item × Mode
  | mode, [] => ([], mode)
  | mode, c :: cs =>
      ((step lang mode c).1 ++ (run (step lang mode c).2 cs).1, (run (step lang mode c).2 cs).2)

end Lexer

/-- The items that the end of the text completes; a literal has to be closed. -/
def finish : Mode → Option (List Item)
  | .between => some []
  | .word run => some [.word run.reverse]
  | .operator c => some [.operator [c]]
  | .comment run => some [.comment run.reverse]
  | .literal _ _ => none
  | .escape _ _ => none
  | .broken => none

/-- The items of a text. -/
def lex (lang : Language) (cs : List Char) : Option (List Item) :=
  (finish (run lang .between cs).2).map ((run lang .between cs).1 ++ ·)

variable {lang : Language}

theorem run_append (mode : Mode) (cs ds : List Char) :
    run lang mode (cs ++ ds) =
      ((run lang mode cs).1 ++ (run lang (run lang mode cs).2 ds).1,
        (run lang (run lang mode cs).2 ds).2) := by
  induction cs generalizing mode with
  | nil => rfl
  | cons c cs ih =>
      rw [List.cons_append, run, run, ih, List.append_assoc]

/-- Parts are read one after the other. -/
theorem run_trans {mode mode' mode'' : Mode} {cs ds : List Char} {items items' : List Item}
    (h : run lang mode cs = (items, mode')) (h' : run lang mode' ds = (items', mode'')) :
    run lang mode (cs ++ ds) = (items ++ items', mode'') := by
  rw [run_append, h, h']

/-- The item that is under way; a literal is none before it is closed. -/
def Mode.held : Mode → List Item
  | .word run => [.word run.reverse]
  | .operator c => [.operator [c]]
  | .comment run => [.comment run.reverse]
  | _ => []

/-- Neither in a literal nor in a comment. -/
def Mode.Ready : Mode → Prop
  | .between => True
  | .word _ => True
  | .operator _ => True
  | _ => False

theorem Mode.ready_between : Mode.between.Ready := trivial

theorem Mode.ready_operator (c : Char) : (Mode.operator c).Ready := trivial

theorem lex_of_run {cs : List Char} {items : List Item} {mode : Mode}
    (h : run lang .between cs = (items, mode)) (hready : mode.Ready) :
    lex lang cs = some (items ++ mode.held) := by
  rw [lex, h]
  cases mode with
  | between => rfl
  | word held => rfl
  | operator c => rfl
  | _ => exact hready.elim

/-- A character that goes on with no word and no operator. -/
structure Language.Breaks (lang : Language) (c : Char) : Prop where
  isWord : lang.isWord c = false
  joins : ∀ d, lang.joins d c = false

/-- Such a character completes what is under way. -/
theorem run_of_breaks {c : Char} (hbreaks : lang.Breaks c) {mode : Mode} (hready : mode.Ready)
    (cs : List Char) :
    run lang mode (c :: cs) =
      (mode.held ++ (run lang .between (c :: cs)).1, (run lang .between (c :: cs)).2) := by
  cases mode with
  | between => rfl
  | word held =>
      have hword : ¬ lang.isWord c = true := by simp [hbreaks.isWord]
      simp only [run, step, if_neg hword, List.nil_append]
      rfl
  | operator d =>
      have hjoins : ¬ lang.joins d c = true := by simp [hbreaks.joins d]
      simp only [run, step, if_neg hjoins, List.nil_append]
      rfl
  | _ => exact hready.elim

/-! ### Texts without spaces -/

/-- The text of the item that is under way. -/
def Mode.text : Mode → List Char
  | .between => []
  | .word run => run.reverse
  | .operator c => [c]
  | .literal _ run => run.reverse
  | .escape _ run => run.reverse
  | .comment run => run.reverse
  | .broken => []

@[simp] theorem Mode.text_between : Mode.between.text = [] := rfl

@[simp] theorem Mode.text_word (held : List Char) : (Mode.word held).text = held.reverse := rfl

@[simp] theorem Mode.text_operator (c : Char) : (Mode.operator c).text = [c] := rfl

@[simp] theorem Mode.text_literal (mark : Char) (held : List Char) :
    (Mode.literal mark held).text = held.reverse := rfl

@[simp] theorem Mode.text_escape (mark : Char) (held : List Char) :
    (Mode.escape mark held).text = held.reverse := rfl

@[simp] theorem Mode.text_comment (held : List Char) :
    (Mode.comment held).text = held.reverse := rfl

/-- A word has characters, and those of words only. -/
def Language.IsWord (lang : Language) (cs : List Char) : Prop :=
  cs ≠ [] ∧ ∀ c ∈ cs, lang.isWord c = true

/-- Items that a text without spaces yields: no comment is over before the line is. -/
def Language.Spaceless (lang : Language) : Item → Prop
  | .word text => lang.IsWord text
  | .comment _ => False
  | _ => True

/-- The modes that are met in such a text. -/
def Language.Whole (lang : Language) : Mode → Prop
  | .word run => lang.IsWord run
  | .literal mark _ => isMark mark = true
  | .escape mark _ => isMark mark = true
  | .broken => False
  | _ => True

theorem Language.isWord_reverse {cs : List Char} (h : lang.IsWord cs) :
    lang.IsWord cs.reverse := by
  refine ⟨by simpa using h.1, fun c hc => h.2 c (List.mem_reverse.mp hc)⟩

theorem text_start {c : Char} (h : isSpace c = false) :
    (start lang c).text = [c] ∧ lang.Whole (start lang c) := by
  rw [start, if_neg (by simp [h])]
  split
  · exact ⟨rfl, trivial⟩
  · split
    · next hmark => exact ⟨rfl, hmark⟩
    · split
      · next hword => exact ⟨rfl, List.cons_ne_nil _ _, by simpa using hword⟩
      · exact ⟨rfl, trivial⟩

/-- What one character does to a text. -/
theorem step_text {mode : Mode} (hwhole : lang.Whole mode) {c : Char} (h : isSpace c = false) :
    mode.text ++ [c] = (step lang mode c).1.flatMap Item.text ++ (step lang mode c).2.text ∧
      (∀ item ∈ (step lang mode c).1, lang.Spaceless item) ∧
      lang.Whole (step lang mode c).2 := by
  have hnewline : ¬ c = '\n' := by
    rintro rfl
    cases h
  obtain ⟨htext, hstart⟩ : (start lang c).text = [c] ∧ lang.Whole (start lang c) := text_start h
  cases mode with
  | between => exact ⟨by simp [step, htext], by simp [step], hstart⟩
  | broken => exact hwhole.elim
  | word held =>
      rw [step]
      split
      · next hword =>
          refine ⟨by simp, by simp, List.cons_ne_nil _ _, ?_⟩
          exact List.forall_mem_cons.mpr ⟨hword, hwhole.2⟩
      · refine ⟨by simp [Item.text, htext], ?_, hstart⟩
        exact List.forall_mem_singleton.mpr (lang.isWord_reverse hwhole)
  | operator d =>
      rw [step]
      split
      · exact ⟨by simp [Item.text], List.forall_mem_singleton.mpr trivial, trivial⟩
      · exact ⟨by simp [Item.text, htext], List.forall_mem_singleton.mpr trivial, hstart⟩
  | literal mark held =>
      rw [step, stepLiteral]
      split
      · exact ⟨by simp [Item.text], List.forall_mem_singleton.mpr trivial, trivial⟩
      · split
        · exact ⟨by simp, by simp, hwhole⟩
        · split
          · exact ⟨by simp, by simp, hwhole⟩
          · exact ⟨by simp, by simp, hwhole⟩
  | escape mark held =>
      rw [step, if_neg hnewline]
      exact ⟨by simp, by simp, hwhole⟩
  | comment held =>
      rw [step, if_neg hnewline]
      exact ⟨by simp, by simp, trivial⟩

/-- A text without spaces is made of the texts of its items. -/
theorem run_text {mode : Mode} (hwhole : lang.Whole mode) {cs : List Char}
    (h : ∀ c ∈ cs, isSpace c = false) :
    mode.text ++ cs = (run lang mode cs).1.flatMap Item.text ++ (run lang mode cs).2.text ∧
      (∀ item ∈ (run lang mode cs).1, lang.Spaceless item) ∧
      lang.Whole (run lang mode cs).2 := by
  induction cs generalizing mode with
  | nil => exact ⟨by simp [run], by simp [run], hwhole⟩
  | cons c cs ih =>
      obtain ⟨hc, hcs⟩ := List.forall_mem_cons.mp h
      obtain ⟨htext, hitems, hnext⟩ := step_text hwhole hc
      obtain ⟨htext', hitems', hnext'⟩ := ih hnext hcs
      refine ⟨?_, ?_, hnext'⟩
      · rw [run, List.flatMap_append, List.append_assoc, ← htext', ← List.append_assoc, ← htext,
          List.append_assoc]
        rfl
      · rw [run]
        exact List.forall_mem_append.mpr ⟨hitems, hitems'⟩

/-- A text of word characters is one word, where these begin words only. -/
theorem run_word (hstart : ∀ c, lang.isWord c = true → start lang c = .word [c])
    {cs : List Char} (h : lang.IsWord cs) : run lang .between cs = ([], .word cs.reverse) := by
  have hrest : ∀ held ds, (∀ c ∈ ds, lang.isWord c = true) →
      run lang (.word held) ds = ([], .word (ds.reverse ++ held)) := by
    intro held ds hds
    induction ds generalizing held with
    | nil => rfl
    | cons d ds ih =>
        obtain ⟨hd, hds⟩ := List.forall_mem_cons.mp hds
        rw [run, step, if_pos hd, ih _ hds, List.reverse_cons, List.append_assoc]
        rfl
  obtain ⟨hne, hword⟩ := h
  cases cs with
  | nil => exact absurd rfl hne
  | cons c cs =>
      obtain ⟨hc, hcs⟩ := List.forall_mem_cons.mp hword
      rw [run, step, hstart c hc, hrest _ _ hcs, List.reverse_cons]
      rfl

/-- The item that is under way stands for its text. -/
theorem Mode.Ready.held_text {mode : Mode} (h : mode.Ready) :
    mode.held.flatMap Item.text = mode.text := by
  cases mode with
  | between => rfl
  | word held => exact List.append_nil _
  | operator c => rfl
  | _ => exact h.elim

/-! ### Literals -/

/-- What an escape does to the lexer: it stays in the literal. -/
theorem run_escape {mark c : Char} (hmark : mark.toNat ≠ 96) (hne : backslash ≠ mark)
    (hnewline : c ≠ '\n') (held cs : List Char) :
    run lang (.literal mark held) (backslash :: c :: cs) =
      run lang (.literal mark (c :: backslash :: held)) cs := by
  have hback : ¬ backslash = '\n' := by decide
  simp only [run, step, stepLiteral, if_neg hne, if_neg hmark, if_neg hback, if_neg hnewline,
    if_true, List.nil_append]

/-- Characters that are neither the mark nor an escape nor a newline. -/
theorem run_literal {mark : Char} (held : List Char) {cs : List Char}
    (hcs : ∀ c ∈ cs, c ≠ mark ∧ c ≠ '\n' ∧ c ≠ backslash) :
    run lang (.literal mark held) cs = ([], .literal mark (cs.reverse ++ held)) := by
  induction cs generalizing held with
  | nil => rfl
  | cons c cs ih =>
      rw [List.forall_mem_cons] at hcs
      obtain ⟨⟨hmark, hnewline, hback⟩, hcs⟩ := hcs
      have hstep : stepLiteral mark held c = ([], .literal mark (c :: held)) := by
        simp only [stepLiteral, if_neg hmark, if_neg hnewline, if_neg hback, ite_self]
      rw [run, step, hstep, ih _ hcs, List.reverse_cons, List.append_assoc]
      rfl

/-- A comment goes on to the end of the line. -/
theorem run_comment (lang : Language) (held : List Char) {cs : List Char} (hcs : '\n' ∉ cs) :
    run lang (.comment held) cs = ([], .comment (cs.reverse ++ held)) := by
  induction cs generalizing held with
  | nil => rfl
  | cons c cs ih =>
      rw [List.mem_cons, not_or] at hcs
      rw [run, step, if_neg (Ne.symm hcs.1), ih _ hcs.2, List.reverse_cons, List.append_assoc]
      rfl

/-! ### Quoted texts -/

/-- A character that stands for itself in a quoted text. -/
def Plain (c : Char) : Prop := c ≠ quoteMark ∧ c ≠ '\n' ∧ c ≠ backslash

instance (c : Char) : Decidable (Plain c) := inferInstanceAs (Decidable (_ ∧ _ ∧ _))

theorem plain_of_mem_padded {w n : ℕ} {d : Char} (h : d ∈ Hex.padded w n) : Plain d := by
  have hdigit : ∀ k < 16, Plain (Nat.digitChar k) := by decide
  obtain ⟨k, hk, rfl⟩ := Hex.mem_padded h
  exact hdigit k hk

/-- What `%q` writes for a piece: itself, or an escape. -/
inductive Quoted : List Char → Prop
  | plain {c : Char} (h : Plain c) : Quoted [c]
  | escape {c : Char} {ds : List Char} (hc : c ≠ '\n') (hds : ∀ d ∈ ds, Plain d) :
      Quoted (backslash :: c :: ds)

theorem quoted_quotePiece (isPrint : Char → Bool) (p : Piece) :
    Quoted (quotePiece isPrint p) := by
  cases p with
  | stray b => exact .escape (by decide) fun d hd => plain_of_mem_padded hd
  | rune c =>
      rw [quotePiece, quoteRune]
      split
      · next hmark =>
          have hc : c ≠ '\n' := by
            rintro rfl
            exact absurd hmark (by decide)
          exact .escape hc (by simp)
      · next hmark =>
          rw [not_or] at hmark
          split
          · next hprint =>
              have hc : c ≠ '\n' := by
                rintro rfl
                simp at hprint
              exact .plain ⟨hmark.1, hc, hmark.2⟩
          · split
            · next letter hletter =>
                have hc : letter ≠ '\n' := by
                  rintro rfl
                  rw [escapeLetter] at hletter
                  split at hletter <;> simp at hletter
                exact .escape hc (by simp)
            · split
              · exact .escape (by decide) fun d hd => plain_of_mem_padded hd
              · split
                · exact .escape (by decide) fun d hd => plain_of_mem_padded hd
                · exact .escape (by decide) fun d hd => plain_of_mem_padded hd

theorem Quoted.run_eq {cs : List Char} (h : Quoted cs) (held : List Char) :
    run lang (.literal quoteMark held) cs = ([], .literal quoteMark (cs.reverse ++ held)) := by
  have hne : quoteMark.toNat ≠ 96 := by decide
  cases h with
  | plain h => exact run_literal held (List.forall_mem_singleton.mpr h)
  | escape hc hds =>
      rw [run_escape hne (by decide) hc, run_literal _ hds]
      simp

theorem run_flatMap_quotePiece (lang : Language) (isPrint : Char → Bool) (bs : GoString)
    (held : List Char) :
    run lang (.literal quoteMark held) (bs.flatMap (quotePiece isPrint)) =
      ([], .literal quoteMark ((bs.flatMap (quotePiece isPrint)).reverse ++ held)) := by
  induction bs generalizing held with
  | nil => rfl
  | cons p bs ih =>
      rw [List.flatMap_cons, run_trans ((quoted_quotePiece isPrint p).run_eq held) (ih _),
        List.reverse_append, List.append_assoc]
      rfl

/-- A quoted text is one literal. -/
theorem run_quote (lang : Language) (isPrint : Char → Bool) (bs : GoString) :
    run lang .between (quote isPrint bs).toList =
      ([.literal (quote isPrint bs).toList], .between) := by
  have hstart : start lang quoteMark = .literal quoteMark [quoteMark] := by
    rw [start, if_neg (by decide), if_neg (by decide), if_pos (by decide)]
  have hclose : ∀ held : List Char, run lang (.literal quoteMark held) [quoteMark] =
      ([.literal (quoteMark :: held).reverse], .between) := by
    intro held
    simp only [run, step, stepLiteral, if_true, List.append_nil]
  have hbody := run_flatMap_quotePiece lang isPrint bs [quoteMark]
  rw [quote, String.toList_ofList, run, step, hstart, run_trans hbody (hclose _)]
  simp

/-- A quoted text after something that it completes. -/
theorem run_quote_of_ready (hbreaks : lang.Breaks quoteMark) {mode : Mode}
    (hready : mode.Ready) (isPrint : Char → Bool) (bs : GoString) :
    run lang mode (quote isPrint bs).toList =
      (mode.held ++ [.literal (quote isPrint bs).toList], .between) := by
  have hrun := run_quote lang isPrint bs
  rw [quote, String.toList_ofList] at hrun ⊢
  rw [run_of_breaks hbreaks hready, hrun]

end QueryLex
