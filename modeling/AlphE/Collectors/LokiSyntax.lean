import AlphE.Collectors.Loki
import AlphE.Lib.GoUnquote
import AlphE.Lib.QueryLex

/-!
What Loki reads where the collector has written a query. Namespace, services and
phrase stand in literals of their own; between the literals there is nothing but what
the form of the question has there.
-/

namespace AlphE.Collectors

open Go QueryLex

namespace Loki

/-! ### LogQL -/

def logQL : Language where
  isWord c := c.isAlphanum || c = '_'
  joins c d :=
    match c, d with
    | '|', '=' => true
    | '|', '~' => true
    | '|', '>' => true
    | '=', '~' => true
    | '=', '=' => true
    | '!', '=' => true
    | '!', '~' => true
    | '!', '>' => true
    | '>', '=' => true
    | '<', '=' => true
    | _, _ => false

/-- The matchers of a selector: the namespace, and the apps where there are any. -/
def matcherItems (ns : List Char) : Option (List Char) → List Item
  | none => [op "\x7b", name "namespace", op "=", .literal ns]
  | some app =>
      [op "\x7b", name "namespace", op "=", .literal ns, op ",", name "app", op "=~", .literal app]

/-- `\x7bnamespace="..."\x7d`, with the apps where there are any. -/
def selectorItems (ns : List Char) (app : Option (List Char)) : List Item :=
  matcherItems ns app ++ [op "\x7d"]

/-- The forms of a question. -/
inductive Form
  | contains | rate | default
  deriving DecidableEq, Repr

def formOf (question : String) : Form :=
  if hasPrefix question "log:contains " then .contains
  else if hasPrefix question "log:rate " then .rate
  else .default

/-- What the lines are filtered by. -/
def phraseOf (question : String) : String :=
  match formOf question with
  | .contains => trimSpace (trimPrefix question "log:contains ")
  | .rate => trimSpace (trimPrefix question "log:rate ")
  | .default => "(?i)error|fatal|panic|oom"

/-- The one query of a form. -/
def queryItems (form : Form) (selector : List Item) (phrase : List Char) : List Item :=
  match form with
  | .contains => selector ++ [op "|=", .literal phrase]
  | .rate =>
      [name "sum", op "(", name "rate", op "("] ++ selector ++
        [op "|~", .literal phrase, op "[", name "5m", op "]", op ")", op ")"]
  | .default => selector ++ [op "|~", .literal phrase]

/-! ### Reading a selector -/

/-- What an operator of two characters ends in. -/
theorem breaks_of_ne {c : Char} (hword : logQL.isWord c = false) (heq : c ≠ '=')
    (htilde : c ≠ '~') (hgreater : c ≠ '>') : logQL.Breaks c := by
  refine ⟨hword, fun d => ?_⟩
  simp only [logQL]
  split
  all_goals first | contradiction | rfl

theorem breaks_quoteMark : logQL.Breaks quoteMark :=
  breaks_of_ne (by decide) (by decide) (by decide) (by decide)

theorem breaks_brace : logQL.Breaks '\x7b' :=
  breaks_of_ne (by decide) (by decide) (by decide) (by decide)

section Selector

variable (isPrint : Char → Bool) (ns : String)

theorem run_namespace {mode : Mode} (hready : mode.Ready) :
    run logQL mode ("\x7bnamespace=".toList ++ (quote isPrint (utf8 ns)).toList) =
      (mode.held ++ matcherItems (quote isPrint (utf8 ns)).toList none, .between) := by
  have hopen : run logQL .between "\x7bnamespace=".toList =
      ([op "\x7b", name "namespace"], .operator '=') := by
    decide
  have hchars : "\x7bnamespace=".toList = '\x7b' :: "namespace=".toList := rfl
  have hheld : run logQL mode "\x7bnamespace=".toList =
      (mode.held ++ [op "\x7b", name "namespace"], .operator '=') := by
    -- What is held ends where the brace begins.
    rw [hchars] at hopen ⊢
    rw [run_of_breaks breaks_brace hready, hopen]
  rw [run_trans hheld
      (run_quote_of_ready breaks_quoteMark (Mode.ready_operator _) isPrint (utf8 ns)),
    List.append_assoc]
  rfl

/-- The literal of the services, where there are any. -/
def appLiteral (services : List String) : Option (List Char) :=
  if services = [] then none
  else some (quote isPrint (utf8 (String.intercalate "|" services))).toList

theorem run_buildSelector (services : List String) {mode : Mode} (hready : mode.Ready) :
    run logQL mode (buildSelector isPrint ns services).toList =
      (mode.held ++ matcherItems (quote isPrint (utf8 ns)).toList
        (appLiteral isPrint services), .operator '\x7d') := by
  have hclose : run logQL .between "\x7d".toList = ([], .operator '\x7d') := by decide
  have happ : run logQL .between ", app=~".toList =
      ([op ",", name "app", op "=~"], .between) := by
    decide
  have hnamespace := run_namespace isPrint ns hready
  rw [buildSelector, appLiteral]
  split
  · -- A namespace alone.
    rw [String.toList_append, String.toList_append, run_trans hnamespace hclose,
      List.append_nil]
  · simp only [String.toList_append]
    rw [run_trans (run_trans (run_trans hnamespace happ)
      (run_quote logQL isPrint _)) hclose]
    simp only [List.append_assoc, List.append_nil]
    rfl

end Selector

/-! ### Reading a query -/

section Query

variable (isPrint : Char → Bool) (question ns : String) (services : List String)

/-- The literal that the lines are filtered by. -/
def phraseLiteral : List Char :=
  match formOf question with
  | .default => "\"(?i)error|fatal|panic|oom\"".toList
  | _ => (quote isPrint (utf8 (phraseOf question))).toList

theorem unquote_phraseLiteral :
    unquote (phraseLiteral isPrint question) = some (bytes (utf8 (phraseOf question))) := by
  rw [phraseLiteral]
  cases hform : formOf question with
  | contains => exact unquote_quote isPrint _
  | rate => exact unquote_quote isPrint _
  | default =>
      have hfixed : unquote "\"(?i)error|fatal|panic|oom\"".toList =
          some (bytes (utf8 "(?i)error|fatal|panic|oom")) := by
        decide
      simpa only [phraseOf, hform] using hfixed

theorem lex_buildLogQL :
    lex logQL (buildLogQL isPrint question ns services).toList =
      some (queryItems (formOf question)
        (selectorItems (quote isPrint (utf8 ns)).toList (appLiteral isPrint services))
        (phraseLiteral isPrint question)) := by
  have hselector := run_buildSelector isPrint ns services Mode.ready_between
  have hquote := run_quote logQL isPrint
  rw [buildLogQL, phraseLiteral, phraseOf, formOf]
  split
  · have hfilter : run logQL (.operator '\x7d') " |= ".toList =
        ([op "\x7d", op "|="], .between) := by
      decide
    simp only [String.toList_append]
    rw [lex_of_run (run_trans (run_trans hselector hfilter) (hquote _)) Mode.ready_between]
    simp [queryItems, selectorItems, Mode.held]
  · split
    · have hopen : run logQL .between "sum(rate(".toList =
          ([name "sum", op "(", name "rate"], .operator '(') := by
        decide
      have hfilter : run logQL (.operator '\x7d') " |~ ".toList =
          ([op "\x7d", op "|~"], .between) := by
        decide
      have hclose : run logQL .between " [5m]))".toList =
          ([op "[", name "5m", op "]", op ")"], .operator ')') := by
        decide
      have hinner := run_buildSelector isPrint ns services (Mode.ready_operator '(')
      simp only [String.toList_append]
      rw [lex_of_run (run_trans (run_trans (run_trans (run_trans hopen hinner) hfilter)
        (hquote _)) hclose) (Mode.ready_operator _)]
      simp [queryItems, selectorItems, Mode.held, op]
    · have hfilter : run logQL (.operator '\x7d')
          " |~ \"(?i)error|fatal|panic|oom\"".toList =
          ([op "\x7d", op "|~", .literal "\"(?i)error|fatal|panic|oom\"".toList], .between) := by
        decide
      simp only [String.toList_append]
      rw [lex_of_run (run_trans hselector hfilter) Mode.ready_between]
      simp [queryItems, selectorItems, Mode.held]

/-- A query reads as one of a form, and its literals as what they were made of. -/
def ReadsAs (query : String) (form : Form) (ns : String) (services : List String)
    (phrase : String) : Prop :=
  ∃ nsLit appLit phraseLit,
    lex logQL query.toList = some (queryItems form (selectorItems nsLit appLit) phraseLit) ∧
      unquote nsLit = some (bytes (utf8 ns)) ∧ (appLit = none ↔ services = []) ∧
      (∀ app ∈ appLit, unquote app = some (bytes (utf8 (String.intercalate "|" services)))) ∧
      unquote phraseLit = some (bytes (utf8 phrase))

theorem appLiteral_eq_none_iff : appLiteral isPrint services = none ↔ services = [] := by
  rw [appLiteral]
  split
  · next hnil => exact iff_of_true rfl hnil
  · next hne => exact iff_of_false nofun hne

theorem unquote_appLiteral {app : List Char} (h : app ∈ appLiteral isPrint services) :
    unquote app = some (bytes (utf8 (String.intercalate "|" services))) := by
  rw [appLiteral] at h
  split at h
  · cases h
  · cases h
    exact unquote_quote isPrint _

/-- **No text leaves its literal.** Whatever question, namespace and services are made
of, the query is the one of its form. -/
theorem buildLogQL_readsAs :
    ReadsAs (buildLogQL isPrint question ns services) (formOf question) ns services
      (phraseOf question) :=
  ⟨_, _, _, lex_buildLogQL isPrint question ns services, unquote_quote isPrint _,
    appLiteral_eq_none_iff isPrint services, fun _ happ => unquote_appLiteral isPrint services happ,
    unquote_phraseLiteral isPrint question⟩

end Query

end Loki

end AlphE.Collectors
