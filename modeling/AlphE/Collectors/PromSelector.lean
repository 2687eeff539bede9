import AlphE.Collectors.Agreement
import AlphE.Lib.GoUnquote
import AlphE.Lib.QueryLex

/-!
What Prometheus reads where the prom collector has written a selector. The namespace
stands in a literal; the metric is a field of the question, written as it is.
-/

namespace AlphE.Collectors

open Go QueryLex

namespace Prom

/-! ### PromQL -/

def promQL : Language where
  isWord c := c.isAlphanum || c = '_' || c = ':'
  joins c d :=
    match c, d with
    | '=', '=' => true
    | '=', '~' => true
    | '!', '=' => true
    | '!', '~' => true
    | '>', '=' => true
    | '<', '=' => true
    | _, _ => false

/-- `[a-zA-Z_:][a-zA-Z0-9_:]*`. -/
def IsMetricName (cs : List Char) : Prop :=
  promQL.IsWord cs ∧ ∀ c ∈ cs.head?, c.isDigit = false

/-- `metric\x7bnamespace="..."\x7d`. -/
def selectorItems (metric ns : List Char) : List Item :=
  [.word metric, op "\x7b", name "namespace", op "=", .literal ns, op "\x7d"]

/-- What is left of a text when comments are skipped. -/
def visible (items : List Item) : List Item :=
  items.filter fun
    | .comment _ => false
    | _ => true

/-- One metric, restricted to one namespace, and nothing else. -/
def Confined (expr ns : String) : Prop :=
  ∃ items metric nsLit, lex promQL expr.toList = some items ∧
    visible items = selectorItems metric nsLit ∧ IsMetricName metric ∧
    unquote nsLit = some (bytes (utf8 ns))

/-! ### The metric of a question -/

section Metric

variable (fmt : Fmt)

def defaultMetric : String := "kube_pod_container_status_last_terminated_reason"

/-- What is written in front of the braces. -/
def metricOf (question : String) : String :=
  let q := trimSpace question
  if hasPrefix q "metric:rate " then
    match fields q with
    | _ :: metric :: _ :: number :: _ =>
        match fmt.scanG number with
        | none => defaultMetric
        | some _ => metric
    | _ => defaultMetric
  else if hasPrefix q "metric:value " then
    match fields q with
    | _ :: metric :: _ => metric
    | _ => defaultMetric
  else defaultMetric

theorem expr_defaultQuery (ns : String) :
    (defaultQuery fmt ns).expr = selector fmt defaultMetric ns := rfl

theorem expr_parseQuestion (inp : CollectorInput) :
    (parseQuestion fmt inp).expr =
      selector fmt (metricOf fmt inp.question) (defaultNamespace inp.scopeServices) := by
  simp only [parseQuestion, metricOf, parseRateQuestion, parseValueQuestion]
  generalize fields (trimSpace inp.question) = fs
  split
  · rcases fs with _ | ⟨form, _ | ⟨metric, _ | ⟨comparator, _ | ⟨number, rest⟩⟩⟩⟩
    · exact expr_defaultQuery fmt _
    · exact expr_defaultQuery fmt _
    · exact expr_defaultQuery fmt _
    · exact expr_defaultQuery fmt _
    · simp only
      cases fmt.scanG number with
      | none => exact expr_defaultQuery fmt _
      | some threshold => rfl
  · split
    · rcases fs with _ | ⟨form, _ | ⟨metric, rest⟩⟩
      · exact expr_defaultQuery fmt _
      · exact expr_defaultQuery fmt _
      · rfl
    · exact expr_defaultQuery fmt _

/-- The metric is a text of its own, without a space. -/
theorem metricOf_spec (question : String) :
    metricOf fmt question ≠ "" ∧ ∀ c ∈ (metricOf fmt question).toList, Go.isSpace c = false := by
  have hspace : (defaultMetric.toList.all fun c => !Go.isSpace c) = true := by decide
  have hdefault : defaultMetric ≠ "" ∧ ∀ c ∈ defaultMetric.toList, Go.isSpace c = false :=
    ⟨by decide, by simpa using List.all_eq_true.mp hspace⟩
  rw [metricOf]
  split
  · split
    · next form metric comparator number rest hfields =>
        split
        · exact hdefault
        · exact mem_fields (by rw [hfields]; simp)
    · exact hdefault
  · split
    · split
      · next form metric rest hfields => exact mem_fields (by rw [hfields]; simp)
      · exact hdefault
    · exact hdefault

end Metric

/-! ### Reading a selector -/

theorem breaks_of_ne {c : Char} (hword : promQL.isWord c = false) (heq : c ≠ '=')
    (htilde : c ≠ '~') : promQL.Breaks c := by
  refine ⟨hword, fun d => ?_⟩
  simp only [promQL]
  split
  all_goals first | contradiction | rfl

theorem start_of_isWord {c : Char} (h : promQL.isWord c = true) :
    start promQL c = .word [c] := by
  -- The three other ways to begin are with characters that no word has.
  have hspace : ¬ QueryLex.isSpace c = true := by
    intro hspace
    simp only [QueryLex.isSpace, Bool.or_eq_true, decide_eq_true_eq] at hspace
    rcases hspace with ((rfl | rfl) | rfl) | rfl <;> exact absurd h (by decide)
  have hhash : ¬ c = '#' := by
    rintro rfl
    exact absurd h (by decide)
  have hmark : ¬ isMark c = true := by
    intro hmark
    simp only [isMark, Bool.or_eq_true, decide_eq_true_eq] at hmark
    rcases hmark with (rfl | hsingle) | hback
    · exact absurd h (by decide)
    · rw [← Char.ofNat_toNat c, hsingle] at h
      exact absurd h (by decide)
    · rw [← Char.ofNat_toNat c, hback] at h
      exact absurd h (by decide)
  rw [start, if_neg hspace, if_neg hhash, if_neg hmark, if_pos h]

theorem isSpace_of_go {c : Char} (h : Go.isSpace c = false) : QueryLex.isSpace c = false := by
  rw [Bool.eq_false_iff] at h ⊢
  intro hspace
  simp only [QueryLex.isSpace, Bool.or_eq_true, decide_eq_true_eq] at hspace
  rcases hspace with ((rfl | rfl) | rfl) | rfl <;> exact h (by decide)

/-- What stands behind the metric. -/
def matcherText (isPrint : Char → Bool) (ns : String) : List Char :=
  '\x7b' :: ("namespace=".toList ++ ((quote isPrint (utf8 ns)).toList ++ ['\x7d']))

theorem run_matcherText (isPrint : Char → Bool) (ns : String) {mode : Mode}
    (hready : mode.Ready) :
    run promQL mode (matcherText isPrint ns) =
      (mode.held ++ [op "\x7b", name "namespace", op "=",
        .literal (quote isPrint (utf8 ns)).toList], .operator '\x7d') := by
  have hbrace : promQL.Breaks '\x7b' := breaks_of_ne (by decide) (by decide) (by decide)
  have hmark : promQL.Breaks quoteMark := breaks_of_ne (by decide) (by decide) (by decide)
  have hopen : run promQL .between ('\x7b' :: "namespace=".toList) =
      ([op "\x7b", name "namespace"], .operator '=') := by
    decide
  have hquote := run_quote_of_ready hmark (Mode.ready_operator '=') isPrint (utf8 ns)
  have hclose : run promQL .between ['\x7d'] = ([], .operator '\x7d') := by decide
  have hall := run_trans hopen (run_trans hquote hclose)
  rw [List.cons_append] at hall
  rw [matcherText, run_of_breaks hbrace hready, hall]
  rfl

theorem toList_expr (fmt : Fmt) (inp : CollectorInput) :
    (parseQuestion fmt inp).expr.toList = (metricOf fmt inp.question).toList ++
      matcherText fmt.isPrint (defaultNamespace inp.scopeServices) := by
  rw [expr_parseQuestion, toList_selector]
  rfl

section Confined

variable {isPrint : Char → Bool} {metric : List Char}

theorem visible_selectorItems (metric ns : List Char) :
    visible (selectorItems metric ns) = selectorItems metric ns := rfl

theorem selectorItems_injective {metric metric' ns ns' : List Char}
    (h : selectorItems metric ns = selectorItems metric' ns') : ns = ns' := by
  simp only [selectorItems, List.cons.injEq, Item.literal.injEq] at h
  exact h.2.2.2.2.1

/-- A metric name in front of the braces is confined. -/
theorem lex_of_isMetricName (ns : String) (h : IsMetricName metric) :
    lex promQL (metric ++ matcherText isPrint ns) =
      some (selectorItems metric (quote isPrint (utf8 ns)).toList) := by
  have hready : (Mode.word metric.reverse).Ready := trivial
  have hrun := run_trans (run_word (fun _ => start_of_isWord) h.1)
    (run_matcherText isPrint ns hready)
  rw [lex_of_run hrun (Mode.ready_operator _)]
  simp [selectorItems, Mode.held, op]

theorem visible_of_spaceless {items : List Item} (h : ∀ item ∈ items, promQL.Spaceless item) :
    visible items = items := by
  rw [visible, List.filter_eq_self]
  intro item hitem
  have hspaceless := h item hitem
  cases item with
  | comment text => exact hspaceless.elim
  | word text => rfl
  | literal text => rfl
  | operator text => rfl

theorem spaceless_held {mode : Mode} (hready : mode.Ready) (hwhole : promQL.Whole mode) :
    ∀ item ∈ mode.held, promQL.Spaceless item := by
  cases mode with
  | between => exact fun _ => nofun
  | word held => exact List.forall_mem_singleton.mpr (promQL.isWord_reverse hwhole)
  | operator c => exact List.forall_mem_singleton.mpr trivial
  | _ => exact hready.elim

/-- Where neither a literal nor a comment is open before the braces, there is but one
word before them. -/
theorem metric_eq_of_ready {ns : String} (hspace : ∀ c ∈ metric, QueryLex.isSpace c = false)
    (hready : (run promQL .between metric).2.Ready) {items : List Item} {word nsLit : List Char}
    (hlex : lex promQL (metric ++ matcherText isPrint ns) = some items)
    (hitems : visible items = selectorItems word nsLit) : metric = word := by
  have hbetween : promQL.Whole .between := trivial
  obtain ⟨htext, hspaceless, hwhole⟩ := run_text hbetween hspace
  have hrun := run_trans (Prod.mk.eta.symm : run promQL .between metric = (_, _))
    (run_matcherText isPrint ns hready)
  rw [lex_of_run hrun (Mode.ready_operator _), Option.some.injEq] at hlex
  subst hlex
  generalize (run promQL .between metric).1 = front at *
  generalize (run promQL .between metric).2 = mode at *
  generalize (quote isPrint (utf8 ns)).toList = quoted at *
  have hheld := spaceless_held hready hwhole
  have hall : ∀ item ∈ front ++ (mode.held ++ [op "\x7b", name "namespace", op "=",
      .literal quoted]) ++ Mode.held (.operator '\x7d'), promQL.Spaceless item := by
    have hname : promQL.IsWord "namespace".toList :=
      ⟨by decide, List.all_eq_true.mp (by decide)⟩
    simp only [List.forall_mem_append, List.forall_mem_cons]
    exact ⟨⟨hspaceless, hheld, trivial, hname, trivial, trivial, fun _ => nofun⟩,
      List.forall_mem_singleton.mpr trivial⟩
  rw [visible_of_spaceless hall] at hitems
  -- Five items are those of the braces, so there is one before them.
  have hsplit : (front ++ mode.held) ++ [op "\x7b", name "namespace", op "=",
      .literal quoted, op "\x7d"] =
      [.word word] ++ [op "\x7b", name "namespace", op "=", .literal nsLit, op "\x7d"] := by
    rw [← List.append_assoc, List.append_assoc] at hitems
    exact hitems
  have hone := (List.append_inj' hsplit (by simp)).1
  rw [← hready.held_text, ← List.flatMap_append, hone] at htext
  simpa [Item.text] using htext

/-! ### A namespace of one letter -/

/-- The text behind the metric, for a namespace of one letter. -/
def letterText (c : Char) : List Char :=
  "\x7bnamespace=".toList ++ [quoteMark, c, quoteMark, '\x7d']

theorem matcherText_letter (isPrint : Char → Bool) {c : Char}
    (h : c ≠ quoteMark ∧ c ≠ backslash ∧ 0x20 ≤ c.toNat ∧ c.toNat < 0x7f) :
    matcherText isPrint (String.ofList [c]) = letterText c := by
  have hpiece : quoteRune isPrint c = [c] := by
    rw [quoteRune, if_neg (not_or.mpr ⟨h.1, h.2.1⟩), if_pos (.inl h.2.2)]
  have hquote : (quote isPrint (utf8 (String.ofList [c]))).toList = [quoteMark, c, quoteMark] := by
    rw [quote, String.toList_ofList, utf8, String.toList_ofList, List.map_singleton,
      List.flatMap_singleton, quotePiece, hpiece]
    rfl
  rw [matcherText, hquote]
  rfl

/-- A literal that is open before the braces is not closed behind them. -/
theorem lex_of_literal {mode : Mode} (hwhole : promQL.Whole mode)
    (hopen : (∃ mark held, mode = .literal mark held) ∨ ∃ mark held, mode = .escape mark held)
    (hrun : (run promQL .between metric).2 = mode) :
    lex promQL (metric ++ letterText 'a') = none := by
  have hmarks : ∀ {mark : Char}, isMark mark = true →
      mark = quoteMark ∨ mark = Char.ofNat 39 ∨ mark = Char.ofNat 96 := by
    intro mark hmark
    simp only [isMark, Bool.or_eq_true, decide_eq_true_eq] at hmark
    rcases hmark with (rfl | hsingle) | hback
    · exact .inl rfl
    · exact .inr (.inl (by rw [← hsingle, Char.ofNat_toNat]))
    · exact .inr (.inr (by rw [← hback, Char.ofNat_toNat]))
  have hfinish : finish (run promQL mode (letterText 'a')).2 = none := by
    rcases hopen with ⟨mark, held, rfl⟩ | ⟨mark, held, rfl⟩
    · rcases hmarks hwhole with rfl | rfl | rfl <;> rfl
    · rcases hmarks hwhole with rfl | rfl | rfl <;> rfl
  rw [lex, run_append, hrun, hfinish, Option.map_none]

theorem newline_notMem_letterText {c : Char} (hc : c ≠ '\n') : '\n' ∉ letterText c := by
  have hopen : '\n' ∉ "\x7bnamespace=".toList := by decide
  have hclose : '\n' ∉ [quoteMark, c, quoteMark, '\x7d'] := by
    simp only [List.mem_cons, List.not_mem_nil, or_false, not_or]
    exact ⟨by decide, Ne.symm hc, by decide, by decide⟩
  exact fun hmem => (List.mem_append.mp hmem).elim hopen hclose

/-- A comment that is open before the braces goes on behind them. -/
theorem visible_of_comment {held cs : List Char} (hcs : '\n' ∉ cs) {items : List Item}
    (hrun : (run promQL .between metric).2 = .comment held)
    (hlex : lex promQL (metric ++ cs) = some items) :
    visible items = visible (run promQL .between metric).1 := by
  rw [lex, run_append, hrun, run_comment promQL _ hcs, finish, Option.map_some,
    Option.some.injEq] at hlex
  subst hlex
  simp [visible]

/-- What is confined to every namespace is a metric name. -/
theorem isMetricName_of_confined (hspace : ∀ c ∈ metric, QueryLex.isSpace c = false)
    (ha : ∃ items word nsLit, lex promQL (metric ++ letterText 'a') = some items ∧
      visible items = selectorItems word nsLit ∧ IsMetricName word ∧
      unquote nsLit = some (bytes (utf8 "a")))
    (hb : ∃ items word nsLit, lex promQL (metric ++ letterText 'b') = some items ∧
      visible items = selectorItems word nsLit ∧ IsMetricName word ∧
      unquote nsLit = some (bytes (utf8 "b"))) :
    IsMetricName metric := by
  obtain ⟨items, word, nsLit, hlex, hitems, hword, hns⟩ := ha
  have hbetween : promQL.Whole .between := trivial
  obtain ⟨-, -, hwhole⟩ := run_text hbetween hspace
  have hready : (run promQL .between metric).2.Ready → IsMetricName metric := by
    intro hready
    rw [← matcherText_letter (fun _ => true) (by decide)] at hlex
    rw [metric_eq_of_ready hspace hready hlex hitems]
    exact hword
  cases hmode : (run promQL .between metric).2 with
  | between => exact hready (by rw [hmode]; trivial)
  | word held => exact hready (by rw [hmode]; trivial)
  | operator c => exact hready (by rw [hmode]; trivial)
  | broken =>
      rw [hmode] at hwhole
      exact hwhole.elim
  | literal mark held =>
      rw [hmode] at hwhole
      rw [lex_of_literal hwhole (.inl ⟨mark, held, rfl⟩) hmode] at hlex
      cases hlex
  | escape mark held =>
      rw [hmode] at hwhole
      rw [lex_of_literal hwhole (.inr ⟨mark, held, rfl⟩) hmode] at hlex
      cases hlex
  | comment held =>
      -- Then both are read off what stands before the comment.
      obtain ⟨items', word', nsLit', hlex', hitems', -, hns'⟩ := hb
      have hsame := visible_of_comment (newline_notMem_letterText (by decide)) hmode hlex
      have hsame' := visible_of_comment (newline_notMem_letterText (by decide)) hmode hlex'
      have hnsLit : nsLit = nsLit' := by
        rw [hitems] at hsame
        rw [hitems', ← hsame] at hsame'
        exact (selectorItems_injective hsame').symm
      rw [hnsLit, hns', Option.some.injEq] at hns
      exact absurd (bytes_utf8_injective hns) (by decide)

end Confined

/-- **Which questions stay inside their namespace.** Those that ask for something that
is a metric name, whatever the scope is. -/
theorem confined_iff (fmt : Fmt) (inp : CollectorInput) :
    (∀ scope, Confined (parseQuestion fmt { inp with scopeServices := scope }).expr
        (defaultNamespace scope)) ↔
      IsMetricName (metricOf fmt inp.question).toList := by
  have hexpr : ∀ scope,
      (parseQuestion fmt { inp with scopeServices := scope }).expr.toList =
        (metricOf fmt inp.question).toList ++
          matcherText fmt.isPrint (defaultNamespace scope) :=
    fun scope => toList_expr fmt { inp with scopeServices := scope }
  constructor
  · intro h
    have hspace : ∀ c ∈ (metricOf fmt inp.question).toList, QueryLex.isSpace c = false :=
      fun c hc => isSpace_of_go ((metricOf_spec fmt inp.question).2 c hc)
    have hletter : ∀ {c : Char}, c ≠ quoteMark ∧ c ≠ backslash ∧ 0x20 ≤ c.toNat ∧ c.toNat < 0x7f →
        defaultNamespace [String.ofList [c]] = String.ofList [c] →
        ∃ items word nsLit,
          lex promQL ((metricOf fmt inp.question).toList ++ letterText c) = some items ∧
            visible items = selectorItems word nsLit ∧ IsMetricName word ∧
            unquote nsLit = some (bytes (utf8 (String.ofList [c]))) := by
      intro c hc hns
      obtain ⟨items, word, nsLit, hlex, hrest⟩ := h [String.ofList [c]]
      rw [hexpr, hns, matcherText_letter fmt.isPrint hc] at hlex
      rw [hns] at hrest
      exact ⟨items, word, nsLit, hlex, hrest⟩
    -- Two namespaces are enough: a comment would be the same for both.
    exact isMetricName_of_confined hspace (hletter (by decide) (by decide))
      (hletter (by decide) (by decide))
  · intro h scope
    refine ⟨_, _, _, ?_, visible_selectorItems _ _, h, unquote_quote fmt.isPrint _⟩
    rw [hexpr]
    exact lex_of_isMetricName _ h

/-! ### A selector of its own -/

def testEscapeRequest : CollectorInput :=
  { testRequest with question := "metric:value up\x7bnamespace=\"kube-system\"\x7d#" }

theorem not_confined :
    ¬ ∀ (fmt : Fmt) (inp : CollectorInput),
      Confined (parseQuestion fmt inp).expr (defaultNamespace inp.scopeServices) := by
  intro h
  obtain ⟨items, metric, nsLit, hlex, hitems, -, hns⟩ := h testCollectEnv.put.fmt testEscapeRequest
  have hmetric : metricOf testCollectEnv.put.fmt testEscapeRequest.question =
      "up\x7bnamespace=\"kube-system\"\x7d#" := by
    decide
  have hfront : run promQL .between "up\x7bnamespace=\"kube-system\"\x7d#".toList =
      (selectorItems "up".toList "\"kube-system\"".toList, .comment ['#']) := by
    decide
  have hdemo : defaultNamespace testEscapeRequest.scopeServices = "demo" := by decide
  rw [toList_expr, hmetric, hdemo] at hlex
  -- The braces that the collector writes stand in a comment.
  have hsame := visible_of_comment (by decide) (congrArg Prod.snd hfront) hlex
  rw [hfront, hitems] at hsame
  rw [selectorItems_injective hsame, hdemo] at hns
  exact absurd hns (by decide)

end Prom

end AlphE.Collectors
