import AlphE.Collectors.Agreement
import AlphE.Lib.GoFloatText

/-!
Which questions the prom collector reads as `metric:rate` questions. It looks at four
fields, takes any comparator, and of the threshold as much as could be a number.
-/

namespace AlphE.Collectors

open Go

namespace Prom

/-! ### The grammar -/

def comparators : List String := [">", ">=", "<", "<=", "==", "!="]

/-- `metric:rate <metric> <comparator> <threshold>`. -/
def RateQuestion (question metric comparator : String) (threshold : Decimal) : Prop :=
  fields (trimSpace question) =
      ["metric:rate", metric, comparator, String.ofList threshold.text] ∧
    comparator ∈ comparators

/-- A question of the grammar. -/
def InGrammar (question : String) : Prop :=
  ∃ metric comparator threshold, RateQuestion question metric comparator threshold

/-- With the scanner of `%g`, up to the rounding of what it reads. -/
def Scanning (nearest : ℚ → ℚ) (fmt : Fmt) : Fmt := { fmt with scanG := scanFloat nearest }

/-- The questions of the grammar are read as they are written, and no others that
begin like them. -/
structure FollowsGrammar (nearest : ℚ → ℚ) (pq : ParsedQuery) (question : String) : Prop where
  rate_iff : pq.kind = .rate ↔ InGrammar question
  reads : ∀ metric comparator threshold, RateQuestion question metric comparator threshold →
    pq.comparator = comparator ∧ pq.threshold = .fin (nearest threshold.value)
  others : hasPrefix (trimSpace question) "metric:rate " = true → ¬ InGrammar question →
    pq.kind = .default

/-! ### What is read -/

section Read

variable {fmt : Fmt} {inp : CollectorInput}

theorem parseQuestion_of_begins
    (hbegins : hasPrefix (trimSpace inp.question) "metric:rate " = true) :
    parseQuestion fmt inp =
      parseRateQuestion fmt (trimSpace inp.question) (defaultNamespace inp.scopeServices) := by
  simp only [parseQuestion, hbegins, if_true]

/-- What is read of a question with a number in its fourth field. -/
theorem parseRateQuestion_of_scanG {q ns form metric comparator number : String}
    {rest : List String} {v : Float64}
    (hfields : fields q = form :: metric :: comparator :: number :: rest)
    (hscan : fmt.scanG number = some v) :
    parseRateQuestion fmt q ns =
      { kind := .rate, expr := selector fmt metric ns, comparator := comparator,
        threshold := v } := by
  simp only [parseRateQuestion, hfields, hscan]

theorem parseRateQuestion_cases (q ns : String) :
    parseRateQuestion fmt q ns = defaultQuery fmt ns ∨
      ∃ form metric comparator number rest v,
        fields q = form :: metric :: comparator :: number :: rest ∧
          fmt.scanG number = some v := by
  rw [parseRateQuestion]
  split
  · next form metric comparator number rest hfields =>
      cases hscan : fmt.scanG number with
      | none => exact .inl rfl
      | some v => exact .inr ⟨form, metric, comparator, number, rest, v, hfields, hscan⟩
  · exact .inl rfl

/-- A rate question begins like one and has a number in its fourth field. -/
theorem exists_of_kind_eq_rate (h : (parseQuestion fmt inp).kind = .rate) :
    hasPrefix (trimSpace inp.question) "metric:rate " = true ∧
      ∃ form metric comparator number rest v,
        fields (trimSpace inp.question) = form :: metric :: comparator :: number :: rest ∧
          fmt.scanG number = some v := by
  cases hbegins : hasPrefix (trimSpace inp.question) "metric:rate " with
  | true =>
      refine ⟨rfl, ?_⟩
      rw [parseQuestion_of_begins hbegins] at h
      rcases parseRateQuestion_cases (trimSpace inp.question)
        (defaultNamespace inp.scopeServices) with hdefault | hscan
      · rw [hdefault] at h
        cases h
      · exact hscan
  | false =>
      -- The other two kinds of question give no rate.
      exfalso
      simp only [parseQuestion, hbegins, Bool.false_eq_true, if_false] at h
      split at h
      · rw [parseValueQuestion] at h
        split at h <;> cases h
      · cases h

end Read

/-! ### Which questions are read as the grammar has them -/

section Grammar

variable {nearest : ℚ → ℚ} {fmt : Fmt} {inp : CollectorInput}

theorem parseQuestion_of_rateQuestion {metric comparator : String} {threshold : Decimal}
    (h : RateQuestion inp.question metric comparator threshold)
    (hbegins : hasPrefix (trimSpace inp.question) "metric:rate " = true)
    (hrange : |threshold.value| < floatLimit) :
    parseQuestion (Scanning nearest fmt) inp =
      { kind := .rate
        expr := selector (Scanning nearest fmt) metric (defaultNamespace inp.scopeServices)
        comparator := comparator
        threshold := .fin (nearest threshold.value) } := by
  have hscan : (Scanning nearest fmt).scanG (String.ofList threshold.text) =
      some (.fin (nearest threshold.value)) := by
    show scanFloat nearest _ = _
    rw [threshold.scanFloat_text, if_pos hrange]
  rw [parseQuestion_of_begins hbegins, parseRateQuestion_of_scanG h.1 hscan]

/-- **Which questions are read as the grammar has them.** A question of the grammar has
to have a plain space behind `metric:rate`, and a threshold in range. Another that
begins like one has to have less than four fields, or no number in the fourth. -/
theorem followsGrammar_iff (nearest : ℚ → ℚ) (fmt : Fmt) (inp : CollectorInput) :
    FollowsGrammar nearest (parseQuestion (Scanning nearest fmt) inp) inp.question ↔
      (∀ metric comparator threshold,
        RateQuestion inp.question metric comparator threshold →
          hasPrefix (trimSpace inp.question) "metric:rate " = true ∧
            |threshold.value| < floatLimit) ∧
        (¬ InGrammar inp.question →
          hasPrefix (trimSpace inp.question) "metric:rate " = true →
          ∀ form metric comparator number rest,
            fields (trimSpace inp.question) = form :: metric :: comparator :: number :: rest →
              scanFloat nearest number = none) := by
  constructor
  · intro h
    constructor
    · intro metric comparator threshold hquestion
      obtain ⟨hbegins, form, metric', comparator', number, rest, v, hfields, hscan⟩ :=
        exists_of_kind_eq_rate (h.rate_iff.mpr ⟨metric, comparator, threshold, hquestion⟩)
      refine ⟨hbegins, ?_⟩
      rw [hquestion.1] at hfields
      have hnumber : String.ofList threshold.text = number := by
        simp only [List.cons.injEq] at hfields
        exact hfields.2.2.2.1
      have hscan' : scanFloat nearest (String.ofList threshold.text) = some v := by
        rw [hnumber]
        exact hscan
      -- Out of range there is an error, and the scan gives nothing.
      by_contra hrange
      rw [threshold.scanFloat_text, if_neg hrange] at hscan'
      cases hscan'
    · intro hnot hbegins form metric comparator number rest hfields
      cases hscan : scanFloat nearest number with
      | none => rfl
      | some v =>
          have hdefault := h.others hbegins hnot
          have hscan' : (Scanning nearest fmt).scanG number = some v := hscan
          rw [parseQuestion_of_begins hbegins, parseRateQuestion_of_scanG hfields hscan']
            at hdefault
          cases hdefault
  · rintro ⟨hin, hout⟩
    have hrate : (parseQuestion (Scanning nearest fmt) inp).kind = .rate →
        InGrammar inp.question := by
      intro hkind
      obtain ⟨hbegins, form, metric, comparator, number, rest, v, hfields, hscan⟩ :=
        exists_of_kind_eq_rate hkind
      by_contra hnot
      have hnone := hout hnot hbegins form metric comparator number rest hfields
      exact absurd (hnone.symm.trans hscan) nofun
    refine ⟨⟨hrate, ?_⟩, ?_, ?_⟩
    · rintro ⟨metric, comparator, threshold, hquestion⟩
      obtain ⟨hbegins, hrange⟩ := hin _ _ _ hquestion
      rw [parseQuestion_of_rateQuestion hquestion hbegins hrange]
    · intro metric comparator threshold hquestion
      obtain ⟨hbegins, hrange⟩ := hin _ _ _ hquestion
      rw [parseQuestion_of_rateQuestion hquestion hbegins hrange]
      exact ⟨rfl, rfl⟩
    · intro hbegins hnot
      rcases parseRateQuestion_cases (trimSpace inp.question)
        (defaultNamespace inp.scopeServices) with hdefault | ⟨_, _, _, _, _, _, hfields, hscan⟩
      · rw [parseQuestion_of_begins hbegins, hdefault]
        rfl
      · refine absurd (hrate ?_) hnot
        rw [parseQuestion_of_begins hbegins, parseRateQuestion_of_scanG hfields hscan]

end Grammar

/-! ### A threshold with a unit -/

def testUnitRequest : CollectorInput :=
  { testRequest with question := "metric:rate up > 100Mi" }

def testHundred : Decimal where
  sign := none
  whole := ['1', '0', '0']
  fraction := none
  exponent := none
  whole_digits := by simp [Digits]
  fraction_digits := fun _ => nofun
  digits_ne := List.cons_ne_nil _ _

theorem value_testHundred : testHundred.value = 100 := by
  have hdigits : digitsValue 10 ['1', '0', '0'] = 100 := by decide
  simp [Decimal.value, testHundred, hdigits]

/-- The unit is left alone. -/
theorem scanFloat_unit (nearest : ℚ → ℚ) :
    scanFloat nearest "100Mi" = some (.fin (nearest 100)) := by
  have htoken : floatToken "100Mi".toList = testHundred.text := by decide
  have hrange : |testHundred.value| < floatLimit := by
    rw [value_testHundred]
    exact lt_trans (by norm_num) lt_floatLimit
  rw [scanFloat, htoken, testHundred.convertFloat_text, if_pos hrange, value_testHundred]

theorem not_followsGrammar :
    ¬ ∀ (nearest : ℚ → ℚ) (fmt : Fmt) (inp : CollectorInput),
      FollowsGrammar nearest (parseQuestion (Scanning nearest fmt) inp) inp.question := by
  intro h
  have hfollows := h id testCollectEnv.put.fmt testUnitRequest
  have hbegins : hasPrefix (trimSpace testUnitRequest.question) "metric:rate " = true := by decide
  have hfields : fields (trimSpace testUnitRequest.question) =
      ["metric:rate", "up", ">", "100Mi"] := by
    decide
  have hscan : (Scanning id testCollectEnv.put.fmt).scanG "100Mi" = some (.fin 100) :=
    scanFloat_unit id
  have hkind : (parseQuestion (Scanning id testCollectEnv.put.fmt) testUnitRequest).kind =
      .rate := by
    rw [parseQuestion_of_begins hbegins, parseRateQuestion_of_scanG hfields hscan]
  obtain ⟨metric, comparator, threshold, hquestion, -⟩ := hfollows.rate_iff.mp hkind
  rw [hfields] at hquestion
  have htext : "100Mi" = String.ofList threshold.text := by
    simp only [List.cons.injEq] at hquestion
    exact hquestion.2.2.2.1
  have hmem : 'M' ∈ threshold.text := by
    rw [← String.toList_ofList (l := threshold.text), ← htext]
    decide
  exact absurd (threshold.isNumeric_of_mem_text hmem) (by decide)

end Prom

end AlphE.Collectors
