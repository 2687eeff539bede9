import AlphE.Collectors.PromOrder
import AlphE.Lib.Separators

/-!
The first row of a vector. It is all that a finding of a `metric:value` question, or
of the default one, is made of: its value, its labels and its timestamp, in seconds.
-/

namespace AlphE.Collectors

open Go Separators

namespace Prom

/-! ### What is seen of a row -/

/-- The text a value has in the summary. -/
def shownValue (fmt : Fmt) (kind : QueryKind) (v : Float64) : String :=
  match kind with
  | .default => fmt.format0f v
  | _ => fmt.format4g v

/-- The text the labels have in the summary. -/
def shownLabels (kind : QueryKind) (labels : Labels) : String :=
  match kind with
  | .default =>
      "reason=" ++ (labels.get? "reason").getD "" ++
        ", namespace=" ++ (labels.get? "namespace").getD "" ++
        ", pod=" ++ (labels.get? "pod").getD ""
  | _ => labelsText labels

/-- Two values lead to the same confidence. A tenth that is not positive counts as none, and
from one on as one; a value that is positive is not looked at any further. -/
def RatedAlike (kind : QueryKind) (v v' : Float64) : Prop :=
  match kind with
  | .default =>
      v.quo (.fin 10) = v'.quo (.fin 10) ∨
        Float64.lt (.fin 0) (v.quo (.fin 10)) = false ∧
          Float64.lt (.fin 0) (v'.quo (.fin 10)) = false ∨
        Float64.le (.fin 1) (v.quo (.fin 10)) = true ∧
          Float64.le (.fin 1) (v'.quo (.fin 10)) = true
  | _ =>
      Float64.lt (.fin 0) v = true ∧ Float64.lt (.fin 0) v' = true ∨
        Float64.lt (.fin 0) v = false ∧ Float64.lt (.fin 0) v' = false ∧
          v.quo (.fin 1000000000) = v'.quo (.fin 1000000000)

/-- Two rows, each with labels and a sample, are shown and rated alike. -/
structure ReadAlike (fmt : Fmt) (kind : QueryKind) (s s' : Sample) (labels labels' : Labels) :
    Prop where
  value : shownValue fmt kind s.value = shownValue fmt kind s'.value
  time : s.timestamp.rfc3339 = s'.timestamp.rfc3339
  labels : shownLabels kind labels = shownLabels kind labels'
  rated : RatedAlike kind s.value s'.value

/-- Two rows say the same: both fail alike, or both have no labels, or both are shown
and rated alike. -/
def Http.RowsAgree (http : Http) (fmt : Fmt) (kind : QueryKind) (row row' : VectorResult) :
    Prop :=
  match http.parseSample row.value, http.parseSample row'.value with
  | .error err, .error err' => err = err'
  | .ok s, .ok s' =>
      match row.metric, row'.metric with
      | none, none => True
      | some labels, some labels' => ReadAlike fmt kind s s' labels labels'
      | _, _ => False
  | _, _ => False

/-! ### The confidence of a value -/

/-- What is not positive is not cut off. -/
theorem min_one_of_not_pos {x : Float64} (h : Float64.lt (.fin 0) x = false) :
    Float64.min (.fin 1) x = x ∧ x ≠ .fin 1 := by
  cases x with
  | nan => exact ⟨rfl, nofun⟩
  | inf negative =>
      cases negative with
      | false => cases h
      | true => exact ⟨rfl, nofun⟩
  | fin q =>
      have hq : q ≤ 0 := by simpa [Float64.lt] using h
      have hlt : q < 1 := lt_of_le_of_lt hq zero_lt_one
      rw [min_one_fin, min_eq_right (le_of_lt hlt)]
      exact ⟨rfl, fun heq => ne_of_lt hlt (Float64.fin.inj heq)⟩

/-- The confidence of a `metric:value` question. -/
theorem ratedAlike_value_iff (v v' : Float64) :
    (if Float64.lt (.fin 0) v then .fin 1
      else Float64.min (.fin 1) (v.quo (.fin 1000000000))) =
      (if Float64.lt (.fin 0) v' then .fin 1
        else Float64.min (.fin 1) (v'.quo (.fin 1000000000))) ↔
      RatedAlike .value v v' := by
  have hpos : (0 : ℚ) < 1000000000 := by decide
  have hcut {v : Float64} (h : Float64.lt (.fin 0) v = false) :=
    min_one_of_not_pos (Float64.lt_zero_quo_of_not_pos hpos h)
  simp only [RatedAlike]
  cases hv : Float64.lt (.fin 0) v with
  | true =>
      cases hv' : Float64.lt (.fin 0) v' with
      | true => exact iff_of_true rfl (.inl ⟨rfl, rfl⟩)
      | false =>
          -- One against less than one.
          obtain ⟨hmin, hne⟩ := hcut hv'
          rw [if_pos rfl, if_neg nofun, hmin]
          exact iff_of_false (fun heq => hne heq.symm) (by simp)
  | false =>
      obtain ⟨hmin, hne⟩ := hcut hv
      rw [if_neg nofun, hmin]
      cases hv' : Float64.lt (.fin 0) v' with
      | true =>
          rw [if_pos rfl]
          exact iff_of_false hne (by simp)
      | false =>
          rw [if_neg nofun, (hcut hv').1]
          simp

/-- The share that is left of a number: none of what is not positive, and one at most. -/
def share (x : Float64) : Float64 :=
  if Float64.lt (.fin 0) x then Float64.min (.fin 1) x else .fin 0

/-- What is left is a number from zero to one; below one it tells where it is from. -/
theorem exists_share (x : Float64) :
    ∃ r : ℚ, share x = .fin r ∧ (Float64.lt (.fin 0) x = false → r = 0) ∧
      (Float64.le (.fin 1) x = true → r = 1) ∧
      (Float64.lt (.fin 0) x = true → Float64.le (.fin 1) x = false →
        0 < r ∧ r < 1 ∧ x = .fin r) := by
  rw [share]
  cases x with
  | nan => exact ⟨0, rfl, fun _ => rfl, nofun, nofun⟩
  | inf negative =>
      cases negative with
      | false => exact ⟨1, rfl, nofun, fun _ => rfl, nofun⟩
      | true => exact ⟨0, rfl, fun _ => rfl, nofun, nofun⟩
  | fin q =>
      have hle : Float64.le (.fin 1) (.fin q) = true ↔ 1 ≤ q := by
        simp [Float64.le, Float64.lt, Float64.eq, le_iff_lt_or_eq]
      by_cases hq : 0 < q
      · have hlt : Float64.lt (.fin 0) (.fin q) = true := decide_eq_true hq
        rw [if_pos hlt, min_one_fin]
        refine ⟨_, rfl, fun h => ?_, fun h => min_eq_left (hle.mp h), fun _ h => ?_⟩
        · rw [hlt] at h
          cases h
        · have hsmall : q < 1 := by
            rw [← not_le, ← hle, h]
            exact Bool.false_ne_true
          rw [min_eq_right (le_of_lt hsmall)]
          exact ⟨hq, hsmall, rfl⟩
      · have hlt : Float64.lt (.fin 0) (.fin q) = false := decide_eq_false hq
        rw [if_neg (by rw [hlt]; exact Bool.false_ne_true)]
        refine ⟨0, rfl, fun _ => rfl, fun h => ?_, fun h => ?_⟩
        · exact absurd (lt_of_lt_of_le zero_lt_one (hle.mp h)) hq
        · rw [hlt] at h
          cases h

theorem share_eq_iff (x x' : Float64) :
    share x = share x' ↔
      x = x' ∨ Float64.lt (.fin 0) x = false ∧ Float64.lt (.fin 0) x' = false ∨
        Float64.le (.fin 1) x = true ∧ Float64.le (.fin 1) x' = true := by
  obtain ⟨r, hr, hnone, hone, hpart⟩ := exists_share x
  obtain ⟨r', hr', hnone', hone', hpart'⟩ := exists_share x'
  constructor
  · intro heq
    rw [hr, hr', Float64.fin.injEq] at heq
    subst heq
    cases hlt : Float64.lt (.fin 0) x with
    | false =>
        obtain rfl := hnone hlt
        cases hlt' : Float64.lt (.fin 0) x' with
        | false => exact .inr (.inl ⟨rfl, rfl⟩)
        | true =>
            cases hle' : Float64.le (.fin 1) x' with
            | true => exact absurd (hone' hle') (by decide)
            | false => exact absurd (hpart' hlt' hle').1 (lt_irrefl 0)
    | true =>
        cases hle : Float64.le (.fin 1) x with
        | true =>
            obtain rfl := hone hle
            cases hle' : Float64.le (.fin 1) x' with
            | true => exact .inr (.inr ⟨rfl, rfl⟩)
            | false =>
                cases hlt' : Float64.lt (.fin 0) x' with
                | false => exact absurd (hnone' hlt') (by decide)
                | true => exact absurd (hpart' hlt' hle').2.1 (lt_irrefl 1)
        | false =>
            obtain ⟨hpos, hsmall, hx⟩ := hpart hlt hle
            left
            cases hle' : Float64.le (.fin 1) x' with
            | true => exact absurd (hone' hle') (ne_of_lt hsmall)
            | false =>
                cases hlt' : Float64.lt (.fin 0) x' with
                | false => exact absurd (hnone' hlt') (ne_of_gt hpos)
                | true => exact hx.trans (hpart' hlt' hle').2.2.symm
  · rintro (rfl | ⟨hlt, hlt'⟩ | ⟨hle, hle'⟩)
    · rfl
    · rw [hr, hr', hnone hlt, hnone' hlt']
    · rw [hr, hr', hone hle, hone' hle']

/-- What a count is rated at is the share of its tenth: no tenth of what is not positive is,
and a tenth that has become zero is no share. -/
theorem share_quo_ten (v : Float64) :
    (if Float64.lt (.fin 0) v then Float64.min (.fin 1) (v.quo (.fin 10)) else .fin 0) =
      share (v.quo (.fin 10)) := by
  have hten : (0 : ℚ) < 10 := by decide
  cases hv : Float64.lt (.fin 0) v with
  | false =>
      rw [if_neg Bool.false_ne_true, share, Float64.lt_zero_quo_of_not_pos hten hv,
        if_neg Bool.false_ne_true]
  | true =>
      rw [if_pos rfl]
      obtain hinf | ⟨r, hr, hnonneg⟩ := Float64.quo_of_pos hten hv
      · rw [hinf]
        rfl
      · rw [hr, share]
        split
        · rfl
        · next hzero =>
            have hr0 : r = 0 := by
              have hnot : ¬ 0 < r := fun hpos => hzero (decide_eq_true hpos)
              exact le_antisymm (not_lt.mp hnot) hnonneg
            rw [hr0, min_one_fin, min_eq_right zero_le_one]

/-- The confidence of the default question. -/
theorem ratedAlike_default_iff (v v' : Float64) :
    (if Float64.lt (.fin 0) v then Float64.min (.fin 1) (v.quo (.fin 10)) else .fin 0) =
      (if Float64.lt (.fin 0) v' then Float64.min (.fin 1) (v'.quo (.fin 10)) else .fin 0) ↔
      RatedAlike .default v v' := by
  rw [share_quo_ten, share_quo_ten]
  exact share_eq_iff _ _

/-- The confidence of a value, for the kind of question that is asked. -/
def ratedConfidence (kind : QueryKind) (v : Float64) : Float64 :=
  match kind with
  | .default =>
      if Float64.lt (.fin 0) v then Float64.min (.fin 1) (v.quo (.fin 10)) else .fin 0
  | _ =>
      if Float64.lt (.fin 0) v then .fin 1
      else Float64.min (.fin 1) (v.quo (.fin 1000000000))

theorem ratedAlike_iff (kind : QueryKind) (v v' : Float64) :
    ratedConfidence kind v = ratedConfidence kind v' ↔ RatedAlike kind v v' := by
  cases kind with
  | rate => exact ratedAlike_value_iff v v'
  | value => exact ratedAlike_value_iff v v'
  | default => exact ratedAlike_default_iff v v'

/-! ### The summary of a row -/

/-- Numbers are formatted without a space. -/
structure OneWord (fmt : Fmt) : Prop where
  format4g : ∀ v, ' ' ∉ (fmt.format4g v).toList
  format0f : ∀ v, ' ' ∉ (fmt.format0f v).toList

theorem OneWord.shownValue {fmt : Fmt} (h : OneWord fmt) (kind : QueryKind) (v : Float64) :
    ' ' ∉ (shownValue fmt kind v).toList := by
  cases kind with
  | rate => exact h.format4g v
  | value => exact h.format4g v
  | default => exact h.format0f v

/-- The summary without a row, or with one that has no labels. -/
def noDataText (pq : ParsedQuery) (tr : TimeRange) : String :=
  match pq.kind with
  | .default =>
      "no OOM termination data for query " ++ pq.expr ++ " at " ++ tr.stop.rfc3339
  | _ => "no data for " ++ pq.expr ++ " at " ++ tr.stop.rfc3339

def foundText (fmt : Fmt) (pq : ParsedQuery) (s : Sample) (labels : Labels) : String :=
  match pq.kind with
  | .default =>
      "OOM terminations: " ++ shownValue fmt pq.kind s.value ++ " (" ++
        shownLabels pq.kind labels ++ ") at " ++ s.timestamp.rfc3339
  | _ =>
      pq.expr ++ " = " ++ shownValue fmt pq.kind s.value ++ " at " ++
        s.timestamp.rfc3339 ++ " (metric labels: " ++ shownLabels pq.kind labels ++ ")"

theorem foundText_eq_iff {fmt : Fmt} (hfmt : OneWord fmt) (pq : ParsedQuery) (s s' : Sample)
    (labels labels' : Labels) :
    foundText fmt pq s labels = foundText fmt pq s' labels' ↔
      shownValue fmt pq.kind s.value = shownValue fmt pq.kind s'.value ∧
        s.timestamp.rfc3339 = s'.timestamp.rfc3339 ∧
        shownLabels pq.kind labels = shownLabels pq.kind labels' := by
  have hvalue := hfmt.shownValue pq.kind s.value
  have hvalue' := hfmt.shownValue pq.kind s'.value
  have htime := s.timestamp.space_notMem_rfc3339
  have htime' := s'.timestamp.space_notMem_rfc3339
  have hat : " at ".toList = ' ' :: "at ".toList := rfl
  have hopen : " (".toList = ' ' :: "(".toList := rfl
  have hlabels : " (metric labels: ".toList = ' ' :: "(metric labels: ".toList := rfl
  have hclose : ") at ".toList = ") at".toList ++ [' '] := rfl
  rw [foundText, foundText]
  generalize pq.kind = kind at *
  -- The labels stand between spaces of their own, or at the end.
  have hvalueLabels : pq.expr ++ " = " ++ shownValue fmt kind s.value ++ " at " ++
      s.timestamp.rfc3339 ++ " (metric labels: " ++ shownLabels kind labels ++ ")" =
      pq.expr ++ " = " ++ shownValue fmt kind s'.value ++ " at " ++
        s'.timestamp.rfc3339 ++ " (metric labels: " ++ shownLabels kind labels' ++ ")" ↔
      shownValue fmt kind s.value = shownValue fmt kind s'.value ∧
        s.timestamp.rfc3339 = s'.timestamp.rfc3339 ∧
        shownLabels kind labels = shownLabels kind labels' := by
    rw [String.append_left_inj]
    simp only [String.append_assoc, String.append_right_inj]
    rw [← String.toList_inj]
    simp only [String.toList_append, hat, hlabels, List.cons_append]
    rw [append_cons_inj_left hvalue hvalue', List.append_cancel_left_eq,
      append_cons_inj_left htime htime', List.append_cancel_left_eq, String.toList_inj,
      String.toList_inj, String.toList_inj]
  cases kind with
  | rate => exact hvalueLabels
  | value => exact hvalueLabels
  | default =>
      simp only [String.append_assoc, String.append_right_inj]
      rw [← String.toList_inj]
      simp only [String.toList_append, hopen, hclose, List.cons_append, List.append_assoc,
        List.nil_append]
      rw [append_cons_inj_left hvalue hvalue', List.append_cancel_left_eq,
        ← List.append_assoc, ← List.append_assoc, append_cons_inj_right htime htime',
        List.append_cancel_right_eq, String.toList_inj, String.toList_inj, String.toList_inj,
        and_comm (a := shownLabels _ _ = _)]

/-! ### The finding of a vector -/

/-- The query of a question that is no rate. -/
def dispatchInstant (fmt : Fmt) (client : Client) (pq : ParsedQuery) (tr : TimeRange) :
    DispatchResult :=
  match pq.kind with
  | .default => dispatchDefault Float64.quo fmt client pq tr
  | _ => dispatchValue Float64.quo fmt client pq tr

section Instant

variable (fmt : Fmt) {client : Client} {pq : ParsedQuery} {tr : TimeRange}

theorem dispatchInstant_of_error {err : QueryError}
    (h : client.queryInstant pq.expr tr.stop = .error err) :
    dispatchInstant fmt client pq tr = errResult err := by
  rw [dispatchInstant, dispatchDefault, dispatchValue]
  simp only [h]
  cases pq.kind <;> rfl

theorem dispatchInstant_of_none {result : InstantResult}
    (h : client.queryInstant pq.expr tr.stop = .ok result) (hmetric : result.metric = none) :
    (dispatchInstant fmt client pq tr).summary = utf8 (noDataText pq tr) ∧
      (dispatchInstant fmt client pq tr).confidence = .fin 0 := by
  rw [dispatchInstant, dispatchDefault, dispatchValue, noDataText]
  simp only [h, hmetric]
  cases pq.kind <;> exact ⟨rfl, rfl⟩

theorem dispatchInstant_of_some {result : InstantResult} {labels : Labels}
    (h : client.queryInstant pq.expr tr.stop = .ok result)
    (hmetric : result.metric = some labels) :
    (dispatchInstant fmt client pq tr).summary =
        utf8 (foundText fmt pq result.value labels) ∧
      (dispatchInstant fmt client pq tr).confidence =
        ratedConfidence pq.kind result.value.value := by
  cases hkind : pq.kind with
  | rate =>
      simp only [dispatchInstant, foundText, hkind, dispatchValue, h, hmetric]
      exact ⟨rfl, rfl⟩
  | value =>
      simp only [dispatchInstant, foundText, hkind, dispatchValue, h, hmetric]
      exact ⟨rfl, rfl⟩
  | default =>
      have hreason : " (reason=" = " (" ++ "reason=" := rfl
      simp only [dispatchInstant, foundText, hkind, dispatchDefault, h, hmetric, shownLabels,
        shownValue, hreason, String.append_assoc, true_and]
      rfl

end Instant

/-- The summary a row leads to. -/
def Http.rowSummary (http : Http) (fmt : Fmt) (pq : ParsedQuery) (tr : TimeRange)
    (row : VectorResult) : GoString :=
  match http.parseSample row.value with
  | .error err => utf8 "prometheus query error: " ++ err
  | .ok s =>
      match row.metric with
      | none => utf8 (noDataText pq tr)
      | some labels => utf8 (foundText fmt pq s labels)

/-- The confidence a row leads to. -/
def Http.rowConfidence (http : Http) (kind : QueryKind) (row : VectorResult) : Float64 :=
  match http.parseSample row.value with
  | .error _ => .fin 0
  | .ok s =>
      match row.metric with
      | none => .fin 0
      | some _ => ratedConfidence kind s.value

section Rows

variable {http : Http} {resp resp' : HttpResponse} {fmt : Fmt} {pq : ParsedQuery}
  {tr : TimeRange}

theorem queryInstant_respond (haccepts : http.Accepts resp) (hwindow : tr.stop.isZero = false)
    {row : VectorResult} {rest : List VectorResult}
    (hrows : http.vector resp = .ok (row :: rest)) (expr : String) :
    (http.respond resp).queryInstant expr tr.stop =
      match http.parseSample row.value with
      | .error err => .error { rawBody := resp.body, text := err }
      | .ok s => .ok { metric := row.metric, value := s, rawBody := resp.body } := by
  have hrows' : (http.respond resp).rows "vector" (http.respond resp).decodeVector resp.body =
      .ok (row :: rest) := hrows
  rw [Http.queryInstant, hwindow, if_neg (by decide)]
  simp only [Http.doGet_respond haccepts]
  rw [hrows']
  rfl

/-- Rows that cannot be decoded. -/
theorem dispatchInstant_of_undecoded (fmt : Fmt) (pq : ParsedQuery)
    (haccepts : http.Accepts resp) (hwindow : tr.stop.isZero = false) {err : GoString}
    (herr : http.vector resp = .error err) :
    dispatchInstant fmt (http.respond resp).client pq tr =
      errResult { rawBody := resp.body, text := err } := by
  have herr' : (http.respond resp).rows "vector" (http.respond resp).decodeVector resp.body =
      .error err := herr
  have hquery : (http.respond resp).client.queryInstant pq.expr tr.stop =
      .error { rawBody := resp.body, text := err } := by
    show (http.respond resp).queryInstant pq.expr tr.stop = _
    rw [Http.queryInstant, hwindow, if_neg (by decide)]
    simp only [Http.doGet_respond haccepts]
    rw [herr']
  exact dispatchInstant_of_error fmt hquery

/-- Without a row there are no data. -/
theorem dispatchInstant_of_nil (fmt : Fmt) (pq : ParsedQuery) (haccepts : http.Accepts resp)
    (hwindow : tr.stop.isZero = false) (hrows : http.vector resp = .ok []) :
    (dispatchInstant fmt (http.respond resp).client pq tr).summary = utf8 (noDataText pq tr) ∧
      (dispatchInstant fmt (http.respond resp).client pq tr).confidence = .fin 0 := by
  have hrows' : (http.respond resp).rows "vector" (http.respond resp).decodeVector resp.body =
      .ok [] := hrows
  have hquery : (http.respond resp).client.queryInstant pq.expr tr.stop =
      .ok { metric := none
            value := { timestamp := { nanos := Time.zeroNanos }, value := .fin 0 }
            rawBody := resp.body } := by
    show (http.respond resp).queryInstant pq.expr tr.stop = _
    rw [Http.queryInstant, hwindow, if_neg (by decide)]
    simp only [Http.doGet_respond haccepts]
    rw [hrows']
  exact dispatchInstant_of_none fmt hquery rfl

/-- Only the first row is looked at. -/
theorem dispatchInstant_of_row (fmt : Fmt) (pq : ParsedQuery) (haccepts : http.Accepts resp)
    (hwindow : tr.stop.isZero = false) {row : VectorResult} {rest : List VectorResult}
    (hrows : http.vector resp = .ok (row :: rest)) :
    (dispatchInstant fmt (http.respond resp).client pq tr).summary =
        http.rowSummary fmt pq tr row ∧
      (dispatchInstant fmt (http.respond resp).client pq tr).confidence =
        http.rowConfidence pq.kind row := by
  have hquery : (http.respond resp).client.queryInstant pq.expr tr.stop = _ :=
    queryInstant_respond haccepts hwindow hrows pq.expr
  cases hsample : http.parseSample row.value with
  | error err =>
      simp only [hsample] at hquery
      rw [dispatchInstant_of_error fmt hquery]
      simp only [Http.rowSummary, Http.rowConfidence, hsample]
      exact ⟨rfl, rfl⟩
  | ok s =>
      simp only [hsample] at hquery
      cases hmetric : row.metric with
      | none =>
          have hnone := dispatchInstant_of_none fmt hquery hmetric
          simpa only [Http.rowSummary, Http.rowConfidence, hsample, hmetric] using hnone
      | some labels =>
          have hsome := dispatchInstant_of_some fmt hquery hmetric
          simpa only [Http.rowSummary, Http.rowConfidence, hsample, hmetric] using hsome

/-- The query of a `metric:value` question begins with a word that ends in a brace. -/
def BeginsWithMetric (pq : ParsedQuery) : Prop :=
  ∃ metric rest, pq.expr.toList = metric ++ '\x7b' :: rest ∧ ' ' ∉ metric

/-! ### Three shapes of a summary -/

theorem exists_errorText (err : GoString) :
    ∃ rest, utf8 "prometheus query error: " ++ err = utf8 "prometheus" ++ .rune ' ' :: rest := by
  have herror : utf8 "prometheus query error: " =
      utf8 "prometheus" ++ .rune ' ' :: utf8 "query error: " := rfl
  rw [herror, List.append_assoc, List.cons_append]
  exact ⟨_, rfl⟩

theorem exists_noDataText (pq : ParsedQuery) (tr : TimeRange) :
    ∃ rest, utf8 (noDataText pq tr) = utf8 "no" ++ .rune ' ' :: rest := by
  have hdata : utf8 "no data for " = utf8 "no" ++ .rune ' ' :: utf8 "data for " := rfl
  have hoom : utf8 "no OOM termination data for query " =
      utf8 "no" ++ .rune ' ' :: utf8 "OOM termination data for query " := rfl
  rw [noDataText]
  cases pq.kind with
  | rate =>
      simp only [utf8_append, hdata, List.append_assoc, List.cons_append]
      exact ⟨_, rfl⟩
  | value =>
      simp only [utf8_append, hdata, List.append_assoc, List.cons_append]
      exact ⟨_, rfl⟩
  | default =>
      simp only [utf8_append, hoom, List.append_assoc, List.cons_append]
      exact ⟨_, rfl⟩

/-- A summary of a row with labels begins otherwise than one without. -/
theorem foundText_ne {word : String} (hspace : ' ' ∉ word.toList)
    (hbrace : '\x7b' ∉ word.toList) (hword : word ≠ "OOM") (hkind : pq.kind ≠ .rate)
    (hbegins : pq.kind = .value → BeginsWithMetric pq) (s : Sample) (labels : Labels)
    (rest : GoString) :
    utf8 (foundText fmt pq s labels) ≠ utf8 word ++ .rune ' ' :: rest := by
  rw [foundText]
  cases hpq : pq.kind with
  | rate => exact absurd hpq hkind
  | value =>
      obtain ⟨metric, tail, hexpr, hmetric⟩ := hbegins hpq
      have hsplit : utf8 pq.expr = metric.map .rune ++ .rune '\x7b' :: tail.map .rune := by
        rw [utf8, hexpr, List.map_append, List.map_cons]
      simp only [utf8_append, hsplit, List.append_assoc, List.cons_append]
      -- One ends in a brace, the other in a space.
      exact append_cons_ne (by decide) (rune_notMem_map hmetric) (rune_notMem_map hbrace)
  | default =>
      have hoom : utf8 "OOM terminations: " =
          utf8 "OOM" ++ .rune ' ' :: utf8 "terminations: " := rfl
      simp only [utf8_append, hoom, List.append_assoc, List.cons_append]
      intro heq
      rw [append_cons_inj_left (by decide) (rune_notMem_utf8 hspace)] at heq
      exact hword (utf8_injective heq.1.symm)

/-! ### The order of the rows -/

theorem rowsAgree_iff (hfmt : OneWord fmt) (hkind : pq.kind ≠ .rate)
    (hbegins : pq.kind = .value → BeginsWithMetric pq) (tr : TimeRange)
    (row row' : VectorResult) :
    http.rowSummary fmt pq tr row = http.rowSummary fmt pq tr row' ∧
        http.rowConfidence pq.kind row = http.rowConfidence pq.kind row' ↔
      http.RowsAgree fmt pq.kind row row' := by
  obtain ⟨noData, hnoData⟩ := exists_noDataText pq tr
  have herrorNe : ∀ err, utf8 "prometheus query error: " ++ err ≠ utf8 (noDataText pq tr) := by
    intro err heq
    obtain ⟨rest, herror⟩ := exists_errorText err
    rw [herror, hnoData, append_cons_inj_left (by decide) (by decide)] at heq
    exact absurd (utf8_injective heq.1) (by decide)
  have hfoundNe : ∀ s labels,
      (∀ err, utf8 (foundText fmt pq s labels) ≠ utf8 "prometheus query error: " ++ err) ∧
        utf8 (foundText fmt pq s labels) ≠ utf8 (noDataText pq tr) := by
    intro s labels
    constructor
    · intro err
      obtain ⟨rest, herror⟩ := exists_errorText err
      rw [herror]
      exact foundText_ne (by decide) (by decide) (by decide) hkind hbegins s labels rest
    · rw [hnoData]
      exact foundText_ne (by decide) (by decide) (by decide) hkind hbegins s labels noData
  simp only [Http.rowSummary, Http.rowConfidence, Http.RowsAgree]
  cases http.parseSample row.value with
  | error err =>
      cases http.parseSample row'.value with
      | error err' => simp only [List.append_cancel_left_eq, and_true]
      | ok s' =>
          cases row'.metric with
          | none => exact iff_of_false (fun h => herrorNe err h.1) id
          | some labels' => exact iff_of_false (fun h => (hfoundNe s' labels').1 err h.1.symm) id
  | ok s =>
      cases http.parseSample row'.value with
      | error err' =>
          cases row.metric with
          | none => exact iff_of_false (fun h => herrorNe err' h.1.symm) id
          | some labels => exact iff_of_false (fun h => (hfoundNe s labels).1 err' h.1) id
      | ok s' =>
          cases row.metric with
          | none =>
              cases row'.metric with
              | none => exact iff_of_true ⟨rfl, rfl⟩ trivial
              | some labels' =>
                  exact iff_of_false (fun h => (hfoundNe s' labels').2 h.1.symm) id
          | some labels =>
              cases row'.metric with
              | none => exact iff_of_false (fun h => (hfoundNe s labels).2 h.1) id
              | some labels' =>
                  simp only
                  rw [ratedAlike_iff]
                  constructor
                  · rintro ⟨htext, hrated⟩
                    obtain ⟨hvalue, htime, hlabels⟩ :=
                      (foundText_eq_iff hfmt pq s s' labels labels').mp (utf8_injective htext)
                    exact ⟨hvalue, htime, hlabels, hrated⟩
                  · intro h
                    refine ⟨congrArg utf8 ?_, h.rated⟩
                    exact (foundText_eq_iff hfmt pq s s' labels labels').mpr
                      ⟨h.value, h.time, h.labels⟩

/-- The first rows of a vector in two orders say the same. -/
def Http.FirstRowsAgree (http : Http) (fmt : Fmt) (kind : QueryKind)
    (rows rows' : List VectorResult) : Prop :=
  match rows, rows' with
  | [], [] => True
  | row :: _, row' :: _ => http.RowsAgree fmt kind row row'
  | _, _ => False

theorem sameReport_instant_iff (hfmt : OneWord fmt) (hkind : pq.kind ≠ .rate)
    (hbegins : pq.kind = .value → BeginsWithMetric pq) (hwindow : tr.stop.isZero = false)
    {rows rows' : List VectorResult} (haccepts : http.Accepts resp)
    (hrows : http.vector resp = .ok rows) (haccepts' : http.Accepts resp')
    (hrows' : http.vector resp' = .ok rows') (hperm : rows.Perm rows') :
    SameReport (dispatchInstant fmt (http.respond resp).client pq tr)
        (dispatchInstant fmt (http.respond resp').client pq tr) ↔
      http.FirstRowsAgree fmt pq.kind rows rows' := by
  cases rows with
  | nil =>
      obtain rfl := List.nil_perm.mp hperm
      have hnone := dispatchInstant_of_nil fmt pq haccepts hwindow hrows
      have hnone' := dispatchInstant_of_nil fmt pq haccepts' hwindow hrows'
      exact iff_of_true ⟨hnone.1.trans hnone'.1.symm, hnone.2.trans hnone'.2.symm⟩ trivial
  | cons row rest =>
      cases rows' with
      | nil => exact absurd hperm.length_eq (by simp)
      | cons row' rest' =>
          obtain ⟨hsummary, hconfidence⟩ :=
            dispatchInstant_of_row fmt pq haccepts hwindow hrows
          obtain ⟨hsummary', hconfidence'⟩ :=
            dispatchInstant_of_row fmt pq haccepts' hwindow hrows'
          rw [Http.FirstRowsAgree, ← rowsAgree_iff hfmt hkind hbegins tr row row', ← hsummary,
            ← hsummary', ← hconfidence, ← hconfidence']
          exact ⟨fun h => ⟨h.summary, h.confidence⟩, fun h => ⟨h.1, h.2⟩⟩

end Rows

end Prom

end AlphE.Collectors
