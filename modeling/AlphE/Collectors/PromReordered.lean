import AlphE.Collectors.PromRows
import AlphE.Collectors.PromWire

/-!
Which findings of the prom collector do not depend on the order of the rows, for every
kind of question.
-/

namespace AlphE.Collectors

open Go Fallible

namespace Prom

/-! ### Which findings do not depend on the order -/

theorem beginsWithMetric_of_kind {fmt : Fmt} {inp : CollectorInput}
    (h : (parseQuestion fmt inp).kind = .value) : BeginsWithMetric (parseQuestion fmt inp) := by
  rw [parseQuestion] at h ⊢
  split at h
  · next hrate =>
      rw [parseRateQuestion] at h
      split at h
      · split at h
        · cases h
        · cases h
      · cases h
  · next hrate =>
      rw [if_neg hrate]
      split at h
      · next hvalue =>
          rw [if_pos hvalue]
          rw [parseValueQuestion] at h ⊢
          split at h
          · next form metric rest hfields =>
              have hmem : metric ∈ fields (trimSpace inp.question) := by
                rw [hfields]
                simp
              have hmetric := (mem_fields hmem).2
              exact ⟨metric.toList, _, toList_selector fmt metric _,
                fun hspace => absurd (hmetric ' ' hspace) (by decide)⟩
          · cases h
      · cases h

section OrderFree

variable {http : Http} {fmt : Fmt} {inp : CollectorInput} {resp resp' : HttpResponse}

theorem dispatch_of_rate (client : Client) (hkind : (parseQuestion fmt inp).kind = .rate) :
    dispatch Float64.quo fmt client inp =
      dispatchRate Float64.quo fmt client (parseQuestion fmt inp) inp.timeRange := by
  simp only [dispatch, hkind]

theorem dispatch_of_instant (client : Client) (hkind : (parseQuestion fmt inp).kind ≠ .rate) :
    dispatch Float64.quo fmt client inp =
      dispatchInstant fmt client (parseQuestion fmt inp) inp.timeRange := by
  cases hpq : (parseQuestion fmt inp).kind with
  | rate => exact absurd hpq hkind
  | value => simp only [dispatch, dispatchInstant, hpq]
  | default => simp only [dispatch, dispatchInstant, hpq]

theorem apiRequest_of_rate {pq : ParsedQuery} {tr : TimeRange} (hkind : pq.kind = .rate) :
    apiRequest pq tr = none ↔
      (tr.start.isZero || tr.stop.isZero || !tr.stop.after tr.start) = true := by
  simp only [apiRequest, hkind, ite_eq_left_iff, reduceCtorEq, imp_false, not_not]

theorem apiRequest_of_instant {pq : ParsedQuery} {tr : TimeRange} (hkind : pq.kind ≠ .rate) :
    apiRequest pq tr = none ↔ tr.stop.isZero = true := by
  cases hpq : pq.kind with
  | rate => exact absurd hpq hkind
  | value => simp only [apiRequest, hpq, ite_eq_left_iff, reduceCtorEq, imp_false, not_not]
  | default => simp only [apiRequest, hpq, ite_eq_left_iff, reduceCtorEq, imp_false, not_not]

/-- A window that is refused is refused before anything is asked. -/
theorem dispatch_of_refused (resp resp' : HttpResponse)
    (h : apiRequest (parseQuestion fmt inp) inp.timeRange = none) :
    dispatch Float64.quo fmt (http.respond resp).client inp =
      dispatch Float64.quo fmt (http.respond resp').client inp := by
  by_cases hkind : (parseQuestion fmt inp).kind = .rate
  · rw [apiRequest_of_rate hkind] at h
    have hquery : ∀ resp expr,
        (http.respond resp).queryRange expr inp.timeRange.start inp.timeRange.stop
          (step inp.timeRange) =
        if inp.timeRange.start.isZero || inp.timeRange.stop.isZero then
          .error { text := utf8 "QueryRange: start and end must not be zero" }
        else .error { text := utf8 "QueryRange: end must be after start" } := by
      intro resp expr
      rw [Http.queryRange]
      split
      · rfl
      · next hzero =>
          rw [Bool.eq_false_of_not_eq_true hzero, Bool.false_or] at h
          rw [if_pos h]
    rw [dispatch_of_rate _ hkind, dispatch_of_rate _ hkind, dispatchRate, dispatchRate]
    simp only [Http.client, hquery]
  · rw [apiRequest_of_instant hkind] at h
    have hquery : ∀ resp, (http.respond resp).client.queryInstant (parseQuestion fmt inp).expr
        inp.timeRange.stop = .error { text := utf8 "QueryInstant: at must not be zero" } := by
      intro resp
      show (http.respond resp).queryInstant _ _ = _
      rw [Http.queryInstant, if_pos h]
    rw [dispatch_of_instant _ hkind, dispatch_of_instant _ hkind,
      dispatchInstant_of_error fmt (hquery resp), dispatchInstant_of_error fmt (hquery resp')]

/-- A request that fails is all there is to report. -/
theorem dispatch_of_failed (hasked : apiRequest (parseQuestion fmt inp) inp.timeRange ≠ none)
    {err : GoString} (herr : ∀ req, (http.respond resp).doGet req = .error err) :
    dispatch Float64.quo fmt (http.respond resp).client inp =
      errResult { rawBody := [], text := err } := by
  by_cases hkind : (parseQuestion fmt inp).kind = .rate
  · rw [ne_eq, apiRequest_of_rate hkind, Bool.not_eq_true, Bool.or_eq_false_iff,
      Bool.not_eq_false'] at hasked
    have hquery : (http.respond resp).queryRange (parseQuestion fmt inp).expr
        inp.timeRange.start inp.timeRange.stop (step inp.timeRange) = .error { text := err } := by
      rw [Http.queryRange, hasked.1, hasked.2, if_neg (by decide), if_neg (by decide)]
      simp only [herr]
    rw [dispatch_of_rate _ hkind, dispatchRate]
    simp only [Http.client, hquery]
  · rw [ne_eq, apiRequest_of_instant hkind, Bool.not_eq_true] at hasked
    have hquery : (http.respond resp).client.queryInstant (parseQuestion fmt inp).expr
        inp.timeRange.stop = .error { text := err } := by
      show (http.respond resp).queryInstant _ _ = _
      rw [Http.queryInstant, hasked, if_neg (by decide)]
      simp only [herr]
    rw [dispatch_of_instant _ hkind, dispatchInstant_of_error fmt hquery]

end OrderFree

section Bodies

variable {w : Wire} {fmt : Fmt} {inp : CollectorInput} {resp resp' : HttpResponse}
  {d d' : Document}

/-- The rows of a body in two orders: the first that cannot be decoded fails alike, or what is
looked at of them says the same. -/
def Wire.RowsInterchange (w : Wire) (fmt : Fmt) (kind : QueryKind) (rows rows' : List GoString) :
    Prop :=
  match kind with
  | .rate => Alike (w.http.SeriesAgree fmt) (rows.mapM w.matrixRow) (rows'.mapM w.matrixRow)
  | _ =>
      Alike (w.http.FirstRowsAgree fmt kind) (rows.mapM w.vectorRow) (rows'.mapM w.vectorRow)

/-- Two bodies with the same rows: an error with a text of its own hides them, what does not
fit around them is reported instead of them, a success shows what the rows say, and any other
failure shows the body itself. -/
def Wire.BodiesInterchange (w : Wire) (fmt : Fmt) (kind : QueryKind)
    (resp resp' : HttpResponse) : Prop :=
  match document resp.body, document resp'.body with
  | some d, some d' =>
      if resp.statusCode = 200 then
        d.envelopeMisfit = none → d.envelope.status = "success" → d.dataMisfit = none →
          w.RowsInterchange fmt kind d.rows d'.rows
      else d.envelopeMisfit = none ∧ d.envelope.error ≠ ""
  | _, _ => False

section Accepted

variable (haccepts : w.http.Accepts resp) (haccepts' : w.http.Accepts resp')
  (hasked : apiRequest (parseQuestion fmt inp) inp.timeRange ≠ none)

include haccepts haccepts' hasked

/-- Rows that are never come to. -/
theorem sameReport_of_undecoded {err : GoString}
    (hmatrix : w.http.matrix resp = .error err) (hmatrix' : w.http.matrix resp' = .error err)
    (hvector : w.http.vector resp = .error err) (hvector' : w.http.vector resp' = .error err) :
    SameReport (dispatch Float64.quo fmt (w.http.respond resp).client inp)
      (dispatch Float64.quo fmt (w.http.respond resp').client inp) := by
  by_cases hkind : (parseQuestion fmt inp).kind = .rate
  · rw [ne_eq, apiRequest_of_rate hkind, Bool.not_eq_true] at hasked
    rw [dispatch_of_rate _ hkind, dispatch_of_rate _ hkind,
      dispatchRate_of_undecoded fmt _ haccepts hasked hmatrix,
      dispatchRate_of_undecoded fmt _ haccepts' hasked hmatrix', sameReport_errResult_iff]
  · rw [ne_eq, apiRequest_of_instant hkind, Bool.not_eq_true] at hasked
    rw [dispatch_of_instant _ hkind, dispatch_of_instant _ hkind,
      dispatchInstant_of_undecoded fmt _ haccepts hasked hvector,
      dispatchInstant_of_undecoded fmt _ haccepts' hasked hvector', sameReport_errResult_iff]

theorem rate_order_iff (hkind : (parseQuestion fmt inp).kind = .rate)
    (hmatrix : w.http.matrix resp =
      (d.rows.mapM w.matrixRow).mapError fun err => utf8 ("decode " ++ "matrix" ++ ": ") ++ err)
    (hmatrix' : w.http.matrix resp' =
      (d'.rows.mapM w.matrixRow).mapError fun err => utf8 ("decode " ++ "matrix" ++ ": ") ++ err)
    (hperm : d.rows.Perm d'.rows) :
    SameReport (dispatch Float64.quo fmt (w.http.respond resp).client inp)
        (dispatch Float64.quo fmt (w.http.respond resp').client inp) ↔
      w.RowsInterchange fmt (parseQuestion fmt inp).kind d.rows d'.rows := by
  rw [ne_eq, apiRequest_of_rate hkind, Bool.not_eq_true] at hasked
  rw [dispatch_of_rate _ hkind, dispatch_of_rate _ hkind, hkind, Wire.RowsInterchange]
  obtain ⟨err, err', herr, herr'⟩ | ⟨rows, rows', hrows, hrows', hperm⟩ :=
    mapM_perm (f := w.matrixRow) hperm
  · rw [herr] at hmatrix
    rw [herr'] at hmatrix'
    rw [dispatchRate_of_undecoded fmt _ haccepts hasked hmatrix,
      dispatchRate_of_undecoded fmt _ haccepts' hasked hmatrix', sameReport_errResult_iff,
      List.append_right_inj, herr, herr']
    rfl
  · rw [hrows] at hmatrix
    rw [hrows'] at hmatrix'
    rw [sameReport_rate_iff hasked haccepts hmatrix haccepts' hmatrix' hperm, hrows, hrows']
    rfl

theorem instant_order_iff (hfmt : OneWord fmt) (hkind : (parseQuestion fmt inp).kind ≠ .rate)
    (hvector : w.http.vector resp =
      (d.rows.mapM w.vectorRow).mapError fun err => utf8 ("decode " ++ "vector" ++ ": ") ++ err)
    (hvector' : w.http.vector resp' =
      (d'.rows.mapM w.vectorRow).mapError fun err => utf8 ("decode " ++ "vector" ++ ": ") ++ err)
    (hperm : d.rows.Perm d'.rows) :
    SameReport (dispatch Float64.quo fmt (w.http.respond resp).client inp)
        (dispatch Float64.quo fmt (w.http.respond resp').client inp) ↔
      w.RowsInterchange fmt (parseQuestion fmt inp).kind d.rows d'.rows := by
  rw [ne_eq, apiRequest_of_instant hkind, Bool.not_eq_true] at hasked
  have hrowsInterchange : w.RowsInterchange fmt (parseQuestion fmt inp).kind d.rows d'.rows ↔
      Alike (w.http.FirstRowsAgree fmt (parseQuestion fmt inp).kind)
        (d.rows.mapM w.vectorRow) (d'.rows.mapM w.vectorRow) := by
    cases hpq : (parseQuestion fmt inp).kind with
    | rate => exact absurd hpq hkind
    | value => rfl
    | default => rfl
  rw [dispatch_of_instant _ hkind, dispatch_of_instant _ hkind, hrowsInterchange]
  obtain ⟨err, err', herr, herr'⟩ | ⟨rows, rows', hrows, hrows', hperm⟩ :=
    mapM_perm (f := w.vectorRow) hperm
  · rw [herr] at hvector
    rw [herr'] at hvector'
    rw [dispatchInstant_of_undecoded fmt _ haccepts hasked hvector,
      dispatchInstant_of_undecoded fmt _ haccepts' hasked hvector', sameReport_errResult_iff,
      List.append_right_inj, herr, herr']
    rfl
  · rw [hrows] at hvector
    rw [hrows'] at hvector'
    rw [sameReport_instant_iff hfmt hkind beginsWithMetric_of_kind hasked haccepts hvector
      haccepts' hvector' hperm, hrows, hrows']
    rfl

/-- Two successes: what is around the rows has a misfit in both, or the rows decide. -/
theorem success_order_iff (hfmt : OneWord fmt)
    (h : document resp.body = some d) (h' : document resp'.body = some d')
    (henvelope : d.envelopeMisfit = none) (henvelope' : d'.envelopeMisfit = none)
    (hdata : d.dataMisfit = d'.dataMisfit) (hperm : d.rows.Perm d'.rows) :
    SameReport (dispatch Float64.quo fmt (w.http.respond resp).client inp)
        (dispatch Float64.quo fmt (w.http.respond resp').client inp) ↔
      (d.dataMisfit = none →
        w.RowsInterchange fmt (parseQuestion fmt inp).kind d.rows d'.rows) := by
  cases hmisfit : d.dataMisfit with
  | some m =>
      have hmisfit' := hdata.symm.trans hmisfit
      refine iff_of_true ?_ nofun
      exact sameReport_of_undecoded haccepts haccepts' hasked
        (Wire.rows_of_dataMisfit h henvelope hmisfit _ _)
        (Wire.rows_of_dataMisfit h' henvelope' hmisfit' _ _)
        (Wire.rows_of_dataMisfit h henvelope hmisfit _ _)
        (Wire.rows_of_dataMisfit h' henvelope' hmisfit' _ _)
  | none =>
      have hfits' := hdata.symm.trans hmisfit
      rw [forall_prop_of_true rfl]
      by_cases hkind : (parseQuestion fmt inp).kind = .rate
      · exact rate_order_iff haccepts haccepts' hasked hkind
          (Wire.rows_of_document h henvelope hmisfit _ _ _)
          (Wire.rows_of_document h' henvelope' hfits' _ _ _) hperm
      · exact instant_order_iff haccepts haccepts' hasked hfmt hkind
          (Wire.rows_of_document h henvelope hmisfit _ _ _)
          (Wire.rows_of_document h' henvelope' hfits' _ _ _) hperm

end Accepted

/-! ### Answers that are no success -/

/-- What a request fails with whose answer is no success. -/
theorem Wire.doGet_of_refused (hcode : resp.statusCode = 200)
    (h : document resp.body = some d) (hfits : d.envelopeMisfit = none)
    (hstatus : d.envelope.status ≠ "success") (req : ApiRequest) :
    (w.http.respond resp).doGet req =
      .error (utf8 ("prometheus " ++ d.envelope.errorType ++ ": " ++ d.envelope.error)) := by
  have hbody : (w.http.respond resp).unmarshal (w.http.respond resp).decodeEnvelope resp.body =
      .ok d.envelope := w.unmarshal_of_fits h hfits
  rw [Http.doGet]
  show (if resp.statusCode ≠ 200 then _ else _) = _
  rw [if_neg (by rw [hcode]; decide)]
  simp only [hbody, if_pos hstatus]

theorem Wire.doGet_of_misfit (hcode : resp.statusCode = 200)
    (h : document resp.body = some d) {m : Json.Misfit} (hmisfit : d.envelopeMisfit = some m)
    (req : ApiRequest) :
    (w.http.respond resp).doGet req =
      .error (utf8 "decode prometheus envelope: " ++ w.typeError "prom.apiResponse" m) := by
  have hbody : (w.http.respond resp).unmarshal (w.http.respond resp).decodeEnvelope resp.body =
      .error (w.typeError "prom.apiResponse" m) := w.unmarshal_of_misfit h hmisfit
  rw [Http.doGet]
  show (if resp.statusCode ≠ 200 then _ else _) = _
  rw [if_neg (by rw [hcode]; decide)]
  simp only [hbody]

theorem Wire.doGet_of_failed (hcode : resp.statusCode ≠ 200)
    (h : document resp.body = some d) (req : ApiRequest) :
    (w.http.respond resp).doGet req =
      .error (if d.envelopeMisfit = none ∧ d.envelope.error ≠ "" then
          utf8 ("prometheus " ++ d.envelope.errorType ++ ": " ++ d.envelope.error)
        else utf8 ("prometheus HTTP " ++ toString resp.statusCode ++ ": ") ++ resp.body) := by
  rw [Http.doGet]
  show (if resp.statusCode ≠ 200 then _ else _) = _
  rw [if_pos hcode]
  cases hmisfit : d.envelopeMisfit with
  | none =>
      have hbody : (w.http.respond resp).unmarshal (w.http.respond resp).decodeEnvelope
          resp.body = .ok d.envelope := w.unmarshal_of_fits h hmisfit
      simp only [hbody, true_and]
      split
      · rfl
      · rfl
  | some m =>
      have hbody : (w.http.respond resp).unmarshal (w.http.respond resp).decodeEnvelope
          resp.body = .error (w.typeError "prom.apiResponse" m) := w.unmarshal_of_misfit h hmisfit
      simp only [hbody, reduceCtorEq, false_and, if_false]

end Bodies

/-! ### Two pods, one of them killed -/

/-- Zeros and ones. -/
def testShown (v : Float64) : String :=
  if v = .fin 0 then "0" else if v = .fin 1 then "1" else "NaN"

def testRowsFmt : Fmt :=
  { testCollectEnv.put.fmt with format4g := testShown, format0f := testShown }

theorem oneWord_testRowsFmt : OneWord testRowsFmt := by
  have hshown : ∀ v, ' ' ∉ (testShown v).toList := by
    intro v
    rw [testShown]
    split
    · decide
    · split <;> decide
  exact ⟨hshown, hshown⟩

def testRow (pod value : String) : GoString :=
  utf8 "\x7b\"metric\":" ++ utf8 "\x7b\"pod\":\"" ++ utf8 pod ++ utf8 "\"\x7d," ++
    utf8 "\"value\":[1,\"" ++ utf8 value ++ utf8 "\"]\x7d"

/-- The rows, in one order or the other. -/
def testRows : Bool → List GoString
  | false => [testRow "a" "0", testRow "b" "1"]
  | true => [testRow "b" "1", testRow "a" "0"]

def testData (swapped : Bool) : GoString :=
  utf8 "\x7b\"resultType\":" ++ utf8 "\"vector\"," ++ utf8 "\"result\":[" ++
    List.intercalate (utf8 ",") (testRows swapped) ++ utf8 "]\x7d"

def testBody (swapped : Bool) : GoString :=
  utf8 "\x7b\"status\":" ++ utf8 "\"success\"," ++ utf8 "\"data\":" ++ testData swapped ++
    utf8 "\x7d"

def testResponse (swapped : Bool) : HttpResponse := { statusCode := 200, body := testBody swapped }

def testDocument (swapped : Bool) : Document where
  envelope := { status := "success", errorType := "", error := "", data := testData swapped }
  envelopeMisfit := none
  dataMisfit := none
  rows := testRows swapped

def testWire : Wire where
  isPrint := fun _ => true
  get := fun _ => .ok (testResponse false)
  syntaxError := fun _ => utf8 "unexpected end of JSON input"
  typeError := fun type _ => utf8 ("json: cannot unmarshal value of type " ++ type)
  numError := fun s => utf8 ("strconv.ParseFloat: parsing " ++ s)

theorem document_testBody (swapped : Bool) :
    document (testBody swapped) = some (testDocument swapped) := by
  cases swapped with
  | false => decide +kernel
  | true => decide +kernel

theorem reordered_testResponse : Reordered (testResponse false) (testResponse true) :=
  .rows rfl (document_testBody false) (document_testBody true) rfl rfl rfl rfl rfl
    (List.Perm.swap _ _ _)

end Prom

end AlphE.Collectors
