import AlphE.Collectors.PromConfidence
import AlphE.Lib.Fallible
import AlphE.Lib.FirstMax

/-!
Whether a finding of the prom collector depends on the order of the rows. The rows of
a vector are looked at one only, the first; the samples of a matrix are all counted,
and the latest is the first of those that have the last timestamp, in seconds.
-/

namespace AlphE.Collectors

open Go Fallible

namespace Prom

/-! ### The samples of a matrix -/

/-- What the variables of the loop over the samples begin with. -/
def startSample : Sample := { timestamp := { nanos := Time.zeroNanos }, value := .fin 0 }

def Sample.nanos (s : Sample) : Int := s.timestamp.nanos

/-- The first of the samples that are latest. -/
def newest (ss : List Sample) : Sample := FirstMax.latest Sample.nanos startSample ss

/-- The accumulators after a list of samples. -/
def countOf (pq : ParsedQuery) (ss : List Sample) : RateCount :=
  { total := ss.length
    above := ss.countP fun s => compareThreshold s.value pq.comparator pq.threshold
    latestVal := (newest ss).value
    latestTs := (newest ss).timestamp }

theorem foldl_countSample (pq : ParsedQuery) (ss : List Sample) (count : RateCount) (s : Sample)
    (hval : count.latestVal = s.value) (hts : count.latestTs = s.timestamp) :
    ss.foldl (countSample pq) count =
      { total := count.total + ss.length
        above := count.above +
          ss.countP fun s => compareThreshold s.value pq.comparator pq.threshold
        latestVal := (FirstMax.latest Sample.nanos s ss).value
        latestTs := (FirstMax.latest Sample.nanos s ss).timestamp } := by
  induction ss generalizing count s with
  | nil =>
      rw [FirstMax.latest_nil, ← hval, ← hts]
      rfl
  | cons x ss ih =>
      have hafter : x.timestamp.after count.latestTs = true ↔ s.nanos < x.nanos := by
        rw [hts, Time.after, decide_eq_true_eq]
        rfl
      have hnext : (countSample pq count x).latestVal =
            (FirstMax.later Sample.nanos s x).value ∧
          (countSample pq count x).latestTs =
            (FirstMax.later Sample.nanos s x).timestamp := by
        simp only [countSample, FirstMax.later, hafter]
        split
        · exact ⟨rfl, rfl⟩
        · exact ⟨hval, hts⟩
      rw [List.foldl_cons, ih _ _ hnext.1 hnext.2, FirstMax.latest_cons, List.length_cons,
        List.countP_cons]
      simp only [countSample, RateCount.mk.injEq, and_true]
      constructor
      · omega
      · split
        · omega
        · omega

theorem countSamples_eq (pq : ParsedQuery) (series : List Series) :
    countSamples pq series = countOf pq (series.flatMap Series.samples) := by
  rw [countSamples, ← List.foldl_flatMap, foldl_countSample pq _ {} startSample rfl rfl]
  simp only [Nat.zero_add]
  rfl

/-- The last timestamp is the same in every order. -/
theorem newest_timestamp_perm {ss ss' : List Sample} (h : ss.Perm ss')
    (hzone : ∀ s ∈ ss, s.timestamp.zone = 0) :
    (newest ss).timestamp = (newest ss').timestamp := by
  have hnewest : ∀ {ss : List Sample}, (∀ s ∈ ss, s.timestamp.zone = 0) →
      (newest ss).timestamp.zone = 0 := by
    intro ss hzone
    rcases List.mem_cons.mp (FirstMax.latest_mem Sample.nanos startSample ss) with heq | hmem
    · rw [newest, heq]
      rfl
    · exact hzone _ hmem
  have hkey := FirstMax.key_latest_perm Sample.nanos h startSample
  have hzone' := hnewest fun s hs => hzone s (h.mem_iff.mpr hs)
  exact Time.eq_of_nanos hkey ((hnewest hzone).trans hzone'.symm)

/-- Of a summary, only the value that is called the latest may change. -/
theorem buildRateSummary_perm_iff (fmt : Fmt) (pq : ParsedQuery) {ss ss' : List Sample}
    (h : ss.Perm ss') (hzone : ∀ s ∈ ss, s.timestamp.zone = 0) :
    buildRateSummary fmt pq (countOf pq ss) = buildRateSummary fmt pq (countOf pq ss') ↔
      fmt.format4g (newest ss).value = fmt.format4g (newest ss').value := by
  have hlength := h.length_eq
  rcases Nat.eq_zero_or_pos ss.length with hzero | hpos
  · obtain rfl := List.length_eq_zero_iff.mp hzero
    obtain rfl := List.length_eq_zero_iff.mp (hlength.symm.trans hzero)
    exact iff_of_true rfl rfl
  · have hne : ¬ ss.length = 0 := Nat.ne_of_gt hpos
    have hcount : countOf pq ss' = { countOf pq ss with latestVal := (newest ss').value } := by
      rw [countOf, countOf, ← hlength, ← newest_timestamp_perm h hzone, h.countP_eq]
    rw [hcount]
    simp only [buildRateSummary, countOf, hne, if_false, String.append_assoc,
      String.append_right_inj, String.append_left_inj]

/-! ### Responses -/

/-- A Prometheus that answers everything with one response. -/
def Http.respond (http : Http) (resp : HttpResponse) : Http :=
  { http with get := fun _ => .ok resp }

def Http.vector (http : Http) (resp : HttpResponse) : Except GoString (List VectorResult) :=
  http.rows "vector" http.decodeVector resp.body

def Http.matrix (http : Http) (resp : HttpResponse) : Except GoString (List MatrixResult) :=
  http.rows "matrix" http.decodeMatrix resp.body

/-- Two findings say the same with the same confidence. -/
structure SameReport (dr dr' : DispatchResult) : Prop where
  summary : dr.summary = dr'.summary
  confidence : dr.confidence = dr'.confidence

/-- Failures say the same where their errors do. -/
theorem sameReport_errResult_iff {body body' err err' : GoString} :
    SameReport (errResult { rawBody := body, text := err })
      (errResult { rawBody := body', text := err' }) ↔ err = err' := by
  constructor
  · intro hsame
    exact List.append_cancel_left hsame.summary
  · rintro rfl
    exact ⟨rfl, rfl⟩

section Responses

variable {http : Http} {resp : HttpResponse}

theorem Http.doGet_respond (haccepts : http.Accepts resp) (req : ApiRequest) :
    (http.respond resp).doGet req = .ok resp.body :=
  Http.doGet_eq_ok_iff.mpr ⟨resp, rfl, haccepts, rfl⟩

/-! ### A matrix -/

def Http.samples (http : Http) (row : MatrixResult) : Except GoString (List Sample) :=
  row.values.mapM http.parseSample

theorem Http.zone_of_parseSample {raw : RawSample} {s : Sample}
    (h : http.parseSample raw = .ok s) : s.timestamp.zone = 0 := by
  rw [parseSample] at h
  split at h
  · cases h
  · split at h
    · cases h
    · split at h
      · cases h
      · cases h
        rfl

theorem Http.zone_of_samples {rows : List MatrixResult} {series : List (List Sample)}
    (h : rows.mapM http.samples = .ok series) {s : Sample} (hs : s ∈ series.flatten) :
    s.timestamp.zone = 0 := by
  obtain ⟨ss, hss, hs⟩ := List.mem_flatten.mp hs
  obtain ⟨row, -, hrow⟩ := ok_of_mem_mapM h hss
  obtain ⟨raw, -, hraw⟩ := ok_of_mem_mapM hrow hs
  exact zone_of_parseSample hraw

/-- Rows that cannot be decoded. -/
theorem dispatchRate_of_undecoded (fmt : Fmt) (pq : ParsedQuery) {tr : TimeRange}
    (haccepts : http.Accepts resp)
    (hwindow : (tr.start.isZero || tr.stop.isZero || !tr.stop.after tr.start) = false)
    {err : GoString} (herr : http.matrix resp = .error err) :
    dispatchRate Float64.quo fmt (http.respond resp).client pq tr =
      errResult { rawBody := resp.body, text := err } := by
  have hquery : (http.respond resp).queryRange pq.expr tr.start tr.stop (step tr) =
      .error { rawBody := resp.body, text := err } := by
    rw [Bool.or_eq_false_iff, Bool.not_eq_false'] at hwindow
    rw [Http.queryRange, hwindow.1, hwindow.2, if_neg (by decide), if_neg (by decide),
      if_neg (Int.not_le.mpr (step_pos tr))]
    simp only [Http.doGet_respond haccepts]
    have herr' : (http.respond resp).rows "matrix" (http.respond resp).decodeMatrix resp.body =
        .error err := herr
    rw [herr']
  simp only [dispatchRate, Http.client, hquery]

section Rate

variable (fmt : Fmt) (pq : ParsedQuery) {tr : TimeRange} {rows : List MatrixResult}
  (haccepts : http.Accepts resp)
  (hwindow : (tr.start.isZero || tr.stop.isZero || !tr.stop.after tr.start) = false)
  (hrows : http.matrix resp = .ok rows)

include haccepts hwindow hrows

theorem queryRange_respond (expr : String) :
    (http.respond resp).queryRange expr tr.start tr.stop (step tr) =
      match rows.mapM http.samples with
      | .error err => .error { rawBody := resp.body, text := err }
      | .ok series =>
          .ok { series := series.map fun samples => { samples := samples }
                rawBody := resp.body } := by
  rw [Bool.or_eq_false_iff, Bool.not_eq_false'] at hwindow
  rw [Http.queryRange, hwindow.1, hwindow.2, if_neg (by decide), if_neg (by decide),
    if_neg (Int.not_le.mpr (step_pos tr))]
  simp only [Http.doGet_respond haccepts]
  have hrows' : (http.respond resp).rows "matrix" (http.respond resp).decodeMatrix resp.body =
      .ok rows := hrows
  rw [hrows']
  rfl

theorem dispatchRate_of_samples {series : List (List Sample)}
    (h : rows.mapM http.samples = .ok series) :
    (dispatchRate Float64.quo fmt (http.respond resp).client pq tr).summary =
        utf8 (buildRateSummary fmt pq (countOf pq series.flatten)) ∧
      (dispatchRate Float64.quo fmt (http.respond resp).client pq tr).confidence =
        if 0 < series.flatten.length then
          Float64.min (.fin 1) (Float64.quo (.fin (countOf pq series.flatten).above)
            (.fin series.flatten.length))
        else .fin 0 := by
  have hseries : (series.map fun samples => ({ samples := samples } : Series)).flatMap
      Series.samples = series.flatten := by
    rw [List.flatMap_map, List.flatten_eq_flatMap]
    rfl
  have hquery := queryRange_respond haccepts hwindow hrows pq.expr
  rw [h] at hquery
  simp only [dispatchRate, Http.client, hquery, countSamples_eq, hseries, true_and]
  rfl

theorem dispatchRate_of_error {err : GoString} (h : rows.mapM http.samples = .error err) :
    dispatchRate Float64.quo fmt (http.respond resp).client pq tr =
      errResult { rawBody := resp.body, text := err } := by
  have hquery := queryRange_respond haccepts hwindow hrows pq.expr
  rw [h] at hquery
  simp only [dispatchRate, Http.client, hquery]

end Rate

/-- The rows of a matrix in two orders: the first series that cannot be parsed fails alike, or
the sample that counts as the latest is shown alike. -/
def Http.SeriesAgree (http : Http) (fmt : Fmt) (rows rows' : List MatrixResult) : Prop :=
  Alike (fun series series' => fmt.format4g (newest series.flatten).value =
      fmt.format4g (newest series'.flatten).value)
    (rows.mapM http.samples) (rows'.mapM http.samples)

/-- Which series wins depends on the order only among those that have the latest sample. -/
theorem newest_flatten_alike (fmt : Fmt) {series series' : List (List Sample)}
    (hperm : series.Perm series')
    (h : ∀ ss ∈ series, ∀ ss' ∈ series,
      (∀ other ∈ series, (newest other).nanos ≤ (newest ss).nanos) →
      (newest ss).nanos = (newest ss').nanos →
      fmt.format4g (newest ss).value = fmt.format4g (newest ss').value) :
    fmt.format4g (newest series.flatten).value =
      fmt.format4g (newest series'.flatten).value := by
  have hblocks : ∀ series : List (List Sample), newest series.flatten =
      FirstMax.latest Sample.nanos startSample (series.map newest) := by
    intro series
    rw [List.flatten_eq_flatMap]
    exact FirstMax.latest_flatMap id startSample series
  rw [hblocks, hblocks]
  exact (FirstMax.latest_perm_iff (fun s => fmt.format4g s.value) newest
    fun ss _ => FirstMax.latest_eq_init).mpr h series' hperm

section RateOrder

variable {fmt : Fmt} {pq : ParsedQuery} {tr : TimeRange} {rows rows' : List MatrixResult}
  {resp' : HttpResponse}
  (hwindow : (tr.start.isZero || tr.stop.isZero || !tr.stop.after tr.start) = false)
  (haccepts : http.Accepts resp) (hrows : http.matrix resp = .ok rows)
  (haccepts' : http.Accepts resp') (hrows' : http.matrix resp' = .ok rows')

include hwindow haccepts hrows haccepts' hrows'

theorem sameReport_rate_of_samples {series series' : List (List Sample)}
    (h : rows.mapM http.samples = .ok series) (h' : rows'.mapM http.samples = .ok series')
    (hperm : series.Perm series') :
    SameReport (dispatchRate Float64.quo fmt (http.respond resp).client pq tr)
        (dispatchRate Float64.quo fmt (http.respond resp').client pq tr) ↔
      fmt.format4g (newest series.flatten).value =
        fmt.format4g (newest series'.flatten).value := by
  obtain ⟨hsummary, hconfidence⟩ :=
    dispatchRate_of_samples fmt pq haccepts hwindow hrows h
  obtain ⟨hsummary', hconfidence'⟩ :=
    dispatchRate_of_samples fmt pq haccepts' hwindow hrows' h'
  have hflat : series.flatten.Perm series'.flatten := hperm.flatten
  rw [← buildRateSummary_perm_iff fmt pq hflat fun s hs => Http.zone_of_samples h hs]
  constructor
  · intro hsame
    have hutf8 := hsame.summary
    rw [hsummary, hsummary'] at hutf8
    exact utf8_injective hutf8
  · intro hsame
    refine ⟨by rw [hsummary, hsummary', hsame], ?_⟩
    rw [hconfidence, hconfidence', hflat.length_eq]
    have habove : (countOf pq series.flatten).above = (countOf pq series'.flatten).above :=
      hflat.countP_eq _
    rw [habove]

theorem sameReport_rate_of_error {err err' : GoString}
    (h : rows.mapM http.samples = .error err) (h' : rows'.mapM http.samples = .error err') :
    SameReport (dispatchRate Float64.quo fmt (http.respond resp).client pq tr)
        (dispatchRate Float64.quo fmt (http.respond resp').client pq tr) ↔ err = err' := by
  rw [dispatchRate_of_error fmt pq haccepts hwindow hrows h,
    dispatchRate_of_error fmt pq haccepts' hwindow hrows' h']
  exact sameReport_errResult_iff

theorem sameReport_rate_iff (hperm : rows.Perm rows') :
    SameReport (dispatchRate Float64.quo fmt (http.respond resp).client pq tr)
        (dispatchRate Float64.quo fmt (http.respond resp').client pq tr) ↔
      http.SeriesAgree fmt rows rows' := by
  rw [Http.SeriesAgree]
  obtain ⟨err, err', herr, herr'⟩ | ⟨series, series', hseries, hseries', hperm⟩ :=
    mapM_perm (f := http.samples) hperm
  · rw [herr, herr']
    exact sameReport_rate_of_error hwindow haccepts hrows haccepts' hrows' herr herr'
  · rw [hseries, hseries']
    exact sameReport_rate_of_samples hwindow haccepts hrows haccepts' hrows' hseries hseries' hperm

/-- Where the series that have the latest sample of all show it alike, every order of them leads
to the same report. -/
theorem sameReport_rate_of_latest {series : List (List Sample)}
    (h : rows.mapM http.samples = .ok series) (hperm : rows.Perm rows')
    (hlatest : ∀ ss ∈ series, ∀ ss' ∈ series,
      (∀ other ∈ series, (newest other).nanos ≤ (newest ss).nanos) →
      (newest ss).nanos = (newest ss').nanos →
      fmt.format4g (newest ss).value = fmt.format4g (newest ss').value) :
    SameReport (dispatchRate Float64.quo fmt (http.respond resp).client pq tr)
      (dispatchRate Float64.quo fmt (http.respond resp').client pq tr) := by
  obtain ⟨err, -, herr, -⟩ | ⟨series₀, series', hseries, hseries', hperm'⟩ :=
    mapM_perm (f := http.samples) hperm
  · rw [h] at herr
    cases herr
  · obtain rfl : series = series₀ := Except.ok.inj (h.symm.trans hseries)
    rw [sameReport_rate_of_samples hwindow haccepts hrows haccepts' hrows' h hseries' hperm']
    exact newest_flatten_alike fmt hperm' hlatest

end RateOrder

end Responses

end Prom

end AlphE.Collectors
