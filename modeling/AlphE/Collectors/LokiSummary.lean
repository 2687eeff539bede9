import AlphE.Collectors.LokiClient
import AlphE.Collectors.Payloads
import AlphE.Lib.GoJsonRead
import AlphE.Lib.Separators
import Mathlib.Data.Finset.Max

/-!
The summary of the loki collector (`summarise` in `cmd/loki-collector`). It is read off
the stored records: a scanner goes over their lines and stops at the first that its buffer
does not hold, and the first timestamp it comes to is taken for the earliest.
-/

namespace AlphE.Collectors

open Go Separators

namespace Loki

/-! ### A record read back -/

def logLineFields : List (String × Json.Reader Empty LogLine) :=
  [("ts_ns", Json.field LogLine.timestampNs (fun rec t => { rec with timestampNs := t })
      Json.string),
    ("line", Json.field LogLine.line (fun rec line => { rec with line := line }) Json.string),
    ("labels", Json.field LogLine.labels (fun rec labels => { rec with labels := labels })
      Json.stringMap)]

/-- `json.Unmarshal` into a new `LogLine`. -/
def unmarshalLogLine (bs : GoString) : Option LogLine :=
  (Json.parse bs).bind fun document =>
    Json.looseObject logLineFields document { timestampNs := "", line := "", labels := none }

/-- The labels in the order of their names. -/
def sortLabels (labels : InsertionDict String String) : InsertionDict String String where
  items := labels.items.mergeSort fun a b => a.1 ≤ b.1
  nodup := ((List.mergeSort_perm labels.items _).map Prod.fst).nodup_iff.mpr labels.nodup

theorem get?_sortLabels (labels : InsertionDict String String) (key : String) :
    (sortLabels labels).get? key = labels.get? key :=
  ((sortLabels labels).equiv_iff_perm labels).mpr (List.mergeSort_perm labels.items _) key

/-- What is read of a record is the record, its labels in another order. -/
def LogLine.readBack (rec : LogLine) : LogLine :=
  { rec with labels := rec.labels.map sortLabels }

theorem podOf_readBack (rec : LogLine) : podOf rec.readBack = podOf rec := by
  have hget (key : String) : (rec.readBack.labels.bind fun labels => labels.get? key) =
      rec.labels.bind fun labels => labels.get? key := by
    rw [LogLine.readBack]
    cases rec.labels with
    | none => rfl
    | some labels => exact get?_sortLabels labels key
  rw [podOf, podOf]
  simp only [hget]

section Text

open Json

def labelsValue : Labels → Document
  | none => .null
  | some labels => labelsDocument (sortLabels labels)

theorem reads_labelsJson (labels : Labels) :
    Reads (labelsJson labels).toList (labelsValue labels) := by
  cases labels with
  | none => exact reads_null
  | some labels =>
      have hvalues : ∀ label ∈ (sortLabels labels).items,
          Reads (jsonString label.2).toList (.str label.2 : Document) :=
        fun label _ => reads_jsonString label.2
      have hobject := reads_object Prod.fst (fun label => (jsonString label.2).toList)
        (fun label => .str label.2) hvalues
      have hmember : String.toList ∘ (fun label : String × String =>
            jsonString label.1 ++ ":" ++ jsonString label.2) =
          memberText Prod.fst fun label => (jsonString label.2).toList := by
        funext label
        simp [memberText]
      simp only [labelsJson, String.toList_append, String.toList_intercalate, List.map_map, hmember]
      exact hobject

/-- The members of a record, each with its text and its value. -/
def members (rec : LogLine) : List (String × List Char × Document) :=
  [("ts_ns", (jsonString rec.timestampNs).toList, .str rec.timestampNs),
    ("line", (jsonString rec.line).toList, .str rec.line),
    ("labels", (labelsJson rec.labels).toList, labelsValue rec.labels)]

theorem toList_text (rec : LogLine) :
    rec.text.toList = '\x7b' :: ([','].intercalate ((members rec).map
      (memberText Prod.fst fun m => m.2.1)) ++ ['\x7d']) := by
  have hts : (jsonString "ts_ns").toList = "\"ts_ns\"".toList := by decide
  have hline : (jsonString "line").toList = "\"line\"".toList := by decide
  have hlabels : (jsonString "labels").toList = "\"labels\"".toList := by decide
  simp [LogLine.text, members, memberText, List.intercalate_cons_cons, hts, hline, hlabels]

theorem parse_text (rec : LogLine) :
    Json.parse (utf8 rec.text) =
      some (.dict [("ts_ns", .str rec.timestampNs), ("line", .str rec.line),
        ("labels", labelsValue rec.labels)] : Document) := by
  have hvalues : ∀ m ∈ members rec, Reads m.2.1 m.2.2 := by
    simp only [members, List.forall_mem_cons]
    exact ⟨reads_jsonString _, reads_jsonString _, reads_labelsJson _, by simp⟩
  have hobject := reads_object Prod.fst (fun m : String × List Char × Document => m.2.1)
    (fun m => m.2.2) hvalues
  rw [← toList_text] at hobject
  exact parse_utf8 (value_text rec) hobject

theorem stringMap_labelsValue (labels : Labels) :
    stringMap (labelsValue labels) none = some (labels.map sortLabels) := by
  cases labels with
  | none => rfl
  | some labels => exact stringMap_dict (sortLabels labels)

section Members

variable (rec : LogLine) (v : Document)

theorem looseMember_tsNs :
    looseMember logLineFields rec ("ts_ns", v) =
      (Json.string v rec.timestampNs).map fun t => { rec with timestampNs := t } :=
  looseMember_of_sameName (by decide) rec v

theorem looseMember_line :
    looseMember logLineFields rec ("line", v) =
      (Json.string v rec.line).map fun line => { rec with line := line } := by
  rw [logLineFields, looseMember_of_ne (by decide), looseMember_of_sameName (by decide)]
  rfl

theorem looseMember_labels :
    looseMember logLineFields rec ("labels", v) =
      (stringMap v rec.labels).map fun labels => { rec with labels := labels } := by
  rw [logLineFields, looseMember_of_ne (by decide), looseMember_of_ne (by decide),
    looseMember_of_sameName (by decide)]
  rfl

end Members

/-- Every record is read back. -/
theorem unmarshalLogLine_text (rec : LogLine) :
    unmarshalLogLine (utf8 rec.text) = some rec.readBack := by
  rw [unmarshalLogLine, parse_text, Option.bind_some, looseObject_dict_cons, looseMember_tsNs]
  simp only [Json.string, Option.map_some, Option.bind_some, looseObject_dict_cons,
    looseMember_line, looseMember_labels, stringMap_labelsValue, looseObject_dict_nil]
  rfl

end Text

/-! ### What the scanner comes to -/

/-- The buffer of the scanner holds the line of the record. -/
def LogLine.fits (rec : LogLine) : Bool := byteLen (utf8 rec.text) < 65536

theorem dropCr_text (rec : LogLine) : dropCr (utf8 rec.text) = utf8 rec.text := by
  have hlast : ∃ line, utf8 rec.text = line ++ [.rune '\x7d'] := by
    rw [utf8, toList_text, ← List.cons_append, List.map_append, List.map_singleton]
    exact ⟨_, rfl⟩
  obtain ⟨line, hline⟩ := hlast
  rw [hline, dropCr_concat (by decide)]

theorem scanLines_records (recs : List LogLine) :
    scanLines (recs.flatMap fun rec => utf8 rec.json) =
      (recs.takeWhile LogLine.fits).map fun rec => utf8 rec.text := by
  have hfits : (fun line => decide (byteLen line < 65536)) ∘
      (fun rec : LogLine => utf8 rec.text) = LogLine.fits := by
    funext rec
    rw [Function.comp_apply, LogLine.fits]
  have hdrop : dropCr ∘ (fun rec : LogLine => utf8 rec.text) = fun rec => utf8 rec.text := by
    funext rec
    rw [Function.comp_apply, dropCr_text]
  rw [scanLines, linesFrom_records, List.takeWhile_map, List.map_map, hfits, hdrop]

/-- The second pass sees the records up to the first whose line is too long. -/
theorem filterMap_scanLines (recs : List LogLine) :
    (scanLines (recs.flatMap fun rec => utf8 rec.json)).filterMap unmarshalLogLine =
      (recs.takeWhile LogLine.fits).map LogLine.readBack := by
  have hread : (unmarshalLogLine ∘ fun rec : LogLine => utf8 rec.text) =
      some ∘ LogLine.readBack := by
    funext rec
    rw [Function.comp_apply, unmarshalLogLine_text, Function.comp_apply]
  rw [scanLines_records, List.filterMap_map, hread, List.filterMap_eq_map]

/-! ### What is said of the evidence -/

/-- The timestamps of records, in nanoseconds. -/
def timestamps (recs : List LogLine) : Finset Int :=
  (recs.filterMap fun rec => parseInt64 rec.timestampNs).toFinset

/-- The pods that records are from. -/
def pods (recs : List LogLine) : Finset String := (recs.filterMap podOf).toFinset

def summaryText (count : ℕ) (logQL first : String) (podCount : ℕ) : String :=
  toString count ++ " log lines matched [" ++ logQL ++ "]; first at " ++ first ++ ", " ++
    toString podCount ++ " distinct pod(s)"

/-- The summary says how many records there are, when the earliest of them was written
and how many pods they are from. -/
def Describes (summary logQL : String) (recs : List LogLine) : Prop :=
  ∃ earliest, IsLeast (timestamps recs : Set Int) earliest ∧
    summary = summaryText recs.length logQL (Time.unix 0 earliest).clockTime (pods recs).card

/-- The records the scanner comes to stand for all of them: the first is one of these and
shows the time of the earliest, and a pod of the others has been seen. -/
structure Representative (recs : List LogLine) : Prop where
  fits : ∀ rec ∈ recs.head?, rec.fits = true
  first : ∀ rec ∈ recs.head?, ∀ ns, parseInt64 rec.timestampNs = some ns → ∀ earliest,
    IsLeast (timestamps recs : Set Int) earliest →
      (Time.unix 0 ns).clockTime = (Time.unix 0 earliest).clockTime
  seen : pods (recs.dropWhile LogLine.fits) ⊆ pods (recs.takeWhile LogLine.fits)

theorem toString_inj {m n : ℕ} (h : (toString m).toList = (toString n).toList) : m = n := by
  have hdigits : Nat.toDigits 10 m = Nat.toDigits 10 n := by simpa using h
  rw [← Nat.ofDigitChars_ten_toDigits (n := m), hdigits, Nat.ofDigitChars_ten_toDigits]

/-- A summary is told apart from another by what it says. -/
theorem summaryText_eq_iff {count podCount podCount' : ℕ} {logQL first first' : String}
    (hfirst : ',' ∉ first.toList) (hfirst' : ',' ∉ first'.toList) :
    summaryText count logQL first podCount = summaryText count logQL first' podCount' ↔
      first = first' ∧ podCount = podCount' := by
  constructor
  · intro h
    rw [← String.toList_inj] at h
    simp only [summaryText, String.toList_append, List.append_assoc,
      List.append_cancel_left_eq] at h
    have hcomma : ", ".toList = ',' :: " ".toList := rfl
    rw [hcomma, List.cons_append, List.cons_append, append_cons_inj_left hfirst hfirst',
      List.append_cancel_left_eq, List.append_cancel_right_eq] at h
    exact ⟨String.toList_inj.mp h.1, toString_inj h.2⟩
  · rintro ⟨rfl, rfl⟩
    rfl

theorem pods_append (recs recs' : List LogLine) :
    pods (recs ++ recs') = pods recs ∪ pods recs' := by
  rw [pods, List.filterMap_append, List.toFinset_append]
  rfl

/-- As many pods are seen as there are where none is new after the scanner stops. -/
theorem card_pods_takeWhile_iff (recs : List LogLine) :
    (pods (recs.takeWhile LogLine.fits)).card = (pods recs).card ↔
      pods (recs.dropWhile LogLine.fits) ⊆ pods (recs.takeWhile LogLine.fits) := by
  have hall : pods recs = pods (recs.takeWhile LogLine.fits) ∪
      pods (recs.dropWhile LogLine.fits) := by
    rw [← pods_append, List.takeWhile_append_dropWhile]
  rw [hall, ← Finset.union_eq_left]
  constructor
  · intro hcard
    exact (Finset.eq_of_subset_of_card_le Finset.subset_union_left hcard.ge).symm
  · intro hunion
    rw [hunion]

theorem firstTimestamp_readBack (recs : List LogLine) :
    firstTimestamp (recs.map LogLine.readBack) = firstTimestamp recs := by
  rw [firstTimestamp, firstTimestamp, List.findSome?_map]
  rfl

/-- What `summarise` makes of records. -/
theorem summarise_records {recs : List LogLine} (hne : recs ≠ []) (logQL : String) :
    summarise unmarshalLogLine
        { ndjson := recs.flatMap fun rec => utf8 rec.json
          matchCount := recs.length
          logQL := logQL } =
      summaryText recs.length logQL
        (((firstTimestamp (recs.takeWhile LogLine.fits)).map Time.clockTime).getD "unknown")
        (pods (recs.takeWhile LogLine.fits)).card := by
  have hcount : ¬ recs.length = 0 := fun hlength => hne (List.length_eq_zero_iff.mp hlength)
  have hpods : ((recs.takeWhile LogLine.fits).map LogLine.readBack).filterMap podOf =
      (recs.takeWhile LogLine.fits).filterMap podOf := by
    rw [List.filterMap_map]
    exact List.filterMap_congr fun rec _ => podOf_readBack rec
  simp only [summarise, if_neg hcount, filterMap_scanLines, firstTimestamp_readBack, hpods]
  rfl

theorem exists_earliest {recs : List LogLine} (hne : recs ≠ [])
    (hnumeric : ∀ rec ∈ recs, ∃ ns, parseInt64 rec.timestampNs = some ns) :
    ∃ earliest, IsLeast (timestamps recs : Set Int) earliest := by
  obtain ⟨rec, hrec⟩ := List.exists_mem_of_ne_nil recs hne
  obtain ⟨ns, hns⟩ := hnumeric rec hrec
  have hmem : ns ∈ timestamps recs :=
    List.mem_toFinset.mpr (List.mem_filterMap.mpr ⟨rec, hrec, hns⟩)
  exact ⟨_, Finset.isLeast_min' _ ⟨ns, hmem⟩⟩

/-- No record is seen where the first is too long, and the time of the first is shown
where it is not. -/
theorem describes_records_iff {recs : List LogLine} (hne : recs ≠ []) (logQL : String)
    (hnumeric : ∀ rec ∈ recs, ∃ ns, parseInt64 rec.timestampNs = some ns) :
    Describes (summarise unmarshalLogLine
        { ndjson := recs.flatMap fun rec => utf8 rec.json
          matchCount := recs.length
          logQL := logQL }) logQL recs ↔
      Representative recs := by
  obtain ⟨earliest, hearliest⟩ := exists_earliest hne hnumeric
  rw [summarise_records hne]
  obtain ⟨rec, rest, rfl⟩ := List.exists_cons_of_ne_nil hne
  obtain ⟨ns, hns⟩ := hnumeric rec List.mem_cons_self
  cases hfits : rec.fits with
  | false =>
      have hnone : (rec :: rest).takeWhile LogLine.fits = [] :=
        List.takeWhile_cons_of_neg (Bool.eq_false_iff.mp hfits)
      refine iff_of_false ?_ fun h => Bool.false_ne_true (hfits.symm.trans (h.fits rec rfl))
      -- The time is said to be unknown, which is no clock.
      rintro ⟨e, -, htext⟩
      rw [hnone] at htext
      obtain ⟨hclock, -⟩ :=
        (summaryText_eq_iff (by decide) (Time.comma_notMem_clockTime _)).mp htext
      have hlength := Time.length_clockTime (Time.unix 0 e)
      rw [← hclock] at hlength
      exact absurd hlength (by decide)
  | true =>
      have hfirst : firstTimestamp ((rec :: rest).takeWhile LogLine.fits) =
          some (Time.unix 0 ns) := by
        rw [List.takeWhile_cons_of_pos hfits, firstTimestamp, List.findSome?_cons, hns]
        rfl
      -- The clock that is shown is the one of the first record.
      rw [hfirst]
      constructor
      · rintro ⟨e, he, htext⟩
        obtain ⟨hclock, hcard⟩ := (summaryText_eq_iff (Time.comma_notMem_clockTime _)
          (Time.comma_notMem_clockTime _)).mp htext
        refine ⟨?_, ?_, (card_pods_takeWhile_iff _).mp hcard⟩
        · rintro _ ⟨⟩
          exact hfits
        · rintro _ ⟨⟩ ns' hns' e' he'
          obtain rfl := Option.some.inj (hns.symm.trans hns')
          rw [he'.unique he]
          exact hclock
      · rintro ⟨-, hclock, hseen⟩
        refine ⟨earliest, hearliest, ?_⟩
        exact (summaryText_eq_iff (Time.comma_notMem_clockTime _)
          (Time.comma_notMem_clockTime _)).mpr
            ⟨hclock rec rfl ns hns earliest hearliest, (card_pods_takeWhile_iff _).mpr hseen⟩

/-! ### Which evidence is described -/

/-- The records that are stored of an answer. -/
def keptRecords (streams : List Stream) (maxLines : Int) : List LogLine :=
  (records streams).take maxLines.toNat

/-- The entries of a stream are in the order of their timestamps. -/
def Stream.Sorted (stream : Stream) : Prop :=
  stream.values.Pairwise fun val val' => ∀ ns ns', parseInt64 val.1 = some ns →
    parseInt64 val'.1 = some ns' → ns ≤ ns'

theorem eq_keepLines_of_dispatch {isPrint : Char → Bool} {client : Client} {req : DispatchRequest}
    {streams : List Stream} {dr : DispatchResult}
    (hstreams : client.queryRange (buildLogQL isPrint req.question req.ns req.scopeServices)
      req.start req.stop req.maxLines = .ok streams)
    (hdr : dispatch isPrint client req = .ok dr) :
    dr = keepLines (buildLogQL isPrint req.question req.ns req.scopeServices) req.maxLines
      streams := by
  simp only [dispatch, hstreams] at hdr
  split_ifs at hdr
  cases hdr
  rfl

/-- What a summary says is so of the records of an answer. -/
theorem describes_keepLines_iff {logQL : String} {maxLines : Int} {streams : List Stream}
    (hmatch : 0 < (keepLines logQL maxLines streams).matchCount)
    (hnumeric : ∀ rec ∈ keptRecords streams maxLines, ∃ ns, parseInt64 rec.timestampNs = some ns) :
    Describes (summarise unmarshalLogLine (keepLines logQL maxLines streams)) logQL
        (keptRecords streams maxLines) ↔
      Representative (keptRecords streams maxLines) :=
  describes_records_iff (List.ne_nil_of_length_pos hmatch) logQL hnumeric

/-- **Which evidence a summary describes.** Where the first record is no longer than the
scanner allows and shows the time of the earliest, and no pod is new behind a line that is
too long. -/
theorem summary_describes_iff {isPrint : Char → Bool} {client : Client} {req : DispatchRequest}
    {streams : List Stream} {dr : DispatchResult}
    (hstreams : client.queryRange (buildLogQL isPrint req.question req.ns req.scopeServices)
      req.start req.stop req.maxLines = .ok streams)
    (hdr : dispatch isPrint client req = .ok dr) (hmatch : 0 < dr.matchCount)
    (hnumeric : ∀ rec ∈ keptRecords streams req.maxLines,
      ∃ ns, parseInt64 rec.timestampNs = some ns) :
    Describes (summarise unmarshalLogLine dr) dr.logQL (keptRecords streams req.maxLines) ↔
      Representative (keptRecords streams req.maxLines) := by
  obtain rfl := eq_keepLines_of_dispatch hstreams hdr
  exact describes_keepLines_iff hmatch hnumeric

/-- A Loki that answers with the same streams always. -/
def testClient (streams : List Stream) : Client where
  queryRange _ _ _ _ := .ok streams

/-- An error of a pod. -/
def testStream (pod ts : String) : Stream where
  labels := some (InsertionDict.ofList [("pod", pod)])
  values := [(ts, "error")]

def testResult (streams : List Stream) : DispatchResult :=
  keepLines (buildLogQL (fun _ => true) "log:contains error" "demo" []) 200 streams

theorem dispatch_testClient (streams : List Stream) :
    dispatch (fun _ => true) (testClient streams) (testRangeRequest "log:contains error") =
      .ok (testResult streams) :=
  dispatch_of_window _ _ (by decide) (not_refuses_testRangeRequest _)

theorem summary_describes_iff_testStream :
    Describes (summarise unmarshalLogLine (testResult [testStream "a" "1776776400000000000"]))
        (testResult [testStream "a" "1776776400000000000"]).logQL
        (keptRecords [testStream "a" "1776776400000000000"] 200) ↔
      Representative (keptRecords [testStream "a" "1776776400000000000"] 200) := by
  have hnumeric : ∀ rec ∈ keptRecords [testStream "a" "1776776400000000000"] 200,
      ∃ ns, parseInt64 rec.timestampNs = some ns := by
    intro rec hrec
    obtain rfl := List.mem_singleton.mp hrec
    exact ⟨1776776400000000000, by decide⟩
  refine summary_describes_iff ?_ (dispatch_testClient _) Nat.one_pos hnumeric
  rfl

/-- Streams that overlap: the first record is not the earliest. -/
def testOverlap : List Stream :=
  [testStream "a" "1776776405000000000", testStream "b" "1776776400000000000"]

theorem not_summary_describes :
    ¬ ∀ (isPrint : Char → Bool) (client : Client) (req : DispatchRequest) (streams : List Stream)
        (dr : DispatchResult),
      (∀ stream ∈ streams, stream.Sorted) →
      client.queryRange (buildLogQL isPrint req.question req.ns req.scopeServices) req.start
        req.stop req.maxLines = .ok streams →
      dispatch isPrint client req = .ok dr → 0 < dr.matchCount →
      (∀ rec ∈ keptRecords streams req.maxLines, ∃ ns, parseInt64 rec.timestampNs = some ns) →
      Describes (summarise unmarshalLogLine dr) dr.logQL (keptRecords streams req.maxLines) := by
  intro h
  have hsorted : ∀ stream ∈ testOverlap, stream.Sorted := by
    simp only [testOverlap, List.forall_mem_cons]
    exact ⟨List.pairwise_singleton _ _, List.pairwise_singleton _ _, by simp⟩
  have hfirst : parseInt64 "1776776405000000000" = some 1776776405000000000 := by decide
  have hsecond : parseInt64 "1776776400000000000" = some 1776776400000000000 := by decide
  have hnumeric : ∀ rec ∈ keptRecords testOverlap 200,
      ∃ ns, parseInt64 rec.timestampNs = some ns := by
    have hkept : keptRecords testOverlap 200 =
        [{ timestampNs := "1776776405000000000", line := "error",
           labels := some (InsertionDict.ofList [("pod", "a")]) },
         { timestampNs := "1776776400000000000", line := "error",
           labels := some (InsertionDict.ofList [("pod", "b")]) }] := rfl
    rw [hkept]
    simp only [List.forall_mem_cons]
    exact ⟨⟨_, hfirst⟩, ⟨_, hsecond⟩, by simp⟩
  have hmatch : 0 < (testResult testOverlap).matchCount := Nat.two_pos
  have hdescribes := h (fun _ => true) (testClient testOverlap)
    (testRangeRequest "log:contains error") testOverlap (testResult testOverlap) hsorted rfl
    (dispatch_testClient _) hmatch hnumeric
  have hrepresentative := (describes_keepLines_iff hmatch hnumeric).mp hdescribes
  have hearliest : IsLeast (timestamps (keptRecords testOverlap 200) : Set Int)
      1776776400000000000 := by
    have htimes : timestamps (keptRecords testOverlap 200) =
        {1776776405000000000, 1776776400000000000} := by decide
    rw [htimes]
    constructor
    · simp
    · intro ns hns
      simp at hns
      omega
  have hclock := hrepresentative.first _ rfl _ hfirst _ hearliest
  have hne : (Time.unix 0 1776776405000000000).clockTime ≠
      (Time.unix 0 1776776400000000000).clockTime := by
    rw [Ne, ← String.toList_inj, Time.toList_clockTime, Time.toList_clockTime]
    decide
  exact hne hclock

end Loki

end AlphE.Collectors
