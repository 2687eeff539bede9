import AlphE.Collectors.LokiSummary

/-!
The evidence of the loki collector (`Dispatch` in `internal/loki`). Two loops go over the
streams and their entries and encode one record for each, and both stop when the request
has as many as it wants. What they leave is a log extract: its lines are those of the
first entries, and each is read back as its entry.
-/

namespace AlphE.Collectors

open Go

namespace Loki

/-! ### The two loops -/

/-- What the loops have written, and how many records that is. -/
structure Collected where
  ndjson : GoString := []
  count : ℕ := 0

def Collected.encode (st : Collected) (rec : LogLine) : Collected :=
  { ndjson := st.ndjson ++ utf8 rec.json, count := st.count + 1 }

/-- The loop over the entries of a stream. -/
def encodeValues (maxLines : Int) (labels : Labels) :
    List (String × String) → Collected → Collected
  | [], st => st
  | val :: values, st =>
      if maxLines ≤ st.count then st
      else encodeValues maxLines labels values
        (st.encode { timestampNs := val.1, line := val.2, labels := labels })

/-- The loop over the streams. -/
def encodeStreams (maxLines : Int) : List Stream → Collected → Collected
  | [], st => st
  | stream :: streams, st =>
      let st := encodeValues maxLines stream.labels stream.values st
      if maxLines ≤ st.count then st else encodeStreams maxLines streams st

/-- `Dispatch`, with its loops. -/
def dispatchLoops (isPrint : Char → Bool) (client : Client) (req : DispatchRequest) :
    Except GoString DispatchResult :=
  if req.maxLines ≤ 0 then .error (utf8 "loki dispatch: MaxLines must be > 0")
  else if req.start.isZero || req.stop.isZero then
    .error (utf8 "loki dispatch: Start and End are required")
  else if !req.stop.after req.start then
    .error (utf8 "loki dispatch: End must be after Start")
  else
    let logQL := buildLogQL isPrint req.question req.ns req.scopeServices
    match client.queryRange logQL req.start req.stop req.maxLines with
    | .error err => .error (utf8 "loki dispatch: " ++ err)
    | .ok streams =>
        let collected := encodeStreams req.maxLines streams {}
        .ok { ndjson := collected.ndjson, matchCount := collected.count, logQL := logQL }

/-- The state of the loops after some records. -/
def Collected.holding (recs : List LogLine) : Collected :=
  { ndjson := recs.flatMap fun rec => utf8 rec.json, count := recs.length }

theorem Collected.encode_holding (recs : List LogLine) (rec : LogLine) :
    (Collected.holding recs).encode rec = Collected.holding (recs ++ [rec]) := by
  simp [Collected.encode, Collected.holding]

/-- The records of one stream. -/
def streamRecords (labels : Labels) (values : List (String × String)) : List LogLine :=
  values.map fun val => { timestampNs := val.1, line := val.2, labels := labels }

theorem records_cons (stream : Stream) (streams : List Stream) :
    records (stream :: streams) = streamRecords stream.labels stream.values ++ records streams :=
  List.flatMap_cons

section Loops

variable (maxLines : Int)

/-- How many more records are wanted. -/
def room (kept : List LogLine) : ℕ := maxLines.toNat - kept.length

theorem room_eq_zero {kept : List LogLine} (h : maxLines ≤ kept.length) :
    room maxLines kept = 0 := by
  rw [room]
  omega

/-- The inner loop takes what there is room for. -/
theorem encodeValues_holding (labels : Labels) (values : List (String × String))
    (kept : List LogLine) :
    encodeValues maxLines labels values (Collected.holding kept) =
      Collected.holding (kept ++ (streamRecords labels values).take (room maxLines kept)) := by
  induction values generalizing kept with
  | nil => simp [encodeValues, streamRecords]
  | cons val values ih =>
      rw [encodeValues]
      by_cases hfull : maxLines ≤ kept.length
      · have hcount : maxLines ≤ (Collected.holding kept).count := hfull
        rw [if_pos hcount, room_eq_zero maxLines hfull, List.take_zero, List.append_nil]
      · have hcount : ¬ maxLines ≤ (Collected.holding kept).count := hfull
        let entry : LogLine := { timestampNs := val.1, line := val.2, labels := labels }
        have hroom : room maxLines kept = room maxLines (kept ++ [entry]) + 1 := by
          rw [room, room, List.length_append, List.length_singleton]
          omega
        have hrecs : streamRecords labels (val :: values) =
            entry :: streamRecords labels values := rfl
        rw [if_neg hcount, Collected.encode_holding, ih, hroom, hrecs, List.take_succ_cons,
          List.append_assoc, List.singleton_append]

/-- So do both loops, wherever the last record falls. -/
theorem encodeStreams_holding (streams : List Stream) (kept : List LogLine) :
    encodeStreams maxLines streams (Collected.holding kept) =
      Collected.holding (kept ++ (records streams).take (room maxLines kept)) := by
  induction streams generalizing kept with
  | nil => simp [encodeStreams, records]
  | cons stream streams ih =>
      let recs := streamRecords stream.labels stream.values
      let kept' := kept ++ recs.take (room maxLines kept)
      have hkept : kept'.length = kept.length + min (room maxLines kept) recs.length := by
        rw [List.length_append, List.length_take]
      rw [encodeStreams, encodeValues_holding, records_cons, List.take_append, ← List.append_assoc]
      by_cases hfull : maxLines ≤ kept'.length
      · -- Full within the stream or at its end: nothing of the next one is wanted.
        have hrest : room maxLines kept - recs.length = 0 := by
          rw [room] at hkept ⊢
          omega
        have hcount : maxLines ≤ (Collected.holding kept').count := hfull
        rw [if_pos hcount, hrest, List.take_zero, List.append_nil]
      · have hrest : room maxLines kept' = room maxLines kept - recs.length := by
          rw [room] at hkept ⊢
          rw [room]
          omega
        have hcount : ¬ maxLines ≤ (Collected.holding kept').count := hfull
        rw [if_neg hcount, ih, hrest]

/-- The loops keep the first records, as many as are wanted. -/
theorem encodeStreams_eq (streams : List Stream) :
    encodeStreams maxLines streams {} =
      Collected.holding ((records streams).take maxLines.toNat) := by
  have hnone : ({} : Collected) = Collected.holding [] := rfl
  rw [hnone, encodeStreams_holding, List.nil_append, room, List.length_nil, Nat.sub_zero]

end Loops

theorem dispatchLoops_eq_dispatch (isPrint : Char → Bool) (client : Client)
    (req : DispatchRequest) : dispatchLoops isPrint client req = dispatch isPrint client req := by
  simp only [dispatchLoops, dispatch, encodeStreams_eq]
  rfl

/-! ### What is stored -/

/-- The same entry, the labels as a map. -/
structure LogLine.Agrees (rec rec' : LogLine) : Prop where
  timestampNs : rec.timestampNs = rec'.timestampNs
  line : rec.line = rec'.line
  labels : Option.Rel InsertionDict.Equiv rec.labels rec'.labels

theorem agrees_readBack (rec : LogLine) : rec.readBack.Agrees rec := by
  refine ⟨rfl, rfl, ?_⟩
  rw [LogLine.readBack]
  cases rec.labels with
  | none => exact .none
  | some labels => exact .some (get?_sortLabels labels)

/-- The payload is `count` lines, each with its newline, and they are read back as the
records. -/
structure Holds (payload : GoString) (count : ℕ) (recs : List LogLine) (lines : List GoString) :
    Prop where
  framed : payload = lines.flatMap fun line => line ++ [.rune '\n']
  oneLine : ∀ line ∈ lines, .rune '\n' ∉ line
  count : lines.length = count
  decoded : List.Forall₂ (fun line rec => ∃ back, unmarshalLogLine line = some back ∧
    back.Agrees rec) lines recs

theorem holds_records (recs : List LogLine) :
    Holds (recs.flatMap fun rec => utf8 rec.json) recs.length recs
      (recs.map fun rec => utf8 rec.text) where
  framed := by
    rw [List.flatMap_map]
    apply List.flatMap_congr
    intro rec _
    rw [json_eq_text, utf8_append]
    rfl
  oneLine := by
    rw [List.forall_mem_map]
    exact fun rec _ => (oneLine_text rec).rune_notMem
  count := List.length_map _
  decoded := by
    rw [List.forall₂_map_left_iff, List.forall₂_same]
    exact fun rec _ => ⟨rec.readBack, unmarshalLogLine_text rec, agrees_readBack rec⟩

/-- **The evidence is a log extract.** A request that is accepted is answered with the
first entries of the streams, as many as it wants, each on a line of its own and
unchanged. -/
theorem dispatchLoops_holds (isPrint : Char → Bool) (client : Client) {req : DispatchRequest}
    (hlines : 0 < req.maxLines) (hwindow : ¬ Refuses req) {streams : List Stream}
    (hstreams : client.queryRange (buildLogQL isPrint req.question req.ns req.scopeServices)
      req.start req.stop req.maxLines = .ok streams) :
    ∃ dr lines, dispatchLoops isPrint client req = .ok dr ∧
      dr.matchCount = min (records streams).length req.maxLines.toNat ∧
      Holds dr.ndjson dr.matchCount ((records streams).take dr.matchCount) lines := by
  let recs := (records streams).take req.maxLines.toNat
  have hcount : recs.length = min (records streams).length req.maxLines.toNat := by
    rw [List.length_take, min_comm]
  have htake : (records streams).take recs.length = recs := by
    rw [hcount, min_comm, ← List.take_eq_take_min]
  refine ⟨keepLines (buildLogQL isPrint req.question req.ns req.scopeServices) req.maxLines streams,
    recs.map fun rec => utf8 rec.text, ?_, hcount, ?_⟩
  · rw [dispatchLoops_eq_dispatch, dispatch_of_window isPrint client hlines hwindow, hstreams]
  · exact htake.symm ▸ holds_records recs

theorem dispatchLoops_holds_testOverlap :
    ∃ dr lines, dispatchLoops (fun _ => true) (testClient testOverlap)
        (testRangeRequest "log:contains error") = .ok dr ∧
      dr.matchCount = min (records testOverlap).length
        (testRangeRequest "log:contains error").maxLines.toNat ∧
      Holds dr.ndjson dr.matchCount ((records testOverlap).take dr.matchCount) lines :=
  dispatchLoops_holds _ _ (by decide) (not_refuses_testRangeRequest _) rfl

end Loki

end AlphE.Collectors
