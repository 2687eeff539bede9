import AlphE.Collectors.PromClient
import AlphE.Lib.Fallible
import AlphE.Lib.GoJsonRaw

/-!
The documents that a Prometheus answers with, as `encoding/json` decodes them into the wire
types of `client.go`. The envelope, its data and each sample are decoded one after the other;
what is not decoded yet stays text. The rows are decoded one by one, and the first part that
does not fit its type is what the error is about. The texts of the library's errors are
parameters.
-/

namespace AlphE.Collectors

open Go Fallible

namespace Prom

/-! ### The wire types -/

/-- What stands around the documents: the network, and the texts of errors. What does not fit
is reported with the type that was decoded, where in it the misfit is, and its text. -/
structure Wire where
  isPrint : Char → Bool
  get : ApiRequest → Except GoString HttpResponse
  syntaxError : GoString → GoString
  typeError : String → Json.Misfit → GoString
  numError : String → GoString

def noApiResponse : ApiResponse := { status := "", errorType := "", error := "", data := [] }

def apiResponseFields : List (String × Json.RawReader ApiResponse) :=
  [("status", Json.rawField ApiResponse.status (fun r s => { r with status := s })
      (Json.whole Json.string)),
    ("errorType", Json.rawField ApiResponse.errorType (fun r s => { r with errorType := s })
      (Json.whole Json.string)),
    ("error", Json.rawField ApiResponse.error (fun r s => { r with error := s })
      (Json.whole Json.string)),
    ("data", Json.rawField ApiResponse.data (fun r data => { r with data := data })
      Json.message)]

structure QueryData where
  resultType : String
  result : GoString

def noQueryData : QueryData := { resultType := "", result := [] }

def queryDataFields : List (String × Json.RawReader QueryData) :=
  [("resultType", Json.rawField QueryData.resultType (fun d t => { d with resultType := t })
      (Json.whole Json.string)),
    ("result", Json.rawField QueryData.result (fun d result => { d with result := result })
      Json.message)]

def noVectorResult : VectorResult := { metric := none, value := ([], []) }

def vectorResultFields : List (String × Json.RawReader VectorResult) :=
  [("metric", Json.rawField VectorResult.metric (fun row labels => { row with metric := labels })
      (Json.whole Json.stringMap)),
    ("value", Json.rawField VectorResult.value (fun row value => { row with value := value })
      Json.messagePair)]

def noMatrixResult : MatrixResult := { values := [] }

/-- The labels of a series are read, and nothing is kept of them. -/
def matrixResultFields : List (String × Json.RawReader MatrixResult) :=
  [("metric", Json.rawField (fun _ => none) (fun row _ => row) (Json.whole Json.stringMap)),
    ("values", Json.rawField MatrixResult.values (fun row values => { row with values := values })
      (Json.rawSlice Json.messagePair ([], [])))]

namespace Wire

variable (w : Wire)

/-- What `json.Unmarshal` returns for a misfit, or for none. -/
def decoded {σ : Type} (type : String) (s : σ) : Option Json.Misfit → Except GoString σ
  | none => .ok s
  | some m => .error (w.typeError type m)

/-- A document that has been scanned, decoded into a variable. -/
def decode {σ : Type} (type : String) (read : Json.RawReader σ) (zero : σ) (text : GoString) :
    Except GoString σ :=
  w.decoded type (read text zero).1 (read text zero).2

/-- A slice of rows: the first row that cannot be decoded decides. -/
def decodeRows {α : Type} (type : String) (row : GoString → Except GoString α)
    (text : GoString) : Except GoString (List α) :=
  match Json.rawElements text with
  | some texts => texts.mapM row
  | none =>
      if Json.isNull text then .ok [] else .error (w.typeError type { path := [], text := text })

def vectorRow : GoString → Except GoString VectorResult :=
  w.decode "prom.vectorResult" (Json.rawObject vectorResultFields) noVectorResult

def matrixRow : GoString → Except GoString MatrixResult :=
  w.decode "prom.matrixResult" (Json.rawObject matrixResultFields) noMatrixResult

/-- `strconv.ParseFloat`. -/
def parseFloat (s : String) : Except GoString Float64 :=
  match Go.parseFloat nearestFloat s.toList with
  | some v => .ok v
  | none => .error (w.numError s)

def http : Http where
  isPrint := w.isPrint
  get := w.get
  syntaxError := w.syntaxError
  decodeEnvelope := w.decode "prom.apiResponse" (Json.rawObject apiResponseFields) noApiResponse
  decodeResult := fun text =>
    (w.decode "prom.queryData" (Json.rawObject queryDataFields) noQueryData text).map
      QueryData.result
  decodeVector := w.decodeRows "[]prom.vectorResult" w.vectorRow
  decodeMatrix := w.decodeRows "[]prom.matrixResult" w.matrixRow
  decodeFloat := w.decode "float64" (Json.whole Json.float64) (.fin 0)
  decodeString := w.decode "string" (Json.whole Json.string) ""
  parseFloat := w.parseFloat

end Wire

/-! ### The rows of a body -/

/-- A body with rows: the envelope and the data as far as they fit, and the rows, undecoded. -/
structure Document where
  envelope : ApiResponse
  envelopeMisfit : Option Json.Misfit
  dataMisfit : Option Json.Misfit
  rows : List GoString
  deriving DecidableEq, Repr

/-- What a body holds; a result that is no array has no rows. -/
def document (body : GoString) : Option Document :=
  let envelope := Json.rawObject apiResponseFields body noApiResponse
  let data := Json.rawObject queryDataFields envelope.1.data noQueryData
  if jsonValid body ∧ jsonValid envelope.1.data ∧ jsonValid data.1.result then
    (Json.rawElements data.1.result).map fun rows =>
      { envelope := envelope.1, envelopeMisfit := envelope.2, dataMisfit := data.2, rows := rows }
  else none

/-- A misfit in the envelope leaves the rows. -/
example : (document (utf8 "\x7b\"status\": 5, \"data\": \x7b\"result\": [1, 2]\x7d\x7d")).map
    (fun d => (d.envelopeMisfit, d.rows)) =
      some (some { path := ["status"], text := utf8 "5" }, [utf8 "1", utf8 "2"]) := by
  decide +kernel

section Rows

variable {w : Wire} {body : GoString} {d : Document}

theorem unmarshal_of_document (w : Wire) (h : document body = some d) :
    w.http.unmarshal w.http.decodeEnvelope body =
        w.decoded "prom.apiResponse" d.envelope d.envelopeMisfit ∧
      ∃ result, w.http.unmarshal w.http.decodeResult d.envelope.data =
          w.decoded "prom.queryData" result d.dataMisfit ∧
        jsonValid result ∧ Json.rawElements result = some d.rows := by
  simp only [document] at h
  split at h
  · next hvalid =>
      obtain ⟨hbody, hdata, hresult⟩ := hvalid
      obtain ⟨rows, hrows, rfl⟩ := Option.map_eq_some_iff.mp h
      refine ⟨?_, _, ?_, hresult, hrows⟩
      · rw [Http.unmarshal, if_pos hbody]
        rfl
      · rw [Http.unmarshal, if_pos hdata]
        simp only [Wire.http, Wire.decode]
        cases (Json.rawObject queryDataFields _ noQueryData).2 <;> rfl
  · cases h

theorem Wire.unmarshal_of_fits (w : Wire) (h : document body = some d)
    (hfits : d.envelopeMisfit = none) :
    w.http.unmarshal w.http.decodeEnvelope body = .ok d.envelope := by
  rw [(unmarshal_of_document w h).1, hfits]
  rfl

theorem Wire.unmarshal_of_misfit (w : Wire) (h : document body = some d) {m : Json.Misfit}
    (hmisfit : d.envelopeMisfit = some m) :
    w.http.unmarshal w.http.decodeEnvelope body =
      .error (w.typeError "prom.apiResponse" m) := by
  rw [(unmarshal_of_document w h).1, hmisfit]
  rfl

/-- The rows of a body are decoded one by one. -/
theorem Wire.rows_of_document (h : document body = some d) (henvelope : d.envelopeMisfit = none)
    (hdata : d.dataMisfit = none) {α : Type} (kind type : String)
    (row : GoString → Except GoString α) :
    w.http.rows kind (w.decodeRows type row) body =
      (d.rows.mapM row).mapError fun err => utf8 ("decode " ++ kind ++ ": ") ++ err := by
  obtain ⟨-, result, hresult, hvalid, hrows⟩ := unmarshal_of_document w h
  have hdecode : w.http.unmarshal (w.decodeRows type row) result = d.rows.mapM row := by
    rw [Http.unmarshal, if_pos hvalid, decodeRows]
    simp only [hrows]
  rw [Http.rows]
  simp only [w.unmarshal_of_fits h henvelope, hresult, hdata, decoded, hdecode]
  cases d.rows.mapM row <;> rfl

/-- Of data with a misfit no rows are decoded. -/
theorem Wire.rows_of_dataMisfit (h : document body = some d)
    (henvelope : d.envelopeMisfit = none) {m : Json.Misfit} (hdata : d.dataMisfit = some m)
    {α : Type} (kind : String) (decode : GoString → Except GoString (List α)) :
    w.http.rows kind decode body =
      .error (utf8 "decode data: " ++ w.typeError "prom.queryData" m) := by
  obtain ⟨-, result, hresult, -, -⟩ := unmarshal_of_document w h
  rw [Http.rows]
  simp only [w.unmarshal_of_fits h henvelope, hresult, hdata, decoded]

end Rows

/-- Two responses that differ at most in the order of the rows: those with rows have the same
ones in some order, and around them the same, which may have its misfits. -/
inductive Reordered (resp : HttpResponse) : HttpResponse → Prop
  | same : Reordered resp resp
  | rows {resp' : HttpResponse} {d d' : Document} (hcode : resp.statusCode = resp'.statusCode)
      (h : document resp.body = some d) (h' : document resp'.body = some d')
      (hstatus : d.envelope.status = d'.envelope.status)
      (herrorType : d.envelope.errorType = d'.envelope.errorType)
      (herror : d.envelope.error = d'.envelope.error)
      (henvelope : d.envelopeMisfit = d'.envelopeMisfit)
      (hdata : d.dataMisfit = d'.dataMisfit) (hperm : d.rows.Perm d'.rows) :
      Reordered resp resp'

end Prom

end AlphE.Collectors
