import AlphE.Collectors.Kube
import AlphE.Collectors.Loki
import AlphE.Collectors.Prom

/-!
The HTTP surface of a collector (`collectors/internal/server`). The status is
written before the body is encoded, so an answer that does not encode leaves its
status with an empty body.
-/

namespace AlphE.Collectors

open Go

/-- The collectors that the binaries serve. -/
inductive Collector
  | prom (client : Prom.Client)
  | loki (unmarshal : GoString → Option Loki.LogLine) (client : Loki.Client)
  | kube (cs : Kube.Clientset)
  | degraded (kubeErr : GoString)

def Collector.collect : Collector → CollectEnv → CollectorInput →
    Except GoString CollectorOutput
  | .prom client => Prom.collect client
  | .loki unmarshal client => Loki.collect unmarshal client
  | .kube cs => Kube.collect cs
  | .degraded kubeErr => Kube.degradedCollect kubeErr

/-- The answer of a collector whose evidence is stored. -/
def Collector.answer (c : Collector) (env : CollectEnv) (inp : CollectorInput) :
    CollectorOutput :=
  match c with
  | .prom client =>
      let dr := Prom.dispatch Go.Float64.quo env.put.fmt client inp
      Prom.answer env inp dr (env.ref (Prom.putRequest inp dr))
  | .loki unmarshal client =>
      let dr := Loki.dispatch env.put.fmt.isPrint client (Loki.dispatchRequest inp)
      Loki.answer unmarshal env inp dr
        (env.ref (Loki.putRequest env.put.fmt.isPrint inp dr))
  | .kube cs =>
      let dr := Kube.dispatch env.put.fmt.isPrint cs inp
      Kube.answer env inp dr (env.ref (Kube.putRequest env.put.fmt.isPrint inp dr))
  | .degraded kubeErr =>
      Kube.degradedAnswer kubeErr env inp
        (env.ref (Kube.degradedPutRequest env.put.fmt.isPrint kubeErr inp))

/-- A collector answers a valid request unless its evidence cannot be stored. -/
theorem Collector.collect_eq_ok_iff {env : CollectEnv} {inp : CollectorInput}
    (hvalid : inp.validate = none) (c : Collector) (out : CollectorOutput) :
    c.collect env inp = .ok out ↔
      ¬ env.writer.Refuses env.put ∧ out = c.answer env inp := by
  have hid := ((CollectorInput.validate_eq_none_iff inp).mp hvalid).incidentId
  have hreq : ∀ type ≠ "", ∀ req : PutRequest, req.incidentId = inp.incidentId →
      req.contentType = type → req.error = none := by
    intro type htype req hsame hcontent
    rw [PutRequest.error, if_neg (hsame ▸ hid), if_neg (hcontent ▸ htype)]
  have hjson : "application/json" ≠ "" := by decide
  have hndjson : "application/x-ndjson" ≠ "" := by decide
  cases c with
  | prom client => exact withEvidence_eq_ok_iff (hreq _ hjson _ rfl rfl) _ _
  | loki unmarshal client => exact withEvidence_eq_ok_iff (hreq _ hndjson _ rfl rfl) _ _
  | kube cs => exact withEvidence_eq_ok_iff (hreq _ hjson _ rfl rfl) _ _
  | degraded kubeErr => exact withEvidence_eq_ok_iff (hreq _ hjson _ rfl rfl) _ _

/-- A response; an empty body is `none`. -/
structure Response where
  status : ℕ
  body : Option Json

def errorBody (text : GoString) : Json := .dict [("error", .str (toText text))]

/-- `handleCollect`, given what the decoder makes of the request's body. -/
def handleCollect (c : Collector) (env : CollectEnv)
    (decoded : Except GoString CollectorInput) : Response :=
  match decoded with
  | .error err =>
      { status := 400, body := some (errorBody (utf8 "invalid JSON: " ++ err)) }
  | .ok inp =>
      match inp.validate with
      | some text => { status := 400, body := some (errorBody (utf8 text)) }
      | none =>
          match c.collect env inp with
          -- No error of a collector is about the input, so each is the server's.
          | .error err => { status := 500, body := some (errorBody err) }
          | .ok out => { status := 200, body := out.encode }

/-- A 200 carries an answer of the collector to a request that is valid. -/
theorem handleCollect_status_eq_iff {c : Collector} {env : CollectEnv}
    {inp : CollectorInput} :
    (handleCollect c env (.ok inp)).status = 200 ↔
      inp.validate = none ∧ ∃ out, c.collect env inp = .ok out := by
  rw [handleCollect]
  cases inp.validate with
  | some text => simp
  | none => cases c.collect env inp <;> simp

theorem handleCollect_body {c : Collector} {env : CollectEnv} {inp : CollectorInput}
    {out : CollectorOutput} (hvalid : inp.validate = none)
    (hcollect : c.collect env inp = .ok out) :
    (handleCollect c env (.ok inp)).body = out.encode := by
  simp only [handleCollect, hvalid, hcollect]

end AlphE.Collectors
