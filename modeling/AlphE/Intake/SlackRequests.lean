import AlphE.Dispatch.Exchange
import AlphE.Dispatch.Questions
import AlphE.Intake.SlackEcho
import AlphE.Lib.GoTrim

/-!
What the Slack bot asks the collectors. Its requests are dictionaries that no schema has
seen, sent to services that check them, and the service the incident is about stands in the
middle of each question.
-/

namespace AlphE.Intake

open Go Collectors Dispatch PyLower

/-! ### The requests -/

/-- A request to a collector, and where it goes. -/
def Effect.request? : Effect → Option (String × CollectorInput)
  | .collect url input => some (url, input)
  | _ => none

/-- The requests of a computation, in their order. -/
def requests {α : Type} (x : Traced Effect String α) : List (String × CollectorInput) :=
  x.calls.filterMap Effect.request?

/-- The payload as it is posted. The times are written by `isoformat`. -/
def slackBody (input : CollectorInput) : Json :=
  dumpCollectorInput (fun t => IsoFormat.isoformat t.clock t.utcoffset) input

section Requests

variable (table : LowerTable) (env : SlackEnv) (event : SlackEvent)

/-- The two requests of an investigation. -/
def investigationRequests : List (String × CollectorInput) :=
  [((env.environ "COLLECTOR_KUBE_URL").getD
      "http://kube-collector.agent.svc.cluster.local:8003" ++ "/collect",
    kubePayload env (incidentOf table env event)),
   ((env.environ "COLLECTOR_PROM_URL").getD
      "http://prom-collector.agent.svc.cluster.local:8001" ++ "/collect",
    promPayload env (incidentOf table env event))]

end Requests

section Run

variable {α β : Type} (table : LowerTable) (env : SlackEnv) (event : SlackEvent)

theorem requests_tryElse (x : Traced Effect String α) (handler : String → Traced Effect String β)
    (rest : α → Traced Effect String β) :
    requests (x.tryElse handler rest) = requests x ++ match x.result with
      | .ok a => requests (rest a)
      | .error e => requests (handler e) := by
  obtain ⟨result, calls⟩ := x
  cases result <;> exact List.filterMap_append

/-- What follows asks nothing, whether or not something was raised. -/
theorem requests_tryElse_of_quiet {x : Traced Effect String α}
    {handler : String → Traced Effect String β} {rest : α → Traced Effect String β}
    (hhandler : ∀ e, requests (handler e) = []) (hrest : ∀ a, requests (rest a) = []) :
    requests (x.tryElse handler rest) = requests x := by
  rw [requests_tryElse]
  cases x.result with
  | ok a =>
      dsimp only
      rw [hrest a, List.append_nil]
  | error e =>
      dsimp only
      rw [hhandler e, List.append_nil]

theorem requests_bind_of_quiet {x : Traced Effect String α} {rest : α → Traced Effect String β}
    (h : ∀ a, requests (rest a) = []) : requests (x >>= rest) = requests x :=
  requests_tryElse_of_quiet (fun _ => rfl) h

/-- What is asked after a computation that asks nothing itself, unless it raises. -/
theorem requests_bind_of_silent {x : Traced Effect String α} {rest : α → Traced Effect String β}
    (hx : requests x = []) {asked : List (String × CollectorInput)}
    (h : ∀ a, requests (rest a) = [] ∨ requests (rest a) = asked) :
    requests (x >>= rest) = [] ∨ requests (x >>= rest) = asked := by
  have hbind : requests (x >>= rest) = requests (x.tryElse Traced.raise rest) := rfl
  rw [hbind, requests_tryElse, hx, List.nil_append]
  cases x.result with
  | ok a => exact h a
  | error e => exact .inl rfl

theorem requests_postMessage (message : ChatMessage) :
    requests (postMessage env message) = [] := by
  rw [postMessage]
  split <;> rfl

theorem requests_postInThread (thread : Option String) (text : String) :
    requests (postInThread env thread text) = [] := by
  cases thread with
  | none => rfl
  | some thread =>
      rw [postInThread, requests_bind_of_quiet (fun _ => rfl), requests_postMessage]

/-- The model is no collector. -/
theorem requests_analyse (userDescription : String) (findings : List String) :
    requests (analyse env userDescription findings) = [] := by
  unfold analyse
  split <;> rfl

/-- An answer that does not raise is gone on with. -/
theorem requests_collect_bind (url : String) (input : CollectorInput) (a : α)
    (rest : α → Traced Effect String β) :
    requests (.call (.collect url input) (.ok a) >>= rest) =
      (url, input) :: requests (rest a) :=
  requests_tryElse _ Traced.raise rest

theorem requests_investigateIncident (userDescription : String) :
    requests (investigateIncident env (incidentOf table env event) userDescription) =
      investigationRequests table env event := by
  rw [investigateIncident, requests_collect_bind, requests_collect_bind,
    requests_bind_of_quiet (fun _ => rfl), requests_analyse]
  rfl

theorem requests_investigateInThread (thread : Option String) :
    requests (investigateInThread table env event thread) = [] ∨
      requests (investigateInThread table env event thread) =
        investigationRequests table env event := by
  apply requests_bind_of_silent (requests_postInThread env thread startingText)
  intro _
  rw [requests_bind_of_quiet (fun _ => requests_postInThread env _ _),
    requests_investigateIncident]
  exact .inr rfl

theorem requests_respond :
    requests (respond table env event) = [] ∨
      requests (respond table env event) = investigationRequests table env event := by
  apply requests_bind_of_silent (requests_postMessage env _)
  intro _
  apply requests_bind_of_silent (requests_postMessage env _)
  intro reply
  rw [requests_bind_of_quiet (fun _ => rfl),
    requests_tryElse_of_quiet (fun _ => requests_postInThread env _ _) (fun _ => rfl)]
  exact requests_investigateInThread table env event _

/-- A delivery makes the two requests of an investigation or none, and none unless the bot
is mentioned. -/
theorem requests_slackEventsWebhook (payload : SlackEventWrapper) :
    requests (slackEventsWebhook table env payload) = [] ∨
      ∃ event, payload.event = some event ∧ actsOn table event = true ∧
        requests (slackEventsWebhook table env payload) =
          investigationRequests table env event := by
  unfold slackEventsWebhook
  split
  · exact .inl rfl
  split
  · next event hevent =>
      split
      · next hacts =>
          rw [Bool.and_eq_true] at hacts
          have hseeded : requests (handleMention table env event) =
              requests (respond table env event) :=
            requests_tryElse (.call (.seeded (incidentOf table env event)) (.ok ()))
              Traced.raise fun _ => respond table env event
          rw [hseeded]
          obtain hnone | hasked := requests_respond table env event
          · exact .inl hnone
          · exact .inr ⟨event, hevent, hacts.2, hasked⟩
      · exact .inl rfl
  · exact .inl rfl

end Run

/-! ### What the collectors make of them -/

/-- A clock that is two hours into the calendar, so that the window of an investigation
starts in it and not at its first instant. -/
structure Dated (now : Int) : Prop where
  inCalendar : IsoFormat.InCalendar now
  start : IsoFormat.InCalendar (now - DateTime.minutes 120)
  late : zeroInstant < now - DateTime.minutes 120

/-- A question that begins with a letter that begins no form. -/
theorem freeText_of_head? {question : String} (h : question.toList.head? = some 'S') :
    FreeText question := by
  have hforms : ∀ form ∈ kubeForms ++ promForms ++ lokiForms,
      form.toList.head?.isSome ∧ form.toList.head? ≠ some 'S' := by decide
  have hfree : ∀ form ∈ kubeForms ++ promForms ++ lokiForms,
      hasPrefix question form = false ∧ hasPrefix (trimSpace question) form = false := by
    intro form hform
    obtain ⟨hsome, hne⟩ := hforms form hform
    exact ⟨hasPrefix_eq_false_of_head? h hsome hne,
      hasPrefix_eq_false_of_head? (head?_trimSpace h (by decide)) hsome hne⟩
  simp only [List.forall_mem_append] at hfree
  exact ⟨fun form hform => (hfree.1.1 form hform).2, fun form hform => (hfree.1.2 form hform).2,
    fun form hform => (hfree.2 form hform).1⟩

/-- The collector reads a time as it was meant. -/
theorem unmarshal_isoformat {t : Int} (ht : IsoFormat.InCalendar t) :
    Time.unmarshal (IsoFormat.isoformat (DateTime.utc t).clock (DateTime.utc t).utcoffset) =
      some (wireTime (.utc t)) := by
  have hwire : wireTime (.utc t) = { nanos := t * 1000 } := by
    simp [wireTime, DateTime.utc, DateTime.instant]
  rw [hwire]
  exact Time.unmarshal_isoformat_utc ht

theorem post_slackBody {input : CollectorInput} {start stop : Int}
    (hstart : input.timeRange.start = .utc start) (hstop : input.timeRange.stop = .utc stop)
    (hcal : IsoFormat.InCalendar start) (hcal' : IsoFormat.InCalendar stop) (c : Collector)
    (cenv : CollectEnv) (err : GoString) :
    post c cenv err (slackBody input) = handleCollect c cenv (.ok (received input)) := by
  have hdecode : decodeCollectorInput (slackBody input) = some (received input) := by
    rw [decodeCollectorInput, slackBody, object_collectorInputFields, received, hstart, hstop,
      unmarshal_isoformat hcal, unmarshal_isoformat hcal']
    rfl
  rw [post, hdecode]

section Payload

variable {env : SlackEnv} {incident : IncidentState} {now : Int} {question hypothesisId : String}

theorem start_collectPayload (incident : IncidentState) (question hypothesisId : String)
    (hnow : env.investigatedAt = .utc now) :
    (collectPayload env incident question hypothesisId).timeRange.start =
      .utc (now - DateTime.minutes 120) := by
  show env.investigatedAt.addMicros (-DateTime.minutes 120) = _
  rw [hnow]
  rfl

theorem acceptable_collectPayload (hdated : Dated now) (hnow : env.investigatedAt = .utc now)
    (hincident : incident.incidentId ≠ "") (hquestion : question ≠ "")
    (hhypothesis : hypothesisId ≠ "") :
    Acceptable (collectPayload env incident question hypothesisId) := by
  have hstart := start_collectPayload incident question hypothesisId hnow
  have hstop : (collectPayload env incident question hypothesisId).timeRange.stop = .utc now :=
    hnow
  have hinstant : ∀ t, (DateTime.utc t).instant = t := by
    simp [DateTime.utc, DateTime.instant]
  have hwindow : 0 < DateTime.minutes 120 := by decide
  have hcluster : "devops-agent" ≠ "" := by decide
  have hlate := hdated.late
  refine ⟨hincident, hquestion, hhypothesis, ?_, ?_, ?_, ?_, ?_, hcluster⟩
  · rw [hstart]
    rfl
  · rw [hstop]
    rfl
  · rw [hstart, hinstant]
    omega
  · rw [hstop, hinstant]
    omega
  · rw [hstart, hstop, hinstant, hinstant]
    omega

/-- What a request of an investigation comes to at a collector. -/
theorem answered_collectPayload (hdated : Dated now) (hnow : env.investigatedAt = .utc now)
    (hincident : incident.incidentId ≠ "") (hhypothesis : hypothesisId ≠ "")
    (hquestion : question.toList.head? = some 'S') :
    let input := collectPayload env incident question hypothesisId
    (∀ (c : Collector) (cenv : CollectEnv) (err : GoString),
      post c cenv err (slackBody input) = handleCollect c cenv (.ok (received input)) ∧
      ((post c cenv err (slackBody input)).status = 200 ↔ ¬ cenv.writer.Refuses cenv.put)) ∧
    Kube.parseQuestion (received input) = { kind := .default, ns := "demo" } ∧
    ∀ fmt, Prom.parseQuestion fmt (received input) = Prom.defaultQuery fmt "demo" := by
  intro input
  have hne : question ≠ "" := by
    rintro rfl
    cases hquestion
  have hvalid : (received input).validate = none :=
    validate_received (acceptable_collectPayload hdated hnow hincident hne hhypothesis)
  have hfree := freeText_of_head? hquestion
  refine ⟨fun c cenv err => ?_, ?_, fun fmt => ?_⟩
  · have hpost : post c cenv err (slackBody input) = handleCollect c cenv (.ok (received input)) :=
      post_slackBody (start_collectPayload _ _ _ hnow) hnow hdated.start hdated.inCalendar c cenv
        err
    refine ⟨hpost, ?_⟩
    rw [hpost, handleCollect_status_eq_iff, and_iff_right hvalid]
    simp only [c.collect_eq_ok_iff hvalid, exists_and_left, exists_eq, and_true]
  · have hns : Kube.defaultNamespace ["demo/leaky-service"] = "demo" := by decide
    simp [Kube.parseQuestion, input, received, wireInput, collectPayload, hfree.kube, hns]
  · have hns : Prom.defaultNamespace ["demo/leaky-service"] = "demo" := by decide
    simp [Prom.parseQuestion, input, received, wireInput, collectPayload, hfree.prom, hns]

end Payload

variable (table : LowerTable)

/-- **What a message can make the collectors do.** Whoever writes what to the bot: a delivery
makes no request, or the two of one investigation. Both are taken by every collector, whose
answer is a 200 exactly when the evidence can be stored; and what they ask is what is asked
of the namespace `demo` when there is no question. -/
theorem slackEventsWebhook_asks (env : SlackEnv) {now : Int} (hdated : Dated now)
    (hnow : env.investigatedAt = .utc now) (payload : SlackEventWrapper) :
    (requests (slackEventsWebhook table env payload) = [] ∨
      ∃ event, payload.event = some event ∧ actsOn table event = true ∧
        requests (slackEventsWebhook table env payload) =
          investigationRequests table env event) ∧
    ∀ p ∈ requests (slackEventsWebhook table env payload),
      (∀ (c : Collector) (cenv : CollectEnv) (err : GoString),
        post c cenv err (slackBody p.2) = handleCollect c cenv (.ok (received p.2)) ∧
        ((post c cenv err (slackBody p.2)).status = 200 ↔
          ¬ cenv.writer.Refuses cenv.put)) ∧
      Kube.parseQuestion (received p.2) = { kind := .default, ns := "demo" } ∧
      ∀ fmt, Prom.parseQuestion fmt (received p.2) = Prom.defaultQuery fmt "demo" := by
  have hrequests := requests_slackEventsWebhook table env payload
  refine ⟨hrequests, ?_⟩
  obtain hnone | ⟨event, -, -, hasked⟩ := hrequests
  · rw [hnone]
    exact fun p hp => absurd hp List.not_mem_nil
  · have hincident : (incidentOf table env event).incidentId ≠ "" := by
      intro hempty
      have hchars := congrArg String.toList hempty
      simp [incidentOf, seedIncidentFromSlack] at hchars
    intro p hp
    rw [hasked, investigationRequests, List.mem_pair] at hp
    rcases hp with rfl | rfl
    · exact answered_collectPayload hdated hnow hincident (by decide) (by simp)
    · exact answered_collectPayload hdated hnow hincident (by decide) (by simp)

/-! ### A mention -/

def testDelivery : SlackEventWrapper := { type := "event_callback", event := some testMention }

theorem dated_testNow : Dated 1776780000000000 where
  inCalendar := ⟨by decide, by decide⟩
  start := ⟨by decide, by decide⟩
  late := by decide

/-- The api is down, and the pods of `demo` are listed. -/
theorem slackEventsWebhook_asks_testDelivery :
    requests (slackEventsWebhook .keeping testSlackRun.toSlackEnv testDelivery) =
      investigationRequests .keeping testSlackRun.toSlackEnv testMention ∧
    Kube.parseQuestion (received (kubePayload testSlackRun.toSlackEnv
      (incidentOf .keeping testSlackRun.toSlackEnv testMention))) =
      { kind := .default, ns := "demo" } := by
  obtain ⟨hrequests, hanswered⟩ := slackEventsWebhook_asks .keeping
    testSlackRun.toSlackEnv dated_testNow rfl testDelivery
  have hasked : requests (slackEventsWebhook .keeping testSlackRun.toSlackEnv testDelivery) =
      investigationRequests .keeping testSlackRun.toSlackEnv testMention := by
    obtain hnone | ⟨event, hevent, -, hasked⟩ := hrequests
    · have hsome : (requests (slackEventsWebhook .keeping testSlackRun.toSlackEnv
          testDelivery)).length = 2 := by decide +kernel
      rw [hnone] at hsome
      cases hsome
    · cases hevent
      exact hasked
  refine ⟨hasked, ?_⟩
  rw [hasked] at hanswered
  exact (hanswered _ List.mem_cons_self).2.1

end AlphE.Intake
