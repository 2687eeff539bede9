import AlphE.Llm.Client
import AlphE.Llm.Conversation
import Mathlib.Algebra.Order.BigOperators.Group.List

/-!
`complete_typed` on top of `Client.complete`. One loop asks again because of what was
answered, the other because nothing was; an error of the client passes through the outer
loop. What is kept of a call is the conversation of every call of `messages.create`, a
request in what follows, and the client's pauses. The library below resends and pauses on
its own account, which is part of one such call and not seen here.

Every attempt of the outer loop has all the retries of the client, so the two numbers
multiply.
-/

namespace AlphE.Llm

open Validation Validated

/-- `messages.create` during one call: the outcome of a request, by the number of requests
before it and the conversation it carries. -/
abbrev MessagesApi := ℕ → List Message → Outcome Response

/-- What is asked of `messages.create`, and how long the client sleeps between. -/
structure Traffic where
  requests : List (List Message) := []
  sleeps : List ℚ := []

/-- What `complete_typed` raises: what the client raises, or its own errors. -/
inductive CallError
  | client (exc : Raised)
  | completion (err : CompletionError)

structure Call (α : Type) where
  result : Except CallError α
  traffic : Traffic

/-- What is raised when all attempts failed. -/
def exhausted (lastRaw : WireValue) (lastExc : Option (List ErrorLine)) : CompletionError :=
  match lastExc with
  | none => .assertion
  | some errors => .structuredOutput { rawOutput := lastRaw, validationError := errors }

/-- The variables of the outer loop at the start of an attempt. -/
structure Attempt where
  traffic : Traffic := {}
  conversation : List Message
  lastExc : Option (List ErrorLine) := none

/-- A call of `complete_typed`: its client, its output model, and the API it reaches. -/
structure Caller (α : Type) where
  settings : LLMSettings
  spelling : Spelling
  toolName : String
  validate : Validator DateTime α
  api : MessagesApi

namespace LLMSettings

variable {ρ : Type} {settings : LLMSettings} {outcomes : ℕ → Outcome ρ} {attempt : ℕ}

theorem resultAt_of_success {response : ρ} (h : outcomes attempt = .success response) :
    settings.resultAt outcomes attempt = .ok response := by
  rw [resultAt, h]

theorem resultAt_of_error {exc : APIStatusError} (h : outcomes attempt = .apiStatusError exc) :
    settings.resultAt outcomes attempt = .error
      (if exc.statusCode ∈ settings.retryableStatusCodes ∧ attempt < settings.maxRetries then
        .overflowError
      else .apiStatusError exc) := by
  rw [resultAt, h]
  exact (apply_ite Except.error _ _ _).symm

theorem success_of_resultAt {response : ρ} (h : settings.resultAt outcomes attempt = .ok response) :
    outcomes attempt = .success response := by
  cases houtcome : outcomes attempt with
  | success r =>
      rw [resultAt_of_success houtcome] at h
      rw [Except.ok.inj h]
  | apiStatusError exc =>
      rw [resultAt_of_error houtcome] at h
      cases h

/-- All the pauses of a client that retries as often as it may. -/
def longestPause (settings : LLMSettings) : ℚ :=
  ((List.range settings.maxRetries).map settings.delay).sum

theorem delay_nonneg (hinitial : 0 ≤ settings.initialBackoff) (hmax : 0 ≤ settings.maxBackoff)
    (i : ℕ) : 0 ≤ settings.delay i :=
  le_min (mul_nonneg hinitial (pow_nonneg zero_le_two i)) hmax

theorem longestPause_nonneg (hinitial : 0 ≤ settings.initialBackoff)
    (hmax : 0 ≤ settings.maxBackoff) : 0 ≤ settings.longestPause := by
  apply List.sum_nonneg
  intro d hd
  obtain ⟨i, -, rfl⟩ := List.mem_map.mp hd
  exact delay_nonneg hinitial hmax i

/-- A response after as many listed errors as there are retries. -/
theorem complete_of_late {response : ρ} (hfloat : settings.maxRetries ≤ maxExponent + 1)
    (herrors : ∀ i < settings.maxRetries, settings.Retryable (outcomes i))
    (hsuccess : outcomes settings.maxRetries = .success response) :
    settings.complete outcomes =
      { result := .ok response
        calls := settings.maxRetries + 1
        sleeps := (List.range settings.maxRetries).map settings.delay } := by
  obtain ⟨last, hmax, -, hlast, hrun⟩ := exists_complete settings outcomes
  obtain rfl : last = settings.maxRetries := by
    by_contra hne
    have hlt : last < settings.maxRetries := by omega
    exact hlast ⟨herrors last hlt, hlt, by omega⟩
  rw [hrun, resultAt_of_success hsuccess]

end LLMSettings

namespace Caller

variable {α : Type} (C : Caller α)

/-- `await client.complete(...)` -/
def completed (a : Attempt) : Completed Response :=
  C.settings.complete fun i => C.api (a.traffic.requests.length + i) a.conversation

/-- What has been asked when the client is done. -/
def sent (a : Attempt) : Traffic :=
  { requests := a.traffic.requests ++ List.replicate (C.completed a).calls a.conversation
    sleeps := a.traffic.sleeps ++ (C.completed a).sleeps }

/-- The attempt after a response that was rejected. -/
def next (a : Attempt) (response : Response) (lastExc : Option (List ErrorLine)) : Attempt :=
  { traffic := C.sent a
    conversation := a.conversation ++
      [assistantTurn response, userTurn (corrective C.spelling C.toolName C.validate response)]
    lastExc := lastExc }

/-- The attempts from one on, with `retries` of them left. -/
def callFrom : ℕ → Attempt → Call α
  | retries, a =>
      match (C.completed a).result with
      | .error exc => ⟨.error (.client exc), C.sent a⟩  -- not caught
      | .ok response =>
          match extractInput C.toolName response with
          | none =>
              let lastExc := match C.validate (.dict []) with
                | .valid _ => a.lastExc
                | .invalid errors => some errors
              match retries with
              | 0 => ⟨.error (.completion (exhausted (.dict []) lastExc)), C.sent a⟩
              | retries + 1 => callFrom retries (C.next a response lastExc)
          | some raw =>
              match C.validate raw with
              | .valid v => ⟨.ok v, C.sent a⟩
              | .invalid errors =>
                  match retries with
                  | 0 => ⟨.error (.completion (exhausted raw (some errors))), C.sent a⟩
                  | retries + 1 => callFrom retries (C.next a response (some errors))

/-- `complete_typed`. -/
def call (messages : List Message) (maxRetries : ℕ) : Call α :=
  C.callFrom maxRetries { conversation := messages }

/-! ### One attempt -/

/-- The response is rejected by the output model. -/
abbrev Rejects (response : Response) : Prop := Rejected C.toolName C.validate response

/-- The client returns a response that is rejected. -/
def GoesOn (a : Attempt) : Prop :=
  ∃ response, (C.completed a).result = .ok response ∧ C.Rejects response

/-- `last_exc` after a response that was rejected. -/
def excAfter (a : Attempt) (response : Response) : Option (List ErrorLine) :=
  nextExc C.toolName C.validate a.lastExc response

/-- What the call comes to when the attempt is the last. -/
def resultAt (a : Attempt) : Except CallError α :=
  match (C.completed a).result with
  | .error exc => .error (.client exc)
  | .ok response =>
      match (extractInput C.toolName response).map C.validate with
      | some (.valid v) => .ok v
      | _ => .error (.completion
          (exhausted (rawOutput C.toolName response) (C.excAfter a response)))

variable {C} {a : Attempt}

/-- A rejected response is followed by another attempt. -/
theorem callFrom_of_rejects (retries : ℕ) {response : Response}
    (hok : (C.completed a).result = .ok response) (h : C.Rejects response) :
    C.callFrom (retries + 1) a =
      C.callFrom retries (C.next a response (C.excAfter a response)) := by
  rw [excAfter, nextExc, rawOutput, callFrom]
  cases hraw : extractInput C.toolName response with
  | none =>
      cases hempty : C.validate (.dict []) with
      | valid v => simp only [hok, hraw, hempty, Option.getD_none]
      | invalid errors => simp only [hok, hraw, hempty, Option.getD_none]
  | some raw =>
      simp only [hok, hraw, Option.getD_some]
      cases hvalid : C.validate raw with
      | valid v => exact absurd ⟨v, hvalid⟩ (h raw hraw)
      | invalid errors => rfl

/-- Anything else ends the call, and so does the last attempt. -/
theorem callFrom_of_last {retries : ℕ} (h : retries = 0 ∨ ¬ C.GoesOn a) :
    C.callFrom retries a = ⟨C.resultAt a, C.sent a⟩ := by
  rw [resultAt]
  unfold callFrom
  cases hok : (C.completed a).result with
  | error exc => rfl
  | ok response =>
      have hzero : C.Rejects response → retries = 0 := fun hrejects =>
        h.resolve_right fun hgo => hgo ⟨response, hok, hrejects⟩
      cases hraw : extractInput C.toolName response with
      | none =>
          obtain rfl := hzero (rejected_of_extractInput_eq_none hraw)
          cases hempty : C.validate (.dict []) with
          | valid v =>
              simp only [hraw, hempty, Option.map_none, excAfter, nextExc, rawOutput,
                Option.getD_none]
          | invalid errors =>
              simp only [hraw, hempty, Option.map_none, excAfter, nextExc, rawOutput,
                Option.getD_none]
      | some raw =>
          cases hvalid : C.validate raw with
          | valid v => simp only [hraw, hvalid, Option.map_some]
          | invalid errors =>
              have hrejects : C.Rejects response := by
                rw [Rejects, rejected_iff_of_extractInput hraw, hvalid]
                rintro ⟨v, hv⟩
                cases hv
              obtain rfl := hzero hrejects
              simp only [hraw, hvalid, Option.map_some, excAfter, nextExc, rawOutput,
                Option.getD_some]

/-! ### The whole call -/

variable (C)

/-- The attempts of a call one after another. -/
def attemptAt (messages : List Message) : ℕ → Attempt
  | 0 => { conversation := messages }
  | k + 1 =>
      let a := attemptAt messages k
      match (C.completed a).result with
      | .error _ => a  -- there is no next one
      | .ok response => C.next a response (C.excAfter a response)

variable {C} {messages : List Message}

theorem attemptAt_succ {k : ℕ} {response : Response}
    (h : (C.completed (C.attemptAt messages k)).result = .ok response) :
    C.attemptAt messages (k + 1) =
      C.next (C.attemptAt messages k) response (C.excAfter (C.attemptAt messages k) response) := by
  rw [attemptAt]
  simp only [h]

/-- The attempts go on up to one that ends the call. The induction is on the retries
left. -/
theorem exists_callFrom (C : Caller α) (messages : List Message) (retries k : ℕ) :
    ∃ last, k ≤ last ∧ last ≤ k + retries ∧
      (∀ j, k ≤ j → j < last → C.GoesOn (C.attemptAt messages j)) ∧
      (last = k + retries ∨ ¬ C.GoesOn (C.attemptAt messages last)) ∧
      C.callFrom retries (C.attemptAt messages k) =
        ⟨C.resultAt (C.attemptAt messages last), C.sent (C.attemptAt messages last)⟩ := by
  induction retries generalizing k with
  | zero =>
      exact ⟨k, le_rfl, le_rfl, fun j hj hlt => absurd hlt (Nat.not_lt.mpr hj), .inl rfl,
        callFrom_of_last (.inl rfl)⟩
  | succ retries ih =>
      by_cases h : C.GoesOn (C.attemptAt messages k)
      · obtain ⟨response, hok, hrejects⟩ := id h
        obtain ⟨last, hfirst, hmax, hgo, hlast, hcall⟩ := ih (k + 1)
        refine ⟨last, by omega, by omega, ?_, ?_, ?_⟩
        · intro j hj hlt
          obtain rfl | hgt := Nat.eq_or_lt_of_le hj
          · exact h
          · exact hgo j hgt hlt
        · obtain heq | hnot := hlast
          · exact .inl (by omega)
          · exact .inr hnot
        · rw [callFrom_of_rejects retries hok hrejects, ← attemptAt_succ hok, hcall]
      · exact ⟨k, le_rfl, by omega, fun j hj hlt => absurd hlt (Nat.not_lt.mpr hj), .inr h,
          callFrom_of_last (.inr h)⟩

/-! ### What the API is asked -/

variable (C)

/-- The responses the client returns, attempt after attempt. -/
def responseAt (messages : List Message) (k : ℕ) : Response :=
  match (C.completed (C.attemptAt messages k)).result with
  | .ok response => response
  | .error _ => []

/-- The requests of an attempt. -/
def callsAt (messages : List Message) (k : ℕ) : ℕ :=
  (C.completed (C.attemptAt messages k)).calls

/-- The conversations the attempts send for these responses. -/
abbrev conversationOf (responses : ℕ → Response) (messages : List Message) (k : ℕ) :
    List Message :=
  conversationAt C.spelling C.toolName C.validate responses messages k

/-- The number of requests before an attempt. -/
def requestsBefore (calls : ℕ → ℕ) (k : ℕ) : ℕ := ((List.range k).map calls).sum

/-- A call up to its last attempt. Attempt `k` sends its conversation `calls k` times:
after every request but the last comes an error that is retried, with a pause that doubles.
The client's last outcome ends the call, or it is a response that is rejected. -/
structure Course (messages : List Message) (maxRetries : ℕ) (responses : ℕ → Response)
    (calls : ℕ → ℕ) (last : ℕ) (outcome : Call α) : Prop where
  last_le : last ≤ maxRetries
  calls_pos : ∀ k ≤ last, 0 < calls k
  calls_le : ∀ k ≤ last, calls k ≤ C.settings.maxRetries + 1
  requests_eq : outcome.traffic.requests = (List.range (last + 1)).flatMap fun k =>
    List.replicate (calls k) (C.conversationOf responses messages k)
  sleeps_eq : outcome.traffic.sleeps = (List.range (last + 1)).flatMap fun k =>
    (List.range (calls k - 1)).map C.settings.delay
  retried : ∀ k ≤ last, ∀ i, i + 1 < calls k → C.settings.Retryable
    (C.api (requestsBefore calls k + i) (C.conversationOf responses messages k))
  rejected : ∀ k < last, C.Rejects (responses k) ∧
    C.api (requestsBefore calls k + (calls k - 1)) (C.conversationOf responses messages k) =
      .success (responses k)
  result_eq : match C.api (requestsBefore calls last + (calls last - 1))
      (C.conversationOf responses messages last) with
    | .success response => response = responses last ∧
        outcome.result = (converse C.spelling C.toolName C.validate responses messages
          maxRetries).completion.result.mapError .completion
    | .apiStatusError exc => outcome.result = .error (.client
        (if exc.statusCode ∈ C.settings.retryableStatusCodes ∧
            calls last - 1 < C.settings.maxRetries then .overflowError
          else .apiStatusError exc))

/-- What the attempts have sent before the `k`th. -/
structure SentBefore (messages : List Message) (k : ℕ) : Prop where
  conversation_eq : (C.attemptAt messages k).conversation =
    C.conversationOf (C.responseAt messages) messages k
  requests_eq : (C.attemptAt messages k).traffic.requests = (List.range k).flatMap fun j =>
    List.replicate (C.callsAt messages j) (C.conversationOf (C.responseAt messages) messages j)
  sleeps_eq : (C.attemptAt messages k).traffic.sleeps = (List.range k).flatMap fun j =>
    (List.range (C.callsAt messages j - 1)).map C.settings.delay

variable {C}

/-- The pauses of an attempt. -/
theorem sleeps_completed (messages : List Message) (k : ℕ) :
    (C.completed (C.attemptAt messages k)).sleeps =
      (List.range (C.callsAt messages k - 1)).map C.settings.delay := by
  obtain ⟨last, -, -, -, hrun⟩ := LLMSettings.exists_complete C.settings fun i =>
    C.api ((C.attemptAt messages k).traffic.requests.length + i)
      (C.attemptAt messages k).conversation
  rw [callsAt, completed, hrun]
  rfl

theorem sentBefore_attemptAt {last : ℕ}
    (hgo : ∀ j < last, C.GoesOn (C.attemptAt messages j)) {k : ℕ} (hk : k ≤ last) :
    C.SentBefore messages k := by
  induction k with
  | zero => exact ⟨rfl, rfl, rfl⟩
  | succ k ih =>
      obtain ⟨hconversation, hrequests, hsleeps⟩ := ih (by omega)
      obtain ⟨response, hok, -⟩ := hgo k (by omega)
      have hresponse : C.responseAt messages k = response := by
        rw [responseAt, hok]
      refine ⟨?_, ?_, ?_⟩
      · rw [attemptAt_succ hok, next, hconversation, ← hresponse]
        rfl
      · rw [attemptAt_succ hok, next, sent, hrequests, hconversation, List.range_succ,
          List.flatMap_append, List.flatMap_singleton]
        rfl
      · rw [attemptAt_succ hok, next, sent, hsleeps, sleeps_completed, List.range_succ,
          List.flatMap_append, List.flatMap_singleton]

/-- What the client's run in an attempt says of the API. -/
theorem callsAt_cases (messages : List Message) (k : ℕ) :
    0 < C.callsAt messages k ∧ C.callsAt messages k ≤ C.settings.maxRetries + 1 ∧
      (∀ i, i + 1 < C.callsAt messages k → C.settings.Retryable
        (C.api ((C.attemptAt messages k).traffic.requests.length + i)
          (C.attemptAt messages k).conversation)) ∧
      (C.completed (C.attemptAt messages k)).result =
        C.settings.resultAt (fun i => C.api ((C.attemptAt messages k).traffic.requests.length + i)
          (C.attemptAt messages k).conversation) (C.callsAt messages k - 1) := by
  obtain ⟨last, hmax, hgo, -, hrun⟩ := LLMSettings.exists_complete C.settings fun i =>
    C.api ((C.attemptAt messages k).traffic.requests.length + i)
      (C.attemptAt messages k).conversation
  have hcalls : C.callsAt messages k = last + 1 := by
    rw [callsAt, completed, hrun]
  refine ⟨by omega, by omega, ?_, ?_⟩
  · intro i hi
    exact (hgo i (by omega)).1
  · rw [hcalls, completed, hrun]
    rfl

/-- An attempt the client returns from is an attempt of `converse` on its responses. -/
theorem resultAt_eq_converseFrom {retries k : ℕ} (s : Session) {response : Response}
    (hok : (C.completed (C.attemptAt messages k)).result = .ok response)
    (hlast : retries = 0 ∨ ¬ C.Rejects response) :
    C.resultAt (C.attemptAt messages k) =
      (converseFrom C.spelling C.toolName C.validate (C.responseAt messages) retries k s
        (C.attemptAt messages k).lastExc).completion.result.mapError .completion := by
  have hresponse : C.responseAt messages k = response := by
    rw [responseAt, hok]
  rw [resultAt, hok]
  cases hraw : extractInput C.toolName response with
  | none =>
      have hrejects : C.Rejects response := rejected_of_extractInput_eq_none hraw
      obtain rfl := hlast.resolve_right fun h => h hrejects
      rw [converseFrom_zero_of_rejected (by rwa [hresponse]), hresponse]
      simp only [hraw, Option.map_none, excAfter, giveUp, exhausted]
      cases nextExc C.toolName C.validate (C.attemptAt messages k).lastExc response <;> rfl
  | some raw =>
      cases hvalid : C.validate raw with
      | valid v =>
          rw [converseFrom_of_valid retries (by rw [hresponse, hraw]) hvalid]
          simp only [hraw, hvalid, Option.map_some]
          rfl
      | invalid errors =>
          have hrejects : C.Rejects response := by
            rw [Rejects, rejected_iff_of_extractInput hraw, hvalid]
            rintro ⟨v, hv⟩
            cases hv
          obtain rfl := hlast.resolve_right fun h => h hrejects
          rw [converseFrom_zero_of_rejected (by rwa [hresponse]), hresponse]
          simp only [hraw, hvalid, Option.map_some, excAfter, giveUp, exhausted]
          cases nextExc C.toolName C.validate (C.attemptAt messages k).lastExc response <;> rfl

/-- The attempts up to one the client returns from are those of `converse`. -/
theorem converseFrom_attempts (retries : ℕ) {k last : ℕ} (hle : k ≤ last)
    (hgo : ∀ j, k ≤ j → j < last → C.GoesOn (C.attemptAt messages j))
    (hretries : last ≤ k + retries) (s : Session) :
    ∃ s', converseFrom C.spelling C.toolName C.validate (C.responseAt messages) retries k s
        (C.attemptAt messages k).lastExc =
      converseFrom C.spelling C.toolName C.validate (C.responseAt messages)
        (k + retries - last) last s' (C.attemptAt messages last).lastExc := by
  induction retries generalizing k s with
  | zero =>
      obtain rfl : k = last := by omega
      exact ⟨s, by rw [Nat.add_zero, Nat.sub_self]⟩
  | succ retries ih =>
      obtain rfl | hlt := Nat.eq_or_lt_of_le hle
      · exact ⟨s, by rw [Nat.add_sub_cancel_left]⟩
      · obtain ⟨response, hok, hrejects⟩ := hgo k le_rfl hlt
        have hresponse : C.responseAt messages k = response := by
          rw [responseAt, hok]
        have hexc : (C.attemptAt messages (k + 1)).lastExc =
            nextExc C.toolName C.validate (C.attemptAt messages k).lastExc
              (C.responseAt messages k) := by
          rw [attemptAt_succ hok, hresponse]
          rfl
        rw [converseFrom_succ_of_rejected retries (by rwa [hresponse]), ← hexc]
        obtain ⟨s', hs'⟩ := ih hlt (fun j hj => hgo j (by omega)) (by omega)
          (s.send.correct C.spelling C.toolName C.validate (C.responseAt messages k))
        refine ⟨s', hs'.trans ?_⟩
        rw [Nat.succ_add_eq_add_succ]

/-- A call whose client returns every time is what `converse` makes of the responses. -/
theorem resultAt_eq_converse {maxRetries last : ℕ} {response : Response}
    (hgo : ∀ j < last, C.GoesOn (C.attemptAt messages j)) (hmax : last ≤ maxRetries)
    (hlast : last = maxRetries ∨ ¬ C.GoesOn (C.attemptAt messages last))
    (hok : (C.completed (C.attemptAt messages last)).result = .ok response) :
    C.resultAt (C.attemptAt messages last) =
      (converse C.spelling C.toolName C.validate (C.responseAt messages) messages
        maxRetries).completion.result.mapError .completion := by
  obtain ⟨s, hs⟩ := converseFrom_attempts maxRetries (Nat.zero_le last)
    (fun j _ hj => hgo j hj) (by omega) { messages := messages, conversation := messages }
  rw [converse, show (none : Option (List ErrorLine)) = (C.attemptAt messages 0).lastExc from rfl,
    hs]
  apply resultAt_eq_converseFrom s hok
  obtain heq | hnot := hlast
  · exact .inl (by omega)
  · exact .inr fun hrejects => hnot ⟨response, hok, hrejects⟩

/-- **One call, request by request.** Whatever `messages.create` answers: the call follows
a course of attempts, each its own conversation sent again until the client has a response
or gives up; it returns and raises what `converse` does on the client's responses, or raises
the last error. -/
theorem exists_course (C : Caller α) (messages : List Message) (maxRetries : ℕ) :
    ∃ responses calls last, C.Course messages maxRetries responses calls last
      (C.call messages maxRetries) := by
  obtain ⟨last, -, hmax, hgo, hlast, hcall⟩ :=
    exists_callFrom C messages maxRetries 0
  rw [Nat.zero_add] at hmax hlast
  replace hgo : ∀ j < last, C.GoesOn (C.attemptAt messages j) := fun j hj =>
    hgo j (Nat.zero_le j) hj
  replace hcall : C.call messages maxRetries =
      ⟨C.resultAt (C.attemptAt messages last), C.sent (C.attemptAt messages last)⟩ := hcall
  have hbefore : ∀ k ≤ last, C.SentBefore messages k := fun k hk => sentBefore_attemptAt hgo hk
  have hlength : ∀ k ≤ last, (C.attemptAt messages k).traffic.requests.length =
      requestsBefore (C.callsAt messages) k := by
    intro k hk
    rw [(hbefore k hk).requests_eq, List.length_flatMap]
    simp only [List.length_replicate, requestsBefore]
  have hrun : ∀ k ≤ last, (C.completed (C.attemptAt messages k)).result =
      C.settings.resultAt (fun i => C.api (requestsBefore (C.callsAt messages) k + i)
        (C.conversationOf (C.responseAt messages) messages k)) (C.callsAt messages k - 1) := by
    intro k hk
    rw [← hlength k hk, ← (hbefore k hk).conversation_eq]
    exact (callsAt_cases messages k).2.2.2
  refine ⟨C.responseAt messages, C.callsAt messages, last, hmax,
    fun k _ => (callsAt_cases messages k).1, fun k _ => (callsAt_cases messages k).2.1,
    ?_, ?_, ?_, ?_, ?_⟩
  · rw [hcall, List.range_succ, List.flatMap_append, List.flatMap_singleton,
      ← (hbefore last le_rfl).requests_eq, ← (hbefore last le_rfl).conversation_eq]
    rfl
  · rw [hcall, List.range_succ, List.flatMap_append, List.flatMap_singleton,
      ← (hbefore last le_rfl).sleeps_eq, sent, sleeps_completed]
  · intro k hk i hi
    rw [← hlength k hk, ← (hbefore k hk).conversation_eq]
    exact (callsAt_cases messages k).2.2.1 i hi
  · intro k hk
    obtain ⟨response, hok, hrejects⟩ := hgo k hk
    have hresponse : C.responseAt messages k = response := by
      rw [responseAt, hok]
    rw [hrun k (Nat.le_of_lt hk)] at hok
    rw [hresponse]
    exact ⟨hrejects, LLMSettings.success_of_resultAt hok⟩
  · have hresult := hrun last le_rfl
    rw [hcall]
    cases houtcome : C.api
        (requestsBefore (C.callsAt messages) last + (C.callsAt messages last - 1))
        (C.conversationOf (C.responseAt messages) messages last) with
    | success response =>
        rw [LLMSettings.resultAt_of_success houtcome] at hresult
        refine ⟨?_, resultAt_eq_converse hgo hmax hlast hresult⟩
        rw [responseAt, hresult]
    | apiStatusError exc =>
        rw [LLMSettings.resultAt_of_error houtcome] at hresult
        simp only [resultAt, hresult]

/-- A call is what `converse` makes of the client's responses, when the client has one for
every attempt. -/
theorem call_result_cases (C : Caller α) (messages : List Message) (maxRetries : ℕ) :
    (∃ exc, (C.call messages maxRetries).result = .error (.client exc)) ∨
      (C.call messages maxRetries).result =
        (converse C.spelling C.toolName C.validate (C.responseAt messages) messages
          maxRetries).completion.result.mapError .completion := by
  obtain ⟨last, -, hmax, hgo, hlast, hcall⟩ := exists_callFrom C messages maxRetries 0
  rw [Nat.zero_add] at hmax hlast
  replace hcall : C.call messages maxRetries =
      ⟨C.resultAt (C.attemptAt messages last), C.sent (C.attemptAt messages last)⟩ := hcall
  rw [hcall]
  cases hrun : (C.completed (C.attemptAt messages last)).result with
  | error exc =>
      left
      exact ⟨exc, by simp only [resultAt, hrun]⟩
  | ok response =>
      right
      exact resultAt_eq_converse (fun j hj => hgo j (Nat.zero_le j) hj) hmax hlast hrun

/-! ### What a call costs -/

/-- What every attempt adds at most, a call adds once for each attempt it may make. -/
theorem cost_callFrom_le {M : Type} [AddCommMonoid M] [PartialOrder M] [IsOrderedAddMonoid M]
    (cost : Traffic → M) {b : M} (hb : 0 ≤ b)
    (hsent : ∀ a, cost (C.sent a) ≤ cost a.traffic + b) (retries : ℕ) (a : Attempt) :
    cost (C.callFrom retries a).traffic ≤ cost a.traffic + (retries + 1) • b := by
  induction retries generalizing a with
  | zero =>
      rw [callFrom_of_last (.inl rfl), zero_add, one_nsmul]
      exact hsent a
  | succ retries ih =>
      rw [succ_nsmul', ← add_assoc]
      by_cases h : C.GoesOn a
      · obtain ⟨response, hok, hrejects⟩ := h
        rw [callFrom_of_rejects retries hok hrejects]
        exact (ih _).trans (add_le_add_left (hsent a) _)
      · rw [callFrom_of_last (.inr h)]
        exact (hsent a).trans (le_add_of_nonneg_right (nsmul_nonneg hb _))

variable (C)

/-- The calls of an attempt, and its pauses. -/
theorem exists_sent (a : Attempt) :
    ∃ last ≤ C.settings.maxRetries, C.sent a =
      { requests := a.traffic.requests ++ List.replicate (last + 1) a.conversation
        sleeps := a.traffic.sleeps ++ (List.range last).map C.settings.delay } := by
  obtain ⟨last, hmax, -, -, hrun⟩ := LLMSettings.exists_complete C.settings fun i =>
    C.api (a.traffic.requests.length + i) a.conversation
  refine ⟨last, hmax, ?_⟩
  rw [sent, completed, hrun]

theorem length_requests_call_le (messages : List Message) (maxRetries : ℕ) :
    (C.call messages maxRetries).traffic.requests.length ≤
      (maxRetries + 1) * (C.settings.maxRetries + 1) := by
  have hsent : ∀ a, (C.sent a).requests.length ≤
      a.traffic.requests.length + (C.settings.maxRetries + 1) := by
    intro a
    obtain ⟨last, hmax, hlast⟩ := C.exists_sent a
    rw [hlast, List.length_append, List.length_replicate]
    omega
  have h := cost_callFrom_le (fun t => t.requests.length) (Nat.zero_le _) hsent maxRetries
    { conversation := messages }
  rwa [List.length_nil, Nat.zero_add] at h

theorem sum_sleeps_call_le (hinitial : 0 ≤ C.settings.initialBackoff)
    (hmax : 0 ≤ C.settings.maxBackoff) (messages : List Message) (maxRetries : ℕ) :
    (C.call messages maxRetries).traffic.sleeps.sum ≤
      (maxRetries + 1) • C.settings.longestPause := by
  have hdelay : ∀ d ∈ (List.range C.settings.maxRetries).map C.settings.delay, 0 ≤ d := by
    intro d hd
    obtain ⟨i, -, rfl⟩ := List.mem_map.mp hd
    exact LLMSettings.delay_nonneg hinitial hmax i
  have hsent : ∀ a, (C.sent a).sleeps.sum ≤
      a.traffic.sleeps.sum + C.settings.longestPause := by
    intro a
    obtain ⟨last, hle, hlast⟩ := C.exists_sent a
    rw [hlast, List.sum_append]
    have hpauses := ((List.range_sublist.mpr hle).map C.settings.delay).sum_le_sum hdelay
    exact add_le_add_right hpauses _
  have h := cost_callFrom_le (fun t => t.sleeps.sum)
    (LLMSettings.longestPause_nonneg hinitial hmax) hsent maxRetries { conversation := messages }
  rwa [List.sum_nil, zero_add] at h

end Caller

end AlphE.Llm
