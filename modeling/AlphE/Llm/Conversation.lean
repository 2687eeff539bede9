import AlphE.Llm.Structured
import Mathlib.Data.List.Chain

/-!
The conversations `complete_typed` sends. The loop is the one of `Structured`,
with the turns as the Messages API has them: a tool call carries an id, and a
user turn may hold the results of tool calls. What is kept beside the result is
every conversation passed to `client.complete`, and the list of the caller.

The rule of the API: user and assistant turns alternate, and the tool calls of
an assistant turn are answered in the user turn right after it. The turn that
asks for a correction holds a text only.
-/

namespace AlphE.Llm

open Validation Validated

inductive Role
  | user | assistant
  deriving DecidableEq, Repr

/-- A content block of a message. -/
inductive ContentBlock
  | text (s : String)
  | toolUse (id name : String) (input : WireValue)
  | toolResult (toolUseId content : String)

/-- The content of a message is a string, or a list of blocks. -/
inductive MessageContent
  | str (s : String)
  | blocks (bs : List ContentBlock)

structure Message where
  role : Role
  content : MessageContent

/-- A content block of a response of the model. -/
inductive ResponseBlock
  | text (s : String)
  | toolUse (id name : String) (input : WireValue)

def ResponseBlock.toContent : ResponseBlock → ContentBlock
  | .text s => .text s
  | .toolUse id name input => .toolUse id name input

/-- A block without its id. -/
def ResponseBlock.block : ResponseBlock → Block
  | .text s => .text s
  | .toolUse _ name input => .toolUse name input

abbrev Response := List ResponseBlock

/-! ### The rule -/

def MessageContent.toList : MessageContent → List ContentBlock
  | .str s => [.text s]
  | .blocks bs => bs

namespace Message

/-- The ids of the tool calls of an assistant turn. -/
def toolUses (m : Message) : List String :=
  match m.role with
  | .user => []
  | .assistant => m.content.toList.filterMap fun block =>
      match block with
      | .toolUse id _ _ => some id
      | _ => none

/-- The ids of the tool calls a turn gives results of. -/
def toolResults (m : Message) : List String :=
  m.content.toList.filterMap fun block =>
    match block with
    | .toolResult id _ => some id
    | _ => none

/-- The second turn may stand after the first. -/
def FollowedBy (m m' : Message) : Prop :=
  m.role ≠ m'.role ∧ ∀ id ∈ m.toolUses, id ∈ m'.toolResults

end Message

/-- The rule of the Messages API. -/
structure WellFormed (conversation : List Message) : Prop where
  linked : conversation.IsChain Message.FollowedBy
  answered : ∀ m ∈ conversation.getLast?, m.toolUses = []

/-- The conversation ends with a user turn. -/
def EndsWithUser (conversation : List Message) : Prop :=
  ∃ m ∈ conversation.getLast?, m.role = .user

/-! ### The loop -/

def assistantTurn (response : Response) : Message :=
  { role := .assistant, content := .blocks (response.map ResponseBlock.toContent) }

def userTurn (content : String) : Message := { role := .user, content := .str content }

/-- How a validation error and a raw input are spelled in a corrective turn. -/
structure Spelling where
  jsonDumps : WireValue → String
  formatErrors : List ErrorLine → String

/-- The variables of the loop that hold conversations, and what was passed to
`client.complete`. -/
structure Session where
  messages : List Message
  conversation : List Message
  sent : List (List Message) := []

structure Conversed (α : Type) where
  completion : Completion α
  session : Session

section Converse

variable {α : Type} (sp : Spelling) (toolName : String) (validate : Validator DateTime α)
  (responses : ℕ → Response)

def extractInput (response : Response) : Option WireValue :=
  extractToolInput (response.map ResponseBlock.block) toolName

/-- What the user turn after a failed attempt says. -/
def corrective (response : Response) : String :=
  match extractInput toolName response with
  | none => correctiveTurn toolName (noToolUseDetail toolName) "\x7b\x7d"
  | some raw =>
      match validate raw with
      | .valid _ => ""  -- returned, and never corrected
      | .invalid errors =>
          correctiveTurn toolName (sp.formatErrors errors) (sp.jsonDumps raw)

/-- The session with the conversation passed to `client.complete`. -/
def Session.send (s : Session) : Session := { s with sent := s.sent ++ [s.conversation] }

/-- The session with the two turns appended after a failed attempt. -/
def Session.correct (s : Session) (response : Response) : Session :=
  { s with conversation := s.conversation ++
      [assistantTurn response, userTurn (corrective sp toolName validate response)] }

/-- The attempts from number `attempt` on, with `retries` of them left. -/
def converseFrom : ℕ → ℕ → Session → Option (List ErrorLine) → Conversed α
  | retries, attempt, s, lastExc =>
      let s := s.send
      let response := responses attempt
      match extractInput toolName response with
      | none =>
          let lastExc := match validate (.dict []) with
            | .valid _ => lastExc
            | .invalid errors => some errors
          match retries with
          | 0 => ⟨giveUp (.dict []) lastExc (attempt + 1), s⟩
          | retries + 1 =>
              converseFrom retries (attempt + 1) (s.correct sp toolName validate response)
                lastExc
      | some raw =>
          match validate raw with
          | .valid a => ⟨{ result := .ok a, calls := attempt + 1 }, s⟩
          | .invalid errors =>
              match retries with
              | 0 => ⟨giveUp raw (some errors) (attempt + 1), s⟩
              | retries + 1 =>
                  converseFrom retries (attempt + 1)
                    (s.correct sp toolName validate response) (some errors)

/-- `complete_typed`, which works on a copy of the caller's list. -/
def converse (messages : List Message) (maxRetries : ℕ) : Conversed α :=
  converseFrom sp toolName validate responses maxRetries 0
    { messages := messages, conversation := messages } none

/-! ### What is sent -/

/-- The response holds no valid call of the tool. -/
def Rejected (response : Response) : Prop :=
  ∀ raw, extractInput toolName response = some raw → ¬ (validate raw).IsValid

/-- The conversation of an attempt: two more turns for each attempt before. -/
def conversationAt (messages : List Message) : ℕ → List Message
  | 0 => messages
  | k + 1 => conversationAt messages k ++
      [assistantTurn (responses k), userTurn (corrective sp toolName validate (responses k))]

/-- `last_raw` after a response: without a call it is the empty payload. -/
def rawOutput (response : Response) : WireValue :=
  (extractInput toolName response).getD (.dict [])

/-- `last_exc` after a response that was rejected. -/
def nextExc (lastExc : Option (List ErrorLine)) (response : Response) :
    Option (List ErrorLine) :=
  match validate (rawOutput toolName response) with
  | .valid _ => lastExc
  | .invalid errors => some errors

variable {sp toolName validate responses}

section Steps

variable {attempt : ℕ} {s : Session} {lastExc : Option (List ErrorLine)}

theorem rejected_of_extractInput_eq_none {response : Response}
    (h : extractInput toolName response = none) : Rejected toolName validate response := by
  intro raw hraw
  rw [h] at hraw
  cases hraw

theorem rejected_iff_of_extractInput {response : Response} {raw : WireValue}
    (h : extractInput toolName response = some raw) :
    Rejected toolName validate response ↔ ¬ (validate raw).IsValid := by
  constructor
  · intro hrejected
    exact hrejected raw h
  · intro hnot raw' hraw'
    rw [h, Option.some.injEq] at hraw'
    exact hraw' ▸ hnot

theorem converseFrom_of_valid (retries : ℕ) {raw : WireValue} {a : α}
    (hraw : extractInput toolName (responses attempt) = some raw)
    (hvalid : validate raw = .valid a) :
    converseFrom sp toolName validate responses retries attempt s lastExc =
      ⟨{ result := .ok a, calls := attempt + 1 }, s.send⟩ := by
  unfold converseFrom
  simp only [hraw, hvalid]

/-- An accepted response ends the loop. -/
theorem converseFrom_of_accepted (retries : ℕ)
    (h : ¬ Rejected toolName validate (responses attempt)) :
    (converseFrom sp toolName validate responses retries attempt s lastExc).session =
      s.send := by
  cases hraw : extractInput toolName (responses attempt) with
  | none => exact absurd (rejected_of_extractInput_eq_none hraw) h
  | some raw =>
      rw [rejected_iff_of_extractInput hraw, not_not] at h
      obtain ⟨a, ha⟩ := h
      rw [converseFrom_of_valid retries hraw ha]

/-- The last attempt raises. -/
theorem converseFrom_zero_of_rejected (h : Rejected toolName validate (responses attempt)) :
    converseFrom sp toolName validate responses 0 attempt s lastExc =
      ⟨giveUp (rawOutput toolName (responses attempt))
        (nextExc toolName validate lastExc (responses attempt)) (attempt + 1), s.send⟩ := by
  rw [nextExc, rawOutput]
  unfold converseFrom
  cases hraw : extractInput toolName (responses attempt) with
  | none =>
      -- A valid empty payload leaves the error of before.
      rw [Option.getD_none]
      cases hempty : validate (.dict []) with
      | valid a => simp only [hraw]
      | invalid errors => simp only [hraw]
  | some raw =>
      rw [rejected_iff_of_extractInput hraw] at h
      rw [Option.getD_some]
      cases hvalid : validate raw with
      | valid a => exact absurd ⟨a, hvalid⟩ h
      | invalid errors => simp only [hraw, hvalid]

/-- Any other is followed by one more. -/
theorem converseFrom_succ_of_rejected (retries : ℕ)
    (h : Rejected toolName validate (responses attempt)) :
    converseFrom sp toolName validate responses (retries + 1) attempt s lastExc =
      converseFrom sp toolName validate responses retries (attempt + 1)
        (s.send.correct sp toolName validate (responses attempt))
        (nextExc toolName validate lastExc (responses attempt)) := by
  rw [nextExc, rawOutput, converseFrom]
  cases hraw : extractInput toolName (responses attempt) with
  | none =>
      cases hempty : validate (.dict []) with
      | valid a => simp only [Option.getD_none, hempty]
      | invalid errors => simp only [Option.getD_none, hempty]
  | some raw =>
      rw [rejected_iff_of_extractInput hraw] at h
      rw [Option.getD_some]
      cases hvalid : validate raw with
      | valid a => exact absurd ⟨a, hvalid⟩ h
      | invalid errors => simp only [hvalid]

/-- The session ends with the last attempt in any case. -/
theorem converseFrom_zero :
    (converseFrom sp toolName validate responses 0 attempt s lastExc).session = s.send := by
  by_cases h : Rejected toolName validate (responses attempt)
  · rw [converseFrom_zero_of_rejected h]
  · exact converseFrom_of_accepted 0 h

end Steps

theorem mem_sent_send (s : Session) (conversation : List Message) :
    conversation ∈ s.send.sent ↔ conversation ∈ s.sent ∨ conversation = s.conversation := by
  rw [Session.send, List.mem_append, List.mem_singleton]

/-- The caller's list is never written to. -/
theorem converseFrom_messages (retries attempt : ℕ) (s : Session)
    (lastExc : Option (List ErrorLine)) :
    (converseFrom sp toolName validate responses retries attempt s
      lastExc).session.messages = s.messages := by
  induction retries generalizing attempt s lastExc with
  | zero =>
      rw [converseFrom_zero]
      rfl
  | succ retries ih =>
      by_cases h : Rejected toolName validate (responses attempt)
      · rw [converseFrom_succ_of_rejected retries h, ih]
        rfl
      · rw [converseFrom_of_accepted _ h]
        rfl

/-- Where nothing goes on after the first attempt, there is no other. -/
theorem exists_first_iff {P Q : ℕ → Prop} {first last : ℕ} (hle : first ≤ last)
    (hstop : first < last → ¬ P first) :
    (∃ k, first ≤ k ∧ k ≤ last ∧ (∀ j, first ≤ j → j < k → P j) ∧ Q k) ↔ Q first := by
  constructor
  · rintro ⟨k, hfirst, hlast, hall, hk⟩
    rcases Nat.lt_or_eq_of_le hfirst with hlt | rfl
    · exact absurd (hall first le_rfl hlt) (hstop (by omega))
    · exact hk
  · intro h
    exact ⟨first, le_rfl, hle, fun j hj hlt => absurd hlt (Nat.not_lt.mpr hj), h⟩

/-- What is sent from an attempt on: the conversations of the attempts up to the
first response that is accepted. -/
theorem mem_sent_converseFrom_iff {messages : List Message} (retries attempt : ℕ)
    (s : Session) (lastExc : Option (List ErrorLine))
    (hs : s.conversation = conversationAt sp toolName validate responses messages attempt)
    (conversation : List Message) :
    conversation ∈ (converseFrom sp toolName validate responses retries attempt s
        lastExc).session.sent ↔
      conversation ∈ s.sent ∨ ∃ k, attempt ≤ k ∧ k ≤ attempt + retries ∧
        (∀ j, attempt ≤ j → j < k → Rejected toolName validate (responses j)) ∧
        conversation = conversationAt sp toolName validate responses messages k := by
  induction retries generalizing attempt s lastExc with
  | zero =>
      rw [converseFrom_zero, mem_sent_send, hs]
      apply or_congr_right
      rw [exists_first_iff (by omega) (by omega)]
  | succ retries ih =>
      by_cases hrejected : Rejected toolName validate (responses attempt)
      · have hnext : (s.send.correct sp toolName validate (responses attempt)).conversation =
            conversationAt sp toolName validate responses messages (attempt + 1) := by
          rw [conversationAt, ← hs]
          rfl
        rw [converseFrom_succ_of_rejected retries hrejected, ih (attempt + 1) _ _ hnext]
        show conversation ∈ s.send.sent ∨ _ ↔ _
        rw [mem_sent_send, hs, or_assoc]
        apply or_congr_right
        constructor
        · rintro (h | ⟨k, hle, hge, hall, h⟩)
          · exact ⟨attempt, le_rfl, by omega,
              fun j hle hlt => absurd hlt (Nat.not_lt.mpr hle), h⟩
          · refine ⟨k, by omega, by omega, ?_, h⟩
            intro j hj hlt
            rcases Nat.lt_or_eq_of_le hj with hgt | rfl
            · exact hall j hgt hlt
            · exact hrejected
        · rintro ⟨k, hle, hge, hall, h⟩
          rcases Nat.lt_or_eq_of_le hle with hgt | rfl
          · exact .inr ⟨k, hgt, by omega, fun j hj hlt => hall j (by omega) hlt, h⟩
          · exact .inl h
      · rw [converseFrom_of_accepted _ hrejected, mem_sent_send, hs]
        apply or_congr_right
        rw [exists_first_iff (by omega) (fun _ => hrejected)]

theorem mem_sent_converse_iff (messages : List Message) (maxRetries : ℕ)
    (conversation : List Message) :
    conversation ∈ (converse sp toolName validate responses messages
        maxRetries).session.sent ↔
      ∃ k ≤ maxRetries, (∀ j < k, Rejected toolName validate (responses j)) ∧
        conversation = conversationAt sp toolName validate responses messages k := by
  rw [converse, mem_sent_converseFrom_iff maxRetries 0 _ none rfl]
  simp

/-! ### What the rule asks of the responses -/

/-- The response calls no tool. -/
def CallsNoTool (response : Response) : Prop :=
  ∀ id name input, ResponseBlock.toolUse id name input ∉ response

theorem toolUses_assistantTurn_eq_nil_iff (response : Response) :
    (assistantTurn response).toolUses = [] ↔ CallsNoTool response := by
  show ((response.map ResponseBlock.toContent).filterMap _) = [] ↔ _
  rw [List.filterMap_eq_nil_iff]
  constructor
  · intro h id name input hmem
    have hnone := h _ (List.mem_map_of_mem (f := ResponseBlock.toContent) hmem)
    cases hnone
  · intro h block hmem
    obtain ⟨b, hb, rfl⟩ := List.mem_map.mp hmem
    cases b with
    | text s => rfl
    | toolUse id name input => exact absurd hb (h id name input)

/-- One failed attempt more keeps the rule exactly when the response calls no
tool: the turn that asks for a correction gives no result. -/
theorem wellFormed_append_iff {conversation : List Message} (h : WellFormed conversation)
    (huser : EndsWithUser conversation) (response : Response) (content : String) :
    WellFormed (conversation ++ [assistantTurn response, userTurn content]) ↔
      CallsNoTool response := by
  obtain ⟨m, hm, hrole⟩ := huser
  constructor
  · intro hnew
    have hpair := (List.isChain_append.mp hnew.linked).2.1
    rw [List.isChain_pair] at hpair
    rw [← toolUses_assistantTurn_eq_nil_iff, List.eq_nil_iff_forall_not_mem]
    intro id hid
    have hresult := hpair.2 id hid
    cases hresult
  · intro hno
    have hnil := (toolUses_assistantTurn_eq_nil_iff response).mpr hno
    refine ⟨?_, ?_⟩
    · rw [List.isChain_append]
      refine ⟨h.linked, ?_, ?_⟩
      · rw [List.isChain_pair]
        refine ⟨by simp [assistantTurn, userTurn], ?_⟩
        intro id hid
        rw [hnil] at hid
        cases hid
      · intro x hx y hy
        rw [Option.mem_def] at hx hm hy
        rw [hx, Option.some.injEq] at hm
        rw [List.head?_cons, Option.some.injEq] at hy
        subst hm hy
        refine ⟨by rw [hrole]; simp [assistantTurn], ?_⟩
        intro id hid
        rw [Message.toolUses, hrole] at hid
        cases hid
    · intro x hx
      have hlast : x = userTurn content := by simpa using hx.symm
      rw [hlast]
      rfl

theorem endsWithUser_conversationAt {messages : List Message}
    (huser : EndsWithUser messages) (k : ℕ) :
    EndsWithUser (conversationAt sp toolName validate responses messages k) := by
  cases k with
  | zero => exact huser
  | succ k =>
      exact ⟨userTurn (corrective sp toolName validate (responses k)),
        by simp [conversationAt], rfl⟩

theorem prefix_conversationAt (messages : List Message) (k : ℕ) :
    messages <+: conversationAt sp toolName validate responses messages k := by
  induction k with
  | zero => exact List.prefix_rfl
  | succ k ih => exact ih.trans (List.prefix_append _ _)

theorem wellFormed_conversationAt_iff {messages : List Message} (h : WellFormed messages)
    (huser : EndsWithUser messages) (k : ℕ) :
    (∀ i ≤ k, WellFormed (conversationAt sp toolName validate responses messages i)) ↔
      ∀ i < k, CallsNoTool (responses i) := by
  induction k with
  | zero =>
      refine iff_of_true ?_ (by simp)
      intro i hi
      rw [Nat.le_zero.mp hi]
      exact h
  | succ k ih =>
      constructor
      · intro hall i hi
        have hbelow : ∀ j ≤ k, WellFormed (conversationAt sp toolName validate responses
            messages j) := fun j hj => hall j (by omega)
        rcases Nat.lt_succ_iff_lt_or_eq.mp hi with hlt | rfl
        · exact ih.mp hbelow i hlt
        · rw [← wellFormed_append_iff (hbelow i le_rfl) (endsWithUser_conversationAt huser i)]
          exact hall (i + 1) le_rfl
      · intro hall i hi
        have hbelow := ih.mpr fun j hj => hall j (by omega)
        rcases Nat.lt_or_eq_of_le hi with hlt | rfl
        · exact hbelow i (by omega)
        · rw [conversationAt, wellFormed_append_iff (hbelow k le_rfl)
            (endsWithUser_conversationAt huser k)]
          exact hall k (Nat.lt_succ_self k)

variable (sp toolName validate responses)

/-- What `complete_typed` promises about the conversations it sends. -/
structure SendsWellFormed (messages : List Message) (session : Session) : Prop where
  wellFormed : ∀ conversation ∈ session.sent, WellFormed conversation
  extends_messages : ∀ conversation ∈ session.sent, messages <+: conversation
  unmodified : session.messages = messages

/-- **When only well-formed conversations are sent.** Exactly when no response
that is followed by a retry calls a tool: the call would stay without its
result. -/
theorem sendsWellFormed_iff {messages : List Message} (h : WellFormed messages)
    (huser : EndsWithUser messages) (maxRetries : ℕ) :
    SendsWellFormed messages
        (converse sp toolName validate responses messages maxRetries).session ↔
      ∀ k < maxRetries, (∀ j ≤ k, Rejected toolName validate (responses j)) →
        CallsNoTool (responses k) := by
  constructor
  · intro hsends k hk hrejected
    have hall : ∀ i ≤ k + 1,
        WellFormed (conversationAt sp toolName validate responses messages i) := by
      intro i hi
      apply hsends.wellFormed
      rw [mem_sent_converse_iff]
      exact ⟨i, by omega, fun j hj => hrejected j (by omega), rfl⟩
    exact (wellFormed_conversationAt_iff h huser (k + 1)).mp hall k (Nat.lt_succ_self k)
  · intro hno
    refine ⟨?_, ?_, converseFrom_messages _ _ _ _⟩
    · intro conversation hmem
      obtain ⟨k, hk, hrejected, rfl⟩ := (mem_sent_converse_iff _ _ _).mp hmem
      apply (wellFormed_conversationAt_iff h huser k).mpr _ k le_rfl
      intro i hi
      exact hno i (by omega) fun j hj => hrejected j (by omega)
    · intro conversation hmem
      obtain ⟨k, -, -, rfl⟩ := (mem_sent_converse_iff _ _ _).mp hmem
      exact prefix_conversationAt messages k

/-! ### Without the ids -/

/-- The surroundings of the loop of `Structured`, for given responses. -/
def responseEnv : CompletionEnv where
  complete attempt _ := (responses attempt).map ResponseBlock.block
  jsonDumps := sp.jsonDumps
  formatErrors := sp.formatErrors

/-- What is returned or raised is what the loop of `Structured` returns or
raises. -/
theorem completion_converse (messages : List Message) (turns : List Turn)
    (maxRetries : ℕ) :
    (converse sp toolName validate responses messages maxRetries).completion =
      completeTyped (responseEnv sp responses) toolName validate turns maxRetries := by
  have hloop : ∀ retries attempt s conversation lastExc,
      (converseFrom sp toolName validate responses retries attempt s lastExc).completion =
        attempts (responseEnv sp responses) toolName validate retries attempt conversation
          lastExc := by
    intro retries
    induction retries with
    | zero =>
        intro attempt s conversation lastExc
        rw [converseFrom, attempts]
        cases hraw : extractToolInput ((responses attempt).map ResponseBlock.block) toolName with
        | none =>
            cases validate (.dict []) with
            | valid a => simp only [extractInput, responseEnv, hraw]
            | invalid errors => simp only [extractInput, responseEnv, hraw]
        | some raw =>
            cases hvalid : validate raw with
            | valid a => simp only [extractInput, responseEnv, hraw, hvalid]
            | invalid errors => simp only [extractInput, responseEnv, hraw, hvalid]
    | succ retries ih =>
        intro attempt s conversation lastExc
        rw [converseFrom, attempts]
        cases hraw : extractToolInput ((responses attempt).map ResponseBlock.block) toolName with
        | none =>
            simp only [extractInput, responseEnv, hraw]
            exact ih _ _ _ _
        | some raw =>
            cases hvalid : validate raw with
            | valid a => simp only [extractInput, responseEnv, hraw, hvalid]
            | invalid errors =>
                simp only [extractInput, responseEnv, hraw, hvalid]
                exact ih _ _ _ _
  exact hloop maxRetries 0 _ turns none

end Converse

/-! ### A first call that is not valid -/

def testMessages : List Message := [userTurn "start"]

theorem wellFormed_testMessages : WellFormed testMessages :=
  ⟨List.isChain_singleton _, by simp [testMessages, userTurn, Message.toolUses]⟩

theorem endsWithUser_testMessages : EndsWithUser testMessages :=
  ⟨userTurn "start", rfl, rfl⟩

def testSpelling : Spelling where
  jsonDumps _ := "{}"
  formatErrors _ := "3 validation errors for ReviewerOutput"

/-- The Reviewer's tool, called with an empty input. -/
def testResponse : Response := [.toolUse "toolu_01" "revieweroutput" (.dict [])]

theorem rejected_testResponse :
    Rejected "revieweroutput" OutputModel.reviewer.validator testResponse := by
  have hraw : extractInput "revieweroutput" testResponse = some (.dict []) := rfl
  rw [rejected_iff_of_extractInput hraw]
  rintro ⟨a, ha⟩
  cases ha

theorem sendsWellFormed_iff_testMessages :
    SendsWellFormed testMessages (converse testSpelling "revieweroutput"
        OutputModel.reviewer.validator (fun _ => testResponse) testMessages 1).session ↔
      ∀ k < 1, (∀ j ≤ k, Rejected "revieweroutput" OutputModel.reviewer.validator
        testResponse) → CallsNoTool testResponse :=
  sendsWellFormed_iff testSpelling "revieweroutput" OutputModel.reviewer.validator
    (fun _ => testResponse) wellFormed_testMessages endsWithUser_testMessages 1

/-- The second conversation leaves the call of the first one without a
result. -/
theorem not_sendsWellFormed :
    ¬ ∀ (messages : List Message) (maxRetries : ℕ) (responses : ℕ → Response),
      WellFormed messages → EndsWithUser messages →
      SendsWellFormed messages (converse testSpelling "revieweroutput"
        OutputModel.reviewer.validator responses messages maxRetries).session := by
  intro h
  have hsends := h testMessages 1 (fun _ => testResponse) wellFormed_testMessages
    endsWithUser_testMessages
  have hsecond := hsends.wellFormed (conversationAt testSpelling "revieweroutput"
    OutputModel.reviewer.validator (fun _ => testResponse) testMessages 1)
    ((mem_sent_converse_iff _ _ _).mpr ⟨1, le_rfl, fun _ _ => rejected_testResponse, rfl⟩)
  rw [conversationAt, conversationAt,
    wellFormed_append_iff wellFormed_testMessages endsWithUser_testMessages] at hsecond
  exact hsecond _ _ _ List.mem_cons_self

end AlphE.Llm
