import AlphE.Lib.PyLower
import AlphE.Lib.Traced
import AlphE.Intake.Webhook

/-!
The Slack intake (`intake/slack.py`): a message that mentions the bot becomes an incident,
which is investigated and reported on in Slack.

What the handler does to the world is kept as it does it. What the world answers is part of
the surroundings: Slack, the two collectors and the model.
-/

namespace AlphE.Intake

open PyLower PyText

/-! ### Slack -/

/-- An event, as far as its fields are read. -/
structure SlackEvent where
  type : Option String := none
  subtype : Option String := none
  channel : Option String := none
  user : Option String := none
  text : Option String := none
  ts : Option String := none
  threadTs : Option String := none
  deriving DecidableEq, Repr

structure SlackEventWrapper where
  type : String
  challenge : Option String := none
  event : Option SlackEvent := none
  deriving DecidableEq, Repr

/-- A section of a message, with a text or with fields. -/
inductive Block
  | text (mrkdwn : String)
  | fields (mrkdwn : List String)
  deriving DecidableEq, Repr

/-- What `chat.postMessage` is called with. -/
structure ChatMessage where
  channel : String
  text : String
  threadTs : Option String := none
  blocks : List Block := []
  deriving DecidableEq, Repr

/-- What is read of its reply. -/
structure ChatReply where
  ok : Bool
  ts : Option String := none
  deriving DecidableEq, Repr

/-! ### What is done and what comes of it -/

inductive Effect
  | seeded (incident : IncidentState)
  | chatPostMessage (message : ChatMessage)
  | collect (url : String) (input : CollectorInput)
  | messagesCreate (prompt : String)
  deriving DecidableEq, Repr

/-- A call of a collector: it raises, or there is a response, whose finding is read or
raises. -/
inductive Collected (φ : Type)
  | raised (error : String)
  | response (status : ℕ) (finding : Except String φ)

/-- The finding of the kube collector, its values as they are formatted. Going through the
follow-ups may raise. -/
structure KubeFinding where
  summary : Option String
  suggestedFollowups : Except String (List String)

structure PromFinding where
  summary : Option String

/-- The surroundings of one run of the handler. -/
structure SlackEnv where
  now : DateTime
  investigatedAt : DateTime
  uuid4 : BitVec 128
  environ : String → Option String
  slack : ChatMessage → Except String ChatReply
  kube : CollectorInput → Collected KubeFinding
  prom : CollectorInput → Collected PromFinding
  anthropic : String → Except String String

/-! ### The incident -/

section Incident

variable (table : LowerTable) (env : SlackEnv)

def anyIn (words : List String) (s : String) : Bool := words.any fun word => occursIn word s

/-- `_parse_slack_message`. -/
def parseSlackMessage (text : String) : Severity × String :=
  let textLower := table.lower text
  let severity : Severity :=
    if anyIn ["critical", "down", "outage", "emergency"] textLower then .critical
    else if anyIn ["error", "failing", "broken", "high"] textLower then .high
    else if anyIn ["warning", "slow", "degraded", "medium"] textLower then .medium
    else .low
  (severity, text)

def serviceWords : List String :=
  ["api", "database", "web", "worker", "redis", "postgres", "demo", "leaky-service"]

def uuid4Hex : String := String.ofList (Hex.padded 32 env.uuid4.toNat)

/-- `_seed_incident_from_slack`. -/
def seedIncidentFromSlack (channel user text ts : String) (threadTs : Option String) :
    IncidentState :=
  let (severity, description) := parseSlackMessage table text
  let service := (serviceWords.find? fun word => occursIn word (table.lower text)).getD "unknown"
  let labels : InsertionDict String String :=
    .ofList [("slack_channel", channel), ("slack_user", user), ("slack_ts", ts)]
  { incidentId := "inc_" ++ takeChars 10 (uuid4Hex env)
    alert :=
      { source := "slack:" ++ channel
        rawMessage := description
        service := service
        severity := severity
        firedAt := env.now
        labels := match truthy threadTs with
          | some thread => labels.set "slack_thread_ts" thread
          | none => labels }
    phase := .intake
    createdAt := env.now
    updatedAt := env.now }

/-- The incident of an event. -/
def incidentOf (event : SlackEvent) : IncidentState :=
  seedIncidentFromSlack table env (event.channel.getD "") (event.user.getD "")
    (event.text.getD "") (event.ts.getD "") event.threadTs

end Incident

/-! ### The investigation -/

section Investigation

variable (env : SlackEnv) (incident : IncidentState)

/-- What both collectors are sent. -/
def collectPayload (question hypothesisId : String) : CollectorInput :=
  { incidentId := incident.incidentId
    question := question
    hypothesisId := hypothesisId
    timeRange := ⟨env.investigatedAt.addMicros (-DateTime.minutes 120), env.investigatedAt⟩
    scopeServices := ["demo/leaky-service"]
    environmentFingerprint :=
      { cluster := "devops-agent", account := "local", region := "local"
        deployRevision := "latest", rolloutGeneration := "demo" }
    maxInternalIterations := ⟨3, by decide⟩ }

def kubePayload : CollectorInput :=
  collectPayload env incident
    ("Show events for pods in demo namespace related to " ++ incident.alert.service ++
      ", especially OOMKilled, crashes, or resource issues")
    "hyp_k8s"

def promPayload : CollectorInput :=
  collectPayload env incident
    ("Show memory usage, CPU usage, and resource metrics for " ++ incident.alert.service ++
      " in the last 2 hours. Look for memory spikes or OOM conditions.")
    "hyp_metrics"

/-- What is appended for a collector: the words for an error, those for a status other than
200, and what is read of a finding. -/
def collectorFindings {φ : Type} (onError : String → String) (unavailable : String)
    (read : φ → List String) : Collected φ → List String
  | .raised error => [onError error]
  | .response 200 (.error error) => [onError error]
  | .response 200 (.ok finding) => read finding
  | .response _ _ => [unavailable]

def kubeError (error : String) : String :=
  "**🔍 Kubernetes Analysis:** Error during investigation: " ++ error

/-- What is appended for the follow-ups. -/
def kubeActions : Except String (List String) → List String
  | .error error => [kubeError error]
  | .ok [] => []
  | .ok followups =>
      ["**🔧 Suggested Actions:**\n" ++ join "\n" ((followups.take 3).map ("• " ++ ·))]

def kubeFindings : Collected KubeFinding → List String :=
  collectorFindings kubeError
    "**🔍 Kubernetes Analysis:** Unable to connect to kube-collector"
    fun finding =>
      ("**🔍 Kubernetes Analysis:**\n" ++ finding.summary.getD "No data available") ::
        kubeActions finding.suggestedFollowups

def promError (error : String) : String :=
  "**📊 Metrics Analysis:** Error during metrics collection: " ++ error

def promFindings : Collected PromFinding → List String :=
  collectorFindings promError
    "**📊 Metrics Analysis:** Unable to connect to prometheus collector"
    fun finding =>
      ["**📊 Metrics Analysis:**\n" ++ finding.summary.getD "No metrics data available"]

def analysisFinding : Except String String → String
  | .ok text => "**🤖 AI Analysis:**\n" ++ text
  | .error error => "**🤖 AI Analysis:** Error during LLM analysis: " ++ error

def analysisPrompt (userDescription : String) (findings : List String) : String :=
  "\n            User reported: \"" ++ userDescription ++ "\"\n\n" ++
    "            Investigation findings:\n            " ++ join "\n" findings ++
    "\n\n            Based on these findings, provide a concise diagnosis and recommended next" ++
    " steps for this incident.\n" ++
    "            Focus on actionable recommendations for the DevOps team.\n            "

def reportOf (findings : List String) : String :=
  if findings.isEmpty then
    "*No investigation data available. Collectors may not be accessible.*"
  else join "\n\n" findings

/-- The findings, with what the model makes of them where there is a key. -/
def analyse (userDescription : String) (findings : List String) :
    Traced Effect String (List String) :=
  if (truthy (env.environ "ANTHROPIC_API_KEY")).isSome && !findings.isEmpty then do
    let prompt := analysisPrompt userDescription findings
    let analysis ← .call (.messagesCreate prompt) (.ok (env.anthropic prompt))
    return findings ++ [analysisFinding analysis]
  else pure findings

/-- `investigate_incident`. Every failure on the way is a finding. -/
def investigateIncident (userDescription : String) : Traced Effect String String := do
  let kubeUrl := (env.environ "COLLECTOR_KUBE_URL").getD
    "http://kube-collector.agent.svc.cluster.local:8003"
  let promUrl := (env.environ "COLLECTOR_PROM_URL").getD
    "http://prom-collector.agent.svc.cluster.local:8001"
  let kube ← .call (.collect (kubeUrl ++ "/collect") (kubePayload env incident))
    (.ok (env.kube (kubePayload env incident)))
  let prom ← .call (.collect (promUrl ++ "/collect") (promPayload env incident))
    (.ok (env.prom (promPayload env incident)))
  let findings ← analyse env userDescription (kubeFindings kube ++ promFindings prom)
  return reportOf findings

end Investigation

/-! ### The messages that are posted -/

def devopsSupportTag : String := "#devops-support"

section Messages

variable (table : LowerTable) (env : SlackEnv) (event : SlackEvent)

def devopsAlfieChannel : String := (env.environ "DEVOPS_ALFIE_CHANNEL").getD "devops-alfie"

/-- In the original thread. -/
def acknowledgement : ChatMessage :=
  { channel := event.channel.getD ""
    text := "👋 Got it! I'm investigating this issue. I'll post updates in <#" ++
      devopsAlfieChannel env ++ ">"
    threadTs := (truthy event.threadTs).or (truthy (some (event.ts.getD ""))) }

/-- The first message of the thread of the investigation. -/
def investigationStarted : ChatMessage :=
  let incident := incidentOf table env event
  { channel := devopsAlfieChannel env
    text := "🔍 **New Investigation Started** - `" ++ incident.incidentId ++ "`\n\n" ++
      devopsSupportTag
    blocks :=
      [.text ("*🔍 New Investigation*\n`" ++ incident.incidentId ++ "`\n\n" ++ devopsSupportTag),
        .fields
          ["*Reported by:* <@" ++ event.user.getD "" ++ ">",
            "*Channel:* <#" ++ event.channel.getD "" ++ ">",
            "*Service:* " ++ incident.alert.service,
            "*Severity:* " ++ incident.alert.severity.value],
        .text ("*Issue Description:*\n```" ++ event.text.getD "" ++ "```"),
        .text "*🔄 Status:* Starting investigation..."] }

/-- A message of the thread. -/
def inThread (thread text : String) : ChatMessage :=
  { channel := devopsAlfieChannel env, text := text, threadTs := some thread }

def startingText : String :=
  "🔄 **Starting Investigation...**\nAnalyzing Kubernetes events and metrics..."

def completeText (findings : String) : String :=
  "📊 **Investigation Complete**\n\n" ++ findings ++ "\n\n" ++ devopsSupportTag ++
    " - Investigation findings above."

def errorText (error : String) : String :=
  "📊 **Investigation Error**\n\nUnable to connect to collectors. Error: " ++ error ++
    "\n\n" ++ devopsSupportTag ++ " - Manual investigation required."

end Messages

/-! ### The handler -/

section Handler

variable (table : LowerTable) (env : SlackEnv) (event : SlackEvent)

/-- `SlackClient.post_message`. Without a token nothing is sent. -/
def postMessage (message : ChatMessage) : Traced Effect String ChatReply :=
  match truthy (env.environ "SLACK_BOT_TOKEN") with
  | none => pure { ok := false }
  | some _ => .call (.chatPostMessage message) (env.slack message)

/-- A message goes to the thread, if there is one. -/
def postInThread (thread : Option String) (text : String) : Traced Effect String Unit :=
  match thread with
  | none => pure ()
  | some thread => do
      let _ ← postMessage env (inThread env thread text)
      return ()

/-- `investigation_thread_ts`, where there is something in it. -/
def threadOf (reply : ChatReply) : Option String := if reply.ok then truthy reply.ts else none

inductive Response
  | challenge (challenge : Option String)
  | accepted (incidentId investigationChannel : String)
  | ok
  deriving DecidableEq, Repr

/-- The investigation, and what is posted of it. -/
def investigateInThread (thread : Option String) : Traced Effect String Unit := do
  postInThread env thread startingText
  let findings ← investigateIncident env (incidentOf table env event) (event.text.getD "")
  postInThread env thread (completeText findings)

/-- What is done about an incident. What is raised after the first two messages is
reported in the thread. -/
def respond : Traced Effect String Response := do
  let _ ← postMessage env (acknowledgement env event)
  let reply ← postMessage env (investigationStarted table env event)
  let thread := threadOf reply
  (investigateInThread table env event thread).tryElse
    (fun error => postInThread env thread (errorText error)) pure
  return .accepted (incidentOf table env event).incidentId (devopsAlfieChannel env)

/-- What the handler does when the bot is mentioned. -/
def handleMention : Traced Effect String Response := do
  .call (.seeded (incidentOf table env event)) (.ok ())
  respond table env event

/-- The test for a mention of the bot. -/
def mentionsBot (text : String) : Bool :=
  let textLower := table.lower text
  occursIn "@alph-e" textLower || occursIn "alph-e" textLower || occursIn "<@" text

/-- An event that the handler acts on. -/
def actsOn : Bool :=
  event.type = some "message" && (truthy event.subtype).isNone &&
    mentionsBot table (event.text.getD "")

/-- `slack_events_webhook`. -/
def slackEventsWebhook (payload : SlackEventWrapper) : Traced Effect String Response :=
  if payload.type = "url_verification" then pure (.challenge payload.challenge)
  else match payload.event with
    | some event =>
        if payload.type = "event_callback" && actsOn table event then
          handleMention table env event
        else pure .ok
    | none => pure .ok

end Handler

end AlphE.Intake
