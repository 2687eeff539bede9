import AlphE.Security.Integrity
import AlphE.Coordinator.FailClosed
import AlphE.Coordinator.Compensation
import AlphE.Coordinator.Authorisation
import AlphE.Coordinator.History
import AlphE.Nodes.Investigator
import AlphE.Nodes.Collectors
import AlphE.Nodes.PlannerGate
import AlphE.Nodes.Repair
import AlphE.Nodes.Review
import AlphE.Intake.Webhook
import AlphE.Orchestrator.GivingUp
import AlphE.Orchestrator.Run
import AlphE.Orchestrator.Lifecycle
import AlphE.Orchestrator.Audit
import AlphE.Llm.Structured
import AlphE.Llm.Conversation
import AlphE.Evidence.Dangling
import AlphE.Dispatch.Redispatch
import AlphE.Collectors.Payloads
import AlphE.Dispatch.Questions
import AlphE.Orchestrator.EvidenceRule
import AlphE.Orchestrator.Verification
import AlphE.Lib.Segments
import AlphE.Dispatch.Request
import AlphE.Evidence.Classified
import AlphE.Lib.FirstWins
import AlphE.Evidence.Metadata
import AlphE.Dispatch.Calls
import AlphE.Orchestrator.LastAttempt
import AlphE.Coordinator.Handoff
import AlphE.Lib.UnifiedDiff
import AlphE.Nodes.Manifests
import AlphE.Orchestrator.Focus
import AlphE.Orchestrator.Answers
import AlphE.Lib.PatchReader
import AlphE.Nodes.Trimming
import AlphE.Nodes.Labels
import AlphE.Llm.Client
import AlphE.Llm.Outcomes
import AlphE.Collectors.PromConfidence
import AlphE.Collectors.PromOrder
import AlphE.Collectors.PromRows
import AlphE.Collectors.PromReordered
import AlphE.Lib.GoUnquote
import AlphE.Lib.QueryLex
import AlphE.Collectors.LokiSyntax
import AlphE.Collectors.LokiSelector
import AlphE.Collectors.PromSelector
import AlphE.Lib.GoFloatText
import AlphE.Collectors.PromGrammar
import AlphE.Collectors.LokiClient
import AlphE.Lib.GoJsonRead
import AlphE.Lib.Separators
import AlphE.Collectors.LokiSummary
import AlphE.Lib.Fallible
import AlphE.Lib.GoTrim
import AlphE.Orchestrator.Hypotheses
import AlphE.Lib.KeyedUpsert
import AlphE.Collectors.LokiEvidence
import AlphE.Collectors.KubeQuestions
import AlphE.Collectors.KubeFollowups
import AlphE.Dispatch.CacheKey
import AlphE.Dispatch.CacheRows
import AlphE.Intake.SlackEcho
import AlphE.Coordinator.Traces
import AlphE.Coordinator.Sessions
import AlphE.Evidence.Concurrent
import AlphE.Orchestrator.Replay
import AlphE.Orchestrator.Custody
import AlphE.Orchestrator.Verdict
import AlphE.Orchestrator.Provenance
import AlphE.Orchestrator.Wire
import AlphE.Orchestrator.Deliveries
import AlphE.Intake.SlackRequests
import AlphE.Evidence.Shared
import AlphE.Llm.Requests
import AlphE.Orchestrator.Budget
import AlphE.Dispatch.Served
import AlphE.Dispatch.Isolation
import AlphE.Orchestrator.Fleet
