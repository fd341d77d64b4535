import SiftKit.Repository.GateSafety
import SiftKit.Repository.GateAborts
import SiftKit.Orchestrator.RunStoreContract
import SiftKit.Orchestrator.CompletionGate
import SiftKit.Orchestrator.TaskDispatch
import SiftKit.Status.RunRegistryLifecycle
import SiftKit.Chat.MessageQueueContract
import SiftKit.Chat.ServerFencing
import SiftKit.Chat.RecorderContract
import SiftKit.Chat.ContextReplayContract
import SiftKit.Chat.ContextClosureContract
import SiftKit.Assistant.JobAttempts
import SiftKit.Assistant.JobSettlement
import SiftKit.Graph.Precedence
import SiftKit.RepoSearch.ApprovalContract
import SiftKit.RepoSearch.EditContract
import SiftKit.Status.PresetSwitch
import SiftKit.Assistant.QuestionLimits
import SiftKit.Status.FlushQueueContract
import SiftKit.RepoSearch.ReadPlanning
import SiftKit.RepoSearch.ResultBudget
import SiftKit.RepoSearch.GrepLimit
import SiftKit.LlmProtocol.LiveContent
import SiftKit.Chat.ProgressWriter
import SiftKit.Chat.ImageRevisionsContract
import SiftKit.Chat.ContextDeletionContract
import SiftKit.Assistant.CleanupContract
import SiftKit.Assistant.RestoreContract
import SiftKit.Assistant.TokenFitting
import SiftKit.Chat.EventStream
import SiftKit.Graph.MemoryKeys
import SiftKit.Graph.Neighborhood
import SiftKit.RepoSearch.TranscriptCompactor
import SiftKit.Summary.ChunkPlanning
import SiftKit.WebSearch.WebFetch
import SiftKit.Assistant.ArchivePlan
import SiftKit.Orchestrator.PlanCycles
import SiftKit.Graph.ServiceRefinement
import SiftKit.Status.ProcessTree
