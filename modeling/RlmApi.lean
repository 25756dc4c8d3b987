import RlmApi.ChildSupervision
import RlmApi.ClaimProcessing
import RlmApi.ClaimQueue
import RlmApi.ClaimSettlement
import RlmApi.EventJournal
import RlmApi.ExactlyOnce
import RlmApi.ExclusiveExecution
import RlmApi.FleetRefinement
import RlmApi.LiveMigration
import RlmApi.MemoryHistories
import RlmApi.MemorySearch
import RlmApi.OutboxBackfill
import RlmApi.PollingClient
import RlmApi.PredictionTexts
import RlmApi.RecoveryDrain
import RlmApi.RequestGate
import RlmApi.ResultRoundTrip
import RlmApi.RetryBackoff
import RlmApi.RetryClassification
import RlmApi.RollingDeployment
import RlmApi.RunCompletion
import RlmApi.RunProgress
import RlmApi.RunShapes
import RlmApi.RunSubmission
import RlmApi.SearchRanking
import RlmApi.SearchScope
import RlmApi.ServiceLifecycle
import RlmApi.StatementHistories
import RlmApi.SubjectBinding
import RlmApi.SummaryProgress
import RlmApi.TenantIsolation
