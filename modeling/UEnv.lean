import UEnv.AgentJob.Completion
import UEnv.AgentJob.Concurrency
import UEnv.AgentJob.Permits
import UEnv.AgentJob.Routing
import UEnv.Bridge.Recording
import UEnv.Bridge.StreamService
import UEnv.Bridge.Streaming
import UEnv.Bridge.VersionAgreement
import UEnv.ControlPlane.Conservation
import UEnv.ControlPlane.MemoryReports
import UEnv.Hub.ActivationRuns
import UEnv.Hub.ClientCache
import UEnv.Hub.GateVerdicts
import UEnv.Hub.Listing
import UEnv.Hub.PythonTotality
import UEnv.Hub.RetriedPublish
import UEnv.Hub.Sync
import UEnv.Hub.Versions
import UEnv.Native.Release
import UEnv.Obs.Redelivery
import UEnv.Obs.Rosters
import UEnv.Obs.RunLifecycle
import UEnv.OpenHands.GatewayClient
import UEnv.OpenHands.RolloutAlignment
import UEnv.Persistence.ChecksumExactness
import UEnv.Persistence.GatewaySessions
import UEnv.Persistence.Outbox
import UEnv.Plugins.NumericGrading
import UEnv.Plugins.OutputComparison
import UEnv.Scheduler.Departure
import UEnv.Server.Restarts
import UEnv.Server.ResultIdentity
import UEnv.Service.AsyncSubmission
import UEnv.Trajectory.Store
import UEnv.Worker.EpisodeExecutor
import UEnv.Worker.GradeExactness
import UEnv.Worker.ModelClient
import UEnv.Worker.ModelPatch
import UEnv.Worker.OneExecution
import UEnv.Worker.PatchedTrees
import UEnv.Worker.PluginHost
import UEnv.Worker.PoolFailures
import UEnv.Worker.ProGrading
import UEnv.Worker.RuntimeContract
import UEnv.Worker.SessionFiles
import UEnv.Worker.TrajectorySpool
import UEnv.Worker.Wal
import UEnv.Worker.WarmTags
