import UEnv.Proto.Episode

/-!
# Agent messages

The job contract of `proto/uenv/v1/agent.proto` between the server and the agent pools.
-/

namespace UEnv.Proto

/-- agent.proto, 9-44. -/
structure AgentJob where
  jobId : String := ""
  runId : String := ""
  gatewayUrl : String := ""
  gatewayApiKey : String := ""
  sessionId : String := ""
  instanceId : String := ""
  benchmarkVariant : String := ""
  envPackageId : String := ""
  envPackageVersion : String := ""
  agentBridgeId : String := ""
  agentBridgeVersion : String := ""
  driverEntrypoint : String := ""
  modelEndpointConfig : Option ModelEndpoint := none
  maxIterations : Int32 := 0
  workspaceDir : String := ""
  episodeId : String := ""
  llmConfigPath : String := ""
  mode : String := ""
  parallelMode : String := ""
  enqueueTs : Option F64 := none
  metadata : StringMap := ∅
  taskPayloadJson : String := ""
  instancesCatalog : String := ""
  instanceCatalogJson : String := ""
  deriving DecidableEq, Inhabited

structure AgentJobCompleteRequest where
  jobId : String := ""
  runId : String := ""
  status : String := ""
  reward : F64 := .zero
  trajectoryId : String := ""
  errorMessage : String := ""
  agentId : String := ""
  parallelMode : String := ""
  rolloutParamVersion : Option Int64 := none
  rolloutPolicyVersion : Option String := none
  rolloutLogProbs : List F32 := []
  workerStartTs : Option F64 := none
  workerFinishTs : Option F64 := none
  resultReadyTs : Option F64 := none
  workerLatencyMs : Option Int64 := none
  modelLatencyMs : Option Int64 := none
  metadata : StringMap := ∅
  rolloutTrace : Option RolloutTrace := none
  deriving DecidableEq

end UEnv.Proto
