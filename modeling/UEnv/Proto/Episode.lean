import Std.Data.ExtTreeMap
import UEnv.Lib.Ieee754

/-!
# Episode messages

The messages of `proto/uenv/v1/episode.proto` and `common.proto` as the generated Rust
structs hold them: an enumeration field is its `i32`, a message field is optional, and a
`map<string, string>` is compared by its bindings, which `StringMap` represents canonically.
`==` on a message is the derived `PartialEq`; it differs from equality only through the
floating-point fields of results.
-/

namespace UEnv.Proto

/-- `HashMap<String, String>`. No modelled function depends on its iteration order. -/
abbrev StringMap := Std.ExtTreeMap String String compare

instance : BEq StringMap := ⟨fun a b => decide (a = b)⟩

/-- `prost_types::Timestamp`. -/
structure Timestamp where
  seconds : Int64
  nanos : Int32
  deriving DecidableEq, Inhabited

/-- `common.proto`, `ErrorCode`, by its wire values. -/
inductive ErrorCode
  | errorUnspecified | ok
  | errInvalidRequest | errUnknownEnvType | errUnsupportedMode | errAsyncProtocolMissingField
  | errNoAvailableWorker | errWorkerTimeout | errEpisodeTimeout
  | errWorkerCrashed | errEnvInitFailed | errEnvStepFailed | errModelCallFailed
  | errAlreadyRunning | errAlreadyCompleted | errLeaseExpired | errLeaseSuperseded
  | errModelVersionMissing | errRolloutLogprobsMissing | errModelLogprobsUnsupported
  | errInternal
  deriving DecidableEq

/-- `code as i32`. -/
def ErrorCode.toInt32 : ErrorCode → Int32
  | .errorUnspecified => 0
  | .ok => 1
  | .errInvalidRequest => 1001
  | .errUnknownEnvType => 1002
  | .errUnsupportedMode => 1003
  | .errAsyncProtocolMissingField => 1004
  | .errNoAvailableWorker => 2001
  | .errWorkerTimeout => 2002
  | .errEpisodeTimeout => 2003
  | .errWorkerCrashed => 3001
  | .errEnvInitFailed => 3002
  | .errEnvStepFailed => 3003
  | .errModelCallFailed => 3004
  | .errAlreadyRunning => 3005
  | .errAlreadyCompleted => 3006
  | .errLeaseExpired => 3007
  | .errLeaseSuperseded => 3008
  | .errModelVersionMissing => 3009
  | .errRolloutLogprobsMissing => 3010
  | .errModelLogprobsUnsupported => 3011
  | .errInternal => 5001

structure ResourceSpec where
  cpuCores : Int32 := 0
  memoryMb : Int32 := 0
  gpuCount : Int32 := 0
  gpuType : String := ""
  deriving DecidableEq, Inhabited

structure ModelEndpoint where
  endpointType : String := ""
  url : String := ""
  modelName : String := ""
  generationConfigJson : List UInt8 := []
  maxRetries : Int32 := 0
  deriving DecidableEq, Inhabited

structure EpisodeRequest where
  episodeId : String := ""
  attemptId : UInt32 := 0
  envType : String := ""
  payload : List UInt8 := []
  mode : Int32 := 0
  maxSteps : Int32 := 0
  resourceSpec : Option ResourceSpec := none
  seed : Option Int32 := none
  correlationId : String := ""
  timeoutSeconds : Int32 := 0
  rewardConfig : List UInt8 := []
  dispatchLeaseId : String := ""
  leaseExpireAt : Option Timestamp := none
  schedulerEpoch : UInt64 := 0
  dispatchToken : List UInt8 := []
  envPackageId : String := ""
  envPackageVersion : String := ""
  parallelMode : String := ""
  enqueueTs : Option F64 := none
  metadata : StringMap := ∅
  modelEndpointConfig : Option ModelEndpoint := none
  schedulingGroupId : String := ""
  schedulingPriority : UInt32 := 0
  deriving DecidableEq, Inhabited

structure RolloutTrace where
  responseIds : List Int64 := []
  responseMask : List Int32 := []
  deriving DecidableEq, BEq

structure StepRecord where
  stepIndex : Int32 := 0
  observation : List UInt8 := []
  action : List UInt8 := []
  reward : F64 := .zero
  terminated : Bool := false
  truncated : Bool := false
  info : StringMap := ∅
  durationMs : Int64 := 0
  rolloutTrace : Option RolloutTrace := none
  deriving DecidableEq, BEq

structure Trajectory where
  steps : List StepRecord := []
  totalReward : F64 := .zero
  totalSteps : Int32 := 0
  deriving DecidableEq, BEq

/-- `episode_result::Summary`. -/
structure Summary where
  totalReward : F64 := .zero
  totalSteps : Int32 := 0
  totalDurationMs : Int64 := 0
  terminateReason : String := ""
  deriving DecidableEq, BEq

structure EpisodeResult where
  episodeId : String := ""
  attemptId : UInt32 := 0
  status : String := ""
  trajectory : Option Trajectory := none
  summary : Option Summary := none
  errorCode : Option Int32 := none
  errorMessage : String := ""
  trajectoryChecksum : String := ""
  integrityVerified : Bool := false
  trajectoryId : String := ""
  trajectoryStorageUrl : String := ""
  gatewaySessionId : String := ""
  parallelMode : String := ""
  rolloutParamVersion : Option Int64 := none
  rolloutPolicyVersion : Option String := none
  rolloutLogProbs : List F32 := []
  metadata : StringMap := ∅
  dispatchTs : Option F64 := none
  workerStartTs : Option F64 := none
  workerFinishTs : Option F64 := none
  resultReadyTs : Option F64 := none
  serverLatencyMs : Option Int64 := none
  workerLatencyMs : Option Int64 := none
  modelLatencyMs : Option Int64 := none
  deriving DecidableEq, BEq

end UEnv.Proto
