import UEnv.Obs.Events

/-!
# Results on their way to the trainer

`AdapterCore::execute_batch` of `core.rs` matches the results of the episode service with the
samples and writes each trajectory as a JSON document; `_from_core_result` of `clients.py` reads the
sample results back. What the payload and the reward configuration of a request hold is left to a
parameter.
-/

namespace UEnv

/-- A magnitude below the infinity. -/
def F64.isFinite (x : F64) : Bool := x.bits &&& 0x7FFFFFFFFFFFFFFF < 0x7FF0000000000000

theorem F64.isNaN_of_isFinite {x : F64} (finite : x.isFinite) : x.isNaN = false := by
  simp only [F64.isFinite, decide_eq_true_eq] at finite
  simp only [F64.isNaN, decide_eq_false_iff_not]
  exact UInt64.lt_asymm finite

namespace Bridge

open Fallible Obs Proto Tables

/-! ### The adapter core -/

inductive CoreError
  | invalidEnvelope (message : String)
  | invalidEpisodeResult (message : String)
  | episodeService (message : String)
  deriving DecidableEq

structure SampleEnvelope where
  requestId : String
  batchId : String
  sampleIndex : UInt32
  framework : String
  envType : String := ""
  parallelMode : String := ""
  envConfigJson : List UInt8 := []
  episodeConfigJson : List UInt8 := []
  rewardConfigJson : List UInt8 := []
  modelEndpoint : Option ModelEndpoint := none
  timeoutSeconds : Int32 := 0
  correlationId : String := ""
  sampleContextJson : List UInt8 := []
  envPackageId : String := ""
  envPackageVersion : String := ""
  deriving DecidableEq

structure ExecuteBatchRequest where
  requestId : String
  batchId : String
  samples : List SampleEnvelope

structure SampleResult where
  requestId : String
  batchId : String
  sampleIndex : UInt32
  status : String
  reward : F64
  done : Bool
  terminationReason : String
  trajectoryJson : List UInt8
  errorCode : String
  errorMessage : String
  rolloutParamVersion : Int64
  rolloutPolicyVersion : String
  rolloutLogProbs : List F32
  deriving DecidableEq

structure ExecuteBatchResponse where
  requestId : String
  batchId : String
  results : List SampleResult

/-- What both sides leave to their libraries: `to_vec` and `from_slice` of `serde_json`, `loads` and
`dumps` of Python's `json`, `str` of what is not a string, and `from_utf8_lossy` on bytes that are
not UTF-8. -/
structure Texts where
  toVec : Json → List UInt8
  fromSlice : List UInt8 → Option Json
  loads : List UInt8 → Option Json
  dumps : Json → String
  str : Json → String
  replaced : List UInt8 → String
  /-- `payload` and `reward_config` of a request. -/
  workerConfig : SampleEnvelope → List UInt8 × List UInt8

/-- The samples are fit to be submitted under the ids seen so far. -/
def validateSamples (seen : List String) : List SampleEnvelope → Except CoreError Unit
  | [] => .ok ()
  | sample :: rest =>
    if sample.requestId.isEmpty then .error (.invalidEnvelope "request_id is required")
    else if sample.requestId ∈ seen then
      .error (.invalidEnvelope ("duplicate request_id=" ++ sample.requestId))
    else if sample.batchId.isEmpty then .error (.invalidEnvelope "batch_id is required")
    else if sample.framework.isEmpty then .error (.invalidEnvelope "framework is required")
    else validateSamples (sample.requestId :: seen) rest

/-- `validate_batch` (core.rs, 90-116). -/
def validateBatch (samples : List SampleEnvelope) : Except CoreError Unit :=
  validateSamples [] samples

/-- core.rs, 119-122. -/
structure SampleContext where
  batchId : String
  sampleIndex : UInt32
  deriving DecidableEq

/-- `sample_context_by_request_id` (core.rs, 124-137). -/
def sampleContextByRequestId (samples : List SampleEnvelope) : Map String SampleContext :=
  Std.ExtTreeMap.ofList (samples.map fun s => (s.requestId, ⟨s.batchId, s.sampleIndex⟩)) compare

/-! ### Requests -/

/-- `non_empty_string` (core.rs, 287-294). -/
def nonEmptyString (value : String) : Option String :=
  let trimmed := Service.trim value
  if trimmed.isEmpty then none else some trimmed

/-- `normalize_parallel_mode`. -/
def sampleParallelMode (sample : SampleEnvelope) : Except CoreError String :=
  match nonEmptyString sample.parallelMode with
  | none => .ok "sync"
  | some raw =>
    match Service.normalizeParallelMode raw with
    | .ok mode => .ok mode
    | .error message => .error (.invalidEnvelope message)

/-- `json_string` (core.rs, 627-632). -/
def jsonString (value : Json) (key : String) : Option String := (value.get key).bind Json.asStr

/-- `json_i32`: `as_i64`, then `i32::try_from`. -/
def jsonI32 (value : Json) (key : String) : Option Int32 :=
  let inRange := fun n : Int => if -2 ^ 31 ≤ n ∧ n < 2 ^ 31 then some (Int32.ofInt n) else none
  match value.get key with
  | some (.posInt n) => inRange n.toNat
  | some (.negInt n) => inRange n
  | _ => none

/-- `env_package_field` (core.rs, 296-313). -/
def envPackageField (typed : String) (envCfg : Json) (primaryKey aliasKey fieldName : String) :
    Except CoreError String :=
  let typed := nonEmptyString typed
  let legacy := (jsonString envCfg primaryKey).or (jsonString envCfg aliasKey)
  match typed, legacy with
  | some typed, some legacy =>
    if typed ≠ legacy then
      .error (.invalidEnvelope ("conflicting " ++ fieldName ++ ": envelope=" ++ typed ++
        ", env_config=" ++ legacy))
    else .ok typed
  | _, _ => .ok ((typed.or legacy).getD "")

/-- `is_protocol_metadata_key`, with the key that only the adapter core has. -/
def isProtocolMetadataKey (key : String) : Bool :=
  Service.isProtocolMetadataKey key || key == "scheduling_priority"

/-- `contextual_metadata` (core.rs, 334-344). -/
def contextualMetadata : Json → Json
  | .obj fields => .obj (fields.filter fun field => !isProtocolMetadataKey field.1)
  | _ => .null

/-- The metadata of a request. -/
def requestMetadata (sample : SampleEnvelope) (context : Json) : StringMap :=
  let put := fun (key source : String) (metadata : StringMap) =>
    match jsonString context source with
    | some v => metadata.insertIfNew key v
    | none => metadata
  let metadata := put "training_run_id" "run_id" <| put "batch_id" "batch_id" <|
    put "training_run_id" "training_run_id" ∅
  if sample.batchId.isEmpty then metadata else metadata.insertIfNew "batch_id" sample.batchId

variable (texts : Texts)

/-- `json_from_bytes` (core.rs, 246-251). -/
def jsonFromBytes (bytes : List UInt8) : Option Json :=
  if bytes.isEmpty then none else texts.fromSlice bytes

/-- `sample_to_episode_request` (core.rs, 170-244). -/
def sampleToEpisodeRequest (fallbackSchedulingGroupId : String) (sample : SampleEnvelope) :
    Except CoreError Proto.EpisodeRequest := do
  let envCfg := (jsonFromBytes texts sample.envConfigJson).getD .null
  let episodeCfg := (jsonFromBytes texts sample.episodeConfigJson).getD .null
  let context := contextualMetadata ((jsonFromBytes texts sample.sampleContextJson).getD .null)
  let parallelMode ← sampleParallelMode sample
  let correlationId := (nonEmptyString sample.correlationId).getD sample.batchId
  let schedulingGroupId := ((nonEmptyString sample.batchId).or
    (nonEmptyString fallbackSchedulingGroupId)).getD correlationId
  let envPackageId ← envPackageField sample.envPackageId envCfg "env_package_id" "package_id"
    "env_package_id"
  let envPackageVersion ← envPackageField sample.envPackageVersion envCfg "env_package_version"
    "package_version" "env_package_version"
  return {
    episodeId := sample.requestId
    envType := sample.envType
    payload := (texts.workerConfig sample).1
    correlationId
    maxSteps := (jsonI32 episodeCfg "max_steps").getD 0
    seed := jsonI32 episodeCfg "seed"
    timeoutSeconds := if 0 < sample.timeoutSeconds then sample.timeoutSeconds else 300
    rewardConfig := (texts.workerConfig sample).2
    parallelMode
    envPackageId
    envPackageVersion
    modelEndpointConfig := sample.modelEndpoint
    schedulingGroupId
    metadata := requestMetadata sample context }

/-! ### Trajectory documents -/

/-- `json!` of an `f64`; a number of JSON is finite. -/
def jsonF64 (x : F64) : Json := if x.isFinite then .float x.bits else .null

/-- `json!` of an integer type. -/
def jsonInt (n : Int) : Json := if 0 ≤ n then .posInt (UInt64.ofNat n.toNat) else .negInt n

/-- `json!` of a `HashMap<String, String>`; `serde_json` keeps the keys sorted. -/
def jsonStrings (map : StringMap) : Json :=
  .obj (map.toList.map fun entry => (entry.1, .str entry.2))

/-- `bytes_to_lossy_string` (core.rs, 616-618). -/
def bytesToLossyString (bytes : List UInt8) : String :=
  (String.fromUTF8? ⟨bytes.toArray⟩).getD (texts.replaced bytes)

def rolloutTraceToJson : Option RolloutTrace → Json
  | some trace => .obj [
      ("response_ids", .arr (trace.responseIds.map fun id => jsonInt id.toInt)),
      ("response_mask", .arr (trace.responseMask.map fun bit => jsonInt bit.toInt))]
  | none => .obj []

/-- A step in the document. -/
def stepToJson (step : Proto.StepRecord) : Json :=
  .obj [
    ("action", .str (bytesToLossyString texts step.action)),
    ("duration_ms", jsonInt step.durationMs.toInt),
    ("info", jsonStrings step.info),
    ("observation", .str (bytesToLossyString texts step.observation)),
    ("reward", jsonF64 step.reward),
    ("rollout_trace", rolloutTraceToJson step.rolloutTrace),
    ("step_index", jsonInt step.stepIndex.toInt),
    ("terminated", .bool step.terminated),
    ("truncated", .bool step.truncated)]

/-- The envelope of both branches of `build_trajectory_json`. -/
def trajectoryEnvelope (steps : List Json) (totalReward : F64) (totalSteps : Int32)
    (trajectoryId : String) (metadata : StringMap) : Json :=
  .obj ((if metadata.isEmpty then [] else [("metadata", jsonStrings metadata)]) ++
    [("steps", .arr steps), ("total_reward", jsonF64 totalReward),
      ("total_steps", jsonInt totalSteps.toInt)] ++
    if trajectoryId.isEmpty then [] else [("trajectory_id", .str trajectoryId)])

/-- `build_trajectory_json` with `proto_trajectory_to_json_bytes`, up to the writing: `none` stands
for no bytes. -/
def trajectoryDocument (result : Proto.EpisodeResult) : Option Json :=
  let trajectoryId := Service.trim result.trajectoryId
  match result.trajectory with
  | some trajectory =>
    some (trajectoryEnvelope (trajectory.steps.map (stepToJson texts)) trajectory.totalReward
      trajectory.totalSteps trajectoryId result.metadata)
  | none =>
    if trajectoryId.isEmpty && result.metadata.isEmpty then none
    else
      let summary := result.summary.getD {}
      some (trajectoryEnvelope [] summary.totalReward summary.totalSteps trajectoryId
        result.metadata)

/-- `build_trajectory_json` (core.rs, 519-565). -/
def buildTrajectoryJson (result : Proto.EpisodeResult) : List UInt8 :=
  match trajectoryDocument texts result with
  | some document => texts.toVec document
  | none => []

/-! ### Sample results -/

/-- `validate_episode_results`, after the ids seen so far. -/
def validateResultIds (context : Map String SampleContext) (seen : List String) :
    List Proto.EpisodeResult → Except CoreError Unit
  | [] => .ok ()
  | result :: rest =>
    if result.episodeId ∉ context then
      .error (.invalidEpisodeResult ("EpisodeResult episode_id=" ++ result.episodeId ++
        " was not in submitted batch"))
    else if result.episodeId ∈ seen then
      .error (.invalidEpisodeResult ("duplicate EpisodeResult episode_id=" ++ result.episodeId))
    else validateResultIds context (result.episodeId :: seen) rest

/-- `validate_episode_results` (core.rs, 139-166). -/
def validateEpisodeResults (results : List Proto.EpisodeResult)
    (context : Map String SampleContext) :
    Except CoreError Unit :=
  if results.length ≠ context.size then
    .error (.invalidEpisodeResult ("EpisodeService returned " ++ toString results.length ++
      " results for " ++ toString context.size ++ " submitted samples"))
  else validateResultIds context [] results

/-- What `episode_result_to_sample_result` makes of the result of a sample. -/
def sampleResult (context : SampleContext) (result : Proto.EpisodeResult) : SampleResult :=
  let summary := result.summary.getD {}
  { requestId := result.episodeId
    batchId := context.batchId
    sampleIndex := context.sampleIndex
    status := result.status
    reward := summary.totalReward
    done := result.status = "completed" ∨ result.status = "failed" ∨ result.status = "timeout"
    terminationReason := summary.terminateReason
    trajectoryJson := buildTrajectoryJson texts result
    errorCode := (result.errorCode.map fun code => toString code.toInt).getD ""
    errorMessage := result.errorMessage
    rolloutParamVersion := result.rolloutParamVersion.getD 0
    rolloutPolicyVersion := result.rolloutPolicyVersion.getD ""
    rolloutLogProbs := result.rolloutLogProbs }

def episodeResultToSampleResult (context : Map String SampleContext)
    (result : Proto.EpisodeResult) :
    Except CoreError SampleResult :=
  match context[result.episodeId]? with
  | some sample => .ok (sampleResult texts sample result)
  | none => .error (.invalidEpisodeResult ("EpisodeResult episode_id=" ++ result.episodeId ++
      " was not in submitted batch"))

/-- `EpisodeService::submit_episode_batch`. -/
abbrev SubmitEpisodeBatch :=
  List Proto.EpisodeRequest → Except CoreError (List Proto.EpisodeResult)

/-- `execute_batch` up to the answer of the service. -/
def submitBatch (submitEpisodeBatch : SubmitEpisodeBatch) (request : ExecuteBatchRequest) :
    Except CoreError (List Proto.EpisodeResult) := do
  validateBatch request.samples
  let requests ← request.samples.mapM (sampleToEpisodeRequest texts request.batchId)
  submitEpisodeBatch requests

/-- `execute_batch` (core.rs, 43-68). -/
def executeBatch (submitEpisodeBatch : SubmitEpisodeBatch)
    (request : ExecuteBatchRequest) : Except CoreError ExecuteBatchResponse := do
  let episodeResults ← submitBatch texts submitEpisodeBatch request
  let context := sampleContextByRequestId request.samples
  validateEpisodeResults episodeResults context
  let results ← episodeResults.mapM (episodeResultToSampleResult texts context)
  return { requestId := request.requestId, batchId := request.batchId, results }

/-! ### The Python client -/

namespace Client

/-- `StepRecord` of `protocol.py`. -/
structure StepRecord where
  stepIndex : Int
  observation : List UInt8 := []
  action : List UInt8 := []
  reward : F64 := .zero
  terminated : Bool := false
  truncated : Bool := false
  info : StringMap := ∅
  durationMs : Int := 0
  responseIds : List Int := []
  responseMask : List Int := []
  deriving DecidableEq

structure Trajectory where
  steps : List StepRecord := []
  totalReward : F64 := .zero
  totalSteps : Int := 0
  deriving DecidableEq

structure EpisodeSummary where
  totalReward : F64
  totalSteps : Int
  terminateReason : String
  deriving DecidableEq

/-- `EpisodeResult` of `protocol.py`; a float of a `float` field is an `f32`. -/
structure EpisodeResult where
  requestId : String
  status : String
  trajectory : Trajectory
  summary : EpisodeSummary
  errorCode : Option Int
  errorMessage : String
  trajectoryId : String
  metadata : StringMap
  rolloutParamVersion : Option Int
  rolloutPolicyVersion : Option String
  rolloutLogProbs : List F32
  deriving DecidableEq

/-- `bool(value)`. -/
def truthy : Json → Bool
  | .null => false
  | .bool b => b
  | .posInt n => n != 0
  | .negInt n => n != 0
  | .float bits => !F64.isZero ⟨bits⟩
  | .str s => !s.isEmpty
  | .arr items => !items.isEmpty
  | .obj fields => !fields.isEmpty

/-- `value or default`. -/
def orElse (value default : Json) : Json := if truthy value then value else default

/-- `float(value)` of a float, the one number that the core writes where a float is read. -/
def asFloat : Json → Option F64
  | .float bits => some ⟨bits⟩
  | _ => none

/-- `int(value)` of an integer. -/
def asInt : Json → Option Int
  | .posInt n => some n.toNat
  | .negInt n => some n
  | _ => none

/-- `data.get(name, default)`. -/
def getOr (data : Json) (name : String) (default : Json) : Json := (data.get name).getD default

/-- `str.encode("utf-8")`. -/
def encode (s : String) : List UInt8 := s.toByteArray.data.toList

/-- `_bytes_from_jsonable` (clients.py, 454-459). -/
def bytesFromJsonable : Json → List UInt8
  | .str s => encode s
  | value => encode (texts.dumps value)

/-- A string as it is, any other value as `other` gives it: `_string_from_jsonable` with
`texts.dumps`, `str` with `texts.str`. -/
def stringOr (other : Json → String) : Json → String
  | .str s => s
  | value => other value

/-- `{str(key): … for key, value in value.items()}` of a dictionary, of anything else `{}`. -/
def stringsOr (other : Json → String) (value : Json) : StringMap :=
  match value with
  | .obj fields =>
    Std.ExtTreeMap.ofList (fields.map fun field => (field.1, stringOr other field.2)) compare
  | _ => ∅

/-- `_int_list_from_jsonable` (clients.py, 477-486). -/
def intListFromJsonable : Option Json → List Int
  | some (.arr items) => items.filterMap asInt
  | _ => []

/-- `_step_from_jsonable`; `none` is an exception. -/
def stepFromJsonable (idx : Nat) (data : Json) : Option StepRecord := do
  let rolloutTrace := getOr data "rollout_trace" .null
  let stepIndex ← asInt (orElse (getOr data "step_index" (jsonInt idx)) (.posInt 0))
  let reward ← asFloat (orElse (getOr data "reward" (.float 0)) (.float 0))
  let durationMs ← asInt (orElse (getOr data "duration_ms" (.posInt 0)) (.posInt 0))
  return {
    stepIndex
    observation := bytesFromJsonable texts (getOr data "observation" (.str ""))
    action := bytesFromJsonable texts (getOr data "action" (.str ""))
    reward
    terminated := truthy (getOr data "terminated" (.bool false))
    truncated := truthy (getOr data "truncated" (.bool false))
    info := stringsOr texts.dumps (getOr data "info" .null)
    durationMs
    responseIds := intListFromJsonable (rolloutTrace.get "response_ids")
    responseMask := intListFromJsonable (rolloutTrace.get "response_mask") }

/-- The dictionaries of a list, each with its index. -/
def stepsFromJsonable (idx : Nat) : List Json → Option (List StepRecord)
  | [] => some []
  | .obj fields :: rest => do
    let step ← stepFromJsonable texts idx (.obj fields)
    let steps ← stepsFromJsonable (idx + 1) rest
    return step :: steps
  | _ :: rest => stepsFromJsonable (idx + 1) rest

/-- What `enumerate` gives of a value, as far as it is a dictionary, and the length of the value;
`none` is an exception. -/
def enumerated : Json → Option (List Json × Nat)
  | .arr items => some (items, items.length)
  | .obj fields => some ([], fields.length)
  | .str s => some ([], s.length)
  | _ => none

/-- `_trajectory_from_jsonable` (clients.py, 419-432). -/
def trajectoryFromJsonable (data : Json) (reward : F64) : Option Trajectory :=
  match data with
  | .arr items => do
    let steps ← stepsFromJsonable texts 0 items
    return { steps, totalReward := reward, totalSteps := items.length }
  | .obj _ => do
    let (items, length) ← enumerated (orElse (getOr data "steps" .null) (.arr []))
    let totalReward ← asFloat (orElse (getOr data "total_reward" (jsonF64 reward)) (.float 0))
    let totalSteps ← asInt (orElse (getOr data "total_steps" (jsonInt length)) (.posInt 0))
    let steps ← stepsFromJsonable texts 0 items
    return { steps, totalReward, totalSteps := if totalSteps = 0 then steps.length else totalSteps }
  | _ => some { totalReward := reward }

/-- The step that stands for an episode without a trajectory. -/
def placeholderStep (reward : F64) (done : Bool) (terminationReason : String) : StepRecord where
  stepIndex := 0
  reward
  terminated := done
  info := (∅ : StringMap).insert "source" "rust_core" |>.insert "termination_reason"
    terminationReason

/-- The fields of a document beside the trajectory. -/
def documentTags (data : Json) : String × StringMap :=
  match data with
  | .obj _ => (stringOr texts.str (orElse (getOr data "trajectory_id" .null) (.str "")),
      stringsOr texts.str (orElse (getOr data "metadata" .null) (.obj [])))
  | _ => ("", ∅)

/-- `_decode_core_trajectory` (clients.py, 386-417). -/
def decodeCoreTrajectory (raw : List UInt8) (reward : F64) (done : Bool)
    (terminationReason : String) : Trajectory × String × StringMap :=
  let placeholder : Trajectory :=
    { steps := [placeholderStep reward done terminationReason], totalReward := reward
      totalSteps := 1 }
  match if raw.isEmpty then none else texts.loads raw with
  | none => (placeholder, "", ∅)
  | some data =>
    let (trajectoryId, metadata) := documentTags texts data
    match trajectoryFromJsonable texts data reward with
    | none => (placeholder, trajectoryId, metadata)
    | some trajectory =>
      if trajectory.steps.isEmpty && trajectoryId.isEmpty && metadata.isEmpty then
        (placeholder, trajectoryId, metadata)
      else (trajectory, trajectoryId, metadata)

/-- `float(x or 0.0)` of a float. -/
def floatOrZero (x : F64) : F64 := if x.isZero then .zero else x

/-- `int(text) if text.isdigit() else None`. -/
def digitsToInt (text : String) : Option Int :=
  if !text.isEmpty && text.toList.all Char.isDigit then
    some (text.toList.foldl (fun n c => 10 * n + (c.toNat - 48)) 0 : Nat)
  else none

/-- `_from_core_result` (clients.py, 357-384). -/
def fromCoreResult (result : SampleResult) : EpisodeResult :=
  let reward := floatOrZero result.reward
  let decoded :=
    decodeCoreTrajectory texts result.trajectoryJson reward result.done result.terminationReason
  { requestId := result.requestId
    status := result.status
    trajectory := decoded.1
    summary :=
      { totalReward := reward, totalSteps := decoded.1.totalSteps
        terminateReason := result.terminationReason }
    errorCode := digitsToInt result.errorCode
    errorMessage := result.errorMessage
    trajectoryId := decoded.2.1
    metadata := decoded.2.2
    -- `_optional_int_field`: 0 is taken for a field that is not set
    rolloutParamVersion :=
      if result.rolloutParamVersion = 0 then none else some result.rolloutParamVersion.toInt
    -- `_optional_string_field`
    rolloutPolicyVersion :=
      if result.rolloutPolicyVersion = "" then none else some result.rolloutPolicyVersion
    rolloutLogProbs := result.rolloutLogProbs }

/-! ### Reading a document back -/

section Documents

variable {texts}

/-- The step that the client reads. -/
def readStep (step : Proto.StepRecord) : StepRecord where
  stepIndex := step.stepIndex.toInt
  observation := step.observation
  action := step.action
  reward := floatOrZero step.reward
  terminated := step.terminated
  truncated := step.truncated
  info := step.info
  durationMs := step.durationMs.toInt
  responseIds := (step.rolloutTrace.map fun trace => trace.responseIds.map Int64.toInt).getD []
  responseMask := (step.rolloutTrace.map fun trace => trace.responseMask.map Int32.toInt).getD []

/-- Bytes that are UTF-8. -/
def IsUtf8 (bytes : List UInt8) : Prop := ByteArray.IsValidUTF8 ⟨bytes.toArray⟩

instance (bytes : List UInt8) : Decidable (IsUtf8 bytes) :=
  inferInstanceAs (Decidable (ByteArray.IsValidUTF8 _))

/-- A step with a finite reward whose observation and action are UTF-8. -/
structure PlainStep (step : Proto.StepRecord) : Prop where
  reward : step.reward.isFinite
  observation : IsUtf8 step.observation
  action : IsUtf8 step.action

variable {n : Int} {x : F64}

theorem asInt_jsonInt (bound : n < 2 ^ 64) : asInt (jsonInt n) = some n := by
  unfold jsonInt
  split
  · next nonneg =>
    have fits := Int.emod_eq_of_lt nonneg bound
    simp [asInt, nonneg]
    omega
  · rfl

theorem orElse_jsonInt (bound : n < 2 ^ 64) : orElse (jsonInt n) (.posInt 0) = jsonInt n := by
  unfold jsonInt orElse
  split
  · next nonneg =>
    by_cases zero : n = 0
    · subst zero
      rfl
    · have : UInt64.ofNat n.toNat ≠ 0 := by
        rw [Ne, ← UInt64.toNat_inj]
        simp
        omega
      simp [truthy, this]
  · next negative =>
    have : n ≠ 0 := by omega
    simp [truthy, this]

theorem asFloat_orElse (finite : x.isFinite) :
    asFloat (orElse (jsonF64 x) (.float 0)) = some (floatOrZero x) := by
  unfold jsonF64 orElse floatOrZero
  rw [if_pos finite]
  change asFloat (if (!x.isZero) = true then _ else _) = _
  by_cases zero : x.isZero
  · rw [if_pos zero, if_neg (by simp [zero])]
    rfl
  · rw [if_neg zero, if_pos (by simp [zero])]
    rfl

theorem floatOrZero_eq (finite : x.isFinite) : (floatOrZero x == x) = true := by
  unfold floatOrZero
  split
  · next zero =>
    change (!F64.zero.isNaN && !x.isNaN && (F64.zero.bits == x.bits || F64.zero.isZero && x.isZero))
      = true
    simp [F64.isNaN_of_isFinite finite, zero, show F64.zero.isNaN = false from rfl,
      show F64.zero.isZero = true from rfl]
  · exact F64.beq_self_iff.mpr (F64.isNaN_of_isFinite finite)

theorem encode_lossy {bytes : List UInt8} (text : IsUtf8 bytes) :
    encode (bytesToLossyString texts bytes) = bytes := by
  have valid : ByteArray.IsValidUTF8 ⟨bytes.toArray⟩ := text
  unfold bytesToLossyString String.fromUTF8?
  rw [dif_pos valid]
  rfl

theorem stringsOr_jsonStrings (other : Json → String) (map : StringMap) :
    stringsOr other (jsonStrings map) = map := by
  unfold jsonStrings stringsOr
  simp only [List.map_map]
  exact (congrArg (Std.ExtTreeMap.ofList · compare) (List.map_id _)).trans (ofList_toList map)

theorem asInt_orElse (bound : n < 2 ^ 64) : asInt (orElse (jsonInt n) (.posInt 0)) = some n := by
  rw [orElse_jsonInt bound, asInt_jsonInt bound]

theorem int64_bound (n : Int64) : n.toInt < 2 ^ 64 := by
  have := n.toInt_lt
  omega

theorem int32_bound (n : Int32) : n.toInt < 2 ^ 64 := by
  have := n.toInt_lt
  omega

theorem filterMap_asInt {α : Type} (f : α → Int) (bound : ∀ a, f a < 2 ^ 64) (items : List α) :
    (items.map fun a => jsonInt (f a)).filterMap asInt = items.map f := by
  induction items with
  | nil => rfl
  | cons a rest ih => simp [asInt_jsonInt (bound a), ih]

theorem responseIds_rolloutTrace (trace : Option RolloutTrace) :
    intListFromJsonable ((rolloutTraceToJson trace).get "response_ids") =
      (trace.map fun trace => trace.responseIds.map Int64.toInt).getD [] := by
  cases trace with
  | none => rfl
  | some trace => exact filterMap_asInt Int64.toInt int64_bound trace.responseIds

theorem responseMask_rolloutTrace (trace : Option RolloutTrace) :
    intListFromJsonable ((rolloutTraceToJson trace).get "response_mask") =
      (trace.map fun trace => trace.responseMask.map Int32.toInt).getD [] := by
  cases trace with
  | none => rfl
  | some trace => exact filterMap_asInt Int32.toInt int32_bound trace.responseMask

theorem get_obj (key : String) (fields : List (String × Json)) :
    (Json.obj fields).get key = fields.lookup key := rfl

theorem stepFromJsonable_toJson {step : Proto.StepRecord} (plain : PlainStep step) (idx : Nat) :
    stepFromJsonable texts idx (stepToJson texts step) = some (readStep step) := by
  simp [stepFromJsonable, stepToJson, getOr, get_obj, List.lookup_cons,
    asInt_orElse (int32_bound _), asInt_orElse (int64_bound _), asFloat_orElse plain.reward,
    bytesFromJsonable,
    encode_lossy plain.observation, encode_lossy plain.action, stringsOr_jsonStrings,
    responseIds_rolloutTrace, responseMask_rolloutTrace, truthy, readStep]

theorem stepsFromJsonable_cons (step : Proto.StepRecord) (rest : List Json) (idx : Nat) :
    stepsFromJsonable texts idx (stepToJson texts step :: rest) = (do
      let step ← stepFromJsonable texts idx (stepToJson texts step)
      let steps ← stepsFromJsonable texts (idx + 1) rest
      return step :: steps) := rfl

theorem stepsFromJsonable_toJson {steps : List Proto.StepRecord}
    (plain : ∀ step ∈ steps, PlainStep step) (idx : Nat) :
    stepsFromJsonable texts idx (steps.map (stepToJson texts)) = some (steps.map readStep) := by
  induction steps generalizing idx with
  | nil => rfl
  | cons step rest ih =>
    have others := ih (fun step' listed => plain step' (by simp [listed])) (idx + 1)
    rw [List.map_cons, stepsFromJsonable_cons, stepFromJsonable_toJson (plain step (by simp)),
      others]
    rfl

@[simp] theorem orElse_str (text : String) : orElse (.str text) (.str "") = .str text := by
  by_cases empty : text.isEmpty
  · simp [orElse, truthy, String.isEmpty_iff.mp empty]
  · simp [orElse, truthy, empty]

@[simp] theorem orElse_arr (items : List Json) : orElse (.arr items) (.arr []) = .arr items := by
  cases items <;> rfl

@[simp] theorem orElse_obj (fields : List (String × Json)) :
    orElse (.obj fields) (.obj []) = .obj fields := by
  cases fields <;> rfl

@[simp] theorem stringOr_str (other : Json → String) (s : String) :
    stringOr other (.str s) = s := rfl

@[simp] theorem orElse_null (value : Json) : orElse .null value = value := rfl

@[simp] theorem orElse_jsonStrings (map : StringMap) :
    orElse (jsonStrings map) (.obj []) = jsonStrings map := orElse_obj _

theorem trajectoryFromJsonable_envelope {steps : List Proto.StepRecord}
    (plain : ∀ step ∈ steps, PlainStep step) {totalReward : F64} (finite : totalReward.isFinite)
    (totalSteps : Int32) (trajectoryId : String) (metadata : StringMap) (reward : F64) :
    trajectoryFromJsonable texts (trajectoryEnvelope (steps.map (stepToJson texts)) totalReward
        totalSteps trajectoryId metadata) reward =
      some {
        steps := steps.map readStep
        totalReward := floatOrZero totalReward
        totalSteps := if totalSteps.toInt = 0 then steps.length else totalSteps.toInt } := by
  unfold trajectoryEnvelope trajectoryFromJsonable
  by_cases unnamed : trajectoryId.isEmpty <;> by_cases bare : metadata.isEmpty <;>
    simp [unnamed, bare, getOr, get_obj, List.lookup_cons, enumerated, asFloat_orElse finite,
      asInt_orElse (int32_bound _), stepsFromJsonable_toJson plain]

theorem documentTags_envelope (steps : List Json) (totalReward : F64) (totalSteps : Int32)
    (trajectoryId : String) (metadata : StringMap) :
    documentTags texts (trajectoryEnvelope steps totalReward totalSteps trajectoryId metadata) =
      (trajectoryId, metadata) := by
  have name : trajectoryId.isEmpty → trajectoryId = "" := String.isEmpty_iff.mp
  have tags : metadata.isEmpty → stringsOr texts.str (.obj []) = metadata :=
    fun bare => (Std.ExtTreeMap.isEmpty_iff.mp bare).symm
  have tagged := stringsOr_jsonStrings texts.str metadata
  unfold trajectoryEnvelope documentTags
  by_cases unnamed : trajectoryId.isEmpty <;> by_cases bare : metadata.isEmpty <;>
    simp [unnamed, bare, getOr, get_obj, List.lookup_cons, List.lookup_nil, tagged]
  · exact ⟨name unnamed, tags bare⟩
  · exact name unnamed
  · exact tags bare

/-- `json.loads` gives the document back that `to_vec` wrote. -/
structure Reads (texts : Texts) (document : Json) : Prop where
  written : texts.toVec document ≠ []
  read : texts.loads (texts.toVec document) = some document

/-- The steps of a result. -/
def stepsOf (result : Proto.EpisodeResult) : List Proto.StepRecord :=
  (result.trajectory.map Proto.Trajectory.steps).getD []

/-- The finite numbers and the UTF-8 of a result. -/
structure PlainResult (result : Proto.EpisodeResult) : Prop where
  steps : ∀ step ∈ stepsOf result, PlainStep step
  summary : ∀ summary ∈ result.summary, summary.totalReward.isFinite
  trajectory : ∀ trajectory ∈ result.trajectory, trajectory.totalReward.isFinite

/-- The result has something that makes the client keep its trajectory. -/
def HasTrace (result : Proto.EpisodeResult) : Prop :=
  stepsOf result ≠ [] ∨ Service.trim result.trajectoryId ≠ "" ∨ result.metadata ≠ ∅

theorem trajectoryDocument_spec {result : Proto.EpisodeResult} {document : Json}
    (plain : PlainResult result) (made : trajectoryDocument texts result = some document)
    (reward : F64) :
    documentTags texts document = (Service.trim result.trajectoryId, result.metadata) ∧
      ∃ trajectory, trajectoryFromJsonable texts document reward = some trajectory ∧
        trajectory.steps = (stepsOf result).map readStep := by
  unfold trajectoryDocument at made
  cases traced : result.trajectory with
  | some trajectory =>
    simp only [traced, Option.some.injEq] at made
    have same : stepsOf result = trajectory.steps := by simp [stepsOf, traced]
    subst made
    refine ⟨documentTags_envelope .., _, trajectoryFromJsonable_envelope (same ▸ plain.steps)
      (plain.trajectory _ traced) .., ?_⟩
    rw [same]
  | none =>
    simp only [traced] at made
    split at made
    · cases made
    · cases made
      have finite : (result.summary.getD {}).totalReward.isFinite := by
        cases summed : result.summary with
        | none => rfl
        | some => exact plain.summary _ summed
      have noSteps : ∀ step ∈ ([] : List Proto.StepRecord), PlainStep step := by simp
      refine ⟨documentTags_envelope .., _, trajectoryFromJsonable_envelope noSteps finite .., ?_⟩
      simp [stepsOf, traced]

theorem trajectoryDocument_eq_none {result : Proto.EpisodeResult}
    (none : trajectoryDocument texts result = none) :
    stepsOf result = [] ∧ Service.trim result.trajectoryId = "" ∧ result.metadata = ∅ := by
  unfold trajectoryDocument at none
  cases traced : result.trajectory with
  | some => simp [traced] at none
  | none =>
    simp only [traced, ite_eq_left_iff, reduceCtorEq, imp_false, not_not, Bool.and_eq_true,
      String.isEmpty_iff, Std.ExtTreeMap.isEmpty_iff] at none
    exact ⟨by simp [stepsOf, traced], none⟩

/-- The client keeps the steps of a result with a trace and makes one up for a result without. -/
theorem decodeCoreTrajectory_spec {result : Proto.EpisodeResult} (plain : PlainResult result)
    (reads : ∀ document ∈ trajectoryDocument texts result, Reads texts document) (reward : F64)
    (done : Bool) (terminationReason : String) :
    ∃ trajectory,
      decodeCoreTrajectory texts (buildTrajectoryJson texts result) reward done terminationReason =
        (trajectory, Service.trim result.trajectoryId, result.metadata) ∧
      (HasTrace result → trajectory.steps = (stepsOf result).map readStep) ∧
      (¬HasTrace result → trajectory.steps = [placeholderStep reward done terminationReason]) := by
  unfold buildTrajectoryJson decodeCoreTrajectory
  cases made : trajectoryDocument texts result with
  | none =>
    obtain ⟨noSteps, noName, noTags⟩ := trajectoryDocument_eq_none made
    refine ⟨_, by rw [noName, noTags]; rfl, fun traced => ?_, fun _ => rfl⟩
    simp [HasTrace, noSteps, noName, noTags] at traced
  | some =>
    obtain ⟨tags, trajectory, read, steps⟩ := trajectoryDocument_spec plain made reward
    have reads := reads _ made
    have traceless : (trajectory.steps.isEmpty && (Service.trim result.trajectoryId).isEmpty &&
        result.metadata.isEmpty) = true ↔ ¬HasTrace result := by
      simp [HasTrace, steps, List.isEmpty_iff, String.isEmpty_iff, Std.ExtTreeMap.isEmpty_iff,
        and_assoc]
    simp only [List.isEmpty_iff, if_neg reads.written, reads.read, tags, read]
    by_cases traced : HasTrace result
    · rw [if_neg (fun empty => traceless.mp empty traced)]
      exact ⟨_, rfl, fun _ => steps, fun traceless => absurd traced traceless⟩
    · rw [if_pos (traceless.mpr traced)]
      exact ⟨_, rfl, fun trace => absurd trace traced, fun _ => rfl⟩

/-- The step that the client reads is the step of the result; floats are compared as numbers. -/
structure SameStep (step : Proto.StepRecord) (read : StepRecord) : Prop where
  stepIndex : read.stepIndex = step.stepIndex.toInt
  observation : read.observation = step.observation
  action : read.action = step.action
  reward : (read.reward == step.reward) = true
  terminated : read.terminated = step.terminated
  truncated : read.truncated = step.truncated
  info : read.info = step.info
  durationMs : read.durationMs = step.durationMs.toInt
  responseIds : read.responseIds =
    (step.rolloutTrace.map fun trace => trace.responseIds.map Int64.toInt).getD []
  responseMask : read.responseMask =
    (step.rolloutTrace.map fun trace => trace.responseMask.map Int32.toInt).getD []

/-- The client has the result that the service returned. -/
structure GivesBack (result : Proto.EpisodeResult) (read : EpisodeResult) : Prop where
  status : read.status = result.status
  totalReward : (read.summary.totalReward == (result.summary.getD {}).totalReward) = true
  steps : List.Forall₂ SameStep (stepsOf result) read.trajectory.steps
  trajectoryId : read.trajectoryId = result.trajectoryId
  metadata : read.metadata = result.metadata
  rolloutLogProbs : read.rolloutLogProbs = result.rolloutLogProbs
  rolloutPolicyVersion : read.rolloutPolicyVersion = result.rolloutPolicyVersion
  rolloutParamVersion : read.rolloutParamVersion = result.rolloutParamVersion.map Int64.toInt

/-- A result that the bridge does not change: no field that is set has the value of one that is not
set, the id has no white space around it, and there is something to keep a trajectory for. -/
structure Survives (result : Proto.EpisodeResult) : Prop where
  rolloutParamVersion : result.rolloutParamVersion ≠ some 0
  rolloutPolicyVersion : result.rolloutPolicyVersion ≠ some ""
  trajectoryId : Service.trim result.trajectoryId = result.trajectoryId
  trace : stepsOf result ≠ [] ∨ result.trajectoryId ≠ "" ∨ result.metadata ≠ ∅

theorem sameStep_readStep {step : Proto.StepRecord} (plain : PlainStep step) :
    SameStep step (readStep step) where
  stepIndex := rfl
  observation := rfl
  action := rfl
  reward := floatOrZero_eq plain.reward
  terminated := rfl
  truncated := rfl
  info := rfl
  durationMs := rfl
  responseIds := rfl
  responseMask := rfl

theorem sameSteps {steps : List Proto.StepRecord} (plain : ∀ step ∈ steps, PlainStep step) :
    List.Forall₂ SameStep steps (steps.map readStep) := by
  induction steps with
  | nil => exact .nil
  | cons step rest ih =>
    exact .cons (sameStep_readStep (plain step (by simp)))
      (ih fun step' listed => plain step' (by simp [listed]))

theorem paramVersion_iff (version : Option Int64) :
    (if version.getD 0 = 0 then none else some (version.getD 0).toInt) = version.map Int64.toInt ↔
      version ≠ some 0 := by
  cases version with
  | none => simp
  | some version =>
    by_cases zero : version = 0 <;> simp [zero]

theorem policyVersion_iff (version : Option String) :
    (if version.getD "" = "" then none else some (version.getD "")) = version ↔
      version ≠ some "" := by
  cases version with
  | none => simp
  | some version =>
    by_cases empty : version = "" <;> simp [empty]

theorem givesBack_iff {result : Proto.EpisodeResult} (plain : PlainResult result)
    (reads : ∀ document ∈ trajectoryDocument texts result, Reads texts document)
    (context : SampleContext) :
    GivesBack result (fromCoreResult texts (sampleResult texts context result)) ↔
      Survives result := by
  obtain ⟨trajectory, decoded, kept, madeUp⟩ := decodeCoreTrajectory_spec plain reads
    (floatOrZero (result.summary.getD {}).totalReward)
    (sampleResult texts context result).done (result.summary.getD {}).terminateReason
  have finite : (result.summary.getD {}).totalReward.isFinite := by
    cases summed : result.summary with
    | none => rfl
    | some => exact plain.summary _ summed
  have trajectoryRead : (fromCoreResult texts (sampleResult texts context result)).trajectory =
      trajectory := congrArg Prod.fst decoded
  have idRead : (fromCoreResult texts (sampleResult texts context result)).trajectoryId =
      Service.trim result.trajectoryId := congrArg (fun tags => tags.2.1) decoded
  have metadataRead : (fromCoreResult texts (sampleResult texts context result)).metadata =
      result.metadata := congrArg (fun tags => tags.2.2) decoded
  constructor
  · intro back
    have id : Service.trim result.trajectoryId = result.trajectoryId :=
      idRead.symm.trans back.trajectoryId
    refine ⟨(paramVersion_iff _).mp back.rolloutParamVersion,
      (policyVersion_iff _).mp back.rolloutPolicyVersion, id, ?_⟩
    by_contra traceless
    rw [← id] at traceless
    have steps := back.steps
    rw [trajectoryRead, madeUp traceless, not_not.mp (not_or.mp traceless).1] at steps
    cases steps
  · intro survives
    have traced : HasTrace result := by
      unfold HasTrace
      rw [survives.trajectoryId]
      exact survives.trace
    exact {
      status := rfl
      totalReward := floatOrZero_eq finite
      steps := by
        rw [trajectoryRead, kept traced]
        exact sameSteps plain.steps
      trajectoryId := idRead.trans survives.trajectoryId
      metadata := metadataRead
      rolloutLogProbs := rfl
      rolloutPolicyVersion := (policyVersion_iff _).mpr survives.rolloutPolicyVersion
      rolloutParamVersion := (paramVersion_iff _).mpr survives.rolloutParamVersion }

end Documents

end Client

/-! ### Batches -/

section Batches

variable {texts}

/-- Exactly one result for each sample. -/
def OnePerSample (samples : List SampleEnvelope) (results : List Proto.EpisodeResult) : Prop :=
  (results.map Proto.EpisodeResult.episodeId).Perm (samples.map SampleEnvelope.requestId)

/-- The context of a sample. -/
def SampleEnvelope.context (sample : SampleEnvelope) : SampleContext :=
  ⟨sample.batchId, sample.sampleIndex⟩

theorem validateSamples_ok {seen : List String} {samples : List SampleEnvelope}
    (valid : validateSamples seen samples = .ok ()) :
    (∀ sample ∈ samples, sample.requestId ∉ seen) ∧
      (samples.map SampleEnvelope.requestId).Nodup := by
  induction samples generalizing seen with
  | nil => simp
  | cons sample rest ih =>
    simp only [validateSamples] at valid
    split at valid
    · cases valid
    split at valid
    · cases valid
    split at valid
    · cases valid
    split at valid
    · cases valid
    rename_i fresh _ _
    obtain ⟨unseen, distinct⟩ := ih valid
    refine ⟨?_, ?_⟩
    · intro sample' listed
      rcases List.mem_cons.mp listed with rfl | listed
      · exact fresh
      · exact fun old => unseen sample' listed (List.mem_cons_of_mem _ old)
    · refine List.nodup_cons.mpr ⟨?_, distinct⟩
      intro again
      obtain ⟨sample', listed, same⟩ := List.mem_map.mp again
      exact unseen sample' listed (by simp [same])

theorem mem_sampleContext {samples : List SampleEnvelope} {id : String} :
    id ∈ sampleContextByRequestId samples ↔ id ∈ samples.map SampleEnvelope.requestId := by
  simp [sampleContextByRequestId, Function.comp_def]

section Distinct

variable {samples : List SampleEnvelope}
  (distinct : (samples.map SampleEnvelope.requestId).Nodup)

include distinct

theorem sampleContext_lookup {sample : SampleEnvelope} (listed : sample ∈ samples) :
    (sampleContextByRequestId samples)[sample.requestId]? = some sample.context := by
  apply lookup_ofList
  · simpa [Function.comp_def] using distinct
  · exact List.mem_map.mpr ⟨sample, listed, rfl⟩

theorem size_sampleContext : (sampleContextByRequestId samples).size = samples.length := by
  unfold sampleContextByRequestId
  rw [size_ofList (by simpa [Function.comp_def] using distinct), List.length_map]

omit distinct in
theorem validateResultIds_iff {context : Map String SampleContext} {seen : List String}
    {results : List Proto.EpisodeResult} :
    validateResultIds context seen results = .ok () ↔
      (∀ result ∈ results, result.episodeId ∈ context ∧ result.episodeId ∉ seen) ∧
        (results.map Proto.EpisodeResult.episodeId).Nodup := by
  induction results generalizing seen with
  | nil => simp [validateResultIds]
  | cons result rest ih =>
    simp only [validateResultIds]
    split
    · next unknown => simp [unknown]
    · next known =>
      split
      · next again => simp [again]
      · next fresh =>
        rw [ih]
        simp only [List.mem_cons, List.map_cons, List.nodup_cons, List.mem_map, not_or]
        constructor
        · rintro ⟨others, distinct⟩
          refine ⟨?_, ?_, distinct⟩
          · rintro result' (rfl | listed)
            · exact ⟨not_not.mp known, fresh⟩
            · exact ⟨(others result' listed).1, (others result' listed).2.2⟩
          · rintro ⟨result', listed, same⟩
            exact (others result' listed).2.1 same
        · rintro ⟨all, new, distinct⟩
          refine ⟨fun result' listed => ⟨(all result' (Or.inr listed)).1, ?_, ?_⟩, distinct⟩
          · exact fun same => new ⟨result', listed, same⟩
          · exact (all result' (Or.inr listed)).2

theorem validateEpisodeResults_iff {results : List Proto.EpisodeResult} :
    validateEpisodeResults results (sampleContextByRequestId samples) = .ok () ↔
      OnePerSample samples results := by
  unfold validateEpisodeResults OnePerSample
  rw [size_sampleContext distinct]
  split
  · next other =>
    constructor
    · intro ok
      cases ok
    · intro permuted
      exact absurd (by simpa using permuted.length_eq) other
  · next same =>
    simp only [validateResultIds_iff, mem_sampleContext, List.not_mem_nil, not_false_eq_true,
      and_true]
    constructor
    · rintro ⟨known, once⟩
      refine (List.subperm_of_subset once ?_).perm_of_length_le ?_
      · rintro id present
        obtain ⟨result, listed, rfl⟩ := List.mem_map.mp present
        exact known result listed
      · simp [not_not.mp same]
    · intro permuted
      refine ⟨fun result listed => ?_, permuted.nodup_iff.mpr distinct⟩
      exact permuted.mem_iff.mp (List.mem_map_of_mem listed)

/-- The sample result that the core makes for the sample of a result. -/
def Attached (texts : Texts) (samples : List SampleEnvelope) (result : Proto.EpisodeResult)
    (read : SampleResult) : Prop :=
  ∃ sample ∈ samples, sample.requestId = result.episodeId ∧
    read = sampleResult texts sample.context result

theorem mapM_sampleResult {results : List Proto.EpisodeResult}
    (known : ∀ result ∈ results, result.episodeId ∈ samples.map SampleEnvelope.requestId) :
    ∃ served, results.mapM (episodeResultToSampleResult texts (sampleContextByRequestId samples)) =
        .ok served ∧ List.Forall₂ (Attached texts samples) results served := by
  induction results with
  | nil => exact ⟨[], rfl, .nil⟩
  | cons result rest ih =>
    obtain ⟨served, ran, read⟩ := ih fun result' listed => known result' (by simp [listed])
    obtain ⟨sample, listed, same⟩ := List.mem_map.mp (known result (by simp))
    refine ⟨sampleResult texts sample.context result :: served, ?_,
      .cons ⟨sample, listed, same, rfl⟩ read⟩
    have first : episodeResultToSampleResult texts (sampleContextByRequestId samples) result =
        .ok (sampleResult texts sample.context result) := by
      unfold episodeResultToSampleResult
      rw [← same, sampleContext_lookup distinct listed]
    rw [List.mapM_cons, first, ok_bind, ran]
    rfl

end Distinct

/-- What the client makes of a sample result is the result of the episode, which is attached to the
batch and to the index of its own sample. -/
structure Delivered (texts : Texts) (samples : List SampleEnvelope) (result : Proto.EpisodeResult)
    (read : SampleResult) : Prop where
  sample : ∃ sample ∈ samples, sample.requestId = result.episodeId ∧
    read.batchId = sample.batchId ∧ read.sampleIndex = sample.sampleIndex
  requestId : read.requestId = result.episodeId
  givesBack : Client.GivesBack result (Client.fromCoreResult texts read)

/-- The results of a batch of which the client can read what the service returned. -/
structure Readable (texts : Texts) (results : List Proto.EpisodeResult) : Prop where
  plain : ∀ result ∈ results, Client.PlainResult result
  reads : ∀ result ∈ results, ∀ document ∈ trajectoryDocument texts result,
    Client.Reads texts document

theorem delivered_iff {samples : List SampleEnvelope} {results : List Proto.EpisodeResult}
    {served : List SampleResult} (readable : Readable texts results)
    (read : List.Forall₂ (Attached texts samples) results served) :
    List.Forall₂ (Delivered texts samples) results served ↔
      ∀ result ∈ results, Client.Survives result := by
  induction read with
  | nil => simp
  | @cons result read rest served first _ ih =>
    obtain ⟨sample, listed, same, rfl⟩ := first
    have back := Client.givesBack_iff (readable.plain result (by simp))
      (readable.reads result (by simp)) sample.context
    have others := ih ⟨fun result' listed => readable.plain result' (by simp [listed]),
      fun result' listed => readable.reads result' (by simp [listed])⟩
    rw [List.forall₂_cons, others, List.forall_mem_cons]
    apply and_congr_left
    intro _
    constructor
    · intro delivered
      exact back.mp delivered.givesBack
    · intro survives
      exact ⟨⟨sample, listed, same, rfl, rfl⟩, rfl, back.mpr survives⟩

variable {submitEpisodeBatch : SubmitEpisodeBatch}
  {request : ExecuteBatchRequest} {results : List Proto.EpisodeResult}

theorem distinct_of_answered
    (answered : submitBatch texts submitEpisodeBatch request = .ok results) :
    (request.samples.map SampleEnvelope.requestId).Nodup := by
  obtain ⟨_, valid, _⟩ := bind_eq_ok.mp answered
  exact (validateSamples_ok valid).2

/-- A batch with exactly one result for each sample is answered, any other is refused. -/
theorem executeBatch_cases (answered : submitBatch texts submitEpisodeBatch request = .ok results) :
    (OnePerSample request.samples results ∧ ∃ response,
      executeBatch texts submitEpisodeBatch request = .ok response ∧
      List.Forall₂ (Attached texts request.samples) results response.results) ∨
    (¬OnePerSample request.samples results ∧
      ∃ e, executeBatch texts submitEpisodeBatch request = .error e) := by
  have distinct := distinct_of_answered answered
  have once : validateEpisodeResults results (sampleContextByRequestId request.samples) = .ok () ↔
      OnePerSample request.samples results := validateEpisodeResults_iff distinct
  simp only [executeBatch, answered, ok_bind]
  cases valid : validateEpisodeResults results (sampleContextByRequestId request.samples) with
  | error e =>
    refine Or.inr ⟨fun permuted => ?_, e, rfl⟩
    rw [once.mpr permuted] at valid
    cases valid
  | ok _ =>
    have permuted := once.mp valid
    have known : ∀ result ∈ results,
        result.episodeId ∈ request.samples.map SampleEnvelope.requestId :=
      fun result listed => permuted.mem_iff.mp (List.mem_map_of_mem listed)
    obtain ⟨served, ran, read⟩ := mapM_sampleResult distinct known
    refine Or.inl ⟨permuted, ⟨request.requestId, request.batchId, served⟩, ?_, read⟩
    rw [ok_bind, ran]
    rfl

/-- The bridge keeps its promise on the answer of the service: one result for each sample is
delivered, and anything else is refused. -/
def Delivers (texts : Texts)
    (submitEpisodeBatch : SubmitEpisodeBatch)
    (request : ExecuteBatchRequest) (results : List Proto.EpisodeResult) : Prop :=
  (OnePerSample request.samples results → ∃ response,
    executeBatch texts submitEpisodeBatch request = .ok response ∧
    List.Forall₂ (Delivered texts request.samples) results response.results) ∧
  (¬OnePerSample request.samples results →
    ∃ e, executeBatch texts submitEpisodeBatch request = .error e)

theorem delivers_of_onePerSample
    (answered : submitBatch texts submitEpisodeBatch request = .ok results)
    (readable : Readable texts results) (once : OnePerSample request.samples results) :
    Delivers texts submitEpisodeBatch request results ↔
      ∀ result ∈ results, Client.Survives result := by
  obtain ⟨_, response, ran, read⟩ | ⟨several, _⟩ := executeBatch_cases answered
  · constructor
    · rintro ⟨delivers, _⟩
      obtain ⟨response', ran', delivered⟩ := delivers once
      obtain rfl := Except.ok.inj (ran.symm.trans ran')
      exact (delivered_iff readable read).mp delivered
    · intro survives
      exact ⟨fun _ => ⟨response, ran, (delivered_iff readable read).mpr survives⟩,
        fun several => absurd once several⟩
  · exact absurd once several

/-- The bridge delivers a batch of results exactly if none of them loses a field on the way. -/
theorem delivers_iff (answered : submitBatch texts submitEpisodeBatch request = .ok results)
    (readable : Readable texts results) :
    Delivers texts submitEpisodeBatch request results ↔
      (OnePerSample request.samples results → ∀ result ∈ results, Client.Survives result) := by
  by_cases once : OnePerSample request.samples results
  · rw [delivers_of_onePerSample answered readable once]
    exact ⟨fun survives _ => survives, fun survives => survives once⟩
  · obtain ⟨single, _⟩ | ⟨_, refused⟩ := executeBatch_cases answered
    · exact absurd single once
    · exact ⟨fun _ single => absurd single once,
        fun _ => ⟨fun single => absurd single once, fun _ => refused⟩⟩

/-! ### One rollout -/

/-- 0.75. -/
def threeQuarters : F64 := ⟨0x3FE8000000000000⟩

def rolloutStep : Proto.StepRecord where
  action := [52, 50]
  reward := threeQuarters
  terminated := true
  rolloutTrace := some ⟨[101, 102], [1, 1]⟩

def rolloutResult (version : Int64) : Proto.EpisodeResult where
  episodeId := "episode-1"
  status := "completed"
  trajectory := some { steps := [rolloutStep], totalReward := threeQuarters, totalSteps := 1 }
  summary := some { totalReward := threeQuarters, totalSteps := 1, terminateReason := "done" }
  rolloutParamVersion := some version
  rolloutPolicyVersion := some "actor"

def rolloutBatch : ExecuteBatchRequest where
  requestId := "request-1"
  batchId := "batch-1"
  samples := [{ requestId := "episode-1", batchId := "batch-1", sampleIndex := 0
                framework := "verl" }]

/-- What `serde_json` writes for the trajectory of the rollout. -/
def rolloutText : List UInt8 := Client.encode
  ("\x7b\"steps\":[\x7b\"action\":\"42\",\"duration_ms\":0,\"info\":\x7b\x7d," ++
    "\"observation\":\"\",\"reward\":0.75,\"rollout_trace\":\x7b\"response_ids\":[101,102]," ++
    "\"response_mask\":[1,1]\x7d,\"step_index\":0,\"terminated\":true,\"truncated\":false\x7d]," ++
    "\"total_reward\":0.75,\"total_steps\":1\x7d")

def rolloutDocument : Json := .obj [
  ("steps", .arr [.obj [("action", .str "42"), ("duration_ms", .posInt 0), ("info", .obj []),
    ("observation", .str ""), ("reward", .float threeQuarters.bits),
    ("rollout_trace", .obj [("response_ids", .arr [.posInt 101, .posInt 102]),
      ("response_mask", .arr [.posInt 1, .posInt 1])]),
    ("step_index", .posInt 0), ("terminated", .bool true), ("truncated", .bool false)]]),
  ("total_reward", .float threeQuarters.bits), ("total_steps", .posInt 1)]

/-- The libraries on the rollout: they write its document and read it back. -/
def rolloutTexts : Texts where
  toVec _ := rolloutText
  fromSlice _ := none
  loads bytes := if bytes = rolloutText then some rolloutDocument else none
  dumps _ := ""
  str _ := ""
  replaced _ := ""
  workerConfig _ := ([], [])

theorem rollout_answered (version : Int64) :
    submitBatch rolloutTexts (fun _ => .ok [rolloutResult version]) rolloutBatch =
      .ok [rolloutResult version] := by
  rfl

theorem rollout_document (version : Int64) :
    trajectoryDocument rolloutTexts (rolloutResult version) = some rolloutDocument := by
  have action : bytesToLossyString rolloutTexts [52, 50] = "42" := by decide
  have observation : bytesToLossyString rolloutTexts [] = "" := by decide
  have bare : trajectoryDocument rolloutTexts (rolloutResult version) =
      some (.obj [("steps", .arr [stepToJson rolloutTexts rolloutStep]),
        ("total_reward", .float threeQuarters.bits), ("total_steps", .posInt 1)]) := by
    rfl
  rw [bare, stepToJson]
  simp only [rolloutStep, action, observation]
  rfl

theorem rollout_readable (version : Int64) : Readable rolloutTexts [rolloutResult version] where
  plain := by
    intro result listed
    obtain rfl := List.mem_singleton.mp listed
    refine ⟨?_, ?_, ?_⟩
    · intro step listed
      obtain rfl : step = rolloutStep := List.mem_singleton.mp listed
      exact ⟨by decide, by decide, by decide⟩
    · rintro _ ⟨⟩
      decide
    · rintro _ ⟨⟩
      decide
  reads := by
    intro result listed document made
    obtain rfl := List.mem_singleton.mp listed
    obtain rfl : rolloutDocument = document :=
      Option.some.inj ((rollout_document version).symm.trans made)
    have written : rolloutText ≠ [] := by decide
    refine ⟨written, ?_⟩
    simp [rolloutTexts]

theorem rollout_once (version : Int64) :
    OnePerSample rolloutBatch.samples [rolloutResult version] := List.Perm.refl _

theorem delivers_iff_rollout :
    Delivers rolloutTexts (fun _ => .ok [rolloutResult 11]) rolloutBatch [rolloutResult 11] := by
  refine (delivers_iff (rollout_answered 11) (rollout_readable 11)).mpr fun _ => ?_
  intro result listed
  obtain rfl := List.mem_singleton.mp listed
  exact ⟨by decide, by decide, by decide, Or.inl (List.cons_ne_nil _ _)⟩

/-- A rollout of the initial policy arrives without its version. -/
theorem initial_policy_lost :
    submitBatch rolloutTexts (fun _ => .ok [rolloutResult 0]) rolloutBatch = .ok [rolloutResult 0] ∧
      Readable rolloutTexts [rolloutResult 0] ∧
      (∀ context, (Client.fromCoreResult rolloutTexts
        (sampleResult rolloutTexts context (rolloutResult 0))).rolloutParamVersion = none) ∧
      ¬Delivers rolloutTexts (fun _ => .ok [rolloutResult 0]) rolloutBatch [rolloutResult 0] := by
  refine ⟨rollout_answered 0, rollout_readable 0, fun _ => rfl, fun delivers => ?_⟩
  have survives := (delivers_of_onePerSample (rollout_answered 0) (rollout_readable 0)
    (rollout_once 0)).mp delivers
  exact (survives _ (List.mem_singleton.mpr rfl)).rolloutParamVersion rfl

end Batches

end Bridge

end UEnv
