import UEnv.Bridge.Results

/-!
# Streamed submission

`_submit_episode_streaming` of `clients.py`: the requests go out as one stream of samples, results
are yielded as they arrive, and after a transport error the requests without a result go out again.
The transport is the sequence of its streams, one for each attempt.
-/

namespace UEnv.Bridge.Client

open Fallible Obs Proto Tables

/-! ### Requests -/

/-- What the client reads of the `EpisodeRequest` of `protocol.py`. -/
structure EpisodeRequest where
  requestId : String
  envType : String
  payload : List UInt8
  modelEndpoint : String := ""
  parallelMode : String := "sync"
  deriving DecidableEq

/-- `_PROTOCOL_METADATA_KEYS`. -/
def protocolMetadataKeys : List String :=
  ["parallel_mode", "timeout_seconds", "correlation_id", "model_endpoint", "env_package_id",
    "env_package_version", "rollout_param_version", "rollout_policy_version", "rollout_log_probs",
    "response_ids", "response_mask", "enqueue_ts", "dispatch_ts", "result_ready_ts",
    "worker_start_ts", "worker_finish_ts", "server_latency_ms", "worker_latency_ms",
    "model_latency_ms", "dispatch_lease_id", "lease_expire_at", "scheduler_epoch",
    "dispatch_token", "scheduling_priority"]

/-- The built-in functions of Python that read a request's payload: those of the core, and `int`,
which is `none` where it raises. -/
structure Builtins extends Texts where
  int : Json → Option Int

/-- `_dict_field` (clients.py, 466-468). -/
def dictField (value : Json) (name : String) : Json :=
  match value.get name with
  | some (.obj fields) => .obj fields
  | _ => .obj []

/-- A protobuf field of 32 bits without sign; `none` is a `ValueError`. -/
def asUInt32 (n : Int) : Option UInt32 :=
  if 0 ≤ n ∧ n < 2 ^ 32 then some (UInt32.ofNat n.toNat) else none

def asInt32 (n : Int) : Option Int32 :=
  if -2 ^ 31 ≤ n ∧ n < 2 ^ 31 then some (Int32.ofInt n) else none

section Conversion

variable (py : Builtins)

/-- `_payload_json` (clients.py, 488-493). -/
def payloadJson (request : EpisodeRequest) : Json :=
  match py.loads request.payload with
  | some (.obj fields) => .obj fields
  | _ => .obj []

/-- `_json_bytes` (clients.py, 525-526). -/
def jsonBytes (value : Json) : List UInt8 := encode (py.dumps value)

/-- `str(value.get(name) or default)`. -/
def strField (value : Json) (name default : String) : String :=
  stringOr py.str (orElse (getOr value name .null) (.str default))

/-- `_sample_context` (clients.py, 470-475). -/
def sampleContext : Json → Json
  | .obj fields => .obj (fields.filter fun field => field.1 ∉ protocolMetadataKeys)
  | _ => .obj []

/-- `int(metadata.get("sample_index", idx))`. -/
def sampleIndexOf (metadata : Json) (idx : Nat) : Option UInt32 :=
  match metadata.get "sample_index" with
  | some value => py.int value >>= asUInt32
  | none => some (UInt32.ofNat idx)

/-- The sample of a request; `none` is an exception. -/
def toCoreSample (batchId : String) (idx : Nat) (request : EpisodeRequest) :
    Option SampleEnvelope := do
  let payload := payloadJson py request
  let metadata := dictField payload "metadata"
  let envConfig := dictField payload "env_config"
  let modelEndpoint := dictField payload "model_endpoint"
  let sampleIndex ← sampleIndexOf py metadata idx
  let maxRetries ←
    py.int (orElse (getOr modelEndpoint "max_retries" .null) (.posInt 0)) >>= asInt32
  let timeoutSeconds ←
    py.int (orElse (getOr payload "timeout_seconds" .null) (.posInt 0)) >>= asInt32
  return {
    requestId := request.requestId
    batchId := stringOr py.str (orElse (getOr metadata "batch_id" .null) (.str batchId))
    sampleIndex
    framework := strField py payload "framework" "verl"
    envType := request.envType
    parallelMode := request.parallelMode
    envConfigJson := jsonBytes py envConfig
    episodeConfigJson := jsonBytes py (dictField payload "episode_config")
    rewardConfigJson := jsonBytes py (dictField payload "reward_config")
    modelEndpoint := some {
      endpointType := strField py modelEndpoint "endpoint_type" "http"
      url := if request.modelEndpoint.isEmpty then strField py modelEndpoint "url" ""
        else request.modelEndpoint
      modelName := strField py modelEndpoint "model_name" ""
      generationConfigJson := jsonBytes py (dictField modelEndpoint "generation_config")
      maxRetries }
    timeoutSeconds
    correlationId := strField py payload "correlation_id" ""
    sampleContextJson := jsonBytes py (sampleContext metadata)
    envPackageId := stringOr py.str <| orElse (getOr envConfig "env_package_id" .null) <|
      orElse (getOr envConfig "package_id" .null) (.str "")
    envPackageVersion := stringOr py.str <|
      orElse (getOr envConfig "env_package_version" .null) <|
        orElse (getOr envConfig "package_version" .null) (.str "") }

/-- The samples from an index on, with the batch id of the first request that has one. -/
def toCoreSamples (batchId : String) (idx : Nat) :
    List EpisodeRequest → Option (List SampleEnvelope × String)
  | [] => some ([], batchId)
  | request :: rest => do
    let own := strField py (dictField (payloadJson py request) "metadata") "batch_id" ""
    let batchId := if batchId.isEmpty then own else batchId
    let sample ← toCoreSample py batchId idx request
    let (samples, batchId) ← toCoreSamples batchId (idx + 1) rest
    return (sample :: samples, batchId)

/-- `_to_core_execute_batch_request` (clients.py, 305-355). -/
def toCoreExecuteBatchRequest (requests : List EpisodeRequest) : Option ExecuteBatchRequest := do
  let (samples, batchId) ← toCoreSamples py "" 0 requests
  return {
    requestId := "core-batch-" ++ (if batchId.isEmpty then "unknown" else batchId)
    batchId
    samples }

/-- The numbers of the payload are numbers, and in range. -/
def Converts (request : EpisodeRequest) : Prop := (toCoreSample py "" 0 request).isSome

instance (request : EpisodeRequest) : Decidable (Converts py request) :=
  inferInstanceAs (Decidable (_ = true))

variable {py}

theorem toCoreSample_isSome (batchId : String) (idx : Nat) (request : EpisodeRequest) :
    (toCoreSample py batchId idx request).isSome ↔ Converts py request := by
  have index : (sampleIndexOf py (dictField (payloadJson py request) "metadata") idx).isSome =
      (sampleIndexOf py (dictField (payloadJson py request) "metadata") 0).isSome := by
    unfold sampleIndexOf
    cases (dictField (payloadJson py request) "metadata").get "sample_index" <;> rfl
  simp only [Converts, toCoreSample, Option.bind_eq_bind, Option.pure_def]
  cases own : sampleIndexOf py _ idx <;> cases first : sampleIndexOf py _ 0 <;>
    simp only [own, first, Option.isSome_some, Option.isSome_none, reduceCtorEq] at index ⊢
  · rfl
  · simp only [Option.bind_some, Option.isSome_bind, Option.isSome_some]

variable {batchId : String} {idx : Nat}

theorem requestId_toCoreSample {request : EpisodeRequest} {sample : SampleEnvelope}
    (converted : toCoreSample py batchId idx request = some sample) :
    sample.requestId = request.requestId := by
  simp only [toCoreSample, Option.bind_eq_bind, Option.bind_eq_some_iff] at converted
  obtain ⟨_, -, _, -, _, -, eq⟩ := converted
  cases eq
  rfl

theorem toCoreSamples_isSome (batchId : String) (idx : Nat) (requests : List EpisodeRequest) :
    (toCoreSamples py batchId idx requests).isSome ↔ ∀ request ∈ requests, Converts py request := by
  induction requests generalizing batchId idx with
  | nil => simp [toCoreSamples]
  | cons request rest ih =>
    rw [toCoreSamples, List.forall_mem_cons, ← toCoreSample_isSome _ idx]
    simp only [Option.bind_eq_bind]
    cases sample : toCoreSample py _ idx request with
    | none => simp
    | some =>
      simp only [Option.bind_some, Option.isSome_some, true_and]
      rw [← ih _ (idx + 1)]
      cases toCoreSamples py _ (idx + 1) rest <;> rfl

theorem requestIds_toCoreSamples {requests : List EpisodeRequest}
    {core : List SampleEnvelope × String}
    (converted : toCoreSamples py batchId idx requests = some core) :
    core.1.map (·.requestId) = requests.map (·.requestId) := by
  induction requests generalizing batchId idx core with
  | nil =>
    cases converted
    rfl
  | cons request rest ih =>
    simp only [toCoreSamples, Option.bind_eq_bind, Option.bind_eq_some_iff] at converted
    obtain ⟨sample, own, others, tail, eq⟩ := converted
    cases eq
    simp [requestId_toCoreSample own, ih tail]

end Conversion

/-! ### The loop over the attempts -/

/-- What the stream raises; `code` is the text of its status code, `none` without one. -/
structure TransportError where
  code : Option String
  message : String
  deriving DecidableEq

/-- What a call of `ExecuteBatchStream` delivers, and the error it ends with. -/
structure ResultStream where
  results : List SampleResult
  failure : Option TransportError

/-- `str.upper()` as far as it yields ASCII. -/
def uppered (char : Char) : List Char :=
  match char with
  | 'ı' => ['I']
  | 'ſ' => ['S']
  | 'ß' => ['S', 'S']
  | 'ﬀ' => ['F', 'F']
  | 'ﬁ' => ['F', 'I']
  | 'ﬂ' => ['F', 'L']
  | 'ﬃ' => ['F', 'F', 'I']
  | 'ﬄ' => ['F', 'F', 'L']
  | 'ﬅ' => ['S', 'T']
  | 'ﬆ' => ['S', 'T']
  | char => [char.toUpper]

/-- `text.upper().rsplit(".", 1)[-1]`. -/
def codeName (text : String) : String :=
  String.ofList
    (((text.toList.flatMap uppered).reverse.takeWhile (· ≠ '.')).reverse)

/-- The status code is one of those worth another attempt. -/
def TransportError.retryable (error : TransportError) : Bool :=
  match error.code with
  | none => false
  | some code =>
    ["UNAVAILABLE", "CANCELLED", "UNKNOWN", "INTERNAL", "DEADLINE_EXCEEDED"].contains
      (codeName code)

/-- `_should_retry_transport` (clients.py, 288-299). -/
def shouldRetryTransport (attempts : Int) (error : TransportError) (attempt : Nat) : Bool :=
  attempt + 1 < attempts && error.retryable

inductive Event
  | submit (samples : List SampleEnvelope)
  | yielded (result : EpisodeResult)

inductive Ending
  | returned
  | raised (error : TransportError)
  /-- A request that does not convert, before the stream is opened. -/
  | conversion
  deriving DecidableEq

def ResultStream.ending (stream : ResultStream) : Ending :=
  match stream.failure with
  | none => .returned
  | some error => .raised error

structure Run where
  events : List Event
  ending : Ending

def Run.after (events : List Event) (run : Run) : Run := ⟨events ++ run.events, run.ending⟩

section Attempts

variable (texts : Texts)

/-- The loop over the results of one stream: `completed` after it, and what it yields. -/
def resultLoop (completed : List String) :
    List SampleResult → List String × List EpisodeResult
  | [] => (completed, [])
  | result :: rest =>
    if result.requestId ∈ completed then resultLoop completed rest
    else
      let loop := resultLoop (result.requestId :: completed) rest
      (loop.1, fromCoreResult texts result :: loop.2)

end Attempts

section Submission

variable (py : Builtins) (streams : Nat → ResultStream) (attempts : Int)

/-- `for attempt in range(attempts)` from an attempt on, with the number of attempts left. -/
def attemptLoop (attempt : Nat) (remaining : List EpisodeRequest) (completed : List String) :
    Nat → Run
  | 0 => ⟨[], .returned⟩
  | left + 1 =>
    match toCoreExecuteBatchRequest py remaining with
    | none => ⟨[], .conversion⟩
    | some core =>
      let stream := streams attempt
      let loop := resultLoop py.toTexts completed stream.results
      let events := .submit core.samples :: loop.2.map .yielded
      match stream.failure with
      | none => ⟨events, .returned⟩
      | some error =>
        let remaining := remaining.filter fun request => request.requestId ∉ loop.1
        if remaining.isEmpty || !shouldRetryTransport attempts error attempt then
          ⟨events, .raised error⟩
        else (attemptLoop (attempt + 1) remaining loop.1 left).after events

/-- `_submit_episode_streaming` (clients.py, 246-267). -/
def submitEpisodeStreaming (requests : List EpisodeRequest) : Run :=
  attemptLoop py streams attempts 0 requests [] attempts.toNat

end Submission

/-! ### What a run yields -/

def Event.yieldedId : Event → Option String
  | .submit _ => none
  | .yielded result => some result.requestId

def yieldedIds (events : List Event) : List String := events.filterMap Event.yieldedId

@[simp] theorem yieldedIds_nil : yieldedIds [] = [] := rfl

@[simp] theorem yieldedIds_submit (samples : List SampleEnvelope) (rest : List Event) :
    yieldedIds (.submit samples :: rest) = yieldedIds rest := rfl

@[simp] theorem yieldedIds_yielded (result : EpisodeResult) (rest : List Event) :
    yieldedIds (.yielded result :: rest) = result.requestId :: yieldedIds rest := rfl

@[simp] theorem yieldedIds_append (front back : List Event) :
    yieldedIds (front ++ back) = yieldedIds front ++ yieldedIds back :=
  List.filterMap_append

def Event.isSubmit : Event → Bool
  | .submit _ => true
  | .yielded _ => false

/-- The number of streams opened. -/
def submissions (events : List Event) : Nat := events.countP Event.isSubmit

/-- No result is yielded and no sample submitted whose id is among those seen. -/
def Clean (seen : List String) : List Event → Prop
  | [] => True
  | .submit samples :: rest => (∀ sample ∈ samples, sample.requestId ∉ seen) ∧ Clean seen rest
  | .yielded result :: rest => result.requestId ∉ seen ∧ Clean (result.requestId :: seen) rest

variable {seen : List String}

theorem Clean.yieldedIds {events : List Event} (clean : Clean seen events) :
    (yieldedIds events).Nodup ∧ ∀ id ∈ yieldedIds events, id ∉ seen := by
  induction events generalizing seen with
  | nil => simp
  | cons event rest ih =>
    cases event with
    | submit => exact ih clean.2
    | yielded =>
      have tail := ih clean.2
      simp only [yieldedIds_yielded, List.nodup_cons, List.forall_mem_cons]
      exact ⟨⟨fun again => tail.2 _ again (by simp), tail.1⟩, clean.1,
        fun id yielded seen => tail.2 id yielded (by simp [seen])⟩

theorem Clean.fresh {before after : List Event} {samples : List SampleEnvelope}
    (clean : Clean seen (before ++ .submit samples :: after)) :
    ∀ sample ∈ samples, sample.requestId ∉ Client.yieldedIds before := by
  have general : ∀ sample ∈ samples,
      sample.requestId ∉ seen ∧ sample.requestId ∉ Client.yieldedIds before := by
    induction before generalizing seen with
    | nil => simpa using clean.1
    | cons event rest ih =>
      cases event with
      | submit _ => exact ih clean.2
      | yielded =>
        intro sample held
        have tail := ih clean.2 sample held
        simp only [List.mem_cons, not_or] at tail
        simp only [yieldedIds_yielded, List.mem_cons, not_or]
        exact ⟨tail.1.2, tail.1.1, tail.2⟩
  exact fun sample held => (general sample held).2

section Loop

variable {texts : Texts} {completed : List String} {results : List SampleResult}

variable {id : String}

theorem mem_completed_resultLoop : id ∈ (resultLoop texts completed results).1 ↔
      id ∈ completed ∨ id ∈ results.map (·.requestId) := by
  induction results generalizing completed with
  | nil => simp [resultLoop]
  | cons result rest ih =>
    rw [resultLoop]
    split
    · rename_i seen
      rw [ih]
      simp only [List.map_cons, List.mem_cons]
      constructor
      · rintro (old | new)
        · exact .inl old
        · exact .inr (.inr new)
      · rintro (old | rfl | new)
        · exact .inl old
        · exact .inl seen
        · exact .inr new
    · simp only [ih, List.map_cons, List.mem_cons]
      tauto

theorem mem_yielded_resultLoop :
    id ∈ yieldedIds ((resultLoop texts completed results).2.map .yielded) ↔
      id ∉ completed ∧ id ∈ results.map (·.requestId) := by
  induction results generalizing completed with
  | nil => simp [resultLoop]
  | cons result rest ih =>
    rw [resultLoop]
    split
    · rename_i seen
      rw [ih]
      simp only [List.map_cons, List.mem_cons]
      constructor
      · exact fun ⟨new, more⟩ => ⟨new, .inr more⟩
      · rintro ⟨new, rfl | more⟩
        · exact absurd seen new
        · exact ⟨new, more⟩
    · rename_i fresh
      simp only [List.map_cons, yieldedIds_yielded, List.mem_cons, ih, not_or, fromCoreResult]
      constructor
      · rintro (rfl | ⟨⟨-, new⟩, more⟩)
        · exact ⟨fresh, .inl rfl⟩
        · exact ⟨new, .inr more⟩
      · rintro ⟨new, rfl | more⟩
        · exact .inl rfl
        · by_cases same : id = result.requestId
          · exact .inl same
          · exact .inr ⟨⟨same, new⟩, more⟩

theorem clean_resultLoop (more : List Event) :
    Clean completed ((resultLoop texts completed results).2.map .yielded ++ more) ↔
      Clean (resultLoop texts completed results).1 more := by
  induction results generalizing completed with
  | nil => rfl
  | cons result rest ih =>
    rw [resultLoop]
    split
    · exact ih
    · rename_i fresh
      exact ⟨fun clean => ih.mp clean.2, fun clean => ⟨fresh, ih.mpr clean⟩⟩

theorem submissions_resultLoop :
    submissions ((resultLoop texts completed results).2.map .yielded) = 0 := by
  simp [submissions, Event.isSubmit, List.countP_map]

end Loop

/-! ### A run from an attempt on -/

variable {py : Builtins} {streams : Nat → ResultStream} {attempts : Int}

/-- A stream before the given attempt has delivered a result of this id. -/
def DeliveredBefore (streams : Nat → ResultStream) (attempt : Nat) (id : String) : Prop :=
  ∃ earlier < attempt, id ∈ (streams earlier).results.map (·.requestId)

theorem deliveredBefore_succ {attempt : Nat} {id : String} :
    DeliveredBefore streams (attempt + 1) id ↔
      DeliveredBefore streams attempt id ∨ id ∈ (streams attempt).results.map (·.requestId) := by
  simp only [DeliveredBefore, Nat.lt_succ_iff_lt_or_eq, or_and_right, exists_or, exists_eq_left]

/-- Every request has a result of one of the streams before the attempt. -/
def AllDelivered (streams : Nat → ResultStream) (requests : List EpisodeRequest)
    (attempt : Nat) : Prop :=
  ∀ request ∈ requests, DeliveredBefore streams attempt request.requestId

/-- The variables of the loop at an attempt. -/
structure Before (streams : Nat → ResultStream) (requests : List EpisodeRequest) (attempt : Nat)
    (remaining : List EpisodeRequest) (completed : List String) : Prop where
  delivered : ∀ id, id ∈ completed ↔ DeliveredBefore streams attempt id
  unanswered : remaining = requests.filter fun request => request.requestId ∉ completed

theorem Before.next {requests remaining : List EpisodeRequest} {attempt : Nat}
    {completed : List String} (texts : Texts)
    (before : Before streams requests attempt remaining completed) :
    Before streams requests (attempt + 1) (remaining.filter fun request =>
        request.requestId ∉ (resultLoop texts completed (streams attempt).results).1)
      (resultLoop texts completed (streams attempt).results).1 where
  delivered id := by rw [mem_completed_resultLoop, before.delivered, deliveredBefore_succ]
  unanswered := by
    rw [before.unanswered, List.filter_filter]
    refine List.filter_congr fun request _ => ?_
    rw [← Bool.decide_and, decide_eq_decide, mem_completed_resultLoop]
    tauto

theorem Before.remaining_eq_nil {requests remaining : List EpisodeRequest} {attempt : Nat}
    {completed : List String} (before : Before streams requests attempt remaining completed) :
    remaining = [] ↔ AllDelivered streams requests attempt := by
  simp [before.unanswered, AllDelivered, before.delivered]

theorem clean_attemptLoop {attempt left : Nat} {remaining : List EpisodeRequest}
    {completed : List String}
    (open_ : ∀ request ∈ remaining, request.requestId ∉ completed) :
    Clean completed (attemptLoop py streams attempts attempt remaining completed left).events := by
  induction left generalizing attempt remaining completed with
  | zero => trivial
  | succ left ih =>
    rw [attemptLoop]
    cases converted : toCoreExecuteBatchRequest py remaining with
    | none => trivial
    | some core =>
      have fresh : ∀ sample ∈ core.samples, sample.requestId ∉ completed := by
        simp only [toCoreExecuteBatchRequest, Option.bind_eq_bind, Option.bind_eq_some_iff]
          at converted
        obtain ⟨samples, converted, eq⟩ := converted
        cases eq
        have ids := requestIds_toCoreSamples converted
        intro sample held
        have own : sample.requestId ∈ remaining.map (·.requestId) :=
          ids ▸ List.mem_map_of_mem held
        obtain ⟨request, asked, same⟩ := List.mem_map.mp own
        exact same ▸ open_ request asked
      simp only
      cases failed : (streams attempt).failure with
      | none => exact ⟨fresh, by simpa using (clean_resultLoop []).mpr trivial⟩
      | some =>
        simp only
        split
        · exact ⟨fresh, by simpa using (clean_resultLoop []).mpr trivial⟩
        · refine ⟨fresh, (clean_resultLoop _).mpr (ih ?_)⟩
          simp

/-- Why the loop stops at an attempt: each one before it failed with requests open and a code worth
a retry, and if this one failed then nothing is open or no retry is due. -/
structure StopsAt (streams : Nat → ResultStream) (attempts : Int) (requests : List EpisodeRequest)
    (first last : Nat) : Prop where
  le : first ≤ last
  bound : last < attempts
  retried : ∀ attempt, first ≤ attempt → attempt < last →
    ¬AllDelivered streams requests (attempt + 1) ∧
      ∃ error, (streams attempt).failure = some error ∧ error.retryable
  stops : ∀ error, (streams last).failure = some error →
    AllDelivered streams requests (last + 1) ∨ ¬shouldRetryTransport attempts error last

/-- What the loop did when it stopped at an attempt. -/
structure StoppedAt (streams : Nat → ResultStream) (first last : Nat) (completed : List String)
    (run : Run) : Prop where
  submissions : submissions run.events = last + 1 - first
  ending : run.ending = (streams last).ending
  yielded : ∀ id, id ∈ yieldedIds run.events ∨ id ∈ completed ↔
    DeliveredBefore streams (last + 1) id

theorem submissions_events (texts : Texts) (samples : List SampleEnvelope)
    (completed : List String) (results : List SampleResult) (more : List Event) :
    submissions (.submit samples ::
      (resultLoop texts completed results).2.map .yielded ++ more) = submissions more + 1 := by
  simp only [submissions, List.cons_append, List.countP_cons, List.countP_append, Event.isSubmit,
    if_true]
  have none : List.countP Event.isSubmit
    ((resultLoop texts completed results).2.map Event.yielded) = 0 := submissions_resultLoop
  omega

theorem yielded_events (texts : Texts) (samples : List SampleEnvelope)
    (completed : List String) (results : List SampleResult) (more : List Event) (id : String) :
    id ∈ yieldedIds (.submit samples ::
        (resultLoop texts completed results).2.map .yielded ++ more) ∨ id ∈ completed ↔
      id ∈ yieldedIds more ∨ id ∈ (resultLoop texts completed results).1 := by
  rw [List.cons_append, yieldedIds_submit, yieldedIds_append, List.mem_append,
    mem_yielded_resultLoop, mem_completed_resultLoop]
  tauto

theorem toCoreExecuteBatchRequest_isSome {requests : List EpisodeRequest}
    (convert : ∀ request ∈ requests, Converts py request) :
    ∃ core, toCoreExecuteBatchRequest py requests = some core := by
  obtain ⟨samples, converted⟩ :=
    Option.isSome_iff_exists.mp ((toCoreSamples_isSome "" 0 requests).mpr convert)
  simp [toCoreExecuteBatchRequest, converted]

section Step

variable {requests remaining : List EpisodeRequest} {first : Nat} {completed : List String}

theorem attemptLoop_succ (attempts : Int) (left : Nat)
    (before : Before streams requests first remaining completed)
    (convert : ∀ request ∈ requests, Converts py request) :
    ∃ core : ExecuteBatchRequest,
      let loop := resultLoop py.toTexts completed (streams first).results
      let events := .submit core.samples :: loop.2.map .yielded
      let run := attemptLoop py streams attempts first remaining completed (left + 1)
      (run = ⟨events, (streams first).ending⟩ ∧ ∀ error, (streams first).failure = some error →
        AllDelivered streams requests (first + 1) ∨ ¬shouldRetryTransport attempts error first) ∨
      ∃ error remaining', (streams first).failure = some error ∧
        ¬AllDelivered streams requests (first + 1) ∧ shouldRetryTransport attempts error first ∧
        Before streams requests (first + 1) remaining' loop.1 ∧
        run =
          (attemptLoop py streams attempts (first + 1) remaining' loop.1 left).after events := by
  have convertRest : ∀ request ∈ remaining, Converts py request := by
    intro request open_
    rw [before.unanswered] at open_
    exact convert request (List.mem_of_mem_filter open_)
  obtain ⟨core, converted⟩ := toCoreExecuteBatchRequest_isSome convertRest
  refine ⟨core, ?_⟩
  have next := before.next py.toTexts
  simp only [attemptLoop, converted]
  cases failed : (streams first).failure with
  | none => exact .inl ⟨by simp [ResultStream.ending, failed], by simp⟩
  | some error =>
    simp only [Option.some.injEq]
    split
    · rename_i stop
      refine .inl ⟨by simp [ResultStream.ending, failed], ?_⟩
      rintro _ rfl
      rw [← next.remaining_eq_nil]
      simpa using stop
    · rename_i goOn
      rw [Bool.or_eq_true, not_or, List.isEmpty_iff, next.remaining_eq_nil] at goOn
      exact .inr ⟨error, _, rfl, goOn.1, by simpa using goOn.2, next, rfl⟩

theorem stoppedAt_here (texts : Texts) (samples : List SampleEnvelope)
    (before : Before streams requests first remaining completed) :
    StoppedAt streams first first completed
      ⟨.submit samples :: (resultLoop texts completed (streams first).results).2.map .yielded,
        (streams first).ending⟩ where
  submissions := by
    have count := submissions_events texts samples completed (streams first).results []
    rw [List.append_nil] at count
    simp only [count]
    simp [Client.submissions]
  ending := rfl
  yielded id := by
    have ids := yielded_events texts samples completed (streams first).results [] id
    rw [List.append_nil] at ids
    refine ids.trans ?_
    simp only [yieldedIds_nil, List.not_mem_nil, false_or, mem_completed_resultLoop,
      before.delivered, deliveredBefore_succ]

theorem attemptLoop_stops {left : Nat} (before : Before streams requests first remaining completed)
    (convert : ∀ request ∈ requests, Converts py request)
    (total : first + (left + 1) = attempts.toNat) :
    ∃ last, StopsAt streams attempts requests first last ∧ StoppedAt streams first last completed
      (attemptLoop py streams attempts first remaining completed (left + 1)) := by
  induction left generalizing first remaining completed with
  | zero =>
    obtain ⟨core, ⟨run, stops⟩ | ⟨error, _, -, -, retry, -⟩⟩ :=
      attemptLoop_succ attempts 0 before convert
    · refine ⟨first, ⟨le_rfl, by omega, fun _ _ _ => by omega, stops⟩, ?_⟩
      rw [run]
      exact stoppedAt_here py.toTexts core.samples before
    · simp only [shouldRetryTransport, Bool.and_eq_true, decide_eq_true_eq] at retry
      omega
  | succ left ih =>
    obtain ⟨core, ⟨run, stops⟩ | ⟨error, remaining', failed, open_, retry, next, run⟩⟩ :=
      attemptLoop_succ attempts (left + 1) before convert
    · refine ⟨first, ⟨le_rfl, by omega, fun _ _ _ => by omega, stops⟩, ?_⟩
      rw [run]
      exact stoppedAt_here py.toTexts core.samples before
    · obtain ⟨last, stopsAt, stopped⟩ := ih next (by omega)
      have after := stopsAt.le
      refine ⟨last, ⟨by omega, stopsAt.bound, ?_, stopsAt.stops⟩, ?_⟩
      · intro attempt from_ until_
        by_cases here : attempt = first
        · subst here
          simp only [shouldRetryTransport, Bool.and_eq_true] at retry
          exact ⟨open_, error, failed, retry.2⟩
        · exact stopsAt.retried attempt (by omega) until_
      · rw [run]
        exact {
          submissions := by
            simp only [Run.after, submissions_events, stopped.submissions]
            omega
          ending := stopped.ending
          yielded := fun id => by simp only [Run.after, yielded_events, stopped.yielded] }

end Step

/-! ### Exactly once -/

/-- A run of the streamed submission that yields each id at most once, submits no request again
whose result it has yielded, and ends as its last stream ends, normally when nothing is open. -/
structure ExactlyOnce (streams : Nat → ResultStream) (requests : List EpisodeRequest) (run : Run) :
    Prop where
  once : (yieldedIds run.events).Nodup
  fresh : ∀ before samples after, run.events = before ++ .submit samples :: after →
    ∀ sample ∈ samples, sample.requestId ∉ yieldedIds before
  complete : (∀ request ∈ requests, request.requestId ∈ yieldedIds run.events) →
    run.ending = .returned
  incomplete : (∃ request ∈ requests, request.requestId ∉ yieldedIds run.events) →
    ∃ last, submissions run.events = last + 1 ∧ run.ending = (streams last).ending

/-- The attempt is made if nothing but retryable errors came before it. -/
def Reached (streams : Nat → ResultStream) (attempts : Int) (attempt : Nat) : Prop :=
  attempt < attempts ∧
    ∀ earlier < attempt, ∃ error, (streams earlier).failure = some error ∧ error.retryable

/-- The requests convert, one attempt is allowed if there are any, and no stream fails after the
last result that was missing. -/
structure Settled (py : Builtins) (streams : Nat → ResultStream) (attempts : Int)
    (requests : List EpisodeRequest) : Prop where
  convert : ∀ request ∈ requests, Converts py request
  allowed : requests ≠ [] → 0 < attempts
  ends : ∀ attempt, Reached streams attempts attempt →
    AllDelivered streams requests (attempt + 1) → (streams attempt).failure = none

theorem before_first (requests : List EpisodeRequest) : Before streams requests 0 requests [] where
  delivered id := by simp [DeliveredBefore]
  unanswered := by simp

theorem submitEpisodeStreaming_clean (requests : List EpisodeRequest) :
    Clean [] (submitEpisodeStreaming py streams attempts requests).events :=
  clean_attemptLoop (by simp)

/-- Nothing is yielded and no stream opened if no attempt is allowed or a request does not
convert. -/
theorem submitEpisodeStreaming_events {requests : List EpisodeRequest}
    (none : attempts ≤ 0 ∨ ¬∀ request ∈ requests, Converts py request) :
    (submitEpisodeStreaming py streams attempts requests).events = [] := by
  unfold submitEpisodeStreaming
  cases count : attempts.toNat with
  | zero => rfl
  | succ =>
    have converts : ¬∀ request ∈ requests, Converts py request := by
      rcases none with nonpositive | converts
      · omega
      · exact converts
    rw [← toCoreSamples_isSome "" 0, Bool.not_eq_true, Option.isSome_eq_false_iff,
      Option.isNone_iff_eq_none] at converts
    simp [attemptLoop, toCoreExecuteBatchRequest, converts]

theorem StoppedAt.allYielded {requests : List EpisodeRequest} {last : Nat} {run : Run}
    (stopped : StoppedAt streams 0 last [] run) :
    (∀ request ∈ requests, request.requestId ∈ yieldedIds run.events) ↔
      AllDelivered streams requests (last + 1) := by
  have ids := stopped.yielded
  simp only [List.not_mem_nil, or_false] at ids
  simp [AllDelivered, ids]

/-- Where the loop stops, the conditions on its streams are the one on the last stream. -/
theorem StopsAt.ends_iff {requests : List EpisodeRequest} {last : Nat}
    (stops : StopsAt streams attempts requests 0 last) :
    (∀ attempt, Reached streams attempts attempt →
        AllDelivered streams requests (attempt + 1) → (streams attempt).failure = none) ↔
      (AllDelivered streams requests (last + 1) → (streams last).failure = none) := by
  constructor
  · intro ends all
    exact ends last ⟨stops.bound, fun earlier lt => (stops.retried earlier (by omega) lt).2⟩ all
  · intro ends attempt reached all
    have notBefore : last ≤ attempt := by
      by_contra before
      refine (stops.retried attempt (by omega) (by omega)).1 fun request asked => ?_
      exact all request asked
    rcases Nat.eq_or_lt_of_le notBefore with here | later
    · subst here
      exact ends all
    · -- the loop went no further, so its last error was not one to retry unless all was delivered
      obtain ⟨error, failed, retryable⟩ := reached.2 last later
      rcases stops.stops error failed with done | noRetry
      · exact absurd (ends done) (by simp [failed])
      · have bound := reached.1
        simp only [shouldRetryTransport, retryable, Bool.and_true, decide_eq_true_eq] at noRetry
        omega

theorem ending_eq_returned {stream : ResultStream} :
    stream.ending = .returned ↔ stream.failure = none := by
  unfold ResultStream.ending
  cases stream.failure <;> simp

theorem not_exactlyOnce_nil {requests : List EpisodeRequest} {run : Run} (some_ : requests ≠ [])
    (silent : run.events = []) : ¬ExactlyOnce streams requests run := by
  intro once
  obtain ⟨request, rest, rfl⟩ := List.exists_cons_of_ne_nil some_
  obtain ⟨last, count, -⟩ := once.incomplete ⟨request, by simp, by simp [silent]⟩
  simp [silent, submissions] at count

theorem StoppedAt.answers_iff {requests : List EpisodeRequest} {last : Nat} {run : Run}
    (clean : Clean [] run.events) (stopped : StoppedAt streams 0 last [] run) :
    ExactlyOnce streams requests run ↔
      (AllDelivered streams requests (last + 1) → (streams last).failure = none) := by
  rw [← stopped.allYielded]
  constructor
  · intro once all
    rw [← ending_eq_returned, ← stopped.ending]
    exact once.complete all
  · intro ends
    exact {
      once := clean.yieldedIds.1
      fresh := fun before samples after split =>
        Clean.fresh (split ▸ clean : Clean [] (before ++ .submit samples :: after))
      complete := fun all => by rw [stopped.ending, ending_eq_returned, ends all]
      incomplete := fun _ => ⟨last, stopped.submissions, stopped.ending⟩ }

/-- Streamed submission is exactly-once just where no stream fails after the last missing
result. -/
theorem exactlyOnce_iff (py : Builtins) (streams : Nat → ResultStream) (attempts : Int)
    (requests : List EpisodeRequest) :
    ExactlyOnce streams requests (submitEpisodeStreaming py streams attempts requests) ↔
      Settled py streams attempts requests := by
  have clean : Clean [] (submitEpisodeStreaming py streams attempts requests).events :=
    submitEpisodeStreaming_clean requests
  by_cases goes : 0 < attempts ∧ ∀ request ∈ requests, Converts py request
  · obtain ⟨left, count⟩ : ∃ left, attempts.toNat = left + 1 := ⟨attempts.toNat - 1, by omega⟩
    obtain ⟨last, stops, stopped⟩ :=
      attemptLoop_stops (before_first requests) goes.2 (by omega : 0 + (left + 1) = attempts.toNat)
    rw [← count] at stopped
    rw [stopped.answers_iff clean, ← stops.ends_iff]
    exact ⟨fun ends => ⟨goes.2, fun _ => goes.1, ends⟩, fun settled => settled.ends⟩
  · have silent : (submitEpisodeStreaming py streams attempts requests).events = [] :=
      submitEpisodeStreaming_events (by rw [← not_lt]; tauto)
    by_cases empty : requests = []
    · subst empty
      have nonpositive : attempts ≤ 0 := by simpa using goes
      have run : submitEpisodeStreaming py streams attempts [] = ⟨[], .returned⟩ := by
        simp [submitEpisodeStreaming, Int.toNat_of_nonpos nonpositive, attemptLoop]
      refine ⟨fun _ => ⟨by simp, by simp, fun attempt reached => ?_⟩, fun _ => ?_⟩
      · have bound := reached.1
        omega
      · rw [run]
        exact ⟨by simp, fun before _ _ split => by simp at split, fun _ => rfl, by simp⟩
    · refine ⟨fun once => absurd once (not_exactlyOnce_nil empty silent), fun settled => ?_⟩
      exact absurd ⟨settled.allowed empty, settled.convert⟩ goes

/-- The built-in functions on an empty payload. -/
def emptyPayload : Builtins where
  toVec _ := []
  fromSlice _ := none
  loads _ := none
  dumps _ := "\x7b\x7d"
  str _ := ""
  replaced _ := ""
  workerConfig _ := ([], [])
  int := asInt

/-- The one request has its result when the connection breaks. -/
def brokenStream : ResultStream where
  results := [{
    requestId := "episode-1", batchId := "batch", sampleIndex := 0, status := "completed"
    reward := .zero, done := true, terminationReason := "completed", trajectoryJson := []
    errorCode := "", errorMessage := "", rolloutParamVersion := 0, rolloutPolicyVersion := ""
    rolloutLogProbs := [] }]
  failure := some ⟨some "StatusCode.UNAVAILABLE", "connection reset"⟩

/-- The error is raised although every request has its result. -/
theorem complete_then_unavailable :
    let requests : List EpisodeRequest := [⟨"episode-1", "qa", [], "", "sync"⟩]
    let run := submitEpisodeStreaming emptyPayload (fun _ => brokenStream) 3 requests
    yieldedIds run.events = ["episode-1"] ∧
      run.ending = .raised ⟨some "StatusCode.UNAVAILABLE", "connection reset"⟩ ∧
      ¬ExactlyOnce (fun _ => brokenStream) requests run := by
  refine ⟨by decide, by decide, fun once => ?_⟩
  have returned := once.complete (by decide)
  revert returned
  decide

end UEnv.Bridge.Client
