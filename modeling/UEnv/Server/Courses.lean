import UEnv.Native.Episodes

/-!
# The course of one episode

`submit_episode` for one episode, across the lifetimes of the server: the loops of the native and of
the agent backends (`service/episode.rs`), `complete_agent_job` (`agent_job.rs`), a result or a new
registration that meets the pending entry of the attempt (`control_plane.rs`), and the waits that
recovery spawns (`persistence/recovery.rs`). A label is the answer of an await, or a crash. An
`Ending` is a `return` with the records that its result is built from.
-/

namespace UEnv

open Proto Persistence Scheduler Service ControlPlane Native Runs

/-- How an execution returns. -/
inductive Ending
  -- `bail!`, or an error passed up
  | error (message : String)
  -- `broadcast_cancelled_for_request` and `broadcast_timeout_for_request`; those of an agent
  -- backend with a job in the queue go through `complete_episode_result` as well
  | terminal (clock : Clock) (event : EpisodeTerminalEvent) (timing : Option ResultTiming)
  | agentTerminal (clock : Clock) (event : EpisodeTerminalEvent) (timing : Option ResultTiming)
  | nonRetryable (clock : Clock) (failure : String) (errorCode : ErrorCode) (timing : ResultTiming)
  -- what is sent to the channel of a pending entry
  | reported (clock : Clock) (entry : PendingResult) (result : EpisodeResult)
  | superseded (clock : Clock) (entry : PendingResult) (staleId : String)
  | completed (clock : Clock) (job : AgentJob) (complete : AgentJobCompleteRequest)
  -- the tasks of recovery
  | recoveredJob (clock : Clock) (job : AgentJob) (complete : AgentJobCompleteRequest)
  | recoveryFailed (message : String)

/-! ### The results -/

/-- `agent_complete_to_episode_result` (episode.rs, 1495-1541). -/
def agentCompleteToEpisodeResult (complete : AgentJobCompleteRequest) (episodeId : String)
    (attemptId : UInt32) (gatewaySessionId status : String) : EpisodeResult :=
  let trajectory := complete.rolloutTrace.bind fun trace =>
    if trace.responseIds.isEmpty && trace.responseMask.isEmpty then none
    else some
      { steps := [{ stepIndex := 1, rolloutTrace := some trace }]
        totalReward := complete.reward, totalSteps := 1 }
  { episodeId, attemptId, status, errorMessage := complete.errorMessage, trajectory
    trajectoryId := complete.trajectoryId, gatewaySessionId, parallelMode := complete.parallelMode
    rolloutParamVersion := complete.rolloutParamVersion
    rolloutPolicyVersion := complete.rolloutPolicyVersion
    rolloutLogProbs := complete.rolloutLogProbs, workerStartTs := complete.workerStartTs
    workerFinishTs := complete.workerFinishTs, resultReadyTs := complete.resultReadyTs
    workerLatencyMs := complete.workerLatencyMs, modelLatencyMs := complete.modelLatencyMs
    metadata := complete.metadata, summary := some { totalReward := complete.reward } }

/-- The status of a completion; an agent may leave it empty. -/
def completionStatus (complete : AgentJobCompleteRequest) : String :=
  if complete.status.isEmpty then "completed" else complete.status

/-- The result that `complete_agent_job` sends; `persisted` is the request in the row of the
episode, where there is a store. -/
def completionResult (persisted : Option EpisodeRequest) (clock : Clock) (job : AgentJob)
    (complete : AgentJobCompleteRequest) : EpisodeResult :=
  match persisted with
  | some request =>
    let raw := agentCompleteToEpisodeResult complete request.episodeId request.attemptId
      job.sessionId (completionStatus complete)
    completeEpisodeResult clock request raw none
  | none =>
    agentCompleteToEpisodeResult complete job.episodeId 0 job.sessionId (completionStatus complete)

/-- The result of an ending, with `req` as the execution has it at its end. -/
def Ending.outcome (persisted : Option EpisodeRequest) (req : EpisodeRequest) :
    Ending → Except String EpisodeResult
  | .error message | .recoveryFailed message => .error message
  | .terminal clock event timing => .ok (terminalResultFromRequest clock req event timing)
  | .agentTerminal clock event timing =>
    .ok (completeEpisodeResult clock req (terminalResultFromRequest clock req event timing) none)
  | .nonRetryable clock failure errorCode timing =>
    let result := failedResultFromRequest clock req "failed"
      s!"non-retryable worker execution failure: {failure}" errorCode (some timing)
    let result := withMetadata result "terminal_kind" "worker_execution_failed"
    .ok (withMetadata result "retryable" "false")
  | .reported clock entry result =>
    .ok (completeEpisodeResult clock entry.request result (some entry.timing))
  | .superseded clock entry staleId =>
    let message := s!"dispatch lease superseded: worker {staleId} was replaced " ++
      "by a new registration at the same endpoint"
    let result := failedResultFromRequest clock entry.request "failed" message .errLeaseSuperseded
      (some entry.timing)
    .ok (withMetadata result "terminal_kind" "lease_superseded")
  | .completed clock job complete =>
    .ok (completeEpisodeResult clock req (completionResult persisted clock job complete) none)
  | .recoveredJob clock job complete => .ok (completionResult persisted clock job complete)

/-! ### The execution -/

/-- Where the execution of an episode stands. -/
inductive Phase
  -- the awaits of `execute_episode_inner` and of the native backend
  | admission
  | scheduling
  | attempt (entry : PendingResult)
  | slotFull
  | retrying
  -- an agent backend, before and after its job is in the queue
  | acquiring
  | waiting (job : AgentJob)
  -- the waits that recovery spawns
  | nativeWait (entry : PendingResult)
  | agentWait (job : AgentJob)
  | returned (ending : Ending)

/-- What the server is configured with. -/
structure Settings where
  specs : AgentSpecs
  maxAttempts : UInt32
  persistent : Bool

/-- The course of the episode that `submitted` asks for; `req` is the request as the execution has
it. `dispatches` and `agentJob` are its rows in the store, and `lastAttempt` is history: the number
of the last attempt that the limit has allowed. -/
structure Course where
  submitted : EpisodeRequest
  enqueueAt : Instant
  req : EpisodeRequest
  phase : Phase
  dispatches : List DispatchRecord := []
  agentJob : Option AgentJob := none
  lastAttempt : UInt32

namespace Course

variable (settings : Settings) (c : Course)

/-- An execution that begins. -/
def start (enqueueAt : Instant) (req : EpisodeRequest) : Course :=
  { submitted := req, enqueueAt, req, phase := .admission, lastAttempt := req.attemptId }

def finish (ending : Ending) : Course := { c with phase := .returned ending }

/-- The timing of a result that ends a wait before any dispatch. -/
def undispatched : Option ResultTiming :=
  some { enqueueAt := c.enqueueAt, dispatchAt := none, dispatchTs := none }

/-- The head of the attempt loop. -/
def beginTurn : Course :=
  if settings.maxAttempts < c.req.attemptId then
    c.finish (.error
      s!"episode {c.req.episodeId} exceeded max attempts ({settings.maxAttempts.toNat})")
  else { c with phase := .scheduling }

/-- An attempt begins on a worker that has been reserved. -/
def dispatch (clock : Clock) (epoch : UInt64) (leaseId : String)
    (stamp : NativeServer.DispatchStamp) (assignment : WorkerAssignment) : Course :=
  let req := { c.req with
    dispatchLeaseId := leaseId
    dispatchToken := stamp.token
    schedulerEpoch := epoch
    leaseExpireAt := some { seconds := stamp.expireSeconds, nanos := 0 }
    metadata := c.req.metadata.insert "dispatch_ts" stamp.dispatchText }
  -- a call awaits one channel at a time
  let entry : PendingResult :=
    { request := req, tx := 0, workerId := assignment.workerId, dispatchToken := stamp.token
      enqueueAt := c.enqueueAt, dispatchAt := clock.instant, dispatchTs := clock.unixSeconds }
  let record : DispatchRecord :=
    { episodeId := req.episodeId, attemptId := req.attemptId, dispatchLeaseId := leaseId
      workerId := assignment.workerId, workerEndpoint := assignment.endpoint
      dispatchToken := stamp.token, serverEpoch := epoch, dispatchAtMs := stamp.dispatchAtMs
      acceptedAtMs := none, deadlineAtMs := Reports.saturateI64 (stamp.expireSeconds.toInt * 1000) }
  { c with
    req, phase := .attempt entry
    dispatches := if settings.persistent then record :: c.dispatches else c.dispatches }

/-- An attempt has failed: a worker without a free slot is asked again, and any other failure uses
up an attempt. -/
def retry (reason : String) : Course :=
  if NativeServer.containsText reason "max_concurrency_acquire_timeout" then
    { c with phase := .slotFull }
  else
    let req := { c.req with attemptId := c.req.attemptId + 1 }
    if req.attemptId ≤ settings.maxAttempts then
      { c with req, phase := .retrying, lastAttempt := req.attemptId }
    else beginTurn settings { c with req }

/-- The dispatch of an attempt fails. -/
def dispatchFailed (clock : Clock) (entry : PendingResult) (error : String) : Course :=
  match NativeServer.deterministicDispatchErrorCode error with
  | some errorCode => c.finish (.nonRetryable clock error errorCode entry.timing)
  | none => c.retry settings s!"dispatch_failed: {error}"

/-- The key under which an entry is registered. -/
def keyOf (entry : PendingResult) : PendingKey :=
  { episodeId := entry.request.episodeId, attemptId := entry.request.attemptId
    dispatchLeaseId := entry.request.dispatchLeaseId }

/-- The result of a report that `report_result` accepts for an entry. -/
def accepted (entry : PendingResult) (report : ReportResultRequest) : Option EpisodeResult :=
  report.result.filter fun result =>
    report.pendingKey result == keyOf entry && entry.workerId == report.workerId &&
      entry.dispatchToken == report.dispatchToken

/-- A report arrives; one that is not for this entry changes nothing. -/
def report (clock : Clock) (entry : PendingResult) (report : ReportResultRequest) : Course :=
  match accepted entry report with
  | some result => c.finish (.reported clock entry result)
  | none => c

/-- The job of an episode: `spec` has the fields of the specification and of the gateway session. -/
def jobOf (spec : AgentJob) : AgentJob :=
  { spec with
    jobId := "job-" ++ c.req.episodeId
    runId := "run-" ++ c.req.episodeId
    episodeId := c.req.episodeId
    envPackageId := c.req.envPackageId
    envPackageVersion := c.req.envPackageVersion
    modelEndpointConfig := c.req.modelEndpointConfig
    parallelMode := c.req.parallelMode
    enqueueTs := c.req.enqueueTs
    metadata := c.req.metadata }

/-- The job goes into the queue; only the swe backend makes a row for it. -/
def queueJob (spec : AgentJob) : Course :=
  let job := c.jobOf spec
  let stored := settings.persistent && settings.specs.selectExecutionBackend c.req == .sweAgent
  { c with phase := .waiting job, agentJob := if stored then some job else c.agentJob }

/-- A completion arrives, for a job that the queue has under `runId` with agent `agentId`; one of
another run or agent is refused. -/
def complete (ending : Ending) (job : AgentJob) (runId agentId : String)
    (complete : AgentJobCompleteRequest) : Course :=
  if complete.jobId = job.jobId ∧ runId = complete.runId ∧ agentId ≠ "" ∧
      agentId = complete.agentId then c.finish ending
  else c

def recoverNativeWait (clock : Clock) (dispatchTs : F64) (record : DispatchRecord) : Course :=
  let request := redispatched c.submitted record
  let entry : PendingResult :=
    { request, tx := 0, workerId := record.workerId, dispatchToken := record.dispatchToken
      enqueueAt := clock.instant, dispatchAt := clock.instant, dispatchTs }
  { c with req := request, phase := .nativeWait entry, lastAttempt := record.attemptId }

/-- The server starts again after a crash. An episode with a row for its job waits for the job, one
with a dispatch for the attempt of that dispatch, and one that was only queued is submitted
again. -/
def restart (clock : Clock) (dispatchTs : F64) (latest : Nat) : Option Course :=
  if !settings.persistent then none
  else match c.agentJob with
    | some job =>
      some { c with
        req := c.submitted, phase := .agentWait job, lastAttempt := c.submitted.attemptId }
    | none =>
      match c.dispatches with
      | [] => some (start clock.instant c.submitted)
      | records => records[latest]?.map (c.recoverNativeWait clock dispatchTs)

inductive Label
  | admitted
  | failed (message : String)
  | cancelled (clock : Clock)
  | timedOut (clock : Clock) (message : String)
  | dispatch (clock : Clock) (epoch : UInt64) (leaseId : String)
      (stamp : NativeServer.DispatchStamp) (assignment : WorkerAssignment)
  | dispatchFailed (clock : Clock) (error : String)
  | channelClosed
  | report (clock : Clock) (report : ReportResultRequest)
  | registration (clock : Clock) (staleId : String)
  | wake
  | queueJob (spec : AgentJob)
  | complete (clock : Clock) (runId agentId : String) (complete : AgentJobCompleteRequest)
  | restart (clock : Clock) (dispatchTs : F64) (latest : Nat)

/-- An await fails for good. An attempt fails so where `put_dispatch_intent` does. -/
def fail (message : String) : Option Course :=
  match c.phase with
  | .admission | .scheduling | .acquiring | .waiting _ => some (c.finish (.error message))
  | .attempt _ => if settings.persistent then some (c.finish (.error message)) else none
  | .nativeWait _ | .agentWait _ => some (c.finish (.recoveryFailed message))
  | _ => none

/-- The cancel branches. -/
def cancel (clock : Clock) : Option Course :=
  match c.phase with
  | .admission | .scheduling | .attempt _ | .retrying | .acquiring =>
    some (c.finish (.terminal clock (.cancelled "episode cancelled") none))
  | .waiting _ => some (c.finish (.agentTerminal clock (.cancelled "episode cancelled") none))
  | _ => none

/-- The deadline branches. -/
def timeOut (clock : Clock) (message : String) : Option Course :=
  match c.phase with
  | .admission =>
    let reason := s!"episode {c.req.episodeId} timeout waiting in queue"
    some (c.finish (.terminal clock (.timedOut reason) c.undispatched))
  | .attempt entry =>
    some (c.finish (.terminal clock (.timedOut "episode execution timeout") (some entry.timing)))
  | .acquiring => some (c.finish (.terminal clock (.timedOut message) c.undispatched))
  | .waiting _ => some (c.finish (.agentTerminal clock (.timedOut message) c.undispatched))
  | .nativeWait entry =>
    let reason := "episode execution timeout after server recovery"
    some (c.finish (.terminal clock (.timedOut reason) (some entry.timing)))
  | .agentWait _ =>
    let reason := "AgentJob timed out after server recovery"
    some (c.finish (.terminal clock (.timedOut reason) none))
  | _ => none

/-- One step of `submit_native_worker_episode` (episode.rs, 216-617). -/
def step (c : Course) : Label → Option Course
  | .admitted =>
    match c.phase with
    | .admission =>
      match settings.specs.selectExecutionBackend c.req with
      | .native => some (c.beginTurn settings)
      | .sweAgent | .codeAgent => some { c with phase := .acquiring }
    | _ => none
  | .failed message => c.fail settings message
  | .cancelled clock => c.cancel clock
  | .timedOut clock message => c.timeOut clock message
  | .dispatch clock epoch leaseId stamp assignment =>
    match c.phase with
    | .scheduling => some (c.dispatch settings clock epoch leaseId stamp assignment)
    | _ => none
  | .dispatchFailed clock error =>
    match c.phase with
    | .attempt entry => some (c.dispatchFailed settings clock entry error)
    | _ => none
  | .channelClosed =>
    match c.phase with
    | .attempt _ => some (c.retry settings "worker_channel_closed")
    | _ => none
  | .report clock report =>
    match c.phase with
    | .attempt entry | .nativeWait entry => some (c.report clock entry report)
    | _ => none
  | .registration clock staleId =>
    match c.phase with
    | .attempt entry | .nativeWait entry =>
      if entry.workerId = staleId then some (c.finish (.superseded clock entry staleId)) else none
    | _ => none
  | .wake =>
    match c.phase with
    | .slotFull | .retrying => some (c.beginTurn settings)
    | _ => none
  | .queueJob spec =>
    match c.phase with
    | .acquiring => some (c.queueJob settings spec)
    | _ => none
  | .complete clock runId agentId complete =>
    match c.phase with
    | .waiting job => some (c.complete (.completed clock job complete) job runId agentId complete)
    | .agentWait job =>
      some (c.complete (.recoveredJob clock job complete) job runId agentId complete)
    | _ => none
  | .restart clock dispatchTs latest => c.restart settings clock dispatchTs latest

/-- The courses of a request. -/
def system (request : EpisodeRequest) : System Course Label where
  init := fun c => ∃ (uuid : Uuid) (now : F64) (req : EpisodeRequest) (enqueueAt : Instant),
    prepare uuid now request = .ok req ∧ c = start enqueueAt req
  step := step settings

/-- The request in the row of the episode: of two submissions with different requests the store
refuses one by their checksums. -/
def persisted : Option EpisodeRequest := if settings.persistent then some c.submitted else none

/-- What `submit_episode` returns for an execution that has returned, to the caller that started it
and to those that wait for its entry or find its row. With a store the terminal result is
committed first, which `committed` answers, and the error of an execution becomes a result. -/
def reply (clock : Clock) (committed : Except String Unit) : Option (Except String EpisodeResult) :=
  match c.phase with
  | .returned ending =>
    match ending.outcome (c.persisted settings) c.req, settings.persistent with
    | outcome, false => some outcome
    | .ok result, true => some (committed.map fun _ => result)
    | .error message, true =>
      match ending with
      | .recoveryFailed _ => some (.error message)
      | _ => some (committed.map fun _ =>
          failedResultFromRequest clock c.submitted "failed" message .errInternal none)
  | _ => none

end Course

end UEnv
