import Mathlib.Data.List.Infix
import UEnv.ControlPlane.Leases
import UEnv.Scheduler.Reservation
import UEnv.Server.Executions

/-!
# Executions of native episodes

`execute_episode_inner` and `submit_native_worker_episode` of `service/episode.rs`, the guards of
`service/prelude_and_guards.rs` and the local part of `AdminService.cancel_episode`. A call is cut
at every await; a label is one segment of one call, with the branch of a `select!` that it takes and
what the clock, a worker or the store answered. Of the agent backends only what they do to the
entry of the episode is modelled; the slots that `submit_swe_agent_episode` takes in the same worker
table are not. Observation and logging are left out.
-/

namespace UEnv.Native

open Proto Wire Persistence Tables Scheduler Service ControlPlane Runs

/-- `ActiveEpisode`; `owner` is history: the call that put the entry into the table. -/
structure ActiveEpisode where
  attemptId : UInt32
  workerId : String
  owner : Nat

/-- What an attempt holds: its pending entry, the receiver of its channel and its worker lease. -/
structure Attempt where
  key : PendingKey
  rx : Nat
  lease : Nat
  workerId : String
  dispatchAt : Instant
  dispatchTs : F64

inductive Stage
  -- the awaits of `execute_episode_inner` and of the scheduling loop
  | queued
  | scheduling
  | preparing (error : ScheduleError)
  | backingOff
  -- the awaits of an attempt; `record` is what `put_dispatch_intent` writes
  | puttingIntent (attempt : Attempt) (record : DispatchRecord)
      (reply : Option (Except String Unit))
  | dispatching (attempt : Attempt)
  | waiting (attempt : Attempt)
  | notifying (attempt : Attempt)
  -- the sleeps between attempts
  | slotFull
  | retrying
  | agent
  | returned (outcome : Except String EpisodeResult)
  | dropped

/-- A call of `execute_episode_inner` with its `EpisodeHandle`. `listed`, `created` and `leases` are
history: whether the call has put its entry into `active_episodes` and not removed it since, the
pending keys that it registered, and the worker leases that it took. -/
structure Call where
  req : EpisodeRequest
  enqueueAt : Instant
  deadline : Instant
  handleAttempt : UInt32
  cancelled : Bool := false
  nativeDispatch : Option PendingKey := none
  stage : Stage
  listed : Bool
  created : List PendingKey := []
  leases : List Nat := []

/-- Past the entry check and not gone. -/
def Call.Running (call : Call) : Prop :=
  match call.stage with
  | .returned _ | .dropped => False
  | _ => True

instance (call : Call) : Decidable call.Running := by
  unfold Call.Running
  split <;> infer_instance

/-- The attempt in progress. -/
def Stage.attempt : Stage → Option Attempt
  | .puttingIntent attempt _ _ | .dispatching attempt | .waiting attempt | .notifying attempt =>
    some attempt
  | _ => none

/-- What the native path uses of `ServerState` (state.rs, 21-91). -/
structure NativeServer where
  plane : Plane
  leased : LeasedScheduler
  maxAttempts : UInt32
  defaultEpisodeTimeoutSecs : UInt64
  activeEpisodes : Map String ActiveEpisode := ∅
  activeEpisodeHandles : Map String Nat := ∅
  calls : Map Nat Call := ∅
  -- what was sent on `episode_broadcast`
  broadcasts : List EpisodeResult := []

namespace NativeServer

variable (s : NativeServer)

/-- `EpisodeAdmissionGuard` is dropped: the entries of the episode are removed by its id. -/
def dropGuard (episodeId : String) : NativeServer :=
  { s with
    activeEpisodes := s.activeEpisodes.erase episodeId
    activeEpisodeHandles := s.activeEpisodeHandles.erase episodeId }

/-- Call `t` goes on as `call`. -/
def resume (t : Nat) (call : Call) : NativeServer := { s with calls := s.calls.insert t call }

/-- Call `t` returns. -/
def exit (t : Nat) (call : Call) (outcome : Except String EpisodeResult) : NativeServer :=
  (s.dropGuard call.req.episodeId).resume t
    { call with stage := .returned outcome, listed := false }

/-- `worker_lease.release()`. -/
def release (lease : Nat) : NativeServer :=
  { s with leased := (s.leased.step (.release lease)).getD s.leased }

/-- `pending_results.remove`. -/
def removePending (key : PendingKey) : NativeServer := { s with plane := s.plane.withdraw key none }

/-- `active_episodes.remove` and the release of the worker by the attempt that ends. -/
def endAttempt (call : Call) (attempt : Attempt) : NativeServer :=
  { s with activeEpisodes := s.activeEpisodes.erase call.req.episodeId }.release attempt.lease

/-- `episode_broadcast.send`. -/
def broadcast (result : EpisodeResult) : NativeServer :=
  { s with broadcasts := s.broadcasts ++ [result] }

/-- `broadcast_cancelled_for_request`, and the return of its result. -/
def exitCancelled (t : Nat) (call : Call) (clock : Clock) : NativeServer :=
  let plane := { s.plane with
    reports := s.plane.reports.rememberCancelOutcome clock.instant call.req.episodeId
      "LATE_AFTER_CANCEL" "episode cancelled" }
  let result := cancelledResultFromRequest clock call.req "episode cancelled" none
  ({ s with plane }.broadcast result).exit t call (.ok result)

/-- `broadcast_timeout_for_request`, and the return of its result. -/
def exitTimedOut (t : Nat) (call : Call) (clock : Clock) (message : String)
    (timing : Option ResultTiming) : NativeServer :=
  let result := timeoutResultFromRequest clock call.req message timing
  (s.broadcast result).exit t call (.ok result)

/-! ### Entry and admission -/

/-- The deadline of a request. -/
def deadlineOf (now : Instant) (req : EpisodeRequest) : Instant :=
  let timeoutSecs : Nat :=
    if 0 < req.timeoutSeconds then req.timeoutSeconds.toInt.toNat
    else s.defaultEpisodeTimeoutSecs.toNat
  now + timeoutSecs * 1000000000

/-- A call up to the await of the admission: the entry check, the entries and the guard. -/
def enter (t : Nat) (uuid : Uuid) (clock : Clock) (request : EpisodeRequest) : NativeServer :=
  let refused (req : EpisodeRequest) (error : String) : NativeServer :=
    s.resume t
      { req, enqueueAt := clock.instant, deadline := clock.instant, handleAttempt := req.attemptId
        stage := .returned (.error error), listed := false }
  match prepare uuid clock.unixSeconds request with
  | .error error => refused request error
  | .ok req =>
    if s.activeEpisodes.contains req.episodeId then
      refused req s!"episode {req.episodeId} is already active"
    else
      let entry : ActiveEpisode := { attemptId := req.attemptId, workerId := "", owner := t }
      { s with
        activeEpisodes := s.activeEpisodes.insert req.episodeId entry
        activeEpisodeHandles := s.activeEpisodeHandles.insert req.episodeId t }.resume t
          { req, enqueueAt := clock.instant, deadline := s.deadlineOf clock.instant req
            handleAttempt := req.attemptId, stage := .queued, listed := true }

/-- The answer of `AdmissionController::acquire_until`. -/
inductive Admission
  | permit
  | cancelled
  | timedOut
  | closed

/-- The call after the admission: the selected backend starts, or the call returns. -/
def admission (specs : AgentSpecs) (t : Nat) (call : Call) (clock : Clock) :
    Admission → Option NativeServer
  | .permit =>
    match specs.selectExecutionBackend call.req with
    | .native => some (s.resume t { call with stage := .scheduling })
    | .sweAgent | .codeAgent => some (s.resume t { call with stage := .agent })
  | .cancelled => if call.cancelled then some (s.exitCancelled t call clock) else none
  | .timedOut =>
    if call.deadline ≤ clock.instant then
      some (s.exitTimedOut t call clock s!"episode {call.req.episodeId} timeout waiting in queue"
        (some { enqueueAt := call.enqueueAt, dispatchAt := none, dispatchTs := none }))
    else none
  | .closed => some (s.exit t call (.error "episode queue semaphore closed"))

/-! ### Scheduling -/

/-- `is_retryable_schedule_error`. -/
def retryableScheduleError (error : ScheduleError) : Bool :=
  error == .noWorkerAvailable || error == .allWorkersAtCapacity

/-- The scheduling loop after a failed reservation that no preparation has mended. -/
def scheduleFailed (t : Nat) (call : Call) (now : Instant) (error : ScheduleError) : NativeServer :=
  if !retryableScheduleError error then
    s.exit t call (.error s!"select worker failed: {error.message}")
  else if call.deadline < now then
    s.exit t call (.error s!"no worker available: {error.message}")
  else s.resume t { call with stage := .backingOff }

/-- What the clocks and a fresh uuid give to a dispatch: the token, `lease_expire_at`, the text of
`dispatch_ts` and its value in milliseconds. -/
structure DispatchStamp where
  token : List UInt8
  expireSeconds : Int64
  dispatchText : String
  dispatchAtMs : Millis

/-- The request of a dispatch, before its lease is known. -/
def stampRequest (stamp : DispatchStamp) (req : EpisodeRequest) : EpisodeRequest :=
  { req with
    schedulerEpoch := s.plane.reports.serverEpoch
    leaseExpireAt := some { seconds := stamp.expireSeconds, nanos := 0 }
    metadata := req.metadata.insert "dispatch_ts" stamp.dispatchText }

/-- An attempt begins: a fresh lease and token, the pending entry, and the entry of the episode. -/
def beginAttempt (t : Nat) (call : Call) (clock : Clock) (stamp : DispatchStamp)
    (assignment : WorkerAssignment) : NativeServer :=
  let leaseId := s.plane.reports.leaseId s.plane.reports.nextLeaseSeq
  let stamped := s.stampRequest stamp call.req
  let req := { stamped with dispatchLeaseId := leaseId, dispatchToken := stamp.token }
  let key : PendingKey :=
    { episodeId := req.episodeId, attemptId := req.attemptId, dispatchLeaseId := leaseId }
  let attempt : Attempt :=
    { key, rx := s.plane.reports.channels.length, lease := s.leased.leases.length - 1
      workerId := assignment.workerId, dispatchAt := clock.instant,
        dispatchTs := clock.unixSeconds }
  let record : DispatchRecord :=
    { episodeId := req.episodeId, attemptId := req.attemptId, dispatchLeaseId := leaseId
      workerId := assignment.workerId, workerEndpoint := assignment.endpoint
      dispatchToken := stamp.token, serverEpoch := req.schedulerEpoch
      dispatchAtMs := stamp.dispatchAtMs, acceptedAtMs := none
      deadlineAtMs := Reports.saturateI64 (stamp.expireSeconds.toInt * 1000) }
  let entry : ActiveEpisode :=
    { attemptId := req.attemptId, workerId := assignment.workerId, owner := t }
  let s := { s with
    plane := s.plane.dispatch stamped assignment.workerId stamp.token call.enqueueAt clock.instant
      clock.unixSeconds
    activeEpisodes := s.activeEpisodes.insert req.episodeId entry }
  let stage : Stage :=
    if s.plane.reports.store.isSome then .puttingIntent attempt record s.plane.reports.send
    else .dispatching attempt
  s.resume t { call with
    req, stage, listed := true, nativeDispatch := some key, created := key :: call.created
    leases := attempt.lease :: call.leases }

/-- The head of the attempt loop and one round of the scheduling loop. -/
def schedule (t : Nat) (call : Call) (clock : Clock) (stamp : DispatchStamp) : NativeServer :=
  if s.maxAttempts < call.req.attemptId then
    s.exit t call (.error
      s!"episode {call.req.episodeId} exceeded max attempts ({s.maxAttempts.toNat})")
  else
    match s.leased.scheduler.reserve clock.instant call.req with
    | .ok (assignment, _) =>
      let leased := (s.leased.step (.reserve clock.instant call.req)).getD s.leased
      { s with leased }.beginAttempt t call clock stamp assignment
    | .error error =>
      if error = .noMatchingEnvType ∨ error = .noMatchingEnvPackage then
        s.resume t { call with stage := .preparing error }
      else s.scheduleFailed t call clock.instant error

/-- The answer of `prepare_worker_for_request`. -/
def prepared (t : Nat) (call : Call) (now : Instant) (error : ScheduleError) :
    Except String Bool → NativeServer
  | .error failure => s.exit t call (.error failure)
  | .ok true => s.resume t { call with stage := .scheduling }
  | .ok false => s.scheduleFailed t call now error

/-! ### An attempt -/

/-- The writer thread executes `put_dispatch_intent`, or SQLite fails. -/
def executeIntent (t : Nat) (call : Call) (attempt : Attempt) (record : DispatchRecord)
    (nowMs : Millis) (fault : Option String) (db : Db) : NativeServer :=
  let reports := s.plane.reports
  match fault.elim (db.putDispatchIntent nowMs record) Except.error with
  | .error error =>
    { s with plane := { s.plane with reports := { reports with healthy := false } } }.resume t
      { call with stage := .puttingIntent attempt record (some (.error error)) }
  | .ok db =>
    { s with plane := { s.plane with reports := { reports with store := some db } } }.resume t
      { call with stage := .puttingIntent attempt record (some (.ok ())) }

/-- `put_dispatch_intent` is answered. -/
def intentDone (t : Nat) (call : Call) (attempt : Attempt) : Except String Unit → NativeServer
  | .ok () => s.resume t { call with stage := .dispatching attempt }
  | .error error =>
    let s := (s.removePending attempt.key).endAttempt call attempt
    let reports := { s.plane.reports with ready := false }
    { s with plane := { s.plane with reports } }.exit t call (.error error)

/-- The deadline branch of both selects. -/
def timeOut (t : Nat) (call : Call) (attempt : Attempt) (clock : Clock) : NativeServer :=
  let s := s.removePending attempt.key
  let plane := { s.plane with
    reports := s.plane.reports.rememberResultOutcome clock.instant attempt.key
      "LATE_AFTER_TIMEOUT" "episode execution timeout" }
  ({ s with plane }.endAttempt call attempt).exitTimedOut t call clock "episode execution timeout"
    (some { enqueueAt := call.enqueueAt, dispatchAt := some attempt.dispatchAt
            dispatchTs := some attempt.dispatchTs })

/-- The cancel branch of both selects after the worker has been notified. -/
def notified (t : Nat) (call : Call) (attempt : Attempt) (clock : Clock) : NativeServer :=
  ((s.removePending attempt.key).endAttempt call attempt).exitCancelled t call clock

/-- The text occurs in the other. -/
def containsText (text part : String) : Bool := decide (part.toList <:+: text.toList)

/-- An attempt has failed: a worker without a free slot is asked again, and any other failure uses
up an attempt. -/
def retry (t : Nat) (call : Call) (reason : String) : NativeServer :=
  let call := { call with listed := false }
  if containsText reason "max_concurrency_acquire_timeout" then
    s.resume t { call with stage := .slotFull }
  else
    let req := { call.req with attemptId := call.req.attemptId + 1 }
    let stage : Stage := if req.attemptId ≤ s.maxAttempts then .retrying else .scheduling
    s.resume t { call with req, stage }

/-- The receiver branch of both selects. -/
def received (t : Nat) (call : Call) (attempt : Attempt) (clock : Clock) :
    Channel → Option NativeServer
  | .pending => none
  | .sent result =>
    some (((s.endAttempt call attempt).broadcast result).exit t call (.ok result))
  | .closed =>
    let s := (s.removePending attempt.key).endAttempt call attempt
    some (if call.cancelled then s.exitCancelled t call clock
      else s.retry t call "worker_channel_closed")

/-- `deterministic_dispatch_error_code` (prelude_and_guards.rs, 391-405). -/
def deterministicDispatchErrorCode (error : String) : Option ErrorCode :=
  let normalized := String.ofList (error.toList.map Char.toLower)
  if containsText normalized "err_env_step_failed" then some .errEnvStepFailed
  else if containsText normalized "execute_episode_failed" &&
      (containsText normalized "h2" &&
        (containsText normalized "cancel" || containsText normalized "reset")) then
    some .errEnvStepFailed
  else none

/-- The dispatch fails. -/
def dispatchFailed (t : Nat) (call : Call) (attempt : Attempt) (clock : Clock) (error : String) :
    NativeServer :=
  let s := (s.removePending attempt.key).endAttempt call attempt
  match deterministicDispatchErrorCode error with
  | some errorCode =>
    let result := failedResultFromRequest clock call.req "failed"
      s!"non-retryable worker execution failure: {error}" errorCode
      (some { enqueueAt := call.enqueueAt, dispatchAt := some attempt.dispatchAt
              dispatchTs := some attempt.dispatchTs })
    let result := withMetadata result "terminal_kind" "worker_execution_failed"
    let result := withMetadata result "retryable" "false"
    (s.broadcast result).exit t call (.ok result)
  | none => s.retry t call s!"dispatch_failed: {error}"

/-- The future of a call is dropped at an await: the guards release the worker and the entries. -/
def dropCall (t : Nat) (call : Call) : NativeServer :=
  let s := (call.stage.attempt).elim s fun attempt => s.release attempt.lease
  (s.dropGuard call.req.episodeId).resume t { call with stage := .dropped, listed := false }

/-! ### Cancellation -/

/-- The pending entries that a cancellation removes. -/
def cancelledKeys (episodeId : String) (attemptId : UInt32) : List PendingKey :=
  s.plane.reports.pendingResults.keys.filter fun key =>
    key.episodeId == episodeId && (attemptId == 0 || key.attemptId == attemptId)

/-- The call whose handle a cancellation names. -/
def cancelTarget (episodeId : String) (attemptId : UInt32) : Option (Nat × Call) :=
  match s.activeEpisodeHandles[episodeId]? with
  | none => none
  | some t =>
    match s.calls[t]? with
    | none => none
    | some call => if attemptId = 0 ∨ attemptId = call.handleAttempt then some (t, call) else none

def serverCancelled (episodeId : String) (attemptId : UInt32) : Bool :=
  (s.cancelTarget episodeId attemptId).isSome || !(s.cancelledKeys episodeId attemptId).isEmpty

/-- `cancel_episode`, up to the notification of the worker. -/
def cancelEpisode (now : Instant) (episodeId : String) (attemptId : UInt32) : NativeServer :=
  let keys := s.cancelledKeys episodeId attemptId
  let cancelled := s.serverCancelled episodeId attemptId
  let s := (s.cancelTarget episodeId attemptId).elim s fun target =>
    s.resume target.1 { target.2 with cancelled := true }
  let s := keys.foldl (fun s key => s.removePending key) s
  if cancelled then
    { s with plane := { s.plane with
        reports := s.plane.reports.rememberCancelOutcome now episodeId "LATE_AFTER_CANCEL"
          "episode cancelled" } }
  else s

/-! ### Steps -/

inductive Label
  | enter (t : Nat) (uuid : Uuid) (clock : Clock) (request : EpisodeRequest)
  | admission (t : Nat) (clock : Clock) (answer : Admission)
  | schedule (t : Nat) (clock : Clock) (stamp : DispatchStamp)
  | prepared (t : Nat) (now : Instant) (answer : Except String Bool)
  | executeIntent (t : Nat) (nowMs : Millis) (fault : Option String)
  | intentDone (t : Nat)
  | timeOut (t : Nat) (clock : Clock)
  | notice (t : Nat)
  | notified (t : Nat) (clock : Clock)
  | receive (t : Nat) (clock : Clock)
  | dispatched (t : Nat)
  | dispatchFailed (t : Nat) (clock : Clock) (error : String)
  | wake (t : Nat)
  | cancelWait (t : Nat) (clock : Clock)
  | agentList (t : Nat) (workerId : String)
  | agentClean (t : Nat)
  | agentReturn (t : Nat) (outcome : Except String EpisodeResult)
  | dropCall (t : Nat)
  | cancelEpisode (now : Instant) (episodeId : String) (attemptId : UInt32)
  | plane (label : Plane.Label)
  | scheduler (op : SchedulerOp)

/-- The steps of the plane that no native call takes: `report_result`, the sweeper, the commands of
other tasks, and a new registration of a worker's endpoint, which sends a result of its own. -/
def external : Plane.Label → Bool
  | .arrive .. | .advance .. | .execute .. | .dropCall .. | .sweep .. | .command .. => true
  | .withdraw _ result => result.isSome
  | .rememberOutcome .. => true
  | .dispatch .. | .recover .. | .rememberCancel .. => false

/-- A step of call `t` at its stage. -/
def ofCall (t : Nat) (segment : Call → Stage → Option NativeServer) : Option NativeServer :=
  match s.calls[t]? with
  | none => none
  | some call => segment call call.stage

/-- An agent backend puts the entry of its episode into the table again, or removes it. -/
def agentEntry (t : Nat) (call : Call) (workerId : Option String) : NativeServer :=
  match workerId with
  | some workerId =>
    let entry : ActiveEpisode := { attemptId := call.req.attemptId, workerId, owner := t }
    { s with activeEpisodes := s.activeEpisodes.insert call.req.episodeId entry }.resume t
      { call with listed := true }
  | none =>
    { s with activeEpisodes := s.activeEpisodes.erase call.req.episodeId }.resume t
      { call with listed := false }

/-- The stages at which the future of a call awaits something. -/
def Stage.awaits : Stage → Bool
  | .scheduling | .returned _ | .dropped => false
  | _ => true

/-- One step of `execute_episode_inner` (episode.rs, 112-214) or of the tables around it. -/
def step (specs : AgentSpecs) (sha256Hex : Bytes → String) (s : NativeServer) :
    Label → Option NativeServer
  | .enter t uuid clock request =>
    if s.calls.contains t then none else some (s.enter t uuid clock request)
  | .admission t clock answer => s.ofCall t fun call stage =>
    match stage with
    | .queued => s.admission specs t call clock answer
    | _ => none
  | .schedule t clock stamp => s.ofCall t fun call stage =>
    match stage with
    | .scheduling => some (s.schedule t call clock stamp)
    | _ => none
  | .prepared t now answer => s.ofCall t fun call stage =>
    match stage with
    | .preparing error => some (s.prepared t call now error answer)
    | _ => none
  | .executeIntent t nowMs fault => s.ofCall t fun call stage =>
    match stage, s.plane.reports.store with
    | .puttingIntent attempt record none, some db =>
      some (s.executeIntent t call attempt record nowMs fault db)
    | _, _ => none
  | .intentDone t => s.ofCall t fun call stage =>
    match stage with
    | .puttingIntent attempt _ (some reply) => some (s.intentDone t call attempt reply)
    | _ => none
  | .timeOut t clock => s.ofCall t fun call stage =>
    match stage with
    | .dispatching attempt | .waiting attempt =>
      if call.deadline ≤ clock.instant then some (s.timeOut t call attempt clock) else none
    | _ => none
  | .notice t => s.ofCall t fun call stage =>
    match stage with
    | .dispatching attempt | .waiting attempt =>
      if call.cancelled then some (s.resume t { call with stage := .notifying attempt }) else none
    | _ => none
  | .notified t clock => s.ofCall t fun call stage =>
    match stage with
    | .notifying attempt => some (s.notified t call attempt clock)
    | _ => none
  | .receive t clock => s.ofCall t fun call stage =>
    match stage with
    | .dispatching attempt | .waiting attempt =>
      s.received t call attempt clock (s.plane.reports.channels.getD attempt.rx .pending)
    | _ => none
  | .dispatched t => s.ofCall t fun call stage =>
    match stage with
    | .dispatching attempt => some (s.resume t { call with stage := .waiting attempt })
    | _ => none
  | .dispatchFailed t clock error => s.ofCall t fun call stage =>
    match stage with
    | .dispatching attempt => some (s.dispatchFailed t call attempt clock error)
    | _ => none
  | .wake t => s.ofCall t fun call stage =>
    match stage with
    | .backingOff | .slotFull | .retrying => some (s.resume t { call with stage := .scheduling })
    | _ => none
  | .cancelWait t clock => s.ofCall t fun call stage =>
    match stage with
    | .backingOff | .retrying =>
      if call.cancelled then some (s.exitCancelled t call clock) else none
    | _ => none
  | .agentList t workerId => s.ofCall t fun call stage =>
    match stage with
    | .agent => some (s.agentEntry t call (some workerId))
    | _ => none
  | .agentClean t => s.ofCall t fun call stage =>
    match stage with
    | .agent => some (s.agentEntry t call none)
    | _ => none
  | .agentReturn t outcome => s.ofCall t fun call stage =>
    match stage with
    | .agent => some (s.exit t call outcome)
    | _ => none
  | .dropCall t => s.ofCall t fun call stage =>
    if Stage.awaits stage then some (s.dropCall t call) else none
  | .cancelEpisode now episodeId attemptId => some (s.cancelEpisode now episodeId attemptId)
  | .plane label =>
    if external label then
      match Plane.step sha256Hex s.plane label with
      | none => none
      | some plane => some { s with plane }
    else none
  | .scheduler op =>
    match op with
    | .reserve _ _ | .release _ => none
    | _ =>
      match s.leased.step op with
      | none => none
      | some leased => some { s with leased }

/-- A server that starts. -/
structure Initial (sha256Hex : Bytes → String) (s : NativeServer) : Prop where
  plane : (Plane.system sha256Hex).init s.plane
  leased : LeasedScheduler.system.init s.leased
  active : s.activeEpisodes = ∅
  handles : s.activeEpisodeHandles = ∅
  calls : s.calls = ∅
  broadcasts : s.broadcasts = []

/-- The runs of a server that starts. -/
def system (specs : AgentSpecs) (sha256Hex : Bytes → String) : System NativeServer Label where
  init := Initial sha256Hex
  step := step specs sha256Hex

end NativeServer

end UEnv.Native
