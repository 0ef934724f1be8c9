import UEnv.Lib.Runs
import UEnv.Lib.Tables
import UEnv.Proto.Episode

/-!
# Dispatching an episode to a worker

`dispatch_episode` and `cancel_episode` of `grpc_server/worker_service.rs`. A dispatch is cut at
every await: the sections under the locks of `completed`, `active_leases` and
`active_cancellations`, the wait for a permit, the execution task and the report task, which follow
one another. `active_leases` stays locked while a registration waits for `active_cancellations`.
Metrics, the heartbeat frames and the write-ahead log are left out.
-/

namespace UEnv.Worker

open Tables Runs Proto

/-- The pair of an episode and its attempt. -/
structure EpisodeKey where
  episodeId : String
  attemptId : UInt32
  deriving DecidableEq

namespace EpisodeKey

def order : EpisodeKey → EpisodeKey → Ordering :=
  compareLex (compareOn episodeId) (compareOn attemptId)

instance : Ord EpisodeKey := ⟨order⟩

instance : Std.TransOrd EpisodeKey :=
  inferInstanceAs (Std.TransCmp (compareLex (compareOn episodeId) (compareOn attemptId)))

instance : Std.LawfulEqOrd EpisodeKey where
  eq_of_compare := by
    rintro ⟨episodeId, attemptId⟩ ⟨episodeId', attemptId'⟩ same
    change (compare episodeId episodeId').then (compare attemptId attemptId') = .eq at same
    rw [Ordering.then_eq_eq, Std.compare_eq_iff_eq, Std.compare_eq_iff_eq] at same
    obtain ⟨rfl, rfl⟩ := same
    rfl
  compare_self := by
    intro key
    exact Std.ReflOrd.compare_self

end EpisodeKey

def key (episode : EpisodeRequest) : EpisodeKey := ⟨episode.episodeId, episode.attemptId⟩

/-- A cancellation token is the number of its making. -/
structure ActiveWorkerEpisode where
  dispatchLeaseId : String
  dispatchToken : List UInt8
  cancelToken : Nat

inductive DisconnectDispatchPolicy
  | reject | queue
  deriving DecidableEq

inductive GrpcCode
  | invalidArgument | unavailable | failedPrecondition | resourceExhausted | cancelled
  | deadlineExceeded | internal
  deriving DecidableEq

structure GrpcStatus where
  code : GrpcCode
  message : String
  deriving DecidableEq

structure DispatchEpisodeRequest where
  episode : Option EpisodeRequest

/-- The checks of a dispatch before it looks at any table. -/
def DispatchEpisodeRequest.check (req : DispatchEpisodeRequest) (policy : DisconnectDispatchPolicy)
    (connected : Bool) (now : Int64) : Except GrpcStatus EpisodeRequest := do
  let some episode := req.episode | throw ⟨.invalidArgument, "missing episode"⟩
  if !connected && policy = .reject then
    throw ⟨.unavailable, "control_plane_disconnected"⟩
  if episode.dispatchLeaseId = "" then
    throw ⟨.failedPrecondition, "missing dispatch_lease_id"⟩
  if let some expireAt := episode.leaseExpireAt then
    if expireAt.seconds < now then
      throw ⟨.failedPrecondition, "lease_expired"⟩
  return episode

/-- Where a dispatch stands. `spawned` says whether the call has returned its stream. -/
inductive DispatchPhase
  | lookup
  | register
  | registering (fresh : Bool)
  | permit (token : Nat)
  | permitted (token : Nat)
  | executing (token : Nat)
  | streaming
  | persisting
  | reporting
  | completing
  | clearing (spawned : Bool) (status : Option GrpcStatus)
  | cleared (spawned : Bool) (status : Option GrpcStatus)
  | finished (status : Option GrpcStatus)
  | dropped

structure DispatchCall where
  episode : EpisodeRequest
  phase : DispatchPhase

inductive PermitOutcome
  | acquired | closed | timedOut | cancelled

/-- `panicked`: the task of the execution unwinds, as at the slice of model_client.rs, 259. -/
inductive ExecutionOutcome
  | ok | failed (err : String) | timedOut | cancelled | panicked
  deriving DecidableEq

/-- What a step of a dispatch is answered. -/
structure DispatchAnswer where
  permit : PermitOutcome := .acquired
  execution : ExecutionOutcome := .ok
  persisted : Bool := true

structure CancelWorkerEpisodeRequest where
  episodeId : String
  attemptId : UInt32
  dispatchLeaseId : String
  dispatchToken : List UInt8

structure CancelWorkerEpisodeResponse where
  accepted : Bool
  code : String
  message : String
  deriving DecidableEq

inductive ServiceLabel
  | dispatch (t : Nat) (req : DispatchEpisodeRequest) (connected : Bool) (now : Int64)
  | step (t : Nat) (answer : DispatchAnswer)
  | drop (t : Nat)
  | cancel (req : CancelWorkerEpisodeRequest)

/-- The tables of the service, the dispatch that keeps `active_leases` locked, the tokens made and
cancelled, and the dispatches. -/
structure WorkerService where
  activeLeases : Map EpisodeKey String := ∅
  activeCancellations : Map EpisodeKey ActiveWorkerEpisode := ∅
  completed : List EpisodeKey := []
  leasesLock : Option Nat := none
  tokens : Nat := 0
  cancelled : List Nat := []
  calls : Map Nat DispatchCall := ∅

namespace WorkerService

variable (s : WorkerService) (t : Nat) (call : DispatchCall)

def goto (phase : DispatchPhase) : WorkerService :=
  { s with calls := s.calls.insert t { call with phase } }

/-- The first section of a registration, under the lock of `active_leases`. -/
def register : WorkerService :=
  match s.activeLeases[key call.episode]? with
  | some existing =>
    if existing ≠ call.episode.dispatchLeaseId then
      s.goto t call (.finished (some ⟨.failedPrecondition, "lease_conflict"⟩))
    else { s with leasesLock := some t }.goto t call (.registering false)
  | none =>
    { s with
      activeLeases := s.activeLeases.insert (key call.episode) call.episode.dispatchLeaseId
      leasesLock := some t }.goto t call (.registering true)

/-- The second section of a registration, under the locks of both tables. -/
def enroll : WorkerService :=
  let s := { s with leasesLock := none }
  match s.activeCancellations[key call.episode]? with
  | some active =>
    if active.dispatchLeaseId ≠ call.episode.dispatchLeaseId ∨
        active.dispatchToken ≠ call.episode.dispatchToken then
      s.goto t call (.finished (some ⟨.failedPrecondition, "lease_conflict"⟩))
    else s.goto t call (.permit active.cancelToken)
  | none =>
    let active : ActiveWorkerEpisode :=
      { dispatchLeaseId := call.episode.dispatchLeaseId
        dispatchToken := call.episode.dispatchToken
        cancelToken := s.tokens }
    { s with
      activeCancellations := s.activeCancellations.insert (key call.episode) active
      tokens := s.tokens + 1 }.goto t call (.permit s.tokens)

/-- The end of the wait for a permit. -/
def permit (token : Nat) : PermitOutcome → Option WorkerService
  | .acquired => some (s.goto t call (.permitted token))
  | .closed => some (s.goto t call
    (.clearing false (some ⟨.resourceExhausted, "max_concurrency_reached"⟩)))
  | .timedOut => some (s.goto t call
    (.clearing false (some ⟨.resourceExhausted, "max_concurrency_acquire_timeout"⟩)))
  | .cancelled =>
    if token ∈ s.cancelled then
      some (s.goto t call (.clearing false (some ⟨.cancelled, "episode_cancelled"⟩)))
    else none

/-- The end of the execution. -/
def execution (token : Nat) : ExecutionOutcome → Option WorkerService
  | .ok => some (s.goto t call .streaming)
  | .failed err => some (s.goto t call
    (.clearing true (some ⟨.internal, "execute_episode_failed: " ++ err⟩)))
  | .timedOut => some (s.goto t call
    (.clearing true (some ⟨.deadlineExceeded, "episode_timeout"⟩)))
  -- the tables are cleared behind the loop of the task only
  | .panicked => some (s.goto t call .dropped)
  | .cancelled =>
    if token ∈ s.cancelled then
      some (s.goto t call (.clearing true (some ⟨.cancelled, "episode_cancelled"⟩)))
    else none

/-- One step of a dispatch. -/
def advance (a : DispatchAnswer) : Option WorkerService :=
  match call.phase with
  | .lookup =>
    if key call.episode ∈ s.completed then some (s.goto t call (.finished none))
    else some (s.goto t call .register)
  | .register => if s.leasesLock = none then some (s.register t call) else none
  | .registering _ => some (s.enroll t call)
  | .permit token => s.permit t call token a.permit
  | .permitted token => some (s.goto t call (.executing token))
  | .executing token => s.execution t call token a.execution
  | .streaming => some (s.goto t call .persisting)
  | .persisting =>
    some (s.goto t call (if a.persisted then .reporting else .clearing true none))
  | .reporting => some (s.goto t call .completing)
  | .completing =>
    some ({ s with completed := key call.episode :: s.completed }.goto t call (.clearing true none))
  | .clearing spawned status =>
    if s.leasesLock = none then
      some ({ s with activeLeases := s.activeLeases.erase (key call.episode) }.goto t call
        (.cleared spawned status))
    else none
  | .cleared _ status =>
    some ({ s with activeCancellations := s.activeCancellations.erase (key call.episode) }.goto t
      call (.finished status))
  | .finished _ | .dropped => none

/-- The call is dropped before it has returned. -/
def drop : Option WorkerService :=
  match call.phase with
  | .registering _ => some ({ s with leasesLock := none }.goto t call .dropped)
  | .lookup | .register | .permit _ | .permitted _ | .clearing false _ | .cleared false _ =>
    some (s.goto t call .dropped)
  | _ => none

/-- `cancel_episode` (worker_service.rs, 527-555). -/
def cancelEpisode (req : CancelWorkerEpisodeRequest) :
    WorkerService × CancelWorkerEpisodeResponse :=
  match s.activeCancellations[(⟨req.episodeId, req.attemptId⟩ : EpisodeKey)]? with
  | none => (s, ⟨false, "UNKNOWN_EPISODE", "episode is not active on this worker"⟩)
  | some active =>
    if active.dispatchLeaseId ≠ req.dispatchLeaseId ∨ active.dispatchToken ≠ req.dispatchToken then
      (s, ⟨false, "LEASE_MISMATCH", "dispatch lease/token mismatch"⟩)
    else
      ({ s with cancelled := active.cancelToken :: s.cancelled },
        ⟨true, "ACCEPTED", "cancel signalled"⟩)

end WorkerService

/-- Any number of dispatches and cancellations, interleaved. -/
def workerService (policy : DisconnectDispatchPolicy) : System WorkerService ServiceLabel where
  init s := s = {}
  step s
    | .dispatch t req connected now =>
      match req.check policy connected now with
      | .error _ => some s
      | .ok episode =>
        if s.calls.contains t then none
        else some { s with calls := s.calls.insert t { episode, phase := .lookup } }
    | .step t answer => (s.calls[t]?).bind fun call => s.advance t call answer
    | .drop t => (s.calls[t]?).bind fun call => s.drop t call
    | .cancel req => some (s.cancelEpisode req).1

end UEnv.Worker
