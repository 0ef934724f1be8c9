import UEnv.Admission
import UEnv.Scheduler.Reservation

/-!
# Capacity of the workers and the admission target

The operations through which capacity enters and leaves the scheduler, each next to what it
tells the admission controller: `register_worker`, `supersede_same_endpoint_workers` and
`worker_heartbeat` of `control_plane.rs`, `drain_worker` of `service/admin.rs`, the leases and
the permits. None of them awaits between the scheduler and the admission controller, so each
is one step; the grace period of a drain ends in a step of its own. The part of
`supersede_same_endpoint_workers` that fails the pending dispatches of the stale workers
touches neither side and is left out.
-/

namespace UEnv.ControlPlane

open UEnv.Proto UEnv.Records UEnv.Runs UEnv.Scheduler RoundRobinScheduler

/-- `RegisterWorkerRequest`; the package and pool messages have the fields of the scheduler's
records, which the `*_from_proto` conversions copy. -/
structure RegisterWorkerRequest where
  workerId : String := ""
  supportedEnvTypes : List String := []
  resource : Option ResourceSpec := none
  endpoint : String := ""
  maxConcurrent : UInt32 := 0
  gatewayPublicUrl : String := ""
  syncedEnvPackages : List SyncedEnvPackageInfo := []
  load : Int32 := 0
  maxLoad : Int32 := 0
  platformFeatures : List String := []
  backendKinds : List String := []
  trajectorySchemas : List String := []
  toolSchemas : List String := []
  packageStates : List EnvPackageStateInfo := []
  poolSummary : List WorkerPoolSummaryInfo := []
  poolSlots : List WorkerPoolSlotInfo := []

/-- The fields of `HeartbeatRequest` that the handler uses for more than logging. -/
structure HeartbeatRequest where
  workerId : String := ""
  load : Int32 := 0
  maxLoad : Int32 := 0
  runtime : RuntimeState := {}

structure DrainWorkerRequest where
  workerId : String
  gracePeriodSec : Int32

/-- `x.max(0) as u32`. -/
def clampToU32 (x : Int32) : UInt32 := if x < 0 then 0 else x.toUInt32

/-- Scheduler, admission controller and the drain timers that have not fired: worker id and
the capacity read when the drain was requested. -/
structure CapacityState where
  leased : LeasedScheduler
  admission : AdmissionController
  timers : List (String × UInt32)

namespace CapacityState

variable (σ : CapacityState)

def scheduler : RoundRobinScheduler := σ.leased.scheduler

def withScheduler (s : RoundRobinScheduler) : CapacityState :=
  { σ with leased := { σ.leased with scheduler := s } }

/-- The id under which a request registers; `generated` is a fresh UUID. -/
def registeredId (req : RegisterWorkerRequest) (generated : String) : String :=
  if req.workerId.isEmpty || req.workerId == "auto" then generated else req.workerId

/-- The capacity that a registration declares. -/
def registeredCapacity (req : RegisterWorkerRequest) : UInt32 :=
  if 0 < req.maxLoad then req.maxLoad.toUInt32
  else if 0 < req.maxConcurrent then req.maxConcurrent
  else 1

/-- The record that `register_worker` of the control plane hands to the scheduler. -/
def registeredInfo (now : Instant) (req : RegisterWorkerRequest) (generated : String) :
    WorkerInfo where
  workerId := registeredId req generated
  endpoint := req.endpoint
  supportedEnvTypes := req.supportedEnvTypes
  capacity := registeredCapacity req
  currentLoad := clampToU32 req.load
  reservedLoad := 0
  reportedLoad := clampToU32 req.load
  resource := req.resource
  draining := false
  lastReportAt := some now
  lastHeartbeatAt := some now
  gatewayPublicUrl := req.gatewayPublicUrl
  syncedEnvPackages := req.syncedEnvPackages
  platformFeatures := req.platformFeatures
  backendKinds := req.backendKinds
  trajectorySchemas := req.trajectorySchemas
  toolSchemas := req.toolSchemas
  packageStates := req.packageStates
  poolSummary := req.poolSummary
  poolSlots := req.poolSlots

/-- `supersede_same_endpoint_workers`, the scheduler's side. -/
def supersedeSameEndpointWorkers (s : RoundRobinScheduler) (newWorkerId endpoint : String) :
    RoundRobinScheduler :=
  let staleIds := (s.workers.filter fun w =>
    w.endpoint == endpoint && w.workerId != newWorkerId).map WorkerInfo.workerId
  staleIds.foldl RoundRobinScheduler.unregisterWorker s

/-- `register_worker` of the control plane. -/
def registerWorker (now : Instant) (req : RegisterWorkerRequest) (generated : String) :
    CapacityState :=
  let info := registeredInfo now req generated
  let (registration, scheduler) := σ.scheduler.registerWorker info
  if registration.accepted then
    { σ.withScheduler (supersedeSameEndpointWorkers scheduler info.workerId req.endpoint) with
      admission := σ.admission.onCapacityChanged registration.oldCapacity registration.newCapacity }
  else σ.withScheduler scheduler

/-- One heartbeat of `worker_heartbeat`. -/
def heartbeat (now : Instant) (req : HeartbeatRequest) : CapacityState :=
  let (capacityChange, scheduler) := σ.scheduler.updateWorkerLoad now req.workerId
    (clampToU32 req.load) (clampToU32 req.maxLoad)
  let scheduler := scheduler.updateWorkerRuntimeState req.workerId req.runtime
  match capacityChange with
  | some (oldCapacity, newCapacity) =>
    { σ.withScheduler scheduler with
      admission := σ.admission.onCapacityChanged oldCapacity newCapacity }
  | none => σ.withScheduler scheduler

/-- `drain_worker`: with a grace period the removal is left to a timer. -/
def drainWorker (req : DrainWorkerRequest) : CapacityState :=
  let drainedCapacity :=
    if σ.admission.dynamic then
      ((σ.scheduler.worker? req.workerId).map WorkerInfo.capacity).getD 0
    else 0
  let scheduler := σ.scheduler.setWorkerDraining req.workerId
  if 0 < req.gracePeriodSec then
    { σ.withScheduler scheduler with timers := σ.timers ++ [(req.workerId, drainedCapacity)] }
  else
    { σ.withScheduler (scheduler.unregisterWorker req.workerId) with
      admission := σ.admission.onWorkerRemoved drainedCapacity }

/-- The end of one grace period. -/
def fireTimer (timer : String × UInt32) : CapacityState :=
  { σ.withScheduler (σ.scheduler.unregisterWorker timer.1) with
    admission := σ.admission.onWorkerRemoved timer.2 }

/-- The state in which every pending grace period has ended. -/
def afterTimers : CapacityState :=
  { σ.timers.foldl fireTimer σ with timers := [] }

/-- The steps of the capacity machinery. -/
inductive Label
  | registerWorker (now : Instant) (req : RegisterWorkerRequest) (generated : String)
  | heartbeat (now : Instant) (req : HeartbeatRequest)
  | drainWorker (req : DrainWorkerRequest)
  | drainTimer (i : Nat)
  | reserve (now : Instant) (request : EpisodeRequest)
  | releaseLease (i : Nat)
  | acquirePermit
  | dropPermit
  | shrinkTask (i : Nat)

def stepSemaphore (f : Semaphore → Option Semaphore) : Option CapacityState :=
  (σ.admission.semaphore.bind f).map fun semaphore =>
    { σ with admission := { σ.admission with semaphore := some semaphore } }

def step : Label → Option CapacityState
  | .registerWorker now req generated => some (σ.registerWorker now req generated)
  | .heartbeat now req => some (σ.heartbeat now req)
  | .drainWorker req => some (σ.drainWorker req)
  | .drainTimer i =>
    (σ.timers[i]?).map fun timer => { σ.fireTimer timer with timers := σ.timers.eraseIdx i }
  | .reserve now request =>
    (σ.leased.step (.reserve now request)).map fun leased => { σ with leased }
  | .releaseLease i => (σ.leased.step (.release i)).map fun leased => { σ with leased }
  | .acquirePermit => σ.stepSemaphore Semaphore.acquire
  | .dropPermit => σ.stepSemaphore Semaphore.dropPermit
  | .shrinkTask i => σ.stepSemaphore (Semaphore.forget · i)

/-- A server without workers and with `queue_dynamic`. -/
def start (degradedThresholdSecs heartbeatTimeoutSecs : UInt64) (config : QueueConfig) :
    CapacityState where
  leased := { scheduler := .new degradedThresholdSecs heartbeatTimeoutSecs, leases := [] }
  admission := .new config
  timers := []

def system : System CapacityState Label where
  init σ := ∃ degraded heartbeat config, config.queueDynamic = true ∧
    σ = start degraded heartbeat config
  step := step

/-- The capacity of a worker, as far as it accepts work. -/
def accepting (w : WorkerInfo) : Nat := if w.draining then 0 else w.capacity.toNat

/-- The capacity of the workers that accept work. -/
def acceptingCapacity (s : RoundRobinScheduler) : Nat := (s.workers.map accepting).sum

/-- The net target is the accepting capacity once the pending drain timers have fired. -/
def TargetMatches : Prop :=
  σ.afterTimers.admission.netTarget = acceptingCapacity σ.afterTimers.scheduler

/-! ## Accepting capacity under the scheduler's operations -/

section Accepting

variable {s t : RoundRobinScheduler} {id : String} {f : WorkerInfo → WorkerInfo}

/-- The accepting capacity under one id, zero when no worker has it. -/
def acceptingAt (s : RoundRobinScheduler) (id : String) : Nat :=
  ((s.worker? id).map accepting).getD 0

theorem acceptingAt_of_draining (marked : ∀ w, s.worker? id = some w → w.draining = true) :
    acceptingAt s id = 0 := by
  unfold acceptingAt
  cases found : s.worker? id with
  | none => rfl
  | some w => simp [accepting, marked w found]

theorem acceptingAt_of_accepting (open' : ∀ w, s.worker? id = some w → w.draining = false) :
    acceptingAt s id = (((s.worker? id).map WorkerInfo.capacity).getD 0).toNat := by
  unfold acceptingAt
  cases found : s.worker? id with
  | none => rfl
  | some w => simp [accepting, open' w found]

section

variable (unique : s.Unique)
include unique

theorem acceptingCapacity_updateWorker (id : String) (keeps : ∀ w, (f w).workerId = w.workerId) :
    acceptingCapacity (s.updateWorker id f) + acceptingAt s id =
      acceptingCapacity s + ((s.worker? id).map fun w => accepting (f w)).getD 0 :=
  sum_update unique keeps

theorem acceptingCapacity_updateWorker_of_same (keeps : ∀ w, (f w).workerId = w.workerId)
    (same : ∀ w, s.worker? id = some w → accepting (f w) = accepting w) :
    acceptingCapacity (s.updateWorker id f) = acceptingCapacity s := by
  have balance := acceptingCapacity_updateWorker unique id keeps
  unfold acceptingAt at balance
  cases found : s.worker? id with
  | none =>
    simp [found] at balance
    exact balance
  | some w =>
    simp [found, same w found] at balance
    exact balance

theorem acceptingCapacity_setWorkerDraining (id : String) :
    acceptingCapacity (s.setWorkerDraining id) + acceptingAt s id = acceptingCapacity s := by
  have balance := acceptingCapacity_updateWorker (f := WorkerInfo.drain) unique id (fun _ => rfl)
  have closed : ((s.worker? id).map fun w => accepting (WorkerInfo.drain w)).getD 0 = 0 := by
    cases s.worker? id with
    | none => rfl
    | some w => rfl
  rw [closed] at balance
  exact balance

theorem acceptingCapacity_unregisterWorker (id : String) :
    acceptingCapacity (s.unregisterWorker id) + acceptingAt s id = acceptingCapacity s := by
  rw [← acceptingCapacity_setWorkerDraining unique id]
  congr 1
  refine sum_filter fun w member dropped => ?_
  have named : w.workerId = id := by
    have := (not_or.mp (of_decide_eq_false dropped)).1
    exact not_not.mp this
  have found : (s.setWorkerDraining id).worker? id = some w :=
    (mem_workers_iff (unique.setWorkerDraining id)).mpr ⟨member, named⟩
  rw [worker?_setWorkerDraining, if_pos rfl] at found
  obtain ⟨w₀, _, rfl⟩ := Option.map_eq_some_iff.mp found
  rfl

theorem acceptingCapacity_replaceWorker (info : WorkerInfo) :
    acceptingCapacity (s.replaceWorker info) + acceptingAt s info.workerId =
      acceptingCapacity s + accepting info := by
  have split := sum_eq_lookup_add unique info.workerId accepting
  unfold acceptingCapacity acceptingAt worker? replaceWorker
  rw [split, List.map_append, List.sum_append]
  simp only [List.map_cons, List.map_nil, List.sum_cons, List.sum_nil]
  omega

end

/-- Every record of `t` continues one of `s`, and draining is never undone. -/
def DrainingPersists (s t : RoundRobinScheduler) : Prop :=
  ∀ id w, t.worker? id = some w → ∃ w₀, s.worker? id = some w₀ ∧ (w₀.draining → w.draining)

theorem DrainingPersists.trans {u : RoundRobinScheduler} (first : DrainingPersists s t)
    (second : DrainingPersists t u) : DrainingPersists s u := by
  intro id w present
  obtain ⟨w₁, found₁, kept₁⟩ := second id w present
  obtain ⟨w₀, found₀, kept₀⟩ := first id w₁ found₁
  exact ⟨w₀, found₀, fun marked => kept₁ (kept₀ marked)⟩

theorem DrainingPersists.updateWorker (keeps : ∀ w, (f w).workerId = w.workerId)
    (persists : ∀ w, w.draining → (f w).draining) : DrainingPersists s (s.updateWorker id f) := by
  intro id' w present
  rw [worker?_updateWorker keeps] at present
  by_cases named : id' = id
  · rw [if_pos named] at present
    obtain ⟨w₀, found, rfl⟩ := Option.map_eq_some_iff.mp present
    exact ⟨w₀, found, persists w₀⟩
  · rw [if_neg named] at present
    exact ⟨w, present, fun marked => marked⟩

theorem DrainingPersists.retain (unique : s.Unique) (keep : WorkerInfo → Bool) :
    DrainingPersists s (s.retain keep) := by
  intro id' w present
  exact ⟨w, LeasedScheduler.worker?_of_retain unique present, fun marked => marked⟩

theorem DrainingPersists.unregisterWorker (unique : s.Unique) :
    DrainingPersists s (s.unregisterWorker id) := by
  have first : DrainingPersists s (s.setWorkerDraining id) :=
    DrainingPersists.updateWorker (fun _ => rfl) (fun _ _ => rfl)
  exact first.trans (DrainingPersists.retain (unique.setWorkerDraining id) _)

/-- Unregistering workers that are all draining does not change the accepting capacity. -/
theorem unregister_draining (ids : List String) (unique : s.Unique)
    (marked : ∀ id ∈ ids, ∀ w, s.worker? id = some w → w.draining = true) :
    (ids.foldl RoundRobinScheduler.unregisterWorker s).Unique ∧
      DrainingPersists s (ids.foldl RoundRobinScheduler.unregisterWorker s) ∧
      acceptingCapacity (ids.foldl RoundRobinScheduler.unregisterWorker s) =
        acceptingCapacity s := by
  induction ids generalizing s with
  | nil => exact ⟨unique, fun id w present => ⟨w, present, fun marked => marked⟩, rfl⟩
  | cons id rest ih =>
    have persists : DrainingPersists s (s.unregisterWorker id) :=
      DrainingPersists.unregisterWorker unique
    have stillMarked : ∀ id' ∈ rest, ∀ w, (s.unregisterWorker id).worker? id' = some w →
        w.draining = true := by
      intro id' member w present
      obtain ⟨w₀, found, kept⟩ := persists id' w present
      exact kept (marked id' (List.mem_cons_of_mem _ member) w₀ found)
    obtain ⟨uniqueRest, persistsRest, sameRest⟩ := ih (unique.unregisterWorker id) stillMarked
    have same := acceptingCapacity_unregisterWorker unique id
    rw [acceptingAt_of_draining (marked id List.mem_cons_self)] at same
    exact ⟨uniqueRest, persists.trans persistsRest, sameRest.trans same⟩

end Accepting

end CapacityState

end UEnv.ControlPlane
