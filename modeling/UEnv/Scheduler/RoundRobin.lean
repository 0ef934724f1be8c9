import Mathlib.Data.List.FinRange
import UEnv.Lib.Records
import UEnv.Lib.Saturating
import UEnv.Proto.Episode

/-!
# The round-robin scheduler

The worker table of `scheduler/mod.rs` and `scheduler/traits.rs`: registration, draining,
heartbeat updates, selection and reservation. An `Instant` is a number of nanoseconds and the
operations that read the clock take it as the argument `now`. Logging is left out.
-/

namespace UEnv.Scheduler

open UEnv.Proto UEnv.Records

/-- `std::time::Instant`, in nanoseconds from an arbitrary origin. -/
abbrev Instant := Nat

/-- `t.elapsed().as_secs()` at time `now`. -/
def elapsedSecs (now t : Instant) : Nat := (now - t) / 1000000000

/-- traits.rs, 28-36. -/
structure EnvPackageStateInfo where
  packageId : String := ""
  version : String := ""
  bundleDigest : String := ""
  state : String := ""
  envType : String := ""
  backendKind : String := ""
  message : String := ""
  deriving DecidableEq

/-- traits.rs, 39-49. -/
structure WorkerPoolSummaryInfo where
  envType : String := ""
  variant : String := ""
  packageId : String := ""
  packageVersion : String := ""
  backendKind : String := ""
  ready : Int32 := 0
  busy : Int32 := 0
  warming : Int32 := 0
  capacity : Int32 := 0
  deriving DecidableEq

/-- traits.rs, 52-62. -/
structure WorkerPoolSlotInfo where
  slotId : String := ""
  status : String := ""
  envType : String := ""
  variant : String := ""
  packageId : String := ""
  packageVersion : String := ""
  backendKind : String := ""
  episodeId : String := ""
  sessionId : String := ""
  deriving DecidableEq

structure SyncedEnvPackageInfo where
  packageId : String
  version : String
  bundleDigest : String
  deriving DecidableEq

/-- `WorkerInfo`: the scheduler's record of one worker. -/
structure WorkerInfo where
  workerId : String := ""
  endpoint : String := ""
  supportedEnvTypes : List String := []
  capacity : UInt32 := 0
  currentLoad : UInt32 := 0
  /-- Load the server has assigned, whether or not the worker reports it yet. -/
  reservedLoad : UInt32 := 0
  /-- Load of the last heartbeat. -/
  reportedLoad : UInt32 := 0
  resource : Option ResourceSpec := none
  draining : Bool := false
  lastReportAt : Option Instant := none
  lastHeartbeatAt : Option Instant := none
  gatewayPublicUrl : String := ""
  syncedEnvPackages : List SyncedEnvPackageInfo := []
  platformFeatures : List String := []
  backendKinds : List String := []
  trajectorySchemas : List String := []
  toolSchemas : List String := []
  packageStates : List EnvPackageStateInfo := []
  poolSummary : List WorkerPoolSummaryInfo := []
  poolSlots : List WorkerPoolSlotInfo := []
  deriving DecidableEq

/-- `WorkerRegistration`: what a registration did to the capacity. -/
structure WorkerRegistration where
  accepted : Bool
  oldCapacity : UInt32
  newCapacity : UInt32
  deriving DecidableEq

structure WorkerAssignment where
  workerId : String
  endpoint : String
  gatewayPublicUrl : String
  deriving DecidableEq

inductive ScheduleError
  | noWorkerAvailable | noMatchingEnvType | allWorkersAtCapacity | noMatchingEnvPackage
  | noPreparableWorker
  deriving DecidableEq

/-- The `#[error]` texts. -/
def ScheduleError.message : ScheduleError → String
  | .noWorkerAvailable => "no worker available"
  | .noMatchingEnvType => "no worker supports env type"
  | .allWorkersAtCapacity => "all workers at capacity"
  | .noMatchingEnvPackage => "no worker has synced the requested env_package"
  | .noPreparableWorker => "no worker can prepare the requested environment"

/-- `effective_load` (scheduler/mod.rs, 267-269). -/
def effectiveLoad (w : WorkerInfo) : UInt32 := max w.reservedLoad w.reportedLoad

/-- `is_worker_degraded` (scheduler/mod.rs, 247-260). -/
def isWorkerDegraded (now : Instant) (w : WorkerInfo)
    (thresholdSecs heartbeatTimeoutSecs : UInt64) :
    Bool :=
  if w.lastHeartbeatAt.any (fun t => heartbeatTimeoutSecs.toNat < elapsedSecs now t) then true
  else if effectiveLoad w = 0 then false
  else w.lastReportAt.any (fun t => thresholdSecs.toNat < elapsedSecs now t)

/-- `resource_fits` (scheduler/mod.rs, 274-288). -/
def resourceFits (worker req : Option ResourceSpec) : Bool :=
  match req with
  | none => true
  | some req =>
    if req.cpuCores = 0 ∧ req.memoryMb = 0 ∧ req.gpuCount = 0 ∧ req.gpuType.isEmpty then true
    else match worker with
      | none => false
      | some w =>
        (req.cpuCores == 0 || decide (req.cpuCores ≤ w.cpuCores)) &&
        (req.memoryMb == 0 || decide (req.memoryMb ≤ w.memoryMb)) &&
        (req.gpuCount == 0 || decide (req.gpuCount ≤ w.gpuCount)) &&
        (req.gpuType.isEmpty || w.gpuType == req.gpuType)

/-- `package_matches` (scheduler/mod.rs, 291-299). -/
def packageMatches (w : WorkerInfo) (request : EpisodeRequest) : Bool :=
  request.envPackageId.isEmpty ||
    w.syncedEnvPackages.any fun p =>
      p.packageId == request.envPackageId &&
        (request.envPackageVersion.isEmpty || p.version == request.envPackageVersion)

/-- `assignment_from_worker` (scheduler/mod.rs, 302-308). -/
def assignmentFromWorker (w : WorkerInfo) : WorkerAssignment :=
  { workerId := w.workerId, endpoint := w.endpoint, gatewayPublicUrl := w.gatewayPublicUrl }

/-- `worker_can_prepare`; its degradation thresholds are one day. -/
def workerCanPrepare (now : Instant) (w : WorkerInfo) (request : EpisodeRequest) : Bool :=
  if w.draining || isWorkerDegraded now w 86400 86400 || decide (w.capacity ≤ effectiveLoad w)
      || !resourceFits w.resource request.resourceSpec then false
  else
    w.platformFeatures.any (fun f => f == "hub_dynamic_env" || f == "generic_container_backend") &&
    w.backendKinds.any fun b =>
      b == "process_plugin" || b == "openenv_http_container" || b == "generic_openenv_plugin"

structure RoundRobinScheduler where
  workers : List WorkerInfo
  /-- `AtomicUsize`; `fetch_add` wraps. -/
  counter : UInt64
  degradedThresholdSecs : UInt64
  heartbeatTimeoutSecs : UInt64

namespace RoundRobinScheduler

variable (s : RoundRobinScheduler)

/-- `new` (scheduler/mod.rs, 56-63). -/
def new (degradedThresholdSecs heartbeatTimeoutSecs : UInt64) : RoundRobinScheduler :=
  { workers := [], counter := 0, degradedThresholdSecs, heartbeatTimeoutSecs }

/-- The record that `find(|w| w.worker_id == worker_id)` returns. -/
def worker? (workerId : String) : Option WorkerInfo := lookup WorkerInfo.workerId workerId s.workers

/-- `iter_mut().find(|w| w.worker_id == worker_id)` followed by an update of the record. -/
def updateWorker (workerId : String) (f : WorkerInfo → WorkerInfo) : RoundRobinScheduler :=
  { s with workers := update WorkerInfo.workerId workerId f s.workers }

/-- `self.workers.retain(keep)`. -/
def retain (keep : WorkerInfo → Bool) : RoundRobinScheduler :=
  { s with workers := s.workers.filter keep }

/-- `touch_worker_report` (scheduler/mod.rs, 101-105). -/
def touchWorkerReport (now : Instant) (workerId : String) : RoundRobinScheduler :=
  s.updateWorker workerId fun w => { w with lastReportAt := some now }

/-- A record that accepts no new episode. -/
def WorkerInfo.drain (w : WorkerInfo) : WorkerInfo := { w with draining := true }

/-- `set_worker_draining` (scheduler/mod.rs, 137-141). -/
def setWorkerDraining (workerId : String) : RoundRobinScheduler :=
  s.updateWorker workerId WorkerInfo.drain

/-- The record after the heartbeat of `update_worker_load`; a zero `max_load` carries no
capacity. -/
def WorkerInfo.heartbeat (now : Instant) (load maxLoad : UInt32) (w : WorkerInfo) : WorkerInfo :=
  let w := { w with reportedLoad := load }
  let w := if 0 < maxLoad then { w with capacity := maxLoad } else w
  let w := { w with currentLoad := effectiveLoad w, lastHeartbeatAt := some now }
  if load = 0 then { w with lastReportAt := some now } else w

/-- `update_worker_load`: old and new capacity of the worker, when it is registered. -/
def updateWorkerLoad (now : Instant) (workerId : String) (load maxLoad : UInt32) :
    Option (UInt32 × UInt32) × RoundRobinScheduler :=
  match s.worker? workerId with
  | some w =>
    (some (w.capacity, (WorkerInfo.heartbeat now load maxLoad w).capacity),
      s.updateWorker workerId (WorkerInfo.heartbeat now load maxLoad))
  | none => (none, s)

/-- The runtime state that a heartbeat reports next to its load. -/
structure RuntimeState where
  supportedEnvTypes : List String := []
  platformFeatures : List String := []
  backendKinds : List String := []
  trajectorySchemas : List String := []
  toolSchemas : List String := []
  packageStates : List EnvPackageStateInfo := []
  poolSummary : List WorkerPoolSummaryInfo := []
  poolSlots : List WorkerPoolSlotInfo := []

/-- `update_worker_runtime_state` (scheduler/mod.rs, 170-194). -/
def updateWorkerRuntimeState (workerId : String) (state : RuntimeState) : RoundRobinScheduler :=
  s.updateWorker workerId fun w =>
    { w with
      supportedEnvTypes :=
        if state.supportedEnvTypes.isEmpty then w.supportedEnvTypes else state.supportedEnvTypes
      platformFeatures := state.platformFeatures
      backendKinds := state.backendKinds
      trajectorySchemas := state.trajectorySchemas
      toolSchemas := state.toolSchemas
      packageStates := state.packageStates
      poolSummary := state.poolSummary
      poolSlots := state.poolSlots }

/-- The worker record after `mark_environment_prepared`. -/
def WorkerInfo.prepared (envType envPackageId envPackageVersion bundleDigest backendKind
    message : String) (w : WorkerInfo) : WorkerInfo :=
  let w :=
    if w.supportedEnvTypes.contains envType then w
    else { w with
      supportedEnvTypes :=
        (w.supportedEnvTypes ++ [envType]).mergeSort (fun a b => decide (a ≤ b)) }
  let synced := w.syncedEnvPackages.any fun p =>
    p.packageId == envPackageId && (envPackageVersion.isEmpty || p.version == envPackageVersion)
  let w :=
    if !envPackageId.isEmpty && !synced then
      { w with syncedEnvPackages := w.syncedEnvPackages ++
          [{ packageId := envPackageId, version := envPackageVersion, bundleDigest }] }
    else w
  let state : EnvPackageStateInfo :=
    { packageId := envPackageId, version := envPackageVersion, bundleDigest, state := "ready",
      envType, backendKind, message }
  let others := w.packageStates.filter fun p =>
    !(p.envType == envType && p.packageId == envPackageId && p.version == envPackageVersion)
  { w with packageStates :=
      if !envPackageId.isEmpty || !envType.isEmpty then others ++ [state] else others }

/-- `mark_environment_prepared` (scheduler/mod.rs, 196-241). -/
def markEnvironmentPrepared (workerId envType envPackageId envPackageVersion bundleDigest
    backendKind message : String) : RoundRobinScheduler :=
  s.updateWorker workerId
    (WorkerInfo.prepared envType envPackageId envPackageVersion bundleDigest backendKind message)

/-- `worker_is_eligible` (scheduler/mod.rs, 332-339). -/
def workerIsEligible (now : Instant) (w : WorkerInfo) (request : EpisodeRequest) : Bool :=
  !w.draining
    && !isWorkerDegraded now w s.degradedThresholdSecs s.heartbeatTimeoutSecs
    && w.supportedEnvTypes.contains request.envType
    && decide (effectiveLoad w < w.capacity)
    && resourceFits w.resource request.resourceSpec
    && packageMatches w request

/-- `eligible_candidate_indices`: positions in `workers`, in their order. -/
def eligibleCandidateIndices (now : Instant) (request : EpisodeRequest) :
    List (Fin s.workers.length) :=
  (List.finRange s.workers.length).filter fun i => s.workerIsEligible now s.workers[i] request

/-- `classify_no_candidate` (scheduler/mod.rs, 353-372). -/
def classifyNoCandidate (request : EpisodeRequest) : ScheduleError :=
  if !s.workers.any (fun w => w.supportedEnvTypes.contains request.envType) then
    if s.workers.isEmpty then .noWorkerAvailable else .noMatchingEnvType
  else if !request.envPackageId.isEmpty && !s.workers.any (fun w =>
      w.supportedEnvTypes.contains request.envType && packageMatches w request) then
    .noMatchingEnvPackage
  else .allWorkersAtCapacity

/-- `candidates[counter.fetch_add(1) % candidates.len()]`, with the counter before the
increment. -/
def nextCandidate {n : Nat} (candidates : List (Fin n)) (nonempty : candidates ≠ []) : Fin n :=
  candidates.get ⟨s.counter.toNat % candidates.length,
    Nat.mod_lt _ (List.length_pos_iff.mpr nonempty)⟩

/-- `select_preparable_worker` (scheduler/mod.rs, 374-389). -/
def selectPreparableWorker (now : Instant) (request : EpisodeRequest) :
    Except ScheduleError (WorkerAssignment × RoundRobinScheduler) :=
  let candidates := (List.finRange s.workers.length).filter fun i =>
    workerCanPrepare now s.workers[i] request
  if nonempty : candidates = [] then .error .noPreparableWorker
  else
    .ok (assignmentFromWorker s.workers[s.nextCandidate candidates nonempty],
      { s with counter := s.counter + 1 })

/-- `retain(|w| w.worker_id != info.worker_id)`, then `push(info)`. -/
def replaceWorker (info : WorkerInfo) : RoundRobinScheduler :=
  { s with workers := s.workers.filter (fun w => w.workerId ≠ info.workerId) ++ [info] }

/-- `Scheduler::register_worker`: a worker with load is not replaced but marked draining. -/
def registerWorker (info : WorkerInfo) : WorkerRegistration × RoundRobinScheduler :=
  let busy :=
    fun w : WorkerInfo => decide (w.workerId = info.workerId) && decide (0 < effectiveLoad w)
  match s.workers.find? busy with
  | some existing =>
    ({ accepted := false, oldCapacity := existing.capacity, newCapacity := existing.capacity },
      { s with workers := updateFirst busy WorkerInfo.drain s.workers })
  | none =>
    ({ accepted := true
       oldCapacity := ((s.worker? info.workerId).map WorkerInfo.capacity).getD 0
       newCapacity := info.capacity },
      s.replaceWorker info)

/-- `Scheduler::unregister_worker`: an idle worker leaves, a busy one stays as draining. -/
def unregisterWorker (workerId : String) : RoundRobinScheduler :=
  (s.setWorkerDraining workerId).retain fun w => w.workerId ≠ workerId ∨ 0 < effectiveLoad w

/-- `Scheduler::schedule`. -/
def schedule (now : Instant) (request : EpisodeRequest) :
    Except ScheduleError (WorkerAssignment × RoundRobinScheduler) :=
  let candidates := s.eligibleCandidateIndices now request
  if nonempty : candidates = [] then .error (s.classifyNoCandidate request)
  else
    .ok (assignmentFromWorker s.workers[s.nextCandidate candidates nonempty],
      { s with counter := s.counter + 1 })

/-- The record of a worker that takes one more episode. -/
def WorkerInfo.reserveOne (w : WorkerInfo) : WorkerInfo :=
  let w := { w with reservedLoad := saturatingAdd w.reservedLoad 1 }
  { w with currentLoad := effectiveLoad w }

/-- `reserve_load`, the body of `increment_load`. -/
def reserveLoad (workerId : String) : RoundRobinScheduler :=
  s.updateWorker workerId WorkerInfo.reserveOne

/-- `Scheduler::reserve`. -/
def reserve (now : Instant) (request : EpisodeRequest) :
    Except ScheduleError (WorkerAssignment × RoundRobinScheduler) :=
  let candidates := s.eligibleCandidateIndices now request
  if nonempty : candidates = [] then .error (s.classifyNoCandidate request)
  else
    let workerIndex := s.nextCandidate candidates nonempty
    let w := WorkerInfo.reserveOne s.workers[workerIndex]
    .ok (assignmentFromWorker w,
      { s with counter := s.counter + 1, workers := s.workers.set workerIndex w })

/-- The record of a worker that gives one episode back. -/
def WorkerInfo.releaseOne (w : WorkerInfo) : WorkerInfo :=
  let w := { w with reservedLoad := saturatingSub w.reservedLoad 1 }
  { w with currentLoad := effectiveLoad w }

/-- `Scheduler::release`: a draining worker leaves with its last load. -/
def release (workerId : String) : RoundRobinScheduler :=
  (s.updateWorker workerId WorkerInfo.releaseOne).retain fun w =>
    !(w.workerId == workerId && w.draining && effectiveLoad w == 0)

/-! ## What the operations do to a table without duplicate ids -/

/-- No two records carry the same `worker_id`. -/
def Unique : Prop := Records.Unique WorkerInfo.workerId s.workers

section Lookup

variable {s} {id id' : String} {f : WorkerInfo → WorkerInfo}

variable {w : WorkerInfo} {now : Instant} {request : EpisodeRequest}

theorem mem_workers_iff (unique : s.Unique) :
    s.worker? id = some w ↔ w ∈ s.workers ∧ w.workerId = id :=
  lookup_eq_some_iff unique

theorem worker?_updateWorker (keeps : ∀ w, (f w).workerId = w.workerId) :
    (s.updateWorker id f).worker? id' =
      if id' = id then (s.worker? id').map f else s.worker? id' :=
  lookup_update keeps

theorem Unique.updateWorker (unique : s.Unique) (keeps : ∀ w, (f w).workerId = w.workerId) :
    (s.updateWorker id f).Unique :=
  Records.Unique.update unique keeps

theorem worker?_retain (unique : s.Unique) (keep : WorkerInfo → Bool) :
    (s.retain keep).worker? id = (s.worker? id).filter keep :=
  lookup_filter unique keep

theorem worker?_setWorkerDraining : (s.setWorkerDraining id).worker? id' =
      if id' = id then (s.worker? id').map WorkerInfo.drain else s.worker? id' :=
  worker?_updateWorker fun _ => rfl

theorem Unique.setWorkerDraining (unique : s.Unique) (id : String) :
    (s.setWorkerDraining id).Unique :=
  unique.updateWorker fun _ => rfl

theorem Unique.retain (unique : s.Unique) (keep : WorkerInfo → Bool) : (s.retain keep).Unique :=
  Records.Unique.filter unique keep

@[simp] theorem WorkerInfo.heartbeat_workerId (now : Instant) (load maxLoad : UInt32)
    (w : WorkerInfo) : (WorkerInfo.heartbeat now load maxLoad w).workerId = w.workerId := by
  unfold WorkerInfo.heartbeat
  split <;> split <;> rfl

@[simp] theorem WorkerInfo.heartbeat_draining (now : Instant) (load maxLoad : UInt32)
    (w : WorkerInfo) : (WorkerInfo.heartbeat now load maxLoad w).draining = w.draining := by
  unfold WorkerInfo.heartbeat
  split <;> split <;> rfl

@[simp] theorem WorkerInfo.heartbeat_reservedLoad (now : Instant) (load maxLoad : UInt32)
    (w : WorkerInfo) : (WorkerInfo.heartbeat now load maxLoad w).reservedLoad = w.reservedLoad := by
  unfold WorkerInfo.heartbeat
  split <;> split <;> rfl

theorem WorkerInfo.heartbeat_capacity (now : Instant) (load maxLoad : UInt32) (w : WorkerInfo) :
    (WorkerInfo.heartbeat now load maxLoad w).capacity =
      if 0 < maxLoad then maxLoad else w.capacity := by
  unfold WorkerInfo.heartbeat
  split <;> split <;> rfl

@[simp] theorem WorkerInfo.prepared_workerId (envType package version digest kind message : String)
    (w : WorkerInfo) :
    (WorkerInfo.prepared envType package version digest kind message w).workerId = w.workerId := by
  unfold WorkerInfo.prepared
  dsimp only
  split <;> split <;> rfl

@[simp] theorem WorkerInfo.prepared_reservedLoad
    (envType package version digest kind message : String) (w : WorkerInfo) :
    (WorkerInfo.prepared envType package version digest kind message w).reservedLoad =
      w.reservedLoad := by
  unfold WorkerInfo.prepared
  dsimp only
  split <;> split <;> rfl

theorem effectiveLoad_lt_of_eligible (eligible : s.workerIsEligible now w request) :
    effectiveLoad w < w.capacity := by
  simp only [workerIsEligible, Bool.and_eq_true, decide_eq_true_eq] at eligible
  exact eligible.1.1.2

theorem not_draining_of_eligible (eligible : s.workerIsEligible now w request) :
    w.draining = false := by
  simp only [workerIsEligible, Bool.and_eq_true, Bool.not_eq_true'] at eligible
  exact eligible.1.1.1.1.1

section

variable (unique : s.Unique)
include unique

/-- A busy worker is drained and refused, any other replaced (scheduler/mod.rs). -/
theorem registerWorker_cases (info : WorkerInfo) :
    (∃ w, s.worker? info.workerId = some w ∧ 0 < effectiveLoad w ∧ s.registerWorker info =
        ({ accepted := false, oldCapacity := w.capacity, newCapacity := w.capacity },
          s.setWorkerDraining info.workerId)) ∨
    ((∀ w, s.worker? info.workerId = some w → effectiveLoad w = 0) ∧ s.registerWorker info =
        ({ accepted := true
           oldCapacity := ((s.worker? info.workerId).map WorkerInfo.capacity).getD 0
           newCapacity := info.capacity },
          s.replaceWorker info)) := by
  have searched := find?_and (k := info.workerId) unique fun w => decide (0 < effectiveLoad w)
  unfold registerWorker
  simp only [searched]
  cases found : lookup WorkerInfo.workerId info.workerId s.workers with
  | none =>
    refine Or.inr ⟨fun w present => ?_, rfl⟩
    rw [worker?, found] at present
    cases present
  | some w =>
    by_cases busy : 0 < effectiveLoad w
    · refine Or.inl ⟨w, found, busy, ?_⟩
      have marked := updateFirst_and (f := WorkerInfo.drain)
        (p := fun w => decide (0 < effectiveLoad w)) found (by simpa using busy)
      simp [Option.filter, busy, marked, setWorkerDraining, RoundRobinScheduler.updateWorker]
    · have idle : effectiveLoad w = 0 := by
        simpa [UInt32.lt_iff_toNat_lt, ← UInt32.toNat_inj] using busy
      refine Or.inr ⟨fun w' present => ?_, ?_⟩
      · rw [worker?, found] at present
        cases present
        exact idle
      · simp [Option.filter, idle]

/-- The table after an accepted registration: the new record is last and alone under its id. -/
theorem worker?_replaceWorker (info : WorkerInfo) :
    (s.replaceWorker info).worker? id = if id = info.workerId then some info else s.worker? id := by
  rw [worker?, replaceWorker, lookup_append, lookup_filter unique]
  change ((s.worker? id).filter _).or _ = _
  by_cases same : id = info.workerId
  · subst same
    have removed : (s.worker? info.workerId).filter (fun w => w.workerId ≠ info.workerId) =
        none := by
      cases found : s.worker? info.workerId with
      | none => rfl
      | some w => simp [Option.filter, key_of_lookup found]
    rw [removed, lookup_cons, if_pos rfl, if_pos rfl, Option.none_or]
  · have kept : (s.worker? id).filter (fun w => w.workerId ≠ info.workerId) = s.worker? id := by
      cases found : s.worker? id with
      | none => rfl
      | some w =>
        have named : w.workerId = id := key_of_lookup found
        simp [Option.filter, named, same]
    rw [kept, lookup_cons, if_neg (Ne.symm same), if_neg same]
    simp

theorem Unique.replaceWorker (info : WorkerInfo) : (s.replaceWorker info).Unique := by
  refine Records.Unique.append (Records.Unique.filter unique _) ?_
  rw [lookup_eq_none]
  intro w member
  simpa using (List.mem_filter.mp member).2

theorem Unique.registerWorker (info : WorkerInfo) : (s.registerWorker info).2.Unique := by
  rcases registerWorker_cases unique info with ⟨w, _, _, refused⟩ | ⟨_, replaced⟩
  · rw [refused]
    exact unique.setWorkerDraining _
  · rw [replaced]
    exact unique.replaceWorker info

theorem Unique.unregisterWorker (id : String) : (s.unregisterWorker id).Unique := by
  exact (unique.setWorkerDraining id).retain _

theorem Unique.release (id : String) : (s.release id).Unique := by
  have lowered : (s.updateWorker id WorkerInfo.releaseOne).Unique :=
    unique.updateWorker fun _ => rfl
  exact lowered.retain _

end

theorem nextCandidate_mem {n : Nat} {candidates : List (Fin n)} (nonempty : candidates ≠ []) :
    s.nextCandidate candidates nonempty ∈ candidates :=
  List.get_mem _ _

/-- Incrementing at an index is `reserve_load` of the worker found there. -/
theorem set_reserveOne (unique : s.Unique) (index : Fin s.workers.length) :
    s.workers.set index (WorkerInfo.reserveOne s.workers[index]) =
      (s.reserveLoad s.workers[index].workerId).workers := by
  have present : lookup WorkerInfo.workerId s.workers[index].workerId s.workers =
      some s.workers[index] :=
    lookup_of_mem unique (List.getElem_mem _)
  have written := set_eq_update (r := WorkerInfo.reserveOne s.workers[index]) unique index rfl
  rw [written]
  exact update_congr present rfl

/-- A granted reservation goes to an eligible worker and adds one to its reserved load. -/
theorem reserve_ok (unique : s.Unique) {assignment : WorkerAssignment} {t : RoundRobinScheduler}
    (granted : s.reserve now request = .ok (assignment, t)) :
    ∃ w, s.worker? w.workerId = some w ∧ s.workerIsEligible now w request ∧
      assignment = assignmentFromWorker w ∧
      t = { s.reserveLoad w.workerId with counter := s.counter + 1 } := by
  unfold reserve at granted
  by_cases nonempty : s.eligibleCandidateIndices now request = []
  · simp [nonempty] at granted
  · rw [dif_neg nonempty] at granted
    cases granted
    obtain ⟨-, eligible⟩ := List.mem_filter.mp (s.nextCandidate_mem nonempty)
    refine ⟨_, lookup_of_mem unique (List.getElem_mem _), eligible, rfl, ?_⟩
    rw [set_reserveOne unique]
    rfl

end Lookup

end RoundRobinScheduler

end UEnv.Scheduler
