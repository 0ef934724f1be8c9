import UEnv.ControlPlane.Capacity

/-!
# Conservation of the admission target

The admission target follows the accepting capacity as long as capacity leaves the table only
through the operations that report it. A registration that supersedes an accepting worker,
a refused registration that closes an accepting worker, a registration over a draining record
or under a pending drain timer, a heartbeat that resizes a draining worker and a repeated drain
each change one side alone.
-/

namespace UEnv.ControlPlane.CapacityState

open UEnv.Proto UEnv.Records UEnv.Runs UEnv.Scheduler RoundRobinScheduler

variable {σ τ : CapacityState} {label : Label}

/-- A registration keeps the balance: a refused one meets a worker that is draining already; an
accepted one replaces no draining record, meets no pending drain timer for its id, and every
other worker at its endpoint is draining already. -/
def RegistrationConserves (σ : CapacityState) (workerId endpoint : String) : Prop :=
  (∀ w ∈ σ.scheduler.worker? workerId, 0 < effectiveLoad w → w.draining = true) ∧
  ((∀ w ∈ σ.scheduler.worker? workerId, effectiveLoad w = 0) →
    (∀ w ∈ σ.scheduler.worker? workerId, w.draining = false) ∧
    (∀ timer ∈ σ.timers, timer.1 ≠ workerId) ∧
    ∀ w ∈ σ.scheduler.workers, w.endpoint = endpoint → w.workerId ≠ workerId → w.draining = true)

/-- The steps that keep the two sides together: a registration as above, a heartbeat that does
not resize a draining worker, a drain of a worker that is not draining yet, and every other
step. -/
def Conserves (σ : CapacityState) : Label → Prop
  | .registerWorker _ req generated =>
    RegistrationConserves σ (registeredId req generated) req.endpoint
  | .heartbeat _ req =>
    ∀ w ∈ σ.scheduler.worker? req.workerId, w.draining = true →
      clampToU32 req.maxLoad = 0 ∨ clampToU32 req.maxLoad = w.capacity
  | .drainWorker req => ∀ w ∈ σ.scheduler.worker? req.workerId, w.draining = false
  | _ => True

instance (σ : CapacityState) (workerId endpoint : String) :
    Decidable (RegistrationConserves σ workerId endpoint) :=
  instDecidableAnd

instance (σ : CapacityState) : (label : Label) → Decidable (Conserves σ label)
  | .registerWorker _ req generated =>
    inferInstanceAs (Decidable (RegistrationConserves σ (registeredId req generated) req.endpoint))
  | .heartbeat _ req => inferInstanceAs (Decidable (∀ w ∈ σ.scheduler.worker? req.workerId, _ → _))
  | .drainWorker req => inferInstanceAs (Decidable (∀ w ∈ σ.scheduler.worker? req.workerId, _))
  | .drainTimer _ | .reserve _ _ | .releaseLease _ | .acquirePermit | .dropPermit | .shrinkTask _ =>
    .isTrue trivial

/-- Capacity scheduled to leave with the pending drain timers. -/
def timedCapacity (timers : List (String × UInt32)) : Nat :=
  (timers.map fun timer => timer.2.toNat).sum

/-- The invariant: a worker under a drain timer is draining, and the target is the accepting
capacity plus what the timers will still take away. -/
structure Balanced (σ : CapacityState) : Prop where
  unique : σ.scheduler.Unique
  dynamic : σ.admission.Dynamic
  timed : ∀ timer ∈ σ.timers, ∀ w, σ.scheduler.worker? timer.1 = some w → w.draining = true
  balance : σ.admission.netTarget = acceptingCapacity σ.scheduler + timedCapacity σ.timers

variable {s : RoundRobinScheduler} {now : Instant} {req : RegisterWorkerRequest}
  {generated : String} {i : Nat} {leased : LeasedScheduler}

theorem DrainingPersists.timed {t : RoundRobinScheduler} (persists : DrainingPersists s t)
    {timers : List (String × UInt32)}
    (timed : ∀ timer ∈ timers, ∀ w, s.worker? timer.1 = some w → w.draining = true) :
    ∀ timer ∈ timers, ∀ w, t.worker? timer.1 = some w → w.draining = true := by
  intro timer member w present
  obtain ⟨w₀, found, kept⟩ := persists timer.1 w present
  exact kept (timed timer member w₀ found)

theorem foldl_fireTimer (timers : List (String × UInt32)) (unique : σ.scheduler.Unique)
    (dynamic : σ.admission.Dynamic)
    (timed : ∀ timer ∈ timers, ∀ w, σ.scheduler.worker? timer.1 = some w → w.draining = true) :
    (timers.foldl fireTimer σ).admission.netTarget = σ.admission.netTarget - timedCapacity timers ∧
      acceptingCapacity (timers.foldl fireTimer σ).scheduler = acceptingCapacity σ.scheduler := by
  induction timers generalizing σ with
  | nil => simp [timedCapacity]
  | cons timer rest ih =>
    have persists : DrainingPersists σ.scheduler (σ.scheduler.unregisterWorker timer.1) :=
      DrainingPersists.unregisterWorker unique
    have timedRest := persists.timed fun timer' member =>
      timed timer' (List.mem_cons_of_mem _ member)
    have same := acceptingCapacity_unregisterWorker unique timer.1
    rw [acceptingAt_of_draining (timed timer List.mem_cons_self)] at same
    obtain ⟨net, capacity⟩ := ih (σ := σ.fireTimer timer) (unique.unregisterWorker _)
      (dynamic.onCapacityChanged _ _) timedRest
    have fired : (σ.fireTimer timer).admission.netTarget =
        σ.admission.netTarget - timer.2.toNat := by
      have moved := AdmissionController.netTarget_onCapacityChanged dynamic timer.2 0
      simpa [fireTimer, AdmissionController.onWorkerRemoved] using moved
    refine ⟨?_, capacity.trans same⟩
    rw [List.foldl_cons, net, fired]
    simp only [timedCapacity, List.map_cons, List.sum_cons]
    omega

theorem Balanced.targetMatches (balanced : Balanced σ) : σ.TargetMatches := by
  obtain ⟨net, capacity⟩ :=
    foldl_fireTimer σ.timers balanced.unique balanced.dynamic balanced.timed
  have balance := balanced.balance
  change (σ.timers.foldl fireTimer σ).admission.netTarget =
    acceptingCapacity (σ.timers.foldl fireTimer σ).scheduler
  rw [net, capacity]
  omega

theorem Balanced.start (degraded heartbeat : UInt64) {config : QueueConfig}
    (queueDynamic : config.queueDynamic = true) : Balanced (start degraded heartbeat config) where
  unique := List.nodup_nil
  dynamic := AdmissionController.dynamic_new queueDynamic
  timed := by
    intro timer member
    cases member
  balance := by
    simp [CapacityState.start, AdmissionController.new, AdmissionController.netTarget,
      queueDynamic, acceptingCapacity, scheduler, RoundRobinScheduler.new, timedCapacity]

/-- A step that changes only the scheduler, and there neither capacity nor draining. -/
theorem Balanced.withScheduler (balanced : Balanced σ) (unique : s.Unique)
    (persists : DrainingPersists σ.scheduler s)
    (same : acceptingCapacity s = acceptingCapacity σ.scheduler) :
    Balanced (σ.withScheduler s) where
  unique := unique
  dynamic := balanced.dynamic
  timed := persists.timed balanced.timed
  balance := by
    have balance := balanced.balance
    change σ.admission.netTarget = acceptingCapacity s + timedCapacity σ.timers
    omega

theorem supersede_draining {workerId endpoint : String} (unique : s.Unique)
    (stale : ∀ w ∈ s.workers, w.endpoint = endpoint → w.workerId ≠ workerId → w.draining = true) :
    (supersedeSameEndpointWorkers s workerId endpoint).Unique ∧
      DrainingPersists s (supersedeSameEndpointWorkers s workerId endpoint) ∧
      acceptingCapacity (supersedeSameEndpointWorkers s workerId endpoint) =
        acceptingCapacity s := by
  refine unregister_draining _ unique ?_
  intro id member w present
  obtain ⟨w₀, selected, rfl⟩ := List.mem_map.mp member
  obtain ⟨member, chosen⟩ := List.mem_filter.mp selected
  have found : s.worker? w₀.workerId = some w₀ := lookup_of_mem unique member
  obtain rfl : w₀ = w := Option.some.inj (found.symm.trans present)
  simp only [Bool.and_eq_true, beq_iff_eq, bne_iff_ne] at chosen
  exact stale w₀ member chosen.1 chosen.2

theorem registerWorker_refused {w : WorkerInfo}
    (refused : σ.scheduler.registerWorker (registeredInfo now req generated) =
      ({ accepted := false, oldCapacity := w.capacity, newCapacity := w.capacity }, s)) :
    σ.registerWorker now req generated = σ.withScheduler s := by
  simp [CapacityState.registerWorker, refused]

theorem registerWorker_accepted {old new : UInt32}
    (accepted : σ.scheduler.registerWorker (registeredInfo now req generated) =
      ({ accepted := true, oldCapacity := old, newCapacity := new }, s)) :
    σ.registerWorker now req generated =
      { σ.withScheduler
        (supersedeSameEndpointWorkers s (registeredId req generated) req.endpoint) with
        admission := σ.admission.onCapacityChanged old new } := by
  simp only [CapacityState.registerWorker, accepted, if_true]
  rfl

theorem Balanced.registerWorker (balanced : Balanced σ) (now : Instant)
    (req : RegisterWorkerRequest) (generated : String)
    (conserves : RegistrationConserves σ (registeredId req generated) req.endpoint) :
    Balanced (σ.registerWorker now req generated) := by
  obtain ⟨refusedMarked, acceptedOpen⟩ := conserves
  have unique := balanced.unique
  rcases registerWorker_cases unique (registeredInfo now req generated) with
    ⟨w, found, busy, refused⟩ | ⟨idle, replaced⟩
  · -- the record is draining already, so marking it changes nothing
    have marked : ∀ w', σ.scheduler.worker? (registeredId req generated) = some w' →
        w'.draining = true := by
      intro w' present
      obtain rfl : w = w' := Option.some.inj (found.symm.trans present)
      exact refusedMarked w found busy
    have same := acceptingCapacity_setWorkerDraining unique (registeredId req generated)
    rw [acceptingAt_of_draining marked] at same
    rw [registerWorker_refused refused]
    exact balanced.withScheduler (unique.setWorkerDraining _)
      (DrainingPersists.updateWorker (fun _ => rfl) (fun _ _ => rfl)) same
  · obtain ⟨open', untimed, stale⟩ := acceptedOpen idle
    have staleAfter : ∀ w ∈ (σ.scheduler.replaceWorker (registeredInfo now req generated)).workers,
        w.endpoint = req.endpoint → w.workerId ≠ registeredId req generated →
          w.draining = true := by
      intro w member endpoint other
      rcases List.mem_append.mp member with old | new
      · exact stale w (List.mem_filter.mp old).1 endpoint other
      · obtain rfl := List.mem_singleton.mp new
        exact absurd rfl other
    obtain ⟨superUnique, persists, same⟩ := supersede_draining (unique.replaceWorker _) staleAfter
    have capacity : _ + acceptingAt σ.scheduler (registeredId req generated) =
        acceptingCapacity σ.scheduler + (registeredCapacity req).toNat :=
      acceptingCapacity_replaceWorker unique (registeredInfo now req generated)
    rw [acceptingAt_of_accepting open', ← same] at capacity
    have moved := AdmissionController.netTarget_onCapacityChanged balanced.dynamic
      (((σ.scheduler.worker? (registeredId req generated)).map WorkerInfo.capacity).getD 0)
      (registeredCapacity req)
    have balance := balanced.balance
    rw [registerWorker_accepted replaced]
    refine ⟨superUnique, balanced.dynamic.onCapacityChanged _ _, persists.timed ?_, ?_⟩
    · intro timer member w present
      have other : timer.1 ≠ (registeredInfo now req generated).workerId := untimed timer member
      rw [worker?_replaceWorker unique, if_neg other] at present
      exact balanced.timed timer member w present
    · refine moved.trans ?_
      change _ = ((acceptingCapacity (supersedeSameEndpointWorkers _ _ _) : Nat) : Int) +
        timedCapacity σ.timers
      omega

theorem Balanced.heartbeat (balanced : Balanced σ) (now : Instant) (req : HeartbeatRequest)
    (conserves : ∀ w, σ.scheduler.worker? req.workerId = some w → w.draining = true →
      clampToU32 req.maxLoad = 0 ∨ clampToU32 req.maxLoad = w.capacity) :
    Balanced (σ.heartbeat now req) := by
  have unique := balanced.unique
  cases found : σ.scheduler.worker? req.workerId with
  | none =>
    have absent : (σ.scheduler.updateWorkerRuntimeState req.workerId req.runtime) =
        σ.scheduler := by
      unfold updateWorkerRuntimeState updateWorker
      rw [update_of_absent found]
    have unchanged : σ.heartbeat now req = σ.withScheduler σ.scheduler := by
      simp [CapacityState.heartbeat, updateWorkerLoad, found, absent]
    rw [unchanged]
    exact balanced
  | some w =>
    let beat := WorkerInfo.heartbeat now (clampToU32 req.load) (clampToU32 req.maxLoad)
    have result : σ.heartbeat now req =
        { σ.withScheduler ((σ.scheduler.updateWorker req.workerId beat).updateWorkerRuntimeState
            req.workerId req.runtime) with
          admission := σ.admission.onCapacityChanged w.capacity (beat w).capacity } := by
      simp [CapacityState.heartbeat, updateWorkerLoad, found, beat]
    have beatUnique : (σ.scheduler.updateWorker req.workerId beat).Unique :=
      unique.updateWorker fun _ => by simp [beat]
    have same :
        acceptingCapacity ((σ.scheduler.updateWorker req.workerId beat).updateWorkerRuntimeState
        req.workerId req.runtime) =
          acceptingCapacity (σ.scheduler.updateWorker req.workerId beat) :=
      acceptingCapacity_updateWorker_of_same beatUnique (fun _ => rfl) (fun _ _ => rfl)
    have capacity := acceptingCapacity_updateWorker (f := beat) unique req.workerId
      fun _ => by simp [beat]
    have persists : DrainingPersists σ.scheduler (σ.scheduler.updateWorker req.workerId beat) :=
      DrainingPersists.updateWorker (fun _ => by simp [beat])
        (fun _ marked => by simpa [beat] using marked)
    have runtime : DrainingPersists (σ.scheduler.updateWorker req.workerId beat)
        ((σ.scheduler.updateWorker req.workerId beat).updateWorkerRuntimeState req.workerId
          req.runtime) :=
      DrainingPersists.updateWorker (fun _ => rfl) (fun _ marked => marked)
    have moved := AdmissionController.netTarget_onCapacityChanged balanced.dynamic w.capacity
      (beat w).capacity
    have balance := balanced.balance
    rw [result]
    refine ⟨beatUnique.updateWorker fun _ => rfl, balanced.dynamic.onCapacityChanged _ _,
      (persists.trans runtime).timed balanced.timed, ?_⟩
    refine moved.trans ?_
    change _ = ((acceptingCapacity (updateWorkerRuntimeState _ _ _) : Nat) : Int) +
      timedCapacity σ.timers
    rw [same]
    have sides : accepting (beat w) + w.capacity.toNat = accepting w + (beat w).capacity.toNat := by
      cases marked : w.draining with
      | false => simp [accepting, marked, beat, Nat.add_comm]
      | true =>
        have resized : (beat w).capacity = w.capacity := by
          have declared := WorkerInfo.heartbeat_capacity now (clampToU32 req.load)
            (clampToU32 req.maxLoad) w
          rcases conserves w found marked with zero | equal
          · exact declared.trans (by simp [zero])
          · exact declared.trans (by simp [equal])
        simp [accepting, marked, beat, ← resized]
    simp [acceptingAt, found] at capacity
    omega

theorem Balanced.drainWorker (balanced : Balanced σ) (req : DrainWorkerRequest)
    (conserves : ∀ w, σ.scheduler.worker? req.workerId = some w → w.draining = false) :
    Balanced (σ.drainWorker req) := by
  have unique := balanced.unique
  have marks := acceptingCapacity_setWorkerDraining unique req.workerId
  rw [acceptingAt_of_accepting conserves] at marks
  have persists : DrainingPersists σ.scheduler (σ.scheduler.setWorkerDraining req.workerId) :=
    DrainingPersists.updateWorker (fun _ => rfl) (fun _ _ => rfl)
  have closed : ∀ w, (σ.scheduler.setWorkerDraining req.workerId).worker? req.workerId = some w →
      w.draining = true := by
    intro w present
    rw [worker?_setWorkerDraining, if_pos rfl] at present
    obtain ⟨w₀, _, rfl⟩ := Option.map_eq_some_iff.mp present
    rfl
  have balance := balanced.balance
  unfold CapacityState.drainWorker
  rw [balanced.dynamic.flag]
  by_cases grace : 0 < req.gracePeriodSec
  · -- the capacity leaves the table now and the target when the timer fires
    simp only [grace, if_true]
    refine ⟨unique.setWorkerDraining _, balanced.dynamic, ?_, ?_⟩
    · intro timer member
      rcases List.mem_append.mp member with old | new
      · exact persists.timed balanced.timed timer old
      · obtain rfl := List.mem_singleton.mp new
        exact closed
    · change σ.admission.netTarget = ((acceptingCapacity (setWorkerDraining _ _) : Nat) : Int) +
        timedCapacity (σ.timers ++ [(req.workerId, _)])
      simp only [timedCapacity, List.map_append, List.sum_append, List.map_cons, List.map_nil,
        List.sum_cons, List.sum_nil] at balance ⊢
      omega
  · simp only [grace, if_false, if_true]
    have removed := acceptingCapacity_unregisterWorker (unique.setWorkerDraining req.workerId)
      req.workerId
    rw [acceptingAt_of_draining closed] at removed
    have moved := AdmissionController.netTarget_onCapacityChanged balanced.dynamic
      (((σ.scheduler.worker? req.workerId).map WorkerInfo.capacity).getD 0) 0
    refine ⟨(unique.setWorkerDraining _).unregisterWorker _, balanced.dynamic.onCapacityChanged _ _,
      (persists.trans (DrainingPersists.unregisterWorker (unique.setWorkerDraining _))).timed
        balanced.timed, ?_⟩
    refine moved.trans ?_
    change _ = ((acceptingCapacity (unregisterWorker _ _) : Nat) : Int) + timedCapacity σ.timers
    have zero : (0 : UInt32).toNat = 0 := rfl
    omega

/-- The end of a grace period: the worker is gone or draining, its capacity leaves the target. -/
theorem Balanced.drainTimer (balanced : Balanced σ) {timer : String × UInt32}
    (pending : σ.timers[i]? = some timer) :
    Balanced { σ.fireTimer timer with timers := σ.timers.eraseIdx i } := by
  obtain ⟨bound, rfl⟩ := List.getElem?_eq_some_iff.mp pending
  have unique := balanced.unique
  have persists : DrainingPersists σ.scheduler (σ.scheduler.unregisterWorker σ.timers[i].1) :=
    DrainingPersists.unregisterWorker unique
  have same := acceptingCapacity_unregisterWorker unique σ.timers[i].1
  rw [acceptingAt_of_draining (balanced.timed _ (List.getElem_mem bound))] at same
  have moved := AdmissionController.netTarget_onCapacityChanged balanced.dynamic σ.timers[i].2 0
  have split : σ.timers[i].2.toNat + timedCapacity (σ.timers.eraseIdx i) = timedCapacity σ.timers :=
    ((List.getElem_cons_eraseIdx_perm bound).map
      fun timer : String × UInt32 => timer.2.toNat).sum_eq
  have balance := balanced.balance
  have zero : (0 : UInt32).toNat = 0 := rfl
  refine ⟨unique.unregisterWorker _, balanced.dynamic.onCapacityChanged _ _, ?_, ?_⟩
  · intro timer member
    exact persists.timed balanced.timed timer (List.mem_of_mem_eraseIdx member)
  · refine moved.trans ?_
    change _ = ((acceptingCapacity (unregisterWorker _ _) : Nat) : Int) +
      timedCapacity (σ.timers.eraseIdx i)
    omega

theorem accepting_reserveOne (w : WorkerInfo) : accepting (WorkerInfo.reserveOne w) = accepting w :=
  rfl

theorem accepting_releaseOne (w : WorkerInfo) : accepting (WorkerInfo.releaseOne w) = accepting w :=
  rfl

attribute [local simp] LeasedScheduler.step

theorem Balanced.reserve (balanced : Balanced σ) {request : EpisodeRequest}
    (taken : σ.leased.step (.reserve now request) = some leased) : Balanced { σ with leased } := by
  have unique : σ.leased.scheduler.Unique := balanced.unique
  cases granted : σ.leased.scheduler.reserve now request with
  | error e =>
    obtain rfl : σ.leased = leased := by simpa [granted] using taken
    exact balanced
  | ok answer =>
    obtain ⟨assignment, s⟩ := answer
    obtain rfl : _ = leased := by simpa [granted] using taken
    obtain ⟨w, _, _, _, rfl⟩ := reserve_ok unique granted
    have raised : (σ.leased.scheduler.reserveLoad w.workerId).Unique :=
      unique.updateWorker (f := WorkerInfo.reserveOne) fun _ => rfl
    have persists :
        DrainingPersists σ.leased.scheduler (σ.leased.scheduler.reserveLoad w.workerId) :=
      DrainingPersists.updateWorker (f := WorkerInfo.reserveOne) (fun _ => rfl)
        (fun _ marked => marked)
    have same : acceptingCapacity (σ.leased.scheduler.reserveLoad w.workerId) =
        acceptingCapacity σ.leased.scheduler :=
      acceptingCapacity_updateWorker_of_same (f := WorkerInfo.reserveOne) unique (fun _ => rfl)
        (fun w _ => accepting_reserveOne w)
    have kept := balanced.withScheduler raised persists same
    exact ⟨kept.unique, kept.dynamic, kept.timed, kept.balance⟩

theorem Balanced.releaseLease (balanced : Balanced σ)
    (taken : σ.leased.step (.release i) = some leased) : Balanced { σ with leased } := by
  have unique : σ.leased.scheduler.Unique := balanced.unique
  cases found : σ.leased.leases[i]? with
  | none => simp [found] at taken
  | some lease =>
    cases held : lease.released with
    | true =>
      obtain rfl : _ = leased := by
        simpa [found, WorkerLease.release, held] using taken
      exact ⟨unique, balanced.dynamic, balanced.timed, balanced.balance⟩
    | false =>
      obtain rfl : _ = leased := by
        simpa [found, WorkerLease.release, held] using taken
      have lowered : (σ.leased.scheduler.updateWorker lease.assignment.workerId
          WorkerInfo.releaseOne).Unique := unique.updateWorker fun _ => rfl
      have persists : DrainingPersists σ.leased.scheduler
          (σ.leased.scheduler.release lease.assignment.workerId) :=
        DrainingPersists.trans
          (DrainingPersists.updateWorker (f := WorkerInfo.releaseOne) (fun _ => rfl)
            (fun _ marked => marked))
          (DrainingPersists.retain lowered _)
      have same : acceptingCapacity (σ.leased.scheduler.release lease.assignment.workerId) =
          acceptingCapacity σ.leased.scheduler := by
        refine Eq.trans (sum_filter ?_) (acceptingCapacity_updateWorker_of_same
          (f := WorkerInfo.releaseOne) unique (fun _ => rfl)
          (fun w _ => accepting_releaseOne w))
        intro w _ dropped
        simp only [Bool.not_eq_false', Bool.and_eq_true] at dropped
        simp [accepting, dropped.1.2]
      have kept := balanced.withScheduler (unique.release _) persists same
      exact ⟨kept.unique, kept.dynamic, kept.timed, kept.balance⟩

theorem Balanced.stepSemaphore (balanced : Balanced σ) {f : Semaphore → Option Semaphore}
    (keeps : ∀ s t, f s = some t → t.net = s.net) (taken : σ.stepSemaphore f = some τ) :
    Balanced τ := by
  obtain ⟨semaphore, ran, rfl⟩ := Option.map_eq_some_iff.mp taken
  obtain ⟨before, present, ran⟩ := Option.bind_eq_some_iff.mp ran
  have net := keeps before semaphore ran
  have balance := balanced.balance
  refine ⟨balanced.unique, ⟨balanced.dynamic.flag, rfl⟩, balanced.timed, ?_⟩
  change semaphore.net = _
  rw [AdmissionController.netTarget, present] at balance
  exact net.trans balance

theorem Balanced.step (balanced : Balanced σ) (conserves : Conserves σ label)
    (taken : σ.step label = some τ) : Balanced τ := by
  cases label with
  | registerWorker now req generated =>
    cases taken
    exact balanced.registerWorker now req generated conserves
  | heartbeat now req =>
    cases taken
    exact balanced.heartbeat now req conserves
  | drainWorker req =>
    cases taken
    exact balanced.drainWorker req conserves
  | drainTimer i =>
    obtain ⟨timer, pending, rfl⟩ := Option.map_eq_some_iff.mp taken
    exact balanced.drainTimer pending
  | reserve =>
    obtain ⟨leased, ran, rfl⟩ := Option.map_eq_some_iff.mp taken
    exact balanced.reserve ran
  | releaseLease i =>
    obtain ⟨leased, ran, rfl⟩ := Option.map_eq_some_iff.mp taken
    exact balanced.releaseLease ran
  | acquirePermit => exact balanced.stepSemaphore (fun _ _ => Semaphore.net_acquire) taken
  | dropPermit => exact balanced.stepSemaphore (fun _ _ => Semaphore.net_dropPermit) taken
  | shrinkTask i => exact balanced.stepSemaphore (fun _ _ => Semaphore.net_forget) taken

/-- Along every run whose steps conserve capacity, the net target of dynamic admission is the
capacity of the workers that accept work once the pending drain timers have fired. -/
theorem target_matches_along_conserving_runs (reached : ReachableWhen system Conserves σ) :
    σ.TargetMatches := by
  refine Balanced.targetMatches (ReachableWhen.invariant ?_ ?_ reached)
  · rintro _ ⟨degraded, heartbeat, config, queueDynamic, rfl⟩
    exact Balanced.start degraded heartbeat queueDynamic
  · intro s label t _ balanced conserves taken
    exact balanced.step conserves taken

/-- A registration, a resize and a drain with a grace period conserve capacity. -/
theorem target_matches_registered_resized_drained :
    ∃ σ, ReachableWhen system Conserves σ ∧ σ.timers = [("w1", 6)] ∧ σ.TargetMatches := by
  let start := CapacityState.start 60 60 { queueDynamic := true }
  let schedule : List Label :=
    [.registerWorker 0 { workerId := "w1", endpoint := "host:1", maxLoad := 4 } "",
      .heartbeat 1 { workerId := "w1", load := 0, maxLoad := 6 },
      .drainWorker { workerId := "w1", gracePeriodSec := 30 }]
  have ran : (system.exec start schedule).isSome := by decide
  obtain ⟨σ, ran⟩ := Option.isSome_iff_exists.mp ran
  have along : system.Along Conserves start schedule := by decide
  have reached : ReachableWhen system Conserves σ :=
    .of_exec (.start ⟨60, 60, { queueDynamic := true }, rfl, rfl⟩) schedule along ran
  have timers : (system.exec start schedule).map CapacityState.timers =
      some [("w1", 6)] := by decide
  rw [ran] at timers
  exact ⟨σ, reached, Option.some.inj timers, target_matches_along_conserving_runs reached⟩

/-- Two workers of capacity 4 register one after the other at one endpoint: the second
supersedes the first, whose capacity stays in the target. -/
theorem target_exceeds_after_superseding : ¬ ∀ σ, Reachable system σ → σ.TargetMatches := by
  intro always
  let start := CapacityState.start 60 60 { queueDynamic := true }
  let schedule : List Label :=
    [.registerWorker 0 { workerId := "w1", endpoint := "host:1", maxLoad := 4 } "",
      .registerWorker 1 { workerId := "w2", endpoint := "host:1", maxLoad := 4 } ""]
  have ran : (system.exec start schedule).isSome := by decide
  obtain ⟨σ, ran⟩ := Option.isSome_iff_exists.mp ran
  have reached : Reachable system σ :=
    Reachable.of_exec ⟨60, 60, { queueDynamic := true }, rfl, rfl⟩ schedule ran
  have sides : (system.exec start schedule).map (fun σ =>
      (σ.afterTimers.admission.netTarget, acceptingCapacity σ.afterTimers.scheduler)) =
        some (8, 4) := by decide
  rw [ran] at sides
  obtain ⟨target, capacity⟩ := Prod.mk.inj (Option.some.inj sides)
  have matched := always σ reached
  rw [TargetMatches, target, capacity] at matched
  exact absurd matched (by decide)

end UEnv.ControlPlane.CapacityState
