import UEnv.Lib.Runs
import UEnv.Scheduler.RoundRobin

/-!
# Reservation accounting

The scheduler next to the `WorkerLease` guards (`service/prelude_and_guards.rs`) that
`reserve` hands out, under any order of the scheduler's mutating operations. The invariant
`Accounted` says that a worker's reserved load is the number of its outstanding leases; in
particular a worker with an outstanding lease is in the table.
-/

namespace UEnv.Scheduler

open UEnv.Proto UEnv.Records UEnv.Runs RoundRobinScheduler

/-- `WorkerLease`: released once, explicitly or by `Drop`. -/
structure WorkerLease where
  assignment : WorkerAssignment
  released : Bool

/-- `new` (prelude_and_guards.rs, 50-56). -/
def WorkerLease.new (assignment : WorkerAssignment) : WorkerLease :=
  { assignment, released := false }

/-- `release` (prelude_and_guards.rs, 58-66). -/
def WorkerLease.release (lease : WorkerLease) (s : RoundRobinScheduler) :
    WorkerLease × RoundRobinScheduler :=
  if lease.released then (lease, s)
  else ({ lease with released := true }, s.release lease.assignment.workerId)

/-- The scheduler and every lease it has granted, in order. -/
structure LeasedScheduler where
  scheduler : RoundRobinScheduler
  leases : List WorkerLease

/-- The operations on the scheduler; `release i` is the release of the `i`-th lease. -/
inductive SchedulerOp
  | registerWorker (info : WorkerInfo)
  | unregisterWorker (workerId : String)
  | setWorkerDraining (workerId : String)
  | updateWorkerLoad (now : Instant) (workerId : String) (load maxLoad : UInt32)
  | updateWorkerRuntimeState (workerId : String) (state : RuntimeState)
  | markEnvironmentPrepared (workerId envType envPackageId envPackageVersion bundleDigest
      backendKind message : String)
  | touchWorkerReport (now : Instant) (workerId : String)
  | reserve (now : Instant) (request : EpisodeRequest)
  | release (i : Nat)

namespace LeasedScheduler

/-- Outstanding leases of one worker. -/
def outstanding (leases : List WorkerLease) (workerId : String) : Nat :=
  leases.countP fun lease => !lease.released && lease.assignment.workerId == workerId

/-- One operation. A registration comes from the control plane, which passes a reserved load
of zero; a failed reservation changes nothing. -/
def step (σ : LeasedScheduler) : SchedulerOp → Option LeasedScheduler
  | .registerWorker info =>
    if info.reservedLoad = 0 then some { σ with scheduler := (σ.scheduler.registerWorker info).2 }
    else none
  | .unregisterWorker id => some { σ with scheduler := σ.scheduler.unregisterWorker id }
  | .setWorkerDraining id => some { σ with scheduler := σ.scheduler.setWorkerDraining id }
  | .updateWorkerLoad now id load maxLoad =>
    some { σ with scheduler := (σ.scheduler.updateWorkerLoad now id load maxLoad).2 }
  | .updateWorkerRuntimeState id state =>
    some { σ with scheduler := σ.scheduler.updateWorkerRuntimeState id state }
  | .markEnvironmentPrepared id envType package version digest kind message =>
    some { σ with
      scheduler :=
        σ.scheduler.markEnvironmentPrepared id envType package version digest kind message }
  | .touchWorkerReport now id => some { σ with scheduler := σ.scheduler.touchWorkerReport now id }
  | .reserve now request =>
    match σ.scheduler.reserve now request with
    | .ok (assignment, scheduler) =>
      some { scheduler, leases := σ.leases ++ [WorkerLease.new assignment] }
    | .error _ => some σ
  | .release i =>
    match σ.leases[i]? with
    | none => none
    | some lease =>
      let (lease, scheduler) := lease.release σ.scheduler
      some { scheduler, leases := σ.leases.set i lease }

/-- All runs start from an empty scheduler. -/
def system : System LeasedScheduler SchedulerOp where
  init σ := ∃ degraded heartbeat, σ = { scheduler := .new degraded heartbeat, leases := [] }
  step := step

/-- The reserved load under an id, zero when no worker has it. -/
def reservedFor (s : RoundRobinScheduler) (workerId : String) : Nat :=
  ((s.worker? workerId).map fun w => w.reservedLoad.toNat).getD 0

/-- The accounting invariant. -/
structure Accounted (σ : LeasedScheduler) : Prop where
  unique : σ.scheduler.Unique
  balanced : ∀ workerId, reservedFor σ.scheduler workerId = outstanding σ.leases workerId

/-! ## What each operation does to the reserved loads -/

section ReservedFor

variable {s : RoundRobinScheduler} {id id' : String} {f : WorkerInfo → WorkerInfo}

theorem reservedFor_updateWorker (keeps : ∀ w, (f w).workerId = w.workerId)
    (same : ∀ w, (f w).reservedLoad = w.reservedLoad) :
    reservedFor (s.updateWorker id f) id' = reservedFor s id' := by
  unfold reservedFor
  rw [worker?_updateWorker keeps]
  split
  · cases s.worker? id' with
    | none => rfl
    | some w => simp [same]
  · rfl

theorem reservedFor_retain (unique : s.Unique) {keep : WorkerInfo → Bool}
    (idle : ∀ w, s.worker? id = some w → keep w = false → w.reservedLoad = 0) :
    reservedFor (s.retain keep) id = reservedFor s id := by
  unfold reservedFor
  rw [worker?_retain unique]
  cases found : s.worker? id with
  | none => rfl
  | some w =>
    cases kept : keep w with
    | true => simp [Option.filter, kept]
    | false => simp [Option.filter, kept, idle w found kept]

variable {w : WorkerInfo}

theorem reservedLoad_of_idle (idle : effectiveLoad w = 0) : w.reservedLoad = 0 := by
  have bound : (max w.reservedLoad w.reportedLoad).toNat = 0 := congrArg UInt32.toNat idle
  rw [toNat_max] at bound
  apply UInt32.toNat_inj.mp
  simp
  omega

theorem reservedFor_unregisterWorker (unique : s.Unique) :
    reservedFor (s.unregisterWorker id) id' = reservedFor s id' := by
  unfold unregisterWorker
  rw [reservedFor_retain (unique.setWorkerDraining id)]
  · exact reservedFor_updateWorker (f := WorkerInfo.drain) (fun _ => rfl) (fun _ => rfl)
  · intro w _ dropped
    apply reservedLoad_of_idle
    have := (not_or.mp (of_decide_eq_false dropped)).2
    simpa [UInt32.lt_iff_toNat_lt, ← UInt32.toNat_inj] using this

theorem reservedFor_registerWorker (unique : s.Unique) {info : WorkerInfo}
    (fresh : info.reservedLoad = 0) :
    reservedFor (s.registerWorker info).2 id = reservedFor s id := by
  rcases registerWorker_cases unique info with ⟨w, _, _, refused⟩ | ⟨idle, replaced⟩
  · rw [refused]
    exact reservedFor_updateWorker (f := WorkerInfo.drain) (fun _ => rfl) (fun _ => rfl)
  · rw [replaced]
    unfold reservedFor
    rw [worker?_replaceWorker unique]
    by_cases same : id = info.workerId
    · subst same
      cases found : s.worker? info.workerId with
      | none => simp [fresh]
      | some w => simp [fresh, reservedLoad_of_idle (idle w found)]
    · rw [if_neg same]

/-- A reservation raises the load of the chosen worker by one: it is below the capacity, so
`saturating_add` does not saturate. -/
theorem reservedLoad_reserveOne (room : effectiveLoad w < w.capacity) :
    (WorkerInfo.reserveOne w).reservedLoad.toNat = w.reservedLoad.toNat + 1 := by
  have bound : (max w.reservedLoad w.reportedLoad).toNat < w.capacity.toNat :=
    UInt32.lt_iff_toNat_lt.mp room
  rw [toNat_max] at bound
  have small := w.capacity.toNat_lt_size
  refine toNat_saturatingAdd_of_lt ?_
  simp
  omega

theorem reservedFor_reserveLoad (found : s.worker? w.workerId = some w)
    (room : effectiveLoad w < w.capacity) (id : String) :
    reservedFor (s.reserveLoad w.workerId) id =
      reservedFor s id + if id = w.workerId then 1 else 0 := by
  unfold reservedFor reserveLoad
  rw [worker?_updateWorker (f := WorkerInfo.reserveOne) (fun _ => rfl)]
  by_cases same : id = w.workerId
  · subst same
    simp [found, reservedLoad_reserveOne room]
  · simp [same]

theorem reservedFor_release (unique : s.Unique) :
    reservedFor (s.release id) id' = reservedFor s id' - if id' = id then 1 else 0 := by
  have updated : (s.updateWorker id WorkerInfo.releaseOne).Unique :=
    unique.updateWorker fun _ => rfl
  unfold release
  rw [reservedFor_retain updated]
  · unfold reservedFor
    rw [worker?_updateWorker (f := WorkerInfo.releaseOne) (fun _ => rfl)]
    by_cases same : id' = id
    · cases found : s.worker? id' with
      | none => simp
      | some w => simp [same, WorkerInfo.releaseOne]
    · simp [same]
  · intro w _ dropped
    apply reservedLoad_of_idle
    simp only [Bool.not_eq_false', Bool.and_eq_true, beq_iff_eq] at dropped
    exact dropped.2

end ReservedFor

/-! ## The invariant along a run -/

attribute [local simp] LeasedScheduler.step

section Invariant

variable {σ τ : LeasedScheduler} {op : SchedulerOp}

theorem outstanding_append_new (leases : List WorkerLease) (assignment : WorkerAssignment)
    (id : String) :
    outstanding (leases ++ [WorkerLease.new assignment]) id =
      outstanding leases id + if id = assignment.workerId then 1 else 0 := by
  by_cases same : assignment.workerId = id
  · simp [outstanding, WorkerLease.new, same]
  · simp [outstanding, WorkerLease.new, same, Ne.symm same]

variable {lease : WorkerLease} {id : String} {f : WorkerInfo → WorkerInfo} {s : RoundRobinScheduler}
  {w' w : WorkerInfo}

theorem outstanding_set_released {leases : List WorkerLease} {i : Nat}
    (found : leases[i]? = some lease) (held : lease.released = false) (id : String) :
    outstanding (leases.set i { lease with released := true }) id =
      outstanding leases id - if id = lease.assignment.workerId then 1 else 0 := by
  obtain ⟨bound, rfl⟩ := List.getElem?_eq_some_iff.mp found
  unfold outstanding
  rw [List.countP_set bound]
  by_cases same : leases[i].assignment.workerId = id
  · simp [held, same]
  · simp [same, Ne.symm same]

theorem outstanding_pos {leases : List WorkerLease} (member : lease ∈ leases)
    (held : lease.released = false) : 0 < outstanding leases lease.assignment.workerId :=
  List.countP_pos_iff.mpr ⟨lease, member, by simp [held]⟩

/-- An operation that updates one record in place without touching its reserved load. -/
theorem Accounted.updateWorker (accounted : Accounted σ) (keeps : ∀ w, (f w).workerId = w.workerId)
    (same : ∀ w, (f w).reservedLoad = w.reservedLoad) :
    Accounted { σ with scheduler := σ.scheduler.updateWorker id f } where
  unique := accounted.unique.updateWorker keeps
  balanced id' := (reservedFor_updateWorker keeps same).trans (accounted.balanced id')

theorem Accounted.step (accounted : Accounted σ) (taken : σ.step op = some τ) : Accounted τ := by
  obtain ⟨unique, balanced⟩ := accounted
  cases op with
  | registerWorker info =>
    by_cases fresh : info.reservedLoad = 0
    · obtain rfl : _ = τ := by simpa [fresh] using taken
      exact ⟨unique.registerWorker info,
        fun id => (reservedFor_registerWorker unique fresh).trans (balanced id)⟩
    · simp [fresh] at taken
  | unregisterWorker id =>
    cases taken
    exact ⟨unique.unregisterWorker id,
      fun id' => (reservedFor_unregisterWorker unique).trans (balanced id')⟩
  | setWorkerDraining id =>
    cases taken
    exact Accounted.updateWorker (f := WorkerInfo.drain) ⟨unique, balanced⟩
      (fun _ => rfl) (fun _ => rfl)
  | updateWorkerLoad =>
    cases taken
    unfold updateWorkerLoad
    split
    · exact Accounted.updateWorker ⟨unique, balanced⟩ (fun _ => by simp) (fun _ => by simp)
    · exact ⟨unique, balanced⟩
  | updateWorkerRuntimeState =>
    cases taken
    exact Accounted.updateWorker ⟨unique, balanced⟩ (fun _ => rfl) (fun _ => rfl)
  | markEnvironmentPrepared =>
    cases taken
    exact Accounted.updateWorker ⟨unique, balanced⟩ (fun _ => by simp) (fun _ => by simp)
  | touchWorkerReport =>
    cases taken
    exact Accounted.updateWorker ⟨unique, balanced⟩ (fun _ => rfl) (fun _ => rfl)
  | reserve now request =>
    cases granted : σ.scheduler.reserve now request with
    | error e =>
      obtain rfl : σ = τ := by simpa [granted] using taken
      exact ⟨unique, balanced⟩
    | ok answer =>
      obtain ⟨assignment, scheduler⟩ := answer
      obtain rfl : _ = τ := by simpa [granted] using taken
      obtain ⟨w, found, eligible, rfl, rfl⟩ := reserve_ok unique granted
      refine ⟨unique.updateWorker fun _ => rfl, fun id => ?_⟩
      have raised := reservedFor_reserveLoad found (effectiveLoad_lt_of_eligible eligible) id
      rw [outstanding_append_new, ← balanced id]
      exact raised
  | release i =>
    cases found : σ.leases[i]? with
    | none => simp [found] at taken
    | some lease =>
      cases held : lease.released with
      | true =>
        obtain rfl : _ = τ := by
          simpa [found, WorkerLease.release, held] using taken
        obtain ⟨bound, rfl⟩ := List.getElem?_eq_some_iff.mp found
        rw [List.set_getElem_self]
        exact ⟨unique, balanced⟩
      | false =>
        obtain rfl : _ = τ := by
          simpa [found, WorkerLease.release, held] using taken
        refine ⟨unique.release _, fun id => ?_⟩
        rw [reservedFor_release unique, outstanding_set_released found held, balanced id]

theorem Accounted.of_reachable (reached : Reachable system σ) : Accounted σ := by
  refine ReachableWhen.invariant ?_ ?_ reached
  · rintro _ ⟨degraded, heartbeat, rfl⟩
    exact ⟨List.nodup_nil, fun _ => rfl⟩
  · intro s op t _ accounted _ taken
    exact accounted.step taken

theorem Accounted.worker_of_outstanding (accounted : Accounted σ)
    (held : 0 < outstanding σ.leases id) :
    ∃ w, σ.scheduler.worker? id = some w ∧ w.reservedLoad.toNat = outstanding σ.leases id := by
  have balanced := accounted.balanced id
  unfold reservedFor at balanced
  cases found : σ.scheduler.worker? id with
  | none =>
    rw [found] at balanced
    simp at balanced
    omega
  | some w =>
    rw [found] at balanced
    exact ⟨w, rfl, by simpa using balanced⟩

/-- The fields that only a registration writes. -/
def SameRegistration (w w' : WorkerInfo) : Prop :=
  w'.endpoint = w.endpoint ∧ w'.gatewayPublicUrl = w.gatewayPublicUrl ∧ w'.resource = w.resource

theorem sameRegistration_updateWorker {id' : String}
    (present : (s.updateWorker id f).worker? id' = some w')
    (keeps : ∀ w, (f w).workerId = w.workerId) (same : ∀ w, SameRegistration w (f w)) :
    ∃ w, s.worker? id' = some w ∧ SameRegistration w w' := by
  rw [worker?_updateWorker keeps] at present
  by_cases named : id' = id
  · rw [if_pos named] at present
    obtain ⟨w, found, rfl⟩ := Option.map_eq_some_iff.mp present
    exact ⟨w, found, same w⟩
  · rw [if_neg named] at present
    exact ⟨w', present, rfl, rfl, rfl⟩

theorem worker?_of_retain (unique : s.Unique) {keep : WorkerInfo → Bool}
    (present : (s.retain keep).worker? id = some w) : s.worker? id = some w := by
  rw [worker?_retain unique] at present
  exact (Option.filter_eq_some_iff.mp present).1

theorem sameRegistration_heartbeat (now : Instant) (load maxLoad : UInt32) (w : WorkerInfo) :
    SameRegistration w (WorkerInfo.heartbeat now load maxLoad w) := by
  unfold WorkerInfo.heartbeat
  split <;> split <;> exact ⟨rfl, rfl, rfl⟩

theorem sameRegistration_prepared (envType package version digest kind message : String)
    (w : WorkerInfo) :
    SameRegistration w (WorkerInfo.prepared envType package version digest kind message w) := by
  unfold WorkerInfo.prepared
  dsimp only
  split <;> split <;> exact ⟨rfl, rfl, rfl⟩

/-- A record in the table after an operation continues the record it had before, unless the
operation is the registration that wrote it. -/
theorem worker_origin (accounted : Accounted σ) (taken : σ.step op = some τ)
    (present : τ.scheduler.worker? id = some w') :
    (∃ w, σ.scheduler.worker? id = some w ∧ SameRegistration w w') ∨
      op = .registerWorker w' ∧ w'.reservedLoad = 0 := by
  have unique := accounted.unique
  cases op with
  | registerWorker info =>
    by_cases fresh : info.reservedLoad = 0
    · obtain rfl : _ = τ := by simpa [fresh] using taken
      rcases registerWorker_cases unique info with ⟨w, _, _, refused⟩ | ⟨_, replaced⟩
      · rw [refused] at present
        exact Or.inl
          (sameRegistration_updateWorker present (fun _ => rfl) (fun _ => ⟨rfl, rfl, rfl⟩))
      · rw [replaced] at present
        rw [worker?_replaceWorker unique] at present
        by_cases same : id = info.workerId
        · rw [if_pos same] at present
          cases present
          exact Or.inr ⟨rfl, fresh⟩
        · rw [if_neg same] at present
          exact Or.inl ⟨w', present, rfl, rfl, rfl⟩
    · simp [fresh] at taken
  | unregisterWorker id' =>
    cases taken
    exact Or.inl
      (sameRegistration_updateWorker (worker?_of_retain (unique.setWorkerDraining id') present)
      (fun _ => rfl) (fun _ => ⟨rfl, rfl, rfl⟩))
  | setWorkerDraining =>
    cases taken
    exact Or.inl (sameRegistration_updateWorker present (fun _ => rfl) (fun _ => ⟨rfl, rfl, rfl⟩))
  | updateWorkerLoad now id' load maxLoad =>
    cases taken
    unfold updateWorkerLoad at present
    split at present
    · exact Or.inl (sameRegistration_updateWorker present (fun _ => by simp)
        (sameRegistration_heartbeat now load maxLoad))
    · exact Or.inl ⟨w', present, rfl, rfl, rfl⟩
  | updateWorkerRuntimeState =>
    cases taken
    exact Or.inl (sameRegistration_updateWorker present (fun _ => rfl) (fun _ => ⟨rfl, rfl, rfl⟩))
  | markEnvironmentPrepared id' envType package version digest kind message =>
    cases taken
    exact Or.inl (sameRegistration_updateWorker present (fun _ => by simp)
      (sameRegistration_prepared envType package version digest kind message))
  | touchWorkerReport =>
    cases taken
    exact Or.inl (sameRegistration_updateWorker present (fun _ => rfl) (fun _ => ⟨rfl, rfl, rfl⟩))
  | reserve now request =>
    cases granted : σ.scheduler.reserve now request with
    | error e =>
      obtain rfl : σ = τ := by simpa [granted] using taken
      exact Or.inl ⟨w', present, rfl, rfl, rfl⟩
    | ok answer =>
      obtain ⟨assignment, scheduler⟩ := answer
      obtain rfl : _ = τ := by simpa [granted] using taken
      obtain ⟨w, _, _, _, rfl⟩ := reserve_ok unique granted
      exact Or.inl (sameRegistration_updateWorker (f := WorkerInfo.reserveOne) present
        (fun _ => rfl) (fun _ => ⟨rfl, rfl, rfl⟩))
  | release i =>
    cases found : σ.leases[i]? with
    | none => simp [found] at taken
    | some lease =>
      cases held : lease.released with
      | true =>
        obtain rfl : _ = τ := by
          simpa [found, WorkerLease.release, held] using taken
        exact Or.inl ⟨w', present, rfl, rfl, rfl⟩
      | false =>
        obtain rfl : _ = τ := by
          simpa [found, WorkerLease.release, held] using taken
        have lowered :
            (σ.scheduler.updateWorker lease.assignment.workerId WorkerInfo.releaseOne).Unique :=
          unique.updateWorker fun _ => rfl
        exact Or.inl (sameRegistration_updateWorker (f := WorkerInfo.releaseOne)
          (worker?_of_retain lowered present) (fun _ => rfl) (fun _ => ⟨rfl, rfl, rfl⟩))

/-- A worker that still has an outstanding lease after an operation is neither gone nor
replaced. -/
theorem Accounted.leased_worker_stays (accounted : Accounted σ) (taken : σ.step op = some τ)
    (member : w ∈ σ.scheduler.workers) (held : 0 < outstanding τ.leases w.workerId) :
    ∃ w' ∈ τ.scheduler.workers, w'.workerId = w.workerId ∧ SameRegistration w w' := by
  have before : σ.scheduler.worker? w.workerId = some w := lookup_of_mem accounted.unique member
  obtain ⟨w', after, load⟩ := (accounted.step taken).worker_of_outstanding held
  refine ⟨w', mem_of_lookup after, key_of_lookup after, ?_⟩
  rcases worker_origin accounted taken after with ⟨w₀, found, same⟩ | ⟨_, fresh⟩
  · obtain rfl : w = w₀ := Option.some.inj (before.symm.trans found)
    exact same
  · rw [fresh] at load
    simp at load
    omega

/-- While a worker has an outstanding lease, a registration under its id is refused. -/
theorem Accounted.registration_refused (accounted : Accounted σ) {info : WorkerInfo}
    (held : 0 < outstanding σ.leases info.workerId) :
    (σ.scheduler.registerWorker info).1.accepted = false := by
  obtain ⟨w, found, load⟩ := accounted.worker_of_outstanding held
  rcases registerWorker_cases accounted.unique info with ⟨_, _, _, refused⟩ | ⟨idle, _⟩
  · rw [refused]
  · rw [reservedLoad_of_idle (idle w found)] at load
    simp at load
    omega

/-- `reserve` picks a worker that accepts work and keeps its load within its capacity. -/
def ReservesWithinCapacity (s : RoundRobinScheduler) : Prop :=
  ∀ now request assignment t, s.reserve now request = .ok (assignment, t) →
    ∃ w w', s.worker? assignment.workerId = some w ∧ t.worker? assignment.workerId = some w' ∧
      w.draining = false ∧ w'.draining = false ∧
      w'.reservedLoad.toNat = w.reservedLoad.toNat + 1 ∧ effectiveLoad w' ≤ w'.capacity

theorem reservesWithinCapacity (unique : s.Unique) : ReservesWithinCapacity s := by
  intro now request assignment t granted
  obtain ⟨w, found, eligible, rfl, rfl⟩ := reserve_ok unique granted
  have room := effectiveLoad_lt_of_eligible eligible
  have accepting := not_draining_of_eligible eligible
  have raised := reservedLoad_reserveOne room
  refine ⟨w, WorkerInfo.reserveOne w, found, ?_, accepting, accepting, raised, ?_⟩
  · have updated : (s.reserveLoad w.workerId).worker? w.workerId =
        (s.worker? w.workerId).map WorkerInfo.reserveOne := by
      unfold reserveLoad
      rw [worker?_updateWorker (f := WorkerInfo.reserveOne) (fun _ => rfl), if_pos rfl]
    rw [found] at updated
    exact updated
  · have before : (max w.reservedLoad w.reportedLoad).toNat < w.capacity.toNat :=
      UInt32.lt_iff_toNat_lt.mp room
    rw [toNat_max] at before
    rw [UInt32.le_iff_toNat_le, effectiveLoad, toNat_max, raised]
    change max _ w.reportedLoad.toNat ≤ w.capacity.toNat
    omega

end Invariant

end LeasedScheduler

end UEnv.Scheduler
