import UEnv.Lib.Runs
import UEnv.Scheduler.RoundRobin

/-!
# Workers that leave

What is left of a worker after `unregister_worker`. Every method of the scheduler may be called at
any time and with any arguments; next to the scheduler stands the list of the ids that were
unregistered and have not been registered again.
-/

namespace UEnv.Scheduler

open UEnv.Proto UEnv.Records UEnv.Runs RoundRobinScheduler

/-- The calls of the scheduler that may change it. -/
inductive SchedulerCall
  | registerWorker (info : WorkerInfo)
  | unregisterWorker (workerId : String)
  | setWorkerDraining (workerId : String)
  | updateWorkerLoad (now : Instant) (workerId : String) (load maxLoad : UInt32)
  | updateWorkerRuntimeState (workerId : String) (state : RuntimeState)
  | markEnvironmentPrepared (workerId envType envPackageId envPackageVersion bundleDigest
      backendKind message : String)
  | touchWorkerReport (now : Instant) (workerId : String)
  | incrementLoad (workerId : String)
  | selectPreparableWorker (now : Instant) (request : EpisodeRequest)
  | schedule (now : Instant) (request : EpisodeRequest)
  | reserve (now : Instant) (request : EpisodeRequest)
  | release (workerId : String)

/-- The scheduler and the ids that left it. -/
structure Roster where
  scheduler : RoundRobinScheduler
  departed : List String

namespace Roster

/-- The scheduler after a fallible selection. -/
def selected (s : RoundRobinScheduler)
    (answer : Except ScheduleError (WorkerAssignment × RoundRobinScheduler)) :
      RoundRobinScheduler :=
  match answer with
  | .ok (_, s) => s
  | .error _ => s

/-- A refused registration registers nothing: the id stays departed. -/
def call (σ : Roster) : SchedulerCall → Roster
  | .registerWorker info =>
    let (registration, scheduler) := σ.scheduler.registerWorker info
    { scheduler
      departed := if registration.accepted then σ.departed.filter (· ≠ info.workerId)
        else σ.departed }
  | .unregisterWorker id =>
    { scheduler := σ.scheduler.unregisterWorker id, departed := id :: σ.departed }
  | .setWorkerDraining id => { σ with scheduler := σ.scheduler.setWorkerDraining id }
  | .updateWorkerLoad now id load maxLoad =>
    { σ with scheduler := (σ.scheduler.updateWorkerLoad now id load maxLoad).2 }
  | .updateWorkerRuntimeState id state =>
    { σ with scheduler := σ.scheduler.updateWorkerRuntimeState id state }
  | .markEnvironmentPrepared id envType package version digest kind message =>
    { σ with
      scheduler :=
        σ.scheduler.markEnvironmentPrepared id envType package version digest kind message }
  | .touchWorkerReport now id => { σ with scheduler := σ.scheduler.touchWorkerReport now id }
  | .incrementLoad id => { σ with scheduler := σ.scheduler.reserveLoad id }
  | .selectPreparableWorker now request =>
    { σ with
      scheduler := selected σ.scheduler (σ.scheduler.selectPreparableWorker now request) }
  | .schedule now request =>
    { σ with scheduler := selected σ.scheduler (σ.scheduler.schedule now request) }
  | .reserve now request =>
    { σ with scheduler := selected σ.scheduler (σ.scheduler.reserve now request) }
  | .release id => { σ with scheduler := σ.scheduler.release id }

/-- All runs start from an empty scheduler. -/
def system : System Roster SchedulerCall where
  init σ := ∃ degraded heartbeat, σ = { scheduler := .new degraded heartbeat, departed := [] }
  step σ c := some (σ.call c)

/-- A departed worker is in the list only under load. -/
def IdleGone (σ : Roster) : Prop :=
  ∀ id ∈ σ.departed, ∀ w ∈ σ.scheduler.workers, w.workerId = id → 0 < effectiveLoad w

/-- The heartbeat does not take the last load of a departed worker away. -/
def Admits (σ : Roster) : SchedulerCall → Prop
  | .updateWorkerLoad _ id load _ => id ∈ σ.departed →
    ∀ w : WorkerInfo, σ.scheduler.worker? id = some w → 0 < max w.reservedLoad load
  | _ => True

/-- A departed worker that is still listed accepts no episode and has load. -/
structure Leaving (σ : Roster) : Prop where
  unique : σ.scheduler.Unique
  listed : ∀ id ∈ σ.departed, ∀ w : WorkerInfo, σ.scheduler.worker? id = some w →
    w.draining = true ∧ 0 < effectiveLoad w

variable {σ : Roster} {id : String} {f : WorkerInfo → WorkerInfo}

theorem Leaving.updateWorker (leaving : Leaving σ) (keeps : ∀ w, (f w).workerId = w.workerId)
    (stays : id ∈ σ.departed → ∀ w : WorkerInfo, σ.scheduler.worker? id = some w →
      w.draining = true → 0 < effectiveLoad w → (f w).draining = true ∧ 0 < effectiveLoad (f w)) :
    Leaving { σ with scheduler := σ.scheduler.updateWorker id f } where
  unique := leaving.unique.updateWorker keeps
  listed := by
    intro other gone w' present
    simp only [worker?_updateWorker keeps] at present
    by_cases same : other = id
    · subst same
      rw [if_pos rfl] at present
      obtain ⟨w, found, rfl⟩ := Option.map_eq_some_iff.mp present
      obtain ⟨draining, load⟩ := leaving.listed other gone w found
      exact stays gone w found draining load
    · rw [if_neg same] at present
      exact leaving.listed other gone w' present

theorem Leaving.updateOther (leaving : Leaving σ) (keeps : ∀ w, (f w).workerId = w.workerId)
    (draining : ∀ w, w.draining = true → (f w).draining = true)
    (load : ∀ w, effectiveLoad (f w) = effectiveLoad w) :
    Leaving { σ with scheduler := σ.scheduler.updateWorker id f } := by
  apply leaving.updateWorker keeps
  intro _ w _ flagged busy
  rw [load]
  exact ⟨draining w flagged, busy⟩

theorem Leaving.withCounter (leaving : Leaving σ) (counter : UInt64) :
    Leaving { σ with scheduler := { σ.scheduler with counter } } :=
  ⟨leaving.unique, leaving.listed⟩

theorem effectiveLoad_pos_iff (w : WorkerInfo) :
    0 < effectiveLoad w ↔ 0 < w.reservedLoad.toNat ∨ 0 < w.reportedLoad.toNat := by
  unfold effectiveLoad
  rw [UInt32.lt_iff_toNat_lt, toNat_max]
  simp only [UInt32.toNat_zero]
  omega

theorem effectiveLoad_heartbeat (now : Instant) (load maxLoad : UInt32) (w : WorkerInfo) :
    effectiveLoad (WorkerInfo.heartbeat now load maxLoad w) = max w.reservedLoad load := by
  unfold WorkerInfo.heartbeat
  split <;> split <;> rfl

theorem prepared_draining (envType package version digest kind message : String) (w : WorkerInfo) :
    (WorkerInfo.prepared envType package version digest kind message w).draining = w.draining := by
  unfold WorkerInfo.prepared
  dsimp only
  split <;> split <;> rfl

theorem effectiveLoad_prepared (envType package version digest kind message : String)
    (w : WorkerInfo) :
    effectiveLoad (WorkerInfo.prepared envType package version digest kind message w) =
      effectiveLoad w := by
  unfold WorkerInfo.prepared
  dsimp only
  split <;> split <;> rfl

theorem effectiveLoad_reserveOne_pos {w : WorkerInfo} (busy : 0 < effectiveLoad w) :
    0 < effectiveLoad (WorkerInfo.reserveOne w) := by
  rw [effectiveLoad_pos_iff] at busy ⊢
  rcases busy with reserved | reported
  · left
    change 0 < (saturatingAdd w.reservedLoad 1).toNat
    unfold saturatingAdd
    split
    · next fits =>
      rw [UInt32.toNat_add, Nat.mod_eq_of_lt fits]
      omega
    · decide
  · exact Or.inr reported

section

variable (leaving : Leaving σ)
include leaving

theorem Leaving.reserveLoad (id : String) :
    Leaving { σ with scheduler := σ.scheduler.reserveLoad id } := by
  apply leaving.updateWorker (f := WorkerInfo.reserveOne) (fun _ => rfl)
  intro _ w _ flagged busy
  exact ⟨flagged, effectiveLoad_reserveOne_pos busy⟩

theorem Leaving.unregisterWorker (id : String) :
    Leaving { scheduler := σ.scheduler.unregisterWorker id, departed := id :: σ.departed } where
  unique := leaving.unique.unregisterWorker id
  listed := by
    intro other gone w' present
    unfold RoundRobinScheduler.unregisterWorker at present
    rw [worker?_retain (leaving.unique.setWorkerDraining id), worker?_setWorkerDraining] at present
    obtain ⟨present, kept⟩ := Option.filter_eq_some_iff.mp present
    by_cases same : other = id
    · rw [if_pos same] at present
      obtain ⟨w, found, rfl⟩ := Option.map_eq_some_iff.mp present
      have named : w.workerId = id := (key_of_lookup found).trans same
      refine ⟨rfl, ?_⟩
      simpa [WorkerInfo.drain, named] using kept
    · rw [if_neg same] at present
      exact leaving.listed other ((List.mem_cons.mp gone).resolve_left same) w' present

theorem Leaving.release (id : String) : Leaving { σ with scheduler := σ.scheduler.release id } where
  unique := leaving.unique.release id
  listed := by
    intro other gone w' present
    have lowered : (σ.scheduler.updateWorker id WorkerInfo.releaseOne).Unique :=
      leaving.unique.updateWorker fun _ => rfl
    unfold RoundRobinScheduler.release at present
    have keeps : ∀ w, (WorkerInfo.releaseOne w).workerId = w.workerId := fun _ => rfl
    simp only [worker?_retain lowered, worker?_updateWorker keeps] at present
    obtain ⟨present, kept⟩ := Option.filter_eq_some_iff.mp present
    by_cases same : other = id
    · rw [if_pos same] at present
      obtain ⟨w, found, rfl⟩ := Option.map_eq_some_iff.mp present
      have named : (WorkerInfo.releaseOne w).workerId = id := (key_of_lookup found).trans same
      have flagged : (WorkerInfo.releaseOne w).draining = true :=
        (leaving.listed other gone w found).1
      have busy : effectiveLoad (WorkerInfo.releaseOne w) ≠ 0 := by
        simpa [named, flagged] using kept
      exact ⟨flagged, UInt32.pos_iff_ne_zero.mpr busy⟩
    · rw [if_neg same] at present
      exact leaving.listed other gone w' present

theorem Leaving.registerWorker (info : WorkerInfo) : Leaving (σ.call (.registerWorker info)) := by
  rcases registerWorker_cases leaving.unique info with ⟨w, _, _, refused⟩ | ⟨_, replaced⟩
  · simp only [call, refused]
    exact leaving.updateOther (fun _ => rfl) (fun _ _ => rfl) (fun _ => rfl)
  · simp only [call, replaced, if_true]
    refine ⟨leaving.unique.replaceWorker info, ?_⟩
    intro other gone w present
    obtain ⟨gone, apart⟩ := List.mem_filter.mp gone
    rw [worker?_replaceWorker leaving.unique, if_neg (of_decide_eq_true apart)] at present
    exact leaving.listed other gone w present

theorem Leaving.call (c : SchedulerCall) (admitted : σ.Admits c) : Leaving (σ.call c) := by
  cases c with
  | registerWorker info => exact leaving.registerWorker info
  | unregisterWorker id => exact leaving.unregisterWorker id
  | setWorkerDraining id => exact leaving.updateOther (fun _ => rfl) (fun _ _ => rfl) (fun _ => rfl)
  | updateWorkerLoad now id load maxLoad =>
    simp only [Roster.call, RoundRobinScheduler.updateWorkerLoad]
    split
    · apply leaving.updateWorker (WorkerInfo.heartbeat_workerId now load maxLoad)
      intro gone w found flagged _
      rw [WorkerInfo.heartbeat_draining, effectiveLoad_heartbeat]
      exact ⟨flagged, admitted gone w found⟩
    · exact leaving
  | updateWorkerRuntimeState =>
    exact leaving.updateOther (fun _ => rfl) (fun _ flagged => flagged) (fun _ => rfl)
  | markEnvironmentPrepared id envType package version digest kind message =>
    apply leaving.updateOther
      (WorkerInfo.prepared_workerId envType package version digest kind message)
    · intro w flagged
      rw [prepared_draining]
      exact flagged
    · exact effectiveLoad_prepared envType package version digest kind message
  | touchWorkerReport =>
    exact leaving.updateOther (fun _ => rfl) (fun _ flagged => flagged) (fun _ => rfl)
  | incrementLoad id => exact leaving.reserveLoad id
  | selectPreparableWorker =>
    simp only [Roster.call, RoundRobinScheduler.selectPreparableWorker]
    split
    · exact leaving
    · exact leaving.withCounter _
  | schedule =>
    simp only [Roster.call, RoundRobinScheduler.schedule]
    split
    · exact leaving
    · exact leaving.withCounter _
  | reserve now request =>
    simp only [Roster.call]
    cases granted : σ.scheduler.reserve now request with
    | error e => exact leaving
    | ok answer =>
      obtain ⟨w, _, _, _, reserved⟩ := reserve_ok leaving.unique granted
      rw [show answer = (answer.1, answer.2) from rfl, selected, reserved]
      exact (leaving.reserveLoad w.workerId).withCounter _
  | release id => exact leaving.release id

end

/-- As long as no heartbeat takes the last load of a departed worker away, a departed worker is
listed only under load. -/
theorem idleGone_along_admitted_runs (reached : ReachableWhen system Admits σ) : σ.IdleGone := by
  have leaving : Leaving σ := by
    refine reached.invariant ?_ ?_
    · rintro _ ⟨degraded, heartbeat, rfl⟩
      refine ⟨List.nodup_nil, ?_⟩
      intro id gone
      cases gone
    · intro s c t _ leaving admitted taken
      cases taken
      exact leaving.call c admitted
  intro id gone w member named
  exact (leaving.listed id gone w ((mem_workers_iff leaving.unique).mpr ⟨member, named⟩)).2

instance (σ : Roster) : Decidable σ.IdleGone :=
  inferInstanceAs (Decidable (∀ id ∈ σ.departed, ∀ w ∈ σ.scheduler.workers,
    w.workerId = id → 0 < effectiveLoad w))

instance decidableAdmits (σ : Roster) : ∀ c, Decidable (σ.Admits c)
  | .updateWorkerLoad _ id load _ => inferInstanceAs (Decidable (id ∈ σ.departed →
      ∀ w ∈ σ.scheduler.worker? id, 0 < max w.reservedLoad load))
  | .registerWorker _ | .unregisterWorker _ | .setWorkerDraining _ | .updateWorkerRuntimeState ..
  | .markEnvironmentPrepared .. | .touchWorkerReport .. | .incrementLoad _
  | .selectPreparableWorker .. | .schedule .. | .reserve .. | .release _ => .isTrue trivial

/-- A worker with one episode is unregistered, and its heartbeat still counts the episode. -/
def unregisteredUnderLoad : List SchedulerCall :=
  [.registerWorker { workerId := "w1", supportedEnvTypes := ["math"], capacity := 2 },
    .reserve 0 { envType := "math" }, .updateWorkerLoad 1 "w1" 1 2, .unregisterWorker "w1"]

theorem idleGone_unregistered_under_load :
    ∃ σ : Roster, σ.departed = ["w1"] ∧ σ.scheduler.workers.length = 1 ∧ σ.IdleGone := by
  let start : Roster := { scheduler := .new 60 60, departed := [] }
  have along : system.Along Admits start unregisteredUnderLoad := by decide
  have ended : ∃ σ ∈ system.exec start unregisteredUnderLoad,
      σ.departed = ["w1"] ∧ σ.scheduler.workers.length = 1 := by decide
  obtain ⟨σ, ran, departed, listed⟩ := ended
  refine ⟨σ, departed, listed, ?_⟩
  exact idleGone_along_admitted_runs
    (ReachableWhen.of_exec (.start ⟨60, 60, rfl⟩) unregisteredUnderLoad along ran)

/-- When the heartbeat reports the end of the episode after the lease was released, nothing takes
the worker out of the list. -/
theorem idle_worker_stays_after_last_heartbeat :
    ¬ ∀ σ : Roster, Reachable system σ → σ.IdleGone := by
  intro always
  let start : Roster := { scheduler := .new 60 60, departed := [] }
  have ended : ∃ σ ∈ system.exec start
      (unregisteredUnderLoad ++ [.release "w1", .updateWorkerLoad 2 "w1" 0 2]), ¬ σ.IdleGone := by
    decide
  obtain ⟨σ, ran, stays⟩ := ended
  exact stays (always σ (Reachable.of_exec ⟨60, 60, rfl⟩ _ ran))

end Roster

end UEnv.Scheduler
