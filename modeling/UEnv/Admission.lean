import UEnv.Lib.Semaphore

/-!
# Admission control

`AdmissionController` of `admission.rs`: no limit, a fixed limit, or a limit that follows the
capacity of the workers. Waiting for a permit is the caller's `select`, so only the outcome of
a successful acquisition is a transition here.
-/

namespace UEnv

/-- The fields of `EpisodeConfig` that admission reads. -/
structure QueueConfig where
  queueMaxInFlight : Nat := 0
  queueDynamic : Bool := false

structure AdmissionController where
  semaphore : Option Semaphore
  dynamic : Bool

namespace AdmissionController

/-- `AdmissionController::new`: the dynamic limit starts at zero. -/
def new (config : QueueConfig) : AdmissionController where
  semaphore :=
    if config.queueDynamic then some (.new 0)
    else if 0 < config.queueMaxInFlight then some (.new config.queueMaxInFlight)
    else none
  dynamic := config.queueDynamic

variable (a : AdmissionController)

/-- `on_capacity_changed` (admission.rs, 92-106). -/
def onCapacityChanged (oldCapacity newCapacity : UInt32) : AdmissionController :=
  if !a.dynamic then a
  else match a.semaphore with
    | none => a
    | some semaphore =>
      if oldCapacity < newCapacity then
        { a with semaphore := some (semaphore.addPermits (newCapacity - oldCapacity).toNat) }
      else if newCapacity < oldCapacity then
        { a with semaphore := some (semaphore.shrinkAsync (oldCapacity - newCapacity).toNat) }
      else a

/-- `on_worker_removed` (admission.rs, 108-110). -/
def onWorkerRemoved (oldCapacity : UInt32) : AdmissionController :=
  a.onCapacityChanged oldCapacity 0

/-- The net target of the limit; zero without one. -/
def netTarget : Int := (a.semaphore.map Semaphore.net).getD 0

/-- The controller that `queue_dynamic` creates keeps its semaphore. -/
structure Dynamic : Prop where
  flag : a.dynamic = true
  limited : a.semaphore.isSome

variable {a}

theorem dynamic_new {config : QueueConfig} (queueDynamic : config.queueDynamic = true) :
    (new config).Dynamic :=
  ⟨queueDynamic, by simp [new, queueDynamic]⟩

theorem Dynamic.onCapacityChanged (dynamic : a.Dynamic) (old current : UInt32) :
    (a.onCapacityChanged old current).Dynamic := by
  obtain ⟨flag, limited⟩ := dynamic
  unfold AdmissionController.onCapacityChanged
  split
  · exact ⟨flag, limited⟩
  · split
    · exact ⟨flag, limited⟩
    · split
      · exact ⟨flag, rfl⟩
      · split
        · exact ⟨flag, rfl⟩
        · exact ⟨flag, limited⟩

theorem netTarget_onCapacityChanged (dynamic : a.Dynamic) (old current : UInt32) :
    (a.onCapacityChanged old current).netTarget = a.netTarget + current.toNat - old.toNat := by
  obtain ⟨flag, limited⟩ := dynamic
  obtain ⟨semaphore, present⟩ := Option.isSome_iff_exists.mp limited
  unfold AdmissionController.onCapacityChanged netTarget
  rw [flag, present]
  by_cases grows : old < current
  · have le : old.toNat ≤ current.toNat := Nat.le_of_lt (UInt32.lt_iff_toNat_lt.mp grows)
    have difference : (current - old).toNat = current.toNat - old.toNat :=
      UInt32.toNat_sub_of_le current old (UInt32.le_iff_toNat_le.mpr le)
    simp [grows, difference]
    omega
  · by_cases shrinks : current < old
    · have le : current.toNat ≤ old.toNat := Nat.le_of_lt (UInt32.lt_iff_toNat_lt.mp shrinks)
      have difference : (old - current).toNat = old.toNat - current.toNat :=
        UInt32.toNat_sub_of_le old current (UInt32.le_iff_toNat_le.mpr le)
      simp [grows, shrinks, difference]
      omega
    · have notLess : ¬ old.toNat < current.toNat := fun lt => grows (UInt32.lt_iff_toNat_lt.mpr lt)
      have notMore : ¬ current.toNat < old.toNat := fun lt =>
        shrinks (UInt32.lt_iff_toNat_lt.mpr lt)
      simp [grows, shrinks, present]
      omega

end AdmissionController

end UEnv
