import Mathlib.Algebra.Order.BigOperators.Group.List
import Mathlib.Algebra.Order.Ring.Nat
import UEnv.AgentJob.Registry
import UEnv.Lib.Iterators
import UEnv.Lib.Semaphore

/-!
# The permits of the agent pools

`pool_admission` of `agent_pool/registry.rs`: the semaphore of a pool follows the capacity of the
pool's live agents. The clock stands still during a run. A panic ends the operation and leaves what
the operation has done so far.
-/

namespace UEnv.AgentJob.Permits

open Tables Records Runs Scheduler

structure PoolAdmission where
  sem : Semaphore := .new 0
  /-- The permits given to `sem`, those held by clients included. -/
  granted : UInt32 := 0

/-- The adjustment of an entry to the capacity of its pool. -/
def PoolAdmission.retarget (entry : PoolAdmission) (target : UInt32) : PoolAdmission :=
  if entry.granted < target then
    { sem := entry.sem.addPermits (target - entry.granted).toNat, granted := target }
  else if target < entry.granted then
    -- a spawned task acquires the difference and forgets it
    { sem := entry.sem.shrinkAsync (entry.granted - target).toNat, granted := target }
  else entry

/-- The parts of `AgentRegistry` that the permits depend on. -/
structure PoolRegistry where
  registry : AgentRegistry
  poolAdmission : Map String PoolAdmission := ∅

namespace PoolRegistry

variable (r : PoolRegistry) (checks : Bool) (now : Instant)

/-- `with_routing`. -/
def new (heartbeatTimeoutSecs : UInt64) : PoolRegistry where
  registry := { heartbeatTimeoutSecs }

/-- The entry of a pool, made on demand. -/
def admission (pool : String) : PoolAdmission := r.poolAdmission[pool]?.getD {}

def withAdmission (pool : String) (entry : PoolAdmission) : PoolRegistry :=
  { r with poolAdmission := r.poolAdmission.insert pool entry }

def liveAgents (pool : String) : List AgentInfo :=
  r.registry.agents.filter fun a => a.agentPoolId == pool && !r.registry.isStale now a

/-- The sum that `sync_pool_admission_locked` computes. -/
def target (pool : String) : Option UInt32 :=
  Iterators.sum checks ((r.liveAgents now pool).map AgentInfo.capacityOf)

/-- `sync_pool_admission_locked`. -/
def syncPoolAdmission (pool : String) : Option PoolRegistry := do
  let target ← r.target checks now pool
  return r.withAdmission pool ((r.admission pool).retarget target)

/-- The synchronization of some pools, one after the other, up to the first panic. -/
def syncPools (r : PoolRegistry) : List String → PoolRegistry
  | [] => r
  | pool :: rest =>
    match r.syncPoolAdmission checks now pool with
    | some synced => synced.syncPools rest
    | none => r

/-- `pool_semaphore`; the synchronization has made the entry whose semaphore is returned. -/
def poolSemaphore (pool : String) : PoolRegistry := r.syncPools checks now [pool]

def poolOf (agentId : String) : Option String := (r.registry.agent? agentId).map (·.agentPoolId)

/-- `register`: a pool that the agent leaves is synchronized before the one that it joins. -/
def register (info : AgentInfo) : PoolRegistry :=
  let left := (r.poolOf info.agentId).filter (· ≠ info.agentPoolId)
  { r with registry := r.registry.register info }.syncPools checks now
    (left.toList ++ [info.agentPoolId])

def unregister (agentId : String) : PoolRegistry :=
  { r with registry := r.registry.unregister agentId }.syncPools checks now
    (r.poolOf agentId).toList

/-- A step of the semaphore that `pool_semaphore` has returned for a pool. -/
def stepSemaphore (pool : String) (f : Semaphore → Option Semaphore) : Option PoolRegistry := do
  let entry ← r.poolAdmission[pool]?
  let sem ← f entry.sem
  return r.withAdmission pool { entry with sem }

end PoolRegistry

/-- The operations on a registry, and what its clients and the shrink tasks do. -/
inductive Label
  | register (info : AgentInfo)
  | unregister (agentId : String)
  | poolSemaphore (pool : String)
  | acquire (pool : String)
  | dropPermit (pool : String)
  | assign (pool : String) (task permits : Nat)
  | forget (pool : String) (task : Nat)

namespace PoolRegistry

variable (r : PoolRegistry) (checks : Bool) (now : Instant)

def step : Label → Option PoolRegistry
  | .register info => some (r.register checks now info)
  | .unregister agentId => some (r.unregister checks now agentId)
  | .poolSemaphore pool => some (r.poolSemaphore checks now pool)
  | .acquire pool => r.stepSemaphore pool Semaphore.acquire
  | .dropPermit pool => r.stepSemaphore pool Semaphore.dropPermit
  | .assign pool task permits => r.stepSemaphore pool (Semaphore.assign · task permits)
  | .forget pool task => r.stepSemaphore pool (Semaphore.forget · task)

/-- The runs of a registry, in a build with overflow checks or without. -/
def system (heartbeatTimeoutSecs : UInt64) : System PoolRegistry Label where
  init r := r = new heartbeatTimeoutSecs
  step r label := r.step checks now label

/-! ### Balance -/

/-- The capacity of the live agents of a pool, without a bound. -/
def capacity (pool : String) : Nat :=
  ((r.liveAgents now pool).map fun a => max a.maxConcurrent.toNat 1).sum

/-- The permits of every pool are those that its live agents can serve. -/
structure Balanced : Prop where
  granted : ∀ pool, (r.admission pool).granted.toNat = r.capacity now pool
  permits : ∀ pool, (r.admission pool).sem.net = (r.admission pool).granted.toNat
  sums : ∀ checks pool, r.target checks now pool = some (r.admission pool).granted

/-- A registration does not raise the capacity of the pool it joins to 2 ^ 32. -/
def Fits : Label → Prop
  | .register info =>
    { r with registry := r.registry.register info }.capacity now info.agentPoolId < UInt32.size
  | _ => True

instance : ∀ label, Decidable (r.Fits now label)
  | .register _ => inferInstanceAs (Decidable (_ < _))
  | .unregister _ | .poolSemaphore _ | .acquire _ | .dropPermit _ | .assign .. | .forget .. =>
    .isTrue trivial

end PoolRegistry

namespace PoolAdmission

variable {entry : PoolAdmission}

@[simp] theorem granted_retarget (target : UInt32) : (entry.retarget target).granted = target := by
  unfold retarget
  split
  · rfl
  · split
    · rfl
    · next notMore notLess =>
      exact UInt32.le_antisymm (UInt32.not_lt.mp notMore) (UInt32.not_lt.mp notLess) |>.symm

theorem net_retarget (permits : entry.sem.net = entry.granted.toNat) (target : UInt32) :
    (entry.retarget target).sem.net = target.toNat := by
  unfold retarget
  split
  · next more =>
    have le := UInt32.le_of_lt more
    rw [Semaphore.net_addPermits, permits, UInt32.toNat_sub_of_le _ _ le]
    have bound : entry.granted.toNat ≤ target.toNat := UInt32.le_iff_toNat_le.mp le
    omega
  · split
    · next less =>
      have le := UInt32.le_of_lt less
      rw [Semaphore.net_shrinkAsync, permits, UInt32.toNat_sub_of_le _ _ le]
      have bound : target.toNat ≤ entry.granted.toNat := UInt32.le_iff_toNat_le.mp le
      omega
    · next notMore notLess =>
      have same : entry.granted = target :=
        UInt32.le_antisymm (UInt32.not_lt.mp notLess) (UInt32.not_lt.mp notMore)
      rw [permits, same]

end PoolAdmission

namespace PoolRegistry

variable {r r' : PoolRegistry} {checks : Bool} {now : Instant}

theorem admission_withAdmission (pool other : String) (entry : PoolAdmission) :
    (r.withAdmission pool entry).admission other =
      if other = pool then entry else r.admission other := by
  unfold admission withAdmission
  rw [lookup_insert]
  by_cases same : pool = other
  · rw [if_pos same, if_pos same.symm, Option.getD_some]
  · rw [if_neg same, if_neg (Ne.symm same)]

theorem total_capacities (agents : List AgentInfo) :
    Iterators.total (agents.map AgentInfo.capacityOf) =
      (agents.map fun a => max a.maxConcurrent.toNat 1).sum := by
  rw [Iterators.total, List.map_map]
  exact congrArg List.sum (List.map_congr_left fun a _ => AgentInfo.capacityOf_toNat)

theorem target_of_fits (checks : Bool) {pool : String} (fits : r.capacity now pool < UInt32.size) :
    ∃ target, r.target checks now pool = some target ∧ target.toNat = r.capacity now pool := by
  unfold capacity at *
  rw [← total_capacities] at *
  exact Iterators.sum_of_fits checks fits

/-! ### Synchronization -/

/-- What holds of one pool once it has been synchronized. -/
structure Synced (r : PoolRegistry) (now : Instant) (pool : String) : Prop where
  granted : (r.admission pool).granted.toNat = r.capacity now pool
  permits : (r.admission pool).sem.net = (r.admission pool).granted.toNat

theorem Synced.target (synced : r.Synced now pool) (checks : Bool) :
    r.target checks now pool = some (r.admission pool).granted := by
  have fits : r.capacity now pool < UInt32.size := by
    rw [← synced.granted]
    exact UInt32.toNat_lt_size _
  obtain ⟨target, computed, value⟩ := target_of_fits checks fits
  rw [computed, UInt32.toNat_inj.mp (value.trans synced.granted.symm)]

theorem balanced_iff : r.Balanced now ↔ ∀ pool, r.Synced now pool :=
  ⟨fun balanced pool => ⟨balanced.granted pool, balanced.permits pool⟩,
    fun synced => ⟨fun pool => (synced pool).granted, fun pool => (synced pool).permits,
      fun checks pool => (synced pool).target checks⟩⟩

theorem syncPoolAdmission_of_fits (checks : Bool) {pool : String}
    (permits : (r.admission pool).sem.net = (r.admission pool).granted.toNat)
    (fits : r.capacity now pool < UInt32.size) :
    ∃ r', r.syncPoolAdmission checks now pool = some r' ∧ r'.registry = r.registry ∧
      r'.Synced now pool ∧ ∀ other, other ≠ pool → r'.admission other = r.admission other := by
  obtain ⟨target, computed, value⟩ := target_of_fits checks fits
  refine ⟨r.withAdmission pool ((r.admission pool).retarget target), ?_, rfl, ⟨?_, ?_⟩, ?_⟩
  · rw [syncPoolAdmission, computed]
    rfl
  · rw [admission_withAdmission, if_pos rfl, PoolAdmission.granted_retarget]
    exact value
  · rw [admission_withAdmission, if_pos rfl, PoolAdmission.granted_retarget]
    exact PoolAdmission.net_retarget permits target
  · intro other different
    rw [admission_withAdmission, if_neg different]

theorem capacity_congr (same : r'.registry = r.registry) (pool : String) :
    r'.capacity now pool = r.capacity now pool := by
  unfold capacity liveAgents
  rw [same]

@[simp] theorem registry_syncPools (checks : Bool) (now : Instant) (pools : List String)
    (r : PoolRegistry) : (r.syncPools checks now pools).registry = r.registry := by
  induction pools generalizing r with
  | nil => rfl
  | cons pool rest ih =>
    rw [syncPools]
    split
    · next r' synced =>
      obtain ⟨target, _, made⟩ := Option.bind_eq_some_iff.mp synced
      cases made
      exact ih _
    · rfl

theorem syncPools_of_fits (checks : Bool) (pools : List String)
    (permits : ∀ pool, (r.admission pool).sem.net = (r.admission pool).granted.toNat)
    (fits : ∀ pool ∈ pools, r.capacity now pool < UInt32.size) :
    (∀ pool ∈ pools, (r.syncPools checks now pools).Synced now pool) ∧
      ∀ pool ∉ pools, (r.syncPools checks now pools).admission pool = r.admission pool := by
  induction pools generalizing r with
  | nil => exact ⟨fun _ member => absurd member List.not_mem_nil, fun _ _ => rfl⟩
  | cons pool rest ih =>
    obtain ⟨r', synced, registry, here, elsewhere⟩ :=
      syncPoolAdmission_of_fits checks (permits pool) (fits pool List.mem_cons_self)
    have permits' : ∀ pool, (r'.admission pool).sem.net = (r'.admission pool).granted.toNat := by
      intro other
      by_cases same : other = pool
      · exact same ▸ here.permits
      · rw [elsewhere other same]
        exact permits other
    obtain ⟨inside, outside⟩ := ih permits' fun other member => by
      rw [capacity_congr registry]
      exact fits other (List.mem_cons_of_mem _ member)
    rw [syncPools, synced]
    refine ⟨fun other member => ?_, fun other different => ?_⟩
    · by_cases later : other ∈ rest
      · exact inside other later
      · obtain rfl := (List.mem_cons.mp member).resolve_right later
        have untouched := outside other later
        refine ⟨?_, by rw [untouched]; exact here.permits⟩
        rw [untouched, here.granted]
        exact (capacity_congr (registry_syncPools checks now rest r') other).symm
    · obtain ⟨first, later⟩ := not_or.mp (mt List.mem_cons.mpr different)
      rw [outside other later, elsewhere other first]

/-- A change of the agents keeps the balance if the pools that it affects are synchronized. -/
theorem Balanced.syncPools (balanced : r.Balanced now) (checks : Bool) (registry : AgentRegistry)
    {pools : List String}
    (fits : ∀ pool ∈ pools, { r with registry }.capacity now pool < UInt32.size)
    (others : ∀ pool ∉ pools, { r with registry }.capacity now pool = r.capacity now pool) :
    ({ r with registry }.syncPools checks now pools).Balanced now := by
  obtain ⟨inside, outside⟩ :=
    syncPools_of_fits (r := { r with registry }) checks pools balanced.permits fits
  refine balanced_iff.mpr fun pool => ?_
  by_cases member : pool ∈ pools
  · exact inside pool member
  · have untouched : _ = r.admission pool := outside pool member
    refine ⟨?_, by rw [untouched]; exact balanced.permits pool⟩
    rw [untouched, balanced.granted, ← others pool member]
    exact (capacity_congr (registry_syncPools checks now pools _) pool).symm

/-! ### The agents of a pool -/

theorem liveAgents_unregister (agentId pool : String) :
    { r with registry := r.registry.unregister agentId }.liveAgents now pool =
      (r.liveAgents now pool).filter fun a => a.agentId ≠ agentId := by
  unfold liveAgents
  exact List.filter_comm _ _ _

theorem capacity_unregister_le (agentId pool : String) :
    { r with registry := r.registry.unregister agentId }.capacity now pool ≤
      r.capacity now pool := by
  unfold capacity
  rw [liveAgents_unregister]
  exact (List.filter_sublist.map _).sum_le_sum fun _ _ => Nat.zero_le _

theorem capacity_unregister_of_ne (unique : Unique AgentInfo.agentId r.registry.agents)
    {agentId pool : String} (different : r.poolOf agentId ≠ some pool) :
    { r with registry := r.registry.unregister agentId }.capacity now pool =
      r.capacity now pool := by
  unfold capacity
  rw [liveAgents_unregister, List.filter_eq_self.mpr]
  intro a member
  refine decide_eq_true fun named => different ?_
  obtain ⟨member, inPool⟩ := List.mem_filter.mp member
  have found : r.registry.agent? agentId = some a := named ▸ lookup_of_mem unique member
  rw [poolOf, found, Option.map_some]
  exact congrArg some (beq_iff_eq.mp (Bool.and_eq_true_iff.mp inPool).1)

theorem capacity_register_of_ne {info : AgentInfo} {pool : String}
    (different : pool ≠ info.agentPoolId) :
    { r with registry := r.registry.register info }.capacity now pool =
      { r with registry := r.registry.unregister info.agentId }.capacity now pool := by
  unfold capacity liveAgents AgentRegistry.register
  rw [List.filter_append, List.filter_singleton, beq_eq_false_iff_ne.mpr (Ne.symm different),
    Bool.false_and]
  exact congrArg _ (congrArg _ (List.append_nil _))

/-! ### The operations -/

section

variable (balanced : r.Balanced now)
include balanced

theorem Balanced.fits (pool : String) : r.capacity now pool < UInt32.size := by
  rw [← balanced.granted]
  exact UInt32.toNat_lt_size _

theorem Balanced.register (unique : Unique AgentInfo.agentId r.registry.agents) (checks : Bool)
    {info : AgentInfo} (fits : r.Fits now (.register info)) :
    (r.register checks now info).Balanced now := by
  refine balanced.syncPools checks _ (fun pool member => ?_) fun pool other => ?_
  · rcases List.mem_append.mp member with left | joined
    · have different : pool ≠ info.agentPoolId :=
        of_decide_eq_true (Option.filter_eq_some_iff.mp (Option.mem_toList.mp left)).2
      rw [capacity_register_of_ne different]
      exact Nat.lt_of_le_of_lt (capacity_unregister_le info.agentId pool) (balanced.fits pool)
    · obtain rfl := List.mem_singleton.mp joined
      exact fits
  · obtain ⟨notLeft, notJoined⟩ := not_or.mp (mt List.mem_append.mpr other)
    have different : pool ≠ info.agentPoolId := fun same =>
      notJoined (List.mem_singleton.mpr same)
    rw [capacity_register_of_ne different]
    refine capacity_unregister_of_ne unique fun was => notLeft ?_
    exact Option.mem_toList.mpr (Option.filter_eq_some_iff.mpr ⟨was, decide_eq_true different⟩)

theorem Balanced.unregister (unique : Unique AgentInfo.agentId r.registry.agents) (checks : Bool)
    (agentId : String) : (r.unregister checks now agentId).Balanced now := by
  refine balanced.syncPools checks _ (fun pool _ => ?_) fun pool other => ?_
  · exact Nat.lt_of_le_of_lt (capacity_unregister_le agentId pool) (balanced.fits pool)
  · exact capacity_unregister_of_ne unique fun was => other (Option.mem_toList.mpr was)

theorem Balanced.poolSemaphore (checks : Bool) (pool : String) :
    (r.poolSemaphore checks now pool).Balanced now :=
  balanced.syncPools checks r.registry (fun pool _ => balanced.fits pool) fun _ _ => rfl

end

variable {f : Semaphore → Option Semaphore}

theorem stepSemaphore_cases {pool : String} (taken : r.stepSemaphore pool f = some r') :
    ∃ sem, f (r.admission pool).sem = some sem ∧
      r' = r.withAdmission pool { r.admission pool with sem } := by
  obtain ⟨entry, present, taken⟩ := Option.bind_eq_some_iff.mp taken
  obtain ⟨sem, moved, made⟩ := Option.bind_eq_some_iff.mp taken
  have before : r.admission pool = entry := by rw [admission, present, Option.getD_some]
  rw [before]
  exact ⟨sem, moved, (Option.some.inj made).symm⟩

/-- What clients and shrink tasks do with a semaphore does not change the net permits. -/
theorem Balanced.stepSemaphore (balanced : r.Balanced now) {pool : String}
    (keeps : ∀ s t, f s = some t → t.net = s.net) (taken : r.stepSemaphore pool f = some r') :
    r'.Balanced now := by
  obtain ⟨sem, moved, rfl⟩ := stepSemaphore_cases taken
  refine balanced_iff.mpr fun other => ?_
  have synced := balanced_iff.mp balanced other
  have after := admission_withAdmission (r := r) pool other { r.admission pool with sem }
  by_cases same : other = pool
  · obtain rfl := same
    rw [if_pos rfl] at after
    refine ⟨?_, ?_⟩
    · rw [after]
      exact synced.granted
    · rw [after]
      exact (keeps _ _ moved).trans synced.permits
  · rw [if_neg same] at after
    exact ⟨by rw [after]; exact synced.granted, by rw [after]; exact synced.permits⟩

theorem registry_stepSemaphore {pool : String} (taken : r.stepSemaphore pool f = some r') :
    r'.registry = r.registry := by
  obtain ⟨sem, _, rfl⟩ := stepSemaphore_cases taken
  rfl

variable {label : Label}

theorem step_balanced (balanced : r.Balanced now)
    (unique : Unique AgentInfo.agentId r.registry.agents) (fits : r.Fits now label)
    (taken : r.step checks now label = some r') : r'.Balanced now := by
  cases label with
  | register =>
    cases taken
    exact balanced.register unique checks fits
  | unregister agentId =>
    cases taken
    exact balanced.unregister unique checks agentId
  | poolSemaphore pool =>
    cases taken
    exact balanced.poolSemaphore checks pool
  | acquire => exact balanced.stepSemaphore (fun _ _ => Semaphore.net_acquire) taken
  | dropPermit => exact balanced.stepSemaphore (fun _ _ => Semaphore.net_dropPermit) taken
  | assign => exact balanced.stepSemaphore (fun _ _ => Semaphore.net_assign) taken
  | forget => exact balanced.stepSemaphore (fun _ _ => Semaphore.net_forget) taken

theorem step_unique (unique : Unique AgentInfo.agentId r.registry.agents)
    (taken : r.step checks now label = some r') :
    Unique AgentInfo.agentId r'.registry.agents := by
  cases label with
  | register =>
    cases taken
    rw [register, registry_syncPools]
    refine (unique.filter _).append (lookup_eq_none.mpr fun a member => ?_)
    exact of_decide_eq_true (List.mem_filter.mp member).2
  | unregister =>
    cases taken
    rw [unregister, registry_syncPools]
    exact unique.filter _
  | poolSemaphore =>
    cases taken
    rw [poolSemaphore, registry_syncPools]
    exact unique
  | acquire =>
    rw [registry_stepSemaphore taken]
    exact unique
  | dropPermit =>
    rw [registry_stepSemaphore taken]
    exact unique
  | assign pool task permits =>
    rw [registry_stepSemaphore (f := (Semaphore.assign · task permits)) taken]
    exact unique
  | forget pool task =>
    rw [registry_stepSemaphore (f := (Semaphore.forget · task)) taken]
    exact unique

theorem fits_of_balanced (balanced : r'.Balanced now) (taken : r.step checks now label = some r') :
    r.Fits now label := by
  cases label with
  | register info =>
    cases taken
    have fits := balanced.fits info.agentPoolId
    rwa [register, capacity_congr (registry_syncPools _ _ _ _)] at fits
  | _ => trivial

/-! ### Runs -/

theorem balanced_new (heartbeatTimeoutSecs : UInt64) (now : Instant) :
    (new heartbeatTimeoutSecs).Balanced now :=
  balanced_iff.mpr fun _ => ⟨rfl, rfl⟩

variable {heartbeatTimeoutSecs : UInt64}

theorem unique_of_reachable {ok : PoolRegistry → Label → Prop}
    (reached : ReachableWhen (system checks now heartbeatTimeoutSecs) ok r) :
    Unique AgentInfo.agentId r.registry.agents := by
  refine reached.invariant (motive := fun r => Unique AgentInfo.agentId r.registry.agents) ?_ ?_
  · rintro _ rfl
    exact List.nodup_nil
  · exact fun s label t _ unique _ taken => @step_unique s t checks now label unique taken

/-- In a run whose registrations fit, the permits of every pool are balanced; and they stay so in
one more step exactly if it fits. -/
theorem balanced_of_fits
    (reached : ReachableWhen (system checks now heartbeatTimeoutSecs) (Fits · now) r) :
    r.Balanced now ∧ ∀ label r', r.step checks now label = some r' →
      (r'.Balanced now ↔ r.Fits now label) := by
  have balanced : r.Balanced now := by
    refine reached.invariant (motive := (Balanced · now)) ?_ ?_
    · rintro _ rfl
      exact balanced_new _ _
    · intro s label t before balanced fits taken
      exact @step_balanced s t checks now label balanced (unique_of_reachable before) fits taken
  refine ⟨balanced, fun label r' taken => ⟨fun after => ?_, fun fits => ?_⟩⟩
  · exact fits_of_balanced after taken
  · exact step_balanced balanced (unique_of_reachable reached) fits taken

def agent (agentId pool : String) (maxConcurrent : UInt32) : AgentInfo where
  agentId := agentId
  agentPoolId := pool
  syncedAgentBridges := []
  maxConcurrent := maxConcurrent
  currentLoad := 0
  reservedLoad := 0
  reportedLoad := 0
  lastHeartbeatAt := 0

/-- An agent moves to another pool while a client holds a permit of the old one. -/
def moving : List Label :=
  [.register (agent "a" "old" 3), .poolSemaphore "old", .acquire "old",
    .register (agent "a" "new" 2), .assign "old" 0 2, .dropPermit "old", .forget "old" 0]

theorem balanced_moving : ∃ r, (system true 0 30).exec (new 30) moving = some r ∧
    (r.admission "old").sem = { available := 0, held := 0, forgetting := [] } ∧
    (r.admission "new").sem.available = 2 ∧ r.Balanced 0 ∧
    ∀ label r', r.step true 0 label = some r' → (r'.Balanced 0 ↔ r.Fits 0 label) :=
  ⟨_, rfl, by decide +kernel, by decide +kernel, balanced_of_fits
    (.of_exec (.start (show (system true 0 30).init (new 30) from rfl)) moving
      (by decide +kernel) rfl)⟩

/-- Two agents of one pool, with capacities that add up to 2 ^ 32. -/
def overcommitted (checks : Bool) : PoolRegistry :=
  ((new 30).register checks 0 (agent "a" "p" 4294967295)).register checks 0 (agent "b" "p" 1)

/-- The sum wraps in a build without overflow checks and panics in one with them. -/
theorem overcommitted_unbalanced : ((overcommitted false).admission "p").granted = 0 ∧
      ((overcommitted true).admission "p").granted = 4294967295 ∧
      (overcommitted true).target true 0 "p" = none ∧
      ∀ checks, (overcommitted checks).capacity 0 "p" = 4294967296 ∧
        Reachable (system checks 0 30) (overcommitted checks) ∧
        ¬(overcommitted checks).Balanced 0 := by
  refine ⟨by decide +kernel, by decide +kernel, by decide +kernel, fun checks => ?_⟩
  have exceeds : (overcommitted checks).capacity 0 "p" = 4294967296 := by
    cases checks with
    | false => decide +kernel
    | true => decide +kernel
  refine ⟨exceeds, ?_, fun balanced => ?_⟩
  · exact .of_exec rfl [.register (agent "a" "p" 4294967295), .register (agent "b" "p" 1)] rfl
  · have fits := balanced.fits "p"
    rw [exceeds] at fits
    exact absurd fits (by decide)

end PoolRegistry

end UEnv.AgentJob.Permits
