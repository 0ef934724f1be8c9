import UEnv.AgentJob.Protocol
import UEnv.Scheduler.RoundRobin
import UEnv.Service.Request

/-!
# The agent registry

`AgentRegistry` of `agent_pool/registry.rs`: the registered agents with their load counters, and
the reservation of a slot by a poll. An `Instant` is a number of nanoseconds, and the operations
that read the clock take it as the argument `now`. Routing, the pool semaphores and the fields
that only they read are left out.
-/

namespace UEnv.AgentJob

open Proto Records Scheduler Service

structure SyncedAgentBridgeInfo where
  packageId : String
  version : String
  deriving DecidableEq

structure AgentInfo where
  agentId : String
  agentPoolId : String
  syncedAgentBridges : List SyncedAgentBridgeInfo
  /-- 0 counts as 1. -/
  maxConcurrent : UInt32
  currentLoad : UInt32
  reservedLoad : UInt32
  reportedLoad : UInt32
  lastHeartbeatAt : Instant
  deriving DecidableEq

structure RegisterAgentRequest where
  agentId : String := ""
  agentPoolId : String := ""
  syncedAgentBridges : List SyncedAgentBridgeInfo := []
  maxConcurrentJobs : UInt32 := 0

/-- The record that `register_agent` makes of a request; `"auto"` asks for a fresh id. -/
def RegisterAgentRequest.info (request : RegisterAgentRequest) (now : Instant) (uuid : Uuid) :
    AgentInfo :=
  { agentId :=
      if request.agentId.isEmpty || request.agentId == "auto" then uuid.text else request.agentId
    agentPoolId := request.agentPoolId
    syncedAgentBridges := request.syncedAgentBridges
    maxConcurrent := request.maxConcurrentJobs
    currentLoad := 0, reservedLoad := 0, reportedLoad := 0, lastHeartbeatAt := now }

namespace AgentInfo

variable (a : AgentInfo)

/-- `capacity_of` (registry.rs, 209-215). -/
def capacityOf : UInt32 := if 0 < a.maxConcurrent then a.maxConcurrent else 1

/-- `effective_load` (registry.rs, 217-219). -/
def effectiveLoad : UInt32 := max a.reservedLoad a.reportedLoad

/-- `bridge_matches` (registry.rs, 221-229). -/
def bridgeMatches (bridgeId bridgeVersion : String) : Bool :=
  bridgeId.isEmpty ||
    a.syncedAgentBridges.any fun b =>
      b.packageId == bridgeId && (bridgeVersion.isEmpty || b.version == bridgeVersion)

/-- The record after `increment_load`, and after the reservation of a slot. -/
def incremented : AgentInfo :=
  let a := { a with reservedLoad := saturatingAdd a.reservedLoad 1 }
  { a with currentLoad := a.effectiveLoad }

/-- The record after `decrement_load`. -/
def decremented : AgentInfo :=
  let a := { a with reservedLoad := saturatingSub a.reservedLoad 1 }
  { a with currentLoad := a.effectiveLoad }

/-- The record after `heartbeat`. -/
def beaten (now : Instant) (activeJobs : UInt32) : AgentInfo :=
  let a := { a with lastHeartbeatAt := now, reportedLoad := activeJobs }
  { a with currentLoad := a.effectiveLoad }

end AgentInfo

structure AgentRegistry where
  agents : List AgentInfo := []
  heartbeatTimeoutSecs : UInt64

namespace AgentRegistry

variable (r : AgentRegistry) (now : Instant)

/-- `agents.iter().find(|a| a.agent_id == agent_id)`. -/
def agent? (agentId : String) : Option AgentInfo := lookup AgentInfo.agentId agentId r.agents

/-- `iter_mut().find(|a| a.agent_id == agent_id)` followed by an update of the record. -/
def updateAgent (agentId : String) (f : AgentInfo → AgentInfo) : AgentRegistry :=
  { r with agents := update AgentInfo.agentId agentId f r.agents }

/-- `register`: a record of the same id is deleted first. -/
def register (info : AgentInfo) : AgentRegistry :=
  { r with agents := (r.agents.filter fun a => a.agentId ≠ info.agentId) ++ [info] }

/-- `unregister` (registry.rs, 120-131). -/
def unregister (agentId : String) : AgentRegistry :=
  { r with agents := r.agents.filter fun a => a.agentId ≠ agentId }

/-- `heartbeat` (registry.rs, 134-144). -/
def heartbeat (agentId : String) (activeJobs : UInt32) : AgentRegistry :=
  r.updateAgent agentId fun a => a.beaten now activeJobs

/-- `decrement_load` (registry.rs, 154-160). -/
def decrementLoad (agentId : String) : AgentRegistry :=
  r.updateAgent agentId AgentInfo.decremented

/-- `is_stale` (registry.rs, 191-193). -/
def isStale (a : AgentInfo) : Bool :=
  decide (r.heartbeatTimeoutSecs.toNat < elapsedSecs now a.lastHeartbeatAt)

/-- `is_agent_stale_for_reclaim`; an agent that is not registered cannot come back. -/
def isAgentStaleForReclaim (graceSecs : UInt64) (agentId : String) : Bool :=
  let reclaimAfterSecs := min (r.heartbeatTimeoutSecs.toNat + graceSecs.toNat) (UInt64.size - 1)
  match r.agent? agentId with
  | some a => decide (reclaimAfterSecs < elapsedSecs now a.lastHeartbeatAt)
  | none => true

/-- Whether an agent can take a job of a pool and a bridge. -/
def eligible (poolId : String) (job : AgentJob) (a : AgentInfo) : Bool :=
  (poolId.isEmpty || a.agentPoolId == poolId) && !r.isStale now a &&
    a.bridgeMatches job.agentBridgeId job.agentBridgeVersion &&
    decide (a.effectiveLoad < a.capacityOf)

/-- `can_agent_run` (registry.rs, 551-566). -/
def canAgentRun (agentId poolId : String) (job : AgentJob) : Bool :=
  r.agents.any fun a => a.agentId == agentId && r.eligible now poolId job a

/-- `try_reserve_exact_agent` (registry.rs, 568-590). -/
def tryReserveExactAgent (agentId poolId : String) (job : AgentJob) : Bool × AgentRegistry :=
  match r.agent? agentId with
  | none => (false, r)
  | some a =>
    if r.eligible now poolId job a then (true, r.updateAgent agentId AgentInfo.incremented)
    else (false, r)

/-! ### What the operations do to a record -/

variable {r now} {agentId : String} {a : AgentInfo}

/-- No two records have one id, and none has the empty id. -/
structure WellFormed (r : AgentRegistry) : Prop where
  unique : Unique AgentInfo.agentId r.agents
  named : r.agent? "" = none

theorem agent?_updateAgent (f : AgentInfo → AgentInfo) (keeps : ∀ a, (f a).agentId = a.agentId)
    (id : String) :
    (r.updateAgent agentId f).agent? id =
      if id = agentId then (r.agent? id).map f else r.agent? id :=
  lookup_update keeps

theorem WellFormed.updateAgent (wf : r.WellFormed) (f : AgentInfo → AgentInfo)
    (keeps : ∀ a, (f a).agentId = a.agentId) (id : String) : (r.updateAgent id f).WellFormed where
  unique := wf.unique.update keeps
  named := by
    rw [agent?_updateAgent f keeps, wf.named]
    split <;> rfl

variable (agentId) in
theorem agent?_unregister (wf : r.WellFormed) (id : String) :
    (r.unregister agentId).agent? id = if id = agentId then none else r.agent? id := by
  unfold unregister agent?
  rw [lookup_filter wf.unique]
  cases found : lookup AgentInfo.agentId id r.agents with
  | none => split <;> rfl
  | some a =>
    have named := key_of_lookup found
    by_cases same : id = agentId
    · simp [named, same]
    · simp [named, same]

theorem WellFormed.unregister (wf : r.WellFormed) (id : String) : (r.unregister id).WellFormed where
  unique := wf.unique.filter _
  named := by
    rw [agent?_unregister _ wf, wf.named]
    split <;> rfl

theorem agent?_register (wf : r.WellFormed) (info : AgentInfo) (id : String) :
    (r.register info).agent? id = if id = info.agentId then some info else r.agent? id := by
  have others := agent?_unregister info.agentId wf id
  unfold unregister agent? at others
  unfold register agent?
  rw [lookup_append, others]
  by_cases same : id = info.agentId
  · simp [same, lookup_cons]
  · simp [same, lookup_cons, Ne.symm same]

theorem WellFormed.register (wf : r.WellFormed) (info : AgentInfo) (named : info.agentId ≠ "") :
    (r.register info).WellFormed where
  unique := by
    apply Unique.append (wf.unique.filter _)
    have gone := agent?_unregister info.agentId wf info.agentId
    rw [if_pos rfl] at gone
    exact gone
  named := by
    rw [agent?_register wf, if_neg (Ne.symm named)]
    exact wf.named

theorem agent?_decrementLoad (id : String) : (r.decrementLoad agentId).agent? id =
      if id = agentId then (r.agent? id).map AgentInfo.decremented else r.agent? id :=
  agent?_updateAgent AgentInfo.decremented (fun _ => rfl) id

theorem WellFormed.decrementLoad (wf : r.WellFormed) (id : String) :
    (r.decrementLoad id).WellFormed :=
  wf.updateAgent AgentInfo.decremented (fun _ => rfl) id

/-- Several calls of `decrement_load`, one after the other. -/
theorem agent?_foldl_decrementLoad (ids : List String) (id : String) (r : AgentRegistry) :
    (ids.foldl decrementLoad r).agent? id =
      (r.agent? id).map (AgentInfo.decremented^[ids.count id]) := by
  induction ids generalizing r with
  | nil => simp
  | cons head rest ih =>
    rw [List.foldl_cons, ih, agent?_decrementLoad, List.count_cons]
    by_cases same : id = head
    · rw [if_pos same, Option.map_map, if_pos (beq_iff_eq.mpr same.symm)]
      rfl
    · rw [if_neg same, if_neg (by simpa using Ne.symm same)]
      rfl

theorem WellFormed.foldl_decrementLoad (wf : r.WellFormed) (ids : List String) :
    (ids.foldl AgentRegistry.decrementLoad r).WellFormed := by
  induction ids generalizing r with
  | nil => exact wf
  | cons head rest ih => exact ih (wf.decrementLoad head)

theorem info_agentId_ne (request : RegisterAgentRequest) (uuid : Uuid) :
    (request.info now uuid).agentId ≠ "" := by
  unfold RegisterAgentRequest.info
  simp only
  split
  · exact uuid.nonempty
  · next own =>
    simp only [Bool.or_eq_true, String.isEmpty_iff, not_or] at own
    exact own.1

theorem tryReserveExactAgent_cases (r : AgentRegistry) (now : Instant) (agentId poolId : String)
    (job : AgentJob) :
    r.tryReserveExactAgent now agentId poolId job = (false, r) ∨
      ∃ a, r.agent? agentId = some a ∧ a.effectiveLoad < a.capacityOf ∧
        r.tryReserveExactAgent now agentId poolId job =
          (true, r.updateAgent agentId AgentInfo.incremented) := by
  unfold tryReserveExactAgent
  cases found : r.agent? agentId with
  | none => exact Or.inl rfl
  | some a =>
    simp only
    split
    · next eligible =>
      refine Or.inr ⟨a, rfl, ?_, rfl⟩
      exact of_decide_eq_true (Bool.and_eq_true_iff.mp eligible).2
    · exact Or.inl rfl

end AgentRegistry

namespace AgentInfo

variable {a : AgentInfo}

theorem reservedLoad_incremented (room : a.effectiveLoad < a.capacityOf) :
    a.incremented.reservedLoad.toNat = a.reservedLoad.toNat + 1 ∧
      a.reservedLoad.toNat + 1 ≤ a.capacityOf.toNat := by
  have below : a.reservedLoad.toNat < a.capacityOf.toNat := by
    rw [UInt32.lt_iff_toNat_lt, effectiveLoad, toNat_max] at room
    omega
  have bound := a.capacityOf.toNat_lt
  refine ⟨?_, below⟩
  change (saturatingAdd a.reservedLoad 1).toNat = _
  rw [toNat_saturatingAdd_of_lt]
  · rfl
  · change a.reservedLoad.toNat + 1 < UInt32.size
    have size : UInt32.size = 2 ^ 32 := rfl
    omega

theorem reservedLoad_decremented : a.decremented.reservedLoad.toNat = a.reservedLoad.toNat - 1 :=
  toNat_saturatingSub _ _

theorem reservedLoad_iterate (n : Nat) :
    (decremented^[n] a).reservedLoad.toNat = a.reservedLoad.toNat - n ∧
      (decremented^[n] a).maxConcurrent = a.maxConcurrent := by
  induction n generalizing a with
  | zero => exact ⟨rfl, rfl⟩
  | succ n ih =>
    obtain ⟨loads, capacity⟩ := ih (a := a.decremented)
    rw [Function.iterate_succ_apply, loads, capacity, reservedLoad_decremented]
    refine ⟨?_, rfl⟩
    omega

theorem capacityOf_toNat : a.capacityOf.toNat = max a.maxConcurrent.toNat 1 := by
  unfold capacityOf
  split
  · next positive =>
    have positive : 0 < a.maxConcurrent.toNat := UInt32.lt_iff_toNat_lt.mp positive
    omega
  · next zero =>
    have zero : ¬ 0 < a.maxConcurrent.toNat := fun positive =>
      zero (UInt32.lt_iff_toNat_lt.mpr positive)
    change 1 = _
    omega

end AgentInfo

end UEnv.AgentJob
