import UEnv.AgentJob.Loads

/-!
# The concurrency bound of an agent

The reserved load of an agent counts the jobs in flight under it and the polls that hold a slot
of it, along every run that keeps to a few conditions; then no agent has more jobs than it takes.
-/

namespace UEnv.AgentJob

open Proto Persistence Tables Records Runs Scheduler Service Wire

namespace AgentControl

variable {sha256Hex : Bytes → String} {s s' : AgentControl}

/-- A poll that leases at once leases a job that is under no registered agent. -/
def LeasesFree (s : AgentControl) (now : Instant) (poolId agentId : String) : Prop :=
  s.world.store = none → ∀ popped ∈ s.world.queue.pop poolId
    (s.registry.canAgentRun now agentId poolId) true,
    ∀ a ∈ s.registry.agents, s.world.holds popped.1.jobId a.agentId = false

/-- No agent registers while slots of its id are taken, and no registered agent gains or loses an
entry behind its counter. -/
def Steady (s : AgentControl) : ControlLabel → Prop
  | .register now request uuid => s.world.occupied (request.info now uuid).agentId = 0
  | .poll _ now poolId agentId => s.LeasesFree now poolId agentId
  | .other label => ∀ a ∈ s.registry.agents, s.world.Undisturbed a.agentId label
  | _ => True

/-- The counter of every registered agent says how many of its slots are taken. -/
structure Accounted (s : AgentControl) : Prop where
  registry : s.registry.WellFormed
  loads : ∀ id a, s.registry.agent? id = some a →
    a.reservedLoad.toNat = s.world.occupied id ∧ a.reservedLoad.toNat ≤ a.capacityOf.toNat

theorem mem_of_agent? {r : AgentRegistry} {id : String} {a : AgentInfo}
    (registered : r.agent? id = some a) : a ∈ r.agents ∧ a.agentId = id :=
  ⟨mem_of_lookup registered, key_of_lookup registered⟩

namespace Accounted

theorem named (acc : s.Accounted) {id : String} {a : AgentInfo}
    (registered : s.registry.agent? id = some a) : id ≠ "" := by
  rintro rfl
  cases acc.registry.named.symm.trans registered

variable {world : World} {agentId : String}

/-- Slots are given back together with the calls of `decrement_load`. -/
theorem decrement (acc : s.Accounted) {ids : List String}
    (balance : ∀ id a, s.registry.agent? id = some a →
      s.world.occupied id = world.occupied id + ids.count id) :
    Accounted { world, registry := ids.foldl AgentRegistry.decrementLoad s.registry } where
  registry := acc.registry.foldl_decrementLoad ids
  loads := by
    intro id a registered
    dsimp only at registered
    rw [AgentRegistry.agent?_foldl_decrementLoad] at registered
    obtain ⟨before, found, rfl⟩ := Option.map_eq_some_iff.mp registered
    obtain ⟨loads, capacity⟩ := AgentInfo.reservedLoad_iterate (a := before) (ids.count id)
    obtain ⟨counted, bounded⟩ := acc.loads id before found
    have given := balance id before found
    rw [AgentInfo.capacityOf_toNat] at bounded ⊢
    rw [loads, capacity]
    dsimp only
    omega

theorem advance (acc : s.Accounted) {label : Label}
    (undisturbed : ∀ a ∈ s.registry.agents, s.world.Undisturbed a.agentId label)
    (noPoll : ∀ t poolId agentId can reserved, label ≠ .poll t poolId agentId can reserved)
    (noRestart : label ≠ .restart) (taken : s.advance sha256Hex label = some s') :
    s'.Accounted := by
  obtain ⟨world, stepped, rfl⟩ := Option.map_eq_some_iff.mp taken
  apply acc.decrement
  intro id a registered
  obtain ⟨member, ofId⟩ := mem_of_agent? registered
  have quiet := undisturbed a member
  rw [ofId] at quiet
  exact World.occupied_balance (acc.named registered) quiet stepped noPoll noRestart

theorem increment (acc : s.Accounted) {a : AgentInfo} (found : s.registry.agent? agentId = some a)
    (room : a.effectiveLoad < a.capacityOf) (taken : ∀ id b, s.registry.agent? id = some b →
      world.occupied id = s.world.occupied id + (agentId == id).toNat) :
    Accounted { world, registry := s.registry.updateAgent agentId AgentInfo.incremented } where
  registry := acc.registry.updateAgent AgentInfo.incremented (fun _ => rfl) agentId
  loads := by
    intro id b registered
    dsimp only at registered
    rw [AgentRegistry.agent?_updateAgent AgentInfo.incremented (fun _ => rfl)] at registered
    by_cases here : id = agentId
    · subst here
      rw [if_pos rfl, found] at registered
      cases registered
      obtain ⟨loads, fits⟩ := AgentInfo.reservedLoad_incremented room
      obtain ⟨counted, _⟩ := acc.loads id a found
      have more := taken id a found
      rw [beq_self_eq_true, Bool.toNat_true] at more
      refine ⟨?_, ?_⟩
      · rw [loads, counted]
        exact more.symm
      · rw [loads]
        exact fits
    · rw [if_neg here] at registered
      obtain ⟨counted, bounded⟩ := acc.loads id b registered
      have same := taken id b registered
      rw [beq_false_of_ne (Ne.symm here), Bool.toNat_false, Nat.add_zero] at same
      exact ⟨counted.trans same.symm, bounded⟩

theorem putBack (acc : s.Accounted) {a : AgentInfo} (found : s.registry.agent? agentId = some a)
    (room : a.effectiveLoad < a.capacityOf)
    (same : ∀ id b, s.registry.agent? id = some b → world.occupied id = s.world.occupied id) :
    Accounted
      { world
        registry :=
          (s.registry.updateAgent agentId AgentInfo.incremented).decrementLoad agentId } where
  registry :=
    (acc.registry.updateAgent AgentInfo.incremented (fun _ => rfl) agentId).decrementLoad _
  loads := by
    intro id b registered
    dsimp only at registered
    rw [AgentRegistry.agent?_decrementLoad,
      AgentRegistry.agent?_updateAgent AgentInfo.incremented (fun _ => rfl)] at registered
    by_cases here : id = agentId
    · subst here
      rw [if_pos rfl, if_pos rfl, found] at registered
      cases registered
      obtain ⟨loads, fits⟩ := AgentInfo.reservedLoad_incremented room
      obtain ⟨counted, bounded⟩ := acc.loads id a found
      have unchanged : a.incremented.decremented.reservedLoad.toNat = a.reservedLoad.toNat := by
        rw [AgentInfo.reservedLoad_decremented, loads]
        exact Nat.add_sub_cancel _ _
      rw [unchanged]
      exact ⟨counted.trans (same id a found).symm, bounded⟩
    · rw [if_neg here, if_neg here] at registered
      obtain ⟨counted, bounded⟩ := acc.loads id b registered
      exact ⟨counted.trans (same id b registered).symm, bounded⟩

end Accounted

theorem pop_unreserved (q : Queue) (poolId : String) (canAgentRun : AgentJob → Bool) :
    q.pop poolId canAgentRun false = none := by
  unfold Queue.pop
  simp only
  split
  · rfl
  · split
    · rfl
    · rfl

variable {w w' : World} {t : Nat} {poolId agentId : String} {canAgentRun : AgentJob → Bool}

theorem poll_unreserved (taken : w.poll t poolId agentId canAgentRun false = some w') : w' = w := by
  unfold World.poll at taken
  rw [pop_unreserved] at taken
  split at taken
  · cases taken
  · split at taken
    · exact (Option.some.inj taken).symm
    · exact (Option.some.inj taken).symm

/-- A poll that pops a job with a slot of its agent takes the slot, unless it leases at once and
the job was abandoned. -/
theorem occupied_poll {job : AgentJob} {queue : Queue} (named : agentId ≠ "")
    (popped : w.queue.pop poolId canAgentRun true = some (job, queue))
    (taken : w.poll t poolId agentId canAgentRun true = some w') (id : String)
    (free : w.store = none → w.holds job.jobId id = false) : w'.occupied id = w.occupied id +
      if w.store.isNone && !w.queue.inFlight.contains job.jobId then 0
      else (agentId == id).toNat := by
  obtain ⟨pos, _, shrunk⟩ := Queue.pop_cases popped
  have inFlight : queue.inFlight = w.queue.inFlight := by rw [shrunk, Queue.setPending_inFlight]
  unfold World.poll at taken
  rw [popped] at taken
  split at taken
  · cases taken
  · next fresh =>
    rw [if_neg (by rw [String.isEmpty_iff]; exact named)] at taken
    cases store : w.store with
    | none =>
      rw [store] at taken
      cases taken
      unfold Queue.assign
      rw [inFlight]
      cases found : w.queue.inFlight[job.jobId]? with
      | none =>
        simp only [Std.ExtTreeMap.contains_eq_isSome_getElem?, found, Option.isNone_none,
          Option.isSome_none, Bool.not_false, Bool.and_true, if_true]
        exact World.occupied_congr inFlight rfl
      | some entry =>
        rw [Std.ExtTreeMap.contains_eq_isSome_getElem?, found, if_neg (by simp)]
        have count :=
          entryCount_insert w.queue.inFlight (fun entry => entry.agentId == id) job.jobId
          { entry with agentId }
        have vacant := free store
        unfold World.holds at vacant
        rw [vacant, Bool.toNat_false] at count
        unfold World.occupied World.leased World.reserving
        dsimp only [Option.map_some, Option.getD_some] at count ⊢
        omega
    | some db =>
      rw [store] at taken
      cases taken
      have vacant : w.polls[t]? = none := by
        rw [Bool.not_eq_true, Std.ExtTreeMap.contains_eq_isSome_getElem?,
          Option.isSome_eq_false_iff, Option.isNone_iff_eq_none] at fresh
        exact fresh
      have count := entryCount_insert w.polls (fun call => call.agentId == id) t
        { poolId, agentId, job, reply := none }
      rw [vacant, Option.any_none, Bool.toNat_false] at count
      unfold World.occupied World.leased World.reserving
      rw [inFlight]
      simp only [Option.isNone_some, Bool.false_and, Bool.false_eq_true, if_false]
      dsimp only at count
      omega

namespace Accounted

theorem poll (acc : s.Accounted) {t : Nat} {now : Instant} {poolId agentId : String}
    (steady : s.LeasesFree now poolId agentId)
    (taken : s.poll t now poolId agentId = some s') : s'.Accounted := by
  unfold AgentControl.poll at taken
  simp only at taken
  split at taken
  · cases taken
    exact acc
  · next nonempty =>
    have named : agentId ≠ "" := by
      rw [String.isEmpty_iff] at nonempty
      exact nonempty
    cases popped : s.world.queue.pop poolId (s.registry.canAgentRun now agentId poolId) true with
    | none =>
      rw [popped] at taken
      obtain ⟨world, stepped, rfl⟩ := Option.map_eq_some_iff.mp taken
      rw [poll_unreserved stepped]
      exact acc
    | some both =>
      obtain ⟨job, queue⟩ := both
      rw [popped] at taken
      dsimp only at taken
      rcases s.registry.tryReserveExactAgent_cases now agentId poolId job with
        refused | ⟨a, found, room, reserved⟩
      · rw [refused] at taken
        obtain ⟨world, stepped, rfl⟩ := Option.map_eq_some_iff.mp taken
        rw [poll_unreserved stepped]
        exact acc
      · rw [reserved] at taken
        obtain ⟨world, stepped, rfl⟩ := Option.map_eq_some_iff.mp taken
        have slots : ∀ id b, s.registry.agent? id = some b → _ := fun id b registered =>
          occupied_poll named popped stepped id fun store => by
            obtain ⟨member, ofId⟩ := mem_of_agent? registered
            have free := steady store (job, queue) popped b member
            rw [ofId] at free
            exact free
        simp only [Bool.true_and]
        split
        · next lost =>
          simp only [lost, if_true, Nat.add_zero] at slots
          exact acc.putBack found room slots
        · next kept =>
          simp only [kept] at slots
          exact acc.increment found room slots

theorem register (acc : s.Accounted) (now : Instant) (request : RegisterAgentRequest) (uuid : Uuid)
    (idle : s.world.occupied (request.info now uuid).agentId = 0) :
    Accounted { s with registry := s.registry.register (request.info now uuid) } where
  registry := acc.registry.register _ (AgentRegistry.info_agentId_ne request uuid)
  loads := by
    intro id a registered
    dsimp only at registered
    rw [AgentRegistry.agent?_register acc.registry] at registered
    by_cases here : id = (request.info now uuid).agentId
    · rw [if_pos here] at registered
      cases registered
      rw [here]
      exact ⟨idle.symm, Nat.zero_le _⟩
    · rw [if_neg here] at registered
      exact acc.loads id a registered

theorem unregister (acc : s.Accounted) (agentId : String) :
    Accounted { s with registry := s.registry.unregister agentId } where
  registry := acc.registry.unregister agentId
  loads := by
    intro id a registered
    dsimp only at registered
    rw [AgentRegistry.agent?_unregister _ acc.registry] at registered
    split at registered
    · cases registered
    · exact acc.loads id a registered

theorem heartbeat (acc : s.Accounted) (now : Instant) (agentId : String) (activeJobs : UInt32) :
    Accounted { s with registry := s.registry.heartbeat now agentId activeJobs } where
  registry := acc.registry.updateAgent (fun a => a.beaten now activeJobs) (fun _ => rfl) agentId
  loads := by
    intro id a registered
    dsimp only at registered
    unfold AgentRegistry.heartbeat at registered
    rw [AgentRegistry.agent?_updateAgent (fun a => a.beaten now activeJobs) (fun _ => rfl)]
      at registered
    split at registered
    · obtain ⟨before, found, rfl⟩ := Option.map_eq_some_iff.mp registered
      exact acc.loads id before found
    · exact acc.loads id a registered

theorem restart (world : World) (heartbeatTimeoutSecs : UInt64) :
    Accounted { world, registry := { heartbeatTimeoutSecs } } where
  registry := ⟨List.nodup_nil, rfl⟩
  loads := by
    intro id a registered
    cases registered

theorem step (acc : s.Accounted) {label : ControlLabel} (steady : s.Steady label)
    (taken : s.step sha256Hex label = some s') : s'.Accounted := by
  cases label with
  | register now request uuid =>
    cases taken
    exact acc.register now request uuid steady
  | unregister agentId =>
    cases taken
    exact acc.unregister agentId
  | heartbeat now agentId activeJobs =>
    cases taken
    exact acc.heartbeat now agentId activeJobs
  | poll => exact acc.poll steady taken
  | reclaim =>
    refine AgentControl.Accounted.advance acc ?_ ?_ ?_ taken
    · exact fun _ _ => trivial
    · exact fun _ _ _ _ _ => Label.noConfusion
    · exact Label.noConfusion
  | other label =>
    cases label with
    | poll => cases taken
    | reclaim => cases taken
    | restart =>
      cases taken
      exact restart _ _
    | _ => exact acc.advance steady (fun _ _ _ _ _ => Label.noConfusion) Label.noConfusion taken

end Accounted

instance decidableUndisturbed (w : World) (agentId : String) :
    ∀ label, Decidable (w.Undisturbed agentId label)
  | .enqueue _ job => inferInstanceAs (Decidable (w.holds job.jobId agentId = false))
  | .enqueuePersisted t => inferInstanceAs (Decidable
    (∀ producer ∈ w.producers[t]?, w.holds producer.job.jobId agentId = false))
  | .restorePersisted jobId => inferInstanceAs (Decidable (∀ row ∈ w.row jobId,
    w.holds row.job.jobId agentId = (decide (row.phase = .leased) && row.agentId == agentId)))
  | .finishPoll t => inferInstanceAs (Decidable (∀ call ∈ w.polls[t]?, call.reply = some .leased →
    w.holds call.job.jobId agentId = false))
  | .persistJob .. | .poll .. | .execLease .. | .complete .. | .execCheck .. | .execLoad ..
  | .execCommit .. | .finishComplete .. | .abandon .. | .markTerminal .. | .reclaim ..
  | .execRequeue .. | .finishReclaim .. | .otherCommand .. | .restart => .isTrue trivial

instance (s : AgentControl) (now : Instant) (poolId agentId : String) :
    Decidable (s.LeasesFree now poolId agentId) :=
  inferInstanceAs (Decidable (_ = none → ∀ popped ∈ _, ∀ a ∈ s.registry.agents, _ = false))

instance decidableSteady (s : AgentControl) : ∀ label, Decidable (s.Steady label)
  | .register now request uuid =>
    inferInstanceAs (Decidable (s.world.occupied (request.info now uuid).agentId = 0))
  | .poll _ now poolId agentId => inferInstanceAs (Decidable (s.LeasesFree now poolId agentId))
  | .other label =>
    inferInstanceAs (Decidable (∀ a ∈ s.registry.agents, s.world.Undisturbed a.agentId label))
  | .unregister _ | .heartbeat .. | .reclaim .. => .isTrue trivial

def freshUuid : Uuid := ⟨"u1", by decide⟩

/-- An agent that takes one job at a time. -/
def oneAtATime : RegisterAgentRequest :=
  { agentId := "a1", agentPoolId := "p1", maxConcurrentJobs := 1 }

/-- The agent registers and is given a job. -/
def jobLeased : List ControlLabel :=
  [.register 0 oneAtATime freshUuid, .other (.enqueue "p1" { jobId := "j1", runId := "r1" }),
    .poll 0 1 "p1" "a1"]

/-- A service without a store, before its first agent. -/
def noAgents : AgentControl := { registry := { heartbeatTimeoutSecs := 30 } }

theorem initial_noAgents (sha256Hex : Bytes → String) : (control sha256Hex).init noAgents :=
  ⟨⟨none, by simp, rfl⟩, rfl⟩

end AgentControl

end UEnv.AgentJob
