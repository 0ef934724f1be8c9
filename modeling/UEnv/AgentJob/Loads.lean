import UEnv.AgentJob.Ownership
import UEnv.AgentJob.Registry

/-!
# The queue and the registry together

`AgentControlServiceImpl` with its queue, its store and its registry. What a step of the queue
asks the registry it is answered by the registry of the state, and the step carries out the calls
of `decrement_load` that the code makes there.
-/

namespace UEnv.AgentJob

open Proto Persistence Tables Records Runs Scheduler Service Wire

/-- The queue with its store, and the registry. -/
structure AgentControl where
  world : World := {}
  registry : AgentRegistry

inductive ControlLabel
  | register (now : Instant) (request : RegisterAgentRequest) (uuid : Uuid)
  | unregister (agentId : String)
  | heartbeat (now : Instant) (agentId : String) (activeJobs : UInt32)
  | poll (t : Nat) (now : Instant) (poolId agentId : String)
  | reclaim (t : Nat) (now : Instant) (graceSecs : UInt64) (uuids : String → String)
  | other (label : Label)

/-- The agent whose load a reclaim of the candidate gives back. -/
def Queue.reclaimedAgent (q : Queue) (candidate : Queue.Candidate) : List String :=
  match q.inFlight[candidate.jobId]? with
  | some entry =>
    if entry.agentId ≠ candidate.agentId ∨ entry.runId ≠ candidate.runId then []
    else [candidate.agentId]
  | none => []

/-- The agents whose load the loop of `reclaim_stale_jobs` gives back without a store. -/
def Queue.reclaimedAgents (uuids : String → String) : Queue → List Queue.Candidate → List String
  | _, [] => []
  | q, candidate :: rest =>
    q.reclaimedAgent candidate ++ reclaimedAgents uuids
      (q.applyReclaim candidate (candidate.replacement (uuids candidate.jobId))) rest

namespace World

variable (w : World)

/-- The agent of the entry of a job. -/
def agentOf (jobId : String) : List String :=
  ((w.queue.inFlight[jobId]?).map InFlightJob.agentId).toList

/-- `poll_agent_job` gives its slot back unless the job is in flight under its agent. -/
def releasedByPoll (t : Nat) : List String :=
  match w.polls[t]? with
  | none => []
  | some call =>
    if call.reply = some .leased ∧ w.queue.inFlight.contains call.job.jobId then []
    else [call.agentId]

/-- `complete_agent_job` without a store. -/
def releasedByComplete (request : AgentJobCompleteRequest) : List String :=
  match w.queue.inFlight[request.jobId]? with
  | none => []
  | some entry =>
    if entry.runId ≠ request.runId ∨ entry.agentId.isEmpty ∨ entry.agentId ≠ request.agentId then []
    else if w.store.isSome then []
    else w.agentOf request.jobId

/-- `complete_agent_job` after its commit. -/
def releasedByCommitted (t : Nat) : List String :=
  match w.completes[t]? with
  | some (.committed request _) => w.agentOf request.jobId
  | _ => []

/-- `reclaim_stale_jobs` without a store. -/
def releasedByReclaim (stale : String → Bool) (uuids : String → String) : List String :=
  if w.store.isSome then [] else w.queue.reclaimedAgents uuids (w.queue.staleJobs stale)

/-- `reclaim_stale_jobs` after a requeue that the store has made. -/
def releasedByRequeued (t : Nat) : List String :=
  match w.reclaims[t]? with
  | some (.requeued candidate _ _) => w.queue.reclaimedAgent candidate
  | _ => []

/-- The agents for which a step calls `decrement_load`. -/
def released : Label → List String
  | .finishPoll t => w.releasedByPoll t
  | .complete _ request _ _ => w.releasedByComplete request
  | .finishComplete t => w.releasedByCommitted t
  | .abandon _ jobId => (w.agentOf jobId).filter fun agentId => !agentId.isEmpty
  | .reclaim _ stale uuids => w.releasedByReclaim stale uuids
  | .finishReclaim t => w.releasedByRequeued t
  | _ => []

end World

namespace AgentControl

variable (sha256Hex : Bytes → String) (s : AgentControl)

/-- A step of the queue with its calls of `decrement_load`. -/
def advance (label : Label) : Option AgentControl :=
  (s.world.step sha256Hex label).map fun world =>
    { world, registry := (s.world.released label).foldl AgentRegistry.decrementLoad s.registry }

/-- `poll_agent_job` after its reclaim: the pop reserves a slot of the polling agent. Without a
store the lease follows at once, and an abandoned job gives its slot back. -/
def poll (t : Nat) (now : Instant) (poolId agentId : String) : Option AgentControl :=
  let canAgentRun := s.registry.canAgentRun now agentId poolId
  if agentId.isEmpty then some s
  else match s.world.queue.pop poolId canAgentRun true with
    | none => (s.world.poll t poolId agentId canAgentRun false).map fun world => { s with world }
    | some (job, _) =>
      let (reserved, registry) := s.registry.tryReserveExactAgent now agentId poolId job
      (s.world.poll t poolId agentId canAgentRun reserved).map fun world =>
        let lost := reserved && s.world.store.isNone && !s.world.queue.inFlight.contains job.jobId
        { world, registry := if lost then registry.decrementLoad agentId else registry }

def step : ControlLabel → Option AgentControl
  | .register now request uuid =>
    some { s with registry := s.registry.register (request.info now uuid) }
  | .unregister agentId => some { s with registry := s.registry.unregister agentId }
  | .heartbeat now agentId activeJobs =>
    some { s with registry := s.registry.heartbeat now agentId activeJobs }
  | .poll t now poolId agentId => s.poll t now poolId agentId
  | .reclaim t now graceSecs uuids =>
    s.advance sha256Hex (.reclaim t (s.registry.isAgentStaleForReclaim now graceSecs) uuids)
  | .other (.poll ..) => none
  | .other (.reclaim ..) => none
  | .other .restart =>
    some { world := s.world.restart
           registry := { heartbeatTimeoutSecs := s.registry.heartbeatTimeoutSecs } }
  | .other label => s.advance sha256Hex label

end AgentControl

/-- The runs of the agent RPCs with their registry. -/
def control (sha256Hex : Bytes → String) : System AgentControl ControlLabel where
  init s := s.world.Initial ∧ s.registry.agents = []
  step := AgentControl.step sha256Hex

namespace World

variable {sha256Hex : Bytes → String} {w w' : World} {id : String}

/-- The jobs in flight under an agent. -/
def leased (w : World) (agentId : String) : Nat :=
  entryCount (fun entry => entry.agentId == agentId) w.queue.inFlight

/-- The polls that hold a slot of an agent and wait for the store. -/
def reserving (w : World) (agentId : String) : Nat :=
  entryCount (fun call => call.agentId == agentId) w.polls

/-- The slots of an agent that are taken. -/
def occupied (w : World) (agentId : String) : Nat := w.leased agentId + w.reserving agentId

/-- Whether a job is in flight under an agent. -/
def holds (w : World) (jobId agentId : String) : Bool :=
  (w.queue.inFlight[jobId]?).any fun entry => entry.agentId == agentId

/-- The step replaces no entry of the agent by one of another, and makes no entry for it that no
poll has reserved. -/
def Undisturbed (w : World) (agentId : String) : Label → Prop
  | .enqueue _ job => w.holds job.jobId agentId = false
  | .enqueuePersisted t => ∀ producer ∈ w.producers[t]?, w.holds producer.job.jobId agentId = false
  | .restorePersisted jobId => ∀ row ∈ w.row jobId,
    w.holds row.job.jobId agentId = (decide (row.phase = .leased) && row.agentId == agentId)
  | .finishPoll t => ∀ call ∈ w.polls[t]?, call.reply = some .leased →
    w.holds call.job.jobId agentId = false
  | _ => True

theorem occupied_congr (inFlight : w'.queue.inFlight = w.queue.inFlight)
    (polls : w'.polls = w.polls) : w'.occupied id = w.occupied id := by
  unfold occupied leased reserving
  rw [inFlight, polls]

variable {job : AgentJob} {jobId : String} {call : PollCall} {fails : Bool} {result : EpisodeResult}

theorem occupied_restorePersisted {poolId : String} {leasedAgentId : Option String}
    (queue : w'.queue = w.queue.restorePersisted poolId job leasedAgentId)
    (polls : w'.polls = w.polls) (kept : w.holds job.jobId id = (leasedAgentId.getD "" == id)) :
    w'.occupied id = w.occupied id := by
  have inserted := fun a => @Queue.lookup_restorePersisted w.queue poolId job leasedAgentId a
  have count :=
    entryCount_of_inserted (p := fun entry : InFlightJob => entry.agentId == id) inserted
  unfold holds at kept
  rw [kept] at count
  unfold occupied leased reserving
  rw [queue, polls, Nat.add_right_cancel count]

theorem occupied_enqueue {poolId : String} (named : id ≠ "")
    (queue : w'.queue = w.queue.enqueue poolId job) (polls : w'.polls = w.polls)
    (free : w.holds job.jobId id = false) : w'.occupied id = w.occupied id := by
  apply occupied_restorePersisted queue polls
  rw [free]
  exact (beq_false_of_ne (Ne.symm named)).symm

theorem count_single (agentId id : String) : [agentId].count id = (agentId == id).toNat := by
  rw [List.count_singleton]
  cases agentId == id <;> rfl

theorem occupied_removed
    (lookups : ∀ a, w'.queue.inFlight[a]? = if jobId = a then none else w.queue.inFlight[a]?)
    (polls : w'.polls = w.polls) : w.occupied id = w'.occupied id + (w.agentOf jobId).count id := by
  have count := entryCount_of_erased (p := fun entry : InFlightJob => entry.agentId == id) lookups
  have here : (w.agentOf jobId).count id =
      ((w.queue.inFlight[jobId]?).any fun entry => entry.agentId == id).toNat := by
    unfold agentOf
    cases w.queue.inFlight[jobId]? with
    | none => rfl
    | some entry => exact count_single entry.agentId id
  unfold occupied leased reserving
  rw [here, polls, ← count]
  omega

theorem occupied_erasePoll {t : Nat} (polling : w.polls[t]? = some call)
    (inFlight : w'.queue.inFlight = w.queue.inFlight) (polls : w'.polls = w.polls.erase t) :
    w.occupied id = w'.occupied id + [call.agentId].count id := by
  have count := entryCount_erase w.polls (fun call => call.agentId == id) t
  rw [polling, Option.any_some] at count
  unfold occupied leased reserving
  rw [count_single, inFlight, polls, ← count]
  omega

theorem occupied_assigned {t : Nat} (polling : w.polls[t]? = some call)
    (present : w.queue.inFlight.contains call.job.jobId = true)
    (queue : w'.queue = (w.queue.assign call.job.jobId call.agentId).getD w.queue)
    (polls : w'.polls = w.polls.erase t) (free : w.holds call.job.jobId id = false) :
    w'.occupied id = w.occupied id := by
  obtain ⟨entry, found⟩ := (contains_iff_lookup _ _).mp present
  have lookups : ∀ a, w'.queue.inFlight[a]? = if call.job.jobId = a then
      some { entry with agentId := call.agentId } else w.queue.inFlight[a]? := by
    intro a
    rw [queue, Queue.lookup_assign]
    split
    · next same =>
      rw [← same, found]
      rfl
    · rfl
  have leases :=
    entryCount_of_inserted (p := fun entry : InFlightJob => entry.agentId == id) lookups
  have slots := entryCount_erase w.polls (fun call => call.agentId == id) t
  unfold holds at free
  rw [free, Bool.toNat_false] at leases
  rw [polling, Option.any_some] at slots
  dsimp only at leases
  unfold occupied leased reserving
  rw [polls]
  omega

theorem occupied_continueReclaim {t : Nat} (rest : List Queue.Candidate) :
    (w.continueReclaim t rest).occupied id = w.occupied id := by
  cases rest with
  | nil => exact occupied_congr rfl rfl
  | cons => exact occupied_congr rfl rfl

theorem occupied_reclaimed {candidate : Queue.Candidate} {replacement : AgentJob}
    (named : id ≠ "") (queue : w'.queue = w.queue.applyReclaim candidate replacement)
    (polls : w'.polls = w.polls) :
    w.occupied id = w'.occupied id + (w.queue.reclaimedAgent candidate).count id := by
  unfold Queue.applyReclaim at queue
  unfold Queue.reclaimedAgent
  cases found : w.queue.inFlight[candidate.jobId]? with
  | none =>
    rw [found] at queue
    exact (occupied_congr (by rw [queue]) polls).symm
  | some entry =>
    rw [found] at queue
    simp only at queue ⊢
    split at queue
    · next other =>
      rw [if_pos other]
      exact (occupied_congr (by rw [queue]) polls).symm
    · next same =>
      rw [if_neg same, count_single]
      have ofAgent : entry.agentId = candidate.agentId := by
        by_contra differs
        exact same (Or.inl differs)
      have count :=
        entryCount_insert w.queue.inFlight (fun entry => entry.agentId == id) candidate.jobId
        (entry.requeue replacement)
      have fresh : ((entry.requeue replacement).agentId == id) = false :=
        beq_false_of_ne (Ne.symm named)
      rw [found, Option.any_some, fresh, Bool.toNat_false, ofAgent] at count
      unfold occupied leased reserving
      rw [queue, polls, Queue.pushBack_inFlight]
      dsimp only
      omega

theorem occupied_reclaimAll (named : id ≠ "") (uuids : String → String)
    (candidates : List Queue.Candidate) (w : World) :
    w.occupied id = { w with queue := w.queue.reclaimAll candidates uuids }.occupied id +
      (w.queue.reclaimedAgents uuids candidates).count id := by
  induction candidates generalizing w with
  | nil => rfl
  | cons candidate rest ih =>
    have first : w.occupied id = { w with
        queue := w.queue.applyReclaim candidate
          (candidate.replacement (uuids candidate.jobId)) }.occupied id + _ :=
      occupied_reclaimed named rfl rfl
    have later := ih { w with
      queue := w.queue.applyReclaim candidate (candidate.replacement (uuids candidate.jobId)) }
    unfold Queue.reclaimedAgents
    rw [List.count_append, first, later]
    simp only
    exact (Nat.add_right_comm _ _ _).trans (Nat.add_assoc _ _ _)

theorem occupied_persistJob {t : Nat} {poolId : String} {deadlineAtMs now : Millis}
    (taken : w.persistJob t poolId job deadlineAtMs now = some w') :
    w'.occupied id = w.occupied id := by
  obtain rfl | ⟨_, _, _, _, rfl⟩ := persistJob_cases taken
  · rfl
  · exact occupied_congr rfl rfl

theorem occupied_restored (named : id ≠ "")
    (undisturbed : w.Undisturbed id (.restorePersisted jobId))
    (taken : w.restorePersisted jobId = some w') : w'.occupied id = w.occupied id := by
  obtain ⟨row, leasedAgentId, stored, phase, rfl⟩ := restorePersisted_cases taken
  refine occupied_restorePersisted rfl rfl ((undisturbed row stored).trans ?_)
  rcases phase with ⟨phase, rfl⟩ | ⟨phase, rfl⟩
  · rw [phase, Option.getD_none, beq_false_of_ne (Ne.symm named)]
    rfl
  · rw [phase]
    rfl

theorem occupied_execLease {t : Nat} {now : Millis} (taken : w.execLease t now fails = some w') :
    w'.occupied id = w.occupied id := by
  have answered : ∀ (call : PollCall) (reply : Option LeaseReply) (store : Option Db),
      w.polls[t]? = some call →
      { w with store, polls := w.polls.insert t { call with reply } }.occupied id =
        w.occupied id := by
    intro call reply store polling
    have count := entryCount_insert w.polls (fun call => call.agentId == id) t { call with reply }
    rw [polling, Option.any_some] at count
    unfold occupied leased reserving
    dsimp only at count ⊢
    omega
  obtain ⟨call, db, polling, _, _, rfl | ⟨rfl, _⟩ | ⟨_, _, _, _, rfl⟩⟩ := execLease_cases taken
  · exact answered call _ _ polling
  · exact answered call _ _ polling
  · exact answered call _ _ polling

theorem occupied_finishPoll {t : Nat} (undisturbed : w.Undisturbed id (.finishPoll t))
    (taken : w.finishPoll t = some w') :
    w.occupied id = w'.occupied id + (w.releasedByPoll t).count id := by
  obtain ⟨call, answer, polling, reply, ended⟩ := finishPoll_cases taken
  unfold releasedByPoll
  rw [polling]
  dsimp only
  rcases ended with ⟨rfl, rfl⟩ | ⟨refused, rfl⟩
  · cases present : w.queue.inFlight.contains call.job.jobId with
    | true =>
      rw [if_pos ⟨reply, rfl⟩]
      exact (occupied_assigned polling present rfl rfl (undisturbed call polling reply)).symm
    | false =>
      rw [if_neg (fun both => Bool.false_ne_true both.2)]
      refine occupied_erasePoll polling ?_ rfl
      dsimp only
      unfold Queue.assign
      rw [Std.ExtTreeMap.contains_eq_isSome_getElem?] at present
      rw [Option.isSome_eq_false_iff, Option.isNone_iff_eq_none] at present
      rw [present]
      rfl
  · rw [if_neg (fun both => refused (Option.some.inj (reply.symm.trans both.1)))]
    exact occupied_erasePoll polling rfl rfl

theorem occupied_complete {t : Nat} {request : AgentJobCompleteRequest} {encoded : Bytes}
    (taken : w.complete t request encoded result = some w') : w.occupied id = w'.occupied id +
      (w.releasedByComplete request).count id := by
  unfold complete at taken
  unfold releasedByComplete
  split at taken
  · cases taken
  · cases found : w.queue.inFlight[request.jobId]? with
    | none =>
      rw [found] at taken
      simp only at taken
      split at taken
      · cases taken
        rfl
      · cases taken
        exact occupied_congr rfl rfl
    | some entry =>
      rw [found] at taken
      simp only at taken ⊢
      split at taken
      · next mismatch =>
        cases taken
        rw [if_pos mismatch]
        rfl
      · next matching =>
        rw [if_neg matching]
        split at taken
        · next store =>
          cases taken
          rw [if_neg (by rw [store]; exact Bool.false_ne_true)]
          exact occupied_removed (fun a => Queue.lookup_finishJob _ a) rfl
        · next store =>
          cases taken
          rw [if_pos (by rw [store]; rfl)]
          exact occupied_congr rfl rfl

theorem occupied_finishComplete {t : Nat} (taken : w.finishComplete t = some w') :
    w.occupied id = w'.occupied id + (w.releasedByCommitted t).count id := by
  obtain ⟨request, result, completing, rfl⟩ := finishComplete_cases taken
  have released : w.releasedByCommitted t = w.agentOf request.jobId := by
    rw [releasedByCommitted, completing]
  rw [released]
  exact occupied_removed (fun a => Queue.lookup_finishJob _ a) rfl

theorem occupied_abandon {poolId : String} (named : id ≠ "") :
    w.occupied id = { w with queue := w.queue.abandon poolId jobId }.occupied id +
      (w.released (.abandon poolId jobId)).count id := by
  unfold released
  rw [List.count_filter (by simpa using named)]
  exact occupied_removed (fun a => Queue.lookup_abandon a) rfl

theorem occupied_execCheck {t : Nat} {now : Millis}
    (taken : w.execCheck sha256Hex t now fails = some w') : w'.occupied id = w.occupied id := by
  obtain ⟨_, _, _, _, _, rfl | ⟨_, _, _, rfl⟩⟩ := execCheck_cases taken
  · exact occupied_congr rfl rfl
  · exact occupied_congr rfl rfl

theorem occupied_execLoad {t : Nat} (taken : w.execLoad t result fails = some w') :
    w'.occupied id = w.occupied id := by
  obtain ⟨_, _, _, _, rfl | rfl⟩ := execLoad_cases taken
  · exact occupied_congr rfl rfl
  · exact occupied_congr rfl rfl

theorem occupied_execCommit {t : Nat} {now : Millis}
    (taken : w.execCommit sha256Hex t now fails = some w') : w'.occupied id = w.occupied id := by
  obtain ⟨_, _, _, _, _, _, rfl | ⟨_, _, _, ⟨_, rfl⟩ | ⟨_, rfl⟩⟩⟩ := execCommit_cases taken
  · exact occupied_congr rfl rfl
  · exact occupied_congr rfl rfl
  · exact occupied_congr rfl rfl

theorem occupied_execRequeue {t : Nat} {uuid : String} {now : Millis}
    (taken : w.execRequeue t uuid now fails = some w') : w'.occupied id = w.occupied id := by
  obtain ⟨_, rest, _, _, _, rfl | ⟨_, _, _, _, _, rfl⟩⟩ := execRequeue_cases taken
  · exact occupied_continueReclaim rest
  · exact occupied_congr rfl rfl

theorem occupied_reclaim {t : Nat} {stale : String → Bool} {uuids : String → String}
    (named : id ≠ "") (taken : w.reclaim t stale uuids = some w') :
    w.occupied id = w'.occupied id + (w.releasedByReclaim stale uuids).count id := by
  unfold reclaim at taken
  unfold releasedByReclaim
  split at taken
  · cases taken
  · split at taken
    · next store =>
      cases taken
      rw [if_pos (by rw [store]; rfl)]
      exact (occupied_continueReclaim _).symm
    · next store =>
      cases taken
      rw [if_neg (by rw [store]; exact Bool.false_ne_true)]
      exact occupied_reclaimAll named uuids _ w

theorem occupied_finishReclaim {t : Nat} (named : id ≠ "") (taken : w.finishReclaim t = some w') :
    w.occupied id = w'.occupied id + (w.releasedByRequeued t).count id := by
  obtain ⟨candidate, replacement, rest, reclaiming, rfl⟩ := finishReclaim_cases taken
  have released : w.releasedByRequeued t = w.queue.reclaimedAgent candidate := by
    rw [releasedByRequeued, reclaiming]
  rw [released, occupied_continueReclaim]
  exact occupied_reclaimed named rfl rfl

/-- A step of the queue gives back as many slots of an agent as it calls `decrement_load` for it,
polls and restarts apart. -/
theorem occupied_balance {label : Label} (named : id ≠ "") (undisturbed : w.Undisturbed id label)
    (taken : w.step sha256Hex label = some w')
    (noPoll : ∀ t poolId agentId can reserved, label ≠ .poll t poolId agentId can reserved)
    (noRestart : label ≠ .restart) :
    w.occupied id = w'.occupied id + (w.released label).count id := by
  cases label with
  | persistJob => exact (occupied_persistJob taken).symm
  | enqueuePersisted t =>
    obtain ⟨producer, producing, rfl⟩ := Option.map_eq_some_iff.mp taken
    refine ((Nat.add_zero _).trans ?_).symm
    exact occupied_enqueue named rfl rfl (undisturbed producer producing)
  | enqueue =>
    cases taken
    refine ((Nat.add_zero _).trans ?_).symm
    exact occupied_enqueue named rfl rfl undisturbed
  | restorePersisted => exact (occupied_restored named undisturbed taken).symm
  | poll t poolId agentId can reserved => exact absurd rfl (noPoll t poolId agentId can reserved)
  | execLease => exact (occupied_execLease taken).symm
  | finishPoll t => exact occupied_finishPoll undisturbed taken
  | complete => exact occupied_complete taken
  | execCheck => exact (occupied_execCheck taken).symm
  | execLoad => exact (occupied_execLoad taken).symm
  | execCommit => exact (occupied_execCommit taken).symm
  | finishComplete t => exact occupied_finishComplete taken
  | abandon =>
    cases taken
    exact occupied_abandon named
  | markTerminal =>
    obtain ⟨db, _, rfl⟩ := Option.map_eq_some_iff.mp taken
    rfl
  | reclaim => exact occupied_reclaim named taken
  | execRequeue => exact (occupied_execRequeue taken).symm
  | finishReclaim t => exact occupied_finishReclaim named taken
  | otherCommand db =>
    obtain ⟨_, _, _, rfl⟩ := otherCommand_cases taken
    rfl
  | restart => exact absurd rfl noRestart

end World

end UEnv.AgentJob
