import UEnv.Persistence.Sqlite
import UEnv.Lib.Tables

/-!
# The agent job queue

`AgentJobQueue` of `agent_job.rs`: the pending queue of each pool and the table of in-flight
jobs. The completion channel of a job is known by a number; dropping its sender and sending on
it are recorded in `channels`. The load counters of the agent registry and the metrics are left
out; what the registry answers is an argument where the code asks it.
-/

namespace UEnv.AgentJob

open Proto Persistence Tables

/-- `AgentJobCompletion`. -/
structure Completion where
  complete : AgentJobCompleteRequest
  result : EpisodeResult

/-- The receiver's view of a oneshot channel. -/
inductive Channel
  | waiting
  | sent (completion : Completion)
  | closed

/-- `InFlightJob`; `done` names its completion channel. -/
structure InFlightJob where
  poolId : String
  agentId : String
  runId : String
  job : AgentJob
  done : Nat

/-- The entry of a job that waits again, under its next run. -/
def InFlightJob.requeue (entry : InFlightJob) (replacement : AgentJob) : InFlightJob :=
  { entry with agentId := "", runId := replacement.runId, job := replacement }

/-- `AgentJobQueue`. -/
structure Queue where
  pending : Table (List AgentJob) := ∅
  inFlight : Table InFlightJob := ∅
  channels : List Channel := []

/-- The sender is dropped; a completion that was sent stays. -/
def Channel.close : Channel → Channel
  | .waiting => .closed
  | channel => channel

/-- `Sender::send`. -/
def Channel.send (completion : Completion) : Channel → Channel
  | .waiting => .sent completion
  | channel => channel

namespace Queue

variable (q : Queue)

/-- `pending.get(pool)`; a pool without an entry has an empty queue. -/
def pendingOf (poolId : String) : List AgentJob := (q.pending[poolId]?).getD []

/-- `pending.entry(pool).or_default()` with its queue replaced. -/
def setPending (poolId : String) (jobs : List AgentJob) : Queue :=
  { q with pending := q.pending.insert poolId jobs }

def pushBack (poolId : String) (job : AgentJob) : Queue :=
  q.setPending poolId (q.pendingOf poolId ++ [job])

def pushFront (poolId : String) (job : AgentJob) : Queue :=
  q.setPending poolId (job :: q.pendingOf poolId)

/-- Drop the sender of a channel. -/
def closeChannel (done : Nat) : Queue :=
  { q with channels := q.channels.modify done Channel.close }

/-- `done.send(completion)`. -/
def sendCompletion (done : Nat) (completion : Completion) : Queue :=
  { q with channels := q.channels.modify done (Channel.send completion) }

/-- `in_flight.insert`: a sender that was stored there is dropped. -/
def insertInFlight (jobId : String) (entry : InFlightJob) : Queue :=
  let q := match q.inFlight[jobId]? with
    | some old => q.closeChannel old.done
    | none => q
  { q with inFlight := q.inFlight.insert jobId entry }

/-- `restore_persisted`, and with no agent `enqueue`: the completion channel is the last one. -/
def restorePersisted (poolId : String) (job : AgentJob) (leasedAgentId : Option String) : Queue :=
  let agentId := leasedAgentId.getD ""
  let entry : InFlightJob :=
    { poolId, agentId, runId := job.runId, job, done := q.channels.length }
  let q := { q with channels := q.channels ++ [Channel.waiting] }
  let q := q.insertInFlight job.jobId entry
  if agentId.isEmpty then q.pushBack poolId job else q

/-- `enqueue` (agent_job.rs, 84-105). -/
def enqueue (poolId : String) (job : AgentJob) : Queue := q.restorePersisted poolId job none

/-- `abandon` (agent_job.rs, 180-190). -/
def abandon (poolId jobId : String) : Queue :=
  let q := match q.inFlight[jobId]? with
    | some entry => { q.closeChannel entry.done with inFlight := q.inFlight.erase jobId }
    | none => q
  if q.pending.contains poolId then
    q.setPending poolId ((q.pendingOf poolId).filter fun job => job.jobId ≠ jobId)
  else q

/-- The pop of `poll_agent_job`: the first job of the pool that the agent can run leaves the
queue, unless its slot cannot be reserved. -/
def pop (poolId : String) (canAgentRun : AgentJob → Bool) (reserved : Bool) :
    Option (AgentJob × Queue) :=
  let jobs := q.pendingOf poolId
  match jobs.findIdx? canAgentRun with
  | none => none
  | some pos =>
    match jobs[pos]? with
    | none => none
    | some job => if reserved then some (job, q.setPending poolId (jobs.eraseIdx pos)) else none

/-- The `in_flight` update of `poll_agent_job`; `none` when the job was abandoned meanwhile. -/
def assign (jobId agentId : String) : Option Queue :=
  (q.inFlight[jobId]?).map fun entry =>
    { q with inFlight := q.inFlight.insert jobId { entry with agentId } }

/-- A job that `reclaim_stale_jobs` has found under a lost agent. -/
structure Candidate where
  jobId : String
  poolId : String
  agentId : String
  runId : String
  job : AgentJob

/-- The snapshot of `reclaim_stale_jobs`; `stale` is the registry's answer for an agent. -/
def staleJobs (stale : String → Bool) : List Candidate :=
  q.inFlight.toList.filterMap fun (jobId, entry) =>
    if entry.agentId.isEmpty || !stale entry.agentId then none
    else some
      { jobId, poolId := entry.poolId, agentId := entry.agentId, runId := entry.runId
        job := entry.job }

/-- `format!("{}:reclaim:{}", previous_run_id, uuid)`. -/
def reclaimedRunId (previousRunId uuid : String) : String := previousRunId ++ ":reclaim:" ++ uuid

/-- The job with the run of its next lease. -/
def Candidate.replacement (candidate : Candidate) (uuid : String) : AgentJob :=
  { candidate.job with runId := reclaimedRunId candidate.runId uuid }

/-- The memory side of one reclaim: the lease must still be the one of the snapshot. -/
def applyReclaim (candidate : Candidate) (replacement : AgentJob) : Queue :=
  match q.inFlight[candidate.jobId]? with
  | none => q
  | some entry =>
    if entry.agentId ≠ candidate.agentId ∨ entry.runId ≠ candidate.runId then q
    else
      ({ q with inFlight :=
        q.inFlight.insert candidate.jobId (entry.requeue replacement) }).pushBack
        candidate.poolId replacement

/-- The loop of `reclaim_stale_jobs` when nothing is persisted. -/
def reclaimAll (candidates : List Candidate) (uuids : String → String) : Queue :=
  candidates.foldl (fun queue candidate =>
    queue.applyReclaim candidate (candidate.replacement (uuids candidate.jobId))) q

/-- The end of `complete_agent_job`: `None` is answered with `UNKNOWN_JOB`. -/
def finishJob (jobId : String) (completion : Completion) : Queue :=
  match q.inFlight[jobId]? with
  | none => q
  | some entry =>
    { q.sendCompletion entry.done completion with inFlight := q.inFlight.erase jobId }

/-! ### What the operations do to a lookup -/

variable {q} {jobId poolId agentId : String} {job : AgentJob} {entry : InFlightJob}

@[simp]
theorem closeChannel_inFlight (done : Nat) : (q.closeChannel done).inFlight = q.inFlight := rfl

@[simp]
theorem pendingOf_closeChannel (done : Nat) (p : String) :
    (q.closeChannel done).pendingOf p = q.pendingOf p := rfl

@[simp]
theorem sendCompletion_inFlight (done : Nat) (completion : Completion) :
    (q.sendCompletion done completion).inFlight = q.inFlight := rfl

@[simp]
theorem setPending_inFlight (jobs : List AgentJob) :
    (q.setPending poolId jobs).inFlight = q.inFlight := rfl

@[simp]
theorem pendingOf_setPending (jobs : List AgentJob) (p : String) :
    (q.setPending poolId jobs).pendingOf p = if poolId = p then jobs else q.pendingOf p := by
  unfold pendingOf setPending
  rw [lookup_insert]
  split <;> rfl

@[simp]
theorem pushBack_inFlight : (q.pushBack poolId job).inFlight = q.inFlight := rfl

@[simp]
theorem pushFront_inFlight : (q.pushFront poolId job).inFlight = q.inFlight := rfl

theorem pendingOf_pushBack (p : String) : (q.pushBack poolId job).pendingOf p =
      if poolId = p then q.pendingOf p ++ [job] else q.pendingOf p := by
  rw [pushBack, pendingOf_setPending]
  split
  · next same => rw [same]
  · rfl

theorem pendingOf_pushFront (p : String) : (q.pushFront poolId job).pendingOf p =
      if poolId = p then job :: q.pendingOf p else q.pendingOf p := by
  rw [pushFront, pendingOf_setPending]
  split
  · next same => rw [same]
  · rfl

@[simp]
theorem lookup_insertInFlight (id : String) : (q.insertInFlight jobId entry).inFlight[id]? =
      if jobId = id then some entry else q.inFlight[id]? := by
  unfold insertInFlight
  split <;> simp

@[simp]
theorem pendingOf_insertInFlight (p : String) :
    (q.insertInFlight jobId entry).pendingOf p = q.pendingOf p := by
  unfold insertInFlight
  split <;> rfl

theorem lookup_restorePersisted (leasedAgentId : Option String) (id : String) :
    (q.restorePersisted poolId job leasedAgentId).inFlight[id]? = if job.jobId = id then
        some { poolId, agentId := leasedAgentId.getD "", runId := job.runId, job
               done := q.channels.length }
      else q.inFlight[id]? := by
  unfold restorePersisted
  simp only
  split <;> simp

theorem pendingOf_restorePersisted (leasedAgentId : Option String) (p : String) :
    (q.restorePersisted poolId job leasedAgentId).pendingOf p =
      if leasedAgentId.getD "" = "" ∧ poolId = p then q.pendingOf p ++ [job]
      else q.pendingOf p := by
  have inserted : ∀ channels entry,
      ({ q with channels }.insertInFlight job.jobId entry).pendingOf p =
      q.pendingOf p := by
    intro channels entry
    rw [pendingOf_insertInFlight]
    rfl
  unfold restorePersisted
  simp only [String.isEmpty_iff]
  by_cases unleased : leasedAgentId.getD "" = ""
  · rw [if_pos unleased, pendingOf_pushBack, inserted]
    simp only [unleased, true_and]
  · rw [if_neg unleased, inserted]
    simp only [unleased, false_and, if_false]

theorem lookup_abandon (id : String) :
    (q.abandon poolId jobId).inFlight[id]? = if jobId = id then none else q.inFlight[id]? := by
  unfold abandon
  cases found : q.inFlight[jobId]? with
  | none =>
    have same : jobId = id → q.inFlight[id]? = none := by
      intro same
      rw [← same, found]
    simp only
    split <;> split <;> simp_all
  | some =>
    simp only
    split <;> simp

theorem pendingOf_abandon (p : String) : (q.abandon poolId jobId).pendingOf p =
      if poolId = p then (q.pendingOf p).filter fun job => job.jobId ≠ jobId
      else q.pendingOf p := by
  have removed : ∀ r : Queue, r.pending = q.pending → (if r.pending.contains poolId then
          r.setPending poolId ((r.pendingOf poolId).filter fun job => job.jobId ≠ jobId)
        else r).pendingOf p =
      if poolId = p then (q.pendingOf p).filter fun job => job.jobId ≠ jobId
      else q.pendingOf p := by
    intro r same
    have listed : ∀ p, r.pendingOf p = q.pendingOf p := by
      intro p
      unfold pendingOf
      rw [same]
    split
    · rw [pendingOf_setPending, listed, listed]
      split
      · next here => rw [here]
      · rfl
    · next missing =>
      rw [listed]
      split
      · next here =>
        have empty : q.pendingOf p = [] := by
          rw [Std.ExtTreeMap.contains_eq_isSome_getElem?, same, here] at missing
          simp only [Option.isSome_iff_ne_none, ne_eq, not_not] at missing
          unfold pendingOf
          rw [missing]
          rfl
        rw [empty]
        rfl
      · rfl
  unfold abandon
  split
  · exact removed _ rfl
  · exact removed _ rfl

theorem pop_cases {canAgentRun : AgentJob → Bool} {reserved : Bool} {q' : Queue}
    (popped : q.pop poolId canAgentRun reserved = some (job, q')) :
    ∃ pos, (q.pendingOf poolId)[pos]? = some job ∧
      q' = q.setPending poolId ((q.pendingOf poolId).eraseIdx pos) := by
  unfold pop at popped
  simp only at popped
  split at popped
  · cases popped
  · next pos _ =>
    split at popped
    · cases popped
    · next job' present =>
      split at popped
      · cases popped
        exact ⟨pos, present, rfl⟩
      · cases popped

theorem lookup_assign (id : String) : ((q.assign jobId agentId).getD q).inFlight[id]? =
      if jobId = id then (q.inFlight[id]?).map fun entry => { entry with agentId }
      else q.inFlight[id]? := by
  unfold assign
  cases found : q.inFlight[jobId]? with
  | none =>
    simp only [Option.map_none, Option.getD_none]
    split
    · next same => rw [← same, found]; rfl
    · rfl
  | some entry =>
    simp only [Option.map_some, Option.getD_some, lookup_insert]
    split
    · next same => rw [← same, found]; rfl
    · rfl

@[simp]
theorem pendingOf_assign (p : String) :
    ((q.assign jobId agentId).getD q).pendingOf p = q.pendingOf p := by
  unfold assign
  cases q.inFlight[jobId]? <;> rfl

theorem lookup_finishJob (completion : Completion) (id : String) :
    (q.finishJob jobId completion).inFlight[id]? =
      if jobId = id then none else q.inFlight[id]? := by
  unfold finishJob
  cases found : q.inFlight[jobId]? with
  | none =>
    simp only
    split
    · next same => rw [← same, found]
    · rfl
  | some => simp

@[simp]
theorem pendingOf_finishJob (completion : Completion) (p : String) :
    (q.finishJob jobId completion).pendingOf p = q.pendingOf p := by
  unfold finishJob
  cases q.inFlight[jobId]? <;> rfl

/-- The entry is still the lease that the snapshot saw. -/
def Candidate.Matches (candidate : Candidate) (entry : InFlightJob) : Prop :=
  entry.agentId = candidate.agentId ∧ entry.runId = candidate.runId

/-- A reclaim changes nothing, or it takes a matching lease back and queues the replacement. -/
theorem applyReclaim_cases (q : Queue) (candidate : Candidate) (replacement : AgentJob) :
    q.applyReclaim candidate replacement = q ∨
    ∃ entry, q.inFlight[candidate.jobId]? = some entry ∧ candidate.Matches entry ∧
      q.applyReclaim candidate replacement =
        ({ q with
          inFlight := q.inFlight.insert candidate.jobId (entry.requeue replacement) }).pushBack
            candidate.poolId replacement := by
  unfold applyReclaim
  split
  · exact Or.inl rfl
  · next entry found =>
    split
    · exact Or.inl rfl
    · next same =>
      have kept : entry.agentId = candidate.agentId ∧ entry.runId = candidate.runId := by
        simpa [not_or] using same
      exact Or.inr ⟨entry, found, kept, rfl⟩

variable {candidate : Candidate}

theorem lookup_applyReclaim (present : q.inFlight[candidate.jobId]? = some entry)
    (same : candidate.Matches entry) (replacement : AgentJob) :
    (q.applyReclaim candidate replacement).inFlight[candidate.jobId]? =
      some (entry.requeue replacement) := by
  unfold applyReclaim
  rw [present]
  simp only
  rw [if_neg (by rw [not_or, not_not, not_not]; exact same), pushBack_inFlight, lookup_insert,
    if_pos rfl]

theorem reclaimedRunId_length (previousRunId uuid : String) :
    previousRunId.length < (reclaimedRunId previousRunId uuid).length := by
  have separator : (":reclaim:" : String).length = 9 := by decide
  unfold reclaimedRunId
  rw [String.length_append, String.length_append, separator]
  omega

theorem mem_staleJobs {stale : String → Bool} (listed : candidate ∈ q.staleJobs stale) :
    ∃ entry, q.inFlight[candidate.jobId]? = some entry ∧ candidate.agentId ≠ "" ∧
      candidate.Matches entry ∧ entry.poolId = candidate.poolId ∧ entry.job = candidate.job := by
  obtain ⟨⟨id, entry⟩, member, chosen⟩ := List.mem_filterMap.mp listed
  have present := Std.ExtTreeMap.mem_toList_iff_getElem?_eq_some.mp member
  simp only at chosen
  split at chosen
  · cases chosen
  · next kept =>
    cases chosen
    simp only [Bool.or_eq_true, String.isEmpty_iff, not_or] at kept
    exact ⟨entry, present, kept.1, ⟨rfl, rfl⟩, rfl, rfl⟩

end Queue

end UEnv.AgentJob
