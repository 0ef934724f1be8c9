import UEnv.AgentJob.Queue
import UEnv.Lib.Runs

/-!
# The agent RPCs and their store commands

`AgentControlServiceImpl` and the producers of jobs, cut at their `await` points. A call that
waits for the store is an entry of a table of calls; its label names it by a number. The label
also carries what the code asks of its environment: the registry's answers, the clock, the fresh
uuid, whether the store fails, and the result that `agent_complete_to_episode_result` and the
finalizer make of a completion. `poll_agent_job` and `agent_heartbeat` begin with
`reclaim_stale_jobs`, which is a call of its own here.
-/

namespace UEnv.AgentJob

open Proto Persistence Wire Runs

abbrev Calls (α : Type) := Tables.Map Nat α

/-- The answer of `store.lease_agent_job`. -/
inductive LeaseReply
  | leased | refused | failed
  deriving DecidableEq

/-- `poll_agent_job` between its pop and its `in_flight` update. -/
structure PollCall where
  poolId : String
  agentId : String
  job : AgentJob
  reply : Option LeaseReply

/-- `complete_agent_job` at its `await` points: the check of an unknown job, the load of the
episode's request, the commit, and after an accepted commit. -/
inductive CompleteCall
  | checking (request : AgentJobCompleteRequest) (encoded : Bytes)
  | loading (request : AgentJobCompleteRequest) (encoded : Bytes) (episodeId : String)
  | committing (request : AgentJobCompleteRequest) (encoded : Bytes) (result : EpisodeResult)
  | committed (request : AgentJobCompleteRequest) (result : EpisodeResult)

/-- `reclaim_stale_jobs` inside its loop: before the requeue of a candidate, and after one that
the store has made. -/
inductive ReclaimCall
  | requeueing (candidate : Queue.Candidate) (rest : List Queue.Candidate)
  | requeued (candidate : Queue.Candidate) (replacement : AgentJob) (rest : List Queue.Candidate)

/-- `submit_swe_agent_episode` between `store.enqueue_agent_job` and `enqueue`. -/
structure Producer where
  poolId : String
  job : AgentJob

/-- The queue, the attached store and the calls that wait for it. -/
structure World where
  queue : Queue := {}
  store : Option Db := none
  polls : Calls PollCall := ∅
  completes : Calls CompleteCall := ∅
  reclaims : Calls ReclaimCall := ∅
  producers : Calls Producer := ∅

inductive Label
  | persistJob (t : Nat) (poolId : String) (job : AgentJob) (deadlineAtMs now : Millis)
  | enqueuePersisted (t : Nat)
  | enqueue (poolId : String) (job : AgentJob)
  | restorePersisted (jobId : String)
  | poll (t : Nat) (poolId agentId : String) (canAgentRun : AgentJob → Bool) (reserved : Bool)
  | execLease (t : Nat) (now : Millis) (fails : Bool)
  | finishPoll (t : Nat)
  | complete (t : Nat) (request : AgentJobCompleteRequest) (encoded : Bytes)
    (result : EpisodeResult)
  | execCheck (t : Nat) (now : Millis) (fails : Bool)
  | execLoad (t : Nat) (result : EpisodeResult) (fails : Bool)
  | execCommit (t : Nat) (now : Millis) (fails : Bool)
  | finishComplete (t : Nat)
  | abandon (poolId jobId : String)
  | markTerminal (jobId : String) (cancelled : Bool) (now : Millis)
  | reclaim (t : Nat) (stale : String → Bool) (uuids : String → String)
  | execRequeue (t : Nat) (uuid : String) (now : Millis) (fails : Bool)
  | finishReclaim (t : Nat)
  | otherCommand (db : Db)
  | restart

namespace World

variable (sha256Hex : Bytes → String) (w : World)

/-- The SWE producer persists a job; it goes on when the command succeeds. -/
def persistJob (t : Nat) (poolId : String) (job : AgentJob) (deadlineAtMs now : Millis) :
    Option World :=
  match w.store with
  | none => none
  | some db =>
    if w.producers.contains t then none
    else match db.enqueueAgentJob now poolId job deadlineAtMs with
      | .error _ => some w
      | .ok db =>
        some { w with store := some db, producers := w.producers.insert t { poolId, job } }

/-- The SWE producer queues the job it has persisted. -/
def enqueuePersisted (t : Nat) : Option World :=
  (w.producers[t]?).map fun producer =>
    { w with
      queue := w.queue.enqueue producer.poolId producer.job
      producers := w.producers.erase t }

/-- Recovery restores a job whose row is pending or leased. -/
def restorePersisted (jobId : String) : Option World :=
  match w.store with
  | none => none
  | some db =>
    match db.agentJobs[jobId]? with
    | none => none
    | some row =>
      match row.phase with
      | .pending => some { w with queue := w.queue.restorePersisted row.poolId row.job none }
      | .leased =>
        some { w with queue := w.queue.restorePersisted row.poolId row.job (some row.agentId) }
      | _ => none

/-- `poll_agent_job` up to its store command; without a store it runs to its end. -/
def poll (t : Nat) (poolId agentId : String) (canAgentRun : AgentJob → Bool) (reserved : Bool) :
    Option World :=
  if w.polls.contains t then none
  else if agentId.isEmpty then some w
  else match w.queue.pop poolId canAgentRun reserved with
    | none => some w
    | some (job, queue) =>
      match w.store with
      | none => some { w with queue := (queue.assign job.jobId agentId).getD queue }
      | some _ =>
        let call : PollCall := { poolId, agentId, job, reply := none }
        some { w with queue, polls := w.polls.insert t call }

/-- The store runs `lease_agent_job` of a poll. -/
def execLease (t : Nat) (now : Millis) (fails : Bool) : Option World :=
  match w.polls[t]?, w.store with
  | some call, some db =>
    if call.reply.isSome then none
    else if fails then
      some { w with polls := w.polls.insert t { call with reply := some .failed } }
    else
      let (leased, db) := db.leaseAgentJob now call.job.jobId call.agentId call.job.runId
      let reply := if leased then LeaseReply.leased else .refused
      some { w with
        store := some db, polls := w.polls.insert t { call with reply := some reply } }
  | _, _ => none

/-- `poll_agent_job` after the answer of the store. -/
def finishPoll (t : Nat) : Option World :=
  match w.polls[t]? with
  | none => none
  | some call =>
    let w := { w with polls := w.polls.erase t }
    match call.reply with
    | none => none
    | some .leased =>
      some { w with queue := (w.queue.assign call.job.jobId call.agentId).getD w.queue }
    | some .refused => some { w with queue := w.queue.pushFront call.poolId call.job }
    | some .failed => some { w with queue := w.queue.pushFront call.poolId call.job }

/-- `complete_agent_job` up to its first store command; without a store it runs to its end. -/
def complete (t : Nat) (request : AgentJobCompleteRequest) (encoded : Bytes)
    (result : EpisodeResult) : Option World :=
  if w.completes.contains t then none
  else match w.queue.inFlight[request.jobId]? with
    | none =>
      match w.store with
      | none => some w
      | some _ => some { w with completes := w.completes.insert t (.checking request encoded) }
    | some entry =>
      if entry.runId ≠ request.runId ∨ entry.agentId.isEmpty ∨ entry.agentId ≠ request.agentId then
        some w
      else match w.store with
        | none =>
          let completion : Completion := { complete := request, result }
          some { w with queue := w.queue.finishJob request.jobId completion }
        | some _ =>
          some { w with
            completes := w.completes.insert t (.loading request encoded entry.job.episodeId) }

/-- The store answers the check of an unknown job, and with it the call. -/
def execCheck (t : Nat) (now : Millis) (fails : Bool) : Option World :=
  match w.completes[t]?, w.store with
  | some (.checking request encoded), some db =>
    let w := { w with completes := w.completes.erase t }
    if fails then some w
    else match db.commitAgentCompletion sha256Hex now request encoded {} with
      | .error _ => some w
      | .ok (_, db) => some { w with store := some db }
  | _, _ => none

/-- The store answers `get_episode_request`; `result` is what the completion becomes. -/
def execLoad (t : Nat) (result : EpisodeResult) (fails : Bool) : Option World :=
  match w.completes[t]?, w.store with
  | some (.loading request encoded episodeId), some db =>
    if fails || (db.getEpisodeRequest episodeId).isNone then
      some { w with completes := w.completes.erase t }
    else some { w with completes := w.completes.insert t (.committing request encoded result) }
  | _, _ => none

/-- The store runs `commit_agent_completion`; all answers but a replay end the call. -/
def execCommit (t : Nat) (now : Millis) (fails : Bool) : Option World :=
  match w.completes[t]?, w.store with
  | some (.committing request encoded result), some db =>
    let ended := w.completes.erase t
    if fails then some { w with completes := ended }
    else match db.commitAgentCompletion sha256Hex now request encoded result with
      | .error _ => some { w with completes := ended }
      | .ok (.replay _, db) =>
        some { w with
          store := some db, completes := w.completes.insert t (.committed request result) }
      | .ok (_, db) => some { w with store := some db, completes := ended }
  | _, _ => none

/-- `complete_agent_job` after an accepted commit. -/
def finishComplete (t : Nat) : Option World :=
  match w.completes[t]? with
  | some (.committed request result) =>
    some { w with
      queue := w.queue.finishJob request.jobId { complete := request, result }
      completes := w.completes.erase t }
  | _ => none

/-- `mark_agent_job_terminal` with `"cancelled"` or `"timed_out"`. -/
def markTerminal (jobId : String) (cancelled : Bool) (now : Millis) : Option World :=
  (w.store).map fun db =>
    { w with
      store := some
        (db.markAgentJobTerminal now jobId (if cancelled then .cancelled else .timedOut)) }

/-- The rest of the loop of `reclaim_stale_jobs`. -/
def continueReclaim (t : Nat) : List Queue.Candidate → World
  | [] => { w with reclaims := w.reclaims.erase t }
  | candidate :: rest => { w with reclaims := w.reclaims.insert t (.requeueing candidate rest) }

/-- `reclaim_stale_jobs` up to its first store command; without a store it runs to its end. -/
def reclaim (t : Nat) (stale : String → Bool) (uuids : String → String) : Option World :=
  if w.reclaims.contains t then none
  else match w.store with
    | some _ => some (w.continueReclaim t (w.queue.staleJobs stale))
    | none => some { w with queue := w.queue.reclaimAll (w.queue.staleJobs stale) uuids }

/-- The store runs `requeue_agent_job` of a reclaim; a refusal goes on with the next candidate. -/
def execRequeue (t : Nat) (uuid : String) (now : Millis) (fails : Bool) : Option World :=
  match w.reclaims[t]?, w.store with
  | some (.requeueing candidate rest), some db =>
    let replacement := candidate.replacement uuid
    if fails then some (w.continueReclaim t rest)
    else
      let (requeued, db) := db.requeueAgentJob now replacement candidate.agentId candidate.runId
      let w := { w with store := some db }
      if requeued then
        some { w with reclaims := w.reclaims.insert t (.requeued candidate replacement rest) }
      else some (w.continueReclaim t rest)
  | _, _ => none

/-- The memory side of a requeue that the store has made. -/
def finishReclaim (t : Nat) : Option World :=
  match w.reclaims[t]? with
  | some (.requeued candidate replacement rest) =>
    let w := { w with queue := w.queue.applyReclaim candidate replacement }
    some (w.continueReclaim t rest)
  | _ => none

/-- A store command of another part of the server that leaves `agent_jobs` alone, as all do but
`Sweep` (lib.rs, 118-135), which is no step here; no episode has an empty id since
`normalize_episode_request`. -/
def otherCommand (db : Db) : Option World :=
  match w.store with
  | none => none
  | some before =>
    if db.episodes.contains "" then none
    else some { w with store := some { db with agentJobs := before.agentJobs } }

/-- The server stops and starts again: only the database survives. -/
def restart : World := { store := w.store }

def step : Label → Option World
  | .persistJob t poolId job deadlineAtMs now => w.persistJob t poolId job deadlineAtMs now
  | .enqueuePersisted t => w.enqueuePersisted t
  | .enqueue poolId job => some { w with queue := w.queue.enqueue poolId job }
  | .restorePersisted jobId => w.restorePersisted jobId
  | .poll t poolId agentId canAgentRun reserved => w.poll t poolId agentId canAgentRun reserved
  | .execLease t now fails => w.execLease t now fails
  | .finishPoll t => w.finishPoll t
  | .complete t request encoded result => w.complete t request encoded result
  | .execCheck t now fails => w.execCheck sha256Hex t now fails
  | .execLoad t result fails => w.execLoad t result fails
  | .execCommit t now fails => w.execCommit sha256Hex t now fails
  | .finishComplete t => w.finishComplete t
  | .abandon poolId jobId => some { w with queue := w.queue.abandon poolId jobId }
  | .markTerminal jobId cancelled now => w.markTerminal jobId cancelled now
  | .reclaim t stale uuids => w.reclaim t stale uuids
  | .execRequeue t uuid now fails => w.execRequeue t uuid now fails
  | .finishReclaim t => w.finishReclaim t
  | .otherCommand db => w.otherCommand db
  | .restart => some w.restart

/-- A server before its first job, with or without a store. -/
def Initial : Prop :=
  ∃ store : Option Db,
    (∀ db ∈ store, db.agentJobs = ∅ ∧ "" ∉ db.episodes) ∧ w = { store }

end World

/-- The runs of the agent RPCs and of their callers. -/
def system (sha256Hex : Bytes → String) : System World Label where
  init := World.Initial
  step := World.step sha256Hex

end UEnv.AgentJob
