import UEnv.AgentJob.Ownership

/-!
# The queue invariant along runs

Every queued job has an entry of the same run without an agent, and is queued once, along every
run in which a poll whose lease is refused or fails puts back only jobs that still have their
entry, and the callers use a job id for one job at a time. The poll does not look at the entry
itself: a job that is abandoned while the poll waits comes back to the front of its pool.
-/

namespace UEnv.AgentJob

open Proto Persistence Wire Runs Tables

/-- Every queued job has its entry, unleased and under the same run, and is queued once. -/
structure Queue.WellPlaced (q : Queue) : Prop where
  entry : ∀ poolId, ∀ job ∈ q.pendingOf poolId, ∃ entry : InFlightJob,
    q.inFlight[job.jobId]? = some entry ∧ entry.job.jobId = job.jobId ∧
      entry.runId = job.runId ∧ entry.agentId = ""
  once : ∀ poolId (i : Nat) (job : AgentJob) poolId' (i' : Nat) (job' : AgentJob),
    (q.pendingOf poolId)[i]? = some job → (q.pendingOf poolId')[i']? = some job' →
      job.jobId = job'.jobId → poolId = poolId' ∧ i = i'

theorem Queue.Consistent.wellPlaced {q : Queue} (consistent : q.Consistent) : q.WellPlaced where
  entry := by
    intro poolId job member
    obtain ⟨entry, present, _, sameRun, unleased⟩ := consistent.queued poolId job member
    exact ⟨entry, present, consistent.keyed _ entry present, sameRun, unleased⟩
  once := by
    intro poolId i job poolId' i' job' here here' same
    obtain ⟨entry, present, ofPool, _⟩ :=
      consistent.queued poolId job (List.mem_of_getElem? here)
    obtain ⟨entry', present', ofPool', _⟩ :=
      consistent.queued poolId' job' (List.mem_of_getElem? here')
    rw [← same, present] at present'
    cases present'
    obtain rfl : poolId = poolId' := ofPool.symm.trans ofPool'
    have distinct := consistent.nodup poolId
    have bound : i < ((q.pendingOf poolId).map AgentJob.jobId).length := by
      rw [List.length_map]
      exact (List.getElem?_eq_some_iff.mp here).1
    refine ⟨rfl, (List.getElem?_inj bound distinct).mp ?_⟩
    rw [List.getElem?_map, List.getElem?_map, here, here', Option.map_some, Option.map_some, same]

namespace World

/-- In a state without a poll in progress the queue is well placed. -/
def QueueInvariant (w : World) : Prop :=
  (∀ t : Nat, w.polls[t]? = none) → w.queue.WellPlaced

/-- The callers use a job id for one job at a time and abandon a job in its own pool, and a poll
that was not given its lease still finds the entry of the job that it puts back. -/
def Orderly (w : World) : Label → Prop
  | .persistJob _ _ job _ _ =>
    w.Free job.jobId ∧ w.Unproduced job.jobId ∧ w.Untaken job.jobId
  | .enqueue _ job => w.Free job.jobId ∧ w.Unproduced job.jobId ∧ w.Untaken job.jobId
  | .restorePersisted jobId => w.Free jobId ∧ w.Unproduced jobId
  | .abandon poolId jobId => ∀ entry ∈ w.queue.inFlight[jobId]?, entry.poolId = poolId
  | .finishPoll t => ∀ call ∈ w.polls[t]?, call.reply ≠ some .leased →
    (w.queue.inFlight[call.job.jobId]?).isSome
  | _ => True

instance (w : World) (jobId : String) : Decidable (w.Free jobId) :=
  inferInstanceAs (Decidable (w.queue.inFlight[jobId]? = none ∧ (∀ _ _, _) ∧ ∀ _ _, _))

instance (w : World) (jobId : String) : Decidable (w.Unproduced jobId) :=
  inferInstanceAs (Decidable (∀ _ _, _))

instance (w : World) (jobId : String) : Decidable (w.Untaken jobId) :=
  inferInstanceAs (Decidable (∀ _ ∈ w.row jobId, _))

instance (w : World) : (label : Label) → Decidable (w.Orderly label)
  | .persistJob _ _ job _ _ =>
    inferInstanceAs (Decidable (w.Free job.jobId ∧ w.Unproduced job.jobId ∧ w.Untaken job.jobId))
  | .enqueue _ job =>
    inferInstanceAs (Decidable (w.Free job.jobId ∧ w.Unproduced job.jobId ∧ w.Untaken job.jobId))
  | .restorePersisted jobId => inferInstanceAs (Decidable (w.Free jobId ∧ w.Unproduced jobId))
  | .abandon _ jobId =>
    inferInstanceAs (Decidable (∀ _ ∈ w.queue.inFlight[jobId]?, _))
  | .finishPoll t => inferInstanceAs (Decidable (∀ _ ∈ w.polls[t]?, _ → _))
  | .enqueuePersisted _ | .poll .. | .execLease .. | .complete .. | .execCheck .. | .execLoad ..
  | .execCommit .. | .finishComplete _ | .markTerminal .. | .reclaim .. | .execRequeue ..
  | .finishReclaim _ | .otherCommand _ | .restart => .isTrue trivial

namespace Invariant

variable {w v : World} {sha256Hex : Bytes → String}

variable {poolId jobId : String} {t : Nat} {now : Millis} {fails : Bool}
  {request : AgentJobCompleteRequest} {encoded : Bytes} {result : EpisodeResult} {db : Db}
  {stale : String → Bool}

attribute [local simp] World.restart

section

variable (inv : w.Invariant)
include inv

theorem enqueueFree {job : AgentJob} (free : w.Free job.jobId) (unproduced : w.Unproduced job.jobId)
    (leasedAgentId : Option String) (untaken : leasedAgentId.getD "" ≠ "" ∨ w.Untaken job.jobId) :
    ({ w with queue := w.queue.restorePersisted poolId job leasedAgentId } : World).Invariant := by
  refine inv.setQueue (inv.queue.restorePersisted free.1 leasedAgentId)
    (fun id other => Queue.Retains.restorePersisted leasedAgentId other) free.2.1 unproduced ?_ ?_
  · intro t call running c listed same
    exact absurd same (free.2.2 t call running c listed)
  · rcases untaken with leased | untaken
    · left
      intro p job' member
      rw [Queue.pendingOf_restorePersisted, if_neg (fun both => leased both.1)] at member
      exact inv.queue.unqueued_of_missing free.1 p job' member
    · exact Or.inr untaken

theorem persistJob {job : AgentJob} {deadlineAtMs : Millis}
    (fresh : w.Free job.jobId ∧ w.Unproduced job.jobId ∧ w.Untaken job.jobId)
    (taken : w.persistJob t poolId job deadlineAtMs now = some v) : v.Invariant := by
  obtain ⟨free, unproduced, untaken⟩ := fresh
  obtain rfl | ⟨db, db', store, ran, rfl⟩ := persistJob_cases taken
  · exact inv
  · obtain ⟨row, ofJob, pending, agent, _, changed⟩ := Db.enqueueAgentJob_agentJobs ran
    have kept : ({ w with store := some db' } : World).Invariant ∧
        ({ w with store := some db' } : World).Untaken job.jobId := by
      by_cases known : job.jobId ∈ db.agentJobs
      · have same : db'.agentJobs = db.agentJobs := by
          rw [changed]
          apply Std.ExtTreeMap.ext_getElem?
          intro id
          rw [lookup_insertIfNew, if_neg (fun both => both.2 known)]
        refine ⟨inv.sameRows store same, ?_⟩
        intro row' present
        refine untaken row' ?_
        rw [Option.mem_def, row_some rfl, same] at present
        rw [Option.mem_def, row_some store]
        exact present
      · have inserted : db'.agentJobs = db.agentJobs.insert job.jobId row := by
          rw [changed]
          apply Std.ExtTreeMap.ext_getElem?
          intro id
          rw [lookup_insertIfNew, lookup_insert]
          simp only [known, not_false_eq_true, and_true]
        have open_ : ¬ row.Taken := by
          intro isTaken
          rcases isTaken with leased | completed
          · rw [pending] at leased
            cases leased
          · rw [pending] at completed
            cases completed
        have absent : db.agentJobs[job.jobId]? = none := by
          rw [← Option.not_isSome_iff_eq_none, ← Std.ExtTreeMap.mem_iff_isSome_getElem?]
          exact known
        refine ⟨inv.setRow store inserted (by rw [ofJob]) ?_ ?_ (fun isTaken =>
          absurd isTaken open_), ?_⟩
        · intro leased
          exact absurd (Or.inl leased) open_
        · intro old present
          rw [absent] at present
          cases present
        · intro row' present
          rw [Option.mem_def, row_some rfl, inserted, lookup_insert, if_pos rfl] at present
          cases present
          exact open_
    exact kept.1.addProducer (t := t) free kept.2 unproduced

theorem enqueuePersisted (taken : w.enqueuePersisted t = some v) : v.Invariant := by
  obtain ⟨producer, running, rfl⟩ := Option.map_eq_some_iff.mp taken
  obtain ⟨free, untaken⟩ := inv.produced t producer running
  have unproduced : ({ w with producers := w.producers.erase t } : World).Unproduced
      producer.job.jobId := by
    intro t' producer' running' same
    have running₀ := lookup_of_erase running'
    obtain rfl := inv.producedOnce t' producer' t producer running₀ running same
    simp at running'
  exact (inv.dropProducer t).enqueueFree free unproduced none (Or.inr untaken)

theorem restorePersisted (fresh : w.Free jobId ∧ w.Unproduced jobId)
    (taken : w.restorePersisted jobId = some v) : v.Invariant := by
  obtain ⟨row, leasedAgentId, stored, phase, rfl⟩ := restorePersisted_cases taken
  obtain ⟨keyed, agent⟩ := inv.rows jobId row stored
  have free : w.Free row.job.jobId := by rw [keyed]; exact fresh.1
  have unproduced : w.Unproduced row.job.jobId := by rw [keyed]; exact fresh.2
  refine inv.enqueueFree free unproduced leasedAgentId ?_
  rcases phase with ⟨phase, rfl⟩ | ⟨phase, rfl⟩
  · refine Or.inr ?_
    intro row' present'
    rw [Option.mem_def, keyed, stored] at present'
    cases present'
    rintro (leased | completed)
    · rw [phase] at leased
      cases leased
    · rw [phase] at completed
      cases completed
  · exact Or.inl (agent phase)

theorem assignJob (agentId : String) (unqueued : w.queue.Unqueued jobId)
    (unheld : ∀ (t : Nat) (call : PollCall), w.polls[t]? = some call → call.job.jobId ≠ jobId)
    (unproduced : w.Unproduced jobId)
    (unleased : ∀ entry, w.queue.inFlight[jobId]? = some entry → entry.agentId = "") :
    ({ w with queue := (w.queue.assign jobId agentId).getD w.queue } : World).Invariant := by
  refine inv.setQueue (inv.queue.assign unqueued) (fun id other => Queue.Retains.assign other)
    unheld unproduced ?_ ?_
  · intro t call running c candidate same
    exact (inv.tracked t call running c candidate).assign unleased same
  · left
    intro p job member same
    rw [Queue.pendingOf_assign] at member
    exact unqueued p job member same

theorem poll {agentId : String} {canAgentRun : AgentJob → Bool} {reserved : Bool}
    (taken : w.poll t poolId agentId canAgentRun reserved = some v) : v.Invariant := by
  obtain rfl | ⟨job, queue, named, popped, ended⟩ := poll_cases taken
  · exact inv
  · obtain ⟨consistent, unqueued, entries, listed, member⟩ := inv.queue.pop popped
    obtain ⟨entry, present, ofPool, sameRun, unleased⟩ := inv.queue.queued poolId job member
    have shrunk : ({ w with queue } : World).Invariant := by
      refine inv.shrinkQueue consistent ?_
      intro id
      refine ⟨?_, fun p _ member _ => (listed p).subset member⟩
      intro entry present
      rw [← entries]
      exact present
    have unheld : ∀ (t : Nat) (call : PollCall), w.polls[t]? = some call →
        call.job.jobId ≠ job.jobId := by
      intro t call polling same
      exact (inv.held t call polling).unqueued poolId job member same.symm
    have unproduced : w.Unproduced job.jobId := by
      intro t producer running same
      have missing := (inv.produced t producer running).1.1
      rw [same, present] at missing
      cases missing
    have free : ∀ entry : InFlightJob, queue.inFlight[job.jobId]? = some entry →
        entry.poolId = poolId ∧ entry.runId = job.runId ∧ entry.agentId = "" := by
      intro entry' present'
      rw [entries, present] at present'
      cases present'
      exact ⟨ofPool, sameRun, unleased⟩
    rcases ended with ⟨_, rfl⟩ | ⟨_, rfl⟩
    · exact shrunk.assignJob agentId unqueued unheld unproduced fun entry present =>
        (free entry present).2.2
    · have untaken : w.Untaken job.jobId := by
        intro row present' isTaken
        exact (inv.taken _ row present' isTaken).1 poolId job member rfl
      exact shrunk.addPoll (t := t) ⟨unqueued, free, named⟩ unheld unproduced untaken

theorem execLease (taken : w.execLease t now fails = some v) : v.Invariant := by
  obtain ⟨call, db, polling, store, unknown, rfl | ⟨rfl, _⟩ | ⟨row, present, pending, _, rfl⟩⟩ :=
    execLease_cases taken
  · exact inv.setReply polling unknown .failed
  · exact inv.setReply polling unknown .refused
  · refine (inv.setReply polling unknown .leased).setRow store rfl ?_
      (fun _ => (inv.held t call polling).agent) ?_ ?_
    · exact (inv.rows _ row (by rw [row_some store]; exact present)).1
    · intro old present' completed
      rw [present] at present'
      cases present'
      rw [pending] at completed
      cases completed
    · intro _
      refine Or.inr ⟨t, { call with reply := some .leased }, ?_, rfl, rfl⟩
      exact Std.ExtTreeMap.getElem?_insert_self

theorem putBack {call : PollCall} (polling : w.polls[t]? = some call)
    (kept : (w.queue.inFlight[call.job.jobId]?).isSome) (unknown : call.reply ≠ some .leased) :
    ({ w with
      polls := w.polls.erase t
      queue := w.queue.pushFront call.poolId call.job } : World).Invariant := by
  have held := inv.held t call polling
  refine (inv.dropPoll t).setQueue (q := w.queue.pushFront call.poolId call.job)
    (inv.queue.pushFront held kept)
    (fun id other => Queue.Retains.pushFront other) ?_ ?_ ?_ ?_
  · intro t' call' polling' same
    obtain rfl := inv.once t' call' t call (lookup_of_erase polling') polling same
    simp at polling'
  · intro t' producer running same
    exact (inv.produced t' producer running).1.2.1 t call polling same.symm
  · intro t' reclaim running c candidate same
    have tracked := inv.tracked t' reclaim running c candidate
    refine ⟨⟨tracked.keyed, tracked.agent, tracked.entry⟩, ?_⟩
    intro entry present matched
    have unleased := (held.entry entry present).2.2
    exact tracked.agent (matched.1.symm.trans unleased)
  · right
    intro row present isTaken
    exact unknown ((inv.taken _ row present isTaken).2 t call polling rfl)

theorem finishPoll (orderly : w.Orderly (.finishPoll t)) (taken : w.finishPoll t = some v) :
    v.Invariant := by
  obtain ⟨call, answer, polling, reply, ⟨rfl, rfl⟩ | ⟨refused, rfl⟩⟩ := finishPoll_cases taken
  · have held := inv.held t call polling
    refine (inv.dropPoll t).assignJob _ held.unqueued ?_ ?_ fun entry present =>
      (held.entry entry present).2.2
    · intro t' call' polling' same
      obtain rfl := inv.once t' call' t call (lookup_of_erase polling') polling same
      simp at polling'
    · intro t' producer running same
      exact (inv.produced t' producer running).1.2.1 t call polling same.symm
  · have unleased : call.reply ≠ some .leased := fun leased =>
      refused (Option.some.inj (reply.symm.trans leased))
    exact inv.putBack polling (orderly call (Option.mem_def.mpr polling) unleased) unleased

theorem finishJob (unqueued : w.queue.Unqueued jobId) (completion : Completion) :
    ({ w with queue := w.queue.finishJob jobId completion } : World).Invariant := by
  refine inv.shrinkQueue (inv.queue.finishJob unqueued completion) ?_
  refine Queue.Retains.of_removed (fun id => Queue.lookup_finishJob completion id) ?_
  intro p
  rw [Queue.pendingOf_finishJob]

theorem insertComplete (t : Nat) (call : CompleteCall)
    (open_ : ∀ request result, call ≠ .committed request result) :
    ({ w with completes := w.completes.insert t call } : World).Invariant := by
  refine inv.setCompletes ?_
  intro t' request result running
  rcases lookup_insert_cases running with ⟨_, same⟩ | before
  · exact absurd same.symm (open_ request result)
  · exact inv.committed t' request result before

theorem dropComplete (t : Nat) :
    ({ w with completes := w.completes.erase t } : World).Invariant := by
  refine inv.setCompletes ?_
  intro t' request result running
  exact inv.committed t' request result (lookup_of_erase running)

theorem complete (taken : w.complete t request encoded result = some v) : v.Invariant := by
  obtain rfl | ⟨_, ⟨_, _, rfl⟩ | ⟨entry, present, _, agent, _, ended⟩⟩ := complete_cases taken
  · exact inv
  · exact inv.insertComplete t (.checking request encoded) (fun _ _ same => by cases same)
  · rcases ended with ⟨_, rfl⟩ | ⟨_, rfl⟩
    · exact inv.finishJob (inv.queue.unqueued_of_leased present agent)
        { complete := request, result }
    · exact inv.insertComplete t (.loading request encoded entry.job.episodeId)
        (fun _ _ same => by cases same)

theorem commitAgentCompletion {db' : Db} (store : w.store = some db)
    {decision : IdempotencyDecision}
    (answered : db.commitAgentCompletion sha256Hex now request encoded result =
      .ok (decision, db')) :
    ({ w with store := some db' } : World).Invariant ∧ ∀ record, decision = .replay record →
      ∃ row, db'.agentJobs[request.jobId]? = some row ∧ row.phase = .completed := by
  rcases Db.commitAgentCompletion_cases answered with
    ⟨same, replayed⟩ | ⟨row, closed, present, leased, _, _, _, _, committed⟩
  · refine ⟨inv.sameRows store (congrArg Db.agentJobs same), ?_⟩
    rw [same]
    exact replayed
  · have stored : w.row request.jobId = some row := by rw [row_some store, present]
    have changed := congrArg Db.agentJobs committed
    refine ⟨inv.setRow store changed ?_ ?_ ?_ ?_, ?_⟩
    · exact (inv.rows _ row stored).1
    · intro impossible
      cases impossible
    · intro _ _ _
      rfl
    · intro _
      exact Or.inl ⟨row, present, Or.inl leased⟩
    · intro _ _
      rw [changed, lookup_insert, if_pos rfl]
      exact ⟨_, rfl, rfl⟩

theorem execCheck (taken : w.execCheck sha256Hex t now fails = some v) : v.Invariant := by
  obtain ⟨request, encoded, db, _, store, rfl | ⟨decision, db', answered, rfl⟩⟩ :=
    execCheck_cases taken
  · exact inv.dropComplete t
  · exact ((inv.dropComplete t).commitAgentCompletion store answered).1

theorem execLoad (taken : w.execLoad t result fails = some v) : v.Invariant := by
  obtain ⟨request, encoded, episodeId, _, rfl | rfl⟩ := execLoad_cases taken
  · exact inv.dropComplete t
  · exact inv.insertComplete t _ (fun _ _ same => by cases same)

theorem execCommit (taken : w.execCommit sha256Hex t now fails = some v) : v.Invariant := by
  obtain ⟨request, encoded, result, db, _, store, rfl | ⟨decision, db', answered,
    ⟨⟨record, rfl⟩, rfl⟩ | ⟨_, rfl⟩⟩⟩ := execCommit_cases taken
  · exact inv.dropComplete t
  · obtain ⟨kept, replayed⟩ := inv.commitAgentCompletion store answered
    refine kept.setCompletes ?_
    intro t' request' result' running'
    rcases lookup_insert_cases running' with ⟨_, same⟩ | before
    · cases same
      exact replayed record rfl
    · exact kept.committed t' request' result' before
  · exact ((inv.dropComplete t).commitAgentCompletion store answered).1

theorem finishComplete (taken : w.finishComplete t = some v) : v.Invariant := by
  obtain ⟨request, result, running, rfl⟩ := finishComplete_cases taken
  obtain ⟨row, present, completed⟩ := inv.committed t request result running
  exact (inv.dropComplete t).finishJob (inv.taken _ row present (Or.inr completed)).1
    { complete := request, result }

theorem abandon (ofPool : ∀ entry ∈ w.queue.inFlight[jobId]?, entry.poolId = poolId) :
    ({ w with queue := w.queue.abandon poolId jobId } : World).Invariant :=
  inv.shrinkQueue (inv.queue.abandon ofPool)
    (Queue.Retains.of_removed (fun id => Queue.lookup_abandon id) Queue.pendingOf_abandon_sublist)

theorem markTerminal {cancelled : Bool} (taken : w.markTerminal jobId cancelled now = some v) :
    v.Invariant := by
  unfold World.markTerminal at taken
  obtain ⟨db, store, rfl⟩ := Option.map_eq_some_iff.mp taken
  rcases Db.markAgentJobTerminal_cases db now jobId (if cancelled then .cancelled else .timedOut)
    with same | ⟨row, present, opened, changed⟩
  · rw [same]
    exact inv.sameRows store rfl
  · rw [changed]
    have closes : (if cancelled then JobPhase.cancelled else .timedOut) ≠ .leased ∧
        (if cancelled then JobPhase.cancelled else .timedOut) ≠ .completed := by
      cases cancelled <;> decide
    refine inv.setRow store rfl ?_ (fun leased => absurd leased closes.1) ?_ ?_
    · exact (inv.rows _ row (by rw [row_some store]; exact present)).1
    · intro old present' completed
      rw [present] at present'
      cases present'
      rcases opened with pending | leased
      · rw [pending] at completed
        cases completed
      · rw [leased] at completed
        cases completed
    · rintro (leased | completed)
      · exact absurd leased closes.1
      · exact absurd completed closes.2

theorem reclaimOne {candidate : Queue.Candidate} (tracked : w.queue.Tracked candidate)
    (open_ : ∀ entry : InFlightJob, w.queue.inFlight[candidate.jobId]? = some entry →
      candidate.Matches entry → w.Untaken candidate.jobId) (uuid : String) :
    ({ w with queue := w.queue.applyReclaim candidate (candidate.replacement uuid) } :
      World).Invariant := by
  have consistent := inv.queue.applyReclaim tracked uuid
  rcases Queue.applyReclaim_cases w.queue candidate (candidate.replacement uuid) with
    same | ⟨entry, present, matched, reclaimed⟩
  · rw [same]
    exact inv
  · have leased : entry.agentId ≠ "" := by
      rw [matched.1]
      exact tracked.agent
    refine inv.setQueue consistent
      (fun id other => Queue.Retains.applyReclaim tracked.keyed other) ?_ ?_ ?_
      (Or.inr (open_ entry present matched))
    · intro t call polling here
      exact leased ((inv.held t call polling).entry entry (by rw [here]; exact present)).2.2
    · intro t producer running here
      have missing := (inv.produced t producer running).1.1
      rw [here, present] at missing
      cases missing
    · intro t call running c listed here
      have before := inv.tracked t call running c listed
      refine ⟨before.applyReclaim tracked uuid, ?_⟩
      intro entry' present' matched'
      have earlier := before.earlier_of_requeue present matched here uuid
      rw [reclaimed, Queue.pushBack_inFlight, lookup_insert, if_pos rfl] at present'
      cases present'
      have sameRun : (candidate.replacement uuid).runId = c.runId := matched'.2
      rw [sameRun] at earlier
      exact Nat.lt_irrefl _ earlier

theorem reclaimAll (store : w.store = none) (candidates : List Queue.Candidate)
    (tracked : ∀ c ∈ candidates, w.queue.Tracked c) (uuids : String → String) :
    ({ w with queue := w.queue.reclaimAll candidates uuids } : World).Invariant := by
  induction candidates generalizing w with
  | nil => exact inv
  | cons candidate rest ih =>
    have here := tracked candidate List.mem_cons_self
    have open_ : w.Untaken candidate.jobId := by
      intro row present
      rw [World.row, store] at present
      cases present
    have first := inv.reclaimOne here (fun _ _ _ => open_) (uuids candidate.jobId)
    refine ih first store ?_
    intro c listed
    exact (tracked c (List.mem_cons_of_mem _ listed)).applyReclaim here _

theorem trackedStaleJobs {c : Queue.Candidate} (listed : c ∈ w.queue.staleJobs stale) :
    w.queue.Tracked c := by
  obtain ⟨entry, present, agent, matched, ofPool, ofJob⟩ := Queue.mem_staleJobs listed
  refine ⟨?_, agent, ?_⟩
  · rw [← ofJob]
    exact inv.queue.keyed _ entry present
  · intro entry' present'
    rw [present] at present'
    cases present'
    exact ⟨ofPool, Or.inl matched⟩

theorem reclaim {uuids : String → String} (taken : w.reclaim t stale uuids = some v) :
    v.Invariant := by
  unfold World.reclaim at taken
  split at taken
  · cases taken
  · cases store : w.store with
    | none =>
      simp only [store] at taken
      cases taken
      have reclaimed := inv.reclaimAll store (w.queue.staleJobs stale)
        (fun c listed => inv.trackedStaleJobs listed) uuids
      rw [store] at reclaimed
      exact reclaimed
    | some db =>
      simp only [store] at taken
      cases taken
      cases candidates : w.queue.staleJobs stale with
      | nil =>
        refine inv.setReclaims ?_ ?_
        · intro t' call running c listed
          have before := lookup_of_erase running
          exact ⟨inv.tracked t' call before c listed,
            fun id free => free.2.2 t' call before c listed⟩
        · intro t' c replacement rest running
          exact inv.requeued t' c replacement rest (lookup_of_erase running)
      | cons =>
        refine inv.setReclaims ?_ ?_
        · intro t' call running c listed
          rcases lookup_insert_cases running with ⟨_, rfl⟩ | before
          · have stale : c ∈ w.queue.staleJobs stale := by
              rw [candidates]
              exact listed
            refine ⟨inv.trackedStaleJobs stale, ?_⟩
            intro id free same
            obtain ⟨entry, present, _⟩ := Queue.mem_staleJobs stale
            rw [same, free.1] at present
            cases present
          · exact ⟨inv.tracked t' call before c listed,
              fun id free => free.2.2 t' call before c listed⟩
        · intro t' c replacement rest' running
          rcases lookup_insert_cases running with ⟨_, same⟩ | before
          · cases same
          · exact inv.requeued t' c replacement rest' before

theorem execRequeue {uuid : String} (taken : w.execRequeue t uuid now fails = some v) :
    v.Invariant := by
  obtain ⟨candidate, rest, db, running, store, rfl | ⟨row, present, leased, _, _, rfl⟩⟩ :=
    execRequeue_cases taken
  · exact inv.continueReclaim running fun c listed => List.mem_cons_of_mem _ listed
  · have tracked := inv.tracked t _ running candidate List.mem_cons_self
    have keyed : (candidate.replacement uuid).jobId = candidate.jobId := tracked.keyed
    let db' : Db := { db with
      agentJobs := db.agentJobs.insert (candidate.replacement uuid).jobId { row with
        phase := .pending, agentId := "", runId := (candidate.replacement uuid).runId
        job := candidate.replacement uuid, leasedAtMs := none
        completionChecksum := none, updatedAtMs := now } }
    have changed : db'.agentJobs = db.agentJobs.insert (candidate.replacement uuid).jobId _ := rfl
    have freed := inv.setRow store changed rfl ?_ ?_ ?_
    · refine freed.setReclaims ?_ ?_
      · intro t' call running' c listed
        rcases lookup_insert_cases running' with ⟨_, rfl⟩ | before
        · exact ⟨inv.tracked t _ running c listed, fun id free => free.2.2 t _ running c listed⟩
        · exact ⟨inv.tracked t' call before c listed,
            fun id free => free.2.2 t' call before c listed⟩
      · intro t' c replacement rest' running'
        rcases lookup_insert_cases running' with ⟨_, same⟩ | before
        · cases same
          refine ⟨⟨uuid, rfl⟩, ?_⟩
          intro entry _ _ row' present'
          rw [Option.mem_def, row_some rfl, ← keyed, lookup_insert, if_pos rfl] at present'
          cases present'
          rintro (impossible | impossible) <;> cases impossible
        · exact freed.requeued t' c replacement rest' before
    · intro impossible
      cases impossible
    · intro old present' completed
      rw [present] at present'
      cases present'
      rw [leased] at completed
      cases completed
    · rintro (impossible | impossible) <;> cases impossible

theorem finishReclaim (taken : w.finishReclaim t = some v) : v.Invariant := by
  obtain ⟨candidate, replacement, rest, running, rfl⟩ := finishReclaim_cases taken
  obtain ⟨⟨uuid, rfl⟩, open_⟩ := inv.requeued t candidate replacement rest running
  have tracked := inv.tracked t _ running candidate List.mem_cons_self
  exact (inv.reclaimOne tracked open_ uuid).continueReclaim running
    fun c listed => List.mem_cons_of_mem _ listed

theorem otherCommand (taken : w.otherCommand db = some v) : v.Invariant := by
  obtain ⟨before, store, _, rfl⟩ := otherCommand_cases taken
  exact inv.sameRows store rfl

theorem restart : w.restart.Invariant where
  queue := by
    refine ⟨?_, ?_, ?_⟩
    · intro id entry present
      simp at present
    · intro poolId job member
      simp [Queue.pendingOf] at member
    · intro poolId
      simp [Queue.pendingOf]
  rows := inv.rows
  held := by simp
  once := by simp
  tracked := by simp
  requeued := by simp
  committed := by simp
  taken := by
    intro id row _ _
    exact ⟨by simp [Queue.Unqueued, Queue.pendingOf], by simp⟩
  produced := by simp
  producedOnce := by simp

theorem step {label : Label} (orderly : w.Orderly label) (taken : w.step sha256Hex label = some v) :
    v.Invariant := by
  cases label with
  | persistJob => exact inv.persistJob orderly taken
  | enqueuePersisted t => exact inv.enqueuePersisted taken
  | enqueue =>
    cases taken
    exact inv.enqueueFree orderly.1 orderly.2.1 none (Or.inr orderly.2.2)
  | restorePersisted => exact inv.restorePersisted orderly taken
  | poll => exact inv.poll taken
  | execLease => exact inv.execLease taken
  | finishPoll t => exact inv.finishPoll orderly taken
  | complete => exact inv.complete taken
  | execCheck => exact inv.execCheck taken
  | execLoad => exact inv.execLoad taken
  | execCommit => exact inv.execCommit taken
  | finishComplete t => exact inv.finishComplete taken
  | abandon =>
    cases taken
    exact inv.abandon orderly
  | markTerminal => exact inv.markTerminal taken
  | reclaim => exact inv.reclaim taken
  | execRequeue => exact inv.execRequeue taken
  | finishReclaim t => exact inv.finishReclaim taken
  | otherCommand db => exact inv.otherCommand taken
  | restart =>
    cases taken
    exact inv.restart

end

theorem initial (started : w.Initial) : w.Invariant := by
  obtain ⟨store, empty, rfl⟩ := started
  have norow : ∀ id, ({ store } : World).row id = none := by
    intro id
    cases store with
    | none => rfl
    | some db =>
      rw [row_some rfl, (empty db rfl).1]
      exact Std.ExtTreeMap.getElem?_empty
  have fresh : ({} : World).Invariant := by
    have restarted : ∀ id row, ({} : World).row id = some row → False := by
      intro id row present
      cases present
    exact
      { queue := ⟨by simp, by simp [Queue.pendingOf], by simp [Queue.pendingOf]⟩
        rows := fun id row present => absurd present (restarted id row)
        held := by simp, once := by simp, tracked := by simp, requeued := by simp
        committed := by simp
        taken := fun id row present => absurd present (restarted id row)
        produced := by simp, producedOnce := by simp }
  refine { fresh with rows := ?_, requeued := ?_, committed := ?_, taken := ?_, produced := ?_ }
  · intro id row present
    rw [norow] at present
    cases present
  · simp
  · simp
  · intro id row present
    rw [norow] at present
    cases present
  · simp

end Invariant

variable {sha256Hex : Bytes → String} {w : World}

theorem invariant_of_orderly_run (reached : ReachableWhen (system sha256Hex) Orderly w) :
    w.Invariant := by
  refine reached.invariant ?_ ?_
  · intro s started
    exact Invariant.initial started
  · intro s label t _ inv orderly taken
    exact inv.step orderly taken

/-- Along every orderly run the queue is well placed whenever no poll is in progress. -/
theorem queue_invariant_along_orderly_runs
    (reached : ReachableWhen (system sha256Hex) Orderly w) : w.QueueInvariant :=
  fun _ => (invariant_of_orderly_run reached).queue.wellPlaced

/-- A database with one queued episode. -/
def oneEpisode : Db :=
  let row : EpisodeRow :=
    { request := { episodeId := "e1" }, requestChecksum := "", submissionKind := "single"
      phase := .queued, attemptId := 0, deadlineAtMs := 60000, result := none
      resultChecksum := none, terminalCode := none, terminalMessage := none
      createdAtMs := 0, updatedAtMs := 0 }
  { episodes := (∅ : Table EpisodeRow).insert "e1" row }

theorem initial_oneEpisode : ({ store := some oneEpisode } : World).Initial := by
  refine ⟨some oneEpisode, ?_, rfl⟩
  intro db same
  cases same
  exact ⟨rfl, by decide⟩

/-- The job of that episode. -/
def oneJob : AgentJob := { jobId := "job-e1", runId := "run-1", episodeId := "e1" }

/-- A lease, its reclaim from a lost agent, and a second poll whose lease command fails. -/
theorem queue_invariant_reclaimed_put_back : ∃ w, ReachableWhen (system fun _ => "") Orderly w ∧
      (w.queue.pendingOf "pool").map AgentJob.runId = ["run-1:reclaim:u1"] ∧ w.QueueInvariant := by
  let start : World := { store := some oneEpisode }
  let schedule : List Label :=
    [.persistJob 0 "pool" oneJob 60000 1, .enqueuePersisted 0,
      .poll 0 "pool" "a1" (fun _ => true) true, .execLease 0 2 false, .finishPoll 0,
      .reclaim 0 (fun agentId => agentId == "a1") (fun _ => ""), .execRequeue 0 "u1" 3 false,
      .finishReclaim 0, .poll 1 "pool" "a2" (fun _ => true) true, .execLease 1 4 true,
      .finishPoll 1]
  have ran : ((system fun _ => "").exec start schedule).isSome := by decide
  obtain ⟨w, ran⟩ := Option.isSome_iff_exists.mp ran
  have along : (system fun _ => "").Along Orderly start schedule := by decide
  have reached : ReachableWhen (system fun _ => "") Orderly w :=
    .of_exec (.start initial_oneEpisode) schedule along ran
  have queued : ((system fun _ => "").exec start schedule).map (fun w =>
      (w.queue.pendingOf "pool").map AgentJob.runId) = some ["run-1:reclaim:u1"] := by decide
  rw [ran] at queued
  exact ⟨w, reached, Option.some.inj queued, queue_invariant_along_orderly_runs reached⟩

/-- The episode is cancelled while a poll waits for the lease of its job: the job is abandoned
and its row closed, the lease is refused, and the poll puts the job back without an entry. -/
theorem queue_invariant_fails_after_abandon :
    ¬ ∀ sha256Hex w, Reachable (system sha256Hex) w → w.QueueInvariant := by
  intro always
  let start : World := { store := some oneEpisode }
  let schedule : List Label :=
    [.persistJob 0 "pool" oneJob 60000 1, .enqueuePersisted 0,
      .poll 0 "pool" "a1" (fun _ => true) true, .abandon "pool" "job-e1",
      .markTerminal "job-e1" true 2, .execLease 0 3 false, .finishPoll 0]
  have ran : ((system fun _ => "").exec start schedule).isSome := by decide
  obtain ⟨w, ran⟩ := Option.isSome_iff_exists.mp ran
  have reached : Reachable (system fun _ => "") w := 
    Reachable.of_exec initial_oneEpisode schedule ran
  have ends : ((system fun _ => "").exec start schedule).map (fun w =>
      (w.polls.isEmpty, w.queue.pendingOf "pool", w.queue.inFlight["job-e1"]?.isNone)) =
        some (true, [oneJob], true) := by decide
  rw [ran] at ends
  obtain ⟨idle, rest⟩ := Prod.mk.inj (Option.some.inj ends)
  obtain ⟨queued, missing⟩ := Prod.mk.inj rest
  have noPoll : ∀ t : Nat, w.polls[t]? = none := by
    intro t
    rw [Std.ExtTreeMap.isEmpty_iff.mp idle]
    exact Std.ExtTreeMap.getElem?_empty
  obtain ⟨entry, present, _⟩ := (always _ w reached noPoll).entry "pool" oneJob (by
    rw [queued]
    exact List.mem_cons_self)
  have gone : w.queue.inFlight["job-e1"]? = none := Option.isNone_iff_eq_none.mp missing
  rw [show oneJob.jobId = "job-e1" from rfl, gone] at present
  cases present

end World

end UEnv.AgentJob
