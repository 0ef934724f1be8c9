import UEnv.AgentJob.Invariant
import UEnv.Persistence.JobRows

/-!
# Every job is in one place

A job is queued, held by one poll, leased by an agent, or gone; the two maps, the calls that wait
for the store and the row agree on it. Every step keeps this, unless a poll puts a job back that
was abandoned while the poll waited for its lease.
-/

namespace UEnv.AgentJob

open Proto Persistence Wire Runs Tables

/-- The candidates that a reclaim has not finished with. -/
def ReclaimCall.candidates : ReclaimCall → List Queue.Candidate
  | .requeueing candidate rest => candidate :: rest
  | .requeued candidate _ rest => candidate :: rest

namespace World

/-- The row of a job. -/
def row (w : World) (jobId : String) : Option AgentJobRow :=
  w.store.bind fun db => db.agentJobs[jobId]?

/-- No entry, poll or reclaim knows the job. -/
def Free (w : World) (jobId : String) : Prop :=
  w.queue.inFlight[jobId]? = none ∧
  (∀ (t : Nat) (call : PollCall), w.polls[t]? = some call → call.job.jobId ≠ jobId) ∧
  ∀ (t : Nat) (call : ReclaimCall), w.reclaims[t]? = some call → ∀ c ∈ call.candidates,
    c.jobId ≠ jobId

/-- No producer has persisted the job and not queued it yet. -/
def Unproduced (w : World) (jobId : String) : Prop :=
  ∀ (t : Nat) (producer : Producer), w.producers[t]? = some producer →
    producer.job.jobId ≠ jobId

/-- No agent holds or has completed the row. -/
def Untaken (w : World) (jobId : String) : Prop := ∀ row ∈ w.row jobId, ¬ row.Taken

structure Invariant (w : World) : Prop where
  queue : w.queue.Consistent
  rows : ∀ id row, w.row id = some row →
    row.job.jobId = id ∧ (row.phase = .leased → row.agentId ≠ "")
  held : ∀ (t : Nat) (call : PollCall), w.polls[t]? = some call → w.queue.Held call
  once : ∀ (t : Nat) (call : PollCall) (t' : Nat) (call' : PollCall), w.polls[t]? = some call →
    w.polls[t']? = some call' → call.job.jobId = call'.job.jobId → t = t'
  tracked : ∀ (t : Nat) (call : ReclaimCall), w.reclaims[t]? = some call → ∀ c ∈ call.candidates,
    w.queue.Tracked c
  /-- A requeue of the store stays open until the maps follow it. -/
  requeued : ∀ (t : Nat) c replacement rest,
    w.reclaims[t]? = some (ReclaimCall.requeued c replacement rest) →
    (∃ uuid, replacement = c.replacement uuid) ∧
    ∀ entry : InFlightJob, w.queue.inFlight[c.jobId]? = some entry → c.Matches entry →
      w.Untaken c.jobId
  committed : ∀ (t : Nat) request result,
    w.completes[t]? = some (CompleteCall.committed request result) →
    ∃ row, w.row request.jobId = some row ∧ row.phase = .completed
  /-- A job whose row is taken is not queued, and a poll that holds it knows its lease. -/
  taken : ∀ id row, w.row id = some row → row.Taken → w.queue.Unqueued id ∧
    ∀ (t : Nat) (call : PollCall), w.polls[t]? = some call → call.job.jobId = id →
      call.reply = some .leased
  produced : ∀ (t : Nat) (producer : Producer), w.producers[t]? = some producer →
    w.Free producer.job.jobId ∧ w.Untaken producer.job.jobId
  producedOnce : ∀ (t : Nat) (producer : Producer) (t' : Nat) (producer' : Producer),
    w.producers[t]? = some producer → w.producers[t']? = some producer' →
    producer.job.jobId = producer'.job.jobId → t = t'

variable {w : World} {q : Queue} {db db' : Db} {jobId : String}

@[simp]
theorem row_some (store : w.store = some db) (id : String) : w.row id = db.agentJobs[id]? := by
  rw [row, store]
  rfl

/-! ### What a step does -/

variable {w' : World} {sha256Hex : Bytes → String} {t : Nat} {now : Millis} {fails : Bool}
  {result : EpisodeResult}

theorem persistJob_cases {poolId : String} {job : AgentJob} {deadlineAtMs : Millis}
    (taken : w.persistJob t poolId job deadlineAtMs now = some w') :
    w' = w ∨ ∃ db db', w.store = some db ∧
      db.enqueueAgentJob now poolId job deadlineAtMs = .ok db' ∧
      w' = { w with store := some db', producers := w.producers.insert t { poolId, job } } := by
  unfold persistJob at taken
  split at taken
  · cases taken
  · split at taken
    · cases taken
    · split at taken
      · cases taken
        exact .inl rfl
      · cases taken
        exact .inr ⟨_, _, ‹_›, ‹_›, rfl⟩

/-- A job is restored from its row if that is pending or leased, under its agent if it has one. -/
theorem restorePersisted_cases (taken : w.restorePersisted jobId = some w') :
    ∃ row leasedAgentId, w.row jobId = some row ∧
      (row.phase = .pending ∧ leasedAgentId = none ∨
        row.phase = .leased ∧ leasedAgentId = some row.agentId) ∧
      w' = { w with queue := w.queue.restorePersisted row.poolId row.job leasedAgentId } := by
  unfold restorePersisted at taken
  split at taken
  · cases taken
  · next db store =>
    split at taken
    · cases taken
    · next row present =>
      have stored : w.row jobId = some row := by rw [row_some store, present]
      split at taken
      · cases taken
        exact ⟨row, none, stored, .inl ⟨‹_›, rfl⟩, rfl⟩
      · cases taken
        exact ⟨row, _, stored, .inr ⟨‹_›, rfl⟩, rfl⟩
      · cases taken

/-- A poll finds no job, or it takes one from the queue, over to its agent without a store. -/
theorem poll_cases {poolId agentId : String} {canAgentRun : AgentJob → Bool} {reserved : Bool}
    (taken : w.poll t poolId agentId canAgentRun reserved = some w') :
    w' = w ∨ ∃ job queue, agentId ≠ "" ∧
      w.queue.pop poolId canAgentRun reserved = some (job, queue) ∧
      (w.store = none ∧ w' = { w with queue := (queue.assign job.jobId agentId).getD queue } ∨
      w.store.isSome ∧ w' = { w with
        queue, polls := w.polls.insert t { poolId, agentId, job, reply := none } }) := by
  unfold poll at taken
  split at taken
  · cases taken
  · split at taken
    · cases taken
      exact .inl rfl
    · next named =>
      rw [String.isEmpty_iff] at named
      split at taken
      · cases taken
        exact .inl rfl
      · next job queue popped =>
        refine .inr ⟨job, queue, named, popped, ?_⟩
        split at taken
        · next store =>
          cases taken
          exact .inl ⟨store, rfl⟩
        · next store =>
          cases taken
          exact .inr ⟨by rw [store]; rfl, rfl⟩

/-- The store fails, refuses a lease of a row that is not pending under this run, or leases it. -/
theorem execLease_cases (taken : w.execLease t now fails = some w') :
    ∃ call db, w.polls[t]? = some call ∧ w.store = some db ∧ call.reply = none ∧
      (w' = { w with polls := w.polls.insert t { call with reply := some .failed } } ∨
      w' = { w with polls := w.polls.insert t { call with reply := some .refused } } ∧
        (∀ row, db.agentJobs[call.job.jobId]? = some row →
          ¬ (row.phase = .pending ∧ row.runId = call.job.runId)) ∨
      ∃ row, db.agentJobs[call.job.jobId]? = some row ∧ row.phase = .pending ∧
        row.runId = call.job.runId ∧
        w' = { w with
          store := some { db with agentJobs := db.agentJobs.insert call.job.jobId { row with
            phase := .leased, agentId := call.agentId, leasedAtMs := some now
            updatedAtMs := now } }
          polls := w.polls.insert t { call with reply := some .leased } }) := by
  unfold execLease at taken
  split at taken
  · next call db polling store =>
    split at taken
    · cases taken
    · next waiting =>
      refine ⟨call, db, polling, store, by simpa using waiting, ?_⟩
      split at taken
      · cases taken
        exact .inl rfl
      · rcases Db.leaseAgentJob_cases db now call.job.jobId call.agentId call.job.runId with
          ⟨refused, closed⟩ | ⟨row, present, phase, run, leased⟩
        · rw [refused] at taken
          cases taken
          exact .inr (.inl ⟨by simp [store], closed⟩)
        · rw [leased] at taken
          cases taken
          exact .inr (.inr ⟨row, present, phase, run, rfl⟩)
  · cases taken

theorem finishPoll_cases (taken : w.finishPoll t = some w') :
    ∃ call answer, w.polls[t]? = some call ∧ call.reply = some answer ∧
      (answer = .leased ∧ w' = { w with
        polls := w.polls.erase t
        queue := (w.queue.assign call.job.jobId call.agentId).getD w.queue } ∨
      answer ≠ .leased ∧ w' = { w with
        polls := w.polls.erase t, queue := w.queue.pushFront call.poolId call.job }) := by
  unfold finishPoll at taken
  split at taken
  · cases taken
  · next call polling =>
    dsimp only at taken
    split at taken
    · cases taken
    · next reply =>
      cases taken
      exact ⟨call, _, polling, reply, .inl ⟨rfl, rfl⟩⟩
    · next reply =>
      cases taken
      exact ⟨call, _, polling, reply, .inr ⟨nofun, rfl⟩⟩
    · next reply =>
      cases taken
      exact ⟨call, _, polling, reply, .inr ⟨nofun, rfl⟩⟩

/-- A completion changes nothing, or it has the store check an unknown job, or it matches the
lease: the job is then finished at once without a store, and with one goes on there. -/
theorem complete_cases {request : AgentJobCompleteRequest} {encoded : Bytes}
    (taken : w.complete t request encoded result = some w') :
    w' = w ∨ ¬ w.completes.contains t ∧ (w.queue.inFlight[request.jobId]? = none ∧
      w.store.isSome ∧
        w' = { w with completes := w.completes.insert t (.checking request encoded) } ∨
      ∃ entry, w.queue.inFlight[request.jobId]? = some entry ∧ entry.runId = request.runId ∧
        entry.agentId ≠ "" ∧ entry.agentId = request.agentId ∧ (w.store = none ∧
          w' = { w with
            queue := w.queue.finishJob request.jobId { complete := request, result } } ∨
          w.store.isSome ∧ w' = { w with
            completes :=
              w.completes.insert t (.loading request encoded entry.job.episodeId) })) := by
  unfold complete at taken
  split at taken
  · cases taken
  · next idle =>
    split at taken
    · next missing =>
      split at taken
      · cases taken
        exact .inl rfl
      · next store =>
        cases taken
        exact .inr ⟨idle, .inl ⟨missing, by rw [store]; rfl, rfl⟩⟩
    · next entry present =>
      split at taken
      · cases taken
        exact .inl rfl
      · next matching =>
        simp only [not_or, String.isEmpty_iff, not_not] at matching
        obtain ⟨sameRun, agent, sameAgent⟩ := matching
        refine .inr ⟨idle, .inr ⟨entry, present, sameRun, agent, sameAgent, ?_⟩⟩
        split at taken
        · next store =>
          cases taken
          exact .inl ⟨store, rfl⟩
        · next store =>
          cases taken
          exact .inr ⟨by rw [store]; rfl, rfl⟩

theorem execCheck_cases (taken : w.execCheck sha256Hex t now fails = some w') :
    ∃ request encoded db, w.completes[t]? = some (.checking request encoded) ∧
      w.store = some db ∧ (w' = { w with completes := w.completes.erase t } ∨
      ∃ decision db', db.commitAgentCompletion sha256Hex now request encoded {} =
        .ok (decision, db') ∧
        w' = { w with store := some db', completes := w.completes.erase t }) := by
  unfold execCheck at taken
  split at taken
  · next request encoded db checking store =>
    refine ⟨request, encoded, db, checking, store, ?_⟩
    dsimp only at taken
    split at taken
    · cases taken
      exact .inl rfl
    · split at taken
      · cases taken
        exact .inl rfl
      · cases taken
        exact .inr ⟨_, _, ‹_›, rfl⟩
  · cases taken

theorem execLoad_cases (taken : w.execLoad t result fails = some w') :
    ∃ request encoded episodeId,
      w.completes[t]? = some (.loading request encoded episodeId) ∧
      (w' = { w with completes := w.completes.erase t } ∨
      w' = { w with
        completes := w.completes.insert t (.committing request encoded result) }) := by
  unfold execLoad at taken
  split at taken
  · refine ⟨_, _, _, ‹_›, ?_⟩
    split at taken
    · cases taken
      exact .inl rfl
    · cases taken
      exact .inr rfl
  · cases taken

/-- A commit fails, or it ends the call unless it is answered as a replay. -/
theorem execCommit_cases (taken : w.execCommit sha256Hex t now fails = some w') :
    ∃ request encoded result db, w.completes[t]? = some (.committing request encoded result) ∧
      w.store = some db ∧ (w' = { w with completes := w.completes.erase t } ∨
      ∃ decision db', db.commitAgentCompletion sha256Hex now request encoded result =
        .ok (decision, db') ∧
        ((∃ record, decision = .replay record) ∧ w' = { w with
          store := some db', completes := w.completes.insert t (.committed request result) } ∨
        (∀ record, decision ≠ .replay record) ∧
          w' = { w with store := some db', completes := w.completes.erase t })) := by
  unfold execCommit at taken
  split at taken
  · next request encoded result db committing store =>
    refine ⟨request, encoded, result, db, committing, store, ?_⟩
    dsimp only at taken
    split at taken
    · cases taken
      exact .inl rfl
    · split at taken
      · cases taken
        exact .inl rfl
      · next record db' answered =>
        cases taken
        exact .inr ⟨_, _, answered, .inl ⟨⟨record, rfl⟩, rfl⟩⟩
      · next decision db' other answered =>
        cases taken
        exact .inr ⟨_, _, answered, .inr ⟨other, rfl⟩⟩
  · cases taken

theorem finishComplete_cases (taken : w.finishComplete t = some w') :
    ∃ request result, w.completes[t]? = some (.committed request result) ∧ w' = { w with
      queue := w.queue.finishJob request.jobId { complete := request, result }
      completes := w.completes.erase t } := by
  unfold finishComplete at taken
  split at taken
  · cases taken
    exact ⟨_, _, ‹_›, rfl⟩
  · cases taken

/-- The store fails or refuses, or it requeues a row that is leased as the candidate says. -/
theorem execRequeue_cases {uuid : String} (taken : w.execRequeue t uuid now fails = some w') :
    ∃ candidate rest db, w.reclaims[t]? = some (.requeueing candidate rest) ∧
      w.store = some db ∧ (w' = w.continueReclaim t rest ∨
      ∃ row, db.agentJobs[(candidate.replacement uuid).jobId]? = some row ∧
        row.phase = .leased ∧ row.agentId = candidate.agentId ∧ row.runId = candidate.runId ∧
        w' = { w with
          store := some { db with
            agentJobs := db.agentJobs.insert (candidate.replacement uuid).jobId { row with
              phase := .pending, agentId := "", runId := (candidate.replacement uuid).runId
              job := candidate.replacement uuid, leasedAtMs := none
              completionChecksum := none, updatedAtMs := now } }
          reclaims := w.reclaims.insert t
            (.requeued candidate (candidate.replacement uuid) rest) }) := by
  unfold execRequeue at taken
  split at taken
  · next candidate rest db running store =>
    refine ⟨candidate, rest, db, running, store, ?_⟩
    dsimp only at taken
    split at taken
    · cases taken
      exact .inl rfl
    · rcases Db.requeueAgentJob_cases db now (candidate.replacement uuid) candidate.agentId
          candidate.runId with refused | ⟨row, present, phase, agent, run, requeued⟩
      · rw [refused] at taken
        cases taken
        exact .inl (by simp [← store])
      · rw [requeued] at taken
        cases taken
        exact .inr ⟨row, present, phase, agent, run, rfl⟩
  · cases taken

theorem finishReclaim_cases (taken : w.finishReclaim t = some w') :
    ∃ candidate replacement rest, w.reclaims[t]? = some (.requeued candidate replacement rest) ∧
      w' = { w with queue := w.queue.applyReclaim candidate replacement }.continueReclaim t
        rest := by
  unfold finishReclaim at taken
  split at taken
  · cases taken
    exact ⟨_, _, _, ‹_›, rfl⟩
  · cases taken

theorem otherCommand_cases {db : Db} (taken : w.otherCommand db = some w') :
    ∃ before, w.store = some before ∧ "" ∉ db.episodes ∧
      w' = { w with store := some { db with agentJobs := before.agentJobs } } := by
  unfold otherCommand at taken
  split at taken
  · cases taken
  · split at taken
    · cases taken
    · next named =>
      cases taken
      exact ⟨_, ‹_›, by simpa using named, rfl⟩

namespace Invariant

/-- Writing one row: completed rows are final, and a row is taken only by a poll that knows it. -/
theorem setRow (inv : w.Invariant) (store : w.store = some db) {row : AgentJobRow}
    (changed : db'.agentJobs = db.agentJobs.insert jobId row) (keyed : row.job.jobId = jobId)
    (agent : row.phase = .leased → row.agentId ≠ "")
    (final : ∀ old : AgentJobRow, db.agentJobs[jobId]? = some old → old.phase = .completed →
      row.phase = .completed)
    (taken : row.Taken → (∃ old : AgentJobRow, db.agentJobs[jobId]? = some old ∧ old.Taken) ∨
      ∃ (t : Nat) (call : PollCall), w.polls[t]? = some call ∧ call.job.jobId = jobId ∧
        call.reply = some .leased) :
    ({ w with store := some db' } : World).Invariant := by
  have before : ∀ id, w.row id = db.agentJobs[id]? := row_some store
  have after : ∀ id, ({ w with store := some db' } : World).row id =
      if jobId = id then some row else w.row id := by
    intro id
    rw [row_some rfl, changed, lookup_insert, before]
  refine { inv with rows := ?_, requeued := ?_, committed := ?_, taken := ?_, produced := ?_ }
  · intro id row' present
    rw [after] at present
    split at present
    · next same =>
      cases present
      exact ⟨keyed.trans same, agent⟩
    · exact inv.rows id row' present
  · intro t c replacement rest running
    obtain ⟨made, untaken⟩ := inv.requeued t c replacement rest running
    refine ⟨made, ?_⟩
    intro entry present same row' present' isTaken
    rw [Option.mem_def, after] at present'
    split at present'
    · next here =>
      cases present'
      rcases taken isTaken with ⟨old, found, wasTaken⟩ | ⟨t', call, polling, ofJob, _⟩
      · refine untaken entry present same old ?_ wasTaken
        rw [Option.mem_def, before, ← here]
        exact found
      · have leased := (inv.held t' call polling).entry entry (by rw [ofJob, here]; exact present)
        have tracked := inv.tracked t _ running c List.mem_cons_self
        exact tracked.agent (same.1.symm.trans leased.2.2)
    · exact untaken entry present same row' present' isTaken
  · intro t request result running
    obtain ⟨old, present, completed⟩ := inv.committed t request result running
    rw [after]
    split
    · next here =>
      rw [before, ← here] at present
      exact ⟨row, rfl, final old present completed⟩
    · exact ⟨old, present, completed⟩
  · intro id row' present isTaken
    rw [after] at present
    split at present
    · next here =>
      cases present
      rcases taken isTaken with ⟨old, found, wasTaken⟩ | ⟨t, call, polling, ofJob, known⟩
      · refine inv.taken id old ?_ wasTaken
        rw [before, ← here]
        exact found
      · refine ⟨?_, ?_⟩
        · rw [← here, ← ofJob]
          exact (inv.held t call polling).unqueued
        · intro t' call' polling' ofJob'
          obtain rfl := inv.once t call t' call' polling polling' (by rw [ofJob, ofJob', here])
          obtain rfl := Option.some.inj (polling.symm.trans polling')
          exact known
    · exact inv.taken id row' present isTaken
  · intro t producer running
    obtain ⟨free, untaken⟩ := inv.produced t producer running
    refine ⟨free, ?_⟩
    intro row' present isTaken
    rw [Option.mem_def, after] at present
    split at present
    · next here =>
      cases present
      rcases taken isTaken with ⟨old, found, wasTaken⟩ | ⟨t', call, polling, ofJob, _⟩
      · refine untaken old ?_ wasTaken
        rw [Option.mem_def, before, ← here]
        exact found
      · exact free.2.1 t' call polling (ofJob.trans here)
    · exact untaken row' present isTaken

/-- Rows that no committed completion is about may go. -/
theorem dropRows (inv : w.Invariant) (store : w.store = some db)
    (dropped : ∀ id : String, db'.agentJobs[id]? = db.agentJobs[id]? ∨
      db'.agentJobs[id]? = none ∧ ∀ (t : Nat) request result,
        w.completes[t]? = some (CompleteCall.committed request result) → request.jobId ≠ id) :
    ({ w with store := some db' } : World).Invariant := by
  have before : ∀ id row, ({ w with store := some db' } : World).row id = some row →
      w.row id = some row := by
    intro id row present
    rw [row_some rfl] at present
    rw [row_some store]
    rcases dropped id with same | ⟨gone, _⟩
    · rwa [same] at present
    · rw [gone] at present
      cases present
  refine { inv with rows := ?_, requeued := ?_, committed := ?_, taken := ?_, produced := ?_ }
  · exact fun id row present => inv.rows id row (before id row present)
  · intro t c replacement rest running
    obtain ⟨made, untaken⟩ := inv.requeued t c replacement rest running
    refine ⟨made, ?_⟩
    intro entry present matched row present'
    exact untaken entry present matched row (before _ row present')
  · intro t request result running
    rcases dropped request.jobId with same | ⟨_, unreported⟩
    · rw [row_some rfl, same, ← row_some store]
      exact inv.committed t request result running
    · exact absurd rfl (unreported t request result running)
  · exact fun id row present => inv.taken id row (before id row present)
  · intro t producer running
    obtain ⟨free, untaken⟩ := inv.produced t producer running
    exact ⟨free, fun row present => untaken row (before _ row present)⟩

theorem sameRows (inv : w.Invariant) (store : w.store = some db)
    (same : db'.agentJobs = db.agentJobs) : ({ w with store := some db' } : World).Invariant :=
  inv.dropRows store fun _ => Or.inl (by rw [same])

theorem free_of_retains {id : String} (free : w.Free id) (retains : w.queue.Retains q id) :
    ({ w with queue := q } : World).Free id := by
  refine ⟨?_, free.2⟩
  have missing := free.1
  change q.inFlight[id]? = none
  cases present : q.inFlight[id]? with
  | none => rfl
  | some entry =>
    rw [retains.entry entry present] at missing
    cases missing

section

variable (inv : w.Invariant)
include inv

theorem shrinkQueue (consistent : q.Consistent) (retains : ∀ id, w.queue.Retains q id) :
    ({ w with queue := q } : World).Invariant := by
  refine { inv with
    queue := consistent, held := ?_, tracked := ?_, requeued := ?_, taken := ?_, produced := ?_ }
  · intro t call polling
    exact (inv.held t call polling).of_retains (retains _)
  · intro t call running c listed
    exact (inv.tracked t call running c listed).of_retains (retains _)
  · intro t c replacement rest running
    obtain ⟨made, untaken⟩ := inv.requeued t c replacement rest running
    refine ⟨made, ?_⟩
    intro entry present
    exact untaken entry ((retains _).entry entry present)
  · intro id row present isTaken
    obtain ⟨unqueued, known⟩ := inv.taken id row present isTaken
    exact ⟨unqueued.of_retains (retains id), known⟩
  · intro t producer running
    obtain ⟨free, untaken⟩ := inv.produced t producer running
    exact ⟨free_of_retains free (retains _), untaken⟩

theorem setQueue (consistent : q.Consistent) (retains : ∀ id, id ≠ jobId → w.queue.Retains q id)
    (unheld : ∀ (t : Nat) (call : PollCall), w.polls[t]? = some call → call.job.jobId ≠ jobId)
    (unproduced : w.Unproduced jobId)
    (tracked : ∀ (t : Nat) (call : ReclaimCall), w.reclaims[t]? = some call →
      ∀ c ∈ call.candidates, c.jobId = jobId →
        q.Tracked c ∧ ∀ entry, q.inFlight[jobId]? = some entry → ¬ c.Matches entry)
    (untaken : q.Unqueued jobId ∨ w.Untaken jobId) : ({ w with queue := q } : World).Invariant := by
  refine { inv with
    queue := consistent, held := ?_, tracked := ?_, requeued := ?_, taken := ?_, produced := ?_ }
  · intro t call polling
    exact (inv.held t call polling).of_retains (retains _ (unheld t call polling))
  · intro t call running c listed
    by_cases here : c.jobId = jobId
    · exact (tracked t call running c listed here).1
    · exact (inv.tracked t call running c listed).of_retains (retains _ here)
  · intro t c replacement rest running
    obtain ⟨made, open_⟩ := inv.requeued t c replacement rest running
    refine ⟨made, ?_⟩
    intro entry present same
    by_cases here : c.jobId = jobId
    · rw [here] at present
      exact absurd same ((tracked t _ running c List.mem_cons_self here).2 entry present)
    · exact open_ entry ((retains _ here).entry entry present) same
  · intro id row present isTaken
    obtain ⟨unqueued, known⟩ := inv.taken id row present isTaken
    refine ⟨?_, known⟩
    by_cases here : id = jobId
    · rcases untaken with kept | untaken
      · rw [here]
        exact kept
      · rw [here] at present
        exact absurd isTaken (untaken row present)
    · exact unqueued.of_retains (retains id here)
  · intro t producer running
    obtain ⟨free, open_⟩ := inv.produced t producer running
    exact ⟨free_of_retains free (retains _ (unproduced t producer running)), open_⟩

theorem dropPoll (t : Nat) : ({ w with polls := w.polls.erase t } : World).Invariant := by
  have before : ∀ {t' : Nat} {call : PollCall}, (w.polls.erase t)[t']? = some call →
      w.polls[t']? = some call := lookup_of_erase
  refine { inv with held := ?_, once := ?_, taken := ?_, produced := ?_ }
  · intro t' call polling
    exact inv.held t' call (before polling)
  · intro t₁ call₁ t₂ call₂ polling₁ polling₂
    exact inv.once t₁ call₁ t₂ call₂ (before polling₁) (before polling₂)
  · intro id row present isTaken
    obtain ⟨unqueued, known⟩ := inv.taken id row present isTaken
    exact ⟨unqueued, fun t' call polling => known t' call (before polling)⟩
  · intro t' producer running
    obtain ⟨free, untaken⟩ := inv.produced t' producer running
    exact ⟨⟨free.1, fun t' call polling => free.2.1 t' call (before polling), free.2.2⟩, untaken⟩

theorem setReply {t : Nat} {call : PollCall} (polling : w.polls[t]? = some call)
    (unknown : call.reply = none) (reply : LeaseReply) :
    ({ w with polls := w.polls.insert t { call with reply := some reply } } : World).Invariant := by
  have before : ∀ {t' : Nat} {call' : PollCall},
      (w.polls.insert t { call with reply := some reply })[t']? = some call' →
      ∃ call₀, w.polls[t']? = some call₀ ∧ call'.poolId = call₀.poolId ∧
        call'.agentId = call₀.agentId ∧ call'.job = call₀.job ∧
        (call₀.reply = some .leased → call'.reply = some .leased) := by
    intro t' call' polling'
    rcases lookup_insert_cases polling' with ⟨rfl, rfl⟩ | polling'
    · refine ⟨call, polling, rfl, rfl, rfl, ?_⟩
      intro known
      rw [unknown] at known
      cases known
    · exact ⟨call', polling', rfl, rfl, rfl, id⟩
  refine { inv with held := ?_, once := ?_, taken := ?_, produced := ?_ }
  · intro t' call' polling'
    obtain ⟨call₀, polling₀, ofPool, ofAgent, ofJob, _⟩ := before polling'
    obtain ⟨unqueued, entry, agent⟩ := inv.held t' call₀ polling₀
    exact ⟨ofJob ▸ unqueued, by rw [ofJob, ofPool]; exact entry, by rw [ofAgent]; exact agent⟩
  · intro t₁ call₁ t₂ call₂ polling₁ polling₂ same
    obtain ⟨old₁, polling₁, _, _, job₁, _⟩ := before polling₁
    obtain ⟨old₂, polling₂, _, _, job₂, _⟩ := before polling₂
    rw [job₁, job₂] at same
    exact inv.once t₁ old₁ t₂ old₂ polling₁ polling₂ same
  · intro id row present isTaken
    obtain ⟨unqueued, known⟩ := inv.taken id row present isTaken
    refine ⟨unqueued, ?_⟩
    intro t' call' polling' same
    obtain ⟨call₀, polling₀, _, _, ofJob, kept⟩ := before polling'
    rw [ofJob] at same
    exact kept (known t' call₀ polling₀ same)
  · intro t' producer running
    obtain ⟨free, untaken⟩ := inv.produced t' producer running
    refine ⟨⟨free.1, ?_, free.2.2⟩, untaken⟩
    intro t₁ call₁ polling₁
    obtain ⟨call₀, polling₀, _, _, ofJob, _⟩ := before polling₁
    rw [ofJob]
    exact free.2.1 t₁ call₀ polling₀

theorem addPoll {t : Nat} {call : PollCall} (held : w.queue.Held call)
    (unheld : ∀ (t : Nat) (call' : PollCall), w.polls[t]? = some call' →
      call'.job.jobId ≠ call.job.jobId) (unproduced : w.Unproduced call.job.jobId)
    (untaken : w.Untaken call.job.jobId) :
    ({ w with polls := w.polls.insert t call } : World).Invariant := by
  have cases_of : ∀ {t' : Nat} {call' : PollCall}, (w.polls.insert t call)[t']? = some call' →
      (t' = t ∧ call' = call) ∨ w.polls[t']? = some call' := lookup_insert_cases
  refine { inv with held := ?_, once := ?_, taken := ?_, produced := ?_ }
  · intro t' call' polling
    rcases cases_of polling with ⟨rfl, rfl⟩ | polling
    · exact held
    · exact inv.held t' call' polling
  · intro t₁ call₁ t₂ call₂ polling₁ polling₂ same
    rcases cases_of polling₁ with ⟨rfl, rfl⟩ | before₁
    · rcases cases_of polling₂ with ⟨rfl, rfl⟩ | before₂
      · rfl
      · exact absurd same.symm (unheld t₂ call₂ before₂)
    · rcases cases_of polling₂ with ⟨rfl, rfl⟩ | before₂
      · exact absurd same (unheld t₁ call₁ before₁)
      · exact inv.once t₁ call₁ t₂ call₂ before₁ before₂ same
  · intro id row present isTaken
    obtain ⟨unqueued, known⟩ := inv.taken id row present isTaken
    refine ⟨unqueued, ?_⟩
    intro t' call' polling same
    rcases cases_of polling with ⟨rfl, rfl⟩ | polling
    · rw [← same] at present
      exact absurd isTaken (untaken row present)
    · exact known t' call' polling same
  · intro t' producer running
    obtain ⟨free, open_⟩ := inv.produced t' producer running
    refine ⟨⟨free.1, ?_, free.2.2⟩, open_⟩
    intro t₁ call₁ polling
    rcases cases_of polling with ⟨rfl, rfl⟩ | polling
    · exact Ne.symm (unproduced t' producer running)
    · exact free.2.1 t₁ call₁ polling

theorem setCompletes {completes : Calls CompleteCall} (committed : ∀ (t : Nat) request result,
      completes[t]? = some (CompleteCall.committed request result) →
      ∃ row, w.row request.jobId = some row ∧ row.phase = .completed) :
    ({ w with completes } : World).Invariant :=
  { inv with committed }

theorem setReclaims {reclaims : Calls ReclaimCall}
    (tracked : ∀ (t : Nat) (call : ReclaimCall), reclaims[t]? = some call → ∀ c ∈ call.candidates,
      w.queue.Tracked c ∧ ∀ id, w.Free id → c.jobId ≠ id)
    (requeued : ∀ (t : Nat) c replacement rest,
      reclaims[t]? = some (ReclaimCall.requeued c replacement rest) →
      (∃ uuid, replacement = c.replacement uuid) ∧
      ∀ entry : InFlightJob, w.queue.inFlight[c.jobId]? = some entry → c.Matches entry →
        w.Untaken c.jobId) : ({ w with reclaims } : World).Invariant := by
  refine { inv with tracked := ?_, requeued := requeued, produced := ?_ }
  · intro t call running c listed
    exact (tracked t call running c listed).1
  · intro t producer running
    obtain ⟨free, untaken⟩ := inv.produced t producer running
    refine ⟨⟨free.1, free.2.1, ?_⟩, untaken⟩
    intro t' call running' c listed
    exact (tracked t' call running' c listed).2 _ free

theorem continueReclaim {t : Nat} {call : ReclaimCall} {rest : List Queue.Candidate}
    (running : w.reclaims[t]? = some call) (listed : ∀ c ∈ rest, c ∈ call.candidates) :
    (w.continueReclaim t rest).Invariant := by
  have kept : ∀ {t' : Nat} {call' : ReclaimCall}, w.reclaims[t']? = some call' →
      ∀ c ∈ call'.candidates, w.queue.Tracked c ∧ ∀ id, w.Free id → c.jobId ≠ id := by
    intro t' call' running' c member
    exact ⟨inv.tracked t' call' running' c member,
      fun id free => free.2.2 t' call' running' c member⟩
  cases rest with
  | nil =>
    refine inv.setReclaims ?_ ?_
    · intro t' call' running'
      exact kept (lookup_of_erase running')
    · intro t' c replacement rest running'
      exact inv.requeued t' c replacement rest (lookup_of_erase running')
  | cons =>
    refine inv.setReclaims ?_ ?_
    · intro t' call' running'
      rcases lookup_insert_cases running' with ⟨rfl, rfl⟩ | running'
      · intro c member
        exact kept running c (listed c member)
      · exact kept running'
    · intro t' c replacement rest' running'
      rcases lookup_insert_cases running' with ⟨_, made⟩ | running'
      · cases made
      · exact inv.requeued t' c replacement rest' running'

theorem dropProducer (t : Nat) :
    ({ w with producers := w.producers.erase t } : World).Invariant := by
  have before : ∀ {t' : Nat} {producer : Producer}, (w.producers.erase t)[t']? = some producer →
      w.producers[t']? = some producer := lookup_of_erase
  refine { inv with produced := ?_, producedOnce := ?_ }
  · intro t' producer running
    exact inv.produced t' producer (before running)
  · intro t₁ producer₁ t₂ producer₂ running₁ running₂
    exact inv.producedOnce t₁ producer₁ t₂ producer₂ (before running₁) (before running₂)

theorem addProducer {t : Nat} {producer : Producer} (free : w.Free producer.job.jobId)
    (untaken : w.Untaken producer.job.jobId) (unproduced : w.Unproduced producer.job.jobId) :
    ({ w with producers := w.producers.insert t producer } : World).Invariant := by
  have cases_of : ∀ {t' : Nat} {producer' : Producer},
      (w.producers.insert t producer)[t']? = some producer' →
      (t' = t ∧ producer' = producer) ∨ w.producers[t']? = some producer' := lookup_insert_cases
  refine { inv with produced := ?_, producedOnce := ?_ }
  · intro t' producer' running
    rcases cases_of running with ⟨rfl, rfl⟩ | running
    · exact ⟨free, untaken⟩
    · exact inv.produced t' producer' running
  · intro t₁ producer₁ t₂ producer₂ running₁ running₂ same
    rcases cases_of running₁ with ⟨rfl, rfl⟩ | before₁
    · rcases cases_of running₂ with ⟨rfl, rfl⟩ | before₂
      · rfl
      · exact absurd same.symm (unproduced t₂ producer₂ before₂)
    · rcases cases_of running₂ with ⟨rfl, rfl⟩ | before₂
      · exact absurd same (unproduced t₁ producer₁ before₁)
      · exact inv.producedOnce t₁ producer₁ t₂ producer₂ before₁ before₂ same

end

end Invariant

end World

end UEnv.AgentJob
