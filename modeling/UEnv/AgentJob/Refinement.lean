import UEnv.AgentJob.Exclusive
import UEnv.Persistence.GatewaySessions

/-!
# The queue mirrors the database

With a store attached, a queued job has a pending row of its run, and an entry under an agent has
a leased row of that agent and run, in every state without an agent RPC between two of its steps.
This holds along every orderly run in which every job is persisted before it is queued and a sweep
deletes rows of jobs that are let go only. The producer of code agent jobs queues without a row,
and no poll ever gets such a job.
-/

namespace UEnv.AgentJob

open Proto Persistence Wire Runs Tables

namespace Queue

/-- A lease that was seen on a job: the entry still has it, or a later, longer run. -/
def Seen (q : Queue) (jobId agentId runId : String) : Prop :=
  agentId ≠ "" ∧ ∀ entry : InFlightJob, q.inFlight[jobId]? = some entry →
    (entry.agentId = agentId ∧ entry.runId = runId) ∨ runId.length < entry.runId.length

variable {q q' : Queue} {jobId agentId runId other : String}

theorem Seen.of_retains (seen : q.Seen jobId agentId runId) (retains : q.Retains q' jobId) :
    q'.Seen jobId agentId runId :=
  ⟨seen.1, fun entry present => seen.2 entry (retains.entry entry present)⟩

variable {candidate : Candidate}

theorem Tracked.seen (tracked : q.Tracked candidate) :
    q.Seen candidate.jobId candidate.agentId candidate.runId :=
  ⟨tracked.agent, fun entry present => (tracked.entry entry present).2⟩

theorem Seen.earlier (seen : q.Seen jobId agentId runId) {entry : InFlightJob}
    (present : q.inFlight[jobId]? = some entry) (unleased : entry.agentId = "") :
    runId.length < entry.runId.length := by
  rcases seen.2 entry present with ⟨same, _⟩ | later
  · exact absurd (same.symm.trans unleased) seen.1
  · exact later

theorem Seen.assign (seen : q.Seen jobId agentId runId)
    (unleased : ∀ entry, q.inFlight[other]? = some entry → entry.agentId = "") (newAgent : String) :
    ((q.assign other newAgent).getD q).Seen jobId agentId runId := by
  refine ⟨seen.1, ?_⟩
  intro entry' present'
  rw [lookup_assign] at present'
  split at present'
  · next here =>
    obtain ⟨entry, present, rfl⟩ := Option.map_eq_some_iff.mp present'
    have later : runId.length < entry.runId.length :=
      seen.earlier present (unleased entry (by rw [here]; exact present))
    exact Or.inr later
  · exact seen.2 entry' present'

theorem Seen.applyReclaim (seen : q.Seen jobId agentId runId) (tracked : q.Tracked candidate)
    (uuid : String) :
    (q.applyReclaim candidate (candidate.replacement uuid)).Seen jobId agentId runId := by
  by_cases here : jobId = candidate.jobId
  · rcases applyReclaim_cases q candidate (candidate.replacement uuid) with
      unchanged | ⟨entry, present, same, taken⟩
    · rw [unchanged]
      exact seen
    · refine ⟨seen.1, ?_⟩
      intro entry' present'
      rw [taken, pushBack_inFlight, lookup_insert, if_pos here.symm] at present'
      cases present'
      have next : candidate.runId.length < (candidate.replacement uuid).runId.length :=
        reclaimedRunId_length _ _
      rw [← here] at present
      rcases seen.2 entry present with ⟨_, sameRun⟩ | later
      · rw [← sameRun, same.2]
        exact Or.inr next
      · rw [same.2] at later
        exact Or.inr (Nat.lt_trans later next)
  · exact seen.of_retains (Retains.applyReclaim tracked.keyed here)

end Queue

/-- The lease that a completion has been checked against. -/
def CompleteCall.checked : CompleteCall → Option AgentJobCompleteRequest
  | .checking _ _ => none
  | .loading request _ _ => some request
  | .committing request _ _ => some request
  | .committed request _ => some request

namespace World

/-- No completion that passed its check is about the job. -/
def Unreported (w : World) (jobId : String) : Prop :=
  ∀ (t : Nat) (call : CompleteCall), w.completes[t]? = some call →
    ∀ request ∈ call.checked, request.jobId ≠ jobId

/-- The queue and every call have let go of the job. -/
def LetGo (w : World) (jobId : String) : Prop :=
  w.Free jobId ∧ w.Unproduced jobId ∧ w.Unreported jobId

/-- The row of the job is pending under this run. -/
def Pending (w : World) (jobId runId : String) : Prop :=
  ∃ row, w.row jobId = some row ∧ row.phase = .pending ∧ row.runId = runId

/-- The row of the job is leased by this agent under this run. -/
def LeasedTo (w : World) (jobId agentId runId : String) : Prop :=
  ∃ row, w.row jobId = some row ∧ row.phase = .leased ∧ row.agentId = agentId ∧ row.runId = runId

/-- A call that has changed the row already will change the entry too. -/
def Catching (w : World) (jobId : String) (entry : InFlightJob) : Prop :=
  (∃ (t : Nat) (request : AgentJobCompleteRequest) (result : EpisodeResult),
    w.completes[t]? = some (.committed request result) ∧ request.jobId = jobId) ∨
  ∃ (t : Nat) (c : Queue.Candidate) (replacement : AgentJob) (rest : List Queue.Candidate),
    w.reclaims[t]? = some (.requeued c replacement rest) ∧ c.jobId = jobId ∧ c.Matches entry

/-- The maps and the calls on one side, the rows on the other. -/
structure Mirrored (w : World) : Prop where
  attached : w.store.isSome
  named : ∀ db ∈ w.store, "" ∉ db.episodes
  rowRun : ∀ id row, w.row id = some row → row.job.runId = row.runId
  queued : ∀ poolId, ∀ job ∈ w.queue.pendingOf poolId, w.Pending job.jobId job.runId
  leased : ∀ (id : String) (entry : InFlightJob), w.queue.inFlight[id]? = some entry →
    entry.agentId ≠ "" → w.LeasedTo id entry.agentId entry.runId ∨ w.Catching id entry
  held : ∀ (t : Nat) (call : PollCall), w.polls[t]? = some call →
    (w.queue.inFlight[call.job.jobId]?).isSome →
      (call.reply = some .leased ∧ w.LeasedTo call.job.jobId call.agentId call.job.runId) ∨
      ((call.reply = none ∨ call.reply = some .failed) ∧ w.Pending call.job.jobId call.job.runId)
  reported : ∀ (t : Nat) (call : CompleteCall), w.completes[t]? = some call →
    ∀ request ∈ call.checked, w.queue.Seen request.jobId request.agentId request.runId
  requeued : ∀ (t : Nat) c replacement rest,
    w.reclaims[t]? = some (ReclaimCall.requeued c replacement rest) →
    ∀ entry : InFlightJob, w.queue.inFlight[c.jobId]? = some entry → c.Matches entry →
      w.Pending c.jobId replacement.runId
  produced : ∀ (t : Nat) (producer : Producer), w.producers[t]? = some producer →
    w.Unreported producer.job.jobId ∧ w.Pending producer.job.jobId producer.job.runId

variable {w : World} {q : Queue} {db db' : Db} {jobId : String}

theorem Pending.not_leasedTo {runId agentId runId' : String} (pending : w.Pending jobId runId)
    (leased : w.LeasedTo jobId agentId runId') : False := by
  obtain ⟨row, present, open_, _⟩ := pending
  obtain ⟨row', present', held, _⟩ := leased
  rw [present] at present'
  cases present'
  rw [open_] at held
  cases held

namespace Mirrored

variable {row : AgentJobRow} {reclaims : Calls ReclaimCall}

section

variable (mirrored : w.Mirrored)
include mirrored

theorem setRowReclaims (store : w.store = some db)
    (changed : db'.agentJobs = db.agentJobs.insert jobId row) (episodes : Db.EpisodesWithin db' db)
    (sameRun : row.job.runId = row.runId) (unqueued : w.queue.Unqueued jobId)
    (unproduced : w.Unproduced jobId)
    (leased : ∀ entry : InFlightJob, w.queue.inFlight[jobId]? = some entry → entry.agentId ≠ "" →
      ({ w with reclaims } : World).Catching jobId entry)
    (held : ∀ (t : Nat) (call : PollCall), w.polls[t]? = some call → call.job.jobId = jobId →
      (w.queue.inFlight[jobId]?).isSome → call.reply = some .leased ∧ row.phase = .leased ∧
        row.agentId = call.agentId ∧ row.runId = call.job.runId)
    (requeued : ∀ (t : Nat) c replacement rest,
      reclaims[t]? = some (ReclaimCall.requeued c replacement rest) → c.jobId = jobId →
      ∀ entry : InFlightJob, w.queue.inFlight[jobId]? = some entry → c.Matches entry →
        row.phase = .pending ∧ row.runId = replacement.runId)
    (others : ∀ (t : Nat) c replacement rest, c.jobId ≠ jobId →
      (reclaims[t]? = some (ReclaimCall.requeued c replacement rest) ↔
        w.reclaims[t]? = some (ReclaimCall.requeued c replacement rest))) :
    ({ w with store := some db', reclaims } : World).Mirrored := by
  have before : ∀ id, w.row id = db.agentJobs[id]? := row_some store
  have after : ∀ id, ({ w with store := some db', reclaims } : World).row id =
      if jobId = id then some row else w.row id := by
    intro id
    rw [row_some rfl, changed, lookup_insert, before]
  have pending : ∀ {id runId}, id ≠ jobId → w.Pending id runId →
      ({ w with store := some db', reclaims } : World).Pending id runId := by
    rintro id runId other ⟨row', present, facts⟩
    exact ⟨row', by rw [after, if_neg (Ne.symm other)]; exact present, facts⟩
  have leasedTo : ∀ {id agentId runId}, id ≠ jobId → w.LeasedTo id agentId runId →
      ({ w with store := some db', reclaims } : World).LeasedTo id agentId runId := by
    rintro id agentId runId other ⟨row', present, facts⟩
    exact ⟨row', by rw [after, if_neg (Ne.symm other)]; exact present, facts⟩
  refine { mirrored with
    attached := rfl, named := ?_, rowRun := ?_, queued := ?_, leased := ?_, held := ?_
    requeued := ?_, produced := ?_ }
  · intro db'' same
    cases same
    exact fun member => mirrored.named db store (episodes "" member)
  · intro id row' present
    rw [after] at present
    split at present
    · cases present
      exact sameRun
    · exact mirrored.rowRun id row' present
  · intro p job member
    exact pending (unqueued p job member) (mirrored.queued p job member)
  · intro id entry present agent
    by_cases here : id = jobId
    · subst here
      exact Or.inr (leased entry present agent)
    · rcases mirrored.leased id entry present agent with known | committed |
        ⟨t, c, replacement, rest, running, same, matched⟩
      · exact Or.inl (leasedTo here known)
      · exact Or.inr (Or.inl committed)
      · refine Or.inr (Or.inr ⟨t, c, replacement, rest, ?_, same, matched⟩)
        exact (others t c replacement rest (by rw [same]; exact here)).mpr running
  · intro t call polling kept
    by_cases here : call.job.jobId = jobId
    · have kept' : (w.queue.inFlight[jobId]?).isSome := by
        rw [← here]
        exact kept
      obtain ⟨reply, facts⟩ := held t call polling here kept'
      refine Or.inl ⟨reply, row, ?_, facts⟩
      rw [after, if_pos here.symm]
    · rcases mirrored.held t call polling kept with ⟨reply, known⟩ | ⟨reply, known⟩
      · exact Or.inl ⟨reply, leasedTo here known⟩
      · exact Or.inr ⟨reply, pending here known⟩
  · intro t c replacement rest running entry present same
    by_cases here : c.jobId = jobId
    · have present' : w.queue.inFlight[jobId]? = some entry := by
        rw [← here]
        exact present
      refine ⟨row, ?_, requeued t c replacement rest running here entry present' same⟩
      rw [after, if_pos here.symm]
    · have running' := (others t c replacement rest here).mp running
      exact pending here (mirrored.requeued t c replacement rest running' entry present same)
  · intro t producer running
    obtain ⟨unreported, known⟩ := mirrored.produced t producer running
    exact ⟨unreported, pending (unproduced t producer running) known⟩

theorem setRow (store : w.store = some db) (changed : db'.agentJobs = db.agentJobs.insert jobId row)
    (episodes : Db.EpisodesWithin db' db) (sameRun : row.job.runId = row.runId)
    (unqueued : w.queue.Unqueued jobId) (unproduced : w.Unproduced jobId)
    (leased : ∀ entry : InFlightJob, w.queue.inFlight[jobId]? = some entry → entry.agentId ≠ "" →
      w.Catching jobId entry)
    (held : ∀ (t : Nat) (call : PollCall), w.polls[t]? = some call → call.job.jobId = jobId →
      (w.queue.inFlight[jobId]?).isSome → call.reply = some .leased ∧ row.phase = .leased ∧
        row.agentId = call.agentId ∧ row.runId = call.job.runId)
    (requeued : ∀ (t : Nat) c replacement rest,
      w.reclaims[t]? = some (ReclaimCall.requeued c replacement rest) → c.jobId = jobId →
      ∀ entry : InFlightJob, w.queue.inFlight[jobId]? = some entry → c.Matches entry →
        row.phase = .pending ∧ row.runId = replacement.runId) :
    ({ w with store := some db' } : World).Mirrored :=
  mirrored.setRowReclaims store changed episodes sameRun unqueued unproduced leased held requeued
    fun _ _ _ _ _ => Iff.rfl

/-- Rows of jobs that are let go may leave the database. -/
theorem dropRows (consistent : w.queue.Consistent) (store : w.store = some db)
    (dropped : ∀ id : String, db'.agentJobs[id]? = db.agentJobs[id]? ∨
      db'.agentJobs[id]? = none ∧ w.LetGo id) (named : "" ∉ db'.episodes) :
    ({ w with store := some db' } : World).Mirrored := by
  have kept : ∀ id, ¬ w.LetGo id → ({ w with store := some db' } : World).row id = w.row id := by
    intro id held
    rw [row_some rfl, row_some store]
    exact (dropped id).resolve_right fun gone => held gone.2
  have pending : ∀ {id runId}, ¬ w.LetGo id → w.Pending id runId →
      ({ w with store := some db' } : World).Pending id runId := by
    rintro id runId held ⟨row, present, facts⟩
    exact ⟨row, by rw [kept id held]; exact present, facts⟩
  have leasedTo : ∀ {id agentId runId}, ¬ w.LetGo id → w.LeasedTo id agentId runId →
      ({ w with store := some db' } : World).LeasedTo id agentId runId := by
    rintro id agentId runId held ⟨row, present, facts⟩
    exact ⟨row, by rw [kept id held]; exact present, facts⟩
  have entered : ∀ {id : String} {entry : InFlightJob}, w.queue.inFlight[id]? = some entry →
      ¬ w.LetGo id := by
    intro id entry present gone
    have missing := gone.1.1
    rw [present] at missing
    cases missing
  refine { mirrored with
    attached := rfl, named := ?_, rowRun := ?_, queued := ?_, leased := ?_, held := ?_
    requeued := ?_, produced := ?_ }
  · intro db'' here
    cases here
    exact named
  · intro id row present
    rcases dropped id with same | ⟨gone, _⟩
    · rw [row_some rfl, same, ← row_some store] at present
      exact mirrored.rowRun id row present
    · rw [row_some rfl, gone] at present
      cases present
  · intro p job member
    obtain ⟨entry, present, _⟩ := consistent.queued p job member
    exact pending (entered present) (mirrored.queued p job member)
  · intro id entry present agent
    exact (mirrored.leased id entry present agent).imp_left (leasedTo (entered present))
  · intro t call polling present
    have held : ¬ w.LetGo call.job.jobId := fun gone => gone.1.2.1 t call polling rfl
    rcases mirrored.held t call polling present with ⟨reply, known⟩ | ⟨reply, known⟩
    · exact Or.inl ⟨reply, leasedTo held known⟩
    · exact Or.inr ⟨reply, pending held known⟩
  · intro t c replacement rest running entry present matched
    exact pending (entered present)
      (mirrored.requeued t c replacement rest running entry present matched)
  · intro t producer running
    obtain ⟨unreported, known⟩ := mirrored.produced t producer running
    exact ⟨unreported, pending (fun gone => gone.2.1 t producer running rfl) known⟩

theorem sameRows (consistent : w.queue.Consistent) (store : w.store = some db)
    (same : db'.agentJobs = db.agentJobs) (named : "" ∉ db'.episodes) :
    ({ w with store := some db' } : World).Mirrored :=
  mirrored.dropRows consistent store (fun _ => Or.inl (by rw [same])) named

theorem shrinkQueue (retains : ∀ id, w.queue.Retains q id) :
    ({ w with queue := q } : World).Mirrored := by
  refine { mirrored with queued := ?_, leased := ?_, held := ?_, reported := ?_, requeued := ?_ }
  · intro p job member
    exact mirrored.queued p job ((retains job.jobId).jobs p job member rfl)
  · intro id entry present agent
    exact mirrored.leased id entry ((retains id).entry entry present) agent
  · intro t call polling kept
    obtain ⟨entry, present⟩ := Option.isSome_iff_exists.mp kept
    refine mirrored.held t call polling ?_
    rw [(retains _).entry entry present]
    rfl
  · intro t call running request checked
    exact (mirrored.reported t call running request checked).of_retains (retains _)
  · intro t c replacement rest running entry present
    exact mirrored.requeued t c replacement rest running entry ((retains _).entry entry present)

theorem setQueue (retains : ∀ id, id ≠ jobId → w.queue.Retains q id)
    (queued : ∀ poolId, ∀ job ∈ q.pendingOf poolId, job.jobId = jobId →
      w.Pending job.jobId job.runId)
    (leased : ∀ entry : InFlightJob, q.inFlight[jobId]? = some entry → entry.agentId ≠ "" →
      w.LeasedTo jobId entry.agentId entry.runId ∨ w.Catching jobId entry)
    (unheld : ∀ (t : Nat) (call : PollCall), w.polls[t]? = some call → call.job.jobId ≠ jobId)
    (reported : ∀ (t : Nat) (call : CompleteCall), w.completes[t]? = some call →
      ∀ request ∈ call.checked, request.jobId = jobId → q.Seen jobId request.agentId request.runId)
    (requeued : ∀ (t : Nat) (call : ReclaimCall), w.reclaims[t]? = some call →
      ∀ c ∈ call.candidates, c.jobId = jobId →
      ∀ entry : InFlightJob, q.inFlight[jobId]? = some entry → ¬ c.Matches entry) :
    ({ w with queue := q } : World).Mirrored := by
  refine { mirrored with queued := ?_, leased := ?_, held := ?_, reported := ?_, requeued := ?_ }
  · intro p job member
    by_cases here : job.jobId = jobId
    · exact queued p job member here
    · exact mirrored.queued p job ((retains _ here).jobs p job member rfl)
  · intro id entry present agent
    by_cases here : id = jobId
    · subst here
      exact leased entry present agent
    · exact mirrored.leased id entry ((retains id here).entry entry present) agent
  · intro t call polling kept
    obtain ⟨entry, present⟩ := Option.isSome_iff_exists.mp kept
    refine mirrored.held t call polling ?_
    rw [(retains _ (unheld t call polling)).entry entry present]
    rfl
  · intro t call running request checked
    by_cases here : request.jobId = jobId
    · have seen := reported t call running request checked here
      rw [← here] at seen
      exact seen
    · exact (mirrored.reported t call running request checked).of_retains (retains _ here)
  · intro t c replacement rest running entry present same
    by_cases here : c.jobId = jobId
    · have present' : q.inFlight[jobId]? = some entry := by
        rw [← here]
        exact present
      exact absurd same (requeued t _ running c List.mem_cons_self here entry present')
    · exact mirrored.requeued t c replacement rest running entry
        ((retains _ here).entry entry present) same

theorem setCompletes {completes : Calls CompleteCall}
    (reported : ∀ (t : Nat) (call : CompleteCall), completes[t]? = some call →
      ∀ request ∈ call.checked, w.queue.Seen request.jobId request.agentId request.runId ∧
        ∀ (t' : Nat) (producer : Producer), w.producers[t']? = some producer →
          request.jobId ≠ producer.job.jobId) (committed : ∀ (t : Nat) request result,
      w.completes[t]? = some (CompleteCall.committed request result) →
      (w.queue.inFlight[request.jobId]?).isSome →
      completes[t]? = some (CompleteCall.committed request result)) :
    ({ w with completes } : World).Mirrored := by
  refine { mirrored with leased := ?_, reported := ?_, produced := ?_ }
  · intro id entry present agent
    rcases mirrored.leased id entry present agent with known | ⟨t, request, result, running, here⟩ |
      ⟨t, c, replacement, rest, running, facts⟩
    · exact Or.inl known
    · refine Or.inr (Or.inl ⟨t, request, result, committed t request result running ?_, here⟩)
      rw [here, present]
      rfl
    · exact Or.inr (Or.inr ⟨t, c, replacement, rest, running, facts⟩)
  · intro t call running request checked
    exact (reported t call running request checked).1
  · intro t' producer running'
    refine ⟨?_, (mirrored.produced t' producer running').2⟩
    intro t call running request checked
    exact (reported t call running request checked).2 t' producer running'

theorem insertComplete {t : Nat} (call : CompleteCall)
    (open_ : ∀ request result, w.completes[t]? ≠ some (.committed request result))
    (checked : ∀ request ∈ call.checked, w.queue.Seen request.jobId request.agentId request.runId ∧
        ∀ (t' : Nat) (producer : Producer), w.producers[t']? = some producer →
          request.jobId ≠ producer.job.jobId) :
    ({ w with completes := w.completes.insert t call } : World).Mirrored := by
  refine mirrored.setCompletes ?_ ?_
  · intro t' call' running request known
    rcases lookup_insert_cases running with ⟨rfl, rfl⟩ | before
    · exact checked request known
    · refine ⟨mirrored.reported t' call' before request known, ?_⟩
      intro t₂ producer running₂
      exact (mirrored.produced t₂ producer running₂).1 t' call' before request known
  · intro t' request result running _
    rw [lookup_insert]
    split
    · next same =>
      subst same
      exact absurd running (open_ request result)
    · exact running

theorem dropComplete {t : Nat}
    (open_ : ∀ request result, w.completes[t]? = some (.committed request result) →
      w.queue.inFlight[request.jobId]? = none) :
    ({ w with completes := w.completes.erase t } : World).Mirrored := by
  refine mirrored.setCompletes ?_ ?_
  · intro t' call running request known
    have before := lookup_of_erase running
    refine ⟨mirrored.reported t' call before request known, ?_⟩
    intro t₂ producer running₂
    exact (mirrored.produced t₂ producer running₂).1 t' call before request known
  · intro t' request result running kept
    rw [lookup_erase]
    split
    · next same =>
      subst same
      rw [open_ request result running] at kept
      cases kept
    · exact running

theorem setReclaims (requeued : ∀ (t : Nat) c replacement rest,
      reclaims[t]? = some (ReclaimCall.requeued c replacement rest) →
      ∀ entry : InFlightJob, w.queue.inFlight[c.jobId]? = some entry → c.Matches entry →
        w.Pending c.jobId replacement.runId) (kept : ∀ (t : Nat) c replacement rest,
      w.reclaims[t]? = some (ReclaimCall.requeued c replacement rest) →
      ∀ entry : InFlightJob, w.queue.inFlight[c.jobId]? = some entry → c.Matches entry →
        reclaims[t]? = some (ReclaimCall.requeued c replacement rest)) :
    ({ w with reclaims } : World).Mirrored := by
  refine { mirrored with leased := ?_, requeued := requeued }
  intro id entry present agent
  rcases mirrored.leased id entry present agent with known | committed |
    ⟨t, c, replacement, rest, running, here, same⟩
  · exact Or.inl known
  · exact Or.inr (Or.inl committed)
  · subst here
    exact Or.inr (Or.inr
      ⟨t, c, replacement, rest, kept t c replacement rest running entry present same, rfl, same⟩)

theorem continueReclaim {t : Nat}
    (open_ : ∀ c replacement rest, w.reclaims[t]? = some (.requeued c replacement rest) →
      ∀ entry : InFlightJob, w.queue.inFlight[c.jobId]? = some entry → ¬ c.Matches entry)
    (rest : List Queue.Candidate) : (w.continueReclaim t rest).Mirrored := by
  cases rest with
  | nil =>
    refine mirrored.setReclaims ?_ ?_
    · intro t' c replacement rest running
      exact mirrored.requeued t' c replacement rest (lookup_of_erase running)
    · intro t' c replacement rest running entry present same
      rw [lookup_erase]
      split
      · next here =>
        subst here
        exact absurd same (open_ c replacement rest running entry present)
      · exact running
  | cons candidate rest =>
    refine mirrored.setReclaims ?_ ?_
    · intro t' c replacement rest' running
      rcases lookup_insert_cases running with ⟨_, same⟩ | before
      · cases same
      · exact mirrored.requeued t' c replacement rest' before
    · intro t' c replacement rest' running entry present same
      rw [lookup_insert]
      split
      · next here =>
        subst here
        exact absurd same (open_ c replacement rest' running entry present)
      · exact running

theorem dropPoll (t : Nat) : ({ w with polls := w.polls.erase t } : World).Mirrored := by
  refine { mirrored with held := ?_ }
  intro t' call polling
  exact mirrored.held t' call (lookup_of_erase polling)

theorem insertPoll (t : Nat) (call : PollCall) (held : (w.queue.inFlight[call.job.jobId]?).isSome →
      (call.reply = some .leased ∧ w.LeasedTo call.job.jobId call.agentId call.job.runId) ∨
      ((call.reply = none ∨ call.reply = some .failed) ∧ w.Pending call.job.jobId call.job.runId)) :
    ({ w with polls := w.polls.insert t call } : World).Mirrored := by
  refine { mirrored with held := ?_ }
  intro t' call' polling
  rcases lookup_insert_cases polling with ⟨_, rfl⟩ | before
  · exact held
  · exact mirrored.held t' call' before

end

end Mirrored

/-- The rows are kept in step with the queue: a job is persisted under a new id before it is
queued, it is closed in the store after it was abandoned in memory, and no completion that passed
its check is about a job that enters the queue. -/
def RowsFirst (w : World) : Label → Prop
  | .persistJob _ _ job _ _ => w.row job.jobId = none ∧ w.Unreported job.jobId
  | .enqueue _ _ => False
  | .restorePersisted jobId => w.Unreported jobId
  | .markTerminal jobId _ _ => w.queue.inFlight[jobId]? = none ∧ w.Unproduced jobId
  | _ => True

/-- An orderly step that keeps the rows in step with the queue. -/
def Backed (w : World) (label : Label) : Prop := w.Orderly label ∧ w.RowsFirst label

namespace Mirrored

variable {v : World} {sha256Hex : Bytes → String}

variable {poolId : String} {job : AgentJob} {now : Millis} {fails : Bool} {result : EpisodeResult}

attribute [local simp] World.restart

section

variable (mirrored : w.Mirrored)
include mirrored

theorem enqueueFree (free : w.Free job.jobId) (unreported : w.Unreported job.jobId)
    (leasedAgentId : Option String)
    (backed : (leasedAgentId.getD "" = "" ∧ w.Pending job.jobId job.runId) ∨
      (leasedAgentId.getD "" ≠ "" ∧ w.LeasedTo job.jobId (leasedAgentId.getD "") job.runId))
    (unqueued : w.queue.Unqueued job.jobId) :
    ({ w with queue := w.queue.restorePersisted poolId job leasedAgentId } : World).Mirrored := by
  refine mirrored.setQueue (fun id other => Queue.Retains.restorePersisted leasedAgentId other)
    ?_ ?_ free.2.1 ?_ ?_
  · intro p job' member same
    rw [Queue.pendingOf_restorePersisted] at member
    split at member
    · next added =>
      rcases List.mem_append.mp member with before | new
      · exact absurd same (unqueued p job' before)
      · obtain rfl := List.mem_singleton.mp new
        rcases backed with ⟨_, pending⟩ | ⟨leased, _⟩
        · exact pending
        · exact absurd added.1 leased
    · exact absurd same (unqueued p job' member)
  · intro entry present agent
    rw [Queue.lookup_restorePersisted, if_pos rfl] at present
    cases present
    rcases backed with ⟨unleased, _⟩ | ⟨_, leased⟩
    · exact absurd unleased agent
    · exact Or.inl leased
  · intro t call running request checked same
    exact absurd same (unreported t call running request checked)
  · intro t call running c listed same
    exact absurd same (free.2.2 t call running c listed)

section

variable (inv : w.Invariant)
include inv

theorem persistJob {t : Nat} {deadlineAtMs : Millis}
    (fresh : w.Free job.jobId ∧ w.Unproduced job.jobId ∧ w.Untaken job.jobId)
    (absent : w.row job.jobId = none) (unreported : w.Unreported job.jobId)
    (taken : w.persistJob t poolId job deadlineAtMs now = some v) : v.Mirrored := by
  obtain ⟨free, unproduced, _⟩ := fresh
  obtain rfl | ⟨db, db', store, ran, rfl⟩ := persistJob_cases taken
  · exact mirrored
  · obtain ⟨row, ofJob, pending, _, sameRun, changed⟩ := Db.enqueueAgentJob_agentJobs ran
    rw [row_some store] at absent
    have new : job.jobId ∉ db.agentJobs := by
      rw [Std.ExtTreeMap.mem_iff_isSome_getElem?, absent]
      decide
    have inserted : db'.agentJobs = db.agentJobs.insert job.jobId row := by
      rw [changed]
      apply Std.ExtTreeMap.ext_getElem?
      intro id
      rw [lookup_insertIfNew, lookup_insert]
      simp only [new, not_false_eq_true, and_true]
    have stored : ({ w with store := some db' } : World).Mirrored := by
      refine mirrored.setRow store inserted (Db.enqueueAgentJob_episodes ran)
        (by rw [ofJob, sameRun]) (inv.queue.unqueued_of_missing free.1) unproduced ?_ ?_ ?_
      · intro entry present
        rw [free.1] at present
        cases present
      · intro t call polling here
        exact absurd here (free.2.1 t call polling)
      · intro t c replacement rest running here
        exact absurd here (free.2.2 t _ running c List.mem_cons_self)
    refine { stored with produced := ?_ }
    intro t' producer running
    rcases lookup_insert_cases running with ⟨_, rfl⟩ | before
    · refine ⟨unreported, row, ?_, pending, sameRun⟩
      rw [row_some rfl, inserted, lookup_insert, if_pos rfl]
    · exact stored.produced t' producer before

theorem enqueuePersisted {t : Nat} (taken : w.enqueuePersisted t = some v) : v.Mirrored := by
  obtain ⟨producer, running, rfl⟩ := Option.map_eq_some_iff.mp taken
  obtain ⟨free, _⟩ := inv.produced t producer running
  obtain ⟨unreported, pending⟩ := mirrored.produced t producer running
  have dropped : ({ w with producers := w.producers.erase t } : World).Mirrored :=
    { mirrored with
      produced := fun t' producer running =>
        mirrored.produced t' producer (lookup_of_erase running) }
  exact dropped.enqueueFree free unreported none (Or.inl ⟨rfl, pending⟩)
    (inv.queue.unqueued_of_missing free.1)

theorem restorePersisted {jobId : String} (free : w.Free jobId) (unreported : w.Unreported jobId)
    (taken : w.restorePersisted jobId = some v) : v.Mirrored := by
  obtain ⟨row, leasedAgentId, stored, phase, rfl⟩ := restorePersisted_cases taken
  obtain ⟨rfl, agent⟩ := inv.rows jobId row stored
  have sameRun := mirrored.rowRun _ row stored
  refine mirrored.enqueueFree free unreported leasedAgentId ?_
    (inv.queue.unqueued_of_missing free.1)
  rcases phase with ⟨phase, rfl⟩ | ⟨phase, rfl⟩
  · exact Or.inl ⟨rfl, row, stored, phase, sameRun.symm⟩
  · exact Or.inr ⟨agent phase, row, stored, phase, rfl, sameRun.symm⟩

theorem poll {t : Nat} {agentId : String} {canAgentRun : AgentJob → Bool} {reserved : Bool}
    (taken : w.poll t poolId agentId canAgentRun reserved = some v) : v.Mirrored := by
  obtain rfl | ⟨job, queue, _, popped, ⟨store, _⟩ | ⟨_, rfl⟩⟩ := poll_cases taken
  · exact mirrored
  · have attached := mirrored.attached
    rw [store] at attached
    cases attached
  · obtain ⟨_, _, entries, listed, member⟩ := inv.queue.pop popped
    have shrunk : ({ w with queue } : World).Mirrored := by
      refine mirrored.shrinkQueue ?_
      intro id
      refine ⟨?_, fun p _ member _ => (listed p).subset member⟩
      intro entry present
      rw [← entries]
      exact present
    exact shrunk.insertPoll t _ fun _ => Or.inr ⟨Or.inl rfl, mirrored.queued poolId job member⟩

theorem execLease {t : Nat} (taken : w.execLease t now fails = some v) : v.Mirrored := by
  obtain ⟨call, db, polling, store, unknown, answered⟩ := execLease_cases taken
  have held := inv.held t call polling
  -- while the entry is there and the answer is out, the row is pending under the job's run
  have pending : (w.queue.inFlight[call.job.jobId]?).isSome →
      w.Pending call.job.jobId call.job.runId := by
    intro kept
    rcases mirrored.held t call polling kept with ⟨known, _⟩ | ⟨_, pending⟩
    · rw [unknown] at known
      cases known
    · exact pending
  rcases answered with rfl | ⟨rfl, closed⟩ | ⟨row, present, _, sameRun, rfl⟩
  · exact mirrored.insertPoll t _ fun kept => Or.inr ⟨Or.inr rfl, pending kept⟩
  · refine mirrored.insertPoll t _ fun kept => ?_
    obtain ⟨row, present, facts⟩ := pending kept
    rw [row_some store] at present
    exact absurd facts (closed row present)
  · have stored : w.row call.job.jobId = some row := by rw [row_some store, present]
    let row' : AgentJobRow := { row with
      phase := .leased, agentId := call.agentId, leasedAtMs := some now, updatedAtMs := now }
    let db' : Db := { db with agentJobs := db.agentJobs.insert call.job.jobId row' }
    have others : ({ w with polls := w.polls.erase t } : World).Mirrored := mirrored.dropPoll t
    have changed : db'.agentJobs = db.agentJobs.insert call.job.jobId row' := rfl
    have wrote := others.setRow store changed (fun _ member => member)
      (mirrored.rowRun _ row stored) held.unqueued ?_ ?_ ?_ ?_
    · have known : ({ w with polls := w.polls.erase t, store := some db' } : World).LeasedTo
          call.job.jobId call.agentId call.job.runId := by
        refine ⟨row', ?_, rfl, rfl, sameRun⟩
        rw [row_some rfl, lookup_insert, if_pos rfl]
      have answered := wrote.insertPoll t
        { call with reply := some .leased } (fun _ => Or.inl ⟨rfl, known⟩)
      have same : (w.polls.erase t).insert t { call with reply := some .leased } =
          w.polls.insert t { call with reply := some .leased } := by
        apply Std.ExtTreeMap.ext_getElem?
        intro t'
        rw [lookup_insert, lookup_insert, lookup_erase]
        split <;> rfl
      rw [same] at answered
      exact answered
    · intro t' producer running here
      exact (inv.produced t' producer running).1.2.1 t call polling here.symm
    · intro entry present' agent
      exact absurd (held.entry entry present').2.2 agent
    · intro t' call' polling' here
      have before := lookup_of_erase polling'
      obtain rfl := inv.once t' call' t call before polling here
      simp at polling'
    · intro t' c replacement rest running here entry present' matched
      have tracked := inv.tracked t' _ running c List.mem_cons_self
      exact absurd (matched.1.symm.trans (held.entry entry present').2.2) tracked.agent

theorem finishPoll {t : Nat} (orderly : w.Orderly (.finishPoll t))
    (taken : w.finishPoll t = some v) :
    v.Mirrored := by
  obtain ⟨call, answer, polling, reply, ended⟩ := finishPoll_cases taken
  have held := inv.held t call polling
  have unheld : ∀ (t' : Nat) (call' : PollCall), (w.polls.erase t)[t']? = some call' →
      call'.job.jobId ≠ call.job.jobId := by
    intro t' call' polling' same
    obtain rfl := inv.once t' call' t call (lookup_of_erase polling') polling same
    simp at polling'
  have unleased : ∀ entry, w.queue.inFlight[call.job.jobId]? = some entry →
      entry.agentId = "" := fun entry present => (held.entry entry present).2.2
  rcases ended with ⟨rfl, rfl⟩ | ⟨refused, rfl⟩
  · refine (mirrored.dropPoll t).setQueue
      (fun id other => Queue.Retains.assign other) ?_ ?_ unheld ?_ ?_
    · intro p job member same
      rw [Queue.pendingOf_assign] at member
      exact absurd same (held.unqueued p job member)
    · intro entry present _
      rw [Queue.lookup_assign, if_pos rfl] at present
      obtain ⟨before, found, rfl⟩ := Option.map_eq_some_iff.mp present
      have sameRun : before.runId = call.job.runId := (held.entry before found).2.1
      rcases mirrored.held t call polling (by rw [found]; rfl) with
        ⟨_, row, facts⟩ | ⟨unknown, _⟩
      · refine Or.inl ⟨row, ?_⟩
        rw [sameRun]
        exact facts
      · rw [reply] at unknown
        rcases unknown with impossible | impossible <;> cases impossible
    · intro t' call' running request checked here
      have seen := (mirrored.reported t' call' running request checked).assign
        unleased call.agentId
      rw [here] at seen
      exact seen
    · intro t' call' running c listed here
      exact ((inv.tracked t' call' running c listed).assign unleased here).2
  · -- a poll that was not given its lease puts its job back over a row that is still pending
    have unknown : call.reply ≠ some .leased := fun leased =>
      refused (Option.some.inj (reply.symm.trans leased))
    have kept := orderly call (Option.mem_def.mpr polling) unknown
    have pending : w.Pending call.job.jobId call.job.runId := by
      rcases mirrored.held t call polling kept with ⟨known, _⟩ | ⟨_, pending⟩
      · exact absurd known unknown
      · exact pending
    refine (mirrored.dropPoll t).setQueue (q := w.queue.pushFront call.poolId call.job)
      (fun id other => Queue.Retains.pushFront other) ?_ ?_ unheld ?_ ?_
    · intro p job member same
      rw [Queue.pendingOf_pushFront] at member
      split at member
      · rcases List.mem_cons.mp member with rfl | before
        · exact pending
        · exact absurd same (held.unqueued p job before)
      · exact absurd same (held.unqueued p job member)
    · intro entry present agent
      exact absurd (unleased entry present) agent
    · intro t' call' running request checked here
      have seen := mirrored.reported t' call' running request checked
      rw [here] at seen
      exact seen
    · intro t' call' running c listed here entry present matched
      have tracked := inv.tracked t' call' running c listed
      exact tracked.agent (matched.1.symm.trans (unleased entry present))

theorem complete {t : Nat} {request : AgentJobCompleteRequest} {encoded : Bytes}
    (taken : w.complete t request encoded result = some v) : v.Mirrored := by
  obtain rfl | ⟨idle, started⟩ := complete_cases taken
  · exact mirrored
  have open_ : ∀ request result, w.completes[t]? ≠ some (.committed request result) := by
    intro request result running
    exact idle ((contains_iff_lookup _ _).mpr ⟨_, running⟩)
  rcases started with ⟨_, _, rfl⟩ |
    ⟨entry, present, sameRun, agent, sameAgent, ⟨store, _⟩ | ⟨_, rfl⟩⟩
  · exact mirrored.insertComplete (.checking request encoded) open_
      (fun _ none => by cases none)
  · have attached := mirrored.attached
    rw [store] at attached
    cases attached
  · refine mirrored.insertComplete (.loading request encoded entry.job.episodeId) open_ ?_
    intro request' same
    cases same
    refine ⟨⟨?_, ?_⟩, ?_⟩
    · rw [← sameAgent]
      exact agent
    · intro entry' present'
      rw [present] at present'
      cases present'
      exact Or.inl ⟨sameAgent, sameRun⟩
    · intro t' producer running' here
      have missing := (inv.produced t' producer running').1.1
      rw [← here, present] at missing
      cases missing

end

theorem dropOpen {t : Nat} {call : CompleteCall} (running : w.completes[t]? = some call)
    (open_ : ∀ request result, call ≠ .committed request result) :
    ({ w with completes := w.completes.erase t } : World).Mirrored := by
  refine mirrored.dropComplete ?_
  intro request result running'
  rw [running] at running'
  exact absurd (Option.some.inj running') (open_ request result)

theorem execCheck (inv : w.Invariant) {t : Nat}
    (taken : w.execCheck sha256Hex t now fails = some v) :
    v.Mirrored := by
  obtain ⟨request, encoded, db, running, store, done⟩ := execCheck_cases taken
  have ended := mirrored.dropOpen running (fun _ _ same => by cases same)
  rcases done with rfl | ⟨decision, db', answered, rfl⟩
  · exact ended
  · rcases Db.commitAgentCompletion_cases answered with
      ⟨same, _⟩ | ⟨_, closed, _, _, _, _, _, committed, _⟩
    · refine ended.sameRows inv.queue store (congrArg Db.agentJobs same) ?_
      intro member
      exact mirrored.named db store (Db.commitAgentCompletion_episodes answered "" member)
    · -- the result of the check has no episode id, so it never becomes a terminal result
      exact absurd (Db.commitTerminal_episodes committed).1 (mirrored.named db store)

theorem execLoad {t : Nat} (taken : w.execLoad t result fails = some v) : v.Mirrored := by
  obtain ⟨request, encoded, episodeId, running, rfl | rfl⟩ := execLoad_cases taken
  · exact mirrored.dropOpen running (fun _ _ same => by cases same)
  · refine mirrored.insertComplete _ ?_ ?_
    · intro request' result' running'
      rw [running] at running'
      cases running'
    · intro request' same
      cases same
      refine ⟨mirrored.reported t _ running request rfl, ?_⟩
      intro t' producer running'
      exact (mirrored.produced t' producer running').1 t _ running request rfl

theorem execCommit (inv : w.Invariant) {t : Nat}
    (taken : w.execCommit sha256Hex t now fails = some v) : v.Mirrored := by
  obtain ⟨request, encoded, result, db, running, store, done⟩ := execCommit_cases taken
  have ended := mirrored.dropOpen running (fun _ _ same => by cases same)
  have seen := mirrored.reported t _ running request rfl
  have accepted : ({ w with
      completes := w.completes.insert t (.committed request result) } : World).Mirrored := by
    refine mirrored.insertComplete _ ?_ ?_
    · intro request' result' running'
      rw [running] at running'
      cases running'
    · intro request' same
      cases same
      refine ⟨seen, ?_⟩
      intro t' producer running'
      exact (mirrored.produced t' producer running').1 t _ running request rfl
  rcases done with rfl | ⟨decision, db', answered, ⟨_, rfl⟩ | ⟨refused, rfl⟩⟩
  · exact ended
  · have named : "" ∉ db'.episodes := fun member =>
      mirrored.named db store (Db.commitAgentCompletion_episodes answered "" member)
    rcases Db.commitAgentCompletion_cases answered with
      ⟨same, _⟩ | ⟨row, closed, present, leased, sameRun, _, _, _, committed⟩
    · exact accepted.sameRows inv.queue store (congrArg Db.agentJobs same) named
    · have changed := congrArg Db.agentJobs committed
      have stored : w.row request.jobId = some row := by rw [row_some store, present]
      have isLeased : w.LeasedTo request.jobId row.agentId row.runId :=
        ⟨row, stored, leased, rfl, rfl⟩
      refine accepted.setRow store changed (Db.commitAgentCompletion_episodes answered)
        (mirrored.rowRun _ row stored) ?_ ?_ ?_ ?_ ?_
      · exact (inv.taken _ row stored (Or.inl leased)).1
      · intro t' producer running' here
        have pending := (mirrored.produced t' producer running').2
        rw [here] at pending
        exact pending.not_leasedTo isLeased
      · intro entry _ _
        exact Or.inl ⟨t, request, result, Std.ExtTreeMap.getElem?_insert_self, rfl⟩
      · intro t' call polling here kept
        -- the poll knows a lease of the entry's run, the commit is about an earlier one
        obtain ⟨entry, present'⟩ := Option.isSome_iff_exists.mp kept
        have held := inv.held t' call polling
        rw [← here] at present'
        obtain ⟨_, entryRun, unleased⟩ := held.entry entry present'
        rw [here] at present'
        have earlier := seen.earlier present' unleased
        rcases mirrored.held t' call polling (by rw [here]; exact kept) with
          ⟨_, row', stored', _, _, run'⟩ | ⟨_, pending⟩
        · rw [here, stored] at stored'
          cases stored'
          rw [entryRun, ← run', sameRun] at earlier
          exact absurd earlier (Nat.lt_irrefl _)
        · rw [here] at pending
          exact absurd isLeased pending.not_leasedTo
      · intro t' c replacement rest running' here entry present' matched
        have pending := mirrored.requeued t' c replacement rest running' entry
          (by rw [here]; exact present') matched
        rw [here] at pending
        exact absurd isLeased pending.not_leasedTo
  · rcases Db.commitAgentCompletion_cases answered with
      ⟨same, _⟩ | ⟨_, _, _, _, _, _, ⟨record, replayed⟩, _⟩
    · refine ended.sameRows inv.queue store (congrArg Db.agentJobs same) ?_
      intro member
      exact mirrored.named db store (Db.commitAgentCompletion_episodes answered "" member)
    · exact absurd replayed (refused record)

theorem finishComplete {t : Nat} (taken : w.finishComplete t = some v) : v.Mirrored := by
  obtain ⟨request, result, running, rfl⟩ := finishComplete_cases taken
  have removed := mirrored.shrinkQueue
    (q := w.queue.finishJob request.jobId { complete := request, result })
    (Queue.Retains.of_removed (fun id => Queue.lookup_finishJob _ id) (fun p => by
      rw [Queue.pendingOf_finishJob]))
  refine removed.dropComplete ?_
  intro request' result' running'
  rw [running] at running'
  obtain ⟨rfl, rfl⟩ := CompleteCall.committed.inj (Option.some.inj running')
  rw [Queue.lookup_finishJob, if_pos rfl]

theorem abandon (poolId jobId : String) :
    ({ w with queue := w.queue.abandon poolId jobId } : World).Mirrored :=
  mirrored.shrinkQueue (Queue.Retains.of_removed (fun id => Queue.lookup_abandon id)
    Queue.pendingOf_abandon_sublist)

theorem markTerminal (inv : w.Invariant) {jobId : String} {cancelled : Bool}
    (missing : w.queue.inFlight[jobId]? = none) (unproduced : w.Unproduced jobId)
    (taken : w.markTerminal jobId cancelled now = some v) : v.Mirrored := by
  unfold World.markTerminal at taken
  obtain ⟨db, store, rfl⟩ := Option.map_eq_some_iff.mp taken
  rcases Db.markAgentJobTerminal_cases db now jobId (if cancelled then .cancelled else .timedOut)
    with same | ⟨row, present, _, changed⟩
  · rw [same]
    exact mirrored.sameRows inv.queue store rfl (mirrored.named db store)
  · rw [changed]
    have stored : w.row jobId = some row := by rw [row_some store, present]
    refine mirrored.setRow store rfl (fun _ member => member) (mirrored.rowRun _ row stored)
      (inv.queue.unqueued_of_missing missing) unproduced ?_ ?_ ?_
    · intro entry present'
      rw [missing] at present'
      cases present'
    · intro t call _ _ kept
      rw [missing] at kept
      cases kept
    · intro t c replacement rest _ _ entry present'
      rw [missing] at present'
      cases present'

theorem reclaim {t : Nat} {stale : String → Bool} {uuids : String → String}
    (taken : w.reclaim t stale uuids = some v) : v.Mirrored := by
  unfold World.reclaim at taken
  split at taken
  · cases taken
  · next idle =>
    cases store : w.store with
    | none =>
      have attached := mirrored.attached
      rw [store] at attached
      cases attached
    | some db =>
      simp only [store] at taken
      cases taken
      refine mirrored.continueReclaim ?_ _
      intro c replacement rest running
      exact absurd ((contains_iff_lookup _ _).mpr ⟨_, running⟩) idle

theorem execRequeue (inv : w.Invariant) {t : Nat} {uuid : String}
    (taken : w.execRequeue t uuid now fails = some v) : v.Mirrored := by
  obtain ⟨candidate, rest, db, running, store, done⟩ := execRequeue_cases taken
  rcases done with rfl | ⟨row, present, leased, rowAgent, rowRun, rfl⟩
  · refine mirrored.continueReclaim ?_ rest
    intro c replacement rest' running'
    rw [running] at running'
    cases running'
  · have tracked := inv.tracked t _ running candidate List.mem_cons_self
    have keyed : (candidate.replacement uuid).jobId = candidate.jobId := tracked.keyed
    rw [keyed] at present
    have stored : w.row candidate.jobId = some row := by rw [row_some store, present]
    have isLeased : w.LeasedTo candidate.jobId candidate.agentId candidate.runId :=
      ⟨row, stored, leased, rowAgent, rowRun⟩
    let row' : AgentJobRow := { row with
      phase := .pending, agentId := "", runId := (candidate.replacement uuid).runId
      job := candidate.replacement uuid, leasedAtMs := none
      completionChecksum := none, updatedAtMs := now }
    let db' : Db := { db with
      agentJobs := db.agentJobs.insert (candidate.replacement uuid).jobId row' }
    have changed : db'.agentJobs = db.agentJobs.insert candidate.jobId row' := by
      rw [← keyed]
    refine mirrored.setRowReclaims store changed (fun _ member => member) rfl ?_ ?_ ?_ ?_ ?_ ?_
    · exact (inv.taken _ row stored (Or.inl leased)).1
    · intro t' producer running' here
      have pending := (mirrored.produced t' producer running').2
      rw [here] at pending
      exact pending.not_leasedTo isLeased
    · -- an entry under an agent has this very lease, or the row would not be leased
      intro entry present' agent
      refine Or.inr ⟨t, candidate, candidate.replacement uuid, rest,
        Std.ExtTreeMap.getElem?_insert_self, rfl, ?_⟩
      rcases mirrored.leased _ entry present' agent with
        ⟨old, stored', _, oldAgent, oldRun⟩ |
        ⟨t', request, result, running', here⟩ | ⟨t', c, replacement, rest', running', here, same⟩
      · rw [stored] at stored'
        cases stored'
        exact ⟨oldAgent.symm.trans rowAgent, oldRun.symm.trans rowRun⟩
      · obtain ⟨old, stored', completed⟩ := inv.committed t' request result running'
        rw [here, stored] at stored'
        cases stored'
        rw [leased] at completed
        cases completed
      · have pending := mirrored.requeued t' c replacement rest' running' entry
          (by rw [here]; exact present') same
        rw [here] at pending
        exact absurd isLeased pending.not_leasedTo
    · intro t' call polling here kept
      obtain ⟨entry, present'⟩ := Option.isSome_iff_exists.mp kept
      have held := inv.held t' call polling
      obtain ⟨_, entryRun, unleased⟩ := held.entry entry (by rw [here]; exact present')
      have earlier := tracked.seen.earlier present' unleased
      rcases mirrored.held t' call polling (by rw [here]; exact kept) with
        ⟨_, old, stored', _, _, oldRun⟩ | ⟨_, pending⟩
      · rw [here, stored] at stored'
        cases stored'
        rw [entryRun, ← oldRun, rowRun] at earlier
        exact absurd earlier (Nat.lt_irrefl _)
      · rw [here] at pending
        exact absurd isLeased pending.not_leasedTo
    · intro t' c replacement rest' running' here entry present' same
      rcases lookup_insert_cases running' with ⟨_, made⟩ | before
      · cases made
        exact ⟨rfl, rfl⟩
      · have pending := mirrored.requeued t' c replacement rest' before entry
          (by rw [here]; exact present') same
        rw [here] at pending
        exact absurd isLeased pending.not_leasedTo
    · intro t' c replacement rest' other
      rw [lookup_insert]
      split
      · next here =>
        subst here
        rw [running]
        refine ⟨?_, ?_⟩
        · intro made
          cases made
          exact absurd rfl other
        · intro made
          cases made
      · exact Iff.rfl

theorem finishReclaim (inv : w.Invariant) {t : Nat} (taken : w.finishReclaim t = some v) :
    v.Mirrored := by
  obtain ⟨candidate, replacement, rest, running, rfl⟩ := finishReclaim_cases taken
  obtain ⟨⟨uuid, rfl⟩, _⟩ := inv.requeued t candidate replacement rest running
  have tracked := inv.tracked t _ running candidate List.mem_cons_self
  have keyed : (candidate.replacement uuid).jobId = candidate.jobId := tracked.keyed
  rcases Queue.applyReclaim_cases w.queue candidate (candidate.replacement uuid) with
    same | ⟨entry, present, matched, reclaimed⟩
  · -- the entry is gone or has another lease, so this reclaim explains nothing
    rw [same]
    refine mirrored.continueReclaim ?_ rest
    intro c replacement' rest' running' entry present matched
    rw [running] at running'
    cases running'
    have changed := Queue.lookup_applyReclaim present matched (candidate.replacement uuid)
    rw [same, present] at changed
    have agent := congrArg InFlightJob.agentId (Option.some.inj changed)
    exact tracked.agent (matched.1.symm.trans agent)
  · have leased : entry.agentId ≠ "" := by
      rw [matched.1]
      exact tracked.agent
    have after : ∀ entry', (w.queue.applyReclaim candidate
        (candidate.replacement uuid)).inFlight[candidate.jobId]? = some entry' →
        entry' = entry.requeue (candidate.replacement uuid) := by
      intro entry' present'
      rw [reclaimed, Queue.pushBack_inFlight, lookup_insert, if_pos rfl] at present'
      exact (Option.some.inj present').symm
    have open_ : ∀ (t : Nat) (call : ReclaimCall), w.reclaims[t]? = some call →
        ∀ c ∈ call.candidates, c.jobId = candidate.jobId →
        ∀ entry' : InFlightJob, (w.queue.applyReclaim candidate
          (candidate.replacement uuid)).inFlight[candidate.jobId]? = some entry' →
            ¬ c.Matches entry' := by
      intro t' call running' c listed _ entry' present' matched'
      obtain rfl := after entry' present'
      exact (inv.tracked t' call running' c listed).agent matched'.1.symm
    have unqueued := inv.queue.unqueued_of_leased present leased
    have reclaimedWorld : ({ w with
        queue := w.queue.applyReclaim candidate (candidate.replacement uuid) } :
          World).Mirrored := by
      refine mirrored.setQueue
        (fun id other => Queue.Retains.applyReclaim keyed other) ?_ ?_ ?_ ?_ open_
      · intro p job member here
        rw [reclaimed, Queue.pendingOf_pushBack] at member
        have known : job = candidate.replacement uuid := by
          split at member
          · rcases List.mem_append.mp member with before | added
            · exact absurd here (unqueued p job before)
            · exact List.mem_singleton.mp added
          · exact absurd here (unqueued p job member)
        rw [known, keyed]
        exact mirrored.requeued t candidate _ rest running entry present matched
      · intro entry' present' agent
        obtain rfl := after entry' present'
        exact absurd rfl agent
      · intro t' call polling here
        exact leased ((inv.held t' call polling).entry entry (by rw [here]; exact present)).2.2
      · intro t' call running' request checked here
        have seen := (mirrored.reported t' call running' request checked).applyReclaim tracked uuid
        rw [here] at seen
        exact seen
    refine reclaimedWorld.continueReclaim ?_ rest
    intro c replacement' rest' running' entry' present' matched'
    rw [running] at running'
    cases running'
    exact open_ t _ running candidate List.mem_cons_self rfl entry' present' matched'

theorem otherCommand (inv : w.Invariant) {db : Db} (taken : w.otherCommand db = some v) :
    v.Mirrored := by
  obtain ⟨before, store, named, rfl⟩ := otherCommand_cases taken
  exact mirrored.sameRows inv.queue store rfl named

theorem restart : w.restart.Mirrored where
  attached := mirrored.attached
  named := mirrored.named
  rowRun := mirrored.rowRun
  queued := by simp [Queue.pendingOf]
  leased := by simp
  held := by simp
  reported := by simp
  requeued := by simp
  produced := by simp

theorem step (inv : w.Invariant) {label : Label} (backed : w.Backed label)
    (taken : w.step sha256Hex label = some v) : v.Mirrored := by
  obtain ⟨orderly, backed⟩ := backed
  cases label with
  | persistJob =>
    exact mirrored.persistJob inv orderly backed.1 backed.2 taken
  | enqueuePersisted t => exact mirrored.enqueuePersisted inv taken
  | enqueue => exact backed.elim
  | restorePersisted => exact mirrored.restorePersisted inv orderly.1 backed taken
  | poll => exact mirrored.poll inv taken
  | execLease => exact mirrored.execLease inv taken
  | finishPoll t => exact mirrored.finishPoll inv orderly taken
  | complete => exact mirrored.complete inv taken
  | execCheck => exact mirrored.execCheck inv taken
  | execLoad => exact mirrored.execLoad taken
  | execCommit => exact mirrored.execCommit inv taken
  | finishComplete t => exact mirrored.finishComplete taken
  | abandon poolId jobId =>
    cases taken
    exact mirrored.abandon poolId jobId
  | markTerminal => exact mirrored.markTerminal inv backed.1 backed.2 taken
  | reclaim => exact mirrored.reclaim taken
  | execRequeue => exact mirrored.execRequeue inv taken
  | finishReclaim t => exact mirrored.finishReclaim inv taken
  | otherCommand db => exact mirrored.otherCommand inv taken
  | restart =>
    cases taken
    exact mirrored.restart

end

end Mirrored

/-- In a state without an agent RPC between two of its steps, a queued job has a pending row of
its run, which any agent can lease, and an entry under an agent has its leased row. -/
def MirrorsStore (w : World) : Prop :=
  (∀ t : Nat, w.polls[t]? = none) → (∀ t : Nat, w.completes[t]? = none) →
  (∀ t : Nat, w.reclaims[t]? = none) →
    (∀ poolId, ∀ job ∈ w.queue.pendingOf poolId, w.Pending job.jobId job.runId) ∧
    (∀ (id : String) (entry : InFlightJob), w.queue.inFlight[id]? = some entry →
      entry.agentId ≠ "" → w.LeasedTo id entry.agentId entry.runId) ∧
    ∀ db ∈ w.store, ∀ poolId, ∀ job ∈ w.queue.pendingOf poolId, ∀ now agentId,
      (db.leaseAgentJob now job.jobId agentId job.runId).1 = true

theorem Mirrored.mirrorsStore (mirrored : w.Mirrored) : w.MirrorsStore := by
  intro noPoll noComplete noReclaim
  refine ⟨mirrored.queued, ?_, ?_⟩
  · intro id entry present agent
    rcases mirrored.leased id entry present agent with known | ⟨t, _, _, running, _⟩ |
      ⟨t, _, _, _, running, _⟩
    · exact known
    · rw [noComplete t] at running
      cases running
    · rw [noReclaim t] at running
      cases running
  · intro db store poolId job member now agentId
    obtain ⟨row, present, facts⟩ := mirrored.queued poolId job member
    rw [row_some store] at present
    rcases Db.leaseAgentJob_cases db now job.jobId agentId job.runId with
      ⟨_, closed⟩ | ⟨_, _, _, _, leased⟩
    · exact absurd facts (closed row present)
    · rw [leased]

end World

/-- The runs of a server with a store attached. -/
def storedSystem (sha256Hex : Bytes → String) : System World Label where
  init := fun w => w.Initial ∧ w.store.isSome
  step := World.step sha256Hex

/-- A step of the queue and its callers, or the store's `Sweep`. -/
inductive StoreLabel
  | queue (label : Label)
  | sweep (terminalCutoffMs idempotencyCutoffMs : Millis) (maxCompletedEntries : Nat)

/-- `Sweep` deletes terminal episodes, and their jobs by cascade. -/
def World.sweep (w : World) (terminalCutoffMs idempotencyCutoffMs : Millis)
    (maxCompletedEntries : Nat) : World :=
  { w with store := (w.store).map fun db =>
      db.sweep terminalCutoffMs idempotencyCutoffMs maxCompletedEntries }

/-- The runs of a server with a store attached and swept. -/
def sweptSystem (sha256Hex : Bytes → String) : System World StoreLabel where
  init := fun w => w.Initial ∧ w.store.isSome
  step := fun w label => match label with
    | .queue label => w.step sha256Hex label
    | .sweep terminalCutoffMs idempotencyCutoffMs maxCompletedEntries =>
      some (w.sweep terminalCutoffMs idempotencyCutoffMs maxCompletedEntries)

namespace World

variable {w : World} {sha256Hex : Bytes → String}

theorem Mirrored.initial (started : w.Initial) (attached : w.store.isSome) : w.Mirrored := by
  obtain ⟨store, empty, rfl⟩ := started
  obtain ⟨db, rfl⟩ := Option.isSome_iff_exists.mp attached
  obtain ⟨noJobs, named⟩ := empty db rfl
  refine
    { attached := rfl, named := ?_, rowRun := ?_, queued := by simp [Queue.pendingOf]
      leased := by simp, held := by simp, reported := by simp, requeued := by simp
      produced := by simp }
  · intro db' same
    cases same
    exact named
  · intro id row present
    rw [row_some rfl, noJobs] at present
    simp at present

/-- A backed step, or a sweep that deletes rows of jobs that are let go only. -/
def BackedOrKept (w : World) : StoreLabel → Prop
  | .queue label => w.Backed label
  | .sweep terminalCutoffMs _ maxCompletedEntries =>
    ∀ db ∈ w.store, ∀ (id : String) (row : AgentJobRow), db.agentJobs[id]? = some row →
      db.sweepsEpisode terminalCutoffMs maxCompletedEntries row.episodeId = true → w.LetGo id

theorem dropped_of_sweep {db : Db} (store : w.store = some db)
    {terminalCutoffMs idempotencyCutoffMs : Millis} {maxCompletedEntries : Nat}
    (kept : w.BackedOrKept (.sweep terminalCutoffMs idempotencyCutoffMs maxCompletedEntries))
    (id : String) :
    (db.sweep terminalCutoffMs idempotencyCutoffMs maxCompletedEntries).agentJobs[id]? =
        db.agentJobs[id]? ∨
      (db.sweep terminalCutoffMs idempotencyCutoffMs maxCompletedEntries).agentJobs[id]? = none ∧
        w.LetGo id := by
  rw [Db.sweep_job]
  cases present : db.agentJobs[id]? with
  | none => exact Or.inl rfl
  | some row =>
    rw [Option.filter_some]
    cases swept : db.sweepsEpisode terminalCutoffMs maxCompletedEntries row.episodeId with
    | false => exact Or.inl rfl
    | true => exact Or.inr ⟨rfl, kept db store id row present swept⟩

instance (w : World) (jobId : String) : Decidable (w.Unreported jobId) :=
  inferInstanceAs (Decidable (∀ _ _, _))

instance (w : World) : (label : Label) → Decidable (w.RowsFirst label)
  | .persistJob _ _ job _ _ =>
    inferInstanceAs (Decidable (w.row job.jobId = none ∧ w.Unreported job.jobId))
  | .enqueue _ _ => .isFalse id
  | .restorePersisted jobId => inferInstanceAs (Decidable (w.Unreported jobId))
  | .markTerminal jobId _ _ =>
    inferInstanceAs (Decidable (w.queue.inFlight[jobId]? = none ∧ w.Unproduced jobId))
  | .enqueuePersisted _ | .poll .. | .execLease .. | .finishPoll _ | .complete .. | .execCheck ..
  | .execLoad .. | .execCommit .. | .finishComplete _ | .abandon .. | .reclaim ..
  | .execRequeue .. | .finishReclaim _ | .otherCommand _ | .restart => .isTrue trivial

instance (w : World) (label : Label) : Decidable (w.Backed label) := instDecidableAnd

instance (w : World) (jobId : String) : Decidable (w.LetGo jobId) :=
  inferInstanceAs (Decidable (_ ∧ _ ∧ _))

instance (w : World) : (label : StoreLabel) → Decidable (w.BackedOrKept label)
  | .queue label => inferInstanceAs (Decidable (w.Backed label))
  | .sweep .. => inferInstanceAs (Decidable (∀ _ ∈ w.store, ∀ _ _, _ → _ → _))

end World

end UEnv.AgentJob
