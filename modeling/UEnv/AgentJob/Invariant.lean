import UEnv.AgentJob.Protocol

/-!
# The two maps of the queue

What `pending` and `in_flight` keep together, what they keep with a job that a poll holds and
with a candidate of a reclaim, and one lemma for each operation of the queue.
-/

namespace UEnv.AgentJob

open Proto Persistence Tables

variable {q : Queue} {jobId poolId agentId : String} {job : AgentJob}

/-- What the maps alone keep: an entry is about its own job, and a queued job is queued once,
in the pool of an entry that has the same run and no agent. -/
structure Queue.Consistent (q : Queue) : Prop where
  keyed : ∀ id (entry : InFlightJob), q.inFlight[id]? = some entry → entry.job.jobId = id
  queued : ∀ poolId, ∀ job ∈ q.pendingOf poolId, ∃ entry : InFlightJob,
    q.inFlight[job.jobId]? = some entry ∧
    entry.poolId = poolId ∧ entry.runId = job.runId ∧ entry.agentId = ""
  nodup : ∀ poolId, ((q.pendingOf poolId).map AgentJob.jobId).Nodup

/-- No pool has a job of this id queued. -/
def Queue.Unqueued (q : Queue) (jobId : String) : Prop :=
  ∀ poolId, ∀ job ∈ q.pendingOf poolId, job.jobId ≠ jobId

/-- A popped job: it is in no queue, and its entry, if it is still there, has its pool and run
and no agent. -/
structure Queue.Held (q : Queue) (call : PollCall) : Prop where
  unqueued : q.Unqueued call.job.jobId
  entry : ∀ entry : InFlightJob, q.inFlight[call.job.jobId]? = some entry →
    entry.poolId = call.poolId ∧ entry.runId = call.job.runId ∧ entry.agentId = ""
  agent : call.agentId ≠ ""

/-- A candidate of a reclaim: the entry is the lease of the snapshot, or a later generation,
whose run id is longer. -/
structure Queue.Tracked (q : Queue) (candidate : Queue.Candidate) : Prop where
  keyed : candidate.job.jobId = candidate.jobId
  agent : candidate.agentId ≠ ""
  entry : ∀ entry : InFlightJob, q.inFlight[candidate.jobId]? = some entry →
    entry.poolId = candidate.poolId ∧
      (candidate.Matches entry ∨ candidate.runId.length < entry.runId.length)

namespace Queue

section

variable (consistent : q.Consistent)
include consistent

theorem Consistent.unqueued_of_missing (missing : q.inFlight[jobId]? = none) :
    q.Unqueued jobId := by
  intro poolId job member same
  obtain ⟨entry, present, _⟩ := consistent.queued poolId job member
  rw [same, missing] at present
  cases present

theorem Consistent.unqueued_of_leased {entry : InFlightJob}
    (present : q.inFlight[jobId]? = some entry) (leased : entry.agentId ≠ "") :
    q.Unqueued jobId := by
  intro poolId job member same
  obtain ⟨entry', present', _, _, unleased⟩ := consistent.queued poolId job member
  rw [same, present] at present'
  cases present'
  exact leased unleased

theorem Consistent.add {q' : Queue} (entry : InFlightJob) (jobs : List AgentJob)
    (absent : q.Unqueued job.jobId)
    (entries : ∀ id, q'.inFlight[id]? = if job.jobId = id then some entry else q.inFlight[id]?)
    (listed : ∀ p, q'.pendingOf p = if poolId = p then jobs else q.pendingOf p)
    (added : jobs.Perm (job :: q.pendingOf poolId)) (ofJob : entry.job.jobId = job.jobId)
    (sameRun : entry.runId = job.runId) (ofPool : entry.poolId = poolId)
    (unleased : entry.agentId = "") : q'.Consistent where
  keyed := by
    intro id entry' present
    rw [entries] at present
    split at present
    · next same =>
      cases present
      rw [ofJob, same]
    · exact consistent.keyed id entry' present
  queued := by
    intro p job' member
    rw [listed] at member
    have known : job' = job ∧ poolId = p ∨ job' ∈ q.pendingOf p := by
      split at member
      · next same =>
        rcases List.mem_cons.mp (added.mem_iff.mp member) with rfl | before
        · exact Or.inl ⟨rfl, same⟩
        · exact Or.inr (same ▸ before)
      · exact Or.inr member
    rcases known with ⟨rfl, rfl⟩ | before
    · refine ⟨entry, ?_, ofPool, sameRun, unleased⟩
      rw [entries, if_pos rfl]
    · obtain ⟨entry', present, facts⟩ := consistent.queued p job' before
      refine ⟨entry', ?_, facts⟩
      rw [entries, if_neg (Ne.symm (absent p job' before))]
      exact present
  nodup := by
    intro p
    rw [listed]
    split
    · refine ((added.map AgentJob.jobId).nodup_iff).mpr ?_
      rw [List.map_cons, List.nodup_cons]
      refine ⟨?_, consistent.nodup poolId⟩
      intro member
      obtain ⟨job', member', same⟩ := List.mem_map.mp member
      exact absent poolId job' member' same
    · exact consistent.nodup p

theorem Consistent.restorePersisted (missing : q.inFlight[job.jobId]? = none)
    (leasedAgentId : Option String) : (q.restorePersisted poolId job leasedAgentId).Consistent := by
  have absent := consistent.unqueued_of_missing missing
  by_cases unleased : leasedAgentId.getD "" = ""
  · refine consistent.add _ (q.pendingOf poolId ++ [job]) absent
      (fun id => lookup_restorePersisted leasedAgentId id) ?_ ?_ rfl rfl rfl unleased
    · intro p
      rw [pendingOf_restorePersisted]
      simp only [unleased, true_and]
      split
      · next same => rw [same]
      · rfl
    · exact List.perm_append_singleton job _
  · have listed : ∀ p, (q.restorePersisted poolId job leasedAgentId).pendingOf p =
        q.pendingOf p := by
      intro p
      rw [pendingOf_restorePersisted, if_neg (fun both => unleased both.1)]
    refine ⟨?_, ?_, ?_⟩
    · intro id entry present
      rw [lookup_restorePersisted] at present
      split at present
      · next same =>
        cases present
        exact same
      · exact consistent.keyed id entry present
    · intro p job' member
      rw [listed] at member
      obtain ⟨entry, present, facts⟩ := consistent.queued p job' member
      refine ⟨entry, ?_, facts⟩
      rw [lookup_restorePersisted, if_neg (Ne.symm (absent p job' member))]
      exact present
    · intro p
      rw [listed]
      exact consistent.nodup p

theorem Consistent.remove {q' : Queue}
    (entries : ∀ id, q'.inFlight[id]? = if jobId = id then none else q.inFlight[id]?)
    (listed : ∀ p, (q'.pendingOf p).Sublist (q.pendingOf p)) (gone : q'.Unqueued jobId) :
    q'.Consistent where
  keyed := by
    intro id entry present
    rw [entries] at present
    split at present
    · cases present
    · exact consistent.keyed id entry present
  queued := by
    intro p job member
    obtain ⟨entry, present, facts⟩ := consistent.queued p job ((listed p).subset member)
    refine ⟨entry, ?_, facts⟩
    rw [entries, if_neg (Ne.symm (gone p job member))]
    exact present
  nodup := fun p => (consistent.nodup p).sublist ((listed p).map AgentJob.jobId)

end

theorem pendingOf_abandon_sublist (p : String) :
    ((q.abandon poolId jobId).pendingOf p).Sublist (q.pendingOf p) := by
  rw [pendingOf_abandon]
  split
  · exact List.filter_sublist
  · exact List.Sublist.refl _

section

variable (consistent : q.Consistent)
include consistent

/-- An abandoned job is in no queue, provided the caller names the pool that it was queued in. -/
theorem Consistent.unqueued_abandon
    (ofPool : ∀ entry : InFlightJob, q.inFlight[jobId]? = some entry → entry.poolId = poolId) :
    (q.abandon poolId jobId).Unqueued jobId := by
  intro p job member same
  obtain ⟨entry, present, here, _⟩ :=
    consistent.queued p job ((pendingOf_abandon_sublist p).subset member)
  have samePool : poolId = p := by
    rw [same] at present
    rw [← here, ofPool entry present]
  rw [pendingOf_abandon, if_pos samePool] at member
  simp [same] at member

theorem Consistent.abandon
    (ofPool : ∀ entry : InFlightJob, q.inFlight[jobId]? = some entry → entry.poolId = poolId) :
    (q.abandon poolId jobId).Consistent :=
  consistent.remove (fun id => lookup_abandon id) pendingOf_abandon_sublist
    (consistent.unqueued_abandon ofPool)

theorem Consistent.finishJob (unqueued : q.Unqueued jobId) (completion : Completion) :
    (q.finishJob jobId completion).Consistent := by
  refine consistent.remove (fun id => lookup_finishJob completion id) ?_ ?_
  · intro p
    rw [pendingOf_finishJob]
  · intro p job member
    rw [pendingOf_finishJob] at member
    exact unqueued p job member

theorem Consistent.pop {canAgentRun : AgentJob → Bool} {reserved : Bool} {q' : Queue}
    (popped : q.pop poolId canAgentRun reserved = some (job, q')) :
    q'.Consistent ∧ q'.Unqueued job.jobId ∧ q'.inFlight = q.inFlight ∧
      (∀ p, (q'.pendingOf p).Sublist (q.pendingOf p)) ∧ job ∈ q.pendingOf poolId := by
  obtain ⟨pos, here, rfl⟩ := pop_cases popped
  have member : job ∈ q.pendingOf poolId := List.mem_of_getElem? here
  have listed : ∀ p, ((q.setPending poolId ((q.pendingOf poolId).eraseIdx pos)).pendingOf p).Sublist
      (q.pendingOf p) := by
    intro p
    rw [pendingOf_setPending]
    split
    · next same =>
      rw [← same]
      exact List.eraseIdx_sublist _ _
    · exact List.Sublist.refl _
  refine ⟨⟨consistent.keyed, ?_, ?_⟩, ?_, rfl, listed, member⟩
  · intro p job' member'
    exact consistent.queued p job' ((listed p).subset member')
  · intro p
    exact (consistent.nodup p).sublist ((listed p).map AgentJob.jobId)
  · intro p job' member' same
    obtain ⟨entry, present, ofPool, _⟩ := consistent.queued poolId job member
    obtain ⟨entry', present', ofPool', _⟩ :=
      consistent.queued p job' ((listed p).subset member')
    rw [same, present] at present'
    cases present'
    have samePool : poolId = p := by rw [← ofPool, ofPool']
    rw [pendingOf_setPending, if_pos samePool] at member'
    obtain ⟨bound, at_pos⟩ := List.getElem?_eq_some_iff.mp here
    obtain ⟨i, present⟩ := List.mem_iff_getElem?.mp member'
    -- the other job of this id would be at a second position of the same queue
    rw [List.getElem?_eraseIdx] at present
    have distinct := consistent.nodup poolId
    rw [List.nodup_iff_injective_get] at distinct
    split at present
    · next before =>
      obtain ⟨bound', at_i⟩ := List.getElem?_eq_some_iff.mp present
      have clash := @distinct ⟨i, by simpa using bound'⟩ ⟨pos, by simpa using bound⟩
        (by simp [at_i, at_pos, same])
      simp only [Fin.mk.injEq] at clash
      omega
    · next before =>
      obtain ⟨bound', at_i⟩ := List.getElem?_eq_some_iff.mp present
      have clash := @distinct ⟨i + 1, by simpa using bound'⟩ ⟨pos, by simpa using bound⟩
        (by simp [at_i, at_pos, same])
      simp only [Fin.mk.injEq] at clash
      omega

end

/-- What `q'` says of a job, `q` says too. -/
structure Retains (q q' : Queue) (jobId : String) : Prop where
  entry : ∀ entry, q'.inFlight[jobId]? = some entry → q.inFlight[jobId]? = some entry
  jobs : ∀ p, ∀ job ∈ q'.pendingOf p, job.jobId = jobId → job ∈ q.pendingOf p

variable {q' : Queue}

theorem Unqueued.of_retains (unqueued : q.Unqueued jobId) (retains : q.Retains q' jobId) :
    q'.Unqueued jobId := by
  intro p job member same
  exact unqueued p job (retains.jobs p job member same) same

theorem Held.of_retains {call : PollCall} (held : q.Held call)
    (retains : q.Retains q' call.job.jobId) : q'.Held call where
  unqueued := held.unqueued.of_retains retains
  entry := fun entry present => held.entry entry (retains.entry entry present)
  agent := held.agent

theorem Tracked.of_retains {candidate : Candidate} (tracked : q.Tracked candidate)
    (retains : q.Retains q' candidate.jobId) : q'.Tracked candidate where
  keyed := tracked.keyed
  agent := tracked.agent
  entry := fun entry present => tracked.entry entry (retains.entry entry present)

theorem Retains.of_removed {removed : String}
    (entries : ∀ id, q'.inFlight[id]? = if removed = id then none else q.inFlight[id]?)
    (listed : ∀ p, (q'.pendingOf p).Sublist (q.pendingOf p)) (id : String) : q.Retains q' id where
  entry := by
    intro entry present
    rw [entries] at present
    split at present
    · cases present
    · exact present
  jobs := fun p _ member _ => (listed p).subset member

variable {id : String} {other : Candidate}

theorem Retains.restorePersisted (leasedAgentId : Option String) (other : id ≠ job.jobId) :
    q.Retains (q.restorePersisted poolId job leasedAgentId) id where
  entry := by
    intro entry present
    rw [lookup_restorePersisted, if_neg (Ne.symm other)] at present
    exact present
  jobs := by
    intro p job' member same
    rw [pendingOf_restorePersisted] at member
    split at member
    · rcases List.mem_append.mp member with before | added
      · exact before
      · obtain rfl := List.mem_singleton.mp added
        exact absurd same.symm other
    · exact member

theorem Retains.pushFront (other : id ≠ job.jobId) : q.Retains (q.pushFront poolId job) id where
  entry := fun _ present => present
  jobs := by
    intro p job' member same
    rw [pendingOf_pushFront] at member
    split at member
    · rcases List.mem_cons.mp member with rfl | before
      · exact absurd same.symm other
      · exact before
    · exact member

theorem Retains.assign (other : id ≠ jobId) : q.Retains ((q.assign jobId agentId).getD q) id where
  entry := by
    intro entry present
    rw [lookup_assign, if_neg (Ne.symm other)] at present
    exact present
  jobs := by
    intro p job member _
    rw [pendingOf_assign] at member
    exact member

theorem Retains.applyReclaim {candidate : Candidate} {replacement : AgentJob}
    (keyed : replacement.jobId = candidate.jobId) (other : id ≠ candidate.jobId) :
    q.Retains (q.applyReclaim candidate replacement) id := by
  rcases applyReclaim_cases q candidate replacement with same | ⟨entry, _, _, taken⟩
  · rw [same]
    exact ⟨fun _ present => present, fun _ _ member _ => member⟩
  · rw [taken]
    refine ⟨?_, ?_⟩
    · intro entry' present
      rw [pushBack_inFlight, lookup_insert, if_neg (Ne.symm other)] at present
      exact present
    · intro p job' member same
      rw [pendingOf_pushBack] at member
      split at member
      · rcases List.mem_append.mp member with before | added
        · exact before
        · obtain rfl := List.mem_singleton.mp added
          exact absurd (same.symm.trans keyed) other
      · exact member

theorem Consistent.pushFront (consistent : q.Consistent) {call : PollCall} (held : q.Held call)
    (kept : (q.inFlight[call.job.jobId]?).isSome) :
    (q.pushFront call.poolId call.job).Consistent := by
  obtain ⟨entry, present⟩ := Option.isSome_iff_exists.mp kept
  obtain ⟨ofPool, sameRun, unleased⟩ := held.entry entry present
  refine consistent.add entry _ held.unqueued ?_ ?_
    (List.Perm.refl _) (consistent.keyed _ entry present) sameRun ofPool unleased
  · intro id
    rw [pushFront_inFlight]
    split
    · next same => rw [← same, present]
    · rfl
  · intro p
    rw [pendingOf_pushFront]
    split
    · next same => rw [same]
    · rfl

theorem Consistent.assign (consistent : q.Consistent) (unqueued : q.Unqueued jobId) :
    ((q.assign jobId agentId).getD q).Consistent where
  keyed := by
    intro id entry present
    rw [lookup_assign] at present
    split at present
    · obtain ⟨entry', before, rfl⟩ := Option.map_eq_some_iff.mp present
      exact consistent.keyed id entry' before
    · exact consistent.keyed id entry present
  queued := by
    intro p job member
    rw [pendingOf_assign] at member
    obtain ⟨entry, present, facts⟩ := consistent.queued p job member
    refine ⟨entry, ?_, facts⟩
    rw [lookup_assign, if_neg (Ne.symm (unqueued p job member))]
    exact present
  nodup := by
    intro p
    rw [pendingOf_assign]
    exact consistent.nodup p

theorem Consistent.applyReclaim (consistent : q.Consistent) {candidate : Candidate}
    (tracked : q.Tracked candidate) (uuid : String) :
    (q.applyReclaim candidate (candidate.replacement uuid)).Consistent := by
  rcases applyReclaim_cases q candidate (candidate.replacement uuid) with
    same | ⟨entry, present, same, taken⟩
  · rw [same]
    exact consistent
  · rw [taken]
    have leased : entry.agentId ≠ "" := by
      rw [same.1]
      exact tracked.agent
    have keyed : (candidate.replacement uuid).jobId = candidate.jobId := tracked.keyed
    have absent := consistent.unqueued_of_leased present leased
    rw [← keyed] at absent
    refine consistent.add (entry.requeue (candidate.replacement uuid)) _ absent ?_ ?_
      (List.perm_append_singleton _ _) rfl rfl (tracked.entry entry present).1 rfl
    · intro id
      rw [pushBack_inFlight, lookup_insert, keyed]
    · intro p
      rw [pendingOf_pushBack]
      split
      · next here => rw [← here]; rfl
      · rfl

/-- After a reclaim that was made, every candidate of the job is an earlier generation. -/
theorem Tracked.earlier_of_requeue {candidate : Candidate} {entry : InFlightJob}
    (present : q.inFlight[candidate.jobId]? = some entry) (same : candidate.Matches entry)
    (tracked : q.Tracked other) (here : other.jobId = candidate.jobId) (uuid : String) :
    other.runId.length < (candidate.replacement uuid).runId.length := by
  have next := reclaimedRunId_length candidate.runId uuid
  rw [← here] at present
  have known : other.runId.length ≤ entry.runId.length := by
    rcases (tracked.entry entry present).2 with matched | later
    · exact Nat.le_of_eq (by rw [matched.2])
    · exact Nat.le_of_lt later
  rw [same.2] at known
  exact Nat.lt_of_le_of_lt known next

theorem Tracked.applyReclaim {candidate : Candidate} (tracked : q.Tracked other)
    (reclaimed : q.Tracked candidate) (uuid : String) :
    (q.applyReclaim candidate (candidate.replacement uuid)).Tracked other := by
  by_cases here : other.jobId = candidate.jobId
  · rcases applyReclaim_cases q candidate (candidate.replacement uuid) with
      unchanged | ⟨entry, present, same, taken⟩
    · rw [unchanged]
      exact tracked
    · refine ⟨tracked.keyed, tracked.agent, ?_⟩
      intro entry' present'
      rw [taken, pushBack_inFlight, lookup_insert, if_pos here.symm] at present'
      cases present'
      refine ⟨?_, Or.inr (tracked.earlier_of_requeue present same here uuid)⟩
      rw [← here] at present
      exact (tracked.entry entry present).1
  · exact tracked.of_retains (Retains.applyReclaim reclaimed.keyed here)

/-- An entry that gets its agent keeps the candidates, all of an earlier generation. -/
theorem Tracked.assign {candidate : Candidate} (tracked : q.Tracked candidate)
    (unleased : ∀ entry, q.inFlight[jobId]? = some entry → entry.agentId = "")
    (here : candidate.jobId = jobId) :
    ((q.assign jobId agentId).getD q).Tracked candidate ∧
      ∀ entry, ((q.assign jobId agentId).getD q).inFlight[jobId]? = some entry →
        ¬ candidate.Matches entry := by
  have after : ∀ entry', ((q.assign jobId agentId).getD q).inFlight[jobId]? = some entry' →
      entry'.poolId = candidate.poolId ∧ candidate.runId.length < entry'.runId.length := by
    intro entry' present'
    rw [lookup_assign, if_pos rfl] at present'
    obtain ⟨entry, present, rfl⟩ := Option.map_eq_some_iff.mp present'
    have before := tracked.entry entry (by rw [here]; exact present)
    rcases before with ⟨ofPool, matched | later⟩
    · exact absurd (matched.1.symm.trans (unleased entry present)) tracked.agent
    · exact ⟨ofPool, later⟩
  refine ⟨⟨tracked.keyed, tracked.agent, ?_⟩, ?_⟩
  · intro entry present
    rw [here] at present
    obtain ⟨ofPool, later⟩ := after entry present
    exact ⟨ofPool, Or.inr later⟩
  · intro entry present matched
    have later := (after entry present).2
    rw [matched.2] at later
    exact Nat.lt_irrefl _ later

end Queue

end UEnv.AgentJob
