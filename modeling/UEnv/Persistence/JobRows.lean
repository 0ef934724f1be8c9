import UEnv.Persistence.Sqlite
import UEnv.Lib.Tables

/-!
# Commands on `agent_jobs`

What each command does to the job table: the compare-and-swap commands change one row or
nothing, a completed row stays as it is, and the commands on other tables leave the jobs alone.
-/

namespace UEnv.Persistence

open Proto Wire Tables

/-- A row that an agent holds or has completed. -/
def AgentJobRow.Taken (row : AgentJobRow) : Prop := row.phase = .leased ∨ row.phase = .completed

instance (row : AgentJobRow) : Decidable row.Taken := instDecidableOr

namespace Db

variable {db db' : Db} {sha256Hex : Bytes → String} {now : Millis}

@[simp]
theorem updateActiveEpisode_agentJobs (episodeId : String) (f : EpisodeRow → EpisodeRow) :
    (db.updateActiveEpisode episodeId f).agentJobs = db.agentJobs := by
  unfold updateActiveEpisode
  cases db.episodes[episodeId]? with
  | none => rfl
  | some =>
    simp only
    split <;> rfl

variable {result : EpisodeResult} {code message poolId : String} {job : AgentJob}
  {deadlineAtMs : Millis} {request : AgentJobCompleteRequest} {encoded : Bytes}
  {decision : IdempotencyDecision}

/-- What a terminal commit does: the episode has ended with an equal result, or ends now. -/
theorem commitTerminal_ok
    (committed : db.commitTerminal sha256Hex now result code message = .ok db') :
    ∃ row : EpisodeRow, db.episodes[result.episodeId]? = some row ∧
      ((row.phase.terminal = true ∧ (row.result.getD {} == result) = true ∧ db' = db) ∨
        (row.phase.terminal = false ∧ ∃ terminalOutcomes, db' = { db with
          terminalOutcomes
          episodes := db.episodes.insert result.episodeId
            (terminalRow sha256Hex now row result code message)
          outbox := db.outbox.insertIfNew (eventId result.episodeId result.attemptId)
            (resultEvent now result) })) := by
  unfold commitTerminal at committed
  split at committed
  · cases committed
  · next row present =>
    refine ⟨row, present, ?_⟩
    split at committed
    · next terminal =>
      split at committed
      · next equal =>
        cases committed
        exact Or.inl ⟨terminal, equal, rfl⟩
      · cases committed
    · next active =>
      have unfinished : row.phase.terminal = false := by simpa using active
      simp only at committed
      split at committed
      · exact Or.inr ⟨unfinished, _, (Except.ok.inj committed).symm⟩
      · exact Or.inr ⟨unfinished, _, (Except.ok.inj committed).symm⟩

theorem commitTerminal_agentJobs
    (committed : db.commitTerminal sha256Hex now result code message = .ok db') :
    db'.agentJobs = db.agentJobs := by
  obtain ⟨row, _, ⟨_, _, rfl⟩ | ⟨_, _, rfl⟩⟩ := commitTerminal_ok committed
  · rfl
  · rfl

theorem enqueueAgentJob_agentJobs
    (enqueued : db.enqueueAgentJob now poolId job deadlineAtMs = .ok db') :
    ∃ row : AgentJobRow, row.job = job ∧ row.phase = .pending ∧ row.agentId = "" ∧
      row.runId = job.runId ∧ db'.agentJobs = db.agentJobs.insertIfNew job.jobId row := by
  unfold enqueueAgentJob at enqueued
  simp only at enqueued
  split at enqueued
  · cases enqueued
  · cases enqueued
    exact ⟨_, rfl, rfl, rfl, rfl, updateActiveEpisode_agentJobs _ _⟩

/-- The episodes of `db'` are episodes of `db`. -/
def EpisodesWithin (db' db : Db) : Prop := ∀ episodeId ∈ db'.episodes, episodeId ∈ db.episodes

theorem EpisodesWithin.insert {episodeId : String} {row row' : EpisodeRow}
    (present : db.episodes[episodeId]? = some row)
    (changed : db'.episodes = db.episodes.insert episodeId row') : EpisodesWithin db' db := by
  intro other member
  rw [changed, Std.ExtTreeMap.mem_insert, Std.compare_eq_iff_eq] at member
  rcases member with rfl | member
  · exact (mem_iff_lookup _ _).mpr ⟨row, present⟩
  · exact member

theorem updateActiveEpisode_episodes (db : Db) (episodeId : String) (f : EpisodeRow → EpisodeRow) :
    EpisodesWithin (db.updateActiveEpisode episodeId f) db := by
  unfold updateActiveEpisode
  cases present : db.episodes[episodeId]? with
  | none => exact fun _ member => member
  | some =>
    simp only
    split
    · exact fun _ member => member
    · exact EpisodesWithin.insert present rfl

theorem commitTerminal_episodes
    (committed : db.commitTerminal sha256Hex now result code message = .ok db') :
    result.episodeId ∈ db.episodes ∧ EpisodesWithin db' db := by
  obtain ⟨row, present, outcome⟩ := commitTerminal_ok committed
  refine ⟨(mem_iff_lookup _ _).mpr ⟨row, present⟩, ?_⟩
  rcases outcome with ⟨_, _, rfl⟩ | ⟨_, _, rfl⟩
  · exact fun _ member => member
  · exact EpisodesWithin.insert present rfl

theorem enqueueAgentJob_episodes
    (enqueued : db.enqueueAgentJob now poolId job deadlineAtMs = .ok db') :
    EpisodesWithin db' db := by
  unfold enqueueAgentJob at enqueued
  simp only at enqueued
  split at enqueued
  · cases enqueued
  · cases enqueued
    exact updateActiveEpisode_episodes _ _ _

theorem leaseAgentJob_cases (db : Db) (now : Millis) (jobId agentId runId : String) :
    (db.leaseAgentJob now jobId agentId runId = (false, db) ∧
      ∀ row, db.agentJobs[jobId]? = some row → ¬ (row.phase = .pending ∧ row.runId = runId)) ∨
    ∃ row, db.agentJobs[jobId]? = some row ∧ row.phase = .pending ∧ row.runId = runId ∧
      db.leaseAgentJob now jobId agentId runId = (true, { db with
        agentJobs := db.agentJobs.insert jobId { row with
          phase := .leased, agentId, leasedAtMs := some now, updatedAtMs := now } }) := by
  unfold leaseAgentJob
  split
  · next missing =>
    refine Or.inl ⟨rfl, ?_⟩
    intro row present
    rw [missing] at present
    cases present
  · next row present =>
    split
    · next pending => exact Or.inr ⟨row, present, pending.1, pending.2, rfl⟩
    · next refused =>
      refine Or.inl ⟨rfl, ?_⟩
      intro row' present'
      rw [present] at present'
      cases present'
      exact refused

theorem requeueAgentJob_cases (db : Db) (now : Millis) (job : AgentJob) (agentId runId : String) :
    db.requeueAgentJob now job agentId runId = (false, db) ∨
    ∃ row, db.agentJobs[job.jobId]? = some row ∧ row.phase = .leased ∧ row.agentId = agentId ∧
      row.runId = runId ∧
      db.requeueAgentJob now job agentId runId = (true, { db with
        agentJobs := db.agentJobs.insert job.jobId { row with
          phase := .pending, agentId := "", runId := job.runId, job, leasedAtMs := none
          completionChecksum := none, updatedAtMs := now } }) := by
  unfold requeueAgentJob
  split
  · exact Or.inl rfl
  · next row present =>
    split
    · next held => exact Or.inr ⟨row, present, held.1, held.2.1, held.2.2, rfl⟩
    · exact Or.inl rfl

/-- A commit that is not an error changes nothing, or it ends the episode and completes a row that
the reporting agent holds under the reported run. A replay is answered for completed rows only. -/
theorem commitAgentCompletion_cases
    (answered : db.commitAgentCompletion sha256Hex now request encoded result =
      .ok (decision, db')) : (db' = db ∧ ∀ record, decision = .replay record →
      ∃ row, db.agentJobs[request.jobId]? = some row ∧ row.phase = .completed) ∨
    ∃ row closed, db.agentJobs[request.jobId]? = some row ∧ row.phase = .leased ∧
      row.runId = request.runId ∧ row.agentId = request.agentId ∧
      (∃ record, decision = .replay record) ∧
      db.commitTerminal sha256Hex now result request.status request.errorMessage = .ok closed ∧
      db' = { closed with agentJobs := db.agentJobs.insert request.jobId { row with
        phase := .completed, completionChecksum := some (sha256Hex encoded)
        updatedAtMs := now } } := by
  unfold commitAgentCompletion at answered
  simp only at answered
  split at answered
  · cases answered
    refine Or.inl ⟨rfl, ?_⟩
    intro record same
    cases same
  · next row present =>
    split at answered
    · next completed =>
      split at answered
      · cases answered
        exact Or.inl ⟨rfl, fun _ _ => ⟨row, present, completed⟩⟩
      · cases answered
        refine Or.inl ⟨rfl, ?_⟩
        intro record same
        cases same
    · split at answered
      · cases answered
        refine Or.inl ⟨rfl, ?_⟩
        intro record same
        cases same
      · next held =>
        simp only [not_or, not_not] at held
        simp only [bind, Except.bind] at answered
        split at answered
        · cases answered
        · next closed ended =>
          cases answered
          refine Or.inr ⟨row, closed, present, held.1, held.2.1, held.2.2, ⟨_, rfl⟩, ended, ?_⟩
          rw [commitTerminal_agentJobs ended]

/-- A replay is answered for the completion that the row holds, committed now or before. -/
theorem commitAgentCompletion_replay {record : IdempotencyRecord}
    (answered : db.commitAgentCompletion sha256Hex now request encoded result =
      .ok (.replay record, db')) :
    ∃ row, db'.agentJobs[request.jobId]? = some row ∧ row.phase = .completed ∧
      row.agentId = request.agentId ∧ row.runId = request.runId ∧
      row.completionChecksum = some (sha256Hex encoded) := by
  unfold commitAgentCompletion at answered
  simp only at answered
  split at answered
  · cases answered
  · next row present =>
    split at answered
    · next completed =>
      split at answered
      · next same =>
        obtain ⟨_, rfl⟩ := Prod.mk.inj (Except.ok.inj answered)
        exact ⟨row, present, completed, same.2.2, same.2.1, same.1⟩
      · cases answered
    · split at answered
      · cases answered
      · next held =>
        simp only [not_or, not_not] at held
        simp only [bind, Except.bind] at answered
        split at answered
        · cases answered
        · obtain ⟨_, rfl⟩ := Prod.mk.inj (Except.ok.inj answered)
          refine ⟨{ row with
            phase := .completed, completionChecksum := some (sha256Hex encoded)
            updatedAtMs := now }, ?_, rfl, held.2.2, held.2.1, rfl⟩
          dsimp only
          rw [lookup_insert, if_pos rfl]

theorem commitAgentCompletion_episodes
    (answered : db.commitAgentCompletion sha256Hex now request encoded result =
      .ok (decision, db')) : EpisodesWithin db' db := by
  rcases commitAgentCompletion_cases answered with
    ⟨rfl, _⟩ | ⟨_, _, _, _, _, _, _, ended, rfl⟩
  · exact fun _ member => member
  · exact (commitTerminal_episodes ended).2

/-- A job that is neither completed nor closed already is closed; another row stays. -/
theorem markAgentJobTerminal_cases (db : Db) (now : Millis) (jobId : String) (phase : JobPhase) :
    db.markAgentJobTerminal now jobId phase = db ∨
    ∃ row, db.agentJobs[jobId]? = some row ∧ (row.phase = .pending ∨ row.phase = .leased) ∧
      db.markAgentJobTerminal now jobId phase = { db with
        agentJobs := db.agentJobs.insert jobId { row with phase, updatedAtMs := now } } := by
  unfold markAgentJobTerminal
  split
  · exact Or.inl rfl
  · next row present =>
    split
    · exact Or.inl rfl
    · next opened =>
      refine Or.inr ⟨row, present, ?_, rfl⟩
      cases phase : row.phase <;> simp_all

end Db

end UEnv.Persistence
