import UEnv.Persistence.JobRows
import UEnv.Lib.Fallible

/-!
# Commands on `episodes`

No command rewrites a stored request or its checksum; only a submission inserts an episode.
-/

namespace UEnv.Persistence

open Proto Wire Tables Fallible

namespace Db

variable {db db' db'' : Db} {sha256Hex : Bytes → String} {now : Millis}

/-- Every episode of `db'` is one of `db` with the same request and checksum. -/
def SameRequests (db db' : Db) : Prop :=
  ∀ (id : String) (row' : EpisodeRow), db'.episodes[id]? = some row' → ∃ row : EpisodeRow,
    db.episodes[id]? = some row ∧ row'.request = row.request ∧
      row'.requestChecksum = row.requestChecksum

theorem SameRequests.of_eq (same : db'.episodes = db.episodes) : SameRequests db db' := by
  intro id row present
  rw [same] at present
  exact ⟨row, present, rfl, rfl⟩

theorem SameRequests.trans (first : SameRequests db db') (second : SameRequests db' db'') :
    SameRequests db db'' := by
  intro id row'' present
  obtain ⟨row', present', request', checksum'⟩ := second id row'' present
  obtain ⟨row, present, request, checksum⟩ := first id row' present'
  exact ⟨row, present, request'.trans request, checksum'.trans checksum⟩

variable {episodeId code message : String} {result : EpisodeResult}

theorem SameRequests.insert {row row' : EpisodeRow} (present : db.episodes[episodeId]? = some row)
    (changed : db'.episodes = db.episodes.insert episodeId row')
    (request : row'.request = row.request) (checksum : row'.requestChecksum = row.requestChecksum) :
    SameRequests db db' := by
  intro id found present'
  rw [changed] at present'
  rcases lookup_insert_cases present' with ⟨rfl, rfl⟩ | before
  · exact ⟨row, present, request, checksum⟩
  · exact ⟨found, before, rfl, rfl⟩

theorem updateActiveEpisode_sameRequests (db : Db) (episodeId : String)
    (f : EpisodeRow → EpisodeRow)
    (request : ∀ row, (f row).request = row.request)
    (checksum : ∀ row, (f row).requestChecksum = row.requestChecksum) :
    SameRequests db (db.updateActiveEpisode episodeId f) := by
  unfold updateActiveEpisode
  cases present : db.episodes[episodeId]? with
  | none => exact SameRequests.of_eq rfl
  | some row =>
    simp only
    split
    · exact SameRequests.of_eq rfl
    · exact SameRequests.insert present rfl (request row) (checksum row)

theorem commitTerminal_sameRequests
    (committed : db.commitTerminal sha256Hex now result code message = .ok db') :
    SameRequests db db' := by
  obtain ⟨row, present, ⟨_, _, rfl⟩ | ⟨_, _, rfl⟩⟩ := commitTerminal_ok committed
  · exact SameRequests.of_eq rfl
  · exact SameRequests.insert present rfl rfl rfl

theorem putDispatchIntent_sameRequests {record : DispatchRecord}
    (put : db.putDispatchIntent now record = .ok db') : SameRequests db db' := by
  unfold putDispatchIntent at put
  obtain ⟨row, _, put⟩ := bind_eq_ok.mp put
  cases put
  exact SameRequests.trans (SameRequests.of_eq rfl)
    (updateActiveEpisode_sameRequests _ _ _ (fun _ => rfl) (fun _ => rfl))

theorem markDispatchAccepted_sameRequests {leaseId : String} {acceptedAtMs : Millis}
    (marked : db.markDispatchAccepted leaseId acceptedAtMs = .ok db') : SameRequests db db' := by
  unfold markDispatchAccepted at marked
  split at marked
  · cases marked
  · cases marked
    exact SameRequests.trans (SameRequests.of_eq rfl)
      (updateActiveEpisode_sameRequests _ _ _ (fun _ => rfl) (fun _ => rfl))

theorem commitReportResult_sameRequests {idempotency : IdempotencyRecord}
    (committed : db.commitReportResult sha256Hex now result idempotency code message = .ok db') :
    SameRequests db db' := by
  unfold commitReportResult at committed
  split at committed
  · cases committed
    exact SameRequests.of_eq rfl
  · cases committed
  · obtain ⟨closed, ended, committed⟩ := bind_eq_ok.mp committed
    cases committed
    exact (commitTerminal_sameRequests ended).trans (SameRequests.of_eq rfl)

theorem enqueueAgentJob_sameRequests {poolId : String} {job : AgentJob} {deadlineAtMs : Millis}
    (enqueued : db.enqueueAgentJob now poolId job deadlineAtMs = .ok db') :
    SameRequests db db' := by
  have updated : ∀ table, SameRequests db (({ db with agentJobs := table } : Db).updateActiveEpisode
      job.episodeId fun episode =>
        { episode with phase := .agentDispatched, updatedAtMs := now }) := fun _ =>
    SameRequests.trans (SameRequests.of_eq rfl)
      (updateActiveEpisode_sameRequests _ _ _ (fun _ => rfl) (fun _ => rfl))
  unfold enqueueAgentJob at enqueued
  simp only at enqueued
  split at enqueued
  · cases enqueued
  · cases enqueued
    exact updated _

theorem leaseAgentJob_sameRequests (jobId agentId runId : String) :
    SameRequests db (db.leaseAgentJob now jobId agentId runId).2 := by
  rcases leaseAgentJob_cases db now jobId agentId runId with ⟨refused, _⟩ | ⟨_, _, _, _, leased⟩
  · rw [refused]
    exact SameRequests.of_eq rfl
  · rw [leased]
    exact SameRequests.of_eq rfl

theorem requeueAgentJob_sameRequests (job : AgentJob) (agentId runId : String) :
    SameRequests db (db.requeueAgentJob now job agentId runId).2 := by
  rcases requeueAgentJob_cases db now job agentId runId with refused | ⟨_, _, _, _, _, requeued⟩
  · rw [refused]
    exact SameRequests.of_eq rfl
  · rw [requeued]
    exact SameRequests.of_eq rfl

theorem markAgentJobTerminal_sameRequests (jobId : String) (phase : JobPhase) :
    SameRequests db (db.markAgentJobTerminal now jobId phase) := by
  rcases markAgentJobTerminal_cases db now jobId phase with same | ⟨_, _, _, changed⟩
  · rw [same]
    exact SameRequests.of_eq rfl
  · rw [changed]
    exact SameRequests.of_eq rfl

theorem upsertGatewaySession_sameRequests {sessionId workerId url : String} {key : List UInt8}
    (upserted : db.upsertGatewaySession now sessionId episodeId workerId url key = .ok db') :
    SameRequests db db' := by
  unfold upsertGatewaySession at upserted
  split at upserted
  · simp only at upserted
    split at upserted
    · cases upserted
      exact SameRequests.of_eq rfl
    · cases upserted
  · cases upserted
    exact SameRequests.of_eq rfl

theorem commitAgentCompletion_sameRequests {request : AgentJobCompleteRequest} {encoded : Bytes}
    {decision : IdempotencyDecision}
    (answered : db.commitAgentCompletion sha256Hex now request encoded result =
      .ok (decision, db')) : SameRequests db db' := by
  rcases commitAgentCompletion_cases answered with
    ⟨rfl, _⟩ | ⟨_, _, _, _, _, _, _, ended, rfl⟩
  · exact SameRequests.of_eq rfl
  · exact (commitTerminal_sameRequests ended).trans (SameRequests.of_eq rfl)

end Db

end UEnv.Persistence
