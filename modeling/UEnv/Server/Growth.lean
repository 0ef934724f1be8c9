import UEnv.Server.Preservation

/-!
# What the commands leave in place

No command but the sweep removes an episode or a job, none rewrites a request, and only the
terminal commits end an episode.
-/

namespace UEnv.Persistence.Db

open Proto Wire Tables Fallible Service

variable {db db' db'' : Db} {sha256Hex : Bytes → String} {now : Millis}

/-- Episodes and jobs stay, with their requests; those in `ends` may end. -/
structure Grows (ends : String → Prop) (db db' : Db) : Prop where
  episodes : ∀ (id : String) (row : EpisodeRow), db.episodes[id]? = some row →
    ∃ row' : EpisodeRow, db'.episodes[id]? = some row' ∧ row'.request = row.request ∧
      (row'.phase.terminal = true → row.phase.terminal = true ∨ ends id)
  jobs : ∀ jobId : String, jobId ∈ db.agentJobs → jobId ∈ db'.agentJobs

def Continues (db db' : Db) : Prop := Grows (fun _ => False) db db'

namespace Grows

variable {ends : String → Prop}

theorem refl (db : Db) : Grows ends db db :=
  ⟨fun _ row present => ⟨row, present, rfl, Or.inl⟩, fun _ member => member⟩

theorem of_eq (episodes : db'.episodes = db.episodes)
    (jobs : ∀ jobId : String, jobId ∈ db.agentJobs → jobId ∈ db'.agentJobs) :
    Grows ends db db' := by
  refine ⟨?_, jobs⟩
  intro id row present
  rw [episodes]
  exact ⟨row, present, rfl, Or.inl⟩

theorem of_insert {id : String} {row row' : EpisodeRow} (present : db.episodes[id]? = some row)
    (episodes : db'.episodes = db.episodes.insert id row') (request : row'.request = row.request)
    (ended : row'.phase.terminal = true → row.phase.terminal = true ∨ ends id)
    (jobs : ∀ jobId : String, jobId ∈ db.agentJobs → jobId ∈ db'.agentJobs) :
    Grows ends db db' := by
  refine ⟨?_, jobs⟩
  intro other found present'
  rw [episodes, lookup_insert]
  by_cases same : id = other
  · subst same
    obtain rfl : row = found := Option.some.inj (present.symm.trans present')
    exact ⟨row', if_pos rfl, request, ended⟩
  · exact ⟨found, (if_neg same).trans present', rfl, Or.inl⟩

theorem updateActiveEpisode (episodeId : String) (f : EpisodeRow → EpisodeRow)
    (request : ∀ row, (f row).request = row.request)
    (active : ∀ row, (f row).phase.terminal = false) :
    Grows ends db (db.updateActiveEpisode episodeId f) := by
  rcases updateActiveEpisode_cases db episodeId f with ⟨same, _⟩ | ⟨row, present, _, updated⟩
  · rw [same]
    exact refl db
  · rw [updated]
    refine of_insert present rfl (request row) ?_ fun _ member => member
    intro impossible
    cases (active row).symm.trans impossible

theorem trans (first : Grows ends db db') (second : Grows ends db' db'') : Grows ends db db'' := by
  refine ⟨?_, fun jobId member => second.jobs jobId (first.jobs jobId member)⟩
  intro id row present
  obtain ⟨row', present', request', ended'⟩ := first.episodes id row present
  obtain ⟨row'', present'', request'', ended''⟩ := second.episodes id row' present'
  refine ⟨row'', present'', request''.trans request', ?_⟩
  intro terminal
  rcases ended'' terminal with before | here
  · exact ended' before
  · exact Or.inr here

end Grows

theorem mem_insert_of_mem {α : Type} {table : Table α} {key other : String} {value : α}
    (member : other ∈ table) : other ∈ table.insert key value :=
  Std.ExtTreeMap.mem_insert.mpr (Or.inr member)

variable {deadlineAtMs : Millis} {result : EpisodeResult} {code message : String}

theorem findOrCreateEpisode_continues {request : EpisodeRequest} {submissionKind : String}
    {answer : EpisodeLookup}
    (found : db.findOrCreateEpisode sha256Hex now request submissionKind deadlineAtMs =
      .ok (answer, db')) : Continues db db' := by
  rcases findOrCreateEpisode_cases found with ⟨rfl, _⟩ | ⟨_, missing, row, _, _, _, rfl⟩
  · exact Grows.refl db'
  · refine ⟨?_, fun _ member => member⟩
    intro id old present
    have apart : request.episodeId ≠ id := by
      rintro rfl
      cases missing.symm.trans present
    exact ⟨old, (lookup_insert _ _ _ _).trans ((if_neg apart).trans present), rfl, Or.inl⟩

theorem putDispatchIntent_continues {record : DispatchRecord}
    (put : db.putDispatchIntent now record = .ok db') : Continues db db' := by
  obtain ⟨row, _, put⟩ := bind_eq_ok.mp put
  cases put
  refine Grows.trans ?_ (Grows.updateActiveEpisode _ _ ?_ ?_)
  · exact Grows.of_eq rfl fun _ member => member
  · exact fun _ => rfl
  · exact fun _ => rfl

theorem markDispatchAccepted_continues {leaseId : String} {acceptedAtMs : Millis}
    (marked : db.markDispatchAccepted leaseId acceptedAtMs = .ok db') : Continues db db' := by
  unfold markDispatchAccepted at marked
  split at marked
  · cases marked
  · cases marked
    refine Grows.trans ?_ (Grows.updateActiveEpisode _ _ ?_ ?_)
    · exact Grows.of_eq rfl fun _ member => member
    · exact fun _ => rfl
    · exact fun _ => rfl

theorem enqueueAgentJob_continues {poolId : String} {job : AgentJob}
    (enqueued : db.enqueueAgentJob now poolId job deadlineAtMs = .ok db') : Continues db db' := by
  unfold enqueueAgentJob at enqueued
  simp only at enqueued
  split at enqueued
  · cases enqueued
  · cases enqueued
    refine Grows.trans ?_ (Grows.updateActiveEpisode _ _ ?_ ?_)
    · refine Grows.of_eq rfl ?_
      intro jobId member
      exact Std.ExtTreeMap.mem_insertIfNew.mpr (Or.inr member)
    · exact fun _ => rfl
    · exact fun _ => rfl

theorem leaseAgentJob_continues (jobId agentId runId : String) :
    Continues db (db.leaseAgentJob now jobId agentId runId).2 := by
  rcases leaseAgentJob_cases db now jobId agentId runId with ⟨refused, _⟩ | ⟨_, _, _, _, leased⟩
  · rw [refused]
    exact Grows.refl db
  · rw [leased]
    exact Grows.of_eq rfl fun _ => mem_insert_of_mem

theorem requeueAgentJob_continues (job : AgentJob) (agentId runId : String) :
    Continues db (db.requeueAgentJob now job agentId runId).2 := by
  rcases requeueAgentJob_cases db now job agentId runId with refused | ⟨_, _, _, _, _, requeued⟩
  · rw [refused]
    exact Grows.refl db
  · rw [requeued]
    exact Grows.of_eq rfl fun _ => mem_insert_of_mem

theorem markAgentJobTerminal_continues (jobId : String) (phase : JobPhase) :
    Continues db (db.markAgentJobTerminal now jobId phase) := by
  rcases markAgentJobTerminal_cases db now jobId phase with same | ⟨_, _, _, changed⟩
  · rw [same]
    exact Grows.refl db
  · rw [changed]
    exact Grows.of_eq rfl fun _ => mem_insert_of_mem

theorem upsertGatewaySession_continues {sessionId episodeId workerId url : String}
    {key : List UInt8}
    (upserted : db.upsertGatewaySession now sessionId episodeId workerId url key = .ok db') :
    Continues db db' := by
  unfold upsertGatewaySession at upserted
  split at upserted
  · simp only at upserted
    split at upserted
    · cases upserted
      exact Grows.of_eq rfl fun _ member => member
    · cases upserted
  · cases upserted
    exact Grows.of_eq rfl fun _ member => member

theorem commitTerminal_grows
    (committed : db.commitTerminal sha256Hex now result code message = .ok db') :
    Grows (· = result.episodeId) db db' := by
  obtain ⟨row, present, ⟨_, rfl⟩ | ⟨_, row', request, _, episodes, _, jobs, _⟩⟩ :=
    commitTerminal_cases committed
  · exact Grows.refl db'
  · exact Grows.of_insert present episodes request (fun _ => Or.inr rfl) fun _ member =>
      jobs ▸ member

theorem commitReportResult_grows {idempotency : IdempotencyRecord}
    (committed : db.commitReportResult sha256Hex now result idempotency code message = .ok db') :
    Grows (· = result.episodeId) db db' := by
  unfold commitReportResult at committed
  split at committed
  · cases committed
    exact Grows.refl db
  · cases committed
  · obtain ⟨ended, terminal, committed⟩ := bind_eq_ok.mp committed
    cases committed
    exact (commitTerminal_grows terminal).trans (Grows.of_eq rfl fun _ member => member)

theorem commitAgentCompletion_grows {request : AgentJobCompleteRequest} {encoded : Bytes}
    {decision : IdempotencyDecision}
    (answered : db.commitAgentCompletion sha256Hex now request encoded result =
      .ok (decision, db')) :
    Grows (fun id => id = result.episodeId ∧ request.jobId ∈ db.agentJobs) db db' := by
  rcases commitAgentCompletion_cases answered with
    ⟨rfl, _⟩ | ⟨job, closed, present, _, _, _, _, committed, rfl⟩
  · exact Grows.refl db'
  · have known : request.jobId ∈ db.agentJobs := (mem_iff_lookup _ _).mpr ⟨job, present⟩
    refine ⟨?_, fun _ => mem_insert_of_mem⟩
    intro id row found
    obtain ⟨row', present', request', ended⟩ :=
      (commitTerminal_grows committed).episodes id row found
    exact ⟨row', present', request', fun terminal => (ended terminal).imp_right (⟨·, known⟩)⟩

/-- What a sweep leaves is as it was, and the jobs of the episodes that it leaves stay. -/
structure Thins (db db' : Db) : Prop where
  episodes : ∀ (id : String) (row : EpisodeRow), db'.episodes[id]? = some row →
    db.episodes[id]? = some row
  jobs : ∀ (jobId : String) (job : AgentJobRow), db.agentJobs[jobId]? = some job →
    job.episodeId ∈ db'.episodes → db'.agentJobs[jobId]? = some job

theorem Thins.trans (first : Thins db db') (second : Thins db' db'') : Thins db db'' := by
  refine ⟨fun id row present => first.episodes id row (second.episodes id row present), ?_⟩
  intro jobId job present left
  obtain ⟨row, stays⟩ := (mem_iff_lookup _ _).mp left
  have middle : job.episodeId ∈ db'.episodes :=
    (mem_iff_lookup _ _).mpr ⟨row, second.episodes _ row stays⟩
  exact second.jobs jobId job (first.jobs jobId job present middle) left

theorem deleteEpisodes_thins (doomed : String → EpisodeRow → Bool) :
    Thins db (db.deleteEpisodes doomed) := by
  refine ⟨fun id row present => (lookup_of_filter present).1, ?_⟩
  intro jobId job present left
  obtain ⟨row, stays⟩ := (mem_iff_lookup _ _).mp left
  obtain ⟨before, spared⟩ := lookup_of_filter stays
  refine (lookup_filter _ _ _).trans ?_
  have harmless : doomed job.episodeId row = false := by simpa using spared
  simp [present, before, harmless]

theorem sweep_thins (terminalCutoffMs idempotencyCutoffMs : Millis) (maxCompletedEntries : Nat) :
    Thins db (db.sweep terminalCutoffMs idempotencyCutoffMs maxCompletedEntries) := by
  have expired : ∀ db' : Db, db'.episodes = db.episodes → db'.agentJobs = db.agentJobs →
      Thins db db' := by
    intro db' episodes jobs
    refine ⟨?_, ?_⟩
    · intro id row present
      rw [← episodes]
      exact present
    · intro jobId job present _
      rw [jobs]
      exact present
  unfold sweep
  simp only
  split
  · refine Thins.trans (Thins.trans ?_ (deleteEpisodes_thins _)) (deleteEpisodes_thins _)
    exact expired _ rfl rfl
  · refine Thins.trans ?_ (deleteEpisodes_thins _)
    exact expired _ rfl rfl

end UEnv.Persistence.Db
