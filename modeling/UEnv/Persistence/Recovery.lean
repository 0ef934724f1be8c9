import UEnv.AgentJob.Queue
import UEnv.Service.Submission

/-!
# Recovery after a restart

`persistence/recovery.rs` with the loads it starts from, and the coordinator it fills. A task
that recovery spawns is recorded with what it waits for. The cleanup of gateway sessions and the
replay of the outbox come last and fail only when SQLite does.
-/

namespace UEnv.Persistence

open Proto Wire Service Tables Fallible

/-- sqlite.rs, 45-51. -/
structure RecoveryEpisode where
  request : EpisodeRequest
  requestChecksum : String
  phase : EpisodePhase
  deadlineAtMs : Millis
  dispatch : Option DispatchRecord

/-- `RecoveryAgentJob`; `gateway` is the session to destroy at the end: url, key and id. -/
structure RecoveryAgentJob where
  request : EpisodeRequest
  requestChecksum : String
  poolId : String
  job : AgentJob
  phase : JobPhase
  agentId : String
  deadlineAtMs : Millis
  gateway : Option (String × List UInt8 × String)

namespace Db

variable (db : Db)

/-- The row of `load_recovery` for an episode, with its latest dispatch. -/
def recoveryEpisodeOf (row : EpisodeRow) : RecoveryEpisode :=
  { request := row.request, requestChecksum := row.requestChecksum, phase := row.phase
    deadlineAtMs := row.deadlineAtMs, dispatch := db.loadLatestDispatch row.request.episodeId }

/-- `load_recovery`: the episodes without a terminal phase, `ORDER BY created_at_ms`. -/
def loadRecovery : List RecoveryEpisode :=
  (((rows db.episodes).filter fun row => !row.phase.terminal).insertionSort
    fun a b => a.createdAtMs ≤ b.createdAtMs).map db.recoveryEpisodeOf

/-- The sessions of an episode that are not destroyed. -/
def openSessions (episodeId : String) : List (String × GatewaySessionRow) :=
  db.gatewaySessions.toList.filter fun entry =>
    entry.2.episodeId == episodeId && (entry.2.phase == .active || entry.2.phase == .cleanupPending)

/-- The rows that one job contributes to `load_agent_recovery`: a join with its episode and a
left join with the open sessions of the episode. -/
def agentRecoveryOf (row : AgentJobRow) : List RecoveryAgentJob :=
  match db.episodes[row.episodeId]? with
  | none => []
  | some episode =>
    let record : RecoveryAgentJob :=
      { request := episode.request, requestChecksum := episode.requestChecksum
        poolId := row.poolId, job := row.job, phase := row.phase, agentId := row.agentId
        deadlineAtMs := row.deadlineAtMs, gateway := none }
    match db.openSessions row.episodeId with
    | [] => [record]
    | sessions => sessions.map fun (sessionId, session) =>
      { record with
        gateway := some (session.gatewayPublicUrl, session.gatewayApiKey, sessionId) }

/-- `load_agent_recovery`: the pending and leased jobs, `ORDER BY updated_at_ms`. -/
def loadAgentRecovery : List RecoveryAgentJob :=
  (((rows db.agentJobs).filter fun row =>
    row.phase == .pending || row.phase == .leased).insertionSort
    fun a b => a.updatedAtMs ≤ b.updatedAtMs).flatMap db.agentRecoveryOf

end Db

/-- What recovery spawns: the wait for the report of a dispatch, the wait for the completion of an
agent job, or a new submission. -/
inductive RecoveryTask
  | nativeWait (request : EpisodeRequest) (dispatch : DispatchRecord)
  | agentWait (record : RecoveryAgentJob)
  | submission (request : EpisodeRequest)

structure Recovered where
  coordinator : Coordinator := ∅
  queue : AgentJob.Queue := {}
  tasks : List RecoveryTask := []

/-- The request that `recover_native_wait` makes of a persisted one. -/
def redispatched (request : EpisodeRequest) (dispatch : DispatchRecord) : EpisodeRequest :=
  { request with
    attemptId := dispatch.attemptId
    dispatchLeaseId := dispatch.dispatchLeaseId
    dispatchToken := dispatch.dispatchToken
    schedulerEpoch := dispatch.serverEpoch }

variable (sha256Hex : Bytes → String)

/-- `recover_native_wait` (recovery.rs, 199-318). -/
def recoverNativeWait (s : Recovered) (request : EpisodeRequest) (dispatch : DispatchRecord) :
    Except String Recovered := do
  let request := redispatched request dispatch
  let (owner, coordinator) ←
    s.coordinator.getOrInsert request.episodeId (requestChecksum sha256Hex request)
  if !owner then .error "duplicate coordinator during recovery"
  else .ok { s with coordinator, tasks := s.tasks ++ [.nativeWait request dispatch] }

/-- One episode of `recover_state`. -/
def recoverEpisode (s : Recovered) (record : RecoveryEpisode) : Except String Recovered :=
  if requestChecksum sha256Hex record.request ≠ record.requestChecksum then
    .error s!"persisted request checksum mismatch for {record.request.episodeId}"
  else match record.dispatch with
    | some dispatch => recoverNativeWait sha256Hex s record.request dispatch
    | none =>
      if record.phase = .agentDispatched then .ok s
      else if record.phase ≠ .queued then
        .error s!"cannot recover episode {record.request.episodeId} in phase {record.phase.text} without dispatch"
      else .ok { s with tasks := s.tasks ++ [.submission record.request] }

/-- One job of `recover_agent_jobs`. -/
def recoverAgentJob (s : Recovered) (record : RecoveryAgentJob) : Except String Recovered :=
  if requestChecksum sha256Hex record.request ≠ record.requestChecksum then
    .error s!"persisted AgentJob request checksum mismatch for {record.request.episodeId}"
  else do
    let leasedAgentId := if record.phase = .leased then some record.agentId else none
    let queue := s.queue.restorePersisted record.poolId record.job leasedAgentId
    let (owner, coordinator) ←
      s.coordinator.getOrInsert record.request.episodeId record.requestChecksum
    if !owner then
      .error s!"duplicate AgentJob coordinator during recovery for {record.request.episodeId}"
    else .ok { coordinator, queue, tasks := s.tasks ++ [.agentWait record] }

/-- `recover_state` (recovery.rs, 10-55). -/
def recoverState (db : Db) : Except String Recovered := do
  let s ← db.loadRecovery.foldlM (recoverEpisode sha256Hex) {}
  db.loadAgentRecovery.foldlM (recoverAgentJob sha256Hex) s

/-- The coordinator once the submissions that recovery spawned have reached it; one that is
refused only logs. -/
def startSubmission (coord : Coordinator) : RecoveryTask → Coordinator
  | .submission request =>
    match coord.getOrInsert request.episodeId (requestChecksum sha256Hex request) with
    | .ok (_, coord) => coord
    | .error _ => coord
  | .nativeWait .. | .agentWait _ => coord

def Recovered.started (s : Recovered) : Coordinator :=
  s.tasks.foldl (startSubmission sha256Hex) s.coordinator

variable {sha256Hex}

theorem mem_rows {α : Type} {table : Table α} {row : α} :
    row ∈ rows table ↔ ∃ key : String, table[key]? = some row := by
  unfold rows
  rw [List.mem_map]
  refine ⟨?_, ?_⟩
  · rintro ⟨⟨key, value⟩, member, rfl⟩
    exact ⟨key, Std.ExtTreeMap.mem_toList_iff_getElem?_eq_some.mp member⟩
  · rintro ⟨key, present⟩
    exact ⟨(key, row), Std.ExtTreeMap.mem_toList_iff_getElem?_eq_some.mpr present, rfl⟩

namespace Db

variable {db : Db}

/-- `load_recovery` lists exactly the unfinished episodes. -/
theorem mem_loadRecovery {record : RecoveryEpisode} :
    record ∈ db.loadRecovery ↔ ∃ (id : String) (row : EpisodeRow), db.episodes[id]? = some row ∧
      row.phase.terminal = false ∧ record = db.recoveryEpisodeOf row := by
  unfold loadRecovery
  simp only [List.mem_map, List.mem_insertionSort, List.mem_filter, mem_rows, Bool.not_eq_true']
  refine ⟨?_, ?_⟩
  · rintro ⟨row, ⟨⟨id, present⟩, active⟩, rfl⟩
    exact ⟨id, row, present, active, rfl⟩
  · rintro ⟨id, row, present, active, rfl⟩
    exact ⟨row, ⟨⟨id, present⟩, active⟩, rfl⟩

theorem mem_agentRecoveryOf {row : AgentJobRow} {record : RecoveryAgentJob}
    (listed : record ∈ db.agentRecoveryOf row) :
    ∃ episode : EpisodeRow, db.episodes[row.episodeId]? = some episode ∧
      record.request = episode.request ∧ record.requestChecksum = episode.requestChecksum ∧
      record.job = row.job ∧ record.poolId = row.poolId ∧ record.phase = row.phase ∧
      record.agentId = row.agentId ∧ record.deadlineAtMs = row.deadlineAtMs := by
  unfold agentRecoveryOf at listed
  split at listed
  · cases listed
  · next episode present =>
    simp only at listed
    split at listed
    · obtain rfl := List.mem_singleton.mp listed
      exact ⟨episode, present, rfl, rfl, rfl, rfl, rfl, rfl, rfl⟩
    · obtain ⟨session, _, rfl⟩ := List.mem_map.mp listed
      exact ⟨episode, present, rfl, rfl, rfl, rfl, rfl, rfl, rfl⟩

/-- `load_agent_recovery` lists the pending and leased jobs. -/
theorem mem_loadAgentRecovery {record : RecoveryAgentJob} :
    record ∈ db.loadAgentRecovery ↔ ∃ (jobId : String) (row : AgentJobRow),
      db.agentJobs[jobId]? = some row ∧ (row.phase = .pending ∨ row.phase = .leased) ∧
        record ∈ db.agentRecoveryOf row := by
  unfold loadAgentRecovery
  simp only [List.mem_flatMap, List.mem_insertionSort, List.mem_filter, mem_rows, Bool.or_eq_true,
    beq_iff_eq]
  refine ⟨?_, ?_⟩
  · rintro ⟨row, ⟨⟨jobId, present⟩, phase⟩, listed⟩
    exact ⟨jobId, row, present, phase, listed⟩
  · rintro ⟨jobId, row, present, phase, listed⟩
    exact ⟨row, ⟨⟨jobId, present⟩, phase⟩, listed⟩

end Db

variable {s t : Recovered}

/-- What `recover_native_wait` does when it succeeds. -/
theorem recoverNativeWait_cases {request : EpisodeRequest} {dispatch : DispatchRecord}
    (waited : recoverNativeWait sha256Hex s request dispatch = .ok t) :
    s.coordinator[request.episodeId]? = none ∧ t = { s with
        coordinator := s.coordinator.insert request.episodeId
          (requestChecksum sha256Hex (redispatched request dispatch))
        tasks := s.tasks ++ [.nativeWait (redispatched request dispatch) dispatch] } := by
  unfold recoverNativeWait at waited
  obtain ⟨⟨owner, coordinator⟩, answered, waited⟩ := bind_eq_ok.mp waited
  rcases Coordinator.getOrInsert_cases answered with ⟨rfl, _, _⟩ | ⟨rfl, absent, rfl⟩
  · cases waited
  · cases waited
    exact ⟨absent, rfl⟩

theorem recoverEpisode_cases {record : RecoveryEpisode}
    (recovered : recoverEpisode sha256Hex s record = .ok t) :
    (∃ dispatch, record.dispatch = some dispatch ∧ s.coordinator[record.request.episodeId]? = none ∧
      t = { s with
        coordinator := s.coordinator.insert record.request.episodeId
          (requestChecksum sha256Hex (redispatched record.request dispatch))
        tasks := s.tasks ++ [.nativeWait (redispatched record.request dispatch) dispatch] }) ∨
    (record.dispatch = none ∧ record.phase = .agentDispatched ∧ t = s) ∨
    (record.dispatch = none ∧ record.phase = .queued ∧
      t = { s with tasks := s.tasks ++ [.submission record.request] }) := by
  unfold recoverEpisode at recovered
  split at recovered
  · cases recovered
  · split at recovered
    · next dispatch latest =>
      obtain ⟨absent, rfl⟩ := recoverNativeWait_cases recovered
      exact Or.inl ⟨dispatch, latest, absent, rfl⟩
    · next undispatched =>
      split at recovered
      · next phase =>
        cases recovered
        exact Or.inr (Or.inl ⟨undispatched, phase, rfl⟩)
      · split at recovered
        · cases recovered
        · next phase =>
          cases recovered
          exact Or.inr (Or.inr ⟨undispatched, not_ne_iff.mp phase, rfl⟩)

theorem recoverAgentJob_cases {record : RecoveryAgentJob}
    (recovered : recoverAgentJob sha256Hex s record = .ok t) :
    s.coordinator[record.request.episodeId]? = none ∧
      t.coordinator = s.coordinator.insert record.request.episodeId record.requestChecksum ∧
      t.queue = s.queue.restorePersisted record.poolId record.job
        (if record.phase = .leased then some record.agentId else none) ∧
      t.tasks = s.tasks ++ [.agentWait record] := by
  unfold recoverAgentJob at recovered
  split at recovered
  · cases recovered
  · obtain ⟨⟨owner, coordinator⟩, answered, recovered⟩ := bind_eq_ok.mp recovered
    rcases Coordinator.getOrInsert_cases answered with ⟨rfl, _, _⟩ | ⟨rfl, absent, rfl⟩
    · cases recovered
    · cases recovered
      exact ⟨absent, rfl, rfl, rfl⟩

theorem recoverState_cases {db : Db} {state : Recovered}
    (recovered : recoverState sha256Hex db = .ok state) :
    ∃ s, db.loadRecovery.foldlM (recoverEpisode sha256Hex) {} = .ok s ∧
      db.loadAgentRecovery.foldlM (recoverAgentJob sha256Hex) s = .ok state :=
  bind_eq_ok.mp recovered

/-- A spawned submission leaves the entries as they are, or adds that of its request. -/
theorem startSubmission_cases (coord : Coordinator) (task : RecoveryTask) :
    startSubmission sha256Hex coord task = coord ∨
    ∃ request, task = .submission request ∧ coord[request.episodeId]? = none ∧
      startSubmission sha256Hex coord task =
        coord.insert request.episodeId (requestChecksum sha256Hex request) := by
  cases task with
  | nativeWait => exact Or.inl rfl
  | agentWait => exact Or.inl rfl
  | submission request =>
    simp only [startSubmission]
    split
    · next owner coord' answered =>
      rcases Coordinator.getOrInsert_cases answered with ⟨_, _, same⟩ | ⟨_, absent, new⟩
      · exact Or.inl same
      · exact Or.inr ⟨request, rfl, absent, new⟩
    · exact Or.inl rfl

theorem startSubmission_extends (coord : Coordinator) (task : RecoveryTask) :
    coord.Extends (startSubmission sha256Hex coord task) := by
  rcases startSubmission_cases coord task with same | ⟨request, _, absent, new⟩
  · rw [same]
    exact Coordinator.Extends.refl coord
  · rw [new]
    exact Coordinator.extends_insert absent

theorem mem_startSubmission (coord : Coordinator) (request : EpisodeRequest) :
    request.episodeId ∈ startSubmission sha256Hex coord (.submission request) := by
  rw [mem_iff_lookup]
  simp only [startSubmission, Coordinator.getOrInsert]
  cases present : coord[request.episodeId]? with
  | none => exact ⟨requestChecksum sha256Hex request, by simp⟩
  | some existing =>
    refine ⟨existing, ?_⟩
    simp only
    split
    · next answered =>
      split at answered
      · cases answered
      · cases answered
        exact present
    · exact present

end UEnv.Persistence
