import UEnv.Persistence.Commands
import UEnv.Persistence.Recovery
import UEnv.Lib.Sha256

/-!
# Submitting an episode again after a restart

Recovery makes a coordinator entry for an episode from its persisted request; for an episode that
was dispatched, from that request with the attempt, lease, token and epoch of the latest dispatch
written into it. A client that submits the request again presents the checksum of the request as
it was persisted.
-/

namespace UEnv.Persistence

open Proto Wire Tables Fallible Runs Service

variable {sha256Hex : Bytes → String} {db : Db}

/-- The checksum covers none of the fields that a dispatch fills in, except the attempt. -/
theorem requestBytes_redispatched (request : EpisodeRequest) (dispatch : DispatchRecord) :
    requestBytes (redispatched request dispatch) =
      requestBytes { request with attemptId := dispatch.attemptId } := rfl

theorem requestChecksum_enqueueTs (request : EpisodeRequest) (enqueueTs : Option F64) :
    requestChecksum sha256Hex { request with enqueueTs } = requestChecksum sha256Hex request := rfl

theorem requestBytes_attemptId_inj (request : EpisodeRequest) {a b : UInt32}
    (same : requestBytes { request with attemptId := a } =
      requestBytes { request with attemptId := b }) : a = b := by
  have encoded : ({ canonicalRequest request with attemptId := a } : EpisodeRequest).encode =
      ({ canonicalRequest request with attemptId := b } : EpisodeRequest).encode :=
    List.append_cancel_right (List.append_cancel_right same)
  exact EpisodeRequest.encode_attemptId_inj (canonicalRequest request) encoded

/-- The entries that recovery makes for an episode: one from its request, or one from its request
and its latest dispatch. -/
def EntryOf (sha256Hex : Bytes → String) (db : Db) (id checksum : String) : Prop :=
  ∃ row : EpisodeRow, db.episodes[id]? = some row ∧
    (checksum = requestChecksum sha256Hex row.request ∨
      ∃ dispatch, db.loadLatestDispatch id = some dispatch ∧
        checksum = requestChecksum sha256Hex (redispatched row.request dispatch))

/-- Every entry and every spawned submission comes from a row. -/
structure FromRows (sha256Hex : Bytes → String) (db : Db) (s : Recovered) : Prop where
  entries : ∀ (id checksum : String), s.coordinator[id]? = some checksum →
    EntryOf sha256Hex db id checksum
  submissions : ∀ request, .submission request ∈ s.tasks → ∃ row : EpisodeRow,
    db.episodes[request.episodeId]? = some row ∧ row.request = request

variable {t state : Recovered} {record : RecoveryEpisode} {row : EpisodeRow}

theorem FromRows.recoverEpisode {s : Recovered} (rows : FromRows sha256Hex db s)
    (sound : db.Sound sha256Hex) (listed : record ∈ db.loadRecovery)
    (recovered : recoverEpisode sha256Hex s record = .ok t) : FromRows sha256Hex db t := by
  obtain ⟨id, row, present, _, rfl⟩ := Db.mem_loadRecovery.mp listed
  have named : row.request.episodeId = id := (sound id row present).1
  rcases recoverEpisode_cases recovered with ⟨dispatch, latest, _, rfl⟩ | ⟨_, _, rfl⟩ | ⟨_, _, rfl⟩
  · refine ⟨?_, ?_⟩
    · intro other checksum entry
      rcases lookup_insert_cases entry with ⟨rfl, rfl⟩ | before
      · exact ⟨row, by rw [← present, ← named]; rfl, Or.inr ⟨dispatch, latest, rfl⟩⟩
      · exact rows.entries other checksum before
    · intro request spawned
      rcases List.mem_append.mp spawned with before | new
      · exact rows.submissions request before
      · cases List.mem_singleton.mp new
  · exact rows
  · refine ⟨rows.entries, ?_⟩
    intro request spawned
    rcases List.mem_append.mp spawned with before | new
    · exact rows.submissions request before
    · cases List.mem_singleton.mp new
      exact ⟨row, by rw [← present, ← named]; rfl, rfl⟩

theorem FromRows.recoverAgentJob {s : Recovered} (rows : FromRows sha256Hex db s)
    (sound : db.Sound sha256Hex) {record : RecoveryAgentJob}
    (listed : record ∈ db.loadAgentRecovery)
    (recovered : recoverAgentJob sha256Hex s record = .ok t) : FromRows sha256Hex db t := by
  obtain ⟨jobId, job, _, _, joined⟩ := Db.mem_loadAgentRecovery.mp listed
  obtain ⟨row, present, request, checksum, _⟩ := Db.mem_agentRecoveryOf joined
  obtain ⟨named, stored, _⟩ := sound job.episodeId row present
  obtain ⟨_, entered, _, spawned⟩ := recoverAgentJob_cases recovered
  refine ⟨?_, ?_⟩
  · intro id existing entry
    rw [entered] at entry
    rcases lookup_insert_cases entry with ⟨rfl, rfl⟩ | before
    · refine ⟨row, ?_, Or.inl ?_⟩
      · rw [request, named]
        exact present
      · rw [checksum, stored]
    · exact rows.entries id existing before
  · intro pending submitted
    rw [spawned] at submitted
    rcases List.mem_append.mp submitted with before | new
    · exact rows.submissions pending before
    · cases List.mem_singleton.mp new

theorem fromRows_of_recoverState (sound : db.Sound sha256Hex)
    (recovered : recoverState sha256Hex db = .ok state) : FromRows sha256Hex db state := by
  obtain ⟨s, episodes, jobs⟩ := recoverState_cases recovered
  have start : FromRows sha256Hex db {} := by
    refine ⟨?_, ?_⟩
    · intro id checksum entry
      simp at entry
    · intro request spawned
      cases spawned
  have middle : FromRows sha256Hex db s :=
    foldlM_invariant (fun u record listed t rows ran => rows.recoverEpisode sound listed ran)
      start episodes
  exact foldlM_invariant (fun u record listed t rows ran => rows.recoverAgentJob sound listed ran)
    middle jobs

theorem recoverEpisode_extends {s : Recovered}
    (recovered : recoverEpisode sha256Hex s record = .ok t) :
    s.coordinator.Extends t.coordinator := by
  rcases recoverEpisode_cases recovered with ⟨dispatch, _, absent, rfl⟩ | ⟨_, _, rfl⟩ | ⟨_, _, rfl⟩
  · exact Coordinator.extends_insert absent
  · exact Coordinator.Extends.refl _
  · exact Coordinator.Extends.refl _

theorem recoverAgentJob_extends {s : Recovered} {record : RecoveryAgentJob}
    (recovered : recoverAgentJob sha256Hex s record = .ok t) :
    s.coordinator.Extends t.coordinator := by
  obtain ⟨absent, entered, _⟩ := recoverAgentJob_cases recovered
  rw [entered]
  exact Coordinator.extends_insert absent

theorem entry_of_dispatched (sound : db.Sound sha256Hex)
    (recovered : recoverState sha256Hex db = .ok state) {id : String}
    (present : db.episodes[id]? = some row) (active : row.phase.terminal = false)
    {dispatch : DispatchRecord} (latest : db.loadLatestDispatch id = some dispatch) :
    state.coordinator[id]? =
      some (requestChecksum sha256Hex (redispatched row.request dispatch)) := by
  have named : row.request.episodeId = id := (sound id row present).1
  obtain ⟨s, episodes, jobs⟩ := recoverState_cases recovered
  have listed : db.recoveryEpisodeOf row ∈ db.loadRecovery :=
    Db.mem_loadRecovery.mpr ⟨id, row, present, active, rfl⟩
  obtain ⟨before, after, split⟩ := List.append_of_mem listed
  rw [split] at episodes
  obtain ⟨u, v, _, entered, rest⟩ := foldlM_split episodes
  have atEntry : v.coordinator[id]? =
      some (requestChecksum sha256Hex (redispatched row.request dispatch)) := by
    have found : (db.recoveryEpisodeOf row).dispatch = some dispatch := by
      rw [← latest, ← named]
      rfl
    rcases recoverEpisode_cases entered with
      ⟨used, taken, _, rfl⟩ | ⟨undispatched, _⟩ | ⟨undispatched, _⟩
    · obtain rfl : used = dispatch := Option.some.inj (taken.symm.trans found)
      rw [lookup_insert, if_pos]
      · rfl
      · exact named
    · rw [found] at undispatched
      cases undispatched
    · rw [found] at undispatched
      cases undispatched
  have throughEpisodes : v.coordinator.Extends s.coordinator :=
    foldlM_invariant (motive := fun t => v.coordinator.Extends t.coordinator)
      (fun _ _ _ _ kept ran => kept.trans (recoverEpisode_extends ran))
      (Coordinator.Extends.refl _) rest
  have throughJobs : s.coordinator.Extends state.coordinator :=
    foldlM_invariant (motive := fun t => s.coordinator.Extends t.coordinator)
      (fun _ _ _ _ kept ran => kept.trans (recoverAgentJob_extends ran))
      (Coordinator.Extends.refl _) jobs
  exact throughJobs id _ (throughEpisodes id _ atEntry)

theorem FromRows.started {s : Recovered} (fromRows : FromRows sha256Hex db s) {id checksum : String}
    (entry : (s.started sha256Hex)[id]? = some checksum) : EntryOf sha256Hex db id checksum := by
  have along : ∀ (tasks : List RecoveryTask) (coord : Coordinator),
      (∀ task ∈ tasks, task ∈ s.tasks) →
      (∀ (id checksum : String), coord[id]? = some checksum → EntryOf sha256Hex db id checksum) →
      ∀ (id checksum : String),
        (tasks.foldl (startSubmission sha256Hex) coord)[id]? = some checksum →
        EntryOf sha256Hex db id checksum := by
    intro tasks
    induction tasks with
    | nil => exact fun coord _ kept => kept
    | cons task rest ih =>
      intro coord spawned kept
      apply ih
      · exact fun other listed => spawned other (List.mem_cons_of_mem _ listed)
      · intro other found present
        rcases startSubmission_cases coord task with same | ⟨request, rfl, _, new⟩
        · rw [same] at present
          exact kept other found present
        · rw [new] at present
          rcases lookup_insert_cases present with ⟨rfl, rfl⟩ | before
          · obtain ⟨row, stored, rfl⟩ := fromRows.submissions request (spawned _ List.mem_cons_self)
            exact ⟨row, stored, Or.inl rfl⟩
          · exact kept other found before
  exact along s.tasks s.coordinator (fun _ listed => listed) fromRows.entries id checksum entry

/-- When the latest dispatch carries the attempt of the request, an entry has its checksum. -/
theorem EntryOf.checksum {id existing : String} (origin : EntryOf sha256Hex db id existing)
    (present : db.episodes[id]? = some row)
    (attempts : ∀ dispatch, db.loadLatestDispatch id = some dispatch →
      dispatch.attemptId = row.request.attemptId) :
    existing = requestChecksum sha256Hex row.request := by
  obtain ⟨source, found, origin⟩ := origin
  obtain rfl : source = row := Option.some.inj (found.symm.trans present)
  rcases origin with direct | ⟨dispatch, latest, rewritten⟩
  · exact direct
  · rw [rewritten]
    unfold requestChecksum
    rw [requestBytes_redispatched, attempts dispatch latest]

/-- The client's request becomes the persisted one, but for the time of the submission. -/
def Resubmits (row : EpisodeRow) (uuid : Uuid) (clock : F64) (req : EpisodeRequest) : Prop :=
  ∃ enqueueTs, prepare uuid clock req = .ok { row.request with enqueueTs }

/-- Every resubmission that comes after the recovery and before the end of the episode is attached
to the recovered entry, and none is refused for another request. -/
def Recovered.Attaches (sha256Hex : Bytes → String) (state : Recovered) (id : String)
    (row : EpisodeRow) : Prop :=
  ∀ (later : Db) (row' : EpisodeRow) (coord : Coordinator) (now deadlineAtMs : Millis) (uuid : Uuid)
    (clock : F64) (req : EpisodeRequest),
    later.episodes[id]? = some row' → row'.phase.terminal = false → row'.request = row.request →
    row'.requestChecksum = row.requestChecksum →
    (coord[id]? = state.coordinator[id]? ∨ coord[id]? = (state.started sha256Hex)[id]?) →
    Resubmits row uuid clock req →
    (coord[id]?.isSome → submitEpisode sha256Hex later coord now deadlineAtMs uuid clock req =
      .ok (.entry false, later, coord)) ∧
    submitEpisode sha256Hex later coord now deadlineAtMs uuid clock req ≠ .error episodeIdConflict

/-- A request whose attempt is not set, and a dispatch of its episode. -/
def exampleRequest : EpisodeRequest := { episodeId := "e1" }

theorem u1_ne_empty : "u1" ≠ "" := by decide

def exampleUuid : Uuid := ⟨"u1", u1_ne_empty⟩

def exampleDispatch (attemptId : UInt32) (leaseId : String) : DispatchRecord :=
  { episodeId := "e1", attemptId, dispatchLeaseId := leaseId, workerId := "w1"
    workerEndpoint := "", dispatchToken := [7], serverEpoch := 3, dispatchAtMs := 10
    acceptedAtMs := none, deadlineAtMs := 60000 }

/-- The database when the server stops after the first attempt was handed to a worker. -/
def dispatchedOnce : List (Millis × Command) :=
  [(1, .findOrCreateEpisode exampleUuid .zero exampleRequest "sync" 60000),
    (2, .putDispatchIntent (exampleDispatch 1 "l1"))]

/-- The first attempt failed, and the server stops during the second. -/
def dispatchedTwice : List (Millis × Command) :=
  dispatchedOnce ++ [(3, .putDispatchIntent (exampleDispatch 2 "l2"))]

end UEnv.Persistence
