import UEnv.Persistence.EpisodeRows
import UEnv.Service.Request
import UEnv.Lib.Runs

/-!
# The store as a state machine

The commands that change the database, run one after the other by the writer thread. An episode
is created from a prepared request, as every caller of `find_or_create_episode` prepares its
request first. Every stored request keeps its key, its checksum and its prepared form.
-/

namespace UEnv.Persistence

open Proto Wire Tables Fallible Runs Service

namespace Db

variable (db : Db)

/-- `DELETE FROM episodes WHERE …`, with the cascade to the tables that refer to it. -/
def deleteEpisodes (doomed : String → EpisodeRow → Bool) : Db :=
  let kept := fun episodeId => ((db.episodes[episodeId]?).filter (doomed episodeId)).isNone
  { db with
    episodes := db.episodes.filter fun id row => !doomed id row
    dispatches := db.dispatches.filter fun _ row => kept row.record.episodeId
    agentJobs := db.agentJobs.filter fun _ row => kept row.episodeId
    gatewaySessions := db.gatewaySessions.filter fun _ row => kept row.episodeId }

/-- The terminal episodes behind the newest `maxCompletedEntries`. -/
def surplus (maxCompletedEntries : Nat) : List String :=
  ((((db.episodes.toList).filter fun entry => entry.2.phase.terminal).insertionSort
    fun a b => b.2.updatedAtMs ≤ a.2.updatedAtMs).drop maxCompletedEntries).map Prod.fst

/-- `sweep` (sqlite.rs, 1710-1746). -/
def sweep (terminalCutoffMs idempotencyCutoffMs : Millis) (maxCompletedEntries : Nat) : Db :=
  let db := { db with
    reportIdempotency :=
      db.reportIdempotency.filter fun _ row => decide (idempotencyCutoffMs ≤ row.expiresAtMs)
    terminalOutcomes :=
      db.terminalOutcomes.filter fun _ row => decide (idempotencyCutoffMs ≤ row.expiresAtMs)
    outbox := db.outbox.filter fun _ row =>
      row.deliveredAtMs.all fun delivered => decide (terminalCutoffMs ≤ delivered) }
  let db := db.deleteEpisodes fun _ row =>
    row.phase.terminal && decide (row.updatedAtMs < terminalCutoffMs)
  if 0 < maxCompletedEntries then
    db.deleteEpisodes fun id row =>
      row.phase.terminal && (db.surplus maxCompletedEntries).contains id
  else db

/-- `mark_outbox_delivered` (sqlite.rs, 1701-1708). -/
def markOutboxDelivered (now : Millis) (eventId : String) : Db :=
  { db with outbox := db.outbox.modify eventId fun row =>
      { row with deliveredAtMs := some now, attempts := row.attempts + 1 } }

end Db

/-- The commands of the writer thread that change the database. -/
inductive Command
  | findOrCreateEpisode (uuid : Uuid) (clock : F64) (request : EpisodeRequest)
      (submissionKind : String) (deadlineAtMs : Millis)
  | commitTerminal (result : EpisodeResult) (terminalCode terminalMessage : String)
  | putDispatchIntent (record : DispatchRecord)
  | markDispatchAccepted (leaseId : String) (acceptedAtMs : Millis)
  | commitReportResult (result : EpisodeResult) (idempotency : IdempotencyRecord)
      (outcomeCode outcomeMessage : String)
  | enqueueAgentJob (poolId : String) (job : AgentJob) (deadlineAtMs : Millis)
  | leaseAgentJob (jobId agentId runId : String)
  | requeueAgentJob (job : AgentJob) (previousAgentId previousRunId : String)
  | commitAgentCompletion (request : AgentJobCompleteRequest) (encoded : Bytes)
      (result : EpisodeResult)
  | markAgentJobTerminal (jobId : String) (phase : JobPhase)
  | upsertGatewaySession (sessionId episodeId workerId gatewayPublicUrl : String)
      (gatewayApiKey : List UInt8)
  | markGatewayDestroyed (sessionId : String) (error : Option String)
  | markOutboxDelivered (eventId : String)
  | sweep (terminalCutoffMs idempotencyCutoffMs : Millis) (maxCompletedEntries : Nat)

/-- `handle_command`: the database after a command that succeeds. -/
def Db.handleCommand (db : Db) (sha256Hex : Bytes → String) (now : Millis) :
    Command → Except String Db
  | .findOrCreateEpisode uuid clock request submissionKind deadlineAtMs => do
    let request ← prepare uuid clock request
    let (_, db) ← db.findOrCreateEpisode sha256Hex now request submissionKind deadlineAtMs
    .ok db
  | .commitTerminal result terminalCode terminalMessage =>
    db.commitTerminal sha256Hex now result terminalCode terminalMessage
  | .putDispatchIntent record => db.putDispatchIntent now record
  | .markDispatchAccepted leaseId acceptedAtMs => db.markDispatchAccepted leaseId acceptedAtMs
  | .commitReportResult result idempotency outcomeCode outcomeMessage =>
    db.commitReportResult sha256Hex now result idempotency outcomeCode outcomeMessage
  | .enqueueAgentJob poolId job deadlineAtMs => db.enqueueAgentJob now poolId job deadlineAtMs
  | .leaseAgentJob jobId agentId runId => .ok (db.leaseAgentJob now jobId agentId runId).2
  | .requeueAgentJob job previousAgentId previousRunId =>
    .ok (db.requeueAgentJob now job previousAgentId previousRunId).2
  | .commitAgentCompletion request encoded result =>
    (db.commitAgentCompletion sha256Hex now request encoded result).map Prod.snd
  | .markAgentJobTerminal jobId phase => .ok (db.markAgentJobTerminal now jobId phase)
  | .upsertGatewaySession sessionId episodeId workerId gatewayPublicUrl gatewayApiKey =>
    db.upsertGatewaySession now sessionId episodeId workerId gatewayPublicUrl gatewayApiKey
  | .markGatewayDestroyed sessionId error => .ok (db.markGatewayDestroyed now sessionId error)
  | .markOutboxDelivered eventId => .ok (db.markOutboxDelivered now eventId)
  | .sweep terminalCutoffMs idempotencyCutoffMs maxCompletedEntries =>
    .ok (db.sweep terminalCutoffMs idempotencyCutoffMs maxCompletedEntries)

/-- The store from an empty database; a command that fails is rolled back. -/
def store (sha256Hex : Bytes → String) : System Db (Millis × Command) where
  init := fun db => db = {}
  step := fun db label =>
    match db.handleCommand sha256Hex label.1 label.2 with
    | .ok db => some db
    | .error _ => some db

namespace Db

variable {db db' : Db} {sha256Hex : Bytes → String} {now : Millis}

theorem deleteEpisodes_sameRequests (doomed : String → EpisodeRow → Bool) :
    SameRequests db (db.deleteEpisodes doomed) := by
  intro id row present
  exact ⟨row, (lookup_of_filter present).1, rfl, rfl⟩

theorem sweep_sameRequests (terminalCutoffMs idempotencyCutoffMs : Millis)
    (maxCompletedEntries : Nat) :
    SameRequests db (db.sweep terminalCutoffMs idempotencyCutoffMs maxCompletedEntries) := by
  unfold sweep
  simp only
  split
  · exact ((SameRequests.of_eq rfl).trans (deleteEpisodes_sameRequests _)).trans
      (deleteEpisodes_sameRequests _)
  · exact (SameRequests.of_eq rfl).trans (deleteEpisodes_sameRequests _)

/-- A stored request has its key, its checksum and its prepared form. -/
def Sound (sha256Hex : Bytes → String) (db : Db) : Prop :=
  ∀ (id : String) (row : EpisodeRow), db.episodes[id]? = some row →
    row.request.episodeId = id ∧ row.requestChecksum = requestChecksum sha256Hex row.request ∧
      Prepared row.request

theorem Sound.of_sameRequests (sound : Sound sha256Hex db) (same : SameRequests db db') :
    Sound sha256Hex db' := by
  intro id row' present
  obtain ⟨row, before, request, checksum⟩ := same id row' present
  rw [request, checksum]
  exact sound id row before

/-- `find_or_create_episode` answers from the row of the episode, or inserts it. -/
theorem findOrCreateEpisode_cases {request : EpisodeRequest} {submissionKind : String}
    {deadlineAtMs : Millis} {lookup : EpisodeLookup}
    (found : db.findOrCreateEpisode sha256Hex now request submissionKind deadlineAtMs =
      .ok (lookup, db')) :
    (db' = db ∧ db.getEpisode request.episodeId = .ok (some lookup)) ∨
    (lookup = .created ∧ db.episodes[request.episodeId]? = none ∧ ∃ row : EpisodeRow,
      row.request = request ∧ row.requestChecksum = requestChecksum sha256Hex request ∧
        row.phase = .queued ∧ db' = { db with
          episodes := db.episodes.insert request.episodeId row }) := by
  unfold findOrCreateEpisode at found
  obtain ⟨answer, looked, found⟩ := bind_eq_ok.mp found
  cases answer with
  | some =>
    cases found
    exact Or.inl ⟨rfl, looked⟩
  | none =>
    cases found
    refine Or.inr ⟨rfl, ?_, _, rfl, rfl, rfl, rfl⟩
    unfold getEpisode at looked
    split at looked
    · next missing => exact missing
    · split at looked
      · split at looked
        · cases looked
        · cases Except.ok.inj looked
      · cases Except.ok.inj looked

theorem Sound.handleCommand (sound : Sound sha256Hex db) {command : Command}
    (handled : db.handleCommand sha256Hex now command = .ok db') : Sound sha256Hex db' := by
  cases command with
  | findOrCreateEpisode =>
    obtain ⟨prepared, ready, handled⟩ := bind_eq_ok.mp handled
    obtain ⟨⟨lookup, after⟩, found, handled⟩ := bind_eq_ok.mp handled
    cases handled
    rcases findOrCreateEpisode_cases found with ⟨rfl, _⟩ | ⟨_, _, row, same, checksum, _, rfl⟩
    · exact sound
    · intro id row' present
      rcases lookup_insert_cases present with ⟨rfl, rfl⟩ | before
      · rw [same, checksum]
        exact ⟨rfl, rfl, prepared_of_prepare ready⟩
      · exact sound id row' before
  | commitTerminal =>
    exact sound.of_sameRequests (commitTerminal_sameRequests handled)
  | putDispatchIntent => exact sound.of_sameRequests (putDispatchIntent_sameRequests handled)
  | markDispatchAccepted =>
    exact sound.of_sameRequests (markDispatchAccepted_sameRequests handled)
  | commitReportResult =>
    exact sound.of_sameRequests (commitReportResult_sameRequests handled)
  | enqueueAgentJob =>
    exact sound.of_sameRequests (enqueueAgentJob_sameRequests handled)
  | leaseAgentJob jobId agentId runId =>
    cases handled
    exact sound.of_sameRequests (leaseAgentJob_sameRequests jobId agentId runId)
  | requeueAgentJob job previousAgentId previousRunId =>
    cases handled
    exact sound.of_sameRequests (requeueAgentJob_sameRequests job previousAgentId previousRunId)
  | commitAgentCompletion =>
    obtain ⟨answer, answered, rfl⟩ := map_eq_ok.mp handled
    exact sound.of_sameRequests (commitAgentCompletion_sameRequests answered)
  | markAgentJobTerminal jobId phase =>
    cases handled
    exact sound.of_sameRequests (markAgentJobTerminal_sameRequests jobId phase)
  | upsertGatewaySession =>
    exact sound.of_sameRequests (upsertGatewaySession_sameRequests handled)
  | markGatewayDestroyed =>
    cases handled
    exact sound.of_sameRequests (SameRequests.of_eq rfl)
  | markOutboxDelivered =>
    cases handled
    exact sound.of_sameRequests (SameRequests.of_eq rfl)
  | sweep =>
    cases handled
    exact sound.of_sameRequests (sweep_sameRequests _ _ _)

theorem sound_of_reachable (reached : Reachable (store sha256Hex) db) : Sound sha256Hex db := by
  refine ReachableWhen.invariant ?_ ?_ reached
  · rintro _ rfl id row present
    simp at present
  · intro s label t _ sound _ taken
    cases handled : s.handleCommand sha256Hex label.1 label.2 with
    | error e =>
      have stays : some s = some t := by
        rw [← taken]
        simp only [store, handled]
      rw [← Option.some.inj stays]
      exact sound
    | ok db' =>
      have moved : some db' = some t := by
        rw [← taken]
        simp only [store, handled]
      rw [← Option.some.inj moved]
      exact sound.handleCommand handled

end Db

end UEnv.Persistence
