import UEnv.Persistence.Schema
import Mathlib.Data.List.Sort

/-!
# Store commands

The statements behind the store's commands (`persistence/sqlite.rs`). A command is a function
from the database to an answer and the new database, or an error; an error rolls its
transaction back. `now` is the clock of the writer thread. SQLite itself is taken to succeed;
the errors are those of the constraints and of the code.
-/

namespace UEnv.Persistence

open Proto Wire

/-- sqlite.rs, 87-97. -/
inductive EpisodeLookup
  | created
  | active (requestChecksum : String) (phase : EpisodePhase)
  | terminal (requestChecksum : String) (result : EpisodeResult)
  deriving DecidableEq

inductive IdempotencyDecision
  | missing
  | replay (record : IdempotencyRecord)
  | conflict (record : IdempotencyRecord)
  deriving DecidableEq

/-- sqlite.rs, 81-84. -/
structure TerminalOutcome where
  code : String
  message : String
  deriving DecidableEq

/-- Rows of a table. -/
def rows {α : Type} (table : Table α) : List α := table.toList.map Prod.snd

/-- `ORDER BY … DESC LIMIT 1`, `ge a b` when `a` comes no earlier than `b`. -/
def latest {α : Type} (ge : α → α → Prop) [DecidableRel ge] (candidates : List α) : Option α :=
  (candidates.insertionSort ge).head?

namespace Db

variable (db : Db) (sha256Hex : Bytes → String) (now : Millis)

/-- `get_episode` (sqlite.rs, 972-997). -/
def getEpisode (episodeId : String) : Except String (Option EpisodeLookup) :=
  match db.episodes[episodeId]? with
  | none => .ok none
  | some row =>
    if row.phase.terminal then
      match row.result with
      | none => .error "terminal episode missing result_blob"
      | some result => .ok (some (.terminal row.requestChecksum result))
    else .ok (some (.active row.requestChecksum row.phase))

def getEpisodeRequest (episodeId : String) : Option EpisodeRequest :=
  (db.episodes[episodeId]?).map EpisodeRow.request

/-- `find_or_create_episode` (sqlite.rs, 939-970). -/
def findOrCreateEpisode (request : EpisodeRequest) (submissionKind : String)
    (deadlineAtMs : Millis) : Except String (EpisodeLookup × Db) := do
  match ← db.getEpisode request.episodeId with
  | some existing => .ok (existing, db)
  | none =>
    let row : EpisodeRow :=
      { request, requestChecksum := requestChecksum sha256Hex request, submissionKind
        phase := .queued, attemptId := request.attemptId, deadlineAtMs, result := none
        resultChecksum := none, terminalCode := none, terminalMessage := none
        createdAtMs := now, updatedAtMs := now }
    .ok (.created, { db with episodes := db.episodes.insert request.episodeId row })

/-- `UPDATE episodes SET … WHERE episode_id=? AND phase NOT IN (terminal)`. -/
def updateActiveEpisode (episodeId : String) (f : EpisodeRow → EpisodeRow) : Db :=
  match db.episodes[episodeId]? with
  | none => db
  | some row =>
    if row.phase.terminal then db
    else { db with episodes := db.episodes.insert episodeId (f row) }

/-- The row of an episode that ends with `result`. -/
def terminalRow (row : EpisodeRow) (result : EpisodeResult)
    (terminalCode terminalMessage : String) :
    EpisodeRow :=
  { row with
    phase := normalizeTerminalPhase result.status
    attemptId := result.attemptId
    result := some result
    resultChecksum := some (resultChecksum sha256Hex result)
    terminalCode := some terminalCode
    terminalMessage := some terminalMessage
    updatedAtMs := now }

/-- The lease that a terminal result closes: the last one of its attempt. -/
def leaseOfAttempt (episodeId : String) (attemptId : UInt32) : Option String :=
  (latest (fun a b => b.updatedAtMs ≤ a.updatedAtMs)
    ((rows db.dispatches).filter fun row =>
      row.record.episodeId == episodeId && row.record.attemptId == attemptId)).map
    fun row => row.record.dispatchLeaseId

/-- `format!("{}:{}:{}", episode_id, attempt_id, dispatch_lease_id)`. -/
def outcomeKey (episodeId : String) (attemptId : UInt32) (leaseId : String) : String :=
  episodeId ++ ":" ++ toString attemptId.toNat ++ ":" ++ leaseId

/-- The outcome code that `commit_terminal_tx` records for the closed lease. -/
def closingCode (result : EpisodeResult) (terminalCode : String) : String :=
  if result.metadata["terminal_kind"]? = some "timeout" then "LATE_AFTER_TIMEOUT"
  else if terminalCode.isEmpty then
    match normalizeTerminalPhase result.status with
    | .completed => "ACCEPTED"
    | .cancelled => "LATE_AFTER_CANCEL"
    | .timedOut => "LATE_AFTER_TIMEOUT"
    | _ => "ALREADY_TERMINAL"
  else terminalCode

/-- `format!("episode-result:{}:{}", episode_id, attempt_id)`. -/
def eventId (episodeId : String) (attemptId : UInt32) : String :=
  s!"episode-result:{episodeId}:{attemptId.toNat}"

/-- The outbox event of a terminal result. -/
def resultEvent (result : EpisodeResult) : OutboxRow :=
  { aggregateId := result.episodeId, payload := result, createdAtMs := now, deliveredAtMs := none
    attempts := 0 }

/-- The row that `commit_terminal_tx` inserts for the closed lease, or updates on its conflict. -/
def closedOutcome (result : EpisodeResult) (terminalCode terminalMessage leaseId : String) :
    TerminalOutcomeRow :=
  let kind := (normalizeTerminalPhase result.status).text
  let code := closingCode result terminalCode
  let expiresAtMs := now + 86400000
  match db.terminalOutcomes[outcomeKey result.episodeId result.attemptId leaseId]? with
  | none =>
    { episodeId := result.episodeId, attemptId := result.attemptId, dispatchLeaseId := leaseId, kind
      code, message := terminalMessage, result, expiresAtMs }
  | some row => { row with kind, code, message := terminalMessage, result, expiresAtMs }

/-- `commit_terminal_tx`: the first terminal result of an episode is final. -/
def commitTerminal (result : EpisodeResult) (terminalCode terminalMessage : String) :
    Except String Db :=
  match db.episodes[result.episodeId]? with
  | none => .error s!"episode {result.episodeId} missing during terminal commit"
  | some row =>
    if row.phase.terminal then
      if row.result.getD {} == result then .ok db
      else .error s!"episode {result.episodeId} already has a different terminal result"
    else
      let closed := { db with
        episodes := db.episodes.insert result.episodeId
          (terminalRow sha256Hex now row result terminalCode terminalMessage)
        outbox := db.outbox.insertIfNew (eventId result.episodeId result.attemptId)
          (resultEvent now result) }
      match db.leaseOfAttempt result.episodeId result.attemptId with
      | none => .ok closed
      | some leaseId =>
        .ok { closed with
          terminalOutcomes := db.terminalOutcomes.insert
            (outcomeKey result.episodeId result.attemptId leaseId)
            (db.closedOutcome now result terminalCode terminalMessage leaseId) }

/-- The row that `put_dispatch_intent` inserts, or updates on its conflict. -/
def intentRow (record : DispatchRecord) : Except String DispatchRow :=
  match db.dispatches[record.dispatchLeaseId]? with
  | none =>
    if db.episodes.contains record.episodeId then
      .ok { record := { record with acceptedAtMs := none }, phase := .dispatchIntent
            updatedAtMs := now }
    else .error "FOREIGN KEY constraint failed"
  | some row =>
    if row.record.episodeId = record.episodeId ∧ row.record.attemptId = record.attemptId then
      .ok { row with
        record := { row.record with
          workerId := record.workerId
          workerEndpoint := record.workerEndpoint
          dispatchToken := record.dispatchToken
          serverEpoch := record.serverEpoch
          deadlineAtMs := record.deadlineAtMs }
        updatedAtMs := now }
    else .error "UNIQUE constraint failed: dispatches.dispatch_lease_id"

/-- `put_dispatch_intent` (sqlite.rs, 1157-1188). -/
def putDispatchIntent (record : DispatchRecord) : Except String Db := do
  let row ← db.intentRow now record
  let db := { db with dispatches := db.dispatches.insert record.dispatchLeaseId row }
  .ok (db.updateActiveEpisode record.episodeId fun row =>
    { row with phase := .dispatchIntent, attemptId := record.attemptId, updatedAtMs := now })

/-- `mark_dispatch_accepted` (sqlite.rs, 1190-1213). -/
def markDispatchAccepted (leaseId : String) (acceptedAtMs : Millis) : Except String Db :=
  match db.dispatches[leaseId]? with
  | none => .error "Query returned no rows"
  | some row =>
    let row' := { row with
      phase := .dispatched
      record := { row.record with acceptedAtMs := some acceptedAtMs }
      updatedAtMs := acceptedAtMs }
    let db := { db with dispatches := db.dispatches.insert leaseId row' }
    .ok (db.updateActiveEpisode row.record.episodeId fun episode =>
      { episode with phase := .dispatched, updatedAtMs := acceptedAtMs })

/-- `get_dispatch` (sqlite.rs, 1476-1500). -/
def getDispatch (leaseId : String) : Option DispatchRow := db.dispatches[leaseId]?

/-- `load_latest_dispatch`: `ORDER BY attempt_id DESC, updated_at_ms DESC`. -/
def loadLatestDispatch (episodeId : String) : Option DispatchRecord :=
  (latest (fun a b => b.record.attemptId < a.record.attemptId ∨
      b.record.attemptId = a.record.attemptId ∧ b.updatedAtMs ≤ a.updatedAtMs)
    ((rows db.dispatches).filter fun row => row.record.episodeId == episodeId)).map
    DispatchRow.record

/-- `check_idempotency` (sqlite.rs, 1215-1241). -/
def checkIdempotency (candidate : IdempotencyRecord) : IdempotencyDecision :=
  match db.reportIdempotency[candidate.idempotencyKey]? with
  | none => .missing
  | some existing =>
    if existing.episodeId = candidate.episodeId ∧ existing.attemptId = candidate.attemptId ∧
        existing.dispatchLeaseId = candidate.dispatchLeaseId ∧
        existing.workerId = candidate.workerId ∧
        existing.resultChecksum = candidate.resultChecksum then .replay existing
    else .conflict existing

/-- `get_terminal_outcome` (sqlite.rs, 1243-1263). -/
def getTerminalOutcome (episodeId : String) (attemptId : UInt32) (leaseId : String) :
    Option TerminalOutcome :=
  ((rows db.terminalOutcomes).find? fun row =>
    row.episodeId = episodeId ∧ row.attemptId = attemptId ∧ row.dispatchLeaseId = leaseId ∧
      now ≤ row.expiresAtMs).map fun row => { code := row.code, message := row.message }

/-- `commit_report_result` (sqlite.rs, 1281-1341). -/
def commitReportResult (result : EpisodeResult) (idempotency : IdempotencyRecord)
    (outcomeCode outcomeMessage : String) : Except String Db :=
  match db.checkIdempotency idempotency with
  | .replay _ => .ok db
  | .conflict _ => .error "IDEMPOTENCY_CONFLICT"
  | .missing => do
    let db ← db.commitTerminal sha256Hex now result outcomeCode outcomeMessage
    let key := outcomeKey result.episodeId result.attemptId idempotency.dispatchLeaseId
    let outcome : TerminalOutcomeRow :=
      match db.terminalOutcomes[key]? with
      | none =>
        { episodeId := result.episodeId, attemptId := result.attemptId
          dispatchLeaseId := idempotency.dispatchLeaseId, kind := "result", code := outcomeCode
          message := outcomeMessage, result, expiresAtMs := idempotency.expiresAtMs }
      | some row =>
        { row with code := outcomeCode, message := outcomeMessage, result
                   expiresAtMs := idempotency.expiresAtMs }
    .ok { db with
      reportIdempotency := db.reportIdempotency.insert idempotency.idempotencyKey idempotency
      terminalOutcomes := db.terminalOutcomes.insert key outcome
      dispatches := db.dispatches.modify idempotency.dispatchLeaseId fun row =>
        { row with phase := .completed, updatedAtMs := now } }

/-- `enqueue_agent_job` (sqlite.rs, 1502-1531). -/
def enqueueAgentJob (poolId : String) (job : AgentJob) (deadlineAtMs : Millis) : Except String Db :=
  let row : AgentJobRow :=
    { episodeId := job.episodeId, poolId, job, phase := .pending, agentId := "", runId := job.runId
      leasedAtMs := none, deadlineAtMs, completionChecksum := none, updatedAtMs := now }
  if !db.agentJobs.contains job.jobId && !db.episodes.contains job.episodeId then
    .error "FOREIGN KEY constraint failed"
  else
    let db := { db with agentJobs := db.agentJobs.insertIfNew job.jobId row }
    .ok (db.updateActiveEpisode job.episodeId fun episode =>
      { episode with phase := .agentDispatched, updatedAtMs := now })

/-- `lease_agent_job`: whether the row was pending under this run. -/
def leaseAgentJob (jobId agentId runId : String) : Bool × Db :=
  match db.agentJobs[jobId]? with
  | none => (false, db)
  | some row =>
    if row.phase = .pending ∧ row.runId = runId then
      let row := { row with phase := .leased, agentId, leasedAtMs := some now, updatedAtMs := now }
      (true, { db with agentJobs := db.agentJobs.insert jobId row })
    else (false, db)

/-- `requeue_agent_job`: compare and swap on the lease of the previous agent and run. -/
def requeueAgentJob (job : AgentJob) (previousAgentId previousRunId : String) : Bool × Db :=
  match db.agentJobs[job.jobId]? with
  | none => (false, db)
  | some row =>
    if row.phase = .leased ∧ row.agentId = previousAgentId ∧ row.runId = previousRunId then
      let row := { row with
        phase := .pending, agentId := "", runId := job.runId, job, leasedAtMs := none
        completionChecksum := none, updatedAtMs := now }
      (true, { db with agentJobs := db.agentJobs.insert job.jobId row })
    else (false, db)

/-- `commit_agent_completion`; `encoded` is `request.encode_to_vec()`, whose map entries are in
the iteration order of the request's `HashMap`. -/
def commitAgentCompletion (request : AgentJobCompleteRequest) (encoded : Bytes)
    (result : EpisodeResult) : Except String (IdempotencyDecision × Db) :=
  let checksum := sha256Hex encoded
  match db.agentJobs[request.jobId]? with
  | none => .ok (.missing, db)
  | some row =>
    let record : IdempotencyRecord :=
      { idempotencyKey := request.jobId, episodeId := result.episodeId
        attemptId := result.attemptId, dispatchLeaseId := request.runId
        workerId := request.agentId, serverEpoch := 0, resultChecksum := checksum
        ack := row.phase == .completed
        code := if row.phase = .completed then "DUPLICATE_ACCEPTED" else "ACCEPTED"
        message := "", expiresAtMs := 9223372036854775807 }
    if row.phase = .completed then
      if row.completionChecksum = some checksum ∧ row.runId = request.runId ∧
          row.agentId = request.agentId then .ok (.replay record, db)
      else .ok (.conflict record, db)
    else if row.phase ≠ .leased ∨ row.runId ≠ request.runId ∨ row.agentId ≠ request.agentId then
      .ok (.conflict record, db)
    else do
      let db ← db.commitTerminal sha256Hex now result request.status request.errorMessage
      let row := { row with
        phase := .completed, completionChecksum := some checksum, updatedAtMs := now }
      .ok (.replay { record with ack := true },
        { db with agentJobs := db.agentJobs.insert request.jobId row })

/-- `mark_agent_job_terminal` (sqlite.rs, 1627-1634). -/
def markAgentJobTerminal (jobId : String) (phase : JobPhase) : Db :=
  match db.agentJobs[jobId]? with
  | none => db
  | some row =>
    if row.phase = .completed ∨ row.phase = .cancelled ∨ row.phase = .timedOut then db
    else
      let row := { row with phase, updatedAtMs := now }
      { db with agentJobs := db.agentJobs.insert jobId row }

/-- `upsert_gateway_session` (sqlite.rs, 1636-1662). -/
def upsertGatewaySession (sessionId episodeId workerId gatewayPublicUrl : String)
    (gatewayApiKey : List UInt8) : Except String Db :=
  match db.gatewaySessions[sessionId]? with
  | none =>
    let row : GatewaySessionRow :=
      { episodeId, workerId, gatewayPublicUrl, gatewayApiKey, phase := .active
        createdAtMs := now, destroyedAtMs := none, attempts := 0, lastError := none
        updatedAtMs := now }
    if db.episodes.contains episodeId then
      .ok { db with gatewaySessions := db.gatewaySessions.insert sessionId row }
    else .error "FOREIGN KEY constraint failed"
  | some row =>
    let row := { row with workerId, gatewayPublicUrl, gatewayApiKey, updatedAtMs := now }
    .ok { db with gatewaySessions := db.gatewaySessions.insert sessionId row }

/-- `mark_gateway_destroyed` (sqlite.rs, 1664-1679). -/
def markGatewayDestroyed (sessionId : String) (error : Option String) : Db :=
  { db with gatewaySessions := db.gatewaySessions.modify sessionId fun row =>
      match error with
      | some error =>
        { row with phase := .cleanupPending, attempts := row.attempts + 1
                   lastError := some error, updatedAtMs := now }
      | none =>
        { row with phase := .destroyed, destroyedAtMs := some now, lastError := none
                   updatedAtMs := now } }

end Db

end UEnv.Persistence
