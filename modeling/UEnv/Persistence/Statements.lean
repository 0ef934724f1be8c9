import UEnv.Lib.Transaction
import UEnv.Persistence.Commands

/-!
# The commands statement by statement

Each command of `persistence/sqlite.rs` as the SQL statements it runs, with its reads before a
transaction, its transaction and its early returns. Any statement may be refused, a `BEGIN` and a
`COMMIT` included. The commands of `Sqlite.lean` are what the statements compute, so that a
command takes effect as a whole or not at all.
-/

namespace UEnv.Persistence

open Proto Wire Tables Fallible Transaction Service

namespace Sql

variable (sha256Hex : Bytes → String) (now : Millis)

/-! ## Statements -/

/-- How many rows `WHERE episode_id=?1 AND phase NOT IN (…)` selects. -/
def activeRows (db : Db) (episodeId : String) : Nat :=
  match db.episodes[episodeId]? with
  | none => 0
  | some row => if row.phase.terminal then 0 else 1

/-- `UPDATE episodes SET … WHERE episode_id=?1 AND phase NOT IN (…)`. -/
def updateActive (episodeId : String) (f : EpisodeRow → EpisodeRow) : Script String Db Nat :=
  .step (fun db => .ok (activeRows db episodeId, db.updateActiveEpisode episodeId f)) .done

/-- `get_episode_tx` (sqlite.rs, 1131-1155). -/
def getEpisodeTx (db : Db) (episodeId : String) : Option EpisodeLookup :=
  match db.episodes[episodeId]? with
  | none => none
  | some row =>
    if row.phase.terminal then some (.terminal row.requestChecksum (row.result.getD {}))
    else some (.active row.requestChecksum row.phase)

/-- `INSERT INTO outbox … ON CONFLICT(event_id) DO NOTHING`. -/
def insertOutbox (result : EpisodeResult) (db : Db) : Db :=
  { db with
    outbox := db.outbox.insertIfNew (Db.eventId result.episodeId result.attemptId)
      (Db.resultEvent now result) }

/-- `INSERT INTO terminal_outcomes … ON CONFLICT(outcome_key) DO UPDATE` of a terminal commit. -/
def upsertClosedOutcome (result : EpisodeResult) (terminalCode terminalMessage leaseId : String)
    (db : Db) : Db :=
  { db with
    terminalOutcomes := db.terminalOutcomes.insert
      (Db.outcomeKey result.episodeId result.attemptId leaseId)
      (db.closedOutcome now result terminalCode terminalMessage leaseId) }

/-- `INSERT INTO report_idempotency`. -/
def insertIdempotency (idempotency : IdempotencyRecord) (db : Db) : Except String Db :=
  if db.reportIdempotency.contains idempotency.idempotencyKey then
    .error "UNIQUE constraint failed: report_idempotency.idempotency_key"
  else
    .ok { db with
      reportIdempotency := db.reportIdempotency.insert idempotency.idempotencyKey idempotency }

/-- `INSERT INTO terminal_outcomes … ON CONFLICT(outcome_key) DO UPDATE` of a report. -/
def upsertReportOutcome (result : EpisodeResult) (idempotency : IdempotencyRecord)
    (outcomeCode outcomeMessage : String) (db : Db) : Db :=
  let key := Db.outcomeKey result.episodeId result.attemptId idempotency.dispatchLeaseId
  let outcome : TerminalOutcomeRow :=
    match db.terminalOutcomes[key]? with
    | none =>
      { episodeId := result.episodeId, attemptId := result.attemptId
        dispatchLeaseId := idempotency.dispatchLeaseId, kind := "result", code := outcomeCode
        message := outcomeMessage, result, expiresAtMs := idempotency.expiresAtMs }
    | some row =>
      { row with code := outcomeCode, message := outcomeMessage, result
                 expiresAtMs := idempotency.expiresAtMs }
  { db with terminalOutcomes := db.terminalOutcomes.insert key outcome }

/-- `UPDATE dispatches SET … WHERE dispatch_lease_id=?1`. -/
def updateDispatch (leaseId : String) (f : DispatchRow → DispatchRow) (db : Db) : Db :=
  match db.dispatches[leaseId]? with
  | none => db
  | some row => { db with dispatches := db.dispatches.insert leaseId (f row) }

/-- `INSERT INTO dispatches … ON CONFLICT(…) DO UPDATE`. -/
def upsertDispatch (record : DispatchRecord) (db : Db) : Except String Db := do
  let row ← db.intentRow now record
  .ok { db with dispatches := db.dispatches.insert record.dispatchLeaseId row }

/-- `INSERT INTO agent_jobs … ON CONFLICT(job_id) DO NOTHING`. -/
def insertAgentJob (poolId : String) (job : AgentJob) (deadlineAtMs : Millis) (db : Db) :
    Except String Db :=
  let row : AgentJobRow :=
    { episodeId := job.episodeId, poolId, job, phase := .pending, agentId := "", runId := job.runId
      leasedAtMs := none, deadlineAtMs, completionChecksum := none, updatedAtMs := now }
  if !db.agentJobs.contains job.jobId && !db.episodes.contains job.episodeId then
    .error "FOREIGN KEY constraint failed"
  else .ok { db with agentJobs := db.agentJobs.insertIfNew job.jobId row }

/-- `UPDATE agent_jobs SET phase='completed' … WHERE job_id=?1`. -/
def completeAgentJob (jobId checksum : String) (db : Db) : Db :=
  match db.agentJobs[jobId]? with
  | none => db
  | some row =>
    let row := { row with
      phase := .completed, completionChecksum := some checksum, updatedAtMs := now }
    { db with agentJobs := db.agentJobs.insert jobId row }

/-- `INSERT INTO episodes`. -/
def insertEpisode (request : EpisodeRequest) (submissionKind : String) (deadlineAtMs : Millis)
    (db : Db) : Except String Db :=
  if db.episodes.contains request.episodeId then
    .error "UNIQUE constraint failed: episodes.episode_id"
  else
    let row : EpisodeRow :=
      { request, requestChecksum := requestChecksum sha256Hex request, submissionKind
        phase := .queued, attemptId := request.attemptId, deadlineAtMs, result := none
        resultChecksum := none, terminalCode := none, terminalMessage := none
        createdAtMs := now, updatedAtMs := now }
    .ok { db with episodes := db.episodes.insert request.episodeId row }

/-! ## Commands -/

open Script

/-- `find_or_create_episode` (sqlite.rs, 939-970). -/
def findOrCreateEpisode (request : EpisodeRequest) (submissionKind : String)
    (deadlineAtMs : Millis) : Procedure String Db EpisodeLookup :=
  .read (fun db => db.getEpisode request.episodeId) fun
    | some existing => .done existing
    | none => .single fun db =>
      (insertEpisode sha256Hex now request submissionKind deadlineAtMs db).map fun db =>
        (.created, db)

/-- `commit_terminal_tx` (sqlite.rs, 1025-1129). -/
def commitTerminalTx (result : EpisodeResult) (terminalCode terminalMessage : String) :
    Script String Db Unit := do
  let changed ← updateActive result.episodeId fun row =>
    Db.terminalRow sha256Hex now row result terminalCode terminalMessage
  if changed = 0 then
    match ← query fun db => getEpisodeTx db result.episodeId with
    | none => .fail s!"episode {result.episodeId} missing during terminal commit"
    | some (.terminal _ existing) =>
      if existing == result then pure ()
      else .fail s!"episode {result.episodeId} already has a different terminal result"
    | some _ => .fail s!"episode {result.episodeId} terminal update failed"
  else
    exec fun db => .ok (insertOutbox now result db)
    match ← query fun db => db.leaseOfAttempt result.episodeId result.attemptId with
    | none => pure ()
    | some leaseId =>
      exec fun db => .ok (upsertClosedOutcome now result terminalCode terminalMessage leaseId db)

/-- `commit_terminal` (sqlite.rs, 1013-1023). -/
def commitTerminal (result : EpisodeResult) (terminalCode terminalMessage : String) :
    Procedure String Db Unit :=
  .tx (commitTerminalTx sha256Hex now result terminalCode terminalMessage)

/-- `put_dispatch_intent` (sqlite.rs, 1157-1188). -/
def putDispatchIntent (record : DispatchRecord) : Procedure String Db Unit :=
  .tx do
    exec (upsertDispatch now record)
    let _ ← updateActive record.episodeId fun row =>
      { row with phase := .dispatchIntent, attemptId := record.attemptId, updatedAtMs := now }

/-- `mark_dispatch_accepted` (sqlite.rs, 1190-1213). -/
def markDispatchAccepted (leaseId : String) (acceptedAtMs : Millis) : Procedure String Db Unit :=
  .tx do
    let episodeId ← Script.step (fun db : Db =>
      match db.dispatches[leaseId]? with
      | none => .error "Query returned no rows"
      | some row => .ok (row.record.episodeId, db)) .done
    exec fun db => .ok (updateDispatch leaseId (fun row => { row with
      phase := .dispatched
      record := { row.record with acceptedAtMs := some acceptedAtMs }
      updatedAtMs := acceptedAtMs }) db)
    let _ ← updateActive episodeId fun episode =>
      { episode with phase := .dispatched, updatedAtMs := acceptedAtMs }

/-- `commit_report_result` (sqlite.rs, 1281-1341). -/
def commitReportResult (result : EpisodeResult) (idempotency : IdempotencyRecord)
    (outcomeCode outcomeMessage : String) : Procedure String Db Unit :=
  .read (fun db => .ok (db.checkIdempotency idempotency)) fun
    | .replay _ => .done ()
    | .conflict _ => .fail "IDEMPOTENCY_CONFLICT"
    | .missing => .tx do
      commitTerminalTx sha256Hex now result outcomeCode outcomeMessage
      exec (insertIdempotency idempotency)
      exec fun db => .ok (upsertReportOutcome result idempotency outcomeCode outcomeMessage db)
      exec fun db => .ok { db with
        dispatches := db.dispatches.modify idempotency.dispatchLeaseId fun row =>
          { row with phase := .completed, updatedAtMs := now } }

/-- `enqueue_agent_job` (sqlite.rs, 1502-1531). -/
def enqueueAgentJob (poolId : String) (job : AgentJob) (deadlineAtMs : Millis) :
    Procedure String Db Unit :=
  .tx do
    exec (insertAgentJob now poolId job deadlineAtMs)
    let _ ← updateActive job.episodeId fun episode =>
      { episode with phase := .agentDispatched, updatedAtMs := now }

def commitAgentCompletion (request : AgentJobCompleteRequest) (encoded : Bytes)
    (result : EpisodeResult) : Procedure String Db IdempotencyDecision :=
  let checksum := sha256Hex encoded
  .read (fun db => .ok db.agentJobs[request.jobId]?) fun
    | none => .done .missing
    | some row =>
      let record : IdempotencyRecord :=
        { idempotencyKey := request.jobId, episodeId := result.episodeId
          attemptId := result.attemptId, dispatchLeaseId := request.runId
          workerId := request.agentId, serverEpoch := 0, resultChecksum := checksum
          ack := row.phase == .completed
          code := if row.phase = .completed then "DUPLICATE_ACCEPTED" else "ACCEPTED"
          message := "", expiresAtMs := 9223372036854775807 }
      if row.phase = .completed then
        if row.completionChecksum = some checksum ∧ row.runId = request.runId ∧
            row.agentId = request.agentId then .done (.replay record)
        else .done (.conflict record)
      else if row.phase ≠ .leased ∨ row.runId ≠ request.runId ∨ row.agentId ≠ request.agentId then
        .done (.conflict record)
      else .tx do
        commitTerminalTx sha256Hex now result request.status request.errorMessage
        exec fun db => .ok (completeAgentJob now request.jobId checksum db)
        pure (.replay { record with ack := true })

/-- `sweep` (sqlite.rs, 1710-1746). -/
def sweep (terminalCutoffMs idempotencyCutoffMs : Millis) (maxCompletedEntries : Nat) :
    Procedure String Db Unit :=
  .tx do
    exec fun db => .ok { db with
      reportIdempotency :=
        db.reportIdempotency.filter fun _ row => decide (idempotencyCutoffMs ≤ row.expiresAtMs) }
    exec fun db => .ok { db with
      terminalOutcomes :=
        db.terminalOutcomes.filter fun _ row => decide (idempotencyCutoffMs ≤ row.expiresAtMs) }
    exec fun db => .ok { db with
      outbox := db.outbox.filter fun _ row =>
        row.deliveredAtMs.all fun delivered => decide (terminalCutoffMs ≤ delivered) }
    exec fun db => .ok (db.deleteEpisodes fun _ row =>
      row.phase.terminal && decide (row.updatedAtMs < terminalCutoffMs))
    if 0 < maxCompletedEntries then
      exec fun db => .ok (db.deleteEpisodes fun id row =>
        row.phase.terminal && (db.surplus maxCompletedEntries).contains id)

/-! ## What the statements compute -/

section Denote

variable {sha256Hex now} {db : Db}

/-- A command without an answer. -/
def unanswered (answer : Except String Db) : Except String (Unit × Db) :=
  answer.map fun db => ((), db)

@[simp] theorem updateActive_denote (episodeId : String) (f : EpisodeRow → EpisodeRow) :
    (updateActive episodeId f).denote db =
      .ok (activeRows db episodeId, db.updateActiveEpisode episodeId f) := rfl

theorem commitTerminalTx_denote (result : EpisodeResult) (code message : String) :
    (commitTerminalTx sha256Hex now result code message).denote db =
      unanswered (db.commitTerminal sha256Hex now result code message) := by
  unfold commitTerminalTx Db.commitTerminal unanswered
  cases present : db.episodes[result.episodeId]? with
  | none =>
    have unchanged : db.updateActiveEpisode result.episodeId (fun row =>
        Db.terminalRow sha256Hex now row result code message) = db := by
      unfold Db.updateActiveEpisode
      rw [present]
    simp [unchanged, activeRows, getEpisodeTx, present]
  | some row =>
    cases terminal : row.phase.terminal with
    | true =>
      have unchanged : db.updateActiveEpisode result.episodeId (fun row =>
          Db.terminalRow sha256Hex now row result code message) = db := by
        unfold Db.updateActiveEpisode
        simp [present, terminal]
      simp [unchanged, activeRows, getEpisodeTx, present, terminal]
      split
      · rfl
      · rfl
    | false =>
      have written : db.updateActiveEpisode result.episodeId (fun row =>
          Db.terminalRow sha256Hex now row result code message) = { db with
            episodes := db.episodes.insert result.episodeId
              (Db.terminalRow sha256Hex now row result code message) } := by
        unfold Db.updateActiveEpisode
        simp [present, terminal]
      simp only [denote_bind, updateActive_denote, written, activeRows, present, terminal, ok_bind,
        Bool.false_eq_true, if_false, Nat.one_ne_zero, denote_exec, map_ok, denote_query]
      -- the insertion into the outbox does not change which lease is closed
      change Script.denote (match db.leaseOfAttempt result.episodeId result.attemptId with
        | none => pure ()
        | some leaseId => exec _) _ = _
      cases db.leaseOfAttempt result.episodeId result.attemptId with
      | none => rfl
      | some => rfl

theorem putDispatchIntent_denote (record : DispatchRecord) :
    (putDispatchIntent now record).denote db = unanswered (db.putDispatchIntent now record) := by
  unfold putDispatchIntent Db.putDispatchIntent Procedure.denote upsertDispatch unanswered
  simp only [denote_bind, denote_exec]
  cases db.intentRow now record with
  | error e => rfl
  | ok => rfl

theorem markDispatchAccepted_denote (leaseId : String) (acceptedAtMs : Millis) :
    (markDispatchAccepted leaseId acceptedAtMs).denote db =
      unanswered (db.markDispatchAccepted leaseId acceptedAtMs) := by
  unfold markDispatchAccepted Db.markDispatchAccepted Procedure.denote unanswered
  simp only [denote_bind, Script.denote]
  cases present : db.dispatches[leaseId]? with
  | none => rfl
  | some =>
    simp only [ok_bind, denote_exec, updateDispatch, present, map_ok, updateActive_denote]
    rfl

theorem commitTerminal_reportIdempotency {result : EpisodeResult} {code message : String} {db' : Db}
    (committed : db.commitTerminal sha256Hex now result code message = .ok db') :
    db'.reportIdempotency = db.reportIdempotency := by
  obtain ⟨row, _, ⟨_, _, rfl⟩ | ⟨_, _, rfl⟩⟩ := Db.commitTerminal_ok committed
  · rfl
  · rfl

theorem commitReportResult_denote (result : EpisodeResult) (idempotency : IdempotencyRecord)
    (code message : String) :
    (commitReportResult sha256Hex now result idempotency code message).denote db =
      unanswered (db.commitReportResult sha256Hex now result idempotency code message) := by
  unfold commitReportResult Db.commitReportResult Procedure.denote
  simp only [ok_bind]
  cases checked : db.checkIdempotency idempotency with
  | replay => rfl
  | conflict => rfl
  | missing =>
    simp only [Procedure.denote, denote_bind, commitTerminalTx_denote, unanswered]
    cases committed : db.commitTerminal sha256Hex now result code message with
    | error e => rfl
    | ok db' =>
      -- the key that was missing before the transaction is still missing
      have missing : idempotency.idempotencyKey ∉ db'.reportIdempotency := by
        rw [commitTerminal_reportIdempotency committed, mem_iff_lookup]
        unfold Db.checkIdempotency at checked
        split at checked
        · next absent =>
          rintro ⟨record, present⟩
          cases absent.symm.trans present
        · split at checked
          · cases checked
          · cases checked
      have inserted : insertIdempotency idempotency db' = .ok { db' with
          reportIdempotency :=
            db'.reportIdempotency.insert idempotency.idempotencyKey idempotency } := by
        unfold insertIdempotency
        rw [if_neg (mt Std.ExtTreeMap.mem_iff_contains.mpr missing)]
      simp only [map_ok, ok_bind, denote_exec, inserted]
      rfl

theorem enqueueAgentJob_denote (poolId : String) (job : AgentJob) (deadlineAtMs : Millis) :
    (enqueueAgentJob now poolId job deadlineAtMs).denote db =
      unanswered (db.enqueueAgentJob now poolId job deadlineAtMs) := by
  unfold enqueueAgentJob Db.enqueueAgentJob Procedure.denote insertAgentJob unanswered
  simp only [denote_bind, denote_exec]
  split
  · rfl
  · rfl

theorem commitAgentCompletion_denote (request : AgentJobCompleteRequest) (encoded : Bytes)
    (result : EpisodeResult) :
    (commitAgentCompletion sha256Hex now request encoded result).denote db =
      db.commitAgentCompletion sha256Hex now request encoded result := by
  unfold commitAgentCompletion Db.commitAgentCompletion Procedure.denote
  simp only [ok_bind]
  cases present : db.agentJobs[request.jobId]? with
  | none => rfl
  | some row =>
    simp only
    split
    · split
      · rfl
      · rfl
    · split
      · rfl
      · simp only [Procedure.denote, denote_bind, commitTerminalTx_denote, unanswered]
        cases committed : db.commitTerminal sha256Hex now result request.status
            request.errorMessage with
        | error e => rfl
        | ok db' =>
          -- the terminal commit leaves the row of the job
          have kept : db'.agentJobs[request.jobId]? = some row := by
            rw [Db.commitTerminal_agentJobs committed]
            exact present
          simp [completeAgentJob, kept]

theorem sweep_denote (terminalCutoffMs idempotencyCutoffMs : Millis) (maxCompletedEntries : Nat) :
    (sweep terminalCutoffMs idempotencyCutoffMs maxCompletedEntries).denote db =
      .ok ((), db.sweep terminalCutoffMs idempotencyCutoffMs maxCompletedEntries) := by
  unfold sweep Db.sweep Procedure.denote
  simp only [denote_bind, denote_exec, map_ok, ok_bind]
  split
  · rfl
  · rfl

theorem findOrCreateEpisode_denote (request : EpisodeRequest) (submissionKind : String)
    (deadlineAtMs : Millis) :
    (findOrCreateEpisode sha256Hex now request submissionKind deadlineAtMs).denote db =
      db.findOrCreateEpisode sha256Hex now request submissionKind deadlineAtMs := by
  unfold findOrCreateEpisode Db.findOrCreateEpisode Procedure.denote
  beta_reduce
  cases looked : db.getEpisode request.episodeId with
  | error e => rfl
  | ok answer =>
    cases answer with
    | some => rfl
    | none =>
      -- the row that was missing at the lookup is still missing
      have missing : request.episodeId ∉ db.episodes := by
        intro member
        obtain ⟨row, present⟩ := (mem_iff_lookup _ _).mp member
        unfold Db.getEpisode at looked
        rw [present] at looked
        simp only at looked
        split at looked
        · split at looked
          · cases looked
          · cases looked
        · cases looked
      have fresh : ¬ db.episodes.contains request.episodeId = true :=
        mt Std.ExtTreeMap.mem_iff_contains.mpr missing
      simp only [ok_bind, Procedure.denote, insertEpisode, if_neg fresh, map_ok]

end Denote

/-- A command on a connection: its error, if it fails, and the connection after it. -/
def handleCommand (c : Connection String Db) :
    Command → Option String × Connection String Db
  | .findOrCreateEpisode _ _ request submissionKind deadlineAtMs =>
    (findOrCreateEpisode sha256Hex now request submissionKind deadlineAtMs).call c
  | .commitTerminal result terminalCode terminalMessage =>
    (commitTerminal sha256Hex now result terminalCode terminalMessage).call c
  | .putDispatchIntent record => (putDispatchIntent now record).call c
  | .markDispatchAccepted leaseId acceptedAtMs => (markDispatchAccepted leaseId acceptedAtMs).call c
  | .commitReportResult result idempotency outcomeCode outcomeMessage =>
    (commitReportResult sha256Hex now result idempotency outcomeCode outcomeMessage).call c
  | .enqueueAgentJob poolId job deadlineAtMs => (enqueueAgentJob now poolId job deadlineAtMs).call c
  | .leaseAgentJob jobId agentId runId =>
    (Procedure.single fun db => .ok (db.leaseAgentJob now jobId agentId runId)).call c
  | .requeueAgentJob job previousAgentId previousRunId =>
    (Procedure.single fun db =>
      .ok (db.requeueAgentJob now job previousAgentId previousRunId)).call c
  | .commitAgentCompletion request encoded result =>
    (commitAgentCompletion sha256Hex now request encoded result).call c
  | .markAgentJobTerminal jobId phase =>
    (Procedure.single fun db => .ok ((), db.markAgentJobTerminal now jobId phase)).call c
  | .upsertGatewaySession sessionId episodeId workerId gatewayPublicUrl gatewayApiKey =>
    (Procedure.single fun db => unanswered
      (db.upsertGatewaySession now sessionId episodeId workerId gatewayPublicUrl
        gatewayApiKey)).call c
  | .markGatewayDestroyed sessionId error =>
    (Procedure.single fun db => .ok ((), db.markGatewayDestroyed now sessionId error)).call c
  | .markOutboxDelivered eventId =>
    (Procedure.single fun db => .ok ((), db.markOutboxDelivered now eventId)).call c
  | .sweep terminalCutoffMs idempotencyCutoffMs maxCompletedEntries =>
    (sweep terminalCutoffMs idempotencyCutoffMs maxCompletedEntries).call c

end Sql

namespace Db

/-- A command as a whole; the store takes any request, prepared or not. -/
def runCommand (db : Db) (sha256Hex : Bytes → String) (now : Millis) :
    Command → Except String Db
  | .findOrCreateEpisode _ _ request submissionKind deadlineAtMs =>
    (db.findOrCreateEpisode sha256Hex now request submissionKind deadlineAtMs).map Prod.snd
  | command => db.handleCommand sha256Hex now command

end Db

namespace Sql

variable {sha256Hex : Bytes → String} {now : Millis}

theorem unanswered_map (answer : Except String Db) : (unanswered answer).map Prod.snd = answer := by
  cases answer with
  | error e => rfl
  | ok db => rfl

theorem handleCommand_effect {c : Connection String Db} (closed : c.working = none)
    (command : Command) :
    Procedure.Effect (fun db => db.runCommand sha256Hex now command) c
      (handleCommand sha256Hex now c command) := by
  cases command with
  | findOrCreateEpisode =>
    exact Procedure.call_effect (fun _ => by rw [findOrCreateEpisode_denote]; rfl) closed
  | commitTerminal result terminalCode terminalMessage =>
    refine Procedure.call_effect (fun _ => ?_) closed
    exact (congrArg _ (commitTerminalTx_denote result terminalCode terminalMessage)).trans
      (unanswered_map _)
  | putDispatchIntent record =>
    refine Procedure.call_effect (fun _ => ?_) closed
    exact (congrArg _ (putDispatchIntent_denote record)).trans (unanswered_map _)
  | markDispatchAccepted leaseId acceptedAtMs =>
    refine Procedure.call_effect (fun _ => ?_) closed
    exact (congrArg _ (markDispatchAccepted_denote leaseId acceptedAtMs)).trans (unanswered_map _)
  | commitReportResult result idempotency outcomeCode outcomeMessage =>
    refine Procedure.call_effect (fun _ => ?_) closed
    exact (congrArg _ (commitReportResult_denote result idempotency outcomeCode
      outcomeMessage)).trans (unanswered_map _)
  | enqueueAgentJob poolId job deadlineAtMs =>
    refine Procedure.call_effect (fun _ => ?_) closed
    exact (congrArg _ (enqueueAgentJob_denote poolId job deadlineAtMs)).trans (unanswered_map _)
  | commitAgentCompletion request encoded result =>
    refine Procedure.call_effect (fun _ => ?_) closed
    exact congrArg _ (commitAgentCompletion_denote request encoded result)
  | upsertGatewaySession =>
    exact Procedure.call_effect (fun _ => unanswered_map _) closed
  | sweep terminalCutoffMs idempotencyCutoffMs maxCompletedEntries =>
    refine Procedure.call_effect (fun _ => ?_) closed
    exact congrArg _ (sweep_denote terminalCutoffMs idempotencyCutoffMs maxCompletedEntries)
  | leaseAgentJob => exact Procedure.call_effect (fun _ => rfl) closed
  | requeueAgentJob =>
    exact Procedure.call_effect (fun _ => rfl) closed
  | markAgentJobTerminal => exact Procedure.call_effect (fun _ => rfl) closed
  | markGatewayDestroyed => exact Procedure.call_effect (fun _ => rfl) closed
  | markOutboxDelivered => exact Procedure.call_effect (fun _ => rfl) closed

end Sql

end UEnv.Persistence
