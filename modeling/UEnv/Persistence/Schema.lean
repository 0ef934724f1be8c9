import UEnv.Persistence.Checksum

/-!
# The state database

The tables of `persistence/schema.rs`. A table is a map from its primary key, so two rows never
share one; `dispatches` is keyed by its unique lease column. A phase column holds one of the
texts that the commands write, a blob column the message it encodes. Columns that no statement
reads back are left out: `parallel_mode`, `batch_id`, `enqueue_at_ms`, `result_size_bytes` and
the `version` counters.
-/

namespace UEnv.Persistence

open Proto

abbrev Table (α : Type) := Std.ExtTreeMap String α compare

/-- Milliseconds since the epoch, an `i64` column. -/
abbrev Millis := Int

/-- `episodes.phase`. -/
inductive EpisodePhase
  | queued | dispatchIntent | dispatched | agentDispatched
  | completed | failed | cancelled | timedOut
  deriving DecidableEq

/-- `TERMINAL_PHASES`. -/
def EpisodePhase.terminal : EpisodePhase → Bool
  | .completed | .failed | .cancelled | .timedOut => true
  | .queued | .dispatchIntent | .dispatched | .agentDispatched => false

def EpisodePhase.text : EpisodePhase → String
  | .queued => "queued"
  | .dispatchIntent => "dispatch_intent"
  | .dispatched => "dispatched"
  | .agentDispatched => "agent_dispatched"
  | .completed => "completed"
  | .failed => "failed"
  | .cancelled => "cancelled"
  | .timedOut => "timed_out"

/-- `normalize_terminal_phase` (sqlite.rs, 1748-1755). -/
def normalizeTerminalPhase (status : String) : EpisodePhase :=
  if status = "completed" then .completed
  else if status = "cancelled" then .cancelled
  else if status = "timeout" ∨ status = "timed_out" then .timedOut
  else .failed

theorem normalizeTerminalPhase_terminal (status : String) :
    (normalizeTerminalPhase status).terminal = true := by
  unfold normalizeTerminalPhase
  split
  · rfl
  · split
    · rfl
    · split <;> rfl

structure EpisodeRow where
  request : EpisodeRequest
  requestChecksum : String
  submissionKind : String
  phase : EpisodePhase
  attemptId : UInt32
  deadlineAtMs : Millis
  result : Option EpisodeResult
  resultChecksum : Option String
  terminalCode : Option String
  terminalMessage : Option String
  createdAtMs : Millis
  updatedAtMs : Millis

/-- `dispatches.phase`. -/
inductive DispatchPhase
  | dispatchIntent | dispatched | completed
  deriving DecidableEq

/-- `DispatchRecord`, without its phase. -/
structure DispatchRecord where
  episodeId : String
  attemptId : UInt32
  dispatchLeaseId : String
  workerId : String
  workerEndpoint : String
  dispatchToken : List UInt8
  serverEpoch : UInt64
  dispatchAtMs : Millis
  acceptedAtMs : Option Millis
  deadlineAtMs : Millis

structure DispatchRow where
  record : DispatchRecord
  phase : DispatchPhase
  updatedAtMs : Millis

/-- `IdempotencyRecord`, a row of `report_idempotency`. -/
structure IdempotencyRecord where
  idempotencyKey : String
  episodeId : String
  attemptId : UInt32
  dispatchLeaseId : String
  workerId : String
  serverEpoch : UInt64
  resultChecksum : String
  ack : Bool
  code : String
  message : String
  expiresAtMs : Millis
  deriving DecidableEq

structure TerminalOutcomeRow where
  episodeId : String
  attemptId : UInt32
  dispatchLeaseId : String
  kind : String
  code : String
  message : String
  result : EpisodeResult
  expiresAtMs : Millis

/-- `agent_jobs.phase`. -/
inductive JobPhase
  | pending | leased | completed | cancelled | timedOut
  deriving DecidableEq

structure AgentJobRow where
  episodeId : String
  poolId : String
  job : AgentJob
  phase : JobPhase
  agentId : String
  runId : String
  leasedAtMs : Option Millis
  deadlineAtMs : Millis
  completionChecksum : Option String
  updatedAtMs : Millis

/-- `gateway_sessions.phase`. -/
inductive SessionPhase
  | active | cleanupPending | destroyed
  deriving DecidableEq

structure GatewaySessionRow where
  episodeId : String
  workerId : String
  gatewayPublicUrl : String
  gatewayApiKey : List UInt8
  phase : SessionPhase
  createdAtMs : Millis
  destroyedAtMs : Option Millis
  attempts : Nat
  lastError : Option String
  updatedAtMs : Millis

structure OutboxRow where
  aggregateId : String
  payload : EpisodeResult
  createdAtMs : Millis
  deliveredAtMs : Option Millis
  attempts : Nat

/-- The database. -/
structure Db where
  episodes : Table EpisodeRow := ∅
  dispatches : Table DispatchRow := ∅
  reportIdempotency : Table IdempotencyRecord := ∅
  terminalOutcomes : Table TerminalOutcomeRow := ∅
  agentJobs : Table AgentJobRow := ∅
  gatewaySessions : Table GatewaySessionRow := ∅
  outbox : Table OutboxRow := ∅

end UEnv.Persistence
