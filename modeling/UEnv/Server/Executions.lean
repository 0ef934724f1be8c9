import UEnv.Persistence.Recoverable

/-!
# Executions and restarts

The server as the store sees it: submissions, the owner of each episode (`service/episode.rs`), the
reports of the workers, the calls of the agents, the sweeper, and a crash between any two store
commands followed by a recovery. A label is one store command of one task, or the step of a task
that no command accompanies. What the answers of workers, agents and gateways decide is in the
labels: when an owner ends an attempt and with which result, and the order of everything.
-/

namespace UEnv

open Proto Wire Persistence Tables Service Runs

/-- `SelectedExecutionBackend`. -/
inductive Backend
  | native
  | sweAgent
  | codeAgent
  deriving DecidableEq

/-- Whether `SweAgentSpec::from_payload` and `CodeAgentSpec::from_payload` find a specification
in the JSON of a payload. -/
structure AgentSpecs where
  swe : List UInt8 → Bool
  code : List UInt8 → Bool

/-- `select_execution_backend` (execution_backend.rs, 62-77). -/
def AgentSpecs.selectExecutionBackend (specs : AgentSpecs) (req : EpisodeRequest) : Backend :=
  if req.envType = "swe" then if specs.swe req.payload then .sweAgent else .native
  else if req.envType = "code" then if specs.code req.payload then .codeAgent else .native
  else .native

/-- How far the owner of an episode has come. -/
inductive Stage
  | begun
  | dispatched
  | agentQueued
  | agentClosed
  -- the waits that recovery spawns
  | nativeWait
  | agentWait
  deriving DecidableEq

/-- An entry of the coordinator and the task that owns it. -/
structure Execution where
  request : EpisodeRequest
  stage : Stage

structure Server where
  db : Db := {}
  up : Bool := false
  -- submissions that looked the episode up and have not reached the coordinator
  lookups : Map Nat EpisodeRequest := ∅
  runs : Table Execution := ∅
  -- reports that took their pending entry and have not been committed
  reports : Map Nat String := ∅

namespace Server

inductive Label
  | lookup (t : Nat) (now deadlineAtMs : Millis) (uuid : Uuid) (clock : F64)
      (request : EpisodeRequest)
  | attach (t : Nat)
  | putIntent (now : Millis) (record : DispatchRecord)
  | markAccepted (leaseId : String) (acceptedAtMs : Millis)
  | openSession (now : Millis) (episodeId sessionId workerId gatewayPublicUrl : String)
      (gatewayApiKey : List UInt8)
  | enqueueJob (now : Millis) (poolId : String) (job : AgentJob) (deadlineAtMs : Millis)
  | closeJob (now : Millis) (episodeId : String) (phase : JobPhase)
  | finish (now : Millis) (result : EpisodeResult) (terminalCode terminalMessage : String)
  | giveUp (episodeId : String)
  | takeReport (t : Nat) (episodeId : String)
  | commitReport (t : Nat) (now : Millis) (result : EpisodeResult)
      (idempotency : IdempotencyRecord) (outcomeCode outcomeMessage : String)
  | leaseJob (now : Millis) (jobId agentId runId : String)
  | requeueJob (now : Millis) (job : AgentJob) (previousAgentId previousRunId : String)
  | completeJob (now : Millis) (request : AgentJobCompleteRequest) (encoded : Bytes)
      (result : EpisodeResult)
  | closeSession (now : Millis) (sessionId : String) (error : Option String)
  | deliver (now : Millis) (eventId : String)
  | sweep (terminalCutoffMs idempotencyCutoffMs : Millis) (maxCompletedEntries : Nat)
  | crash
  | recover

variable (specs : AgentSpecs) (sha256Hex : Bytes → String) (s : Server)

/-- The database after a command; a command that fails is rolled back. -/
def after (answer : Except String Db) : Server :=
  match answer with
  | .ok db => { s with db }
  | .error _ => s

/-- `submit_episode` up to the answer of the store. -/
def lookup (t : Nat) (now deadlineAtMs : Millis) (uuid : Uuid) (clock : F64)
    (request : EpisodeRequest) : Option Server :=
  if s.lookups.contains t then none
  else match prepare uuid clock request with
    | .error _ => some s
    | .ok request =>
      match s.db.findOrCreateEpisode sha256Hex now request "sync" deadlineAtMs with
      | .error _ => some s
      | .ok (answer, db) =>
        match answerLookup (requestChecksum sha256Hex request) answer with
        | .ok none => some { s with db, lookups := s.lookups.insert t request }
        | .ok (some _) | .error _ => some { s with db }

/-- The submission reaches the coordinator: it finds an entry, or it becomes the owner. -/
def attach (t : Nat) : Option Server :=
  match s.lookups[t]? with
  | none => none
  | some request =>
    let s := { s with lookups := s.lookups.erase t }
    if s.runs.contains request.episodeId then some s
    else some { s with runs := s.runs.insert request.episodeId { request, stage := .begun } }

/-- An owner runs a command at one of the given stages and goes on to the next stage, or stays
where it is when the command fails. -/
def advance (episodeId : String) (backend : Backend) (stages : List Stage) (next : Stage)
    (answer : Except String Db) : Option Server :=
  match s.runs[episodeId]? with
  | none => none
  | some run =>
    if specs.selectExecutionBackend run.request = backend ∧ run.stage ∈ stages then
      match answer with
      | .ok db => some { s with db, runs := s.runs.insert episodeId { run with stage := next } }
      | .error _ => some s
    else none

/-- The owner ends without a command: a result that is too large, or a recovered wait whose
channel is closed or whose result was committed by the report. -/
def giveUp (episodeId : String) : Option Server :=
  if s.runs.contains episodeId then some { s with runs := s.runs.erase episodeId } else none

/-- The owner commits the result of the episode and leaves the coordinator. A recovered wait for
an agent job commits only after it closed the job. -/
def finish (now : Millis) (result : EpisodeResult) (terminalCode terminalMessage : String) :
    Option Server :=
  match s.runs[result.episodeId]? with
  | none => none
  | some run =>
    if run.stage = .agentWait then none
    else
      let s := s.after (s.db.commitTerminal sha256Hex now result terminalCode terminalMessage)
      some { s with runs := s.runs.erase result.episodeId }

/-- `mark_agent_job_terminal` by the owner that stops waiting. -/
def closeJob (now : Millis) (episodeId : String) (phase : JobPhase) : Option Server :=
  match s.runs[episodeId]? with
  | none => none
  | some run =>
    if (run.stage = .agentQueued ∨ run.stage = .agentWait) ∧
        (phase = .timedOut ∨ phase = .cancelled) then
      some { s with
        db := s.db.markAgentJobTerminal now (jobIdOf episodeId) phase
        runs := s.runs.insert episodeId { run with stage := .agentClosed } }
    else none

/-- `report_result` takes the pending entry of a dispatched attempt. -/
def takeReport (t : Nat) (episodeId : String) : Option Server :=
  match s.runs[episodeId]? with
  | none => none
  | some run =>
    if (run.stage = .dispatched ∨ run.stage = .nativeWait) ∧ ¬ s.reports.contains t then
      some { s with reports := s.reports.insert t episodeId }
    else none

/-- `report_result` commits; after a failure the pending entry is back and can be taken again. -/
def commitReport (t : Nat) (now : Millis) (result : EpisodeResult)
    (idempotency : IdempotencyRecord) (outcomeCode outcomeMessage : String) : Option Server :=
  if s.reports[t]? = some result.episodeId then
    match s.db.commitReportResult sha256Hex now result idempotency outcomeCode outcomeMessage with
    | .ok db => some { s with db, reports := s.reports.erase t }
    | .error _ => some s
  else none

/-- The entries and tasks after `recover_state`. -/
def recoveredRun (runs : Table Execution) : RecoveryTask → Table Execution
  | .nativeWait request _ => runs.insert request.episodeId { request, stage := .nativeWait }
  | .agentWait record =>
    runs.insert record.request.episodeId { request := record.request, stage := .agentWait }
  | .submission _ => runs

/-- A start of the server on the database that the last one left. -/
def recover : Option Server :=
  match recoverState sha256Hex s.db with
  | .ok state => some { db := s.db, up := true, runs := state.tasks.foldl recoveredRun ∅ }
  | .error _ => none

/-- The steps of a server that runs. -/
def act (s : Server) : Label → Option Server
  | .lookup t now deadlineAtMs uuid clock request =>
    s.lookup sha256Hex t now deadlineAtMs uuid clock request
  | .attach t => s.attach t
  | .putIntent now record =>
    s.advance specs record.episodeId .native [.begun, .dispatched] .dispatched
      (s.db.putDispatchIntent now record)
  | .markAccepted leaseId acceptedAtMs =>
    some (s.after (s.db.markDispatchAccepted leaseId acceptedAtMs))
  | .openSession now episodeId sessionId workerId gatewayPublicUrl gatewayApiKey =>
    s.advance specs episodeId .sweAgent [.begun] .begun
      (s.db.upsertGatewaySession now sessionId episodeId workerId gatewayPublicUrl gatewayApiKey)
  | .enqueueJob now poolId job deadlineAtMs =>
    if job.jobId = jobIdOf job.episodeId then
      s.advance specs job.episodeId .sweAgent [.begun] .agentQueued
        (s.db.enqueueAgentJob now poolId job deadlineAtMs)
    else none
  | .closeJob now episodeId phase => s.closeJob now episodeId phase
  | .finish now result terminalCode terminalMessage =>
    s.finish sha256Hex now result terminalCode terminalMessage
  | .giveUp episodeId => s.giveUp episodeId
  | .takeReport t episodeId => s.takeReport t episodeId
  | .commitReport t now result idempotency outcomeCode outcomeMessage =>
    s.commitReport sha256Hex t now result idempotency outcomeCode outcomeMessage
  | .leaseJob now jobId agentId runId =>
    some { s with db := (s.db.leaseAgentJob now jobId agentId runId).2 }
  | .requeueJob now job previousAgentId previousRunId =>
    some { s with db := (s.db.requeueAgentJob now job previousAgentId previousRunId).2 }
  | .completeJob now request encoded result =>
    -- an entry of the queue gives the episode, and an unknown job asks with a default result
    if request.jobId = jobIdOf result.episodeId ∨ result = {} then
      some (s.after ((s.db.commitAgentCompletion sha256Hex now request encoded result).map
        Prod.snd))
    else none
  | .closeSession now sessionId error =>
    some { s with db := s.db.markGatewayDestroyed now sessionId error }
  | .deliver now eventId => some { s with db := s.db.markOutboxDelivered now eventId }
  | .sweep terminalCutoffMs idempotencyCutoffMs maxCompletedEntries =>
    some { s with
      db := s.db.sweep terminalCutoffMs idempotencyCutoffMs maxCompletedEntries }
  | .crash => some { db := s.db, up := false }
  | .recover => none

def step (s : Server) (label : Label) : Option Server :=
  if s.up then s.act specs sha256Hex label
  else if label matches .recover then s.recover sha256Hex
  else none

/-- The runs of a server from an empty database. -/
def system : System Server Label where
  init := fun s => s = {}
  step := step specs sha256Hex

/-- The episode has a row without a terminal phase. -/
def Unfinished (id : String) : Prop :=
  ∃ row : EpisodeRow, s.db.episodes[id]? = some row ∧ row.phase.terminal = false

/-- The owner closed the job of the episode and has not committed a result. -/
def Closing (id : String) : Prop :=
  ∃ run : Execution, s.runs[id]? = some run ∧ run.stage = .agentClosed

/-- The steps that keep the database recoverable.
* A submission becomes the owner of an episode that has not ended since it was looked up, and its
  request selects the backend of the stored one.
* A gateway session is opened, or marked for another cleanup, while its episode has no other open
  session.
* A result is committed by the owner while the episode has no open job.
* Between closing the job of an unfinished episode and committing its result, the owner does not
  give up and the server does not stop.
* The sweeper keeps the episodes that have an owner or a report in flight. -/
def Covered : Label → Prop
  | .attach t => ∀ request : EpisodeRequest, s.lookups[t]? = some request →
    s.runs[request.episodeId]?.isNone → ∃ row : EpisodeRow,
      s.db.episodes[request.episodeId]? = some row ∧ row.phase.terminal = false ∧
        specs.selectExecutionBackend row.request = specs.selectExecutionBackend request
  | .openSession _ episodeId sessionId _ _ _ =>
    ∀ entry ∈ s.db.openSessions episodeId, entry.1 = sessionId
  | .closeSession _ sessionId error => error.isSome → ∀ row : GatewaySessionRow,
    s.db.gatewaySessions[sessionId]? = some row →
      ∀ entry ∈ s.db.openSessions row.episodeId, entry.1 = sessionId
  | .finish _ result _ _ => ¬ s.db.HasOpenJob result.episodeId
  | .giveUp episodeId => ¬ (s.Closing episodeId ∧ s.Unfinished episodeId)
  | .crash => ∀ id : String, ¬ (s.Closing id ∧ s.Unfinished id)
  | .sweep terminalCutoffMs idempotencyCutoffMs maxCompletedEntries =>
    ∀ id : String, id ∈ s.runs ∨ (∃ t : Nat, s.reports[t]? = some id) → id ∈ s.db.episodes →
      id ∈ (s.db.sweep terminalCutoffMs idempotencyCutoffMs maxCompletedEntries).episodes
  | .lookup .. | .putIntent .. | .markAccepted .. | .enqueueJob .. | .closeJob .. | .takeReport ..
  | .commitReport .. | .leaseJob .. | .requeueJob .. | .completeJob ..
  | .deliver .. | .recover => True

instance (id : String) : Decidable (s.Unfinished id) :=
  inferInstanceAs (Decidable (∃ row ∈ s.db.episodes[id]?, row.phase.terminal = false))

instance (id : String) : Decidable (s.Closing id) :=
  inferInstanceAs (Decidable (∃ run ∈ s.runs[id]?, run.stage = .agentClosed))

instance (db : Db) (id : String) : Decidable (db.HasOpenJob id) :=
  inferInstanceAs (Decidable (∃ row ∈ db.agentJobs[jobIdOf id]?, row.episodeId = id ∧ row.Open))

theorem forall_not_closing_iff : (∀ id ∈ s.runs.keys, ¬ (s.Closing id ∧ s.Unfinished id)) ↔
      ∀ id : String, ¬ (s.Closing id ∧ s.Unfinished id) := by
  refine ⟨?_, fun all id _ => all id⟩
  rintro all id ⟨⟨run, owned, stage⟩, unfinished⟩
  have entry : id ∈ s.runs := (mem_iff_lookup _ _).mpr ⟨run, owned⟩
  exact all id (Std.ExtTreeMap.mem_keys.mpr entry) ⟨⟨run, owned, stage⟩, unfinished⟩

theorem forall_kept_iff (kept : String → Prop) :
    ((∀ id ∈ s.runs.keys, id ∈ s.db.episodes → kept id) ∧
      ∀ entry ∈ s.reports.toList, entry.2 ∈ s.db.episodes → kept entry.2) ↔
    ∀ id : String, id ∈ s.runs ∨ (∃ t : Nat, s.reports[t]? = some id) → id ∈ s.db.episodes →
      kept id := by
  refine ⟨?_, ?_⟩
  · rintro ⟨owners, reports⟩ id (owner | ⟨t, held⟩) known
    · exact owners id (Std.ExtTreeMap.mem_keys.mpr owner) known
    · exact reports (t, id) (Std.ExtTreeMap.mem_toList_iff_getElem?_eq_some.mpr held) known
  · intro all
    refine ⟨?_, ?_⟩
    · intro id listed known
      exact all id (Or.inl (Std.ExtTreeMap.mem_keys.mp listed)) known
    · rintro ⟨t, id⟩ listed known
      exact all id (Or.inr ⟨t, Std.ExtTreeMap.mem_toList_iff_getElem?_eq_some.mp listed⟩) known

instance decidableCovered : ∀ label : Label, Decidable (s.Covered specs label)
  | .attach t => inferInstanceAs (Decidable (∀ request ∈ s.lookups[t]?,
      s.runs[request.episodeId]?.isNone → ∃ row ∈ s.db.episodes[request.episodeId]?,
        row.phase.terminal = false ∧
          specs.selectExecutionBackend row.request = specs.selectExecutionBackend request))
  | .openSession _ episodeId sessionId _ _ _ =>
    inferInstanceAs (Decidable (∀ entry ∈ s.db.openSessions episodeId, entry.1 = sessionId))
  | .closeSession _ sessionId error => inferInstanceAs (Decidable (error.isSome →
      ∀ row ∈ s.db.gatewaySessions[sessionId]?,
        ∀ entry ∈ s.db.openSessions row.episodeId, entry.1 = sessionId))
  | .finish _ result _ _ => inferInstanceAs (Decidable (¬ s.db.HasOpenJob result.episodeId))
  | .giveUp episodeId =>
    inferInstanceAs (Decidable (¬ (s.Closing episodeId ∧ s.Unfinished episodeId)))
  | .crash => decidable_of_iff _ s.forall_not_closing_iff
  | .sweep _ _ _ => decidable_of_iff _ (s.forall_kept_iff _)
  | .lookup .. | .putIntent .. | .markAccepted .. | .enqueueJob .. | .closeJob .. | .takeReport ..
  | .commitReport .. | .leaseJob .. | .requeueJob .. | .completeJob ..
  | .deliver .. | .recover => .isTrue trivial

end Server

end UEnv
