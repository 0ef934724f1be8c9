import UEnv.Obs.Events
import UEnv.Lib.Records
import UEnv.Lib.Runs

/-!
# The merge engine

`obs/merge.rs`. An event is admitted against the lifecycle of its run and the sequence number of
its source, and an admitted event is projected on the lifecycle and on the chain state of its run.
The patch that goes to the subscribers repeats the chain state and is left out.
-/

namespace UEnv.Obs

open Tables Records

structure WorkerStatusObservation where
  workerId : String
  status : String
  statusReason : String
  statusChangedTs : Int
  lastHeartbeatTs : Int
  currentLoad : UInt32
  capacity : UInt32
  endpoint : String
  supportedEnvTypes : List String
  activeEpisodes : List String

namespace Json

/-- Deserialize a `u32`. -/
def toU32 : Json → Option UInt32
  | posInt n => if n.toNat < 2 ^ 32 then some n.toUInt32 else none
  | _ => none

/-- Deserialize an `i64`. -/
def toI64 : Json → Option Int
  | posInt n => if n.toNat < 2 ^ 63 then some n.toNat else none
  | negInt n => some n
  | _ => none

/-- Deserialize a `Vec<String>`. -/
def toStrings : Json → Option (List String)
  | arr items => items.mapM asStr
  | _ => none

/-- A field that is read with `decode`; `default` is its `serde(default)`, if it has one. -/
def field {α : Type} (found : Option Json) (decode : Json → Option α) (default : Option α) :
    Option α :=
  match found with
  | some value => decode value
  | none => default

/-- The fields of a `WorkerStatusObservation`, looked up by position and name. -/
def toObservation (look : Nat → String → Option Json) : Option WorkerStatusObservation := do
  let workerId ← field (look 0 "worker_id") asStr none
  let status ← field (look 1 "status") asStr none
  let statusReason ← field (look 2 "status_reason") asStr none
  let statusChangedTs ← field (look 3 "status_changed_ts") toI64 none
  let lastHeartbeatTs ← field (look 4 "last_heartbeat_ts") toI64 (some 0)
  let currentLoad ← field (look 5 "current_load") toU32 none
  let capacity ← field (look 6 "capacity") toU32 none
  let endpoint ← field (look 7 "endpoint") asStr none
  let supportedEnvTypes ← field (look 8 "supported_env_types") toStrings (some [])
  let activeEpisodes ← field (look 9 "active_episodes") toStrings (some [])
  some { workerId, status, statusReason, statusChangedTs, lastHeartbeatTs, currentLoad, capacity
         endpoint, supportedEnvTypes, activeEpisodes }

/-- Deserialize a `WorkerStatusObservation` from an object, or from an array of its fields. -/
def asObservation : Json → Option WorkerStatusObservation
  | obj fields => toObservation fun _ name => fields.lookup name
  | arr items => if items.length ≤ 10 then toObservation fun i _ => items[i]? else none
  | _ => none

/-- Deserialize a `Vec<WorkerStatusObservation>`. -/
def asObservations : Json → Option (List WorkerStatusObservation)
  | arr items => items.mapM asObservation
  | _ => none

/-- `payload.get(key)`, or below `run_plan`. -/
def getPlanned (payload : Json) (key : String) : Option Json :=
  (payload.get key).orElse fun _ => (payload.get "run_plan").bind (get key)

/-- `payload_u64` (merge.rs, 661-671). -/
def payloadU64 (payload : Json) (key : String) : Option UInt64 :=
  ((payload.getPlanned key).bind fun value =>
    value.asU64.orElse fun _ => value.asStr.bind parseU64).filter (0 < ·)

/-- `payload_string` (merge.rs, 673-681). -/
def payloadString (payload : Json) (key : String) : Option String :=
  (((payload.getPlanned key).bind asStr).map Service.trim).filter (!·.isEmpty)

end Json

/-- `terminal_status` (merge.rs, 683-691). -/
def ObservabilityEvent.terminalStatus (ev : ObservabilityEvent) (default : String) : String :=
  (ev.payload.bind fun payload => (payload.payloadString "run_status").orElse fun _ =>
    payload.payloadString "terminal_status").getD default

/-- `terminal_reason` (merge.rs, 693-698). -/
def ObservabilityEvent.terminalReason (ev : ObservabilityEvent) (default : String) : String :=
  (ev.payload.bind fun payload => payload.payloadString "terminal_reason").getD default

/-! ### The views of episodes -/

namespace EpisodeView

variable (ev : ObservabilityEvent) (eventSeq : Nat)

/-- The view that `EPISODE_SUBMITTED` inserts. -/
def submitted : EpisodeView where
  episodeId := ev.epId
  correlationId := ev.correlationId
  attemptId := ev.attemptId.getD 1
  workerId := ev.workerId.getD ""
  envType := ev.envType.getD ""
  stepIndex := 0
  status := .active
  stage := .submit
  eventSeq
  lastSourceTs := ev.sourceTs
  trajectoryId := none

/-- The status that an event gives to the episode it ends; a lifecycle signal keeps a failure. -/
def finalStatus (view : Option EpisodeView) : Status :=
  if ev.kind = .episodeFailed ∨
      ev.kind = .episodeClosed ∧ view.any (fun ep => ep.status == .failed) = true then .failed
  else .done

variable (ep : EpisodeView)

/-- `EPISODE_SCHEDULING`. -/
def scheduling : EpisodeView :=
  { ep with status := .active, stage := .dispatch, eventSeq, lastSourceTs := ev.sourceTs }

/-- `EPISODE_DISPATCHED` and `ATTEMPT_STARTED`. -/
def dispatched : EpisodeView :=
  { ep with
    attemptId := ev.attemptId.getD ep.attemptId, workerId := ev.workerId.getD ep.workerId
    status := .active, stage := .execute, eventSeq, lastSourceTs := ev.sourceTs }

/-- `STEP_STARTED` and `STEP_COMPLETE`. -/
def stepping : EpisodeView :=
  { ep with
    stepIndex := ev.stepIndex.getD 0, eventSeq, lastSourceTs := ev.sourceTs, status := .active
    stage := .execute }

/-- `EPISODE_REPORTING`. -/
def reporting : EpisodeView :=
  { ep with
    status := .active, stage := .report, eventSeq, lastSourceTs := ev.sourceTs
    stepIndex := ev.stepIndex.getD ep.stepIndex }

/-- `EPISODE_COMPLETED`, `EPISODE_FAILED` and `EPISODE_CLOSED`. -/
def ended (status : Status) : EpisodeView :=
  { ep with
    status, stage := if status = .failed then .failed else .done, eventSeq
    lastSourceTs := ev.sourceTs
    trajectoryId := ((ev.payload.bind (·.get "trajectory_id")).bind Json.asStr).orElse fun _ =>
      ep.trajectoryId }

/-- `ATTEMPT_CLOSED`. -/
def attemptClosed : EpisodeView := { ep with eventSeq, lastSourceTs := ev.sourceTs }

end EpisodeView

/-! ### The pieces of a chain state -/

namespace ChainState

variable (state : ChainState)

/-- `apply_run_plan` (merge.rs, 649-659). -/
def applyRunPlan (ev : ObservabilityEvent) : ChainState :=
  match ev.payload with
  | none => state
  | some payload => { state with
      plannedEpisodeTotal := (payload.payloadU64 "planned_episode_total").getD
        state.plannedEpisodeTotal
      plannedStepTotal := (payload.payloadU64 "planned_step_total").getD state.plannedStepTotal }

/-- Update the first tree node with an id. -/
def updateNode (nodeId : String) (f : TreeNode → TreeNode) : ChainState :=
  { state with tree :=
    { state.tree with nodes := update TreeNode.nodeId nodeId f state.tree.nodes } }

def updateWorkflow (nodeId : Stage) (f : WorkflowNode → WorkflowNode) : ChainState :=
  { state with workflow :=
      { state.workflow with nodes := update WorkflowNode.nodeId nodeId f state.workflow.nodes } }

/-- `set_run_tree_status` (merge.rs, 700-705). -/
def setRunTreeStatus (status : String) : ChainState :=
  state.updateNode (runNodeId state.trainingRunId) fun n => { n with status }

/-- `bump_workflow_stage_count` (merge.rs, 712-727). -/
def bumpWorkflowStageCount (stage : Stage) (epId : String) : ChainState :=
  let seen := (state.stageSeenEpisodes[stage.id]?).getD []
  if epId.isEmpty || seen.contains epId then state
  else
    let seen := seen ++ [epId]
    let state := { state with stageSeenEpisodes := state.stageSeenEpisodes.insert stage.id seen }
    state.updateWorkflow stage fun n => { n with
      payloadSummary := .obj [("count", .posInt (UInt64.ofNat seen.length))] }

/-- `set_workflow_stage_status` (merge.rs, 753-762). -/
def setWorkflowStageStatus (nodeId : Stage) (status : Status) : ChainState :=
  state.updateWorkflow nodeId fun n => { n with status }

/-- `set_workflow_active` (merge.rs, 729-751). -/
def setWorkflowActive (nodeId : Stage) (status : Status) (ev : ObservabilityEvent) : ChainState :=
  let state := state.setWorkflowStageStatus nodeId status
  let state := state.updateWorkflow nodeId fun n => { n with
    correlationId := ev.correlationId, episodeId := ev.episodeId.getD n.episodeId
    sourceTs := ev.sourceTs }
  if status = .active then
    { state with workflow := { state.workflow with activeNodeId := nodeId } }
  else state

/-- `bump_children` (merge.rs, 867-877). -/
def bumpChildren (parentId : String) : ChainState :=
  let count := state.tree.nodes.countP fun c => c.parentId = parentId
  state.updateNode parentId fun n => { n with childrenCount := count }

/-- `state.tree.nodes.push(node)`, and the children of its parent are counted. -/
def pushNode (node : TreeNode) : ChainState :=
  { state with tree := { state.tree with nodes := state.tree.nodes ++ [node] }
    }.bumpChildren node.parentId

def hasNode (nodeId : String) : Bool := (lookup TreeNode.nodeId nodeId state.tree.nodes).isSome

/-- The first node of a worker. -/
def workerNode (workerId status : String) : TreeNode where
  nodeId := workerNodeId workerId
  parentId := runNodeId state.trainingRunId
  kind := .worker
  refId := workerId
  status
  childrenCount := 0
  nodeMeta := .obj []

/-- `upsert_tree_worker` (merge.rs, 764-781). -/
def upsertTreeWorker (workerId status : String) : ChainState :=
  if state.hasNode (workerNodeId workerId) then
    state.updateNode (workerNodeId workerId) fun n => { n with status }
  else state.pushNode (state.workerNode workerId status)

/-- The tree node that an episode is put under. -/
def episodeParent (ev : ObservabilityEvent) : String :=
  match ev.workerId with
  | some wid => if wid.isEmpty then runNodeId state.trainingRunId else workerNodeId wid
  | none => runNodeId state.trainingRunId

/-- The worker of an episode event gets its node. -/
def upsertParent (ev : ObservabilityEvent) : ChainState :=
  match ev.workerId with
  | some wid => if wid.isEmpty then state else state.upsertTreeWorker wid "ACTIVE"
  | none => state

def jsonOption {α : Type} (f : α → Json) : Option α → Json
  | some a => f a
  | none => .null

def jsonInt (n : Int) : Json := if 0 ≤ n then .posInt (UInt64.ofNat n.toNat) else .negInt n

/-- The description of an episode in its first node. -/
def episodeMeta (ev : ObservabilityEvent) : List (String × Json) :=
  [("attempt_id", jsonOption (fun n => .posInt n.toUInt64) ev.attemptId),
    ("correlation_id", .str ev.correlationId)]

/-- The first node of an episode. -/
def episodeNode (episodeId : String) (ev : ObservabilityEvent) (status : String) : TreeNode where
  nodeId := episodeNodeId episodeId
  parentId := state.episodeParent ev
  kind := .episode
  refId := episodeId
  status
  childrenCount := 0
  nodeMeta := .obj (episodeMeta ev)

/-- `upsert_tree_episode` (merge.rs, 783-823). -/
def upsertTreeEpisode (episodeId : String) (ev : ObservabilityEvent) (status : String) :
    ChainState :=
  let node := state.episodeNode episodeId ev status
  let state := state.upsertParent ev
  if state.hasNode (episodeNodeId episodeId) then
    state.updateNode (episodeNodeId episodeId) fun n => { n with
      status, parentId := node.parentId
      nodeMeta := .obj (episodeMeta ev ++ [("step_index", jsonOption jsonInt ev.stepIndex)]) }
  else state.pushNode node

/-- The first node of a step. -/
def stepNode (episodeId : String) (step : Int) (status : String) : TreeNode where
  nodeId := stepNodeId episodeId step
  parentId := episodeNodeId episodeId
  kind := .step
  refId := toString step
  status
  childrenCount := 0
  nodeMeta := .obj [("step_index", jsonInt step)]

/-- `upsert_tree_step` (merge.rs, 825-851). -/
def upsertTreeStep (episodeId : String) (step : Int) (ev : ObservabilityEvent) : ChainState :=
  let state := state.upsertTreeEpisode episodeId ev "ACTIVE"
  let status := if ev.kind = .stepComplete then "DONE" else "ACTIVE"
  if state.hasNode (stepNodeId episodeId step) then
    state.updateNode (stepNodeId episodeId step) fun n => { n with status }
  else state.pushNode (stepNode episodeId step status)

/-- `close_tree_steps_for_episode` (merge.rs, 853-865). -/
def closeTreeStepsForEpisode (episodeId status : String) : ChainState :=
  let parent := episodeNodeId episodeId
  { state with tree := { state.tree with nodes := state.tree.nodes.map fun n =>
      if n.parentId = parent ∧ n.kind = .step ∧ n.status = "ACTIVE" then { n with status }
      else n } }

/-- `if let Some(ep) = state.episodes.get_mut(id)`. -/
def modifyEpisode (epId : String) (f : EpisodeView → EpisodeView) : ChainState :=
  { state with episodes := state.episodes.modify epId f }

/-- `state.workers.entry(id).or_insert_with(…)`, and an update of the entry. -/
def modifyWorker (workerId : String) (fresh : WorkerView) (f : WorkerView → WorkerView) :
    ChainState :=
  { state with workers :=
      state.workers.insert workerId (f ((state.workers[workerId]?).getD fresh)) }

/-! ### The arms of `project_event` -/

variable (ev : ObservabilityEvent) (eventSeq : Nat)

def projectRunStarted : ChainState :=
  let state := state.applyRunPlan ev
  let state := { state with
    runStatus := "running", terminalReason := "", heartbeatState := .alive
    lastHeartbeatTs := ev.sourceTs, runState := .running }
  (state.setRunTreeStatus "ACTIVE").setWorkflowActive .submit .active ev

def projectRunHeartbeat : ChainState :=
  if state.runState = .closed then state
  else
    { state with
      runState := .running, runStatus := "running", heartbeatState := .alive
      lastHeartbeatTs := ev.sourceTs }.setRunTreeStatus "ACTIVE"

def projectRunStopped : ChainState :=
  { state with
    runState := .stopping, runStatus := "stopping", heartbeatState := .alive
    }.setRunTreeStatus "ACTIVE"

/-- `RUN_COMPLETED`, `RUN_TERMINATED` and `RUN_FAILED`: the status that the run ends with, the
status of its tree node and the one of the last stage. -/
def projectRunEnded (runStatus treeStatus : String) (doneStatus : Status) : ChainState :=
  ({ state with
    runState := .closed, runStatus, terminalReason := ev.terminalReason runStatus
    heartbeatState := .closed }.setRunTreeStatus treeStatus).setWorkflowStageStatus .done doneStatus

/-- The run has no final status yet. -/
def undecided : Bool := ["", "pending", "running", "stopping"].contains state.runStatus

def projectRunClosed : ChainState :=
  let status := ev.terminalStatus "completed"
  let state := if state.undecided then
      { state with runStatus := status, terminalReason := ev.terminalReason status }
    else state
  ({ state with
    runState := .closed, heartbeatState := .closed
    }.setRunTreeStatus "CLOSED").setWorkflowStageStatus .done .done

def projectEpisodeSubmitted : ChainState :=
  let state := { state with episodes := state.episodes.insert ev.epId (.submitted ev eventSeq) }
  let state := (state.setWorkflowActive .submit .done ev).setWorkflowActive .dispatch .active ev
  (state.bumpWorkflowStageCount .submit ev.epId).upsertTreeEpisode ev.epId ev "ACTIVE"

def projectEpisodeScheduling : ChainState :=
  let state := state.modifyEpisode ev.epId (.scheduling ev eventSeq)
  let state := (state.setWorkflowActive .submit .done ev).setWorkflowActive .dispatch .active ev
  state.upsertTreeEpisode ev.epId ev "ACTIVE"

/-- A dispatched episode is put on the roster of its worker. -/
def enroll : ChainState :=
  match ev.workerId with
  | none => state
  | some wid =>
    let fresh : WorkerView := { workerId := wid, status := "ACTIVE" }
    (state.modifyWorker wid fresh fun w =>
      if w.activeEpisodes.contains ev.epId then w
      else { w with activeEpisodes := w.activeEpisodes ++ [ev.epId] }).upsertTreeWorker wid "ACTIVE"

/-- `EPISODE_DISPATCHED` and `ATTEMPT_STARTED`. -/
def projectEpisodeDispatched : ChainState :=
  let state := state.modifyEpisode ev.epId (.dispatched ev eventSeq)
  let state := state.enroll ev
  let state := (state.setWorkflowActive .dispatch .done ev).setWorkflowActive .execute .active ev
  let state := (state.bumpWorkflowStageCount .dispatch ev.epId).bumpWorkflowStageCount .execute
    ev.epId
  state.upsertTreeEpisode ev.epId ev "ACTIVE"

/-- `STEP_STARTED` and `STEP_COMPLETE`. -/
def projectStep : ChainState :=
  let state := state.modifyEpisode ev.epId (.stepping ev eventSeq)
  let state := state.setWorkflowActive .execute .active ev
  (state.bumpWorkflowStageCount .execute ev.epId).upsertTreeStep ev.epId (ev.stepIndex.getD 0) ev

def projectEpisodeReporting : ChainState :=
  let state := state.modifyEpisode ev.epId (.reporting ev eventSeq)
  let state := (state.setWorkflowActive .execute .done ev).setWorkflowActive .report .active ev
  state.upsertTreeEpisode ev.epId ev "ACTIVE"

/-- The episode leaves the roster of the worker that its view names. -/
def discharge : ChainState :=
  match ((state.episodes[ev.epId]?).map (·.workerId)).filter (!·.isEmpty) with
  | none => state
  | some wid => { state with workers := state.workers.modify wid fun w =>
      { w with activeEpisodes := w.activeEpisodes.filter (· != ev.epId) } }

/-- `EPISODE_COMPLETED`, `EPISODE_FAILED` and `EPISODE_CLOSED`. -/
def projectEpisodeEnded : ChainState :=
  let status := EpisodeView.finalStatus ev state.episodes[ev.epId]?
  let state := state.modifyEpisode ev.epId (·.ended ev eventSeq status)
  let state := state.discharge ev
  let state := ((state.setWorkflowActive .execute .done ev).setWorkflowActive .report .done ev
    ).setWorkflowActive .done status ev
  let state := (state.bumpWorkflowStageCount .report ev.epId).bumpWorkflowStageCount .done ev.epId
  (state.upsertTreeEpisode ev.epId ev status.text).closeTreeStepsForEpisode ev.epId status.text

def projectAttemptClosed : ChainState :=
  state.modifyEpisode ev.epId (.attemptClosed ev eventSeq)

/-- One observation of a snapshot. -/
def observe (observation : WorkerStatusObservation) : ChainState :=
  let fresh : WorkerView := { workerId := observation.workerId }
  (state.modifyWorker observation.workerId fresh fun w => { w with
    status := observation.status, statusReason := observation.statusReason
    statusChangedTs := observation.statusChangedTs
    lastHeartbeatTs := if 0 < observation.lastHeartbeatTs then observation.lastHeartbeatTs
      else w.lastHeartbeatTs
    currentLoad := observation.currentLoad, capacity := observation.capacity
    endpoint := observation.endpoint, supportedEnvTypes := observation.supportedEnvTypes
    activeEpisodes := if !observation.activeEpisodes.isEmpty || observation.currentLoad == 0 then
        observation.activeEpisodes
      else w.activeEpisodes }).upsertTreeWorker observation.workerId observation.status

/-- A snapshot that replaces the fleet drops every worker first. -/
def dropWorkers : ChainState :=
  { state with
    workers := ∅
    tree := { state.tree with nodes := state.tree.nodes.filter fun n => n.kind != .worker } }

/-- `replace` in the payload of a snapshot. -/
def replaces : Bool := ((ev.payload.bind (·.get "replace")).bind Json.asBool).getD false

/-- The observations in the payload of a snapshot. -/
def observations : List WorkerStatusObservation :=
  ((ev.payload.bind (·.get "workers")).bind Json.asObservations).getD []

def projectWorkerStatusSnapshot : ChainState :=
  (observations ev).foldl observe (if replaces ev then state.dropWorkers else state)

def projectWorkerRegistered : ChainState :=
  (state.modifyWorker ev.wid { workerId := ev.wid } fun w => { w with
    lastHeartbeatTs := ev.sourceTs, status := "IDLE", statusReason := "REGISTERED"
    statusChangedTs := ev.sourceTs }).upsertTreeWorker ev.wid "IDLE"

def projectWorkerHeartbeat : ChainState :=
  let w := (state.workers[ev.wid]?).getD { workerId := ev.wid }
  let w := { w with lastHeartbeatTs := ev.sourceTs }
  let w := if w.status.isEmpty then
      { w with
        status := "IDLE", statusReason := "HEARTBEAT_RECEIVED", statusChangedTs := ev.sourceTs }
    else w
  { state with workers := state.workers.insert ev.wid w }.upsertTreeWorker ev.wid w.status

/-- `project_event` on the chain state of the run. -/
def projectEvent : ChainState :=
  match ev.kind with
  | .runStarted => state.projectRunStarted ev
  | .runHeartbeat => state.projectRunHeartbeat ev
  | .runStopped => state.projectRunStopped
  | .runCompleted => state.projectRunEnded ev "completed" "CLOSED" .done
  | .runTerminated => state.projectRunEnded ev "terminated" "CLOSED" .failed
  | .runFailed => state.projectRunEnded ev "failed" "FAILED" .failed
  | .runClosed => state.projectRunClosed ev
  | .episodeSubmitted => state.projectEpisodeSubmitted ev eventSeq
  | .episodeScheduling => state.projectEpisodeScheduling ev eventSeq
  | .episodeDispatched | .attemptStarted => state.projectEpisodeDispatched ev eventSeq
  | .stepStarted | .stepComplete => state.projectStep ev eventSeq
  | .episodeReporting => state.projectEpisodeReporting ev eventSeq
  | .episodeCompleted | .episodeFailed | .episodeClosed => state.projectEpisodeEnded ev eventSeq
  | .attemptClosed => state.projectAttemptClosed ev eventSeq
  | .workerStatusSnapshot => state.projectWorkerStatusSnapshot ev
  | .workerRegistered => state.projectWorkerRegistered ev
  | .workerHeartbeat => state.projectWorkerHeartbeat ev
  | .other => state

end ChainState

/-! ### The engine -/

/-- merge.rs, 19-23. -/
structure RunLifecycle where
  runState : RunState := .pending
  closed : Bool := false
  terminal : Bool := false
  deriving DecidableEq

/-- `project_event` on the lifecycle of the run. -/
def RunLifecycle.projectEvent (life : RunLifecycle) (kind : EventType) : RunLifecycle :=
  match kind with
  | .runStarted => { runState := .running, closed := false, terminal := false }
  | .runHeartbeat => if life.closed then life else { life with runState := .running }
  | .runStopped => { life with runState := .stopping }
  | .runCompleted | .runTerminated | .runFailed =>
    { runState := .closed, closed := true, terminal := true }
  | .runClosed => { life with runState := .closed, closed := true }
  | _ => life

/-- A closed run refuses an event; one that ended for good takes nothing but `RUN_CLOSED`. -/
def RunLifecycle.refuses (life : RunLifecycle) (kind : EventType) : Bool :=
  life.closed && if life.terminal then kind != .runClosed
    else !(kind == .runStarted || kind == .runStopped || kind == .runClosed)

/-- event.rs, 52-58. -/
inductive Disposition
  | accepted | lateArrival | rejectedClosed | duplicate | seqStale
  deriving DecidableEq

/-- merge.rs, 26-33. -/
structure MergeEngine where
  runs : Map String ChainState := ∅
  lifecycles : Map String RunLifecycle := ∅
  sourceSeq : Map String UInt64 := ∅

namespace MergeEngine

variable (engine : MergeEngine) (ev : ObservabilityEvent)

def lifecycle (runId : String) : RunLifecycle := (engine.lifecycles[runId]?).getD {}

/-- What `apply` decides about an event. -/
def disposition : Disposition :=
  if (engine.lifecycle ev.runId).refuses ev.kind then .rejectedClosed
  else
    match engine.sourceSeq[ev.sourceId]? with
    | none => .accepted
    | some prev =>
      if ev.seq < prev then .seqStale else if ev.seq = prev then .duplicate else .accepted

/-- The chain state of a run with the event counted. -/
def counted (state : ChainState) (ingestTs : Int) : ChainState :=
  { state with
    globalEventSeq := state.globalEventSeq + 1
    updatedAt := ingestTs
    cursor := { lastEventId := ev.eventId, lastSourceId := ev.sourceId, lastSeq := ev.seq
                lastIngestTs := ingestTs } }

/-- The chain state of a run after an admitted event; the clock of a new one is overwritten. -/
def project (state : Option ChainState) (ingestTs : Int) : ChainState :=
  let state := counted ev (state.getD (.empty ingestTs ev.runId)) ingestTs
  state.projectEvent ev state.globalEventSeq

/-- An event is admitted: its run does not refuse it and it is newer than its source. -/
def Admits : Prop :=
  (engine.lifecycle ev.runId).refuses ev.kind = false ∧
    ∀ prev ∈ engine.sourceSeq[ev.sourceId]?, prev < ev.seq

instance : Decidable (engine.Admits ev) :=
  -- over the one stored number, and not over all of them
  have : Decidable (∀ prev ∈ engine.sourceSeq[ev.sourceId]?, prev < ev.seq) :=
    Option.decidableForallMem _
  inferInstanceAs (Decidable ((engine.lifecycle ev.runId).refuses ev.kind = false ∧
    ∀ prev ∈ engine.sourceSeq[ev.sourceId]?, prev < ev.seq))

/-- `apply` (merge.rs, 64-148). -/
def apply (ingestTs : Int) : MergeEngine × Disposition :=
  let life := engine.lifecycle ev.runId
  match engine.disposition ev with
  | .accepted =>
    ({ runs := engine.runs.insert ev.runId (project ev engine.runs[ev.runId]? ingestTs)
       lifecycles := engine.lifecycles.insert ev.runId (life.projectEvent ev.kind)
       sourceSeq := engine.sourceSeq.insert ev.sourceId ev.seq }, .accepted)
  | refused => ({ engine with lifecycles := engine.lifecycles.insert ev.runId life }, refused)

theorem disposition_eq_accepted_iff : engine.disposition ev = .accepted ↔ engine.Admits ev := by
  unfold disposition Admits
  cases (engine.lifecycle ev.runId).refuses ev.kind with
  | true => simp
  | false =>
    cases engine.sourceSeq[ev.sourceId]? with
    | none => simp
    | some prev =>
      simp only [Bool.false_eq_true, if_false, true_and, Option.mem_def, Option.some.injEq,
        forall_eq']
      by_cases older : ev.seq < prev
      · simp [older, UInt64.le_of_lt older]
      · by_cases same : ev.seq = prev
        · simp [same]
        · simp [older, same, UInt64.lt_of_le_of_ne (UInt64.not_lt.mp older) (Ne.symm same)]

variable {engine ev}

theorem apply_of_admits (admits : engine.Admits ev) (ingestTs : Int) :
    (engine.apply ev ingestTs).1 =
      { runs := engine.runs.insert ev.runId (project ev engine.runs[ev.runId]? ingestTs)
        lifecycles := engine.lifecycles.insert ev.runId
          ((engine.lifecycle ev.runId).projectEvent ev.kind)
        sourceSeq := engine.sourceSeq.insert ev.sourceId ev.seq } := by
  unfold apply
  rw [(disposition_eq_accepted_iff engine ev).mpr admits]

theorem apply_of_refused (refused : ¬ engine.Admits ev) (ingestTs : Int) :
    (engine.apply ev ingestTs).1 = { engine with
      lifecycles := engine.lifecycles.insert ev.runId (engine.lifecycle ev.runId) } := by
  unfold apply
  cases decided : engine.disposition ev with
  | accepted => exact absurd ((disposition_eq_accepted_iff engine ev).mp decided) refused
  | lateArrival | rejectedClosed | duplicate | seqStale => rfl

theorem runs_apply (ingestTs : Int) (runId : String) : (engine.apply ev ingestTs).1.runs[runId]? =
      if engine.Admits ev ∧ ev.runId = runId then some (project ev engine.runs[runId]? ingestTs)
      else engine.runs[runId]? := by
  by_cases admits : engine.Admits ev
  · rw [apply_of_admits admits]
    show (engine.runs.insert ev.runId _)[runId]? = _
    rw [lookup_insert]
    by_cases same : ev.runId = runId
    · rw [if_pos same, if_pos ⟨admits, same⟩, same]
    · rw [if_neg same, if_neg (fun both => same both.2)]
  · rw [apply_of_refused admits, if_neg (fun both => admits both.1)]

theorem lifecycle_apply (ingestTs : Int) (runId : String) :
    (engine.apply ev ingestTs).1.lifecycle runId =
      if engine.Admits ev ∧ ev.runId = runId then (engine.lifecycle runId).projectEvent ev.kind
      else engine.lifecycle runId := by
  unfold lifecycle
  by_cases admits : engine.Admits ev
  · rw [apply_of_admits admits]
    dsimp only
    rw [lookup_insert]
    by_cases same : ev.runId = runId
    · rw [if_pos same, if_pos ⟨admits, same⟩, ← same]
      rfl
    · rw [if_neg same, if_neg (fun both => same both.2)]
  · rw [apply_of_refused admits, if_neg (fun both => admits both.1)]
    dsimp only
    rw [lookup_insert]
    by_cases same : ev.runId = runId
    · rw [if_pos same, ← same]
      rfl
    · rw [if_neg same]

end MergeEngine

/-- The engine from its start, fed with events at their ingest times. -/
def merges : Runs.System MergeEngine (ObservabilityEvent × Int) where
  init engine := engine = {}
  step engine label := some (engine.apply label.1 label.2).1

end UEnv.Obs
