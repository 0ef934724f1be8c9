import Mathlib.Algebra.Order.Ring.Int
import UEnv.Service.Request

/-!
# Observability events and the views that are projected from them

`obs/event.rs`. An event names its run, its source with a sequence number of that source, and a
type that decides which views it changes.
-/

namespace UEnv.Obs

open Tables Service

/-- `serde_json::Value`; an object has each key once. -/
inductive Json
  | null
  | bool (b : Bool)
  | posInt (n : UInt64)
  | negInt (n : Int)
  | float (bits : UInt64)
  | str (s : String)
  | arr (items : List Json)
  | obj (fields : List (String × Json))
  deriving Repr

namespace Json

/-- `Value::get` with a key. -/
def get (key : String) : Json → Option Json
  | obj fields => fields.lookup key
  | _ => none

def asBool : Json → Option Bool
  | bool b => some b
  | _ => none

def asStr : Json → Option String
  | str s => some s
  | _ => none

def asU64 : Json → Option UInt64
  | posInt n => some n
  | _ => none

end Json

/-- `str::parse::<u64>`. -/
def parseU64 (text : String) : Option UInt64 :=
  let digits := match text.toList with
    | '+' :: rest => rest
    | chars => chars
  if digits.isEmpty || !digits.all Char.isDigit then none
  else
    let value := digits.foldl (fun n c => 10 * n + (c.toNat - 48)) 0
    if value < 2 ^ 64 then some (UInt64.ofNat value) else none

/-! ### Events -/

/-- What `MergeEngine` tells apart in `event_type`. -/
inductive EventType
  | runStarted | runHeartbeat | runStopped | runCompleted | runTerminated | runFailed | runClosed
  | episodeSubmitted | episodeScheduling | episodeDispatched | attemptStarted
  | stepStarted | stepComplete | episodeReporting
  | episodeCompleted | episodeFailed | episodeClosed | attemptClosed
  | workerStatusSnapshot | workerRegistered | workerHeartbeat
  | other
  deriving DecidableEq

def EventType.ofString : String → EventType
  | "RUN_STARTED" => runStarted
  | "RUN_HEARTBEAT" => runHeartbeat
  | "RUN_STOPPED" => runStopped
  | "RUN_COMPLETED" => runCompleted
  | "RUN_TERMINATED" => runTerminated
  | "RUN_FAILED" => runFailed
  | "RUN_CLOSED" => runClosed
  | "EPISODE_SUBMITTED" => episodeSubmitted
  | "EPISODE_SCHEDULING" => episodeScheduling
  | "EPISODE_DISPATCHED" => episodeDispatched
  | "ATTEMPT_STARTED" => attemptStarted
  | "STEP_STARTED" => stepStarted
  | "STEP_COMPLETE" => stepComplete
  | "EPISODE_REPORTING" => episodeReporting
  | "EPISODE_COMPLETED" => episodeCompleted
  | "EPISODE_FAILED" => episodeFailed
  | "EPISODE_CLOSED" => episodeClosed
  | "ATTEMPT_CLOSED" => attemptClosed
  | "WORKER_STATUS_SNAPSHOT" => workerStatusSnapshot
  | "WORKER_REGISTERED" => workerRegistered
  | "WORKER_HEARTBEAT" => workerHeartbeat
  | _ => other

/-- `ObservabilityEvent`, the fields that are projected. -/
structure ObservabilityEvent where
  eventId : String
  correlationId : String := ""
  trainingRunId : Option String := none
  episodeId : Option String := none
  attemptId : Option UInt32 := none
  workerId : Option String := none
  stepIndex : Option Int := none
  envType : Option String := none
  sourceId : String
  entityId : String := ""
  eventType : String
  seq : UInt64
  sourceTs : Int := 0
  payload : Option Json := none

namespace ObservabilityEvent

variable (ev : ObservabilityEvent)

def kind : EventType := EventType.ofString ev.eventType

def orphanRunId : String := "_orphan"

def resolveTrainingRunId : Option String → String
  | some s => if s.isEmpty then orphanRunId else s
  | none => orphanRunId

/-- The run of an event. -/
def runId : String := resolveTrainingRunId ev.trainingRunId

/-- The episode of an event: `episode_id`, or the entity. -/
def epId : String := ev.episodeId.getD ev.entityId

/-- The worker that registers or beats: `worker_id`, or the entity. -/
def wid : String := ev.workerId.getD ev.entityId

end ObservabilityEvent

/-! ### Views -/

/-- The status of an episode and of a node of the workflow. -/
inductive Status
  | pending | active | done | failed
  deriving DecidableEq

def Status.text : Status → String
  | pending => "PENDING"
  | active => "ACTIVE"
  | done => "DONE"
  | failed => "FAILED"

/-- The workflow stage that an episode has reached. -/
inductive EpisodeStage
  | submit | dispatch | execute | report | done | failed
  deriving DecidableEq

/-- event.rs, 120-144. -/
structure EpisodeView where
  episodeId : String
  correlationId : String
  attemptId : UInt32
  workerId : String
  envType : String
  stepIndex : Int
  status : Status
  stage : EpisodeStage
  eventSeq : Nat
  lastSourceTs : Int
  trajectoryId : Option String

/-- event.rs, 147-170. -/
structure WorkerView where
  workerId : String := ""
  activeEpisodes : List String := []
  lastHeartbeatTs : Int := 0
  status : String := ""
  statusReason : String := ""
  statusChangedTs : Int := 0
  currentLoad : UInt32 := 0
  capacity : UInt32 := 0
  endpoint : String := ""
  supportedEnvTypes : List String := []

/-- The nodes of the workflow graph are the stages of an episode. -/
inductive Stage
  | submit | dispatch | execute | report | done
  deriving DecidableEq

def Stage.id : Stage → String
  | submit => "submit"
  | dispatch => "dispatch"
  | execute => "execute"
  | report => "report"
  | done => "done"

/-- event.rs, 69-83. -/
structure WorkflowNode where
  nodeId : Stage
  status : Status := .pending
  correlationId : String := ""
  episodeId : String := ""
  sourceTs : Int := 0
  payloadSummary : Json := .null

/-- event.rs, 92-97. -/
structure WorkflowGraph where
  nodes : List WorkflowNode
  activeNodeId : Stage

inductive NodeKind
  | run | worker | episode | step
  deriving DecidableEq

/-- event.rs, 100-111. -/
structure TreeNode where
  nodeId : String
  parentId : String
  kind : NodeKind
  refId : String
  status : String
  childrenCount : Nat
  nodeMeta : Json

structure TreeGraph where
  rootId : String
  nodes : List TreeNode

/-- event.rs, 61-66. -/
structure EventCursor where
  lastEventId : String
  lastSourceId : String
  lastSeq : UInt64
  lastIngestTs : Int

inductive RunState
  | pending | running | stopping | closed
  deriving DecidableEq

inductive HeartbeatState
  | unknown | alive | closed
  deriving DecidableEq

structure ChainState where
  trainingRunId : String
  runState : RunState
  runStatus : String
  terminalReason : String
  lastHeartbeatTs : Int
  heartbeatState : HeartbeatState
  updatedAt : Int
  globalEventSeq : Nat
  plannedEpisodeTotal : UInt64
  plannedStepTotal : UInt64
  workflow : WorkflowGraph
  tree : TreeGraph
  episodes : Map String EpisodeView
  workers : Map String WorkerView
  cursor : EventCursor
  stageSeenEpisodes : Map String (List String)

def defaultWorkflow : WorkflowGraph where
  nodes := [Stage.submit, .dispatch, .execute, .report, .done].map fun nodeId => { nodeId }
  activeNodeId := .submit

def runNodeId (runId : String) : String := "run:" ++ runId

def workerNodeId (workerId : String) : String := "worker:" ++ workerId

def episodeNodeId (episodeId : String) : String := "episode:" ++ episodeId

def stepNodeId (episodeId : String) (step : Int) : String :=
  "step:" ++ episodeId ++ ":" ++ toString step

def ChainState.empty (now : Int) (trainingRunId : String) : ChainState where
  trainingRunId
  runState := .pending
  runStatus := "pending"
  terminalReason := ""
  lastHeartbeatTs := 0
  heartbeatState := .unknown
  updatedAt := now
  globalEventSeq := 0
  plannedEpisodeTotal := 0
  plannedStepTotal := 0
  workflow := defaultWorkflow
  tree :=
    { rootId := runNodeId trainingRunId
      nodes := [{ nodeId := runNodeId trainingRunId, parentId := "", kind := .run
                  refId := trainingRunId, status := "PENDING", childrenCount := 0
                  nodeMeta := .null }] }
  episodes := ∅
  workers := ∅
  cursor := { lastEventId := "", lastSourceId := "", lastSeq := 0, lastIngestTs := now }
  stageSeenEpisodes := ∅

end UEnv.Obs
