import UEnv.Obs.EpisodeStatus
import UEnv.Obs.Tree

/-!
# The lifecycle of a run

A run is kept twice, as a `RunLifecycle` that admits events and as a chain state that is drawn.
`Standing` is what the chain state shows of the lifecycle; seven events change it, and the end of
an episode changes the last stage.
-/

namespace UEnv.Obs

open Tables Records Runs

/-- What a chain state shows of the lifecycle of its run. -/
structure Standing where
  runState : RunState
  runStatus : String
  terminalReason : String
  rootStatus : String
  doneStatus : Status

namespace Standing

/-- A run without events. -/
def pending : Standing where
  runState := .pending
  runStatus := "pending"
  terminalReason := ""
  rootStatus := "PENDING"
  doneStatus := .pending

/-- The run has no final status yet. -/
def undecided (x : Standing) : Bool := ["", "pending", "running", "stopping"].contains x.runStatus

/-- What an event makes of a standing; `final` is the status with which it ends its episode. -/
def next (ev : ObservabilityEvent) (final : Status) (x : Standing) : Standing :=
  match ev.kind with
  | .runStarted =>
    { x with
      runState := .running, runStatus := "running", terminalReason := "", rootStatus := "ACTIVE" }
  | .runHeartbeat =>
    if x.runState = .closed then x
    else { x with runState := .running, runStatus := "running", rootStatus := "ACTIVE" }
  | .runStopped => { x with runState := .stopping, runStatus := "stopping", rootStatus := "ACTIVE" }
  | .runCompleted => ⟨.closed, "completed", ev.terminalReason "completed", "CLOSED", .done⟩
  | .runTerminated => ⟨.closed, "terminated", ev.terminalReason "terminated", "CLOSED", .failed⟩
  | .runFailed => ⟨.closed, "failed", ev.terminalReason "failed", "FAILED", .failed⟩
  | .runClosed =>
    if x.undecided then
      ⟨.closed, ev.terminalStatus "completed", ev.terminalReason (ev.terminalStatus "completed"),
        "CLOSED", .done⟩
    else { x with runState := .closed, rootStatus := "CLOSED", doneStatus := .done }
  | .episodeCompleted | .episodeFailed | .episodeClosed => { x with doneStatus := final }
  | _ => x

end Standing

/-- The status of the root of the tree. -/
def ChainState.rootStatus (state : ChainState) : Option String :=
  (lookup TreeNode.nodeId (runNodeId state.trainingRunId) state.tree.nodes).map (·.status)

/-- The status of the last stage of the workflow. -/
def ChainState.doneStatus (state : ChainState) : Option Status :=
  (lookup WorkflowNode.nodeId .done state.workflow.nodes).map (·.status)

/-- A chain state shows a standing; its first tree node is the one of the run. -/
structure ChainState.Shows (s : ChainState) (x : Standing) : Prop where
  runState : s.runState = x.runState
  runStatus : s.runStatus = x.runStatus
  terminalReason : s.terminalReason = x.terminalReason
  root : ∃ n rest, s.tree.nodes = n :: rest ∧ n.nodeId = runNodeId s.trainingRunId ∧
    n.kind = .run ∧ n.status = x.rootStatus
  done : s.doneStatus = some x.doneStatus

namespace ChainState.Shows

variable {s : ChainState} {x : Standing} {ev : ObservabilityEvent}

theorem rootStatus (shows : s.Shows x) : s.rootStatus = some x.rootStatus := by
  obtain ⟨n, rest, listed, isRoot, _, status⟩ := shows.root
  unfold ChainState.rootStatus
  rw [listed, lookup_cons, if_pos isRoot, Option.map_some, status]

/-! ### The tree below the root -/

section

variable (shows : s.Shows x)
include shows

theorem updateNode (nodeId : String) {f : TreeNode → TreeNode}
    (keeps : nodeId = runNodeId s.trainingRunId →
      ∀ n, (f n).nodeId = n.nodeId ∧ (f n).kind = n.kind ∧ (f n).status = n.status) :
    (s.updateNode nodeId f).Shows x := by
  obtain ⟨n, rest, listed, isRoot, kind, status⟩ := shows.root
  refine ⟨shows.runState, shows.runStatus, shows.terminalReason, ?_, shows.done⟩
  show ∃ m rest', update TreeNode.nodeId nodeId f s.tree.nodes = m :: rest' ∧ _
  rw [listed, update_cons]
  split
  · next here =>
    obtain ⟨sameId, sameKind, sameStatus⟩ := keeps (here.symm.trans isRoot) n
    exact ⟨f n, rest, rfl, sameId.trans isRoot, sameKind.trans kind, sameStatus.trans status⟩
  · exact ⟨n, _, rfl, isRoot, kind, status⟩

theorem setRunTreeStatus (status : String) :
    (s.setRunTreeStatus status).Shows { x with rootStatus := status } := by
  obtain ⟨n, rest, listed, isRoot, kind, _⟩ := shows.root
  refine ⟨shows.runState, shows.runStatus, shows.terminalReason, ?_, shows.done⟩
  show ∃ m rest', update TreeNode.nodeId (runNodeId s.trainingRunId) _ s.tree.nodes = m :: rest' ∧ _
  rw [listed, update_cons, if_pos isRoot]
  exact ⟨_, rest, rfl, isRoot, kind, rfl⟩

theorem pushNode (node : TreeNode) : (s.pushNode node).Shows x := by
  obtain ⟨n, rest, listed, isRoot, kind, status⟩ := shows.root
  have pushed : ChainState.Shows
      { s with tree := { s.tree with nodes := s.tree.nodes ++ [node] } } x := by
    refine ⟨shows.runState, shows.runStatus, shows.terminalReason, ?_, shows.done⟩
    exact ⟨n, rest ++ [node], by rw [listed]; rfl, isRoot, kind, status⟩
  exact pushed.updateNode _ fun _ _ => ⟨rfl, rfl, rfl⟩

theorem upsertTreeWorker (workerId status : String) :
    (s.upsertTreeWorker workerId status).Shows x := by
  unfold ChainState.upsertTreeWorker
  split
  · apply shows.updateNode
    intro same
    refine absurd same (ne_of_initial ?_)
    rw [initial_worker, initial_run]
    decide
  · exact shows.pushNode _

theorem upsertParent : (s.upsertParent ev).Shows x := by
  unfold ChainState.upsertParent
  split
  · split
    · exact shows
    · exact shows.upsertTreeWorker _ _
  · exact shows

theorem upsertTreeEpisode (episodeId status : String) :
    (s.upsertTreeEpisode episodeId ev status).Shows x := by
  unfold ChainState.upsertTreeEpisode
  dsimp only
  split
  · apply shows.upsertParent.updateNode
    intro same
    refine absurd same (ne_of_initial ?_)
    rw [initial_episode, initial_run]
    decide
  · exact shows.upsertParent.pushNode _

theorem upsertTreeStep (episodeId : String) (step : Int) :
    (s.upsertTreeStep episodeId step ev).Shows x := by
  have drawn : (s.upsertTreeEpisode episodeId ev "ACTIVE").Shows x := shows.upsertTreeEpisode _ _
  unfold ChainState.upsertTreeStep
  dsimp only
  split
  · apply drawn.updateNode
    intro same
    refine absurd same (ne_of_initial ?_)
    rw [initial_step, initial_run]
    decide
  · exact drawn.pushNode _

theorem closeTreeSteps (episodeId status : String) :
    (s.closeTreeStepsForEpisode episodeId status).Shows x := by
  obtain ⟨n, rest, listed, isRoot, kind, shown⟩ := shows.root
  refine ⟨shows.runState, shows.runStatus, shows.terminalReason, ?_, shows.done⟩
  show ∃ m rest', s.tree.nodes.map _ = m :: rest' ∧ _
  rw [listed, List.map_cons]
  refine ⟨_, _, rfl, ?_⟩
  rw [if_neg (fun all => by rw [kind] at all; cases all.2.1)]
  exact ⟨isRoot, kind, shown⟩

theorem dropWorkers : s.dropWorkers.Shows x := by
  obtain ⟨n, rest, listed, isRoot, kind, shown⟩ := shows.root
  refine ⟨shows.runState, shows.runStatus, shows.terminalReason, ?_, shows.done⟩
  refine ⟨n, rest.filter fun n => n.kind != .worker, ?_, isRoot, kind, shown⟩
  show s.tree.nodes.filter _ = _
  rw [listed, List.filter_cons_of_pos]
  rw [kind]
  rfl

end

/-! ### The workflow -/

theorem updateWorkflow (shows : s.Shows x) (nodeId : Stage) {f : WorkflowNode → WorkflowNode}
    (keeps : ∀ n, (f n).nodeId = n.nodeId)
    (still : nodeId = .done → ∀ n, (f n).status = n.status) :
    (s.updateWorkflow nodeId f).Shows x := by
  refine ⟨shows.runState, shows.runStatus, shows.terminalReason, shows.root, ?_⟩
  show (lookup WorkflowNode.nodeId .done (update _ nodeId f s.workflow.nodes)).map _ = _
  rw [lookup_update keeps]
  split
  · next here =>
    rw [Option.map_map, ← shows.done]
    congr 1
    funext n
    exact still here.symm n
  · exact shows.done

theorem setDone (shows : s.Shows x) (status : Status) :
    (s.setWorkflowStageStatus .done status).Shows { x with doneStatus := status } := by
  refine ⟨shows.runState, shows.runStatus, shows.terminalReason, shows.root, ?_⟩
  show (lookup WorkflowNode.nodeId .done (update _ Stage.done _ s.workflow.nodes)).map _ = _
  obtain ⟨n, found, _⟩ := Option.map_eq_some_iff.mp shows.done
  rw [lookup_update, if_pos rfl, found]
  · rfl
  · exact fun _ => rfl

/-- The rest of `set_workflow_active`, after the status is set. -/
theorem activate (nodeId : Stage) (status : Status)
    (shows : (s.setWorkflowStageStatus nodeId status).Shows x) :
    (s.setWorkflowActive nodeId status ev).Shows x := by
  have named := shows.updateWorkflow nodeId (f := fun n => { n with
    correlationId := ev.correlationId, episodeId := ev.episodeId.getD n.episodeId
    sourceTs := ev.sourceTs }) (fun _ => rfl) fun _ _ => rfl
  unfold ChainState.setWorkflowActive
  split
  · exact ⟨named.runState, named.runStatus, named.terminalReason, named.root, named.done⟩
  · exact named

theorem setWorkflowActive (shows : s.Shows x) (nodeId : Stage) (status : Status)
    (other : nodeId ≠ .done) : (s.setWorkflowActive nodeId status ev).Shows x := by
  apply activate
  exact shows.updateWorkflow _ (fun _ => rfl) fun same => absurd same other

theorem setDoneActive (shows : s.Shows x) (status : Status) :
    (s.setWorkflowActive .done status ev).Shows { x with doneStatus := status } :=
  activate _ _ (shows.setDone status)

theorem bumpWorkflowStageCount (shows : s.Shows x) (stage : Stage) (epId : String) :
    (s.bumpWorkflowStageCount stage epId).Shows x := by
  unfold ChainState.bumpWorkflowStageCount
  dsimp only
  split
  · exact shows
  · apply updateWorkflow
    · exact ⟨shows.runState, shows.runStatus, shows.terminalReason, shows.root, shows.done⟩
    · exact fun _ => rfl
    · exact fun _ _ => rfl

/-! ### The arms -/

section

variable (shows : s.Shows x)
include shows

theorem projectRunStarted : (s.projectRunStarted ev).Shows
      { x with runState := .running, runStatus := "running", terminalReason := ""
               rootStatus := "ACTIVE" } := by
  have planned : (s.applyRunPlan ev).Shows x := by
    unfold ChainState.applyRunPlan
    split
    · exact shows
    · exact ⟨shows.runState, shows.runStatus, shows.terminalReason, shows.root, shows.done⟩
  have started : ChainState.Shows { s.applyRunPlan ev with
      runStatus := "running", terminalReason := "", heartbeatState := .alive
      lastHeartbeatTs := ev.sourceTs, runState := .running }
      { x with runState := .running, runStatus := "running", terminalReason := "" } :=
    ⟨rfl, rfl, rfl, planned.root, planned.done⟩
  exact (started.setRunTreeStatus "ACTIVE").setWorkflowActive .submit .active (by decide)

theorem projectRunHeartbeat : (s.projectRunHeartbeat ev).Shows (if x.runState = .closed then x
      else { x with runState := .running, runStatus := "running", rootStatus := "ACTIVE" }) := by
  unfold ChainState.projectRunHeartbeat
  rw [shows.runState]
  split
  · exact shows
  · have beating : ChainState.Shows { s with
        runState := .running, runStatus := "running", heartbeatState := .alive
        lastHeartbeatTs := ev.sourceTs }
        { x with runState := .running, runStatus := "running" } :=
      ⟨rfl, rfl, shows.terminalReason, shows.root, shows.done⟩
    exact beating.setRunTreeStatus "ACTIVE"

theorem projectRunStopped : s.projectRunStopped.Shows
      { x with runState := .stopping, runStatus := "stopping", rootStatus := "ACTIVE" } := by
  have stopping : ChainState.Shows { s with
      runState := .stopping, runStatus := "stopping", heartbeatState := .alive }
      { x with runState := .stopping, runStatus := "stopping" } :=
    ⟨rfl, rfl, shows.terminalReason, shows.root, shows.done⟩
  exact stopping.setRunTreeStatus "ACTIVE"

theorem projectRunEnded (runStatus treeStatus : String) (doneStatus : Status) :
    (s.projectRunEnded ev runStatus treeStatus doneStatus).Shows
      ⟨.closed, runStatus, ev.terminalReason runStatus, treeStatus, doneStatus⟩ := by
  have ended : ChainState.Shows { s with
      runState := .closed, runStatus, terminalReason := ev.terminalReason runStatus
      heartbeatState := .closed }
      { x with runState := .closed, runStatus, terminalReason := ev.terminalReason runStatus } :=
    ⟨rfl, rfl, rfl, shows.root, shows.done⟩
  exact (ended.setRunTreeStatus treeStatus).setDone doneStatus

theorem projectRunClosed : (s.projectRunClosed ev).Shows (if x.undecided then
      ⟨.closed, ev.terminalStatus "completed", ev.terminalReason (ev.terminalStatus "completed"),
        "CLOSED", .done⟩
      else { x with runState := .closed, rootStatus := "CLOSED", doneStatus := .done }) := by
  have undecided : s.undecided = x.undecided := by
    unfold ChainState.undecided Standing.undecided
    rw [shows.runStatus]
  have closed : ∀ (t : ChainState) (y : Standing), t.Shows y →
      (({ t with runState := .closed, heartbeatState := .closed }.setRunTreeStatus
        "CLOSED").setWorkflowStageStatus .done .done).Shows
        { y with runState := .closed, rootStatus := "CLOSED", doneStatus := .done } := by
    intro t y shown
    have shut : ChainState.Shows { t with runState := .closed, heartbeatState := .closed }
        { y with runState := .closed } :=
      ⟨rfl, shown.runStatus, shown.terminalReason, shown.root, shown.done⟩
    exact (shut.setRunTreeStatus "CLOSED").setDone .done
  unfold ChainState.projectRunClosed
  dsimp only
  rw [undecided]
  split
  · have decided : ChainState.Shows { s with
        runStatus := ev.terminalStatus "completed"
        terminalReason := ev.terminalReason (ev.terminalStatus "completed") }
        { x with runStatus := ev.terminalStatus "completed"
                 terminalReason := ev.terminalReason (ev.terminalStatus "completed") } :=
      ⟨shows.runState, rfl, rfl, shows.root, shows.done⟩
    exact closed _ _ decided
  · exact closed _ _ shows

theorem modifyEpisode (epId : String) (f : EpisodeView → EpisodeView) :
    (s.modifyEpisode epId f).Shows x :=
  ⟨shows.runState, shows.runStatus, shows.terminalReason, shows.root, shows.done⟩

theorem modifyWorker (workerId : String) (fresh : WorkerView) (f : WorkerView → WorkerView) :
    (s.modifyWorker workerId fresh f).Shows x :=
  ⟨shows.runState, shows.runStatus, shows.terminalReason, shows.root, shows.done⟩

theorem enroll : (s.enroll ev).Shows x := by
  unfold ChainState.enroll
  split
  · exact shows
  · exact (shows.modifyWorker _ _ _).upsertTreeWorker _ _

theorem discharge : (s.discharge ev).Shows x := by
  unfold ChainState.discharge
  split
  · exact shows
  · exact ⟨shows.runState, shows.runStatus, shows.terminalReason, shows.root, shows.done⟩

theorem projectWorkerStatusSnapshot : (s.projectWorkerStatusSnapshot ev).Shows x := by
  have observed : ∀ (observations : List WorkerStatusObservation) (t : ChainState), t.Shows x →
      (observations.foldl ChainState.observe t).Shows x := by
    intro observations
    induction observations with
    | nil => exact fun t shown => shown
    | cons o rest ih =>
      intro t shown
      exact ih _ ((shown.modifyWorker _ _ _).upsertTreeWorker _ _)
  apply observed
  split
  · exact shows.dropWorkers
  · exact shows

theorem projectEvent (ev : ObservabilityEvent) (eventSeq : Nat) : (s.projectEvent ev eventSeq).Shows
      (x.next ev (EpisodeView.finalStatus ev s.episodes[ev.epId]?)) := by
  unfold ChainState.projectEvent Standing.next
  cases ev.kind with
  | runStarted => exact shows.projectRunStarted
  | runHeartbeat => exact shows.projectRunHeartbeat
  | runStopped => exact shows.projectRunStopped
  | runCompleted | runTerminated | runFailed => exact shows.projectRunEnded _ _ _
  | runClosed => exact shows.projectRunClosed
  | episodeSubmitted =>
    apply upsertTreeEpisode
    apply bumpWorkflowStageCount
    refine setWorkflowActive (setWorkflowActive ?_ _ _ (by decide)) _ _ (by decide)
    exact ⟨shows.runState, shows.runStatus, shows.terminalReason, shows.root, shows.done⟩
  | episodeScheduling =>
    apply upsertTreeEpisode
    refine setWorkflowActive (setWorkflowActive ?_ _ _ (by decide)) _ _ (by decide)
    exact shows.modifyEpisode _ _
  | episodeDispatched | attemptStarted =>
    apply upsertTreeEpisode
    apply bumpWorkflowStageCount
    apply bumpWorkflowStageCount
    refine setWorkflowActive (setWorkflowActive ?_ _ _ (by decide)) _ _ (by decide)
    exact (shows.modifyEpisode _ _).enroll
  | stepStarted | stepComplete =>
    apply upsertTreeStep
    apply bumpWorkflowStageCount
    exact (shows.modifyEpisode _ _).setWorkflowActive _ _ (by decide)
  | episodeReporting =>
    apply upsertTreeEpisode
    refine setWorkflowActive (setWorkflowActive ?_ _ _ (by decide)) _ _ (by decide)
    exact shows.modifyEpisode _ _
  | episodeCompleted | episodeFailed | episodeClosed =>
    apply closeTreeSteps
    apply upsertTreeEpisode
    apply bumpWorkflowStageCount
    apply bumpWorkflowStageCount
    apply setDoneActive
    refine setWorkflowActive (setWorkflowActive ?_ _ _ (by decide)) _ _ (by decide)
    exact (shows.modifyEpisode _ _).discharge
  | attemptClosed => exact shows.modifyEpisode _ _
  | workerStatusSnapshot => exact shows.projectWorkerStatusSnapshot
  | workerRegistered => exact (shows.modifyWorker _ _ _).upsertTreeWorker _ _
  | workerHeartbeat =>
    apply upsertTreeWorker
    exact ⟨shows.runState, shows.runStatus, shows.terminalReason, shows.root, shows.done⟩
  | other => exact shows

end

theorem empty (now : Int) (runId : String) : (ChainState.empty now runId).Shows .pending :=
  ⟨rfl, rfl, rfl, ⟨_, [], rfl, rfl, rfl, rfl⟩, rfl⟩

end ChainState.Shows

/-! ### The two records of a run -/

/-- The records of a run agree, and a run that ended for good shows it. -/
structure Fits (life : RunLifecycle) (x : Standing) : Prop where
  runState : life.runState = x.runState
  closed : x.runState = .closed → life.closed = true
  terminal : life.terminal = true →
    life.closed = true ∧ x.runState = .closed ∧ x.undecided = false
  failed : x.rootStatus = "FAILED" → life.terminal = true

namespace Fits

variable {life : RunLifecycle} {x : Standing} {ev : ObservabilityEvent}

theorem pending : Fits {} .pending := by
  refine ⟨rfl, ?_, ?_, ?_⟩ <;> decide

theorem going (fits : Fits life x) (going : life.closed = false) :
    x.runState ≠ .closed ∧ life.terminal = false := by
  constructor
  · intro closed
    cases going.symm.trans (fits.closed closed)
  · cases terminal : life.terminal with
    | false => rfl
    | true => cases going.symm.trans (fits.terminal terminal).1

theorem closed_of_heartbeat (admitted : life.refuses .runHeartbeat = false) :
    life.closed = false := by
  cases closed : life.closed with
  | false => rfl
  | true =>
    unfold RunLifecycle.refuses at admitted
    rw [closed] at admitted
    cases terminal : life.terminal <;> simp [terminal] at admitted

theorem terminal_of_stopped (fits : Fits life x) (admitted : life.refuses .runStopped = false) :
    life.terminal = false := by
  cases terminal : life.terminal with
  | false => rfl
  | true =>
    unfold RunLifecycle.refuses at admitted
    rw [(fits.terminal terminal).1, terminal] at admitted
    cases admitted

theorem next (fits : Fits life x) (ev : ObservabilityEvent)
    (admitted : life.refuses ev.kind = false) (final : Status) :
    Fits (life.projectEvent ev.kind) (x.next ev final) := by
  unfold Standing.next RunLifecycle.projectEvent
  cases kind : ev.kind with
  | runStarted =>
    refine ⟨rfl, fun closed => ?_, fun terminal => ?_, fun failed => ?_⟩
    · cases closed
    · cases terminal
    · exact absurd failed (by decide : "ACTIVE" ≠ "FAILED")
  | runHeartbeat =>
    rw [kind] at admitted
    have open_ := closed_of_heartbeat admitted
    obtain ⟨running, unended⟩ := fits.going open_
    dsimp only
    rw [if_neg running, open_, if_neg Bool.false_ne_true]
    refine ⟨rfl, fun closed => ?_, fun terminal => ?_, fun failed => ?_⟩
    · cases closed
    · cases unended.symm.trans terminal
    · exact absurd failed (by decide : "ACTIVE" ≠ "FAILED")
  | runStopped =>
    rw [kind] at admitted
    have unended := fits.terminal_of_stopped admitted
    refine ⟨rfl, fun closed => ?_, fun terminal => ?_, fun failed => ?_⟩
    · cases closed
    · cases unended.symm.trans terminal
    · exact absurd failed (by decide : "ACTIVE" ≠ "FAILED")
  | runCompleted | runTerminated =>
    refine ⟨rfl, fun _ => rfl, fun _ => ⟨rfl, rfl, rfl⟩, fun failed => ?_⟩
    exact absurd failed (by decide : "CLOSED" ≠ "FAILED")
  | runFailed => exact ⟨rfl, fun _ => rfl, fun _ => ⟨rfl, rfl, rfl⟩, fun _ => rfl⟩
  | runClosed =>
    dsimp only
    split
    · next undecided =>
      refine ⟨rfl, fun _ => rfl, fun terminal => ?_, fun failed => ?_⟩
      · cases undecided.symm.trans (fits.terminal terminal).2.2
      · exact absurd failed (by decide : "CLOSED" ≠ "FAILED")
    · refine ⟨rfl, fun _ => rfl, fun terminal => ?_, fun failed => ?_⟩
      · exact ⟨rfl, rfl, (fits.terminal terminal).2.2⟩
      · exact absurd failed (by decide : "CLOSED" ≠ "FAILED")
  | _ => exact ⟨fits.runState, fits.closed, fits.terminal, fits.failed⟩

end Fits

/-- Every run shows a standing that its lifecycle fits. -/
def Followed (s : MergeEngine) : Prop :=
  ∀ (runId : String) (ingestTs : Int), ∃ x : Standing,
    ((s.runs[runId]?).getD (.empty ingestTs runId)).Shows x ∧ Fits (s.lifecycle runId) x

theorem shows_apply {s : MergeEngine} {ev : ObservabilityEvent} (admits : s.Admits ev)
    (ingestTs : Int) {x : Standing}
    (shows : ((s.runs[ev.runId]?).getD (.empty ingestTs ev.runId)).Shows x) :
    ∃ state, (s.apply ev ingestTs).1.runs[ev.runId]? = some state ∧
      state.Shows (x.next ev (EpisodeView.finalStatus ev (s.view ev.runId ev.epId))) := by
  rw [MergeEngine.runs_apply, if_pos ⟨admits, rfl⟩]
  refine ⟨_, rfl, ?_⟩
  rw [← MergeEngine.view_getD ingestTs ev.runId ev.epId]
  have counted : (MergeEngine.counted ev ((s.runs[ev.runId]?).getD (.empty ingestTs ev.runId))
      ingestTs).Shows x :=
    ⟨shows.runState, shows.runStatus, shows.terminalReason, shows.root, shows.done⟩
  exact counted.projectEvent ev _

theorem Followed.apply {s : MergeEngine} (followed : Followed s) (ev : ObservabilityEvent)
    (ingestTs : Int) : Followed (s.apply ev ingestTs).1 := by
  intro runId now
  rw [MergeEngine.lifecycle_apply]
  by_cases here : s.Admits ev ∧ ev.runId = runId
  · obtain ⟨admits, rfl⟩ := here
    obtain ⟨x, shows, fits⟩ := followed ev.runId ingestTs
    obtain ⟨state, found, shown⟩ := shows_apply admits ingestTs shows
    rw [found, if_pos ⟨admits, rfl⟩]
    exact ⟨_, shown, fits.next ev admits.1 _⟩
  · rw [MergeEngine.runs_apply, if_neg here, if_neg here]
    exact followed runId now

theorem followed_of_reachable {s : MergeEngine} (reached : Reachable merges s) : Followed s := by
  apply ReachableWhen.invariant (motive := Followed) ?_ ?_ reached
  · rintro s rfl runId now
    refine ⟨.pending, ?_, ?_⟩
    · rw [Std.ExtTreeMap.getElem?_empty]
      exact ChainState.Shows.empty now runId
    · unfold MergeEngine.lifecycle
      rw [Std.ExtTreeMap.getElem?_empty]
      exact Fits.pending
  · intro s label t _ followed _ taken
    cases taken
    exact followed.apply label.1 label.2

/-! ### What lasts -/

/-- No admitted event of the run lifts anything along a schedule; an event comes with the status
that it gives to the episode that it ends. -/
def Without (lifts : ObservabilityEvent → Status → Prop) (runId : String) :
    MergeEngine → List (ObservabilityEvent × Int) → Prop :=
  merges.Along fun s label => s.Admits label.1 → label.1.runId = runId →
    ¬ lifts label.1 (EpisodeView.finalStatus label.1 (s.view runId label.1.epId))

/-- What every admitted event keeps that lifts nothing lasts along a schedule without any. -/
theorem lasts (holds : RunLifecycle → Standing → Prop) {lifts : ObservabilityEvent → Status → Prop}
    (keeps : ∀ life x ev (final : Status), final.Final → Fits life x → holds life x →
      life.refuses ev.kind = false → ¬ lifts ev final →
      holds (life.projectEvent ev.kind) (x.next ev final))
    {s t : MergeEngine} {runId : String} {events : List (ObservabilityEvent × Int)}
    {state : ChainState} {x : Standing} (found : s.runs[runId]? = some state)
    (shows : state.Shows x) (fits : Fits (s.lifecycle runId) x) (held : holds (s.lifecycle runId) x)
    (without : Without lifts runId s events) (ran : merges.exec s events = some t) :
    ∃ state' ∈ t.runs[runId]?, ∃ x', state'.Shows x' ∧ holds (t.lifecycle runId) x' := by
  induction events generalizing s state x with
  | nil =>
    cases ran
    exact ⟨state, found, x, shows, held⟩
  | cons label rest ih =>
    obtain ⟨middle, taken, ran⟩ := Option.bind_eq_some_iff.mp ran
    obtain ⟨quiet, without⟩ := without
    replace without := without middle taken
    cases taken
    have lifecycle : (s.apply label.1 label.2).1.lifecycle runId = _ :=
      MergeEngine.lifecycle_apply label.2 runId
    by_cases here : s.Admits label.1 ∧ label.1.runId = runId
    · obtain ⟨admits, rfl⟩ := here
      rw [if_pos ⟨admits, rfl⟩] at lifecycle
      have shown := shows_apply admits label.2 (x := x) (by rw [found]; exact shows)
      obtain ⟨state', found', shows'⟩ := shown
      apply ih found' shows' ?_ ?_ without ran
      · rw [lifecycle]
        exact fits.next label.1 admits.1 _
      · rw [lifecycle]
        have final := EpisodeView.finalStatus_final label.1 (s.view label.1.runId label.1.epId)
        exact keeps _ _ _ _ final fits held admits.1 (quiet admits rfl)
    · rw [if_neg here] at lifecycle
      apply ih ?_ shows ?_ ?_ without ran
      · rw [MergeEngine.runs_apply, if_neg here]
        exact found
      · rw [lifecycle]
        exact fits
      · rw [lifecycle]
        exact held

/-- The events that end their run for good. -/
def EventType.endsRun : EventType → Bool
  | runCompleted | runTerminated | runFailed => true
  | _ => false

/-- The lifecycle of a run is monotone, up to the events that reopen a closed run, that draw its
root anew, and that finish its last stage anew. -/
structure LifecycleMonotone (reopens : RunLifecycle → ChainState → ObservabilityEvent → Prop)
    (redraws : ObservabilityEvent → Prop) (finishes : ObservabilityEvent → Status → Prop) :
    Prop where
  /-- An event that closes its run closes it. -/
  closes : ∀ s, Reachable merges s → ∀ ev ingestTs, s.Admits ev →
    ev.kind.endsRun = true ∨ ev.kind = .runClosed →
    ∃ state ∈ (s.apply ev ingestTs).1.runs[ev.runId]?, state.runState = .closed
  /-- A closed run keeps how it was closed until it is reopened. -/
  closed : ∀ s, Reachable merges s → ∀ (runId : String), ∀ state ∈ s.runs[runId]?,
    state.runState = .closed → ∀ events t, merges.exec s events = some t →
    Without (fun ev _ => reopens (s.lifecycle runId) state ev) runId s events →
    ∃ state' ∈ t.runs[runId]?, state'.runState = .closed ∧ state'.runStatus = state.runStatus ∧
      state'.terminalReason = state.terminalReason
  /-- A failed root stays failed until it is drawn anew. -/
  root : ∀ s, Reachable merges s → ∀ (runId : String), ∀ state ∈ s.runs[runId]?,
    state.rootStatus = some "FAILED" → ∀ events t, merges.exec s events = some t →
    Without (fun ev _ => redraws ev) runId s events →
    ∃ state' ∈ t.runs[runId]?, state'.rootStatus = some "FAILED"
  /-- A failed last stage stays failed until it is finished anew. -/
  done : ∀ s, Reachable merges s → ∀ (runId : String), ∀ state ∈ s.runs[runId]?,
    state.doneStatus = some .failed → ∀ events t, merges.exec s events = some t →
    Without finishes runId s events →
    ∃ state' ∈ t.runs[runId]?, state'.doneStatus = some .failed
  /-- The two records of a run agree. -/
  agree : ∀ s, Reachable merges s → ∀ (runId : String), ∀ state ∈ s.runs[runId]?,
    (s.lifecycle runId).runState = state.runState

/-- A closed run that has not ended for good is reopened by a start or a stop, and while it has no
final status a further `RUN_CLOSED` gives it one. -/
def Reopens (life : RunLifecycle) (state : ChainState) (ev : ObservabilityEvent) : Prop :=
  life.terminal = false ∧ (ev.kind = .runStarted ∨ ev.kind = .runStopped ∨
    ev.kind = .runClosed ∧ state.undecided = true)

/-- The last stage is finished anew by a run that completes or is closed, and by an episode that
ends well. -/
def Finishes (ev : ObservabilityEvent) (final : Status) : Prop :=
  ev.kind = .runCompleted ∨ ev.kind = .runClosed ∨ ev.kind.ends = true ∧ final = .done

section keeps

variable {life : RunLifecycle} {x : Standing} {ev : ObservabilityEvent} {final : Status}

theorem Fits.admitted_closed (fits : Fits life x) (closed : x.runState = .closed)
    (admitted : life.refuses ev.kind = false) :
    ev.kind = .runClosed ∨
      life.terminal = false ∧ (ev.kind = .runStarted ∨ ev.kind = .runStopped) := by
  unfold RunLifecycle.refuses at admitted
  rw [fits.closed closed, Bool.true_and] at admitted
  cases terminal : life.terminal with
  | true =>
    rw [terminal, if_pos rfl] at admitted
    exact Or.inl (by simpa using admitted)
  | false =>
    rw [terminal, if_neg Bool.false_ne_true] at admitted
    have kinds : (ev.kind = .runStarted ∨ ev.kind = .runStopped) ∨ ev.kind = .runClosed := by
      revert admitted
      cases ev.kind <;> simp
    rcases kinds with kinds | kind
    · exact Or.inr ⟨rfl, kinds⟩
    · exact Or.inl kind

variable (final) in
theorem Fits.keeps_closed (fits : Fits life x) (closed : x.runState = .closed)
    (admitted : life.refuses ev.kind = false)
    (quiet : ¬ (life.terminal = false ∧ (ev.kind = .runStarted ∨ ev.kind = .runStopped ∨
      ev.kind = .runClosed ∧ x.undecided = true))) :
    (x.next ev final).runState = .closed ∧ (x.next ev final).runStatus = x.runStatus ∧
      (x.next ev final).terminalReason = x.terminalReason ∧
      (life.projectEvent ev.kind).terminal = life.terminal := by
  rcases fits.admitted_closed closed admitted with kind | ⟨unended, kinds⟩
  · have decided : x.undecided = false := by
      cases terminal : life.terminal with
      | true => exact (fits.terminal terminal).2.2
      | false =>
        cases undecided : x.undecided with
        | false => rfl
        | true => exact absurd ⟨terminal, Or.inr (Or.inr ⟨kind, undecided⟩)⟩ quiet
    unfold Standing.next RunLifecycle.projectEvent
    rw [kind]
    dsimp only
    rw [decided, if_neg Bool.false_ne_true]
    exact ⟨rfl, rfl, rfl, rfl⟩
  · rcases kinds with kind | kind
    · exact absurd ⟨unended, Or.inl kind⟩ quiet
    · exact absurd ⟨unended, Or.inr (Or.inl kind)⟩ quiet

/-- A failed root is the one of a run that ended for good, and only `RUN_CLOSED` draws it anew. -/
theorem Fits.keeps_root (fits : Fits life x) (failed : x.rootStatus = "FAILED")
    (admitted : life.refuses ev.kind = false) (quiet : ev.kind ≠ .runClosed) :
    (x.next ev final).rootStatus = "FAILED" := by
  have terminal := fits.failed failed
  rcases fits.admitted_closed (fits.terminal terminal).2.1 admitted with kind | ⟨unended, _⟩
  · exact absurd kind quiet
  · cases terminal.symm.trans unended

theorem keeps_done (failed : x.doneStatus = .failed) (quiet : ¬ Finishes ev final)
    (ended : final.Final) : (x.next ev final).doneStatus = .failed := by
  unfold Standing.next
  cases kind : ev.kind with
  | runCompleted => exact absurd (Or.inl kind) quiet
  | runClosed => exact absurd (Or.inr (Or.inl kind)) quiet
  | runTerminated | runFailed => rfl
  | runHeartbeat =>
    dsimp only
    split
    · exact failed
    · exact failed
  | episodeCompleted | episodeFailed | episodeClosed =>
    have ends : ev.kind.ends = true := by
      rw [kind]
      rfl
    rcases ended with same | same
    · exact absurd (Or.inr (Or.inr ⟨ends, same⟩)) quiet
    · exact same
  | _ => exact failed

end keeps

theorem shown {s : MergeEngine} (reached : Reachable merges s) {runId : String}
    {state : ChainState} (found : s.runs[runId]? = some state) :
    ∃ x : Standing, state.Shows x ∧ Fits (s.lifecycle runId) x := by
  obtain ⟨x, shows, fits⟩ := followed_of_reachable reached runId 0
  rw [found] at shows
  exact ⟨x, shows, fits⟩

theorem closes_of_admits {s : MergeEngine} (reached : Reachable merges s)
    {ev : ObservabilityEvent} (ingestTs : Int) (admits : s.Admits ev)
    (closing : ev.kind.endsRun = true ∨ ev.kind = .runClosed) :
    ∃ state ∈ (s.apply ev ingestTs).1.runs[ev.runId]?, state.runState = .closed := by
  obtain ⟨x, shows, _⟩ := followed_of_reachable reached ev.runId ingestTs
  obtain ⟨state, found, shows⟩ := shows_apply admits ingestTs shows
  refine ⟨state, found, shows.runState.trans ?_⟩
  unfold Standing.next
  cases kind : ev.kind with
  | runCompleted | runTerminated | runFailed => rfl
  | runClosed =>
    dsimp only
    split <;> rfl
  | _ => simp [kind, EventType.endsRun] at closing

/-- The lifecycle of a run is monotone up to what the admission of a closed run lets in, and a run
that ends with one of the final events has ended for good. -/
theorem lifecycle_monotone : LifecycleMonotone Reopens (fun ev => ev.kind = .runClosed) Finishes ∧
      ∀ s, Reachable merges s → ∀ ev ingestTs, s.Admits ev → ev.kind.endsRun = true →
        ((s.apply ev ingestTs).1.lifecycle ev.runId).terminal = true := by
  refine ⟨⟨?_, ?_, ?_, ?_, ?_⟩, ?_⟩
  · intro s reached ev ingestTs admits closing
    exact closes_of_admits reached ingestTs admits closing
  · intro s reached runId state found closed events t ran without
    obtain ⟨x, shows, fits⟩ := shown reached found
    have same : state.undecided = x.undecided := by
      unfold ChainState.undecided Standing.undecided
      rw [shows.runStatus]
    obtain ⟨state', found', x', shows', held, status, reason, _⟩ := lasts
      (fun life y => y.runState = .closed ∧ y.runStatus = x.runStatus ∧
        y.terminalReason = x.terminalReason ∧ life.terminal = (s.lifecycle runId).terminal)
      (by
        rintro life y ev final _ fits ⟨closed, status, reason, terminal⟩ admitted quiet
        have undecided : y.undecided = state.undecided := by
          unfold Standing.undecided ChainState.undecided
          rw [status, ← shows.runStatus]
        obtain ⟨closed', status', reason', terminal'⟩ := fits.keeps_closed final closed admitted (by
            rw [terminal, undecided]
            exact quiet)
        exact ⟨closed', status'.trans status, reason'.trans reason, terminal'.trans terminal⟩)
      found shows fits ⟨shows.runState.symm.trans closed, rfl, rfl, rfl⟩ without ran
    exact ⟨state', found', shows'.runState.trans held,
      shows'.runStatus.trans (status.trans shows.runStatus.symm),
      shows'.terminalReason.trans (reason.trans shows.terminalReason.symm)⟩
  · intro s reached runId state found failed events t ran without
    obtain ⟨x, shows, fits⟩ := shown reached found
    have failed' := Option.some.inj (shows.rootStatus.symm.trans failed)
    obtain ⟨state', found', x', shows', held⟩ := lasts (fun _ y => y.rootStatus = "FAILED")
      (fun _ _ _ _ _ fits failed admitted quiet => fits.keeps_root failed admitted quiet)
      found shows fits failed' without ran
    exact ⟨state', found', shows'.rootStatus.trans (congrArg some held)⟩
  · intro s reached runId state found failed events t ran without
    obtain ⟨x, shows, fits⟩ := shown reached found
    have failed' := Option.some.inj (shows.done.symm.trans failed)
    obtain ⟨state', found', x', shows', held⟩ := lasts (fun _ y => y.doneStatus = .failed)
      (fun _ _ _ _ ended _ failed _ quiet => keeps_done failed quiet ended)
      found shows fits failed' without ran
    exact ⟨state', found', shows'.done.trans (congrArg some held)⟩
  · intro s reached runId state found
    obtain ⟨x, shows, fits⟩ := shown reached found
    exact fits.runState.trans shows.runState.symm
  · intro s reached ev ingestTs admits ends
    rw [MergeEngine.lifecycle_apply, if_pos ⟨admits, rfl⟩]
    unfold RunLifecycle.projectEvent
    cases kind : ev.kind with
    | runCompleted | runTerminated | runFailed => rfl
    | _ => simp [kind, EventType.endsRun] at ends

/-- A run that is started and closed. -/
def closedRun : List (ObservabilityEvent × Int) :=
  [({ eventId := "a1", sourceId := "server:1", eventType := "RUN_STARTED", seq := 1 }, 10),
    ({ eventId := "a2", sourceId := "server:1", eventType := "RUN_CLOSED", seq := 2 }, 11)]

def lateStop : ObservabilityEvent :=
  { eventId := "a3", sourceId := "server:1", eventType := "RUN_STOPPED", seq := 3 }

/-- A stop takes a closed run back to stopping. -/
theorem closed_run_stopping :
    ¬ LifecycleMonotone (fun _ _ ev => ev.kind = .runStarted) (fun ev => ev.kind = .runStarted)
      (fun ev _ => ev.kind = .runStarted) := by
  intro monotone
  have ran : (merges.exec {} closedRun).any (fun s => (s.runs["_orphan"]?).any (fun state =>
      decide (state.runState = .closed)) &&
      ((s.apply lateStop 12).1.runs["_orphan"]?).all fun state =>
        decide (state.runState ≠ .closed)) = true := by
    decide +kernel
  obtain ⟨s, ran, facts⟩ := (Option.any_eq_true _ _).mp ran
  obtain ⟨before, after⟩ := Bool.and_eq_true_iff.mp facts
  obtain ⟨state, found, closed⟩ := (Option.any_eq_true _ _).mp before
  obtain ⟨state', found', closed', _⟩ := monotone.closed s (Reachable.of_exec rfl closedRun ran)
    "_orphan" state found (of_decide_eq_true closed) [(lateStop, 12)] _ rfl
    ⟨fun _ _ => (by decide : lateStop.kind ≠ .runStarted), fun _ _ => trivial⟩
  have open_ := (Option.all_eq_true _ _).mp after state' found'
  exact of_decide_eq_true open_ closed'

end UEnv.Obs
