import UEnv.Obs.Merge

/-!
# What an event leaves alone

The workflow graph and the object tree are drawings of the run: the steps that draw them change
neither the status of the run nor the views of its episodes and workers. So each arm of
`project_event` is an update of these, followed by drawing.
-/

namespace UEnv.Obs

open Tables Records

/-- The second state draws the first one anew. -/
structure Drawn (s t : ChainState) : Prop where
  trainingRunId : t.trainingRunId = s.trainingRunId
  runState : t.runState = s.runState
  runStatus : t.runStatus = s.runStatus
  terminalReason : t.terminalReason = s.terminalReason
  episodes : t.episodes = s.episodes
  workers : t.workers = s.workers

namespace Drawn

variable {s t u : ChainState} {ev : ObservabilityEvent}

theorem refl (s : ChainState) : Drawn s s := ⟨rfl, rfl, rfl, rfl, rfl, rfl⟩

theorem trans (first : Drawn s t) (second : Drawn t u) : Drawn s u where
  trainingRunId := second.trainingRunId.trans first.trainingRunId
  runState := second.runState.trans first.runState
  runStatus := second.runStatus.trans first.runStatus
  terminalReason := second.terminalReason.trans first.terminalReason
  episodes := second.episodes.trans first.episodes
  workers := second.workers.trans first.workers

section

variable (drawn : Drawn s t)
include drawn

theorem updateNode (nodeId : String) (f : TreeNode → TreeNode) :
    Drawn s (t.updateNode nodeId f) := drawn.trans ⟨rfl, rfl, rfl, rfl, rfl, rfl⟩

theorem setRunTreeStatus (status : String) :
    Drawn s (t.setRunTreeStatus status) := drawn.updateNode _ _

theorem setWorkflowActive (nodeId : Stage) (status : Status) :
    Drawn s (t.setWorkflowActive nodeId status ev) := by
  unfold ChainState.setWorkflowActive
  split
  · exact drawn.trans ⟨rfl, rfl, rfl, rfl, rfl, rfl⟩
  · exact drawn.trans ⟨rfl, rfl, rfl, rfl, rfl, rfl⟩

theorem bumpWorkflowStageCount (stage : Stage) (epId : String) :
    Drawn s (t.bumpWorkflowStageCount stage epId) := by
  unfold ChainState.bumpWorkflowStageCount
  simp only
  split
  · exact drawn
  · exact drawn.trans ⟨rfl, rfl, rfl, rfl, rfl, rfl⟩

theorem pushNode (node : TreeNode) : Drawn s (t.pushNode node) :=
  drawn.trans ⟨rfl, rfl, rfl, rfl, rfl, rfl⟩

theorem upsertTreeWorker (workerId status : String) :
    Drawn s (t.upsertTreeWorker workerId status) := by
  unfold ChainState.upsertTreeWorker
  split
  · exact drawn.updateNode _ _
  · exact drawn.pushNode _

theorem upsertParent : Drawn s (t.upsertParent ev) := by
  unfold ChainState.upsertParent
  split
  · split
    · exact drawn
    · exact drawn.upsertTreeWorker _ _
  · exact drawn

theorem upsertTreeEpisode (episodeId status : String) :
    Drawn s (t.upsertTreeEpisode episodeId ev status) := by
  unfold ChainState.upsertTreeEpisode
  simp only
  split
  · exact drawn.upsertParent.updateNode _ _
  · exact drawn.upsertParent.pushNode _

theorem upsertTreeStep (episodeId : String) (step : Int) :
    Drawn s (t.upsertTreeStep episodeId step ev) := by
  unfold ChainState.upsertTreeStep
  simp only
  split
  · exact (drawn.upsertTreeEpisode _ _).updateNode _ _
  · exact (drawn.upsertTreeEpisode _ _).pushNode _

theorem closeTreeSteps (episodeId status : String) :
    Drawn s (t.closeTreeStepsForEpisode episodeId status) :=
  drawn.trans ⟨rfl, rfl, rfl, rfl, rfl, rfl⟩

end

end Drawn

namespace ChainState

variable (state : ChainState) (ev : ObservabilityEvent) (eventSeq : Nat)

/-! ### What is under the drawing of each arm -/

theorem projectRunStarted_drawn :
    Drawn { state with runStatus := "running", terminalReason := "", runState := .running }
      (state.projectRunStarted ev) := by
  unfold projectRunStarted
  apply Drawn.setWorkflowActive
  apply Drawn.setRunTreeStatus
  unfold applyRunPlan
  cases ev.payload with
  | none => exact ⟨rfl, rfl, rfl, rfl, rfl, rfl⟩
  | some => exact ⟨rfl, rfl, rfl, rfl, rfl, rfl⟩

theorem projectEpisodeSubmitted_drawn :
    Drawn { state with episodes := state.episodes.insert ev.epId (.submitted ev eventSeq) }
      (state.projectEpisodeSubmitted ev eventSeq) := by
  apply Drawn.upsertTreeEpisode
  apply Drawn.bumpWorkflowStageCount
  exact ((Drawn.refl _).setWorkflowActive _ _).setWorkflowActive _ _

theorem projectEpisodeScheduling_drawn :
    Drawn (state.modifyEpisode ev.epId (.scheduling ev eventSeq))
      (state.projectEpisodeScheduling ev eventSeq) := by
  apply Drawn.upsertTreeEpisode
  exact ((Drawn.refl _).setWorkflowActive _ _).setWorkflowActive _ _

theorem projectEpisodeDispatched_drawn :
    Drawn ((state.modifyEpisode ev.epId (.dispatched ev eventSeq)).enroll ev)
      (state.projectEpisodeDispatched ev eventSeq) := by
  apply Drawn.upsertTreeEpisode
  apply Drawn.bumpWorkflowStageCount
  apply Drawn.bumpWorkflowStageCount
  exact ((Drawn.refl _).setWorkflowActive _ _).setWorkflowActive _ _

theorem projectStep_drawn :
    Drawn (state.modifyEpisode ev.epId (.stepping ev eventSeq))
      (state.projectStep ev eventSeq) := by
  apply Drawn.upsertTreeStep
  apply Drawn.bumpWorkflowStageCount
  exact (Drawn.refl _).setWorkflowActive _ _

theorem projectEpisodeReporting_drawn : Drawn (state.modifyEpisode ev.epId (.reporting ev eventSeq))
      (state.projectEpisodeReporting ev eventSeq) := by
  apply Drawn.upsertTreeEpisode
  exact ((Drawn.refl _).setWorkflowActive _ _).setWorkflowActive _ _

theorem projectEpisodeEnded_drawn : Drawn ((state.modifyEpisode ev.epId (·.ended ev eventSeq
      (EpisodeView.finalStatus ev state.episodes[ev.epId]?))).discharge ev)
      (state.projectEpisodeEnded ev eventSeq) := by
  apply Drawn.closeTreeSteps
  apply Drawn.upsertTreeEpisode
  apply Drawn.bumpWorkflowStageCount
  apply Drawn.bumpWorkflowStageCount
  exact (((Drawn.refl _).setWorkflowActive _ _).setWorkflowActive _ _).setWorkflowActive _ _

theorem projectWorkerRegistered_drawn :
    Drawn (state.modifyWorker ev.wid { workerId := ev.wid } fun w => { w with
      lastHeartbeatTs := ev.sourceTs, status := "IDLE", statusReason := "REGISTERED"
      statusChangedTs := ev.sourceTs }) (state.projectWorkerRegistered ev) :=
  (Drawn.refl _).upsertTreeWorker _ _

theorem projectWorkerHeartbeat_drawn : ∃ w : WorkerView,
      w.activeEpisodes = ((state.workers[ev.wid]?).getD { workerId := ev.wid }).activeEpisodes ∧
        Drawn { state with workers := state.workers.insert ev.wid w }
          (state.projectWorkerHeartbeat ev) := by
  refine ⟨_, ?_, (Drawn.refl _).upsertTreeWorker _ _⟩
  dsimp only
  split <;> rfl

/-! ### The episodes, the rosters and the run after an event -/

theorem enroll_episodes : (state.enroll ev).episodes = state.episodes := by
  unfold enroll
  split
  · rfl
  · exact ((Drawn.refl _).upsertTreeWorker _ _).episodes

theorem discharge_episodes : (state.discharge ev).episodes = state.episodes := by
  unfold discharge
  split <;> rfl

theorem projectWorkerStatusSnapshot_drawn :
    Drawn { state with workers := (state.projectWorkerStatusSnapshot ev).workers }
      (state.projectWorkerStatusSnapshot ev) := by
  have observed : ∀ (observations : List WorkerStatusObservation) (t : ChainState),
      Drawn { state with workers := t.workers } t →
      Drawn { state with workers := (observations.foldl observe t).workers }
        (observations.foldl observe t) := by
    intro observations
    induction observations with
    | nil => exact fun t drawn => drawn
    | cons o rest ih =>
      intro t drawn
      apply ih
      have drawing :=
        (Drawn.refl (t.modifyWorker o.workerId { workerId := o.workerId } fun w => { w with
        status := o.status, statusReason := o.statusReason, statusChangedTs := o.statusChangedTs
        lastHeartbeatTs := if 0 < o.lastHeartbeatTs then o.lastHeartbeatTs else w.lastHeartbeatTs
        currentLoad := o.currentLoad, capacity := o.capacity, endpoint := o.endpoint
        supportedEnvTypes := o.supportedEnvTypes
        activeEpisodes := if !o.activeEpisodes.isEmpty || o.currentLoad == 0 then o.activeEpisodes
          else w.activeEpisodes })).upsertTreeWorker o.workerId o.status
      exact ⟨drawing.trainingRunId.trans drawn.trainingRunId, drawing.runState.trans drawn.runState,
        drawing.runStatus.trans drawn.runStatus, drawing.terminalReason.trans drawn.terminalReason,
        drawing.episodes.trans drawn.episodes, rfl⟩
  apply observed
  split <;> exact ⟨rfl, rfl, rfl, rfl, rfl, rfl⟩

theorem projectEvent_episodes : (state.projectEvent ev eventSeq).episodes = match ev.kind with
      | .episodeSubmitted => state.episodes.insert ev.epId (.submitted ev eventSeq)
      | .episodeScheduling => state.episodes.modify ev.epId (.scheduling ev eventSeq)
      | .episodeDispatched | .attemptStarted =>
        state.episodes.modify ev.epId (.dispatched ev eventSeq)
      | .stepStarted | .stepComplete => state.episodes.modify ev.epId (.stepping ev eventSeq)
      | .episodeReporting => state.episodes.modify ev.epId (.reporting ev eventSeq)
      | .episodeCompleted | .episodeFailed | .episodeClosed =>
        state.episodes.modify ev.epId (·.ended ev eventSeq
      (EpisodeView.finalStatus ev state.episodes[ev.epId]?))
      | .attemptClosed => state.episodes.modify ev.epId (.attemptClosed ev eventSeq)
      | _ => state.episodes := by
  unfold projectEvent
  cases ev.kind with
  | runStarted => exact (state.projectRunStarted_drawn ev).episodes
  | runHeartbeat =>
    show (state.projectRunHeartbeat ev).episodes = state.episodes
    unfold projectRunHeartbeat
    split <;> rfl
  | runStopped | runCompleted | runTerminated | runFailed | attemptClosed | other => rfl
  | runClosed =>
    show (state.projectRunClosed ev).episodes = state.episodes
    unfold projectRunClosed
    dsimp only
    split <;> rfl
  | episodeSubmitted => exact (state.projectEpisodeSubmitted_drawn ev eventSeq).episodes
  | episodeScheduling => exact (state.projectEpisodeScheduling_drawn ev eventSeq).episodes
  | episodeDispatched | attemptStarted =>
    exact (state.projectEpisodeDispatched_drawn ev eventSeq).episodes.trans (enroll_episodes _ ev)
  | stepStarted | stepComplete => exact (state.projectStep_drawn ev eventSeq).episodes
  | episodeReporting => exact (state.projectEpisodeReporting_drawn ev eventSeq).episodes
  | episodeCompleted | episodeFailed | episodeClosed =>
    exact (state.projectEpisodeEnded_drawn ev eventSeq).episodes.trans (discharge_episodes _ ev)
  | workerStatusSnapshot => exact (state.projectWorkerStatusSnapshot_drawn ev).episodes
  | workerRegistered => exact (state.projectWorkerRegistered_drawn ev).episodes
  | workerHeartbeat =>
    obtain ⟨w, _, drawn⟩ := state.projectWorkerHeartbeat_drawn ev
    exact drawn.episodes

end ChainState

/-! ### Rosters -/

/-- The active episodes of a worker. -/
def ChainState.roster (state : ChainState) (workerId : String) : List String :=
  ((state.workers[workerId]?).map (·.activeEpisodes)).getD []

/-- The event puts its episode on the roster of a worker. -/
def EventType.dispatches : EventType → Bool
  | .episodeDispatched | .attemptStarted => true
  | _ => false

/-- The events that end their episode. -/
def EventType.ends : EventType → Bool
  | .episodeCompleted | .episodeFailed | .episodeClosed => true
  | _ => false

namespace ChainState

variable (state : ChainState) (ev : ObservabilityEvent) (eventSeq : Nat)

theorem roster_congr {s t : ChainState} (same : t.workers = s.workers) (workerId : String) :
    t.roster workerId = s.roster workerId := by
  unfold roster
  rw [same]

theorem mem_roster_enroll (workerId id : String) : id ∈ (state.enroll ev).roster workerId ↔
      id ∈ state.roster workerId ∨ id = ev.epId ∧ ev.workerId = some workerId := by
  unfold enroll
  cases ev.workerId with
  | none => simp
  | some wid =>
    rw [roster_congr ((Drawn.refl _).upsertTreeWorker wid "ACTIVE").workers]
    unfold roster modifyWorker
    dsimp only
    rw [lookup_insert]
    by_cases same : wid = workerId
    · subst same
      rw [if_pos rfl]
      cases state.workers[wid]? with
      | none => simp
      | some w =>
        simp only [Option.getD_some, Option.map_some]
        split
        · next present => simp_all
        · simp
    · simp [same]

theorem mem_roster_discharge (workerId id : String) : id ∈ (state.discharge ev).roster workerId ↔
      id ∈ state.roster workerId ∧ ¬ (id = ev.epId ∧ workerId ≠ "" ∧
        ∃ view, state.episodes[ev.epId]? = some view ∧ view.workerId = workerId) := by
  unfold discharge
  cases present : state.episodes[ev.epId]? with
  | none => simp
  | some view =>
    by_cases unnamed : view.workerId = ""
    · have nobody : (Option.map (·.workerId) (some view)).filter (!·.isEmpty) = none := by
        rw [Option.map_some, unnamed]
        rfl
      rw [nobody]
      refine (and_iff_left ?_).symm
      rintro ⟨_, named, _, same, rfl⟩
      rw [← Option.some.inj same] at named
      exact named unnamed
    · have named : (Option.map (·.workerId) (some view)).filter (!·.isEmpty) =
          some view.workerId := by
        rw [Option.map_some, Option.filter_some, if_pos (by simpa using unnamed)]
      rw [named]
      unfold roster
      dsimp only
      rw [lookup_modify]
      by_cases same : view.workerId = workerId
      · subst same
        cases state.workers[view.workerId]? with
        | none => simp
        | some w => simp [unnamed]
      · simp [same]

theorem named_ended (status : Status) (workerId : String) :
    (∃ view, (state.modifyEpisode ev.epId (·.ended ev eventSeq status)).episodes[ev.epId]? =
      some view ∧ view.workerId = workerId) ↔
    ∃ view, state.episodes[ev.epId]? = some view ∧ view.workerId = workerId := by
  unfold modifyEpisode
  dsimp only
  rw [lookup_modify, if_pos rfl]
  cases state.episodes[ev.epId]? with
  | none => simp
  | some => simp [EpisodeView.ended]

attribute [local simp] EventType.ends EventType.dispatches

theorem mem_roster_projectEvent (calm : ev.kind ≠ .workerStatusSnapshot) (workerId id : String) :
    id ∈ (state.projectEvent ev eventSeq).roster workerId ↔
      (id ∈ state.roster workerId ∧ ¬ (ev.kind.ends = true ∧ id = ev.epId ∧ workerId ≠ "" ∧
        ∃ view, state.episodes[ev.epId]? = some view ∧ view.workerId = workerId)) ∨
      ev.kind.dispatches = true ∧ id = ev.epId ∧ ev.workerId = some workerId := by
  have fresh : ∀ w : WorkerView,
      w.activeEpisodes = ((state.workers[ev.wid]?).getD { workerId := ev.wid }).activeEpisodes →
      (id ∈ (ChainState.roster { state with workers := state.workers.insert ev.wid w } workerId) ↔
        id ∈ state.roster workerId) := by
    intro w same
    unfold roster
    dsimp only
    rw [lookup_insert]
    by_cases here : ev.wid = workerId
    · rw [if_pos here, ← here, Option.map_some, Option.getD_some, same]
      cases state.workers[ev.wid]? with
      | none => simp
      | some w' => simp
    · rw [if_neg here]
  have quiet : ∀ (t : ChainState) (k : EventType), t.workers = state.workers → k.ends = false →
      k.dispatches = false → (id ∈ t.roster workerId ↔
        (id ∈ state.roster workerId ∧ ¬ (k.ends = true ∧ id = ev.epId ∧ workerId ≠ "" ∧
          ∃ view, state.episodes[ev.epId]? = some view ∧ view.workerId = workerId)) ∨
        k.dispatches = true ∧ id = ev.epId ∧ ev.workerId = some workerId) := by
    intro t k same ends dispatches
    rw [roster_congr same, ends, dispatches]
    simp
  unfold projectEvent
  cases kind : ev.kind with
  | workerStatusSnapshot => exact absurd kind calm
  | runStarted => exact quiet _ _ (state.projectRunStarted_drawn ev).workers rfl rfl
  | runHeartbeat =>
    refine quiet _ _ ?_ rfl rfl
    show (state.projectRunHeartbeat ev).workers = state.workers
    unfold projectRunHeartbeat
    split <;> rfl
  | runClosed =>
    refine quiet _ _ ?_ rfl rfl
    show (state.projectRunClosed ev).workers = state.workers
    unfold projectRunClosed
    dsimp only
    split <;> rfl
  | episodeSubmitted =>
    exact quiet _ _ (state.projectEpisodeSubmitted_drawn ev eventSeq).workers rfl rfl
  | episodeScheduling =>
    exact quiet _ _ (state.projectEpisodeScheduling_drawn ev eventSeq).workers rfl rfl
  | stepStarted | stepComplete =>
    exact quiet _ _ (state.projectStep_drawn ev eventSeq).workers rfl rfl
  | episodeReporting =>
    exact quiet _ _ (state.projectEpisodeReporting_drawn ev eventSeq).workers rfl rfl
  | runStopped | runCompleted | runTerminated | runFailed | attemptClosed | other =>
    exact quiet _ _ rfl rfl rfl
  | episodeDispatched | attemptStarted =>
    rw [roster_congr (state.projectEpisodeDispatched_drawn ev eventSeq).workers, mem_roster_enroll]
    simp [roster, modifyEpisode]
  | episodeCompleted | episodeFailed | episodeClosed =>
    rw [roster_congr (state.projectEpisodeEnded_drawn ev eventSeq).workers, mem_roster_discharge,
      named_ended]
    simp [roster, modifyEpisode]
  | workerRegistered =>
    rw [roster_congr (state.projectWorkerRegistered_drawn ev).workers]
    refine (fresh _ ?_).trans ?_
    · rfl
    · simp
  | workerHeartbeat =>
    obtain ⟨w, same, drawn⟩ := state.projectWorkerHeartbeat_drawn ev
    rw [roster_congr drawn.workers, fresh w same]
    simp

end ChainState

/-- What an event makes of the view of its episode. -/
def EpisodeView.next (ev : ObservabilityEvent) (eventSeq : Nat) (view : Option EpisodeView) :
    Option EpisodeView :=
  match ev.kind with
  | .episodeSubmitted => some (submitted ev eventSeq)
  | .episodeScheduling => view.map (scheduling ev eventSeq)
  | .episodeDispatched | .attemptStarted => view.map (dispatched ev eventSeq)
  | .stepStarted | .stepComplete => view.map (stepping ev eventSeq)
  | .episodeReporting => view.map (reporting ev eventSeq)
  | .episodeCompleted | .episodeFailed | .episodeClosed =>
    view.map (ended ev eventSeq · (finalStatus ev view))
  | .attemptClosed => view.map (attemptClosed ev eventSeq)
  | _ => view

theorem ChainState.projectEvent_view (state : ChainState) (ev : ObservabilityEvent)
    (eventSeq : Nat) (id : String) :
    (state.projectEvent ev eventSeq).episodes[id]? =
      if ev.epId = id then EpisodeView.next ev eventSeq state.episodes[id]?
      else state.episodes[id]? := by
  rw [projectEvent_episodes]
  unfold EpisodeView.next
  by_cases same : ev.epId = id
  · subst same
    rw [if_pos rfl]
    cases ev.kind <;> simp
  · rw [if_neg same]
    cases ev.kind <;> simp [same]

namespace MergeEngine

variable (engine : MergeEngine) {ev : ObservabilityEvent} {ingestTs : Int}

/-- The view of an episode of a run. -/
def view (runId id : String) : Option EpisodeView :=
  (engine.runs[runId]?).bind fun state => state.episodes[id]?

variable {engine}

theorem view_getD (ingestTs : Int) (runId id : String) :
    ((engine.runs[runId]?).getD (.empty ingestTs runId)).episodes[id]? = engine.view runId id := by
  unfold view
  cases engine.runs[runId]? with
  | none => exact Std.ExtTreeMap.getElem?_empty
  | some => rfl

variable (engine) in
theorem view_apply (ev : ObservabilityEvent) (ingestTs : Int) :
    ∃ eventSeq, ∀ runId id, (engine.apply ev ingestTs).1.view runId id =
      if engine.Admits ev ∧ ev.runId = runId ∧ ev.epId = id then
        EpisodeView.next ev eventSeq (engine.view runId id)
      else engine.view runId id := by
  let state := counted ev ((engine.runs[ev.runId]?).getD (.empty ingestTs ev.runId)) ingestTs
  refine ⟨state.globalEventSeq, fun runId id => ?_⟩
  by_cases admits : engine.Admits ev
  · have projected : (engine.apply ev ingestTs).1.runs[runId]? =
        if ev.runId = runId then some (state.projectEvent ev state.globalEventSeq)
        else engine.runs[runId]? := by
      rw [apply_of_admits admits]
      exact lookup_insert _ _ _ _
    by_cases same : ev.runId = runId
    · subst same
      have before : state.episodes[id]? = engine.view ev.runId id := view_getD ingestTs ev.runId id
      unfold view at before ⊢
      rw [projected, if_pos rfl, Option.bind_some, ChainState.projectEvent_view, before]
      simp only [admits, true_and]
    · unfold view
      rw [projected, if_neg same, if_neg (fun both => same both.2.1)]
  · rw [apply_of_refused admits, if_neg (fun both => admits both.1)]
    rfl

end MergeEngine

end UEnv.Obs
