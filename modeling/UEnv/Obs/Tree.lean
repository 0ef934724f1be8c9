import UEnv.Lib.Forests
import UEnv.Obs.Frames

/-!
# The object tree

The nodes of a run, its workers, its episodes and their steps form a forest under the node of the
run. The cached number of children is counted again for the parent of a new node only.
-/

namespace UEnv.Obs

open Tables Records Forests Runs

/-- A tree node as a node of a forest. -/
def TreeNode.links : Links TreeNode String where
  key := TreeNode.nodeId
  parent := TreeNode.parentId
  count := TreeNode.childrenCount
  setCount n node := { node with childrenCount := n }
  key_setCount _ _ := rfl
  parent_setCount _ _ := rfl
  count_setCount _ _ := rfl

/-- The ids are unique, every node but the root has a parent among the nodes, and the numbers of
children are right. -/
structure TreeGraph.WellFormed (tree : TreeGraph) : Prop where
  unique : (tree.nodes.map (·.nodeId)).Nodup
  parents : ∀ n ∈ tree.nodes, n.nodeId ≠ tree.rootId → ∃ m ∈ tree.nodes, m.nodeId = n.parentId
  counts : ∀ n ∈ tree.nodes, n.childrenCount = tree.nodes.countP fun c => c.parentId = n.nodeId

/-- An episode that has a node is put under the parent that it has. -/
def ChainState.Stays (state : ChainState) (episodeId : String) (ev : ObservabilityEvent) : Prop :=
  ∀ n ∈ lookup TreeNode.nodeId (episodeNodeId episodeId) state.tree.nodes,
    n.parentId = state.episodeParent ev

/-- The workers can be dropped: nothing hangs under one, and the root is counted again with the
first observation. -/
def ChainState.Droppable (state : ChainState) (ev : ObservabilityEvent) : Prop :=
  (∀ n ∈ state.tree.nodes, ∀ m ∈ state.tree.nodes, m.kind = .worker → n.parentId ≠ m.nodeId) ∧
    ((∀ m ∈ state.tree.nodes, m.kind ≠ .worker) ∨ (ChainState.observations ev).isEmpty = false)

/-- The events that draw their episode. -/
def EventType.draws : EventType → Bool
  | episodeSubmitted | episodeScheduling | episodeDispatched | attemptStarted | stepStarted
  | stepComplete | episodeReporting | episodeCompleted | episodeFailed | episodeClosed => true
  | _ => false

/-- No episode moves to another parent, and no worker is dropped from under an episode. -/
def ChainState.Settles (state : ChainState) (ev : ObservabilityEvent) : Prop :=
  (ev.kind.draws = true → state.Stays ev.epId ev) ∧
    (ev.kind = .workerStatusSnapshot → ChainState.replaces ev = true → state.Droppable ev)

/-- What the forest sees of a node, and its kind. -/
def TreeNode.outline (n : TreeNode) : NodeKind × String × String × Nat :=
  (n.kind, TreeNode.links.ties n)

/-! ### Ids and shapes -/

/-- The ids of the four kinds of nodes differ in their first character. -/
def initial (nodeId : String) : Option Char := nodeId.toList.head?

theorem initial_run (runId : String) : initial (runNodeId runId) = some 'r' := by
  simp [initial, runNodeId]

theorem initial_worker (workerId : String) : initial (workerNodeId workerId) = some 'w' := by
  simp [initial, workerNodeId]

theorem initial_episode (episodeId : String) : initial (episodeNodeId episodeId) = some 'e' := by
  simp [initial, episodeNodeId]

theorem initial_step (episodeId : String) (step : Int) :
    initial (stepNodeId episodeId step) = some 's' := by
  simp [initial, stepNodeId]

theorem ne_of_initial {a b : String} (apart : initial a ≠ initial b) : a ≠ b :=
  fun same => apart (congrArg initial same)

theorem worker_ne_episode (workerId episodeId : String) :
    workerNodeId workerId ≠ episodeNodeId episodeId :=
  ne_of_initial (by rw [initial_worker, initial_episode]; decide)

/-! ### Nodes that are found -/

section lookup

variable {s : ChainState} {ev : ObservabilityEvent} {k : String}

theorem lookup_updateNode (nodeId : String) (f : TreeNode → TreeNode)
    (keeps : ∀ n, (f n).nodeId = n.nodeId) :
    lookup TreeNode.nodeId k (s.updateNode nodeId f).tree.nodes =
      if k = nodeId then (lookup TreeNode.nodeId k s.tree.nodes).map f
      else lookup TreeNode.nodeId k s.tree.nodes :=
  lookup_update keeps

theorem lookup_push (node : TreeNode) :
    (lookup TreeNode.nodeId k (s.pushNode node).tree.nodes).map (·.parentId) =
      ((lookup TreeNode.nodeId k s.tree.nodes).or
        (if node.nodeId = k then some node else none)).map (·.parentId) := by
  unfold ChainState.pushNode ChainState.bumpChildren
  dsimp only
  rw [lookup_updateNode]
  · show (if k = node.parentId then (lookup TreeNode.nodeId k (s.tree.nodes ++ [node])).map _
      else lookup TreeNode.nodeId k (s.tree.nodes ++ [node])).map _ = _
    rw [lookup_append, lookup_cons, lookup_nil]
    split
    · rw [Option.map_map]
      rfl
    · rfl
  · exact fun _ => rfl

theorem lookup_upsertTreeWorker (workerId status : String) (other : workerNodeId workerId ≠ k) :
    (lookup TreeNode.nodeId k (s.upsertTreeWorker workerId status).tree.nodes).map (·.parentId) =
      (lookup TreeNode.nodeId k s.tree.nodes).map (·.parentId) := by
  unfold ChainState.upsertTreeWorker
  split
  · rw [lookup_updateNode]
    · rw [if_neg (Ne.symm other)]
    · exact fun _ => rfl
  · refine (lookup_push _).trans ?_
    show ((lookup TreeNode.nodeId k s.tree.nodes).or (if workerNodeId workerId = k then _
      else none)).map _ = _
    rw [if_neg other, Option.or_none]

theorem lookup_upsertParent (ev : ObservabilityEvent) (episodeId : String) :
    (lookup TreeNode.nodeId (episodeNodeId episodeId) (s.upsertParent ev).tree.nodes).map
        (·.parentId) =
      (lookup TreeNode.nodeId (episodeNodeId episodeId) s.tree.nodes).map (·.parentId) := by
  unfold ChainState.upsertParent
  split
  · split
    · rfl
    · exact lookup_upsertTreeWorker _ _ (worker_ne_episode _ _)
  · rfl

theorem known_updateNode (nodeId : String) {f : TreeNode → TreeNode}
    (keeps : ∀ n, (f n).nodeId = n.nodeId) (known : ∃ m ∈ s.tree.nodes, m.nodeId = k) :
    ∃ m ∈ (s.updateNode nodeId f).tree.nodes, m.nodeId = k := by
  have image : k ∈ s.tree.nodes.map TreeNode.nodeId := List.mem_map.mpr known
  rw [← map_key_update (k := nodeId) keeps] at image
  exact List.mem_map.mp image

theorem known_pushNode (node : TreeNode) :
    ∃ m ∈ (s.pushNode node).tree.nodes, m.nodeId = node.nodeId := by
  have image : node.nodeId ∈ (s.tree.nodes ++ [node]).map TreeNode.links.key :=
    List.mem_map_of_mem (List.mem_append_right _ (List.mem_singleton_self node))
  rw [← Links.map_key_push] at image
  exact List.mem_map.mp image

theorem known_of_hasNode (present : s.hasNode k = true) : ∃ m ∈ s.tree.nodes, m.nodeId = k := by
  obtain ⟨m, looked⟩ := Option.isSome_iff_exists.mp present
  exact ⟨m, mem_of_lookup looked, key_of_lookup looked⟩

theorem absent_of_hasNode (absent : s.hasNode k = false) :
    lookup TreeNode.nodeId k s.tree.nodes = none :=
  Option.isNone_iff_eq_none.mp (Option.isSome_eq_false_iff.mp absent)

theorem known_upsertTreeWorker (workerId status : String) :
    ∃ m ∈ (s.upsertTreeWorker workerId status).tree.nodes, m.nodeId = workerNodeId workerId := by
  unfold ChainState.upsertTreeWorker
  split
  · next present => exact known_updateNode _ (fun _ => rfl) (known_of_hasNode present)
  · exact known_pushNode (s.workerNode workerId status)

theorem known_upsertTreeEpisode (episodeId status : String) :
    ∃ m ∈ (s.upsertTreeEpisode episodeId ev status).tree.nodes,
      m.nodeId = episodeNodeId episodeId := by
  unfold ChainState.upsertTreeEpisode
  dsimp only
  split
  · next present => exact known_updateNode _ (fun _ => rfl) (known_of_hasNode present)
  · exact known_pushNode (s.episodeNode episodeId ev status)

end lookup

/-! ### What is kept -/

/-- The id of a node is of its kind, and so is the one of its parent. -/
def TreeNode.Shaped (runId : String) (n : TreeNode) : Prop :=
  match n.kind with
  | .run => n.nodeId = runNodeId runId ∧ n.parentId = ""
  | .worker => initial n.nodeId = some 'w' ∧ n.parentId = runNodeId runId
  | .episode => initial n.nodeId = some 'e' ∧ initial n.parentId ≠ some 'e' ∧
      initial n.parentId ≠ some 's'
  | .step => initial n.nodeId = some 's' ∧ initial n.parentId = some 'e'

/-- The tree of a chain state, whose counts are right but for some ids. -/
structure SoundBut (stale : String → Prop) (state : ChainState) : Prop where
  rootId : state.tree.rootId = runNodeId state.trainingRunId
  root : ∃ n ∈ state.tree.nodes, n.nodeId = state.tree.rootId
  shaped : ∀ n ∈ state.tree.nodes, n.Shaped state.trainingRunId
  forest : TreeNode.links.WellFormedBut stale state.tree.rootId state.tree.nodes

abbrev Sound (state : ChainState) : Prop := SoundBut (fun _ => False) state

namespace SoundBut

variable {stale stale' : String → Prop} {s t : ChainState}

theorem wellFormed (sound : Sound s) : s.tree.WellFormed :=
  ⟨sound.forest.unique, sound.forest.parents,
    fun n member => sound.forest.counts n member fun impossible => impossible⟩

section

variable (sound : SoundBut stale s)
include sound

theorem congr (runId : t.trainingRunId = s.trainingRunId) (tree : t.tree = s.tree) :
    SoundBut stale t := by
  refine ⟨?_, ?_, ?_, ?_⟩
  · rw [tree, runId]
    exact sound.rootId
  · rw [tree]
    exact sound.root
  · rw [tree, runId]
    exact sound.shaped
  · rw [tree]
    exact sound.forest

theorem mono (weaker : ∀ k, stale k → stale' k) : SoundBut stale' s :=
  ⟨sound.rootId, sound.root, sound.shaped, sound.forest.mono weaker⟩

theorem top {k : String} (other : k ≠ "") :
    ∀ n ∈ s.tree.nodes, n.nodeId = s.tree.rootId → n.parentId ≠ k := by
  intro n member isRoot under
  have shape := sound.shaped n member
  have letter : initial n.nodeId = some 'r' := by
    rw [isRoot, sound.rootId]
    exact initial_run _
  unfold TreeNode.Shaped at shape
  split at shape
  · exact other (under.symm.trans shape.2)
  · cases letter.symm.trans shape.1
  · cases letter.symm.trans shape.1
  · cases letter.symm.trans shape.1

theorem redraw (runId : t.trainingRunId = s.trainingRunId) (rootId : t.tree.rootId = s.tree.rootId)
    (outline : t.tree.nodes.map TreeNode.outline = s.tree.nodes.map TreeNode.outline) :
    SoundBut stale t := by
  have ties : t.tree.nodes.map TreeNode.links.ties = s.tree.nodes.map TreeNode.links.ties := by
    have snd := congrArg (List.map Prod.snd) outline
    rw [List.map_map, List.map_map] at snd
    exact snd
  have twin : ∀ {l l' : List TreeNode}, l.map TreeNode.outline = l'.map TreeNode.outline →
      ∀ n ∈ l, ∃ m ∈ l', m.outline = n.outline := by
    intro l l' same n member
    have image : n.outline ∈ l.map TreeNode.outline := List.mem_map_of_mem member
    rw [same] at image
    exact List.mem_map.mp image
  refine ⟨?_, ?_, ?_, ?_⟩
  · rw [rootId, runId]
    exact sound.rootId
  · obtain ⟨n, member, isRoot⟩ := sound.root
    obtain ⟨m, here, same⟩ := twin outline.symm n member
    refine ⟨m, here, ?_⟩
    rw [rootId, ← isRoot]
    exact congrArg (fun o => o.2.1) same
  · intro n member
    obtain ⟨m, here, same⟩ := twin outline n member
    have shape := sound.shaped m here
    unfold TreeNode.outline Links.ties at same
    obtain ⟨kind, nodeId, parentId, _⟩ : m.kind = n.kind ∧ m.nodeId = n.nodeId ∧
        m.parentId = n.parentId ∧ m.childrenCount = n.childrenCount := by
      simpa [TreeNode.links] using same
    unfold TreeNode.Shaped at shape ⊢
    rw [kind, nodeId, parentId, ← runId] at shape
    exact shape
  · rw [rootId]
    exact sound.forest.congr ties

theorem updateNode (nodeId : String) {f : TreeNode → TreeNode}
    (keeps : ∀ n, (f n).outline = n.outline) : SoundBut stale (s.updateNode nodeId f) := by
  apply sound.redraw (t := s.updateNode nodeId f) rfl rfl
  show (update TreeNode.nodeId nodeId f s.tree.nodes).map TreeNode.outline = _
  generalize s.tree.nodes = nodes
  induction nodes with
  | nil => rfl
  | cons n rest ih =>
    rw [update_cons]
    split
    · rw [List.map_cons, List.map_cons, keeps]
    · rw [List.map_cons, List.map_cons, ih]

theorem closeTreeSteps (episodeId status : String) :
    SoundBut stale (s.closeTreeStepsForEpisode episodeId status) := by
  apply sound.redraw (t := s.closeTreeStepsForEpisode episodeId status) rfl rfl
  show (s.tree.nodes.map _).map TreeNode.outline = _
  rw [List.map_map]
  apply List.map_congr_left
  intro n _
  show TreeNode.outline (if _ then _ else n) = _
  split <;> rfl

theorem push (node : TreeNode) (fresh : lookup TreeNode.nodeId node.nodeId s.tree.nodes = none)
    (known : ∃ m ∈ s.tree.nodes, m.nodeId = node.parentId) (leaf : node.childrenCount = 0)
    (named : node.nodeId ≠ "") (shape : node.Shaped s.trainingRunId) :
    SoundBut (fun k => stale k ∧ k ≠ node.parentId)
      (s.pushNode node) := by
  have forest := sound.forest.push fresh known leaf (sound.top named)
  refine ⟨sound.rootId, ?_, ?_, forest⟩
  · obtain ⟨n, member, isRoot⟩ := sound.root
    have image : s.tree.rootId ∈ (s.tree.nodes ++ [node]).map TreeNode.links.key := by
      rw [← isRoot]
      exact List.mem_map_of_mem (List.mem_append_left _ member)
    rw [← Links.map_key_push] at image
    exact List.mem_map.mp image
  · intro n member
    have shapes : ∀ r ∈ s.tree.nodes ++ [node], r.Shaped s.trainingRunId := by
      intro r here
      rcases List.mem_append.mp here with old | new
      · exact sound.shaped r old
      · rw [List.mem_singleton.mp new]
        exact shape
    obtain ⟨r, here, same | ⟨c, same⟩⟩ := Links.mem_push (L := TreeNode.links) member
    · rw [same]
      exact shapes r here
    · rw [same]
      exact shapes r here

theorem known_root : ∃ m ∈ s.tree.nodes, m.nodeId = runNodeId s.trainingRunId := by
  rw [← sound.rootId]
  exact sound.root

/-- A worker that has no node yet gets one, and the children of the root are counted. -/
theorem pushWorker {workerId : String} (status : String)
    (absent : s.hasNode (workerNodeId workerId) = false) :
    SoundBut (fun k => stale k ∧ k ≠ runNodeId s.trainingRunId)
      (s.upsertTreeWorker workerId status) := by
  unfold ChainState.upsertTreeWorker
  rw [absent, if_neg Bool.false_ne_true]
  apply sound.push (s.workerNode workerId status)
  · exact absent_of_hasNode absent
  · exact sound.known_root
  · rfl
  · apply ne_of_initial
    show initial (workerNodeId workerId) ≠ initial ""
    rw [initial_worker]
    decide
  · exact ⟨initial_worker workerId, rfl⟩

theorem upsertTreeWorker (workerId status : String) :
    SoundBut stale (s.upsertTreeWorker workerId status) := by
  cases present : s.hasNode (workerNodeId workerId) with
  | false => exact (sound.pushWorker status present).mono fun _ both => both.1
  | true =>
    unfold ChainState.upsertTreeWorker
    rw [present, if_pos rfl]
    exact sound.updateNode _ fun _ => rfl

theorem upsertParent (ev : ObservabilityEvent) : SoundBut stale (s.upsertParent ev) := by
  unfold ChainState.upsertParent
  split
  · split
    · exact sound
    · exact sound.upsertTreeWorker _ _
  · exact sound

theorem known_parent (ev : ObservabilityEvent) :
    ∃ m ∈ (s.upsertParent ev).tree.nodes, m.nodeId = s.episodeParent ev := by
  unfold ChainState.upsertParent ChainState.episodeParent
  cases ev.workerId with
  | none => exact sound.known_root
  | some wid =>
    dsimp only
    split
    · exact sound.known_root
    · exact known_upsertTreeWorker wid "ACTIVE"

end

variable {episodeId : String} {ev : ObservabilityEvent}

/-- An episode without a node gets one, and an episode that has one stays under its parent. -/
theorem upsertTreeEpisode (sound : SoundBut stale s) (status : String)
    (stays : s.Stays episodeId ev) : SoundBut stale (s.upsertTreeEpisode episodeId ev status) := by
  have parents := lookup_upsertParent (s := s) ev episodeId
  have letters : initial (s.episodeParent ev) = some 'r' ∨
      initial (s.episodeParent ev) = some 'w' := by
    unfold ChainState.episodeParent
    split
    · split
      · exact Or.inl (initial_run _)
      · exact Or.inr (initial_worker _)
    · exact Or.inl (initial_run _)
  unfold ChainState.upsertTreeEpisode
  dsimp only
  split
  · next present =>
    obtain ⟨n, looked⟩ := Option.isSome_iff_exists.mp present
    have parent : n.parentId = s.episodeParent ev := by
      rw [looked] at parents
      obtain ⟨m, looked', same⟩ := Option.map_eq_some_iff.mp parents.symm
      exact same.symm.trans (stays m looked')
    -- the parent that is written is the one that the node has
    let redrawn : TreeNode → TreeNode := fun n => { n with
      status
      nodeMeta := .obj (ChainState.episodeMeta ev ++
        [("step_index", ChainState.jsonOption ChainState.jsonInt ev.stepIndex)]) }
    have moved : ∀ g : TreeNode → TreeNode, g n = redrawn n →
        SoundBut stale ((s.upsertParent ev).updateNode (episodeNodeId episodeId) g) := by
      intro g agree
      unfold ChainState.updateNode
      rw [update_congr looked agree]
      exact (sound.upsertParent ev).updateNode _ fun _ => rfl
    apply moved
    show { redrawn n with parentId := s.episodeParent ev } = redrawn n
    rw [← parent]
  · next absent =>
    refine ((sound.upsertParent ev).push (s.episodeNode episodeId ev status) ?_ ?_ rfl ?_ ?_).mono
      fun _ both => both.1
    · exact absent_of_hasNode (Bool.eq_false_iff.mpr absent)
    · exact sound.known_parent ev
    · apply ne_of_initial
      show initial (episodeNodeId episodeId) ≠ initial ""
      rw [initial_episode]
      decide
    · refine ⟨initial_episode episodeId, ?_, ?_⟩
      · rcases letters with letter | letter
        · exact letter ▸ by decide
        · exact letter ▸ by decide
      · rcases letters with letter | letter
        · exact letter ▸ by decide
        · exact letter ▸ by decide

theorem upsertTreeStep (sound : SoundBut stale s) (step : Int) (stays : s.Stays episodeId ev) :
    SoundBut stale (s.upsertTreeStep episodeId step ev) := by
  have drawn := sound.upsertTreeEpisode "ACTIVE" stays
  unfold ChainState.upsertTreeStep
  dsimp only
  split
  · exact drawn.updateNode _ fun _ => rfl
  · next absent =>
    refine (drawn.push (ChainState.stepNode episodeId step _) ?_ ?_ rfl ?_ ?_).mono
      fun _ both => both.1
    · exact absent_of_hasNode (Bool.eq_false_iff.mpr absent)
    · exact known_upsertTreeEpisode episodeId "ACTIVE"
    · apply ne_of_initial
      show initial (stepNodeId episodeId step) ≠ initial ""
      rw [initial_step]
      decide
    · exact ⟨initial_step episodeId step, initial_episode episodeId⟩

end SoundBut

/-! ### The arms -/

variable {ev : ObservabilityEvent} {episodeId : String}

theorem ChainState.Stays.of_parents {s t : ChainState} (stays : s.Stays episodeId ev)
    (runId : t.trainingRunId = s.trainingRunId)
    (parents : (lookup TreeNode.nodeId (episodeNodeId episodeId) t.tree.nodes).map (·.parentId) =
      (lookup TreeNode.nodeId (episodeNodeId episodeId) s.tree.nodes).map (·.parentId)) :
    t.Stays episodeId ev := by
  intro n looked
  rw [Option.mem_def.mp looked] at parents
  obtain ⟨m, found, parent⟩ := Option.map_eq_some_iff.mp parents.symm
  have under : m.parentId = t.episodeParent ev := by
    rw [stays m found]
    unfold ChainState.episodeParent
    rw [runId]
  exact parent.symm.trans under

/-- The second state has the tree of the first one. -/
structure SameTree (s t : ChainState) : Prop where
  trainingRunId : t.trainingRunId = s.trainingRunId
  tree : t.tree = s.tree

namespace SameTree

variable {s t : ChainState} {ev : ObservabilityEvent}

section

variable (same : SameTree s t)
include same

theorem setWorkflowStageStatus (nodeId : Stage) (status : Status) :
    SameTree s (t.setWorkflowStageStatus nodeId status) := ⟨same.trainingRunId, same.tree⟩

theorem setWorkflowActive (nodeId : Stage) (status : Status) (ev : ObservabilityEvent) :
    SameTree s (t.setWorkflowActive nodeId status ev) := by
  unfold ChainState.setWorkflowActive
  split
  · exact ⟨same.trainingRunId, same.tree⟩
  · exact ⟨same.trainingRunId, same.tree⟩

theorem bumpWorkflowStageCount (stage : Stage) (epId : String) :
    SameTree s (t.bumpWorkflowStageCount stage epId) := by
  unfold ChainState.bumpWorkflowStageCount
  dsimp only
  split
  · exact same
  · exact ⟨same.trainingRunId, same.tree⟩

theorem discharge (ev : ObservabilityEvent) : SameTree s (t.discharge ev) := by
  unfold ChainState.discharge
  split
  · exact same
  · exact ⟨same.trainingRunId, same.tree⟩

theorem sound {stale : String → Prop} (sound : SoundBut stale s) :
    SoundBut stale t := sound.congr same.trainingRunId same.tree

theorem stays {episodeId : String} (stays : s.Stays episodeId ev) : t.Stays episodeId ev :=
  stays.of_parents same.trainingRunId (by rw [same.tree])

end

end SameTree

namespace SoundBut

variable {stale : String → Prop} {s : ChainState} {ev : ObservabilityEvent} (eventSeq : Nat)

theorem projectEpisodeSubmitted (sound : SoundBut stale s) (stays : s.Stays ev.epId ev) :
    SoundBut stale (s.projectEpisodeSubmitted ev eventSeq) := by
  have same : SameTree s
      { s with episodes := s.episodes.insert ev.epId (.submitted ev eventSeq) } := ⟨rfl, rfl⟩
  have worked := (same.setWorkflowActive .submit .done ev).setWorkflowActive .dispatch .active ev
  have drawn := worked.bumpWorkflowStageCount .submit ev.epId
  exact (drawn.sound sound).upsertTreeEpisode _ (drawn.stays stays)

theorem projectEpisodeScheduling (sound : SoundBut stale s) (stays : s.Stays ev.epId ev) :
    SoundBut stale (s.projectEpisodeScheduling ev eventSeq) := by
  have same : SameTree s (s.modifyEpisode ev.epId (.scheduling ev eventSeq)) := ⟨rfl, rfl⟩
  have drawn := (same.setWorkflowActive .submit .done ev).setWorkflowActive .dispatch .active ev
  exact (drawn.sound sound).upsertTreeEpisode _ (drawn.stays stays)

theorem enroll (sound : SoundBut stale s) (ev : ObservabilityEvent) :
    SoundBut stale (s.enroll ev) := by
  unfold ChainState.enroll
  split
  · exact sound
  · apply SoundBut.upsertTreeWorker
    exact sound.congr rfl rfl

end SoundBut

theorem ChainState.Stays.enroll {s : ChainState} (stays : s.Stays episodeId ev) :
    (s.enroll ev).Stays episodeId ev := by
  unfold ChainState.enroll
  split
  · exact stays
  · next wid _ =>
    apply stays.of_parents
    · exact ((Drawn.refl _).upsertTreeWorker _ _).trainingRunId
    · exact lookup_upsertTreeWorker _ _ (worker_ne_episode _ _)

namespace SoundBut

variable {stale : String → Prop} {s : ChainState} {ev : ObservabilityEvent} (eventSeq : Nat)

section

variable (sound : SoundBut stale s)
include sound

section

variable (stays : s.Stays ev.epId ev)
include stays

theorem projectEpisodeDispatched : SoundBut stale (s.projectEpisodeDispatched ev eventSeq) := by
  have same : SameTree s (s.modifyEpisode ev.epId (.dispatched ev eventSeq)) := ⟨rfl, rfl⟩
  have drawn : SameTree ((s.modifyEpisode ev.epId (.dispatched ev eventSeq)).enroll ev) _ :=
    (((SameTree.setWorkflowActive ⟨rfl, rfl⟩ .dispatch .done ev).setWorkflowActive .execute
      .active ev).bumpWorkflowStageCount .dispatch ev.epId).bumpWorkflowStageCount .execute ev.epId
  exact (drawn.sound ((same.sound sound).enroll ev)).upsertTreeEpisode _
    (drawn.stays (same.stays stays).enroll)

theorem projectStep : SoundBut stale (s.projectStep ev eventSeq) := by
  have same : SameTree s (s.modifyEpisode ev.epId (.stepping ev eventSeq)) := ⟨rfl, rfl⟩
  have drawn := (same.setWorkflowActive .execute .active ev).bumpWorkflowStageCount .execute ev.epId
  exact (drawn.sound sound).upsertTreeStep _ (drawn.stays stays)

theorem projectEpisodeReporting : SoundBut stale (s.projectEpisodeReporting ev eventSeq) := by
  have same : SameTree s (s.modifyEpisode ev.epId (.reporting ev eventSeq)) := ⟨rfl, rfl⟩
  have drawn := (same.setWorkflowActive .execute .done ev).setWorkflowActive .report .active ev
  exact (drawn.sound sound).upsertTreeEpisode _ (drawn.stays stays)

theorem projectEpisodeEnded : SoundBut stale (s.projectEpisodeEnded ev eventSeq) := by
  have same : SameTree s (s.modifyEpisode ev.epId (·.ended ev eventSeq
      (EpisodeView.finalStatus ev s.episodes[ev.epId]?))) := ⟨rfl, rfl⟩
  have worked := ((same.discharge ev).setWorkflowActive .execute .done ev).setWorkflowActive
    .report .done ev
  have drawn := ((worked.setWorkflowActive .done
    (EpisodeView.finalStatus ev s.episodes[ev.epId]?) ev).bumpWorkflowStageCount .report
    ev.epId).bumpWorkflowStageCount .done ev.epId
  exact ((drawn.sound sound).upsertTreeEpisode _ (drawn.stays stays)).closeTreeSteps _ _

end

theorem setRunTreeStatus (status : String) :
    SoundBut stale (s.setRunTreeStatus status) := sound.updateNode _ fun _ => rfl

theorem projectRunStarted (ev : ObservabilityEvent) : SoundBut stale (s.projectRunStarted ev) := by
  have planned : SameTree s (s.applyRunPlan ev) := by
    unfold ChainState.applyRunPlan
    split
    · exact ⟨rfl, rfl⟩
    · exact ⟨rfl, rfl⟩
  apply (SameTree.setWorkflowActive ⟨rfl, rfl⟩ .submit .active ev).sound
  apply setRunTreeStatus
  exact (planned.sound sound).congr rfl rfl

theorem projectRunHeartbeat (ev : ObservabilityEvent) :
    SoundBut stale (s.projectRunHeartbeat ev) := by
  unfold ChainState.projectRunHeartbeat
  split
  · exact sound
  · apply setRunTreeStatus
    exact sound.congr rfl rfl

theorem projectRunEnded (ev : ObservabilityEvent) (runStatus treeStatus : String)
    (doneStatus : Status) :
    SoundBut stale (s.projectRunEnded ev runStatus treeStatus doneStatus) := by
  apply (SameTree.setWorkflowStageStatus ⟨rfl, rfl⟩ .done doneStatus).sound
  apply setRunTreeStatus
  exact sound.congr rfl rfl

theorem projectRunClosed (ev : ObservabilityEvent) : SoundBut stale (s.projectRunClosed ev) := by
  apply (SameTree.setWorkflowStageStatus ⟨rfl, rfl⟩ .done .done).sound
  apply setRunTreeStatus
  split
  · exact sound.congr rfl rfl
  · exact sound.congr rfl rfl

end

/-! ### Snapshots -/

theorem observe (sound : SoundBut stale s) (observation : WorkerStatusObservation) :
    SoundBut stale (s.observe observation) := by
  apply upsertTreeWorker
  exact sound.congr rfl rfl

theorem observeAll (sound : SoundBut stale s) (observations : List WorkerStatusObservation) :
    SoundBut stale (observations.foldl ChainState.observe s) := by
  induction observations generalizing s with
  | nil => exact sound
  | cons observation rest ih => exact ih (sound.observe observation)

theorem kind_of_worker (sound : SoundBut stale s) {n : TreeNode} (member : n ∈ s.tree.nodes)
    {workerId : String} (named : n.nodeId = workerNodeId workerId) : n.kind = .worker := by
  have shape := sound.shaped n member
  have letter : initial n.nodeId = some 'w' := by
    rw [named]
    exact initial_worker workerId
  unfold TreeNode.Shaped at shape
  split at shape
  · rw [shape.1, initial_run] at letter
    cases letter
  · next kind => exact kind
  · cases letter.symm.trans shape.1
  · cases letter.symm.trans shape.1

theorem dropWorkers (sound : Sound s)
    (bare : ∀ n ∈ s.tree.nodes, ∀ m ∈ s.tree.nodes, m.kind = .worker → n.parentId ≠ m.nodeId) :
    SoundBut (· = runNodeId s.trainingRunId) s.dropWorkers := by
  have kept : ∀ n : TreeNode, (n.kind != .worker) = true ↔ n.kind ≠ .worker := fun _ => bne_iff_ne
  refine ⟨sound.rootId, ?_, ?_, ?_⟩
  · obtain ⟨n, member, isRoot⟩ := sound.root
    refine ⟨n, List.mem_filter.mpr ⟨member, (kept n).mpr fun worker => ?_⟩, isRoot⟩
    have shape := sound.shaped n member
    unfold TreeNode.Shaped at shape
    rw [worker, isRoot, sound.rootId, initial_run] at shape
    cases shape.1
  · intro n member
    exact sound.shaped n (List.mem_filter.mp member).1
  · apply sound.forest.filter fun n => n.kind != .worker
    · intro n member _ m present under
      exact (kept m).mpr fun worker => bare n member m present worker under.symm
    · intro n member dropped
      have worker : n.kind = .worker := by simpa using dropped
      have shape := sound.shaped n member
      unfold TreeNode.Shaped at shape
      rw [worker] at shape
      exact shape.2

theorem observeFirst (sound : SoundBut (· = runNodeId s.trainingRunId) s)
    (observation : WorkerStatusObservation)
    (absent : s.hasNode (workerNodeId observation.workerId) = false) :
    Sound (s.observe observation) := by
  have drawn : ∀ t, SameTree s t →
      Sound (t.upsertTreeWorker observation.workerId observation.status) := by
    intro t same
    have still : t.hasNode (workerNodeId observation.workerId) = false := by
      unfold ChainState.hasNode
      rw [same.tree]
      exact absent
    apply ((same.sound sound).pushWorker observation.status still).mono
    rintro k ⟨root, other⟩
    rw [same.trainingRunId] at other
    exact other root
  exact drawn _ ⟨rfl, rfl⟩

theorem projectWorkerStatusSnapshot (sound : Sound s)
    (droppable : ChainState.replaces ev = true → s.Droppable ev) :
    Sound (s.projectWorkerStatusSnapshot ev) := by
  unfold ChainState.projectWorkerStatusSnapshot
  split
  · next replaced =>
    obtain ⟨bare, counted⟩ := droppable replaced
    have dropped := sound.dropWorkers bare
    cases observed : ChainState.observations ev with
    | nil =>
      -- there was no worker to drop
      have none_ := counted.resolve_right fun some_ => by
        rw [observed] at some_
        cases some_
      apply sound.congr (t := s.dropWorkers) rfl
      show { s.tree with nodes := s.tree.nodes.filter fun n => n.kind != .worker } = s.tree
      rw [List.filter_eq_self.mpr fun n member => bne_iff_ne.mpr (none_ n member)]
    | cons observation rest =>
      have absent : s.dropWorkers.hasNode (workerNodeId observation.workerId) = false := by
        apply Option.isSome_eq_false_iff.mpr
        apply Option.isNone_iff_eq_none.mpr
        apply lookup_eq_none.mpr
        intro n member named
        exact bne_iff_ne.mp (List.mem_filter.mp member).2 (dropped.kind_of_worker member named)
      show Sound (rest.foldl ChainState.observe (s.dropWorkers.observe observation))
      exact (dropped.observeFirst observation absent).observeAll rest
  · exact sound.observeAll _

theorem projectEvent (sound : Sound s) (settles : s.Settles ev) (eventSeq : Nat) :
    Sound (s.projectEvent ev eventSeq) := by
  unfold ChainState.projectEvent
  have stays := settles.1
  cases kind : ev.kind with
  | runStarted => exact sound.projectRunStarted ev
  | runHeartbeat => exact sound.projectRunHeartbeat ev
  | runStopped =>
    apply setRunTreeStatus
    exact sound.congr rfl rfl
  | runCompleted | runTerminated | runFailed => exact sound.projectRunEnded ev _ _ _
  | runClosed => exact sound.projectRunClosed ev
  | episodeSubmitted => exact sound.projectEpisodeSubmitted eventSeq (stays (by rw [kind]; rfl))
  | episodeScheduling => exact sound.projectEpisodeScheduling eventSeq (stays (by rw [kind]; rfl))
  | episodeDispatched | attemptStarted =>
    exact sound.projectEpisodeDispatched eventSeq (stays (by rw [kind]; rfl))
  | stepStarted | stepComplete => exact sound.projectStep eventSeq (stays (by rw [kind]; rfl))
  | episodeReporting => exact sound.projectEpisodeReporting eventSeq (stays (by rw [kind]; rfl))
  | episodeCompleted | episodeFailed | episodeClosed =>
    exact sound.projectEpisodeEnded eventSeq (stays (by rw [kind]; rfl))
  | attemptClosed => exact sound.congr rfl rfl
  | workerStatusSnapshot => exact sound.projectWorkerStatusSnapshot (settles.2 kind)
  | workerRegistered | workerHeartbeat =>
    apply upsertTreeWorker
    exact sound.congr rfl rfl
  | other => exact sound

theorem empty (now : Int) (runId : String) : Sound (.empty now runId) := by
  refine ⟨rfl, ⟨_, List.mem_singleton_self _, rfl⟩, ?_, ?_, ?_, ?_⟩
  · intro n member
    rw [List.mem_singleton.mp member]
    exact ⟨rfl, rfl⟩
  · exact List.nodup_singleton _
  · intro n member other
    rw [List.mem_singleton.mp member] at other
    exact absurd rfl other
  · intro n member _
    rw [List.mem_singleton.mp member]
    symm
    apply Links.children_eq_zero
    intro m here
    rw [List.mem_singleton.mp here]
    apply ne_of_initial
    show initial "" ≠ initial (runNodeId runId)
    rw [initial_run]
    decide

end SoundBut

theorem ChainState.settles_empty (now : Int) (runId : String) (ev : ObservabilityEvent) :
    (ChainState.empty now runId).Settles ev := by
  have stays : (ChainState.empty now runId).Stays ev.epId ev := by
    intro n looked
    have root := mem_of_lookup looked
    have named := key_of_lookup looked
    rw [List.mem_singleton.mp root] at named
    refine absurd named (ne_of_initial ?_)
    rw [initial_run, initial_episode]
    decide
  have droppable : (ChainState.empty now runId).Droppable ev := by
    have none_ : ∀ m ∈ (ChainState.empty now runId).tree.nodes, m.kind ≠ .worker := by
      intro m member
      rw [List.mem_singleton.mp member]
      show NodeKind.run ≠ .worker
      decide
    exact ⟨fun n _ m member worker => absurd worker (none_ m member), Or.inl none_⟩
  exact ⟨fun _ => stays, fun _ _ => droppable⟩

/-! ### Runs of the engine -/

/-- An admitted event leaves the episodes of its run where they are. -/
def Settled (s : MergeEngine) (ev : ObservabilityEvent) : Prop :=
  s.Admits ev → ∀ state ∈ s.runs[ev.runId]?, state.Settles ev

instance (s : MergeEngine) (ev : ObservabilityEvent) : Decidable (Settled s ev) :=
  inferInstanceAs (Decidable (s.Admits ev → ∀ state ∈ s.runs[ev.runId]?,
    (ev.kind.draws = true → ∀ n ∈ lookup TreeNode.nodeId (episodeNodeId ev.epId) state.tree.nodes,
      n.parentId = state.episodeParent ev) ∧
    (ev.kind = .workerStatusSnapshot → ChainState.replaces ev = true →
      (∀ n ∈ state.tree.nodes, ∀ m ∈ state.tree.nodes, m.kind = .worker → n.parentId ≠ m.nodeId) ∧
      ((∀ m ∈ state.tree.nodes, m.kind ≠ .worker) ∨
        (ChainState.observations ev).isEmpty = false))))

/-- The tree of every run is sound. -/
def SoundTrees (s : MergeEngine) : Prop :=
  ∀ (runId : String), ∀ state ∈ s.runs[runId]?, Sound state

theorem SoundTrees.apply {s : MergeEngine} (sound : SoundTrees s) (settled : Settled s ev)
    (ingestTs : Int) : SoundTrees (s.apply ev ingestTs).1 := by
  by_cases admits : s.Admits ev
  · rw [MergeEngine.apply_of_admits admits]
    intro runId state found
    rw [lookup_insert] at found
    by_cases here : ev.runId = runId
    · rw [if_pos here] at found
      cases found
      have before : Sound ((s.runs[ev.runId]?).getD (.empty ingestTs ev.runId)) ∧
          ((s.runs[ev.runId]?).getD (.empty ingestTs ev.runId)).Settles ev := by
        cases known : s.runs[ev.runId]? with
        | none => exact ⟨SoundBut.empty _ _, ChainState.settles_empty _ _ _⟩
        | some old => exact ⟨sound _ old known, settled admits old known⟩
      have counted : Sound (MergeEngine.counted ev
          ((s.runs[ev.runId]?).getD (.empty ingestTs ev.runId)) ingestTs) :=
        before.1.congr rfl rfl
      exact counted.projectEvent before.2 _
    · rw [if_neg here] at found
      exact sound runId state found
  · rw [MergeEngine.apply_of_refused admits]
    exact sound

/-- Where every event leaves the episodes under their parents, every tree is well formed. -/
theorem trees_wellFormed {s : MergeEngine}
    (reached : ReachableWhen merges (fun s label => Settled s label.1) s) :
    ∀ (runId : String), ∀ state ∈ s.runs[runId]?, state.tree.WellFormed := by
  have sound : SoundTrees s := by
    apply ReachableWhen.invariant (motive := SoundTrees) ?_ ?_ reached
    · intro s initial runId state found
      rw [show s = {} from initial] at found
      rw [Std.ExtTreeMap.getElem?_empty] at found
      cases found
    · intro s label t _ sound settled taken
      cases taken
      exact sound.apply settled label.2
  intro runId state found
  exact (sound runId state found).wellFormed

/-- An episode that is submitted for a worker, dispatched to it and stepped, and a fleet that is
replaced. -/
def settledRun : List (ObservabilityEvent × Int) :=
  [({ eventId := "a1", sourceId := "server:1", eventType := "EPISODE_SUBMITTED"
      episodeId := some "e1", workerId := some "w1", seq := 1 }, 10),
    ({ eventId := "a2", sourceId := "server:1", eventType := "EPISODE_DISPATCHED"
       episodeId := some "e1", workerId := some "w1", seq := 2 }, 11),
    ({ eventId := "a3", sourceId := "worker:w1", eventType := "STEP_STARTED"
       episodeId := some "e1", workerId := some "w1", stepIndex := some 0, seq := 1 }, 12),
    ({ eventId := "a4", sourceId := "server:1", eventType := "WORKER_REGISTERED"
       trainingRunId := some "r2", workerId := some "w2", seq := 3 }, 13),
    ({ eventId := "a5", sourceId := "server:1", eventType := "WORKER_STATUS_SNAPSHOT"
       trainingRunId := some "r2", seq := 4
       payload := some (.obj [("replace", .bool true), ("workers", .arr [.obj
         [("worker_id", .str "w3"), ("status", .str "IDLE"), ("status_reason", .str ""),
           ("status_changed_ts", .posInt 14), ("current_load", .posInt 0),
           ("capacity", .posInt 4), ("endpoint", .str "")]])]) }, 14)]

theorem trees_wellFormed_settledRun : ∃ s, merges.exec {} settledRun = some s ∧
      ∀ (runId : String), ∀ state ∈ s.runs[runId]?, state.tree.WellFormed := by
  obtain ⟨s, ran⟩ := Option.isSome_iff_exists.mp
    (show (merges.exec {} settledRun).isSome = true by decide +kernel)
  have settled : merges.Along (fun s label => Settled s label.1) {} settledRun := by
    decide +kernel
  exact ⟨s, ran, trees_wellFormed (ReachableWhen.of_exec (.start rfl) settledRun settled ran)⟩

/-- An episode that is submitted without a worker and then dispatched to one. -/
def movedEpisode : List (ObservabilityEvent × Int) :=
  [({ eventId := "a1", sourceId := "server:1", eventType := "EPISODE_SUBMITTED"
      episodeId := some "e1", seq := 1 }, 10),
    ({ eventId := "a2", sourceId := "server:1", eventType := "EPISODE_DISPATCHED"
       episodeId := some "e1", attemptId := some 1, workerId := some "w1", seq := 2 }, 11)]

/-- The run still counts the episode that moved to a worker. -/
theorem moved_episode_counted_twice :
    ¬ ∀ s, Reachable merges s → ∀ (runId : String), ∀ state ∈ s.runs[runId]?,
      state.tree.WellFormed := by
  intro wellFormed
  have ran : (merges.exec {} movedEpisode).any (fun s => (s.runs["_orphan"]?).any fun state =>
      state.tree.nodes.any fun n => n.childrenCount !=
        state.tree.nodes.countP fun c => c.parentId = n.nodeId) = true := by
    decide +kernel
  obtain ⟨s, ran, facts⟩ := (Option.any_eq_true _ _).mp ran
  obtain ⟨state, found, facts⟩ := (Option.any_eq_true _ _).mp facts
  obtain ⟨n, member, wrong⟩ := List.any_eq_true.mp facts
  have right := (wellFormed s (Reachable.of_exec rfl movedEpisode ran) "_orphan" state found).counts
    n member
  exact bne_iff_ne.mp wrong right

end UEnv.Obs
