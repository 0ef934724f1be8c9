import UEnv.Persistence.Commands
import UEnv.Persistence.Recovery

/-!
# Databases that recovery handles exactly

`Db.Recoverable` relates the phase of an episode to its dispatches and its agent job.
From such a database `recover_state` succeeds, and it spawns one task for each unfinished episode
and none for the others.
-/

namespace UEnv.Persistence

open Proto Wire Tables Fallible Service

variable {sha256Hex : Bytes → String} {db : Db}

def RecoveryTask.episodeId : RecoveryTask → String
  | .nativeWait request _ => request.episodeId
  | .agentWait record => record.request.episodeId
  | .submission request => request.episodeId

/-- What recovery spawns for a record of `load_recovery`. -/
def RecoveryEpisode.task (record : RecoveryEpisode) : Option RecoveryTask :=
  match record.dispatch with
  | some dispatch => some (.nativeWait (redispatched record.request dispatch) dispatch)
  | none => if record.phase = .agentDispatched then none else some (.submission record.request)

/-- `format!("job-{episode_id}")`. -/
def jobIdOf (episodeId : String) : String := "job-" ++ episodeId

theorem jobIdOf_inj {a b : String} (same : jobIdOf a = jobIdOf b) : a = b :=
  String.append_right_inj "job-" |>.mp same

/-- A job that an agent can still work on. -/
def AgentJobRow.Open (row : AgentJobRow) : Prop := row.phase = .pending ∨ row.phase = .leased

instance (row : AgentJobRow) : Decidable row.Open := instDecidableOr

/-- A session that may still have to be destroyed. -/
def GatewaySessionRow.Open (row : GatewaySessionRow) : Prop :=
  row.phase = .active ∨ row.phase = .cleanupPending

namespace Db

/-- The episode was handed to a worker. -/
def Dispatched (db : Db) (id : String) : Prop :=
  ∃ (leaseId : String) (row : DispatchRow), db.dispatches[leaseId]? = some row ∧
    row.record.episodeId = id

/-- The job of an episode is open. -/
def HasOpenJob (db : Db) (id : String) : Prop :=
  ∃ row : AgentJobRow, db.agentJobs[jobIdOf id]? = some row ∧ row.episodeId = id ∧ row.Open

structure Recoverable (sha256Hex : Bytes → String) (db : Db) : Prop where
  sound : db.Sound sha256Hex
  keyed : ∀ (jobId : String) (row : AgentJobRow), db.agentJobs[jobId]? = some row →
    jobId = jobIdOf row.episodeId
  queued : ∀ (id : String) (row : EpisodeRow), db.episodes[id]? = some row →
    row.phase = .queued → ¬ db.Dispatched id
  dispatched : ∀ (id : String) (row : EpisodeRow), db.episodes[id]? = some row →
    row.phase = .dispatchIntent ∨ row.phase = .dispatched → db.Dispatched id
  agent : ∀ (id : String) (row : EpisodeRow), db.episodes[id]? = some row →
    row.phase = .agentDispatched → ¬ db.Dispatched id ∧ db.HasOpenJob id
  jobs : ∀ (jobId : String) (row : AgentJobRow), db.agentJobs[jobId]? = some row → row.Open →
    ∃ episode : EpisodeRow, db.episodes[row.episodeId]? = some episode ∧
      episode.phase = .agentDispatched
  sessions : ∀ id, (db.openSessions id).length ≤ 1

theorem mem_openSessions {id : String} {entry : String × GatewaySessionRow} :
    entry ∈ db.openSessions id ↔ db.gatewaySessions[entry.1]? = some entry.2 ∧
      entry.2.episodeId = id ∧ entry.2.Open := by
  unfold openSessions GatewaySessionRow.Open
  rw [List.mem_filter, Std.ExtTreeMap.mem_toList_iff_getElem?_eq_some]
  simp

theorem loadLatestDispatch_eq_none_iff (id : String) :
    db.loadLatestDispatch id = none ↔ ¬ db.Dispatched id := by
  unfold loadLatestDispatch latest
  rw [Option.map_eq_none_iff, List.head?_eq_none_iff]
  refine ⟨?_, ?_⟩
  · rintro empty ⟨leaseId, row, present, here⟩
    have member : row ∈ (rows db.dispatches).filter fun row => row.record.episodeId == id :=
      List.mem_filter.mpr ⟨mem_rows.mpr ⟨leaseId, present⟩, beq_iff_eq.mpr here⟩
    have sorted := (List.mem_insertionSort (fun a b : DispatchRow =>
      b.record.attemptId < a.record.attemptId ∨
        b.record.attemptId = a.record.attemptId ∧ b.updatedAtMs ≤ a.updatedAtMs)).mpr member
    rw [empty] at sorted
    cases sorted
  · intro undispatched
    rw [List.eq_nil_iff_forall_not_mem]
    intro row sorted
    obtain ⟨listed, here⟩ := List.mem_filter.mp ((List.mem_insertionSort _).mp sorted)
    obtain ⟨leaseId, present⟩ := mem_rows.mp listed
    exact undispatched ⟨leaseId, row, present, beq_iff_eq.mp here⟩

theorem nodup_rows {α β : Type} {table : Table α} (key : α → String) (f : α → β)
    (keep : α → Bool) (ge : α → α → Prop) [DecidableRel ge]
    (keyed : ∀ (k : String) (row : α), table[k]? = some row → keep row → k = key row)
    (inj : ∀ a b, f a = f b → key a = key b) :
    ((((rows table).filter keep).insertionSort ge).map f).Nodup := by
  have sorted : (((rows table).filter keep).insertionSort ge).Perm ((rows table).filter keep) :=
    List.perm_insertionSort _ _
  rw [(sorted.map f).nodup_iff]
  unfold rows
  have distinct := Std.ExtTreeMap.distinct_keys_toList (t := table)
  have members : ∀ entry ∈ table.toList, table[entry.1]? = some entry.2 := fun entry member =>
    Std.ExtTreeMap.mem_toList_iff_getElem?_eq_some.mp member
  generalize table.toList = entries at distinct members ⊢
  induction entries with
  | nil => exact List.nodup_nil
  | cons entry rest ih =>
    obtain ⟨apart, distinct⟩ := List.pairwise_cons.mp distinct
    have later := ih distinct fun other member => members other (List.mem_cons_of_mem _ member)
    rw [List.map_cons, List.filter_cons]
    split
    · next kept =>
      rw [List.map_cons, List.nodup_cons]
      refine ⟨?_, later⟩
      intro again
      obtain ⟨row, listed, same⟩ := List.mem_map.mp again
      obtain ⟨listed, keptToo⟩ := List.mem_filter.mp listed
      obtain ⟨other, member, rfl⟩ := List.mem_map.mp listed
      have sameKey : other.1 = entry.1 := by
        rw [keyed entry.1 entry.2 (members entry List.mem_cons_self) kept,
          keyed other.1 other.2 (members other (List.mem_cons_of_mem _ member)) keptToo]
        exact inj _ _ same
      exact apart other member (Std.compare_eq_iff_eq.mpr sameKey.symm)
    · exact later

theorem nodup_loadRecovery (sound : db.Sound sha256Hex) :
    (db.loadRecovery.map fun record => record.request.episodeId).Nodup := by
  unfold loadRecovery
  rw [List.map_map]
  let named : EpisodeRow → String := fun row => row.request.episodeId
  refine nodup_rows named named _ _ ?_ fun _ _ same => same
  intro id row present _
  exact (sound id row present).1.symm

theorem agentRecoveryOf_once {row : AgentJobRow} {episode : EpisodeRow}
    (present : db.episodes[row.episodeId]? = some episode)
    (sessions : (db.openSessions row.episodeId).length ≤ 1) :
    ∃ record, db.agentRecoveryOf row = [record] := by
  unfold agentRecoveryOf
  rw [present]
  simp only
  match db.openSessions row.episodeId, sessions with
  | [], _ => exact ⟨_, rfl⟩
  | [session], _ => exact ⟨_, rfl⟩

namespace Recoverable

theorem agentRecoveryOf (recoverable : db.Recoverable sha256Hex) {jobId : String}
    {row : AgentJobRow} (present : db.agentJobs[jobId]? = some row) (opened : row.Open) :
    ∃ record, db.agentRecoveryOf row = [record] ∧ record.request.episodeId = row.episodeId := by
  obtain ⟨episode, found, _⟩ := recoverable.jobs jobId row present opened
  obtain ⟨record, single⟩ := agentRecoveryOf_once found (recoverable.sessions row.episodeId)
  obtain ⟨episode', found', request, _⟩ :=
    mem_agentRecoveryOf
      (show record ∈ db.agentRecoveryOf row by rw [single]; exact List.mem_cons_self)
  refine ⟨record, single, ?_⟩
  rw [request]
  exact (recoverable.sound row.episodeId episode' found').1

theorem nodup_loadAgentRecovery (recoverable : db.Recoverable sha256Hex) :
    (db.loadAgentRecovery.map fun record => record.request.episodeId).Nodup := by
  unfold loadAgentRecovery
  rw [List.map_flatMap]
  have single : ∀ row ∈ (((rows db.agentJobs).filter fun row =>
        row.phase == .pending || row.phase == .leased).insertionSort
          fun a b => a.updatedAtMs ≤ b.updatedAtMs),
      (db.agentRecoveryOf row).map (fun record => record.request.episodeId) = [row.episodeId] := by
    intro row listed
    obtain ⟨listed, opened⟩ := List.mem_filter.mp ((List.mem_insertionSort _).mp listed)
    obtain ⟨jobId, present⟩ := mem_rows.mp listed
    have isOpen : row.Open := by simpa [AgentJobRow.Open] using opened
    obtain ⟨record, only, named⟩ := recoverable.agentRecoveryOf present isOpen
    rw [only, ← named]
    rfl
  rw [List.flatMap_congr single, ← List.map_eq_flatMap]
  refine nodup_rows (fun row : AgentJobRow => jobIdOf row.episodeId) _ _ _ ?_ ?_
  · intro jobId row present _
    exact recoverable.keyed jobId row present
  · intro a b same
    exact congrArg jobIdOf same

end Recoverable

end Db

/-- The task takes an episode to its end: it waits for the report of the latest dispatch or for
the completion of the open job, until the deadline of either, or submits the request again. -/
def RecoveryTask.Continues (db : Db) (row : EpisodeRow) : RecoveryTask → Prop
  | .nativeWait request dispatch =>
    db.loadLatestDispatch row.request.episodeId = some dispatch ∧
      request = redispatched row.request dispatch
  | .agentWait record => record.request = row.request ∧ ∃ job : AgentJobRow,
      db.agentJobs[jobIdOf row.request.episodeId]? = some job ∧ job.Open ∧ record.job = job.job ∧
        record.deadlineAtMs = job.deadlineAtMs
  | .submission request => request = row.request

/-- Every unfinished episode has exactly one task, which owns a coordinator entry; no other
episode has one. -/
structure Recovered.Exact (sha256Hex : Bytes → String) (db : Db) (state : Recovered) : Prop where
  once : (state.tasks.map RecoveryTask.episodeId).Nodup
  owned : ∀ (id : String) (row : EpisodeRow), db.episodes[id]? = some row →
    row.phase.terminal = false → ∃ task ∈ state.tasks, task.episodeId = id ∧
      task.Continues db row ∧ id ∈ state.started sha256Hex
  unfinished : ∀ task ∈ state.tasks, ∃ row : EpisodeRow,
    db.episodes[task.episodeId]? = some row ∧ row.phase.terminal = false

variable {t : Recovered}

theorem tasks_of_recoverEpisodes {records : List RecoveryEpisode} {s : Recovered}
    (ran : records.foldlM (recoverEpisode sha256Hex) s = .ok t) :
    t.tasks = s.tasks ++ records.filterMap RecoveryEpisode.task := by
  induction records generalizing s with
  | nil =>
    obtain rfl : s = t := by simpa [pure, Except.pure] using ran
    simp
  | cons record rest ih =>
    obtain ⟨middle, first, ran⟩ := foldlM_cons_eq_ok.mp ran
    have later := ih ran
    rcases recoverEpisode_cases first with
      ⟨dispatch, latest, _, rfl⟩ | ⟨undispatched, phase, rfl⟩ | ⟨undispatched, phase, rfl⟩
    · simp [later, RecoveryEpisode.task, latest]
    · simp [later, RecoveryEpisode.task, undispatched, phase]
    · simp [later, RecoveryEpisode.task, undispatched, phase]

theorem tasks_of_recoverAgentJobs {records : List RecoveryAgentJob} {s : Recovered}
    (ran : records.foldlM (recoverAgentJob sha256Hex) s = .ok t) :
    t.tasks = s.tasks ++ records.map .agentWait := by
  induction records generalizing s with
  | nil =>
    obtain rfl : s = t := by simpa [pure, Except.pure] using ran
    simp
  | cons record rest ih =>
    obtain ⟨middle, first, ran⟩ := foldlM_cons_eq_ok.mp ran
    obtain ⟨_, _, _, spawned⟩ := recoverAgentJob_cases first
    simp [ih ran, spawned]

theorem tasks_of_recoverState {state : Recovered}
    (recovered : recoverState sha256Hex db = .ok state) :
    state.tasks = db.loadRecovery.filterMap RecoveryEpisode.task ++
      db.loadAgentRecovery.map .agentWait := by
  obtain ⟨s, episodes, jobs⟩ := recoverState_cases recovered
  rw [tasks_of_recoverAgentJobs jobs, tasks_of_recoverEpisodes episodes]
  rfl

/-- A wait owns its entry from the start. -/
def Recovered.Entered (s : Recovered) : Prop :=
  ∀ task ∈ s.tasks, (∃ request, task = .submission request) ∨ task.episodeId ∈ s.coordinator

theorem Recovered.Entered.append {s : Recovered} (entered : s.Entered) {task : RecoveryTask}
    {checksum : String} (spawned : t.tasks = s.tasks ++ [task])
    (coordinator : t.coordinator = s.coordinator.insert task.episodeId checksum) : t.Entered := by
  intro other listed
  rw [spawned] at listed
  rw [coordinator]
  rcases List.mem_append.mp listed with before | new
  · rcases entered other before with submission | owns
    · exact Or.inl submission
    · exact Or.inr (Std.ExtTreeMap.mem_insert.mpr (Or.inr owns))
  · obtain rfl := List.mem_singleton.mp new
    exact Or.inr (Std.ExtTreeMap.mem_insert.mpr (Or.inl (Std.compare_eq_iff_eq.mpr rfl)))

theorem entered_of_recoverState {state : Recovered}
    (recovered : recoverState sha256Hex db = .ok state) : state.Entered := by
  obtain ⟨s, episodes, jobs⟩ := recoverState_cases recovered
  have middle : s.Entered := by
    refine foldlM_invariant ?_ ?_ episodes
    · intro u record _ t entered ran
      rcases recoverEpisode_cases ran with ⟨dispatch, _, _, rfl⟩ | ⟨_, _, rfl⟩ | ⟨_, _, rfl⟩
      · exact entered.append rfl rfl
      · exact entered
      · intro task listed
        rcases List.mem_append.mp listed with before | new
        · exact entered task before
        · exact Or.inl ⟨record.request, List.mem_singleton.mp new⟩
    · intro task listed
      cases listed
  refine foldlM_invariant ?_ middle jobs
  intro u record _ t entered ran
  obtain ⟨_, coordinator, _, spawned⟩ := recoverAgentJob_cases ran
  exact entered.append spawned coordinator

theorem Recovered.Entered.started {s : Recovered} (entered : s.Entered) {task : RecoveryTask}
    (listed : task ∈ s.tasks) : task.episodeId ∈ s.started sha256Hex := by
  have along : ∀ (tasks : List RecoveryTask) (c : Coordinator),
      (task ∈ tasks ∧ (∃ request, task = .submission request)) ∨ task.episodeId ∈ c →
      task.episodeId ∈ tasks.foldl (startSubmission sha256Hex) c := by
    intro tasks
    induction tasks with
    | nil =>
      rintro c (⟨impossible, _⟩ | present)
      · cases impossible
      · exact present
    | cons first rest ih =>
      rintro c (⟨listed, request, same⟩ | present)
      · rcases List.mem_cons.mp listed with rfl | later
        · apply ih
          rw [same]
          exact Or.inr (mem_startSubmission c request)
        · exact ih _ (Or.inl ⟨later, request, same⟩)
      · obtain ⟨checksum, entry⟩ := (mem_iff_lookup _ _).mp present
        apply ih
        exact Or.inr ((mem_iff_lookup _ _).mpr
          ⟨checksum, startSubmission_extends c first _ checksum entry⟩)
  rcases entered task listed with submission | owns
  · exact along s.tasks s.coordinator (Or.inl ⟨listed, submission⟩)
  · exact along s.tasks s.coordinator (Or.inr owns)

theorem RecoveryEpisode.task_episodeId {record : RecoveryEpisode} {task : RecoveryTask}
    (spawned : record.task = some task) : task.episodeId = record.request.episodeId := by
  unfold RecoveryEpisode.task at spawned
  split at spawned
  · cases spawned
    rfl
  · split at spawned
    · cases spawned
    · cases spawned
      rfl

theorem RecoveryEpisode.tasks_sublist (records : List RecoveryEpisode) :
    ((records.filterMap RecoveryEpisode.task).map RecoveryTask.episodeId).Sublist
      (records.map fun record => record.request.episodeId) := by
  induction records with
  | nil => exact List.Sublist.refl _
  | cons record rest ih =>
    cases spawned : record.task with
    | none =>
      rw [List.filterMap_cons_none spawned, List.map_cons]
      exact ih.cons _
    | some =>
      rw [List.filterMap_cons_some spawned, List.map_cons, List.map_cons,
        RecoveryEpisode.task_episodeId spawned]
      exact ih.cons_cons _

/-- Before the episodes in `rest`: their entries are vacant, and only dispatched episodes have
one. -/
structure EpisodesAhead (db : Db) (s : Recovered) (rest : List RecoveryEpisode) : Prop where
  distinct : (rest.map fun record => record.request.episodeId).Nodup
  listed : ∀ record ∈ rest, record ∈ db.loadRecovery
  vacant : ∀ record ∈ rest, s.coordinator[record.request.episodeId]? = none
  entered : ∀ id ∈ s.coordinator, db.Dispatched id

/-- Before the jobs in `rest`: the entries of their episodes are vacant. -/
structure JobsAhead (db : Db) (s : Recovered) (rest : List RecoveryAgentJob) : Prop where
  distinct : (rest.map fun record => record.request.episodeId).Nodup
  listed : ∀ record ∈ rest, record ∈ db.loadAgentRecovery
  vacant : ∀ record ∈ rest, s.coordinator[record.request.episodeId]? = none

namespace Db.Recoverable

variable (recoverable : db.Recoverable sha256Hex)

include recoverable

/-- An unfinished episode that is not in an agent's hands and has no dispatch is queued. -/
theorem phase_of_undispatched {id : String} {row : EpisodeRow}
    (present : db.episodes[id]? = some row)
    (active : row.phase.terminal = false) (undispatched : ¬ db.Dispatched id) :
    row.phase = .agentDispatched ∨ row.phase = .queued := by
  cases phase : row.phase with
  | queued => exact Or.inr rfl
  | agentDispatched => exact Or.inl rfl
  | dispatchIntent =>
    exact absurd (recoverable.dispatched id row present (Or.inl phase)) undispatched
  | dispatched => exact absurd (recoverable.dispatched id row present (Or.inr phase)) undispatched
  | completed | failed | cancelled | timedOut =>
    rw [phase] at active
    cases active

variable {record : RecoveryEpisode}

theorem recoverEpisode_succeeds {s : Recovered} (listed : record ∈ db.loadRecovery)
    (vacant : s.coordinator[record.request.episodeId]? = none) :
    ∃ t, recoverEpisode sha256Hex s record = .ok t := by
  obtain ⟨id, row, present, active, rfl⟩ := mem_loadRecovery.mp listed
  obtain ⟨named, checksum, _⟩ := recoverable.sound id row present
  have intact : ¬ requestChecksum sha256Hex (db.recoveryEpisodeOf row).request ≠
      (db.recoveryEpisodeOf row).requestChecksum := not_ne_iff.mpr checksum.symm
  unfold recoverEpisode
  rw [if_neg intact]
  cases latest : (db.recoveryEpisodeOf row).dispatch with
  | some dispatch =>
    have owned : s.coordinator.getOrInsert (redispatched row.request dispatch).episodeId
        (requestChecksum sha256Hex (redispatched row.request dispatch)) = .ok (true, _) :=
      Coordinator.getOrInsert_of_vacant vacant
    exact ⟨_, bind_eq_ok.mpr ⟨_, owned, rfl⟩⟩
  | none =>
    have undispatched : ¬ db.Dispatched id := by
      rw [← loadLatestDispatch_eq_none_iff, ← named]
      exact latest
    rcases recoverable.phase_of_undispatched present active undispatched with phase | phase
    · exact ⟨s, if_pos phase⟩
    · refine ⟨{ s with tasks := s.tasks ++ [.submission row.request] }, ?_⟩
      have other : (db.recoveryEpisodeOf row).phase ≠ .agentDispatched := by
        intro agent
        cases phase.symm.trans agent
      exact (if_neg other).trans (if_neg (not_ne_iff.mpr phase))

theorem recoverAgentJob_succeeds {s : Recovered} {record : RecoveryAgentJob}
    (listed : record ∈ db.loadAgentRecovery)
    (vacant : s.coordinator[record.request.episodeId]? = none) :
    ∃ t, recoverAgentJob sha256Hex s record = .ok t := by
  obtain ⟨jobId, job, _, _, joined⟩ := mem_loadAgentRecovery.mp listed
  obtain ⟨row, present, request, stored, _⟩ := mem_agentRecoveryOf joined
  have checksum := (recoverable.sound job.episodeId row present).2.1
  have intact : ¬ requestChecksum sha256Hex record.request ≠ record.requestChecksum := by
    rw [not_ne_iff, request, stored, checksum]
  unfold recoverAgentJob
  rw [if_neg intact]
  have owned : s.coordinator.getOrInsert record.request.episodeId record.requestChecksum =
      .ok (true, _) := Coordinator.getOrInsert_of_vacant vacant
  exact ⟨_, bind_eq_ok.mpr ⟨_, owned, rfl⟩⟩

/-- The episode of an open job is in an agent's hands and was not handed to a worker. -/
theorem episode_of_agentRecovery {record : RecoveryAgentJob}
    (listed : record ∈ db.loadAgentRecovery) :
    ∃ row : EpisodeRow, db.episodes[record.request.episodeId]? = some row ∧
      row.phase = .agentDispatched ∧ ¬ db.Dispatched record.request.episodeId := by
  obtain ⟨jobId, job, present, opened, joined⟩ := mem_loadAgentRecovery.mp listed
  obtain ⟨row, found, phase⟩ := recoverable.jobs jobId job present opened
  obtain ⟨row', found', request, _⟩ := mem_agentRecoveryOf joined
  have named : record.request.episodeId = job.episodeId := by
    rw [request]
    exact (recoverable.sound job.episodeId row' found').1
  rw [named]
  exact ⟨row, found, phase, (recoverable.agent job.episodeId row found phase).1⟩

theorem episodesAhead_start : EpisodesAhead db {} db.loadRecovery where
  distinct := nodup_loadRecovery recoverable.sound
  listed := fun _ listed => listed
  vacant := fun _ _ => Std.ExtTreeMap.getElem?_empty
  entered := fun _ member => absurd member Std.ExtTreeMap.not_mem_empty

theorem episodesAhead_step {s : Recovered} {rest : List RecoveryEpisode}
    (ahead : EpisodesAhead db s (record :: rest)) :
    ∃ t, recoverEpisode sha256Hex s record = .ok t ∧ EpisodesAhead db t rest := by
  have listed := ahead.listed record List.mem_cons_self
  obtain ⟨fresh, distinct⟩ := List.nodup_cons.mp ahead.distinct
  obtain ⟨t, ran⟩ :=
    recoverable.recoverEpisode_succeeds listed (ahead.vacant record List.mem_cons_self)
  have later : ∀ other ∈ rest, other ∈ db.loadRecovery := fun other member =>
    ahead.listed other (List.mem_cons_of_mem _ member)
  have vacant : ∀ other ∈ rest, s.coordinator[other.request.episodeId]? = none :=
    fun other member => ahead.vacant other (List.mem_cons_of_mem _ member)
  refine ⟨t, ran, ?_⟩
  rcases recoverEpisode_cases ran with ⟨dispatch, latest, _, rfl⟩ | ⟨_, _, rfl⟩ | ⟨_, _, rfl⟩
  · refine ⟨distinct, later, ?_, ?_⟩
    · intro other member
      rw [lookup_insert, if_neg, vacant other member]
      intro same
      exact fresh (List.mem_map.mpr ⟨other, member, same.symm⟩)
    · intro id member
      rw [Std.ExtTreeMap.mem_insert, Std.compare_eq_iff_eq] at member
      rcases member with rfl | before
      · obtain ⟨id, row, present, _, rfl⟩ := mem_loadRecovery.mp listed
        by_contra undispatched
        have none_ : (db.recoveryEpisodeOf row).dispatch = none :=
          (loadLatestDispatch_eq_none_iff _).mpr undispatched
        rw [none_] at latest
        cases latest
      · exact ahead.entered id before
  · exact ⟨distinct, later, vacant, ahead.entered⟩
  · exact ⟨distinct, later, vacant, ahead.entered⟩

theorem jobsAhead_start {s : Recovered} (ahead : EpisodesAhead db s []) :
    JobsAhead db s db.loadAgentRecovery := by
  refine ⟨recoverable.nodup_loadAgentRecovery, fun _ listed => listed, ?_⟩
  intro record listed
  obtain ⟨_, _, _, undispatched⟩ := recoverable.episode_of_agentRecovery listed
  by_contra taken
  obtain ⟨checksum, entry⟩ := Option.ne_none_iff_exists'.mp taken
  exact undispatched (ahead.entered _ ((mem_iff_lookup _ _).mpr ⟨checksum, entry⟩))

theorem jobsAhead_step {s : Recovered} {record : RecoveryAgentJob} {rest : List RecoveryAgentJob}
    (ahead : JobsAhead db s (record :: rest)) :
    ∃ t, recoverAgentJob sha256Hex s record = .ok t ∧ JobsAhead db t rest := by
  obtain ⟨fresh, distinct⟩ := List.nodup_cons.mp ahead.distinct
  obtain ⟨t, ran⟩ := recoverable.recoverAgentJob_succeeds
    (ahead.listed record List.mem_cons_self) (ahead.vacant record List.mem_cons_self)
  refine ⟨t, ran, distinct,
    fun other member => ahead.listed other (List.mem_cons_of_mem _ member), ?_⟩
  intro other member
  rw [(recoverAgentJob_cases ran).2.1, lookup_insert, if_neg,
    ahead.vacant other (List.mem_cons_of_mem _ member)]
  intro same
  exact fresh (List.mem_map.mpr ⟨other, member, same.symm⟩)

/-- None of the errors of `recover_state` occurs. -/
theorem recoverState_succeeds : ∃ state, recoverState sha256Hex db = .ok state := by
  have episodes : ∃ s, db.loadRecovery.foldlM (recoverEpisode sha256Hex) {} = .ok s ∧
      EpisodesAhead db s [] :=
    foldlM_succeeds (motive := EpisodesAhead db)
      (fun _ _ _ ahead => recoverable.episodesAhead_step ahead) recoverable.episodesAhead_start
  obtain ⟨s, episodes, ahead⟩ := episodes
  have jobs : ∃ t, db.loadAgentRecovery.foldlM (recoverAgentJob sha256Hex) s = .ok t ∧
      JobsAhead db t [] :=
    foldlM_succeeds (motive := JobsAhead db)
      (fun _ _ _ ahead => recoverable.jobsAhead_step ahead) (recoverable.jobsAhead_start ahead)
  obtain ⟨state, jobs, _⟩ := jobs
  exact ⟨state, bind_eq_ok.mpr ⟨s, episodes, jobs⟩⟩

theorem task_not_agent {task : RecoveryTask} (listed : record ∈ db.loadRecovery)
    (spawned : record.task = some task) {job : RecoveryAgentJob}
    (open_ : job ∈ db.loadAgentRecovery) : task.episodeId ≠ job.request.episodeId := by
  intro same
  obtain ⟨id, row, present, _, rfl⟩ := mem_loadRecovery.mp listed
  have named := (recoverable.sound id row present).1
  obtain ⟨row', present', phase, undispatched⟩ := recoverable.episode_of_agentRecovery open_
  have here : task.episodeId = id := (RecoveryEpisode.task_episodeId spawned).trans named
  rw [← same, here] at present' undispatched
  obtain rfl : row' = row := Option.some.inj (present'.symm.trans present)
  rw [← loadLatestDispatch_eq_none_iff, ← named] at undispatched
  unfold RecoveryEpisode.task at spawned
  rw [show (db.recoveryEpisodeOf row').dispatch = none from undispatched] at spawned
  rw [show (db.recoveryEpisodeOf row').phase = .agentDispatched from phase] at spawned
  cases spawned

theorem task_of_unfinished {id : String} {row : EpisodeRow} (present : db.episodes[id]? = some row)
    (active : row.phase.terminal = false) :
    ∃ task ∈ db.loadRecovery.filterMap RecoveryEpisode.task ++ db.loadAgentRecovery.map .agentWait,
      task.episodeId = id ∧ task.Continues db row := by
  have named := (recoverable.sound id row present).1
  have listed : db.recoveryEpisodeOf row ∈ db.loadRecovery :=
    mem_loadRecovery.mpr ⟨id, row, present, active, rfl⟩
  cases latest : db.loadLatestDispatch id with
  | some dispatch =>
    have spawned : (db.recoveryEpisodeOf row).task =
        some (.nativeWait (redispatched row.request dispatch) dispatch) := by
      unfold RecoveryEpisode.task recoveryEpisodeOf
      rw [named, latest]
    refine ⟨_, List.mem_append_left _ (List.mem_filterMap.mpr ⟨_, listed, spawned⟩), named, ?_⟩
    refine ⟨?_, rfl⟩
    rw [named]
    exact latest
  | none =>
    have undispatched := (loadLatestDispatch_eq_none_iff id).mp latest
    rcases recoverable.phase_of_undispatched present active undispatched with phase | phase
    · obtain ⟨job, found, here, opened⟩ := (recoverable.agent id row present phase).2
      obtain ⟨record, single, recordNamed⟩ := recoverable.agentRecoveryOf found opened
      have joined : record ∈ db.agentRecoveryOf job := by
        rw [single]
        exact List.mem_cons_self
      obtain ⟨row', present', request, _, sameJob, _, _, _, deadline⟩ := mem_agentRecoveryOf joined
      rw [here] at present' recordNamed
      obtain rfl : row' = row := Option.some.inj (present'.symm.trans present)
      have recovered : record ∈ db.loadAgentRecovery :=
        mem_loadAgentRecovery.mpr ⟨_, job, found, opened, joined⟩
      refine ⟨.agentWait record, List.mem_append_right _ (List.mem_map_of_mem recovered),
        recordNamed, request, job, ?_, opened, sameJob, deadline⟩
      rw [named]
      exact found
    · have spawned : (db.recoveryEpisodeOf row).task = some (.submission row.request) := by
        unfold RecoveryEpisode.task recoveryEpisodeOf
        rw [named, latest]
        simp only [phase, reduceCtorEq, if_false]
      exact ⟨_, List.mem_append_left _ (List.mem_filterMap.mpr ⟨_, listed, spawned⟩), named, rfl⟩

/-- The recovery of a recoverable database leaves exactly one task for each unfinished episode. -/
theorem exact {state : Recovered} (recovered : recoverState sha256Hex db = .ok state) :
    state.Exact sha256Hex db := by
  have tasks := tasks_of_recoverState recovered
  refine ⟨?_, ?_, ?_⟩
  · rw [tasks, List.map_append, List.nodup_append]
    refine ⟨?_, ?_, ?_⟩
    · exact (nodup_loadRecovery recoverable.sound).sublist (RecoveryEpisode.tasks_sublist _)
    · rw [List.map_map]
      exact recoverable.nodup_loadAgentRecovery
    · intro id fromEpisodes other fromJobs same
      obtain ⟨task, listed, rfl⟩ := List.mem_map.mp fromEpisodes
      obtain ⟨record, listed, spawned⟩ := List.mem_filterMap.mp listed
      obtain ⟨agent, listed', rfl⟩ := List.mem_map.mp fromJobs
      obtain ⟨job, open_, rfl⟩ := List.mem_map.mp listed'
      exact recoverable.task_not_agent listed spawned open_ same
  · intro id row present active
    obtain ⟨task, listed, named, continues⟩ := recoverable.task_of_unfinished present active
    rw [← tasks] at listed
    refine ⟨task, listed, named, continues, ?_⟩
    rw [← named]
    exact (entered_of_recoverState recovered).started listed
  · intro task listed
    rw [tasks] at listed
    rcases List.mem_append.mp listed with fromEpisodes | fromJobs
    · obtain ⟨record, listed, spawned⟩ := List.mem_filterMap.mp fromEpisodes
      obtain ⟨id, row, present, active, rfl⟩ := mem_loadRecovery.mp listed
      have named := (recoverable.sound id row present).1
      rw [RecoveryEpisode.task_episodeId spawned]
      exact ⟨row, by rw [← present, ← named]; rfl, active⟩
    · obtain ⟨job, open_, rfl⟩ := List.mem_map.mp fromJobs
      obtain ⟨row, present, phase, _⟩ := recoverable.episode_of_agentRecovery open_
      exact ⟨row, present, by rw [phase]; rfl⟩

end Db.Recoverable

end UEnv.Persistence
