import UEnv.Persistence.Resubmission
import UEnv.Server.Growth

/-!
# Restarts

The invariant that the runs of a server keep across crashes, and the database that a stopped
server leaves. The owner of an episode is described against the row of the episode; a command
changes the rows, and a step of the owner changes its entry.
-/

namespace UEnv

open Proto Wire Persistence Tables Fallible Service Runs

namespace Persistence.Db

/-- What an owner relies on: the row of its episode selects the same backend, an owner that talks
to a worker is native, and an owner that has not queued its job finds the episode unfinished or
the job queued by an owner before it. -/
structure Supports (specs : AgentSpecs) (db : Db) (id : String) (run : Execution) : Prop where
  stored : ∃ row : EpisodeRow, db.episodes[id]? = some row ∧
    specs.selectExecutionBackend row.request = specs.selectExecutionBackend run.request
  worker : run.stage = .dispatched ∨ run.stage = .nativeWait →
    specs.selectExecutionBackend run.request = .native
  begun : run.stage = .begun → specs.selectExecutionBackend run.request = .sweAgent →
    (∃ row : EpisodeRow, db.episodes[id]? = some row ∧ row.phase.terminal = false) ∨
      jobIdOf id ∈ db.agentJobs

/-- The stored request of an episode selects the native backend. -/
def IsNative (specs : AgentSpecs) (db : Db) (id : String) : Prop :=
  ∃ row : EpisodeRow, db.episodes[id]? = some row ∧
    specs.selectExecutionBackend row.request = .native

variable {db db' : Db} {specs : AgentSpecs} {ends : String → Prop} {id : String}

theorem Supports.grows {run : Execution} (supports : db.Supports specs id run)
    (grows : Grows ends db db')
    (harmless : ends id → db.IsNative specs id ∨ jobIdOf id ∈ db.agentJobs) :
    db'.Supports specs id run := by
  obtain ⟨row, present, same⟩ := supports.stored
  obtain ⟨row', present', request, ended⟩ := grows.episodes id row present
  refine ⟨⟨row', present', ?_⟩, supports.worker, ?_⟩
  · rw [request]
    exact same
  · intro stage swe
    rcases supports.begun stage swe with ⟨found, here, active⟩ | queued
    · obtain rfl : row = found := Option.some.inj (present.symm.trans here)
      cases terminal : row'.phase.terminal with
      | false => exact Or.inl ⟨row', present', terminal⟩
      | true =>
        rcases ended terminal with before | now
        · rw [active] at before
          cases before
        · rcases harmless now with ⟨_, here', native⟩ | queued
          · obtain rfl : row = _ := Option.some.inj (present.symm.trans here')
            cases native.symm.trans (same.trans swe)
          · exact Or.inr (grows.jobs _ queued)
    · exact Or.inr (grows.jobs _ queued)

theorem Supports.mem {run : Execution} (supports : db.Supports specs id run) :
    id ∈ db.episodes := by
  obtain ⟨row, present, _⟩ := supports.stored
  exact (mem_iff_lookup _ _).mpr ⟨row, present⟩

theorem IsNative.grows (native : db.IsNative specs id) (grows : Grows ends db db') :
    db'.IsNative specs id := by
  obtain ⟨row, present, selects⟩ := native
  obtain ⟨row', present', request, _⟩ := grows.episodes id row present
  refine ⟨row', present', ?_⟩
  rw [request]
  exact selects

theorem Supports.selects {run : Execution} (supports : db.Supports specs id run) {row : EpisodeRow}
    (present : db.episodes[id]? = some row) :
    specs.selectExecutionBackend row.request = specs.selectExecutionBackend run.request := by
  obtain ⟨found, here, same⟩ := supports.stored
  obtain rfl : row = found := Option.some.inj (present.symm.trans here)
  exact same

theorem Supports.isNative {run : Execution} (supports : db.Supports specs id run)
    (worker : run.stage = .dispatched ∨ run.stage = .nativeWait) : db.IsNative specs id := by
  obtain ⟨row, present, same⟩ := supports.stored
  exact ⟨row, present, same.trans (supports.worker worker)⟩

theorem Supports.thins {run : Execution} (supports : db.Supports specs id run)
    (thins : Thins db db') (left : id ∈ db'.episodes)
    (named : ∀ job : AgentJobRow, db.agentJobs[jobIdOf id]? = some job → job.episodeId = id) :
    db'.Supports specs id run := by
  obtain ⟨row, stays⟩ := (mem_iff_lookup _ _).mp left
  have present := thins.episodes id row stays
  refine ⟨⟨row, stays, supports.selects present⟩, supports.worker, ?_⟩
  intro stage swe
  rcases supports.begun stage swe with ⟨found, here, active⟩ | queued
  · obtain rfl : row = found := Option.some.inj (present.symm.trans here)
    exact Or.inl ⟨row, stays, active⟩
  · obtain ⟨job, stored⟩ := (mem_iff_lookup _ _).mp queued
    rw [← named job stored] at left
    exact Or.inr ((mem_iff_lookup _ _).mpr ⟨job, thins.jobs _ job stored left⟩)

theorem IsNative.thins (native : db.IsNative specs id) (thins : Thins db db')
    (left : id ∈ db'.episodes) : db'.IsNative specs id := by
  obtain ⟨row, present, selects⟩ := native
  obtain ⟨row', stays⟩ := (mem_iff_lookup _ _).mp left
  obtain rfl : row = row' := Option.some.inj (present.symm.trans (thins.episodes id row' stays))
  exact ⟨row, stays, selects⟩

theorem IsNative.mem (native : db.IsNative specs id) : id ∈ db.episodes := by
  obtain ⟨row, present, _⟩ := native
  exact (mem_iff_lookup _ _).mpr ⟨row, present⟩

end Persistence.Db

namespace Server

variable {specs : AgentSpecs} {sha256Hex : Bytes → String} {s t : Server}

structure Invariant (specs : AgentSpecs) (sha256Hex : Bytes → String) (s : Server) : Prop where
  sound : s.db.Sound sha256Hex
  fits : s.db.Fits specs s.Closing
  runs : ∀ (id : String) (run : Execution), s.runs[id]? = some run → s.db.Supports specs id run
  reports : ∀ (t : Nat) (id : String), s.reports[t]? = some id → s.db.IsNative specs id
  down : s.up = false → s.runs = ∅ ∧ s.reports = ∅

namespace Invariant

variable {db' : Db} {answer : Except String Db} {slot : Nat} {now : Millis} {result : EpisodeResult}
  {code message : String} {task : RecoveryTask} {label : Label}

theorem withDb (inv : s.Invariant specs sha256Hex) {ends : String → Prop}
    (sound : db'.Sound sha256Hex) (fits : db'.Fits specs s.Closing) (grows : s.db.Grows ends db')
    (harmless : ∀ id ∈ s.db.episodes, ends id →
      s.db.IsNative specs id ∨ jobIdOf id ∈ s.db.agentJobs) :
    ({ s with db := db' } : Server).Invariant specs sha256Hex where
  sound := sound
  fits := fits
  runs := fun id run owned =>
    have supports := inv.runs id run owned
    supports.grows grows (harmless id supports.mem)
  reports := fun t id taken => (inv.reports t id taken).grows grows
  down := inv.down

theorem withDb_continues (inv : s.Invariant specs sha256Hex) (sound : db'.Sound sha256Hex)
    (fits : db'.Fits specs s.Closing) (kept : s.db.Continues db') :
    ({ s with db := db' } : Server).Invariant specs sha256Hex :=
  inv.withDb sound fits kept fun _ _ impossible => impossible.elim

theorem after (inv : s.Invariant specs sha256Hex)
    (kept : ∀ db', answer = .ok db' → ({ s with db := db' } : Server).Invariant specs sha256Hex) :
    (s.after answer).Invariant specs sha256Hex := by
  unfold Server.after
  cases answer with
  | ok db' => exact kept db' rfl
  | error e => exact inv

theorem closing_insert {id : String} {run : Execution}
    (free : ¬ s.Closing id ∨ run.stage = .agentClosed)
    {other : String} (held : s.Closing other) :
    ({ s with runs := s.runs.insert id run } : Server).Closing other := by
  obtain ⟨old, owned, stage⟩ := held
  by_cases same : id = other
  · subst same
    have closed : run.stage = .agentClosed := free.resolve_left fun working =>
      working ⟨old, owned, stage⟩
    exact ⟨run, by simp, closed⟩
  · exact ⟨old, by simp [same, owned], stage⟩

theorem setRun (inv : s.Invariant specs sha256Hex) (up : s.up = true) {id : String}
    {run : Execution} (free : ¬ s.Closing id ∨ run.stage = .agentClosed)
    (supports : s.db.Supports specs id run) :
    ({ s with runs := s.runs.insert id run } : Server).Invariant specs sha256Hex where
  sound := inv.sound
  fits := inv.fits.setClosing fun _ _ _ _ held => closing_insert free held
  runs := by
    intro other found owned
    rcases lookup_insert_cases owned with ⟨rfl, rfl⟩ | before
    · exact supports
    · exact inv.runs other found before
  reports := inv.reports
  down := by
    intro off
    cases up.symm.trans off

theorem dropRun (inv : s.Invariant specs sha256Hex) (up : s.up = true) {id : String}
    (free : ¬ (s.Closing id ∧ s.Unfinished id)) :
    ({ s with runs := s.runs.erase id } : Server).Invariant specs sha256Hex where
  sound := inv.sound
  fits := by
    refine inv.fits.setClosing ?_
    rintro other row present active ⟨run, owned, stage⟩
    have apart : id ≠ other := by
      rintro rfl
      exact free ⟨⟨run, owned, stage⟩, row, present, active⟩
    exact ⟨run, by simp [apart, owned], stage⟩
  runs := fun other run owned => inv.runs other run (lookup_of_erase owned)
  reports := inv.reports
  down := by
    intro off
    cases up.symm.trans off

theorem not_closing {id : String} {run : Execution} (owned : s.runs[id]? = some run)
    (working : run.stage ≠ .agentClosed) : ¬ s.Closing id := by
  rintro ⟨found, here, stage⟩
  obtain rfl : run = found := Option.some.inj (owned.symm.trans here)
  exact working stage

section

variable (inv : s.Invariant specs sha256Hex)
include inv

theorem lookup {deadlineAtMs : Millis} {uuid : Uuid} {clock : F64} {request : EpisodeRequest}
    (taken : s.lookup sha256Hex slot now deadlineAtMs uuid clock request = some t) :
    t.Invariant specs sha256Hex := by
  unfold Server.lookup at taken
  split at taken
  · cases taken
  · split at taken
    · cases taken
      exact inv
    · next prepared ready =>
      split at taken
      · cases taken
        exact inv
      · next answer db' found =>
        have handled : s.db.handleCommand sha256Hex now
            (.findOrCreateEpisode uuid clock request "sync" deadlineAtMs) = .ok db' :=
          bind_eq_ok.mpr ⟨prepared, ready, bind_eq_ok.mpr ⟨_, found, rfl⟩⟩
        have moved := inv.withDb_continues (inv.sound.handleCommand handled)
          (inv.fits.findOrCreateEpisode found) (Db.findOrCreateEpisode_continues found)
        split at taken
        · cases taken
          exact ⟨moved.sound, moved.fits, moved.runs, moved.reports, moved.down⟩
        · cases taken
          exact moved
        · cases taken
          exact moved

section

variable (up : s.up = true)
include up

theorem attach (covered : s.Covered specs (.attach slot)) (taken : s.attach slot = some t) :
    t.Invariant specs sha256Hex := by
  unfold Server.attach at taken
  split at taken
  · cases taken
  · next request looked =>
    have rest : ({ s with lookups := s.lookups.erase slot } : Server).Invariant specs sha256Hex :=
      ⟨inv.sound, inv.fits, inv.runs, inv.reports, inv.down⟩
    simp only at taken
    split at taken
    · cases taken
      exact rest
    · next vacant =>
      cases taken
      have free : s.runs[request.episodeId]? = none := by
        rw [contains_iff_lookup] at vacant
        exact Option.eq_none_iff_forall_not_mem.mpr fun run owned => vacant ⟨run, owned⟩
      obtain ⟨row, present, active, same⟩ :=
        covered request looked (by rw [free]; rfl)
      refine rest.setRun up (Or.inl ?_) ⟨⟨row, present, same⟩, ?_, ?_⟩
      · rintro ⟨run, owned, _⟩
        cases free.symm.trans owned
      · rintro (stage | stage)
        · cases stage
        · cases stage
      · exact fun _ _ => Or.inl ⟨row, present, active⟩

theorem advance {id : String} {backend : Backend} {stages : List Stage} {next : Stage}
    (working : .agentClosed ∉ stages)
    (worker : next = .dispatched ∨ next = .nativeWait → backend = .native)
    (begun : next = .begun → ∀ stage ∈ stages, stage = .begun)
    (kept : ∀ (run : Execution) (db' : Db), s.runs[id]? = some run → run.stage ∈ stages →
      specs.selectExecutionBackend run.request = backend → answer = .ok db' →
      db'.Sound sha256Hex ∧ db'.Fits specs s.Closing ∧ s.db.Continues db')
    (taken : s.advance specs id backend stages next answer = some t) :
    t.Invariant specs sha256Hex := by
  unfold Server.advance at taken
  split at taken
  · cases taken
  · next run owned =>
    split at taken
    · next selected =>
      obtain ⟨selects, stage⟩ := selected
      cases answer with
      | error e =>
        cases taken
        exact inv
      | ok db' =>
        cases taken
        obtain ⟨sound, fits, continues⟩ := kept run db' owned stage selects rfl
        have moved := inv.withDb_continues sound fits continues
        have supports := moved.runs id run owned
        refine moved.setRun up (Or.inl ?_) ⟨supports.stored, ?_, ?_⟩
        · apply not_closing owned
          intro closed
          rw [closed] at stage
          exact working stage
        · intro held
          rw [← worker held]
          exact selects
        · intro start swe
          exact supports.begun (begun start run.stage stage) swe
    · cases taken

theorem finish (jobless : ¬ s.db.HasOpenJob result.episodeId)
    (taken : s.finish sha256Hex now result code message = some t) :
    t.Invariant specs sha256Hex := by
  unfold Server.finish at taken
  split at taken
  · cases taken
  · next run owned =>
    split at taken
    · cases taken
    · cases taken
      obtain ⟨row, present, _⟩ := (inv.runs _ run owned).stored
      unfold Server.after
      cases committed : s.db.commitTerminal sha256Hex now result code message with
      | error e =>
        apply inv.dropRun up
        rintro ⟨_, found, here, active⟩
        cases active.symm.trans (Db.terminal_of_commitTerminal_error committed here)
      | ok db' =>
        -- the episode has ended and its entry leaves, whatever its owner was doing
        have grows := Db.commitTerminal_grows committed
        refine ⟨inv.sound.of_sameRequests (Db.commitTerminal_sameRequests committed), ?_, ?_, ?_,
          ?_⟩
        · refine inv.fits.commitTerminal committed jobless ?_
          rintro other apart ⟨closed, here, stage⟩
          exact ⟨closed, by simp [Ne.symm apart, here], stage⟩
        · intro other kept here
          rw [lookup_erase] at here
          split at here
          · cases here
          · next apart =>
            exact (inv.runs other kept here).grows grows fun same => absurd same.symm apart
        · exact fun slot other held => (inv.reports slot other held).grows grows
        · intro off
          cases up.symm.trans off

theorem closeJob {id : String} {phase : JobPhase} (taken : s.closeJob now id phase = some t) :
    t.Invariant specs sha256Hex := by
  unfold Server.closeJob at taken
  split at taken
  · cases taken
  · next run owned =>
    split at taken
    · cases taken
      have supports := inv.runs id run owned
      have closing : s.db.Supports specs id { run with stage := .agentClosed } := by
        refine ⟨supports.stored, ?_, ?_⟩
        · rintro (stage | stage)
          · cases stage
          · cases stage
        · intro stage
          cases stage
      have closed := inv.setRun up (Or.inr rfl) closing
      refine closed.withDb_continues ?_ ?_ (Db.markAgentJobTerminal_continues _ _)
      · exact inv.sound.of_sameRequests (Db.markAgentJobTerminal_sameRequests _ _)
      · refine closed.fits.markAgentJobTerminal (fun _ held => held) ?_
        exact ⟨{ run with stage := .agentClosed }, by simp, rfl⟩
    · cases taken

theorem takeReport {id : String} (taken : s.takeReport slot id = some t) :
    t.Invariant specs sha256Hex := by
  unfold Server.takeReport at taken
  split at taken
  · cases taken
  · next run owned =>
    split at taken
    · next ready =>
      cases taken
      refine ⟨inv.sound, inv.fits, inv.runs, ?_, ?_⟩
      · intro other named held
        rcases lookup_insert_cases held with ⟨rfl, rfl⟩ | before
        · exact (inv.runs _ run owned).isNative ready.1
        · exact inv.reports other named before
      · intro off
        cases up.symm.trans off
    · cases taken

theorem commitReport {idempotency : IdempotencyRecord}
    (taken : s.commitReport sha256Hex slot now result idempotency code message = some t) :
    t.Invariant specs sha256Hex := by
  unfold Server.commitReport at taken
  split at taken
  · next held =>
    have native := inv.reports slot _ held
    split at taken
    · next db' committed =>
      cases taken
      have fits := inv.fits.commitReportResult ?_ committed
      · have moved :=
          inv.withDb (inv.sound.of_sameRequests (Db.commitReportResult_sameRequests committed))
          fits (Db.commitReportResult_grows committed) (by rintro id _ rfl; exact Or.inl native)
        refine ⟨moved.sound, moved.fits, moved.runs, ?_, ?_⟩
        · exact fun other id kept => moved.reports other id (lookup_of_erase kept)
        · intro off
          cases up.symm.trans off
      · intro row present
        obtain ⟨found, here, selects⟩ := native
        obtain rfl : row = found := Option.some.inj (present.symm.trans here)
        exact selects
    · cases taken
      exact inv
  · cases taken

end

theorem completeJob {request : AgentJobCompleteRequest} {encoded : Bytes}
    (named : request.jobId = jobIdOf result.episodeId ∨ result = {}) :
    (s.after ((s.db.commitAgentCompletion sha256Hex now request encoded result).map
      Prod.snd)).Invariant specs sha256Hex := by
  refine inv.after ?_
  intro db' answered
  obtain ⟨answer, completed, rfl⟩ := map_eq_ok.mp answered
  have nameless : result = {} → result.episodeId ∉ s.db.episodes := by
    rintro rfl member
    obtain ⟨row, present⟩ := (mem_iff_lookup _ _).mp member
    obtain ⟨same, _, prepared⟩ := inv.sound _ row present
    exact prepared.named same
  refine inv.withDb (inv.sound.of_sameRequests (Db.commitAgentCompletion_sameRequests completed))
    (inv.fits.commitAgentCompletion (named.imp_right nameless) completed)
    (Db.commitAgentCompletion_grows completed) ?_
  rintro id member ⟨rfl, known⟩
  rcases named with job | default
  · exact Or.inr (job ▸ known)
  · exact absurd member (nameless default)

theorem sweep {terminalCutoffMs idempotencyCutoffMs : Millis} {maxCompletedEntries : Nat}
    (covered : s.Covered specs (.sweep terminalCutoffMs idempotencyCutoffMs maxCompletedEntries)) :
    ({ s with
      db := s.db.sweep terminalCutoffMs idempotencyCutoffMs maxCompletedEntries } :
      Server).Invariant specs sha256Hex where
  sound := inv.sound.of_sameRequests (Db.sweep_sameRequests _ _ _)
  fits := inv.fits.sweep _ _ _
  runs := by
    intro id run owned
    have supports := inv.runs id run owned
    have owner : id ∈ s.runs := (mem_iff_lookup _ _).mpr ⟨run, owned⟩
    exact supports.thins (Db.sweep_thins _ _ _) (covered id (Or.inl owner) supports.mem)
      fun _ => inv.fits.job_named
  reports := by
    intro slot id held
    have native := inv.reports slot id held
    exact native.thins (Db.sweep_thins _ _ _) (covered id (Or.inr ⟨slot, held⟩) native.mem)
  down := inv.down

theorem crash (covered : s.Covered specs .crash) :
    ({ db := s.db, up := false } : Server).Invariant specs sha256Hex where
  sound := inv.sound
  fits := inv.fits.setClosing fun id row present active held =>
    absurd ⟨held, row, present, active⟩ (covered id)
  runs := by
    intro id run owned
    simp at owned
  reports := by
    intro slot id held
    simp at held
  down := fun _ => ⟨rfl, rfl⟩

theorem idle (stopped : s.up = false) (id : String) : ¬ s.Closing id := by
  rintro ⟨run, owned, _⟩
  rw [(inv.down stopped).1] at owned
  simp at owned

theorem recoverable (stopped : s.up = false) : s.db.Recoverable sha256Hex where
  sound := inv.sound
  keyed := fun jobId row present => (inv.fits.jobOwner jobId row present).1
  queued := fun id row present phase => ((inv.fits.shaped id row present).queued phase).1
  dispatched := fun id row present phase => (inv.fits.shaped id row present).dispatched phase
  agent := by
    intro id row present phase
    have shaped := inv.fits.shaped id row present
    obtain ⟨job, stored, held⟩ := shaped.agent phase
    have opened : job.Open := held.resolve_right (inv.idle stopped id)
    exact ⟨(shaped.phase_of_open stored opened).2, job, stored, inv.fits.job_named stored, opened⟩
  jobs := by
    intro jobId row present opened
    obtain ⟨keyed, owner⟩ := inv.fits.jobOwner jobId row present
    obtain ⟨episode, found⟩ := (mem_iff_lookup _ _).mp owner
    rw [keyed] at present
    exact ⟨episode, found, ((inv.fits.shaped _ episode found).phase_of_open present opened).1⟩
  sessions := by
    intro id
    have same := inv.fits.sessions id
    have distinct : (s.db.openSessions id).Pairwise fun a b => a.1 ≠ b.1 := by
      unfold Db.openSessions
      apply List.Pairwise.filter
      refine Std.ExtTreeMap.distinct_keys_toList.imp ?_
      intro a b apart equal
      exact apart (Std.compare_eq_iff_eq.mpr equal)
    match s.db.openSessions id, same, distinct with
    | [], _, _ => exact Nat.zero_le 1
    | [_], _, _ => exact Nat.le_refl 1
    | a :: b :: rest, same, distinct =>
      have apart := (List.pairwise_cons.mp distinct).1 b List.mem_cons_self
      exact absurd (same a List.mem_cons_self b (List.mem_cons_of_mem _ List.mem_cons_self)) apart

end

/-- The owner that a recovery makes of a task. -/
def Owner (task : RecoveryTask) (id : String) (run : Execution) : Prop :=
  match task with
  | .nativeWait request _ => id = request.episodeId ∧ run = { request, stage := .nativeWait }
  | .agentWait record =>
    id = record.request.episodeId ∧ run = { request := record.request, stage := .agentWait }
  | .submission _ => False

theorem owner_of_recoveredRun {runs : Table Execution} {id : String} {run : Execution}
    (owned : (recoveredRun runs task)[id]? = some run) :
    Owner task id run ∨ runs[id]? = some run := by
  cases task with
  | nativeWait => exact lookup_insert_cases owned
  | agentWait => exact lookup_insert_cases owned
  | submission => exact Or.inr owned

theorem owner_of_recovered (tasks : List RecoveryTask) {runs : Table Execution} {id : String}
    {run : Execution} (owned : (tasks.foldl recoveredRun runs)[id]? = some run) :
    (∃ task ∈ tasks, Owner task id run) ∨ runs[id]? = some run := by
  induction tasks generalizing runs with
  | nil => exact Or.inr owned
  | cons task rest ih =>
    rcases ih owned with ⟨later, listed, owner⟩ | before
    · exact Or.inl ⟨later, List.mem_cons_of_mem _ listed, owner⟩
    · exact (owner_of_recoveredRun before).imp_left fun owner => ⟨task, List.mem_cons_self, owner⟩

section

variable (inv : s.Invariant specs sha256Hex)
include inv

theorem recovered_supports {state : Recovered} (recovered : recoverState sha256Hex s.db = .ok state)
    (listed : task ∈ state.tasks) {id : String} {run : Execution} (owner : Owner task id run) :
    s.db.Supports specs id run ∧ run.stage ≠ .agentClosed := by
  rw [tasks_of_recoverState recovered] at listed
  rcases List.mem_append.mp listed with fromEpisodes | fromJobs
  · obtain ⟨record, loaded, spawned⟩ := List.mem_filterMap.mp fromEpisodes
    obtain ⟨key, row, present, _, rfl⟩ := Db.mem_loadRecovery.mp loaded
    have named := (inv.sound key row present).1
    unfold RecoveryEpisode.task at spawned
    split at spawned
    · next dispatch latest =>
      cases spawned
      obtain ⟨rfl, rfl⟩ := owner
      have dispatched : s.db.Dispatched row.request.episodeId := by
        by_contra undispatched
        cases latest.symm.trans ((Db.loadLatestDispatch_eq_none_iff _).mpr undispatched)
      rw [← named] at present
      have native := (inv.fits.shaped _ row present).native dispatched
      -- the request of the wait differs from the stored one in the attempt only
      exact ⟨⟨⟨row, present, rfl⟩, fun _ => native, nofun⟩, nofun⟩
    · split at spawned
      · cases spawned
      · cases spawned
        cases owner
  · obtain ⟨record, loaded, rfl⟩ := List.mem_map.mp fromJobs
    obtain ⟨rfl, rfl⟩ := owner
    obtain ⟨jobId, job, _, _, joined⟩ := Db.mem_loadAgentRecovery.mp loaded
    obtain ⟨row, present, request, _⟩ := Db.mem_agentRecoveryOf joined
    have named := (inv.sound _ row present).1
    rw [← named, ← request] at present
    refine ⟨⟨⟨row, present, by rw [request]⟩, ?_, nofun⟩, nofun⟩
    rintro (stage | stage)
    · cases stage
    · cases stage

theorem recover (stopped : s.up = false) (taken : s.recover sha256Hex = some t) :
    t.Invariant specs sha256Hex := by
  unfold Server.recover at taken
  split at taken
  · next state recovered =>
    cases taken
    have owners : ∀ (id : String) (run : Execution),
        (state.tasks.foldl recoveredRun ∅)[id]? = some run →
        s.db.Supports specs id run ∧ run.stage ≠ .agentClosed := by
      intro id run owned
      rcases owner_of_recovered state.tasks owned with ⟨task, listed, owner⟩ | impossible
      · exact inv.recovered_supports recovered listed owner
      · simp at impossible
    refine ⟨inv.sound, ?_, fun id run owned => (owners id run owned).1, ?_, nofun⟩
    · exact inv.fits.setClosing fun id _ _ _ held => absurd held (inv.idle stopped id)
    · intro slot id held
      simp at held
  · cases taken

theorem act (up : s.up = true) (covered : s.Covered specs label)
    (taken : s.act specs sha256Hex label = some t) : t.Invariant specs sha256Hex := by
  cases label with
  | lookup =>
    simp only [Server.act] at taken
    exact inv.lookup taken
  | attach =>
    simp only [Server.act] at taken
    exact inv.attach up covered taken
  | putIntent =>
    simp only [Server.act] at taken
    apply inv.advance up ?_ ?_ ?_ ?_ taken
    · decide
    · exact fun _ => rfl
    · exact nofun
    · intro run db' owned _ selects put
      refine ⟨inv.sound.of_sameRequests (Db.putDispatchIntent_sameRequests put),
        inv.fits.putDispatchIntent ?_ put, Db.putDispatchIntent_continues put⟩
      exact fun row present => ((inv.runs _ run owned).selects present).trans selects
  | markAccepted =>
    simp only [Server.act] at taken
    cases taken
    refine inv.after ?_
    intro db' marked
    exact inv.withDb_continues
      (inv.sound.of_sameRequests (Db.markDispatchAccepted_sameRequests marked))
      (inv.fits.markDispatchAccepted marked) (Db.markDispatchAccepted_continues marked)
  | openSession =>
    simp only [Server.act] at taken
    apply inv.advance up ?_ ?_ ?_ ?_ taken
    · decide
    · rintro (stage | stage)
      · cases stage
      · cases stage
    · intro _ stage member
      exact List.mem_singleton.mp member
    · intro _ db' _ _ _ upserted
      exact ⟨inv.sound.of_sameRequests (Db.upsertGatewaySession_sameRequests upserted),
        inv.fits.upsertGatewaySession covered upserted, Db.upsertGatewaySession_continues upserted⟩
  | enqueueJob now poolId job deadlineAtMs =>
    simp only [Server.act] at taken
    split at taken
    · next keyed =>
      apply inv.advance up ?_ ?_ ?_ ?_ taken
      · decide
      · rintro (stage | stage)
        · cases stage
        · cases stage
      · exact nofun
      · intro run db' owned stage selects enqueued
        have begun : run.stage = .begun := List.mem_singleton.mp stage
        have supports := inv.runs _ run owned
        refine ⟨inv.sound.of_sameRequests (Db.enqueueAgentJob_sameRequests enqueued),
          inv.fits.enqueueAgentJob keyed ?_ (supports.begun begun selects) ?_ enqueued,
          Db.enqueueAgentJob_continues enqueued⟩
        · exact fun row present => (supports.selects present).trans selects
        · apply not_closing owned
          rw [begun]
          exact nofun
    · cases taken
  | closeJob =>
    simp only [Server.act] at taken
    exact inv.closeJob up taken
  | finish =>
    simp only [Server.act] at taken
    exact inv.finish up covered taken
  | giveUp =>
    simp only [Server.act, Server.giveUp] at taken
    split at taken
    · cases taken
      exact inv.dropRun up covered
    · cases taken
  | takeReport =>
    simp only [Server.act] at taken
    exact inv.takeReport up taken
  | commitReport =>
    simp only [Server.act] at taken
    exact inv.commitReport up taken
  | leaseJob =>
    simp only [Server.act] at taken
    cases taken
    exact inv.withDb_continues (inv.sound.of_sameRequests (Db.leaseAgentJob_sameRequests _ _ _))
      (inv.fits.leaseAgentJob _ _ _) (Db.leaseAgentJob_continues _ _ _)
  | requeueJob =>
    simp only [Server.act] at taken
    cases taken
    exact inv.withDb_continues (inv.sound.of_sameRequests (Db.requeueAgentJob_sameRequests _ _ _))
      (inv.fits.requeueAgentJob _ _ _) (Db.requeueAgentJob_continues _ _ _)
  | completeJob now request encoded result =>
    simp only [Server.act] at taken
    split at taken
    · next named =>
      cases taken
      exact inv.completeJob named
    · cases taken
  | closeSession =>
    simp only [Server.act] at taken
    cases taken
    exact inv.withDb_continues (inv.sound.of_sameRequests (Db.SameRequests.of_eq rfl))
      (inv.fits.markGatewayDestroyed covered) (Db.Grows.of_eq rfl fun _ member => member)
  | deliver =>
    simp only [Server.act] at taken
    cases taken
    refine inv.withDb_continues (inv.sound.of_sameRequests (Db.SameRequests.of_eq rfl)) ?_
      (Db.Grows.of_eq rfl fun _ member => member)
    exact inv.fits.of_tables rfl (fun _ => Iff.rfl) rfl (inv.fits.sessions_of_eq rfl)
  | sweep =>
    simp only [Server.act] at taken
    cases taken
    exact inv.sweep covered
  | crash =>
    simp only [Server.act] at taken
    cases taken
    exact inv.crash covered
  | recover =>
    simp only [Server.act] at taken
    cases taken

theorem step (covered : s.Covered specs label) (taken : s.step specs sha256Hex label = some t) :
    t.Invariant specs sha256Hex := by
  unfold Server.step at taken
  split at taken
  · next up => exact inv.act up covered taken
  · next stopped =>
    split at taken
    · exact inv.recover (Bool.eq_false_iff.mpr stopped) taken
    · cases taken

end

theorem start : ({} : Server).Invariant specs sha256Hex where
  sound := by
    intro id row present
    simp at present
  fits := by
    refine ⟨?_, ?_, ?_, ?_⟩
    · intro id row present
      simp at present
    · rintro id ⟨leaseId, row, present, _⟩
      simp at present
    · intro jobId job present
      simp at present
    · intro id entry listed
      have impossible := (Db.mem_openSessions.mp listed).1
      simp at impossible
  runs := by
    intro id run owned
    simp at owned
  reports := by
    intro slot id held
    simp at held
  down := fun _ => ⟨rfl, rfl⟩

theorem of_reachable (reached : ReachableWhen (system specs sha256Hex) (Covered specs) s) :
    s.Invariant specs sha256Hex := by
  refine reached.invariant (motive := Invariant specs sha256Hex) ?_ ?_
  · rintro _ rfl
    exact start
  · intro _ _ _ _ inv covered taken
    exact inv.step covered taken

end Invariant

/-- Whatever a server that takes covered steps leaves behind when it stops, recovery succeeds and
is exact. -/
theorem recovery_exact_along_covered_runs (specs : AgentSpecs) (sha256Hex : Bytes → String)
    {s : Server} (reached : ReachableWhen (system specs sha256Hex) (Covered specs) s)
    (stopped : s.up = false) :
    ∃ state, recoverState sha256Hex s.db = .ok state ∧ state.Exact sha256Hex s.db := by
  have recoverable := (Invariant.of_reachable reached).recoverable stopped
  obtain ⟨state, recovered⟩ := recoverable.recoverState_succeeds
  exact ⟨state, recovered, recoverable.exact recovered⟩

/-- Every payload names an agent. -/
def anySpecs : AgentSpecs := { swe := fun _ => true, code := fun _ => true }

def sweRequest : EpisodeRequest := { episodeId := "e2", envType := "swe" }

def sweJob : AgentJob := { jobId := "job-e2", runId := "r1", episodeId := "e2" }

/-- An episode is in the hands of an agent when the server stops. -/
def jobQueued : List Label :=
  [.recover, .lookup 0 1 60000 exampleUuid .zero sweRequest, .attach 0,
    .enqueueJob 2 "pool" sweJob 60000]

/-- A native episode was handed to a worker and another is with an agent; the server stops twice. -/
def stoppedTwice : List Label :=
  jobQueued ++ [.leaseJob 3 "job-e2" "a1" "r1", .lookup 1 4 60000 exampleUuid .zero exampleRequest,
    .attach 1, .putIntent 5 (exampleDispatch 1 "l1"), .markAccepted "l1" 6, .crash, .recover,
      .crash]

theorem recovery_exact_after_two_crashes :
    ∃ s : Server, s.up = false ∧ s.Unfinished "e1" ∧ s.Unfinished "e2" ∧
      ∃ state, recoverState Sha256.sha256Hex s.db = .ok state ∧
        state.Exact Sha256.sha256Hex s.db := by
  have run : (system anySpecs Sha256.sha256Hex).Along (Covered anySpecs) {} stoppedTwice ∧
      ∃ s ∈ (system anySpecs Sha256.sha256Hex).exec {} stoppedTwice,
        s.up = false ∧ s.Unfinished "e1" ∧ s.Unfinished "e2" := by decide +kernel
  obtain ⟨along, s, ran, stopped, native, swe⟩ := run
  refine ⟨s, stopped, native, swe, ?_⟩
  exact recovery_exact_along_covered_runs anySpecs Sha256.sha256Hex
    (ReachableWhen.of_exec (.start rfl) stoppedTwice along ran) stopped

/-- The server stops after the owner of an episode whose agent is late has closed the job, and
before it commits the result. -/
def stoppedWhileClosing : List Label :=
  jobQueued ++ [.closeJob 60001 "e2" .timedOut, .crash]

/-- The episode is unfinished, and nobody will end it. -/
theorem recovery_forgets_closing_episode :
    ¬ ∀ (specs : AgentSpecs) (sha256Hex : Bytes → String) (s : Server),
      Reachable (system specs sha256Hex) s → s.up = false →
      ∃ state, recoverState sha256Hex s.db = .ok state ∧ state.Exact sha256Hex s.db := by
  intro always
  have ended : ∃ s ∈ (system anySpecs Sha256.sha256Hex).exec {} stoppedWhileClosing,
      s.up = false ∧ s.Unfinished "e2" ∧
        (recoverState Sha256.sha256Hex s.db).toOption.map (fun state => state.tasks.length) =
          some 0 := by decide +kernel
  obtain ⟨s, ran, stopped, ⟨row, present, active⟩, tasks⟩ := ended
  obtain ⟨state, recovered, exact⟩ := always anySpecs Sha256.sha256Hex s
    (Reachable.of_exec rfl stoppedWhileClosing ran) stopped
  obtain ⟨task, listed, _⟩ := exact.owned "e2" row present active
  rw [recovered] at tasks
  have empty : state.tasks = [] := List.length_eq_zero_iff.mp (Option.some.inj tasks)
  rw [empty] at listed
  cases listed

end Server

end UEnv
