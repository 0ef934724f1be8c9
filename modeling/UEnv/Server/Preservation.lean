import UEnv.Server.Phases

/-!
# The commands keep the phases in order

One preservation lemma per store command, with what its caller has to know of the episode.
-/

namespace UEnv.Persistence.Db

open Proto Wire Tables Fallible Service

variable {db db' : Db} {specs : AgentSpecs} {sha256Hex : Bytes → String} {now : Millis}

/-- An update of an unfinished episode, and nothing when the episode has ended or is unknown. -/
theorem updateActiveEpisode_cases (db : Db) (episodeId : String) (f : EpisodeRow → EpisodeRow) :
    (db.updateActiveEpisode episodeId f = db ∧
      ∀ row, db.episodes[episodeId]? = some row → row.phase.terminal = true) ∨
    ∃ row, db.episodes[episodeId]? = some row ∧ row.phase.terminal = false ∧
      db.updateActiveEpisode episodeId f =
        { db with episodes := db.episodes.insert episodeId (f row) } := by
  unfold updateActiveEpisode
  cases present : db.episodes[episodeId]? with
  | none => exact Or.inl ⟨rfl, fun row impossible => by cases impossible⟩
  | some row =>
    by_cases terminal : row.phase.terminal = true
    · refine Or.inl ⟨if_pos terminal, ?_⟩
      intro row' same
      cases same
      exact terminal
    · exact Or.inr ⟨row, rfl, by simpa using terminal, if_neg terminal⟩

variable {result : EpisodeResult} {code message leaseId : String} {row : EpisodeRow}

theorem commitTerminal_cases
    (committed : db.commitTerminal sha256Hex now result code message = .ok db') :
    ∃ row, db.episodes[result.episodeId]? = some row ∧ ((row.phase.terminal = true ∧ db' = db) ∨
        (row.phase.terminal = false ∧ ∃ row' : EpisodeRow, row'.request = row.request ∧
          row'.phase.terminal = true ∧ db'.episodes = db.episodes.insert result.episodeId row' ∧
          db'.dispatches = db.dispatches ∧ db'.agentJobs = db.agentJobs ∧
          db'.gatewaySessions = db.gatewaySessions)) := by
  obtain ⟨row, present, ⟨terminal, _, rfl⟩ | ⟨active, _, rfl⟩⟩ := commitTerminal_ok committed
  · exact ⟨row, present, Or.inl ⟨terminal, rfl⟩⟩
  · let ended := terminalRow sha256Hex now row result code message
    have terminal : ended.phase.terminal = true := normalizeTerminalPhase_terminal result.status
    exact ⟨row, present, Or.inr ⟨active, ended, rfl, terminal, rfl, rfl, rfl, rfl⟩⟩

theorem terminal_of_commitTerminal_error {e : String}
    (failed : db.commitTerminal sha256Hex now result code message = .error e)
    (present : db.episodes[result.episodeId]? = some row) : row.phase.terminal = true := by
  unfold commitTerminal at failed
  rw [present] at failed
  simp only at failed
  split at failed
  · next terminal => exact terminal
  · split at failed
    · cases failed
    · cases failed

theorem dispatched_iff_of_eq (same : db'.dispatches = db.dispatches) (id : String) :
    db'.Dispatched id ↔ db.Dispatched id := by
  unfold Dispatched
  rw [same]

theorem dispatched_insert {row : DispatchRow}
    (changed : db'.dispatches = db.dispatches.insert leaseId row)
    (before : ∀ old : DispatchRow, db.dispatches[leaseId]? = some old →
      old.record.episodeId = row.record.episodeId) (other : String) :
    db'.Dispatched other ↔ db.Dispatched other ∨ other = row.record.episodeId := by
  unfold Dispatched
  rw [changed]
  refine ⟨?_, ?_⟩
  · rintro ⟨lease, found, present, here⟩
    rcases lookup_insert_cases present with ⟨rfl, rfl⟩ | present
    · exact Or.inr here.symm
    · exact Or.inl ⟨lease, found, present, here⟩
  · rintro (⟨lease, found, present, here⟩ | here)
    · by_cases same : leaseId = lease
      · subst same
        refine ⟨leaseId, row, by simp, ?_⟩
        rw [← before found present]
        exact here
      · refine ⟨lease, found, ?_, here⟩
        rw [lookup_insert, if_neg same]
        exact present
    · exact ⟨leaseId, row, by simp, here.symm⟩

theorem dispatched_modify {f : DispatchRow → DispatchRow}
    (changed : db'.dispatches = db.dispatches.modify leaseId f)
    (keeps : ∀ row, (f row).record.episodeId = row.record.episodeId) (id : String) :
    db'.Dispatched id ↔ db.Dispatched id := by
  unfold Dispatched
  rw [changed]
  refine ⟨?_, ?_⟩
  · rintro ⟨lease, found, present, here⟩
    rw [lookup_modify] at present
    split at present
    · obtain ⟨row, stored, rfl⟩ := Option.map_eq_some_iff.mp present
      exact ⟨leaseId, row, stored, by rw [← here, keeps]⟩
    · exact ⟨lease, found, present, here⟩
  · rintro ⟨lease, found, present, here⟩
    by_cases same : leaseId = lease
    · subst same
      refine ⟨leaseId, f found, ?_, by rw [keeps, here]⟩
      rw [lookup_modify, if_pos rfl, present]
      rfl
    · refine ⟨lease, found, ?_, here⟩
      rw [lookup_modify, if_neg same]
      exact present

theorem SameElsewhere.of_episode {id : String} (episodes : db'.episodes = db.episodes.insert id row)
    (dispatches : db'.dispatches = db.dispatches) (jobs : db'.agentJobs = db.agentJobs)
    (sessions : db'.gatewaySessions = db.gatewaySessions) : SameElsewhere db db' id where
  episodes := by
    intro other apart
    rw [episodes, lookup_insert, if_neg (Ne.symm apart)]
  dispatches := fun other _ => dispatched_iff_of_eq dispatches other
  jobs := fun _ _ => by rw [jobs]
  sessions := sessions

namespace Fits

variable {closing closing' : String → Prop}

theorem sessions_of_eq (fits : db.Fits specs closing)
    (same : db'.gatewaySessions = db.gatewaySessions) :
    ∀ id, ∀ a ∈ db'.openSessions id, ∀ b ∈ db'.openSessions id, a.1 = b.1 := by
  intro id
  unfold openSessions
  rw [same]
  exact fits.sessions id

theorem of_tables (fits : db.Fits specs closing) (episodes : db'.episodes = db.episodes)
    (dispatches : ∀ id, db'.Dispatched id ↔ db.Dispatched id) (jobs : db'.agentJobs = db.agentJobs)
    (sessions : ∀ id, ∀ a ∈ db'.openSessions id, ∀ b ∈ db'.openSessions id, a.1 = b.1) :
    db'.Fits specs closing where
  shaped := by
    intro id row present
    rw [episodes] at present
    exact (fits.shaped id row present).congr (dispatches id) (by rw [jobs]) (fun held => held)
  dispatchOwner := by
    intro id dispatched
    rw [episodes]
    exact fits.dispatchOwner id ((dispatches id).mp dispatched)
  jobOwner := by
    rw [jobs, episodes]
    exact fits.jobOwner
  sessions := sessions

theorem setClosing (fits : db.Fits specs closing)
    (kept : ∀ (id : String) (row : EpisodeRow), db.episodes[id]? = some row →
      row.phase.terminal = false → closing id → closing' id) : db.Fits specs closing' where
  shaped := by
    intro id row present
    have shaped := fits.shaped id row present
    refine { shaped with agent := ?_ }
    intro phase
    obtain ⟨job, found, held⟩ := shaped.agent phase
    exact ⟨job, found, held.imp_right (kept id row present (by rw [phase]; rfl))⟩
  dispatchOwner := fits.dispatchOwner
  jobOwner := fits.jobOwner
  sessions := fits.sessions

variable {result : EpisodeResult} {code message leaseId id sessionId : String}
  {deadlineAtMs : Millis} {row : DispatchRow} {record : DispatchRecord} {job : AgentJobRow}

section

variable (fits : db.Fits specs closing)
include fits

theorem commitTerminal (committed : db.commitTerminal sha256Hex now result code message = .ok db')
    (jobless : ¬ db.HasOpenJob result.episodeId)
    (weaker : ∀ other, other ≠ result.episodeId → closing other → closing' other) :
    db'.Fits specs closing' := by
  obtain ⟨row, present, ⟨terminal, rfl⟩ | ⟨_, row', request, terminal, episodes, dispatches, jobs,
    sessions⟩⟩ := commitTerminal_cases committed
  · refine fits.setClosing ?_
    intro id found present' active held
    refine weaker id ?_ held
    rintro rfl
    obtain rfl : found = row := Option.some.inj (present'.symm.trans present)
    rw [terminal] at active
    cases active
  · refine fits.of_local
      (SameElsewhere.of_episode episodes dispatches jobs sessions) weaker ?_ ?_ ?_
    · rw [mem_iff_lookup, episodes]
      exact ⟨row', by simp⟩
    · intro found present'
      rw [episodes, lookup_insert, if_pos rfl] at present'
      cases present'
      refine (fits.shaped _ row present).ended (dispatched_iff_of_eq dispatches _) ?_ request
        terminal
      intro job held
      rw [jobs] at held
      exact ⟨fun opened => jobless ⟨job, held, fits.job_named held, opened⟩, job, held⟩
    · intro job held
      rw [jobs] at held
      exact fits.job_named held

theorem findOrCreateEpisode {request : EpisodeRequest} {submissionKind : String}
    {answer : EpisodeLookup}
    (found : db.findOrCreateEpisode sha256Hex now request submissionKind deadlineAtMs =
      .ok (answer, db')) : db'.Fits specs closing := by
  rcases findOrCreateEpisode_cases found with ⟨rfl, _⟩ | ⟨_, missing, row, _, _, phase, rfl⟩
  · exact fits
  · have absent : request.episodeId ∉ db.episodes := by
      rw [mem_iff_lookup, missing]
      rintro ⟨row, impossible⟩
      cases impossible
    have undispatched : ¬ db.Dispatched request.episodeId := fun dispatched =>
      absent (fits.dispatchOwner _ dispatched)
    have jobless : db.agentJobs[jobIdOf request.episodeId]? = none := by
      cases held : db.agentJobs[jobIdOf request.episodeId]? with
      | none => rfl
      | some job =>
        have owner := (fits.jobOwner _ job held).2
        rw [fits.job_named held] at owner
        exact absurd owner absent
    refine fits.of_local (SameElsewhere.of_episode rfl rfl rfl rfl) (fun _ _ held => held) ?_ ?_ ?_
    · rw [mem_iff_lookup]
      exact ⟨row, by simp⟩
    · intro created present
      rw [lookup_insert, if_pos rfl] at present
      cases present
      refine
        { native := fun dispatched => absurd dispatched undispatched, swe := ?_
          queued := fun _ => ⟨undispatched, jobless⟩, dispatched := ?_, agent := ?_, closed := ?_ }
      · intro job held
        cases jobless.symm.trans held
      · rw [phase]
        rintro (impossible | impossible) <;> cases impossible
      · rw [phase]
        intro impossible
        cases impossible
      · rw [phase]
        intro impossible
        cases impossible
    · intro job held
      cases jobless.symm.trans held

/-- A dispatch of an unfinished native episode moves it to the phase of the dispatch. -/
theorem of_dispatch {f : EpisodeRow → EpisodeRow}
    (before : ∀ old : DispatchRow, db.dispatches[leaseId]? = some old →
      old.record.episodeId = row.record.episodeId)
    (native : ∀ episode : EpisodeRow, db.episodes[row.record.episodeId]? = some episode →
      specs.selectExecutionBackend episode.request = .native)
    (present : row.record.episodeId ∈ db.episodes)
    (request : ∀ episode, (f episode).request = episode.request)
    (phase : ∀ episode, (f episode).phase = .dispatchIntent ∨ (f episode).phase = .dispatched) :
    (({ db with dispatches := db.dispatches.insert leaseId row } : Db).updateActiveEpisode
      row.record.episodeId f).Fits specs closing := by
  let put : Db := { db with dispatches := db.dispatches.insert leaseId row }
  obtain ⟨episode, found⟩ := (mem_iff_lookup _ _).mp present
  have shaped := fits.shaped _ episode found
  have jobless : db.agentJobs[jobIdOf row.record.episodeId]? = none :=
    shaped.jobless (native episode found)
  rcases updateActiveEpisode_cases put row.record.episodeId f with
    ⟨same, ended⟩ | ⟨active, found', _, updated⟩
  · rw [show put.updateActiveEpisode row.record.episodeId f = put from same]
    have changed : put.dispatches = db.dispatches.insert leaseId row := rfl
    have dispatches := dispatched_insert changed before
    have elsewhere : SameElsewhere db put row.record.episodeId :=
      ⟨fun _ _ => rfl, fun other apart => (dispatches other).trans (or_iff_left apart),
        fun _ _ => rfl, rfl⟩
    refine fits.of_local elsewhere (fun _ _ held => held) present ?_ ?_
    · intro again present'
      obtain rfl : episode = again := Option.some.inj (found.symm.trans present')
      have terminal : episode.phase.terminal = true := ended episode found
      refine
        { native := fun _ => native episode found, swe := shaped.swe, queued := ?_
          dispatched := fun _ => (dispatches _).mpr (Or.inr rfl), agent := ?_
          closed := shaped.closed }
      · intro phase
        rw [phase] at terminal
        cases terminal
      · intro phase
        rw [phase] at terminal
        cases terminal
    · intro job held
      exact fits.job_named held
  · obtain rfl : episode = active := Option.some.inj (found.symm.trans found')
    rw [show put.updateActiveEpisode row.record.episodeId f = _ from updated]
    let after : Db :=
      { put with episodes := put.episodes.insert row.record.episodeId (f episode) }
    have changed : after.dispatches = db.dispatches.insert leaseId row := rfl
    have dispatches := dispatched_insert changed before
    have elsewhere : SameElsewhere db after row.record.episodeId := by
      refine ⟨?_, fun other apart => (dispatches other).trans (or_iff_left apart),
        fun _ _ => rfl, rfl⟩
      intro other apart
      exact (lookup_insert _ _ _ _).trans (if_neg (Ne.symm apart))
    refine fits.of_local elsewhere (fun _ _ held => held) ?_ ?_ ?_
    · exact Std.ExtTreeMap.mem_insert.mpr (Or.inl (Std.compare_eq_iff_eq.mpr rfl))
    · intro again present'
      have moved : f episode = again :=
        Option.some.inj (((lookup_insert _ _ _ _).trans (if_pos rfl)).symm.trans present')
      rw [← moved]
      refine
        { native := ?_, swe := ?_, queued := ?_
          dispatched := fun _ => (dispatches _).mpr (Or.inr rfl), agent := ?_, closed := ?_ }
      · intro _
        rw [request]
        exact native episode found
      · intro job held
        rw [request]
        exact shaped.swe job held
      · intro queued
        rcases phase episode with intent | dispatched
        · cases intent.symm.trans queued
        · cases dispatched.symm.trans queued
      · intro agent
        rcases phase episode with intent | dispatched
        · cases intent.symm.trans agent
        · cases dispatched.symm.trans agent
      · intro terminal job held
        cases jobless.symm.trans held
    · intro job held
      exact fits.job_named held

theorem intentRow_cases (intent : db.intentRow now record = .ok row) :
    row.record.episodeId = record.episodeId ∧ record.episodeId ∈ db.episodes ∧
      ∀ old : DispatchRow, db.dispatches[record.dispatchLeaseId]? = some old →
        old.record.episodeId = record.episodeId := by
  unfold intentRow at intent
  split at intent
  · next missing =>
    split at intent
    · next known =>
      cases intent
      refine ⟨rfl, Std.ExtTreeMap.contains_iff_mem.mp known, ?_⟩
      intro old present
      cases missing.symm.trans present
    · cases intent
  · next old present =>
    split at intent
    · next same =>
      cases intent
      have owner := fits.dispatchOwner old.record.episodeId ⟨_, old, present, rfl⟩
      rw [same.1] at owner
      refine ⟨same.1, owner, ?_⟩
      intro again present'
      obtain rfl : old = again := Option.some.inj (present.symm.trans present')
      exact same.1
    · cases intent

theorem putDispatchIntent
    (native : ∀ episode : EpisodeRow, db.episodes[record.episodeId]? = some episode →
      specs.selectExecutionBackend episode.request = .native)
    (put : db.putDispatchIntent now record = .ok db') : db'.Fits specs closing := by
  obtain ⟨row, intent, put⟩ := bind_eq_ok.mp put
  cases put
  obtain ⟨named, known, before⟩ := fits.intentRow_cases intent
  rw [← named] at native known before ⊢
  exact fits.of_dispatch before native known (fun _ => rfl) (fun _ => Or.inl rfl)

theorem markDispatchAccepted {acceptedAtMs : Millis}
    (marked : db.markDispatchAccepted leaseId acceptedAtMs = .ok db') : db'.Fits specs closing := by
  unfold Db.markDispatchAccepted at marked
  split at marked
  · cases marked
  · next row present =>
    cases marked
    have dispatched : db.Dispatched row.record.episodeId := ⟨leaseId, row, present, rfl⟩
    refine fits.of_dispatch ?_ ?_ (fits.dispatchOwner _ dispatched) (fun _ => rfl)
      (fun _ => Or.inr rfl)
    · intro old present'
      obtain rfl : row = old := Option.some.inj (present.symm.trans present')
      rfl
    · intro episode found
      exact (fits.shaped _ episode found).native dispatched

theorem commitReportResult {idempotency : IdempotencyRecord}
    (native : ∀ episode : EpisodeRow, db.episodes[result.episodeId]? = some episode →
      specs.selectExecutionBackend episode.request = .native)
    (committed : db.commitReportResult sha256Hex now result idempotency code message = .ok db') :
    db'.Fits specs closing := by
  unfold Db.commitReportResult at committed
  split at committed
  · cases committed
    exact fits
  · cases committed
  · obtain ⟨ended, terminal, committed⟩ := bind_eq_ok.mp committed
    cases committed
    have jobless : ¬ db.HasOpenJob result.episodeId := by
      rintro ⟨job, held, _, _⟩
      obtain ⟨episode, present⟩ :=
        (mem_iff_lookup _ _).mp (fits.jobOwner _ job held).2
      rw [fits.job_named held] at present
      have none_ := (fits.shaped _ episode present).jobless (native episode present)
      cases none_.symm.trans held
    have kept : ended.Fits specs closing :=
      fits.commitTerminal terminal jobless fun _ _ held => held
    refine kept.of_tables rfl ?_ rfl (kept.sessions_of_eq rfl)
    intro id
    apply dispatched_modify rfl
    intro row
    rfl

end

theorem sameElsewhere_of_job
    (episodes : ∀ other : String, other ≠ id → db'.episodes[other]? = db.episodes[other]?)
    (dispatches : db'.dispatches = db.dispatches)
    (jobs : db'.agentJobs = db.agentJobs.insert (jobIdOf id) job)
    (sessions : db'.gatewaySessions = db.gatewaySessions) : SameElsewhere db db' id where
  episodes := episodes
  dispatches := fun other _ => dispatched_iff_of_eq dispatches other
  jobs := by
    intro jobId apart
    rw [jobs, lookup_insert, if_neg (Ne.symm apart)]
  sessions := sessions

section

variable (fits : db.Fits specs closing)
include fits

theorem of_job {jobId : String} {job' : AgentJobRow} (present : db.agentJobs[jobId]? = some job)
    (opened : job.Open) (same : job'.episodeId = job.episodeId)
    (weaker : ∀ other, closing other → closing' other) (held : job'.Open ∨ closing' job.episodeId) :
    ({ db with agentJobs := db.agentJobs.insert jobId job' } : Db).Fits specs closing' := by
  obtain ⟨keyed, owner⟩ := fits.jobOwner jobId job present
  subst keyed
  have elsewhere : SameElsewhere db
      ({ db with agentJobs := db.agentJobs.insert (jobIdOf job.episodeId) job' } : Db)
      job.episodeId := sameElsewhere_of_job (fun _ _ => rfl) rfl rfl rfl
  have stored : (db.agentJobs.insert (jobIdOf job.episodeId) job')[jobIdOf job.episodeId]? =
      some job' := by
    rw [lookup_insert, if_pos rfl]
  refine fits.of_local elsewhere (fun other _ => weaker other) owner ?_ ?_
  · intro row found
    have shaped := fits.shaped _ row found
    obtain ⟨phase, _⟩ := shaped.phase_of_open present opened
    refine
      { native := shaped.native, swe := fun _ _ => shaped.swe job present, queued := ?_
        dispatched := shaped.dispatched, agent := fun _ => ⟨job', stored, held⟩, closed := ?_ }
    · rw [phase]
      intro impossible
      cases impossible
    · rw [phase]
      intro impossible
      cases impossible
  · intro found again
    obtain rfl := Option.some.inj (stored.symm.trans again)
    exact same

theorem leaseAgentJob (jobId agentId runId : String) :
    (db.leaseAgentJob now jobId agentId runId).2.Fits specs closing := by
  rcases leaseAgentJob_cases db now jobId agentId runId with
    ⟨refused, _⟩ | ⟨row, present, pending, _, leased⟩
  · rw [refused]
    exact fits
  · rw [leased]
    exact fits.of_job present (Or.inl pending) rfl (fun _ held => held) (Or.inl (Or.inr rfl))

theorem requeueAgentJob (job : AgentJob) (agentId runId : String) :
    (db.requeueAgentJob now job agentId runId).2.Fits specs closing := by
  rcases requeueAgentJob_cases db now job agentId runId with
    refused | ⟨row, present, leased, _, _, requeued⟩
  · rw [refused]
    exact fits
  · rw [requeued]
    exact fits.of_job present (Or.inr leased) rfl (fun _ held => held) (Or.inl (Or.inl rfl))

theorem markAgentJobTerminal {phase : JobPhase} (weaker : ∀ other, closing other → closing' other)
    (starts : closing' id) :
    (db.markAgentJobTerminal now (jobIdOf id) phase).Fits specs closing' := by
  rcases markAgentJobTerminal_cases db now (jobIdOf id) phase with
    same | ⟨job, present, opened, changed⟩
  · rw [same]
    exact fits.setClosing fun other _ _ _ held => weaker other held
  · rw [changed]
    rw [← fits.job_named present] at starts
    exact fits.of_job present opened rfl weaker (Or.inr starts)

/-- The job of an unfinished SWE episode: a new one, or the open one of an earlier execution. -/
theorem enqueueAgentJob {poolId : String} {job : AgentJob}
    (keyed : job.jobId = jobIdOf job.episodeId)
    (swe : ∀ episode : EpisodeRow, db.episodes[job.episodeId]? = some episode →
      specs.selectExecutionBackend episode.request = .sweAgent)
    (ready : (∃ episode : EpisodeRow, db.episodes[job.episodeId]? = some episode ∧
      episode.phase.terminal = false) ∨ jobIdOf job.episodeId ∈ db.agentJobs)
    (working : ¬ closing job.episodeId)
    (enqueued : db.enqueueAgentJob now poolId job deadlineAtMs = .ok db') :
    db'.Fits specs closing := by
  unfold Db.enqueueAgentJob at enqueued
  simp only [keyed] at enqueued
  split at enqueued
  · cases enqueued
  · let row : AgentJobRow :=
      { episodeId := job.episodeId, poolId, job, phase := .pending, agentId := "",
        runId := job.runId
        leasedAtMs := none, deadlineAtMs, completionChecksum := none, updatedAtMs := now }
    let put : Db := { db with agentJobs := db.agentJobs.insertIfNew (jobIdOf job.episodeId) row }
    cases enqueued
    rcases updateActiveEpisode_cases put job.episodeId fun episode =>
        { episode with phase := .agentDispatched, updatedAtMs := now } with
      ⟨same, ended⟩ | ⟨episode, found, active, updated⟩
    · -- an episode that has ended has its job already, and nothing changes
      have queued : jobIdOf job.episodeId ∈ db.agentJobs := by
        rcases ready with ⟨episode, found, active⟩ | queued
        · cases active.symm.trans (ended episode found)
        · exact queued
      have unchanged : put.agentJobs = db.agentJobs := by
        apply Std.ExtTreeMap.ext_getElem?
        intro jobId
        exact (lookup_insertIfNew _ _ _ _).trans (if_neg fun new => new.2 queued)
      have kept : put.Fits specs closing :=
        fits.of_tables rfl (fun _ => Iff.rfl) unchanged (fits.sessions_of_eq rfl)
      rw [← same] at kept
      exact kept
    · have shaped := fits.shaped _ episode found
      have isSwe := swe episode found
      obtain ⟨stored, here, opened, named⟩ : ∃ stored : AgentJobRow,
          put.agentJobs[jobIdOf job.episodeId]? = some stored ∧ stored.Open ∧
            stored.episodeId = job.episodeId := by
        cases present : db.agentJobs[jobIdOf job.episodeId]? with
        | none =>
          refine ⟨row, ?_, Or.inl rfl, rfl⟩
          refine (lookup_insertIfNew _ _ _ _).trans (if_pos ⟨rfl, ?_⟩)
          rw [mem_iff_lookup, present]
          rintro ⟨_, impossible⟩
          cases impossible
        | some old =>
          refine ⟨old, ?_, shaped.open_of_working working active present, fits.job_named present⟩
          refine (lookup_insertIfNew _ _ _ _).trans ?_
          rw [if_neg fun new => new.2 ((mem_iff_lookup _ _).mpr ⟨old, present⟩), present]
      have kept : Fits specs closing { put with
          episodes := put.episodes.insert job.episodeId
            { episode with phase := .agentDispatched, updatedAtMs := now } } := by
        have elsewhere : SameElsewhere db { put with
            episodes := put.episodes.insert job.episodeId
              { episode with phase := .agentDispatched, updatedAtMs := now } } job.episodeId := by
          refine ⟨?_, fun _ _ => Iff.rfl, ?_, rfl⟩
          · intro other apart
            exact (lookup_insert _ _ _ _).trans (if_neg (Ne.symm apart))
          · intro jobId apart
            exact (lookup_insertIfNew _ _ _ _).trans (if_neg fun new => apart new.1.symm)
        refine fits.of_local elsewhere (fun _ _ held => held) ?_ ?_ ?_
        · exact Std.ExtTreeMap.mem_insert.mpr (Or.inl (Std.compare_eq_iff_eq.mpr rfl))
        · intro again present
          obtain rfl := Option.some.inj
            (((lookup_insert _ _ _ _).trans (if_pos rfl)).symm.trans present)
          refine
            { native := shaped.native, swe := fun _ _ => isSwe, queued := ?_, dispatched := ?_
              agent := fun _ => ⟨stored, here, Or.inl opened⟩, closed := ?_ }
          · intro impossible
            cases impossible
          · rintro (impossible | impossible) <;> cases impossible
          · intro impossible
            cases impossible
        · intro found' present
          obtain rfl := Option.some.inj (here.symm.trans present)
          exact named
      rw [← updated] at kept
      exact kept

theorem commitAgentCompletion {request : AgentJobCompleteRequest} {encoded : Bytes}
    {decision : IdempotencyDecision}
    (named : request.jobId = jobIdOf result.episodeId ∨ result.episodeId ∉ db.episodes)
    (answered : db.commitAgentCompletion sha256Hex now request encoded result =
      .ok (decision, db')) : db'.Fits specs closing := by
  rcases commitAgentCompletion_cases answered with
    ⟨rfl, _⟩ | ⟨job, closed, present, leased, _, _, _, committed, rfl⟩
  · exact fits
  · obtain ⟨row, found, outcome⟩ := commitTerminal_cases committed
    have known : result.episodeId ∈ db.episodes := (mem_iff_lookup _ _).mpr ⟨row, found⟩
    have keyed : request.jobId = jobIdOf result.episodeId := named.resolve_right (not_not.mpr known)
    rw [keyed] at present
    have shaped := fits.shaped _ row found
    obtain ⟨phase, _⟩ := shaped.phase_of_open present (Or.inr leased)
    rcases outcome with ⟨terminal, _⟩ | ⟨_, row', request', terminal, episodes, dispatches, _,
      sessions⟩
    · rw [phase] at terminal
      cases terminal
    · have elsewhere : SameElsewhere db ({ closed with
          agentJobs := db.agentJobs.insert request.jobId { job with
            phase := .completed, completionChecksum := some (sha256Hex encoded)
            updatedAtMs := now } } : Db) result.episodeId := by
        refine sameElsewhere_of_job ?_ dispatches (by rw [keyed]) sessions
        intro other apart
        change closed.episodes[other]? = _
        rw [episodes, lookup_insert, if_neg (Ne.symm apart)]
      have stored : ∀ found : AgentJobRow, (db.agentJobs.insert request.jobId { job with
          phase := .completed, completionChecksum := some (sha256Hex encoded)
          updatedAtMs := now })[jobIdOf result.episodeId]? = some found →
          found.phase = .completed ∧ found.episodeId = job.episodeId := by
        intro found present'
        rw [lookup_insert, if_pos keyed] at present'
        cases present'
        exact ⟨rfl, rfl⟩
      refine fits.of_local elsewhere (fun _ _ held => held) ?_ ?_ ?_
      · change _ ∈ closed.episodes
        rw [mem_iff_lookup, episodes]
        exact ⟨row', by simp⟩
      · intro again present'
        change closed.episodes[result.episodeId]? = _ at present'
        rw [episodes, lookup_insert, if_pos rfl] at present'
        cases present'
        refine shaped.ended (dispatched_iff_of_eq dispatches _) ?_ request' terminal
        intro job' present'
        refine ⟨?_, job, present⟩
        have completed := (stored job' present').1
        rintro (impossible | impossible)
        · cases completed.symm.trans impossible
        · cases completed.symm.trans impossible
      · intro job' present'
        rw [(stored job' present').2]
        exact fits.job_named present

/-- Sessions change under one id, which is the only open one of its episode from then on. -/
theorem of_session (sessionId : String) (episodes : db'.episodes = db.episodes)
    (dispatches : db'.dispatches = db.dispatches) (jobs : db'.agentJobs = db.agentJobs)
    (changed : ∀ (id : String) (row : GatewaySessionRow), db'.gatewaySessions[id]? = some row →
      row.Open → db.gatewaySessions[id]? = some row ∨
        (id = sessionId ∧ ∀ other ∈ db.openSessions row.episodeId, other.1 = sessionId)) :
    db'.Fits specs closing := by
  refine fits.of_tables episodes (dispatched_iff_of_eq dispatches) jobs ?_
  have before_or_only : ∀ id, ∀ entry ∈ db'.openSessions id, entry ∈ db.openSessions id ∨
      (entry.1 = sessionId ∧ ∀ other ∈ db.openSessions id, other.1 = sessionId) := by
    intro id entry listed
    obtain ⟨present, here, opened⟩ := mem_openSessions.mp listed
    rcases changed entry.1 entry.2 present opened with before | only
    · exact Or.inl (mem_openSessions.mpr ⟨before, here, opened⟩)
    · rw [here] at only
      exact Or.inr only
  intro id a listedA b listedB
  rcases before_or_only id a listedA with beforeA | ⟨keyA, others⟩
  · rcases before_or_only id b listedB with beforeB | ⟨keyB, others⟩
    · exact fits.sessions id a beforeA b beforeB
    · rw [keyB]
      exact others a beforeA
  · rcases before_or_only id b listedB with beforeB | ⟨keyB, _⟩
    · rw [keyA]
      exact (others b beforeB).symm
    · rw [keyA, keyB]

theorem upsertGatewaySession {episodeId workerId url : String} {key : List UInt8}
    (only : ∀ entry ∈ db.openSessions episodeId, entry.1 = sessionId)
    (upserted : db.upsertGatewaySession now sessionId episodeId workerId url key = .ok db') :
    db'.Fits specs closing := by
  unfold Db.upsertGatewaySession at upserted
  split at upserted
  · simp only at upserted
    split at upserted
    · cases upserted
      refine fits.of_session sessionId rfl rfl rfl ?_
      intro id row present _
      rcases lookup_insert_cases present with ⟨rfl, rfl⟩ | before
      · exact Or.inr ⟨rfl, only⟩
      · exact Or.inl before
    · cases upserted
  · next old stored =>
    cases upserted
    refine fits.of_session sessionId rfl rfl rfl ?_
    intro id row present opened
    rcases lookup_insert_cases present with ⟨rfl, rfl⟩ | before
    · refine Or.inr ⟨rfl, ?_⟩
      intro other listed
      have mine : (id, old) ∈ db.openSessions old.episodeId :=
        mem_openSessions.mpr ⟨stored, rfl, opened⟩
      exact fits.sessions _ other listed _ mine
    · exact Or.inl before

theorem markGatewayDestroyed {error : Option String}
    (only : error.isSome → ∀ row : GatewaySessionRow, db.gatewaySessions[sessionId]? = some row →
      ∀ entry ∈ db.openSessions row.episodeId, entry.1 = sessionId) :
    (db.markGatewayDestroyed now sessionId error).Fits specs closing := by
  unfold Db.markGatewayDestroyed
  refine fits.of_session sessionId rfl rfl rfl ?_
  intro id row present opened
  rw [lookup_modify] at present
  split at present
  · next same =>
    obtain ⟨old, stored, rfl⟩ := Option.map_eq_some_iff.mp present
    cases error with
    | none => rcases opened with impossible | impossible <;> cases impossible
    | some => exact Or.inr ⟨same.symm, only rfl old stored⟩
  · exact Or.inl present

theorem deleteEpisodes (doomed : String → EpisodeRow → Bool) :
    (db.deleteEpisodes doomed).Fits specs closing := by
  have survives : ∀ id : String, ((db.episodes[id]?).filter (doomed id)).isNone = true →
      id ∈ db.episodes → id ∈ (db.deleteEpisodes doomed).episodes := by
    intro id spared known
    obtain ⟨row, present⟩ := (mem_iff_lookup _ _).mp known
    refine (mem_iff_lookup _ _).mpr ⟨row, (lookup_filter _ _ _).trans ?_⟩
    rw [present] at spared ⊢
    cases doom : doomed id row with
    | true => simp [doom] at spared
    | false => simp [doom]
  refine ⟨?_, ?_, ?_, ?_⟩
  · intro id row present
    obtain ⟨before, spared⟩ := lookup_of_filter present
    have kept : ((db.episodes[id]?).filter (doomed id)).isNone = true := by
      rw [before]
      simpa using spared
    refine (fits.shaped id row before).congr ?_ ?_ fun held => held
    · refine ⟨?_, ?_⟩
      · rintro ⟨leaseId, dispatch, found, here⟩
        exact ⟨leaseId, dispatch, (lookup_of_filter found).1, here⟩
      · rintro ⟨leaseId, dispatch, found, here⟩
        refine ⟨leaseId, dispatch, (lookup_filter _ _ _).trans ?_, here⟩
        rw [found, Option.filter_some, here]
        exact if_pos kept
    · refine (lookup_filter _ _ _).trans ?_
      cases found : db.agentJobs[jobIdOf id]? with
      | none => rfl
      | some =>
        rw [Option.filter_some, fits.job_named found]
        exact if_pos kept
  · rintro id ⟨leaseId, dispatch, found, here⟩
    obtain ⟨before, spared⟩ := lookup_of_filter found
    rw [here] at spared
    exact survives id spared (fits.dispatchOwner id ⟨leaseId, dispatch, before, here⟩)
  · intro jobId job found
    obtain ⟨before, spared⟩ := lookup_of_filter found
    obtain ⟨keyed, owner⟩ := fits.jobOwner jobId job before
    exact ⟨keyed, survives _ spared owner⟩
  · intro id a listedA b listedB
    have before : ∀ entry ∈ (db.deleteEpisodes doomed).openSessions id,
        entry ∈ db.openSessions id := by
      intro entry listed
      obtain ⟨present, rest⟩ := mem_openSessions.mp listed
      exact mem_openSessions.mpr ⟨(lookup_of_filter present).1, rest⟩
    exact fits.sessions id a (before a listedA) b (before b listedB)

theorem sweep (terminalCutoffMs idempotencyCutoffMs : Millis) (maxCompletedEntries : Nat) :
    (db.sweep terminalCutoffMs idempotencyCutoffMs maxCompletedEntries).Fits specs closing := by
  unfold Db.sweep
  simp only
  split
  · refine deleteEpisodes (deleteEpisodes ?_ _) _
    exact fits.of_tables rfl (fun _ => Iff.rfl) rfl (fits.sessions_of_eq rfl)
  · refine deleteEpisodes ?_ _
    exact fits.of_tables rfl (fun _ => Iff.rfl) rfl (fits.sessions_of_eq rfl)

end

end Fits

end UEnv.Persistence.Db
