import UEnv.Server.Executions

/-!
# Phases and the tables around them

The phase of an episode against its dispatches and its job. A command is local to one episode:
its row, its dispatches and its job change, and those of the other episodes stay.
-/

namespace UEnv.Persistence.Db

open Proto Wire Tables Fallible Service

variable {db db' : Db} {specs : AgentSpecs} {sha256Hex : Bytes → String} {now : Millis}

/-- The phase of an episode fits its dispatches and its job; `closing` says that its owner is
between closing the job and committing the result. -/
structure Shaped (specs : AgentSpecs) (db : Db) (closing : Prop) (id : String) (row : EpisodeRow) :
    Prop where
  native : db.Dispatched id → specs.selectExecutionBackend row.request = .native
  swe : ∀ job : AgentJobRow, db.agentJobs[jobIdOf id]? = some job →
    specs.selectExecutionBackend row.request = .sweAgent
  queued : row.phase = .queued → ¬ db.Dispatched id ∧ db.agentJobs[jobIdOf id]? = none
  dispatched : row.phase = .dispatchIntent ∨ row.phase = .dispatched → db.Dispatched id
  agent : row.phase = .agentDispatched → ∃ job : AgentJobRow,
    db.agentJobs[jobIdOf id]? = some job ∧ (job.Open ∨ closing)
  closed : row.phase.terminal = true → ∀ job : AgentJobRow,
    db.agentJobs[jobIdOf id]? = some job → ¬ job.Open

/-- Every episode is shaped, and every dispatch and job belongs to one. -/
structure Fits (specs : AgentSpecs) (closing : String → Prop) (db : Db) : Prop where
  shaped : ∀ (id : String) (row : EpisodeRow), db.episodes[id]? = some row →
    db.Shaped specs (closing id) id row
  dispatchOwner : ∀ id, db.Dispatched id → id ∈ db.episodes
  jobOwner : ∀ (jobId : String) (job : AgentJobRow), db.agentJobs[jobId]? = some job →
    jobId = jobIdOf job.episodeId ∧ job.episodeId ∈ db.episodes
  sessions : ∀ id, ∀ a ∈ db.openSessions id, ∀ b ∈ db.openSessions id, a.1 = b.1

/-- What is stored for the other episodes is the same. -/
structure SameElsewhere (db db' : Db) (id : String) : Prop where
  episodes : ∀ other : String, other ≠ id → db'.episodes[other]? = db.episodes[other]?
  dispatches : ∀ other : String, other ≠ id → (db'.Dispatched other ↔ db.Dispatched other)
  jobs : ∀ jobId : String, jobId ≠ jobIdOf id → db'.agentJobs[jobId]? = db.agentJobs[jobId]?
  sessions : db'.gatewaySessions = db.gatewaySessions

section Shaped

variable {closing closing' : Prop} {id : String} {row row' : EpisodeRow}

section

variable (shaped : db.Shaped specs closing id row)
include shaped

theorem Shaped.congr (dispatches : db'.Dispatched id ↔ db.Dispatched id)
    (jobs : db'.agentJobs[jobIdOf id]? = db.agentJobs[jobIdOf id]?) (weaker : closing → closing') :
    db'.Shaped specs closing' id row where
  native := fun dispatched => shaped.native (dispatches.mp dispatched)
  swe := fun job present => shaped.swe job (jobs ▸ present)
  queued := by
    intro phase
    rw [dispatches, jobs]
    exact shaped.queued phase
  dispatched := fun phase => dispatches.mpr (shaped.dispatched phase)
  agent := by
    intro phase
    obtain ⟨job, present, held⟩ := shaped.agent phase
    exact ⟨job, jobs.trans present, held.imp_right weaker⟩
  closed := fun phase job present => shaped.closed phase job (jobs ▸ present)

theorem Shaped.ended (dispatches : db'.Dispatched id ↔ db.Dispatched id)
    (jobs : ∀ job : AgentJobRow, db'.agentJobs[jobIdOf id]? = some job →
      ¬ job.Open ∧ ∃ old : AgentJobRow, db.agentJobs[jobIdOf id]? = some old)
    (request : row'.request = row.request) (terminal : row'.phase.terminal = true) :
    db'.Shaped specs closing' id row' where
  native := fun dispatched => by
    rw [request]
    exact shaped.native (dispatches.mp dispatched)
  swe := fun job present => by
    obtain ⟨_, old, before⟩ := jobs job present
    rw [request]
    exact shaped.swe old before
  queued := fun phase => by rw [phase] at terminal; cases terminal
  dispatched := fun phase => by
    rcases phase with phase | phase
    · rw [phase] at terminal
      cases terminal
    · rw [phase] at terminal
      cases terminal
  agent := fun phase => by rw [phase] at terminal; cases terminal
  closed := fun _ job present => (jobs job present).1

theorem Shaped.jobless (native : specs.selectExecutionBackend row.request = .native) :
    db.agentJobs[jobIdOf id]? = none := by
  cases present : db.agentJobs[jobIdOf id]? with
  | none => rfl
  | some job =>
    have swe := shaped.swe job present
    rw [native] at swe
    cases swe

theorem Shaped.phase_of_open {job : AgentJobRow} (present : db.agentJobs[jobIdOf id]? = some job)
    (opened : job.Open) : row.phase = .agentDispatched ∧ ¬ db.Dispatched id := by
  have swe := shaped.swe job present
  have undispatched : ¬ db.Dispatched id := by
    intro dispatched
    rw [shaped.native dispatched] at swe
    cases swe
  refine ⟨?_, undispatched⟩
  have unclosed : row.phase.terminal ≠ true := fun terminal =>
    shaped.closed terminal job present opened
  cases phase : row.phase with
  | agentDispatched => rfl
  | queued =>
    have jobless := (shaped.queued phase).2
    rw [present] at jobless
    cases jobless
  | dispatchIntent => exact absurd (shaped.dispatched (Or.inl phase)) undispatched
  | dispatched => exact absurd (shaped.dispatched (Or.inr phase)) undispatched
  | completed | failed | cancelled | timedOut =>
    rw [phase] at unclosed
    exact absurd rfl unclosed

theorem Shaped.open_of_working (working : ¬ closing) (active : row.phase.terminal = false)
    {job : AgentJobRow} (present : db.agentJobs[jobIdOf id]? = some job) : job.Open := by
  have undispatched : ¬ db.Dispatched id := by
    intro dispatched
    cases (shaped.native dispatched).symm.trans (shaped.swe job present)
  cases phase : row.phase with
  | agentDispatched =>
    obtain ⟨found, stored, held⟩ := shaped.agent phase
    obtain rfl : job = found := Option.some.inj (present.symm.trans stored)
    exact held.resolve_right working
  | queued => cases present.symm.trans (shaped.queued phase).2
  | dispatchIntent => exact absurd (shaped.dispatched (Or.inl phase)) undispatched
  | dispatched => exact absurd (shaped.dispatched (Or.inr phase)) undispatched
  | completed | failed | cancelled | timedOut =>
    rw [phase] at active
    cases active

end

end Shaped

namespace Fits

variable {closing closing' : String → Prop}

theorem of_local (fits : db.Fits specs closing) {id : String} (same : SameElsewhere db db' id)
    (weaker : ∀ other, other ≠ id → closing other → closing' other) (present : id ∈ db'.episodes)
    (here : ∀ row : EpisodeRow, db'.episodes[id]? = some row →
      db'.Shaped specs (closing' id) id row)
    (jobHere : ∀ job : AgentJobRow, db'.agentJobs[jobIdOf id]? = some job → job.episodeId = id) :
    db'.Fits specs closing' := by
  have kept : ∀ other, other ≠ id → other ∈ db.episodes → other ∈ db'.episodes := by
    intro other apart member
    rw [mem_iff_lookup, same.episodes other apart]
    exact (mem_iff_lookup _ _).mp member
  refine ⟨?_, ?_, ?_, ?_⟩
  · intro other row found
    by_cases apart : other = id
    · rw [apart] at found ⊢
      exact here row found
    · rw [same.episodes other apart] at found
      have jobs := same.jobs (jobIdOf other) (fun equal => apart (jobIdOf_inj equal))
      exact (fits.shaped other row found).congr (same.dispatches other apart) jobs
        (weaker other apart)
  · intro other dispatched
    by_cases apart : other = id
    · rw [apart]
      exact present
    · exact kept other apart
        (fits.dispatchOwner other ((same.dispatches other apart).mp dispatched))
  · intro jobId job found
    by_cases mine : jobId = jobIdOf id
    · rw [mine] at found
      have named := jobHere job found
      rw [named]
      exact ⟨mine, present⟩
    · rw [same.jobs jobId mine] at found
      obtain ⟨keyed, owner⟩ := fits.jobOwner jobId job found
      have apart : job.episodeId ≠ id := by
        intro equal
        rw [equal] at keyed
        exact mine keyed
      exact ⟨keyed, kept job.episodeId apart owner⟩
  · intro other
    unfold openSessions
    rw [same.sessions]
    exact fits.sessions other

theorem job_named (fits : db.Fits specs closing) {id : String} {job : AgentJobRow}
    (present : db.agentJobs[jobIdOf id]? = some job) : job.episodeId = id :=
  (jobIdOf_inj (fits.jobOwner _ job present).1).symm

end Fits

end UEnv.Persistence.Db
