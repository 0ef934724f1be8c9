import UEnv.AgentJob.Refinement

/-!
# Completions of a job

What a step can do to the row of a job. A row that is completed stays as it is, and the run of a
row only ever grows, so the run of an earlier lease never comes back. With a store attached an
acknowledged completion is the one that the row holds.
-/

namespace UEnv.AgentJob

open Proto Persistence Tables Wire Runs

/-- What a step does to the row of one job; `carried` is the completion that it commits. -/
inductive JobStep (sha256Hex : Bytes → String) (jobId : String)
    (carried : Option (AgentJobCompleteRequest × Bytes)) :
    Option AgentJobRow → Option AgentJobRow → Prop
  | same (row : Option AgentJobRow) : JobStep sha256Hex jobId carried row row
  | created {row : AgentJobRow} (phase : row.phase = .pending) :
    JobStep sha256Hex jobId carried none (some row)
  | leased {row row' : AgentJobRow} (phase : row.phase = .pending) (phase' : row'.phase = .leased)
    (run : row'.runId = row.runId) : JobStep sha256Hex jobId carried (some row) (some row')
  | requeued {row row' : AgentJobRow} (phase : row.phase = .leased) (phase' : row'.phase = .pending)
    (longer : row.runId.length < row'.runId.length) :
    JobStep sha256Hex jobId carried (some row) (some row')
  | closed {row row' : AgentJobRow} (phase : row.phase ≠ .completed)
    (phase' : row'.phase ≠ .completed) (run : row'.runId = row.runId) :
    JobStep sha256Hex jobId carried (some row) (some row')
  | completed {row row' : AgentJobRow} {request : AgentJobCompleteRequest} {encoded : Bytes}
    (carries : carried = some (request, encoded)) (ofJob : request.jobId = jobId)
    (phase : row.phase = .leased) (agent : row.agentId = request.agentId)
    (run : row.runId = request.runId) (phase' : row'.phase = .completed)
    (agent' : row'.agentId = row.agentId) (run' : row'.runId = row.runId)
    (checksum : row'.completionChecksum = some (sha256Hex encoded)) :
    JobStep sha256Hex jobId carried (some row) (some row')

namespace World

variable (w : World)

/-- The completion that the store command of a step carries. -/
def carried : Label → Option (AgentJobCompleteRequest × Bytes)
  | .execCheck t _ _ =>
    match w.completes[t]? with
    | some (.checking request encoded) => some (request, encoded)
    | _ => none
  | .execCommit t _ _ =>
    match w.completes[t]? with
    | some (.committing request encoded _) => some (request, encoded)
    | _ => none
  | _ => none

/-- `complete_agent_job` finds its job unknown, and a replay answers it. -/
def acknowledgedByCheck (sha256Hex : Bytes → String) (t : Nat) (now : Millis) (fails : Bool) :
    Option AgentJobCompleteRequest :=
  match w.completes[t]?, w.store with
  | some (.checking request encoded), some db =>
    if fails then none
    else match db.commitAgentCompletion sha256Hex now request encoded {} with
      | .ok (.replay _, _) => some request
      | _ => none
  | _, _ => none

/-- `complete_agent_job` ends after a commit; a job that is gone is answered `UNKNOWN_JOB`. -/
def acknowledgedByFinish (t : Nat) : Option AgentJobCompleteRequest :=
  match w.completes[t]? with
  | some (.committed request _) =>
    if w.queue.inFlight.contains request.jobId then some request else none
  | _ => none

/-- `complete_agent_job` without a store. -/
def acknowledgedAtOnce (request : AgentJobCompleteRequest) : Option AgentJobCompleteRequest :=
  match w.queue.inFlight[request.jobId]? with
  | none => none
  | some entry =>
    if entry.runId ≠ request.runId ∨ entry.agentId.isEmpty ∨
      entry.agentId ≠ request.agentId then none
    else if w.store.isSome then none
    else some request

/-- The completion that a step answers with `ack = true`. -/
def acknowledged (sha256Hex : Bytes → String) : Label → Option AgentJobCompleteRequest
  | .execCheck t now fails => w.acknowledgedByCheck sha256Hex t now fails
  | .finishComplete t => w.acknowledgedByFinish t
  | .complete _ request _ _ => w.acknowledgedAtOnce request
  | _ => none

variable {w} {w' : World} {sha256Hex : Bytes → String} {jobId : String}

theorem row_of_store (same : w'.store = w.store) (jobId : String) : w'.row jobId = w.row jobId := by
  unfold row
  rw [same]

variable {db db' : Db} {id poolId : String} {now : Millis} {fails : Bool} {result : EpisodeResult}

theorem row_of_agentJobs (store : w.store = some db) (store' : w'.store = some db')
    (same : db'.agentJobs = db.agentJobs) (jobId : String) : w'.row jobId = w.row jobId := by
  rw [row_some store, row_some store', same]

theorem jobStep_of_eq {carried : Option (AgentJobCompleteRequest × Bytes)}
    (same : w'.row jobId = w.row jobId) :
    JobStep sha256Hex jobId carried (w.row jobId) (w'.row jobId) := by
  rw [same]
  exact .same _

theorem jobStep_of_insert {carried : Option (AgentJobCompleteRequest × Bytes)} {row : AgentJobRow}
    (store : w.store = some db) (store' : w'.store = some db')
    (changed : db'.agentJobs = db.agentJobs.insert id row)
    (step : id = jobId → JobStep sha256Hex jobId carried db.agentJobs[jobId]? (some row)) :
    JobStep sha256Hex jobId carried (w.row jobId) (w'.row jobId) := by
  rw [row_some store, row_some store', changed, lookup_insert]
  by_cases here : id = jobId
  · rw [if_pos here]
    exact step here
  · rw [if_neg here]
    exact .same _

/-- A step that leaves the store and the calls of `complete_agent_job` alone. -/
structure SameCalls (w w' : World) : Prop where
  store : w'.store = w.store
  completes : w'.completes = w.completes

theorem sameCalls_continueReclaim (t : Nat) (rest : List Queue.Candidate) :
    SameCalls w (w.continueReclaim t rest) := by
  cases rest with
  | nil => exact ⟨rfl, rfl⟩
  | cons => exact ⟨rfl, rfl⟩

theorem jobStep_persistJob {t : Nat} {job : AgentJob} {deadlineAtMs : Millis}
    (taken : w.persistJob t poolId job deadlineAtMs now = some w') :
    JobStep sha256Hex jobId none (w.row jobId) (w'.row jobId) := by
  obtain rfl | ⟨db, db', store, enqueued, rfl⟩ := persistJob_cases taken
  · exact .same _
  · obtain ⟨row, _, phase, _, _, agentJobs⟩ := Db.enqueueAgentJob_agentJobs enqueued
    rw [row_some store, row_some rfl, agentJobs, lookup_insertIfNew]
    by_cases fresh : job.jobId = jobId ∧ job.jobId ∉ db.agentJobs
    · rw [if_pos fresh]
      obtain ⟨rfl, missing⟩ := fresh
      have none_ : db.agentJobs[job.jobId]? = none := by
        cases found : db.agentJobs[job.jobId]? with
        | none => rfl
        | some row => exact absurd ((mem_iff_lookup _ _).mpr ⟨row, found⟩) missing
      rw [none_]
      exact .created phase
    · rw [if_neg fresh]
      exact .same _

theorem jobStep_execLease {t : Nat} (taken : w.execLease t now fails = some w') :
    JobStep sha256Hex jobId none (w.row jobId) (w'.row jobId) := by
  obtain ⟨call, db, _, store, _, rfl | ⟨rfl, _⟩ | ⟨row, present, phase, run, rfl⟩⟩ :=
    execLease_cases taken
  · exact .same _
  · exact .same _
  · apply jobStep_of_insert store rfl rfl
    rintro rfl
    rw [present]
    exact .leased phase rfl rfl

theorem jobStep_execRequeue {t : Nat} {uuid : String}
    (taken : w.execRequeue t uuid now fails = some w') :
    JobStep sha256Hex jobId none (w.row jobId) (w'.row jobId) := by
  obtain ⟨candidate, rest, db, _, store, rfl | ⟨row, present, phase, _, run, rfl⟩⟩ :=
    execRequeue_cases taken
  · exact jobStep_of_eq (row_of_store ((sameCalls_continueReclaim t rest).store) jobId)
  · apply jobStep_of_insert store rfl rfl
    rintro rfl
    rw [present]
    refine .requeued phase rfl ?_
    rw [run]
    exact Queue.reclaimedRunId_length _ _

theorem jobStep_markTerminal {cancelled : Bool}
    (taken : w.markTerminal id cancelled now = some w') :
    JobStep sha256Hex jobId none (w.row jobId) (w'.row jobId) := by
  obtain ⟨db, store, rfl⟩ := Option.map_eq_some_iff.mp taken
  rcases db.markAgentJobTerminal_cases now id (if cancelled then .cancelled else .timedOut) with
    same | ⟨row, present, phase, changed⟩
  · apply jobStep_of_eq
    rw [row_some store, row_some rfl, same]
  · apply jobStep_of_insert store rfl
    · rw [changed]
    rintro rfl
    rw [present]
    refine .closed ?_ ?_ rfl
    · rcases phase with phase | phase <;> rw [phase] <;> decide
    · cases cancelled <;> intro same <;> cases same

theorem jobStep_commit {request : AgentJobCompleteRequest} {encoded : Bytes}
    {decision : IdempotencyDecision} (store : w.store = some db) (store' : w'.store = some db')
    (answered : db.commitAgentCompletion sha256Hex now request encoded result =
      .ok (decision, db')) :
    JobStep sha256Hex jobId (some (request, encoded)) (w.row jobId) (w'.row jobId) := by
  rcases Db.commitAgentCompletion_cases answered with
    ⟨rfl, _⟩ | ⟨row, closed, present, phase, run, agent, _, _, ended⟩
  · exact jobStep_of_eq (row_of_agentJobs store store' rfl jobId)
  · apply jobStep_of_insert store store'
    · rw [ended]
    rintro rfl
    rw [present]
    exact .completed rfl rfl phase agent run rfl rfl rfl rfl

theorem jobStep_execCheck {t : Nat} (taken : w.execCheck sha256Hex t now fails = some w') :
    JobStep sha256Hex jobId (w.carried (.execCheck t now fails)) (w.row jobId) (w'.row jobId) := by
  obtain ⟨request, encoded, db, checking, store, rfl | ⟨decision, db', answered, rfl⟩⟩ :=
    execCheck_cases taken
  · exact .same _
  · simp only [carried, checking]
    exact jobStep_commit store rfl answered

theorem jobStep_execCommit {t : Nat} (taken : w.execCommit sha256Hex t now fails = some w') :
    JobStep sha256Hex jobId (w.carried (.execCommit t now fails)) (w.row jobId) (w'.row jobId) := by
  obtain ⟨request, encoded, result, db, committing, store, done⟩ := execCommit_cases taken
  have carries : w.carried (.execCommit t now fails) = some (request, encoded) := by
    simp only [carried, committing]
  rw [carries]
  rcases done with rfl | ⟨decision, db', answered, ⟨_, rfl⟩ | ⟨_, rfl⟩⟩
  · exact .same _
  · exact jobStep_commit store rfl answered
  · exact jobStep_commit store rfl answered

/-! ### Steps that leave the store alone -/

theorem sameCalls_restorePersisted (taken : w.restorePersisted id = some w') : SameCalls w w' := by
  obtain ⟨row, leasedAgentId, _, _, rfl⟩ := restorePersisted_cases taken
  exact ⟨rfl, rfl⟩

theorem sameCalls_poll {t : Nat} {agentId : String} {can : AgentJob → Bool} {reserved : Bool}
    (taken : w.poll t poolId agentId can reserved = some w') : SameCalls w w' := by
  obtain rfl | ⟨_, _, _, _, ⟨_, rfl⟩ | ⟨_, rfl⟩⟩ := poll_cases taken
  · exact ⟨rfl, rfl⟩
  · exact ⟨rfl, rfl⟩
  · exact ⟨rfl, rfl⟩

theorem sameCalls_finishPoll {t : Nat} (taken : w.finishPoll t = some w') : SameCalls w w' := by
  obtain ⟨call, answer, _, _, ⟨_, rfl⟩ | ⟨_, rfl⟩⟩ := finishPoll_cases taken
  · exact ⟨rfl, rfl⟩
  · exact ⟨rfl, rfl⟩

theorem store_complete {t : Nat} {request : AgentJobCompleteRequest} {encoded : Bytes}
    (taken : w.complete t request encoded result = some w') : w'.store = w.store := by
  obtain rfl | ⟨_, ⟨_, _, rfl⟩ | ⟨_, _, _, _, _, ⟨_, rfl⟩ | ⟨_, rfl⟩⟩⟩ := complete_cases taken
  · rfl
  · rfl
  · rfl
  · rfl

theorem store_execLoad {t : Nat} (taken : w.execLoad t result fails = some w') :
    w'.store = w.store := by
  obtain ⟨_, _, _, _, rfl | rfl⟩ := execLoad_cases taken
  · rfl
  · rfl

theorem store_finishComplete {t : Nat} (taken : w.finishComplete t = some w') :
    w'.store = w.store := by
  obtain ⟨_, _, _, rfl⟩ := finishComplete_cases taken
  rfl

theorem sameCalls_reclaim {t : Nat} {stale : String → Bool} {uuids : String → String}
    (taken : w.reclaim t stale uuids = some w') : SameCalls w w' := by
  unfold reclaim at taken
  split at taken
  · cases taken
  · split at taken
    · cases taken
      exact sameCalls_continueReclaim t _
    · cases taken
      exact ⟨rfl, rfl⟩

theorem sameCalls_finishReclaim {t : Nat} (taken : w.finishReclaim t = some w') :
    SameCalls w w' := by
  obtain ⟨candidate, replacement, rest, _, rfl⟩ := finishReclaim_cases taken
  have continued := sameCalls_continueReclaim
    (w := { w with queue := w.queue.applyReclaim candidate replacement }) t rest
  exact ⟨continued.store, continued.completes⟩

theorem jobStep {label : Label} (taken : w.step sha256Hex label = some w') (jobId : String) :
    JobStep sha256Hex jobId (w.carried label) (w.row jobId) (w'.row jobId) := by
  cases label with
  | persistJob => exact jobStep_persistJob taken
  | enqueuePersisted t =>
    obtain ⟨producer, _, rfl⟩ := Option.map_eq_some_iff.mp taken
    exact .same _
  | enqueue =>
    cases taken
    exact .same _
  | restorePersisted id =>
    exact jobStep_of_eq (row_of_store (sameCalls_restorePersisted taken).store jobId)
  | poll =>
    exact jobStep_of_eq (row_of_store (sameCalls_poll taken).store jobId)
  | execLease => exact jobStep_execLease taken
  | finishPoll t => exact jobStep_of_eq (row_of_store (sameCalls_finishPoll taken).store jobId)
  | complete =>
    exact jobStep_of_eq (row_of_store (store_complete taken) jobId)
  | execCheck => exact jobStep_execCheck taken
  | execLoad => exact jobStep_of_eq (row_of_store (store_execLoad taken) jobId)
  | execCommit => exact jobStep_execCommit taken
  | finishComplete t => exact jobStep_of_eq (row_of_store (store_finishComplete taken) jobId)
  | abandon =>
    cases taken
    exact .same _
  | markTerminal => exact jobStep_markTerminal taken
  | reclaim =>
    exact jobStep_of_eq (row_of_store (sameCalls_reclaim taken).store jobId)
  | execRequeue => exact jobStep_execRequeue taken
  | finishReclaim t =>
    exact jobStep_of_eq (row_of_store (sameCalls_finishReclaim taken).store jobId)
  | otherCommand db =>
    obtain ⟨before, store, _, rfl⟩ := otherCommand_cases taken
    apply jobStep_of_eq
    rw [row_some store, row_some rfl]
  | restart =>
    cases taken
    exact .same _

end World

section JobStep

variable {sha256Hex : Bytes → String} {jobId : String} {row row' : AgentJobRow}
  {carried : Option (AgentJobCompleteRequest × Bytes)} {before after : Option AgentJobRow}

theorem JobStep.final (step : JobStep sha256Hex jobId carried (some row) after)
    (completed : row.phase = .completed) : after = some row := by
  cases step with
  | same => rfl
  | leased phase => cases completed.symm.trans phase
  | requeued phase => cases completed.symm.trans phase
  | closed phase => exact absurd completed phase
  | completed _ _ phase => cases completed.symm.trans phase

theorem JobStep.run (step : JobStep sha256Hex jobId carried (some row) after) :
    ∃ row', after = some row' ∧
      (row'.runId = row.runId ∨ row.runId.length < row'.runId.length) := by
  cases step with
  | same => exact ⟨row, rfl, Or.inl rfl⟩
  | leased _ _ run => exact ⟨_, rfl, Or.inl run⟩
  | requeued _ _ longer => exact ⟨_, rfl, Or.inr longer⟩
  | closed _ _ run => exact ⟨_, rfl, Or.inl run⟩
  | completed _ _ _ _ _ _ _ run' => exact ⟨_, rfl, Or.inl run'⟩

theorem JobStep.commit (step : JobStep sha256Hex jobId carried before (some row'))
    (completed : row'.phase = .completed)
    (fresh : ∀ row, before = some row → row.phase ≠ .completed) :
    ∃ row request encoded, before = some row ∧ carried = some (request, encoded) ∧
      request.jobId = jobId ∧ row.phase = .leased ∧
      row.agentId = request.agentId ∧ row.runId = request.runId ∧
      row'.agentId = request.agentId ∧ row'.runId = request.runId ∧
      row'.completionChecksum = some (sha256Hex encoded) := by
  cases step with
  | same => exact absurd completed (fresh row' rfl)
  | created phase => cases completed.symm.trans phase
  | leased _ phase' => cases completed.symm.trans phase'
  | requeued _ phase' => cases completed.symm.trans phase'
  | closed _ phase' => exact absurd completed phase'
  | completed carries ofJob phase agent run _ agent' run' checksum =>
    exact ⟨_, _, _, rfl, carries, ofJob, phase, agent, run, agent'.trans agent, run'.trans run,
      checksum⟩

end JobStep

namespace World

variable {w w' : World} {sha256Hex : Bytes → String}

/-! ### Runs -/

theorem completed_along {jobId : String} {row : AgentJobRow} (completed : row.phase = .completed)
    (schedule : List Label) (present : w.row jobId = some row)
    (ran : (storedSystem sha256Hex).exec w schedule = some w') : w'.row jobId = some row := by
  induction schedule generalizing w with
  | nil =>
    cases ran
    exact present
  | cons label rest ih =>
    obtain ⟨middle, taken, ran⟩ := Option.bind_eq_some_iff.mp ran
    have step : JobStep sha256Hex jobId _ (w.row jobId) (middle.row jobId) := jobStep taken jobId
    rw [present] at step
    exact ih (step.final completed) ran

theorem run_along {jobId : String} {row : AgentJobRow} (schedule : List Label)
    (present : w.row jobId = some row)
    (ran : (storedSystem sha256Hex).exec w schedule = some w') :
    ∃ row', w'.row jobId = some row' ∧
      (row'.runId = row.runId ∨ row.runId.length < row'.runId.length) := by
  induction schedule generalizing w row with
  | nil =>
    cases ran
    exact ⟨row, present, Or.inl rfl⟩
  | cons label rest ih =>
    obtain ⟨middle, taken, ran⟩ := Option.bind_eq_some_iff.mp ran
    have step : JobStep sha256Hex jobId _ (w.row jobId) (middle.row jobId) := jobStep taken jobId
    rw [present] at step
    obtain ⟨row₁, present₁, grown₁⟩ := step.run
    obtain ⟨row₂, present₂, grown₂⟩ := ih present₁ ran
    refine ⟨row₂, present₂, ?_⟩
    rcases grown₁ with same₁ | longer₁
    · rw [← same₁]
      exact grown₂
    · rcases grown₂ with same₂ | longer₂
      · rw [same₂]
        exact Or.inr longer₁
      · exact Or.inr (longer₁.trans longer₂)

/-- The row holds this completion. -/
def HoldsCompletion (w : World) (request : AgentJobCompleteRequest) : Prop :=
  ∃ row, w.row request.jobId = some row ∧ row.phase = .completed ∧
    row.agentId = request.agentId ∧ row.runId = request.runId

variable {label : Label}

theorem HoldsCompletion.step {request : AgentJobCompleteRequest} (holds : w.HoldsCompletion request)
    (taken : w.step sha256Hex label = some w') : w'.HoldsCompletion request := by
  obtain ⟨row, present, completed, facts⟩ := holds
  have step := jobStep taken request.jobId
  rw [present] at step
  exact ⟨row, step.final completed, completed, facts⟩

/-- What holds between two steps: a store is attached, and a call that goes on after its commit
has its completion in the row. -/
structure Committing (w : World) : Prop where
  attached : w.store.isSome = true
  committed : ∀ (t : Nat) request result,
    w.completes[t]? = some (CompleteCall.committed request result) → w.HoldsCompletion request

theorem attached_step (attached : w.store.isSome = true)
    (taken : w.step sha256Hex label = some w') :
    w'.store.isSome = true := by
  have kept : w'.store = w.store → w'.store.isSome = true := fun same => same ▸ attached
  cases label with
  | persistJob =>
    obtain rfl | ⟨_, _, _, _, rfl⟩ := persistJob_cases taken
    · exact attached
    · rfl
  | enqueuePersisted t =>
    obtain ⟨producer, _, rfl⟩ := Option.map_eq_some_iff.mp taken
    exact attached
  | enqueue =>
    cases taken
    exact attached
  | restorePersisted id => exact kept (sameCalls_restorePersisted taken).store
  | poll => exact kept (sameCalls_poll taken).store
  | execLease =>
    obtain ⟨_, _, _, _, _, rfl | ⟨rfl, _⟩ | ⟨_, _, _, _, rfl⟩⟩ := execLease_cases taken
    · exact attached
    · exact attached
    · rfl
  | finishPoll t => exact kept (sameCalls_finishPoll taken).store
  | complete => exact kept (store_complete taken)
  | execCheck =>
    obtain ⟨_, _, _, _, _, rfl | ⟨_, _, _, rfl⟩⟩ := execCheck_cases taken
    · exact attached
    · rfl
  | execLoad => exact kept (store_execLoad taken)
  | execCommit =>
    obtain ⟨_, _, _, _, _, _, rfl | ⟨_, _, _, ⟨_, rfl⟩ | ⟨_, rfl⟩⟩⟩ := execCommit_cases taken
    · exact attached
    · rfl
    · rfl
  | finishComplete t => exact kept (store_finishComplete taken)
  | abandon =>
    cases taken
    exact attached
  | markTerminal =>
    obtain ⟨db, _, rfl⟩ := Option.map_eq_some_iff.mp taken
    rfl
  | reclaim => exact kept (sameCalls_reclaim taken).store
  | execRequeue t =>
    obtain ⟨_, _, _, _, _, rfl | ⟨_, _, _, _, _, rfl⟩⟩ := execRequeue_cases taken
    · exact kept (sameCalls_continueReclaim t _).store
    · rfl
  | finishReclaim t => exact kept (sameCalls_finishReclaim taken).store
  | otherCommand db =>
    obtain ⟨_, _, _, rfl⟩ := otherCommand_cases taken
    rfl
  | restart =>
    cases taken
    exact attached

theorem committed_step (taken : w.step sha256Hex label = some w') {t : Nat}
    {request : AgentJobCompleteRequest} {result : EpisodeResult}
    (present : w'.completes[t]? = some (.committed request result)) :
    w.completes[t]? = some (.committed request result) ∨ w'.HoldsCompletion request := by
  have kept (same : w'.completes = w.completes) :
      w.completes[t]? = some (.committed request result) ∨ w'.HoldsCompletion request :=
    Or.inl (same ▸ present)
  have ended (k : Nat) (same : w'.completes = w.completes.erase k) :
      w.completes[t]? = some (.committed request result) ∨ w'.HoldsCompletion request := by
    rw [same] at present
    exact Or.inl (lookup_of_erase present)
  have begun (k : Nat) (call : CompleteCall) (same : w'.completes = w.completes.insert k call)
      (early : ∀ request result, call ≠ .committed request result) :
      w.completes[t]? = some (.committed request result) ∨ w'.HoldsCompletion request := by
    rw [same] at present
    rcases lookup_insert_cases present with ⟨_, here⟩ | old
    · exact absurd here.symm (early request result)
    · exact Or.inl old
  cases label with
  | persistJob =>
    obtain rfl | ⟨_, _, _, _, rfl⟩ := persistJob_cases taken
    · exact kept rfl
    · exact kept rfl
  | enqueuePersisted t =>
    obtain ⟨producer, _, rfl⟩ := Option.map_eq_some_iff.mp taken
    exact kept rfl
  | enqueue =>
    cases taken
    exact kept rfl
  | restorePersisted id => exact kept (sameCalls_restorePersisted taken).completes
  | poll => exact kept (sameCalls_poll taken).completes
  | execLease =>
    obtain ⟨_, _, _, _, _, rfl | ⟨rfl, _⟩ | ⟨_, _, _, _, rfl⟩⟩ := execLease_cases taken
    · exact kept rfl
    · exact kept rfl
    · exact kept rfl
  | finishPoll t => exact kept (sameCalls_finishPoll taken).completes
  | complete k =>
    obtain rfl | ⟨_, ⟨_, _, rfl⟩ | ⟨_, _, _, _, _, ⟨_, rfl⟩ | ⟨_, rfl⟩⟩⟩ := complete_cases taken
    · exact kept rfl
    · exact begun k _ rfl (fun _ _ => CompleteCall.noConfusion)
    · exact kept rfl
    · exact begun k _ rfl (fun _ _ => CompleteCall.noConfusion)
  | execCheck k =>
    obtain ⟨_, _, _, _, _, rfl | ⟨_, _, _, rfl⟩⟩ := execCheck_cases taken
    · exact ended k rfl
    · exact ended k rfl
  | execLoad k =>
    obtain ⟨_, _, _, _, rfl | rfl⟩ := execLoad_cases taken
    · exact ended k rfl
    · exact begun k _ rfl (fun _ _ => CompleteCall.noConfusion)
  | execCommit k =>
    obtain ⟨_, _, _, _, _, _, rfl | ⟨_, db', answered, ⟨⟨record, rfl⟩, rfl⟩ | ⟨_, rfl⟩⟩⟩ :=
      execCommit_cases taken
    · exact ended k rfl
    · rcases lookup_insert_cases present with ⟨_, here⟩ | old
      · -- the call has just committed, and its row holds the completion
        obtain ⟨rfl, rfl⟩ := CompleteCall.committed.inj here
        obtain ⟨row, held, completed, agent, run, _⟩ := Db.commitAgentCompletion_replay answered
        exact Or.inr ⟨row, by rw [row_some rfl]; exact held, completed, agent, run⟩
      · exact Or.inl old
    · exact ended k rfl
  | finishComplete k =>
    obtain ⟨_, _, _, rfl⟩ := finishComplete_cases taken
    exact ended k rfl
  | abandon =>
    cases taken
    exact kept rfl
  | markTerminal =>
    obtain ⟨db, _, rfl⟩ := Option.map_eq_some_iff.mp taken
    exact kept rfl
  | reclaim => exact kept (sameCalls_reclaim taken).completes
  | execRequeue k =>
    obtain ⟨_, _, _, _, _, rfl | ⟨_, _, _, _, _, rfl⟩⟩ := execRequeue_cases taken
    · exact kept (sameCalls_continueReclaim k _).completes
    · exact kept rfl
  | finishReclaim t => exact kept (sameCalls_finishReclaim taken).completes
  | otherCommand db =>
    obtain ⟨_, _, _, rfl⟩ := otherCommand_cases taken
    exact kept rfl
  | restart =>
    cases taken
    cases Std.ExtTreeMap.getElem?_empty.symm.trans present

theorem Committing.step (committing : w.Committing) (taken : w.step sha256Hex label = some w') :
    w'.Committing where
  attached := attached_step committing.attached taken
  committed := by
    intro t request result present
    rcases committed_step taken present with before | holds
    · exact (committing.committed t request result before).step taken
    · exact holds

theorem committing_of_reachable (reached : Reachable (storedSystem sha256Hex) w) :
    w.Committing := by
  refine ReachableWhen.invariant (motive := Committing) ?_ ?_ reached
  · rintro w ⟨⟨store, _, rfl⟩, attached⟩
    refine ⟨attached, ?_⟩
    intro t request result present
    cases Std.ExtTreeMap.getElem?_empty.symm.trans present
  · intro w label w' _ committing _ taken
    exact committing.step taken

theorem Committing.acknowledged (committing : w.Committing) {request : AgentJobCompleteRequest}
    (taken : w.step sha256Hex label = some w')
    (acknowledges : w.acknowledged sha256Hex label = some request) :
    w'.HoldsCompletion request := by
  cases label with
  | execCheck t now fails =>
    change w.acknowledgedByCheck sha256Hex t now fails = some request at acknowledges
    change w.execCheck sha256Hex t now fails = some w' at taken
    unfold acknowledgedByCheck at acknowledges
    unfold execCheck at taken
    split at acknowledges
    · next request' encoded db checking store =>
      rw [checking, store] at taken
      simp only at taken
      split at acknowledges
      · cases acknowledges
      · next succeeds =>
        rw [if_neg succeeds] at taken
        split at acknowledges
        · next record db' answered =>
          cases acknowledges
          rw [answered] at taken
          cases taken
          obtain ⟨row, held, completed, agent, run, _⟩ := Db.commitAgentCompletion_replay answered
          exact ⟨row, by rw [row_some rfl]; exact held, completed, agent, run⟩
        · cases acknowledges
    · cases acknowledges
  | finishComplete t =>
    change w.acknowledgedByFinish t = some request at acknowledges
    unfold acknowledgedByFinish at acknowledges
    split at acknowledges
    · next request' result completing =>
      split at acknowledges
      · cases acknowledges
        exact (committing.committed t _ result completing).step taken
      · cases acknowledges
    · cases acknowledges
  | complete t request' =>
    change w.acknowledgedAtOnce request' = some request at acknowledges
    unfold acknowledgedAtOnce at acknowledges
    rw [if_pos committing.attached] at acknowledges
    split at acknowledges
    · cases acknowledges
    · split at acknowledges <;> cases acknowledges
  | _ => cases acknowledges

/-- With a store attached, in every run: a step that completes a job commits the completion of
the agent and run that the row held as its lease; a completed row is final, so no other content
is committed for the job; and a completion of a run that the row has left behind is never
acknowledged again. -/
theorem single_accepted_completion (reached : Reachable (storedSystem sha256Hex) w) :
    (∀ (label : Label) (w' : World) (jobId : String) (row' : AgentJobRow),
      w.step sha256Hex label = some w' → w'.row jobId = some row' → row'.phase = .completed →
      (∀ row, w.row jobId = some row → row.phase ≠ .completed) →
      ∃ row request encoded, w.row jobId = some row ∧
        w.carried label = some (request, encoded) ∧ request.jobId = jobId ∧ row.phase = .leased ∧
        row.agentId = request.agentId ∧ row.runId = request.runId ∧
        row'.agentId = request.agentId ∧ row'.runId = request.runId ∧
        row'.completionChecksum = some (sha256Hex encoded)) ∧
    (∀ (jobId : String) (row : AgentJobRow) (schedule : List Label) (w' : World),
      w.row jobId = some row → row.phase = .completed →
      (storedSystem sha256Hex).exec w schedule = some w' → w'.row jobId = some row) ∧
    (∀ (label : Label) (w' : World) (request : AgentJobCompleteRequest),
      w.step sha256Hex label = some w' → w.acknowledged sha256Hex label = some request →
      w'.HoldsCompletion request) ∧
    ∀ (jobId : String) (row row' : AgentJobRow) (schedule later : List Label) (w' w'' w₃ : World)
      (label : Label) (request : AgentJobCompleteRequest),
      w.row jobId = some row → (storedSystem sha256Hex).exec w schedule = some w' →
      w'.row jobId = some row' → row'.runId ≠ row.runId →
      (storedSystem sha256Hex).exec w' later = some w'' → w''.step sha256Hex label = some w₃ →
      w''.acknowledged sha256Hex label = some request → request.jobId = jobId →
      request.runId ≠ row.runId := by
  refine ⟨?_, ?_, ?_, ?_⟩
  · intro label w' jobId row' taken present completed fresh
    have step := jobStep taken jobId
    rw [present] at step
    exact step.commit completed fresh
  · intro jobId row schedule w' present completed ran
    exact completed_along completed schedule present ran
  · intro label w' request taken acknowledges
    exact (committing_of_reachable reached).acknowledged taken acknowledges
  · intro jobId row row' schedule later w' w'' w₃ label request present ran present' left ranLater
      taken acknowledges ofJob
    have reached' : Reachable (storedSystem sha256Hex) w'' :=
      (reached.exec schedule ran).exec later ranLater
    obtain ⟨row₃, held, _, _, run⟩ :=
      (committing_of_reachable reached').acknowledged taken acknowledges
    rw [ofJob] at held
    have onward : (storedSystem sha256Hex).exec w'' [label] = some w₃ := by
      unfold System.exec
      rw [show (storedSystem sha256Hex).step w'' label = some w₃ from taken]
      rfl
    obtain ⟨row₁, present₁, grown₁⟩ := run_along schedule present ran
    obtain ⟨row₂, present₂, grown₂⟩ := run_along later present' ranLater
    obtain ⟨row₄, present₄, grown₃⟩ := run_along [label] present₂ onward
    obtain rfl := Option.some.inj (present'.symm.trans present₁)
    obtain rfl := Option.some.inj (held.symm.trans present₄)
    -- the run of the row has grown, and a run that has grown is another one
    have longer : row.runId.length < row'.runId.length := by
      rcases grown₁ with same | longer
      · exact absurd same left
      · exact longer
    have stays : row'.runId.length ≤ row₃.runId.length := by
      have first : row'.runId.length ≤ row₂.runId.length := by
        rcases grown₂ with same | longer
        · rw [same]
        · exact Nat.le_of_lt longer
      rcases grown₃ with same | longer
      · rw [same]
        exact first
      · omega
    intro same
    rw [← run] at same
    rw [same] at stays
    omega

/-- A job is leased to `a1`, reclaimed, leased to `a2` and completed by `a2`. -/
def completedAfterReclaim : List Label :=
  [.persistJob 0 "pool" oneJob 60000 1, .enqueuePersisted 0,
    .poll 0 "pool" "a1" (fun _ => true) true, .execLease 0 2 false, .finishPoll 0,
    .reclaim 0 (fun agentId => agentId == "a1") (fun _ => ""), .execRequeue 0 "u1" 3 false,
    .finishReclaim 0, .poll 1 "pool" "a2" (fun _ => true) true, .execLease 1 4 false,
    .finishPoll 1,
    .complete 0 { jobId := "job-e1", runId := "run-1:reclaim:u1", agentId := "a2" } [1] {},
    .execLoad 0 { episodeId := "e1", status := "completed" } false, .execCommit 0 5 false]

theorem single_accepted_completion_after_reclaim :
    ∃ (w : World) (row : AgentJobRow), w.row "job-e1" = some row ∧ row.agentId = "a2" ∧
      row.runId = "run-1:reclaim:u1" ∧ row.phase = .completed ∧
      ∀ (schedule : List Label) (w' : World),
        (storedSystem fun _ => "").exec w schedule = some w' → w'.row "job-e1" = some row := by
  have facts : ((storedSystem fun _ => "").exec { store := some oneEpisode }
      completedAfterReclaim).any (fun w => (w.row "job-e1").any fun row =>
        row.agentId == "a2" && row.runId == "run-1:reclaim:u1" &&
          decide (row.phase = .completed)) = true := by decide +kernel
  obtain ⟨w, ran, facts⟩ := (Option.any_eq_true _ _).mp facts
  obtain ⟨row, present, facts⟩ := (Option.any_eq_true _ _).mp facts
  simp only [Bool.and_eq_true, beq_iff_eq, decide_eq_true_eq] at facts
  obtain ⟨⟨agent, run⟩, completed⟩ := facts
  have reached : Reachable (storedSystem fun _ => "") w :=
    Reachable.of_exec ⟨initial_oneEpisode, rfl⟩ completedAfterReclaim ran
  obtain ⟨_, final, _, _⟩ := single_accepted_completion reached
  exact ⟨w, row, present, agent, run, completed, fun schedule w' =>
    final "job-e1" row schedule w' present completed⟩

end World

end UEnv.AgentJob
