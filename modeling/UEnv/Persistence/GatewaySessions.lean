import UEnv.Persistence.Terminal

/-!
# Gateway sessions that wait for their cleanup

`load_gateway_cleanup` hands the sessions of ended episodes to the retry loop until each of them
is confirmed destroyed. A session leaves its table only with its episode, by the cascade of a
sweep.
-/

namespace UEnv.Persistence

open Proto Wire Tables Fallible Runs Service

/-- sqlite.rs, 68-72. -/
structure RecoveryGatewaySession where
  sessionId : String
  gatewayPublicUrl : String
  gatewayApiKey : List UInt8

namespace Db

variable (db : Db)

/-- The condition of `load_gateway_cleanup` on a session joined with its episode. -/
def needsCleanup (row : GatewaySessionRow) : Bool :=
  (db.episodes[row.episodeId]?).any fun episode =>
    row.phase == .cleanupPending || (row.phase == .active && episode.phase.terminal)

/-- `load_gateway_cleanup` (sqlite.rs, 1430-1448). -/
def loadGatewayCleanup : List RecoveryGatewaySession :=
  ((db.gatewaySessions.toList.filter fun entry => db.needsCleanup entry.2).insertionSort
    fun a b => a.2.updatedAtMs ≤ b.2.updatedAtMs).map fun entry =>
      { sessionId := entry.1, gatewayPublicUrl := entry.2.gatewayPublicUrl
        gatewayApiKey := entry.2.gatewayApiKey }

/-- `load_gateway_cleanup` returns the session. -/
def ReturnsForCleanup (sessionId : String) : Prop :=
  sessionId ∈ db.loadGatewayCleanup.map (·.sessionId)

theorem returnsForCleanup_iff (sessionId : String) : db.ReturnsForCleanup sessionId ↔
      ∃ row, db.gatewaySessions[sessionId]? = some row ∧ db.needsCleanup row = true := by
  unfold ReturnsForCleanup loadGatewayCleanup
  rw [List.map_map, List.mem_map]
  constructor
  · rintro ⟨entry, member, rfl⟩
    rw [List.mem_insertionSort, List.mem_filter,
      Std.ExtTreeMap.mem_toList_iff_getElem?_eq_some] at member
    exact ⟨entry.2, member⟩
  · rintro ⟨row, present, needed⟩
    refine ⟨(sessionId, row), ?_, rfl⟩
    rw [List.mem_insertionSort, List.mem_filter, Std.ExtTreeMap.mem_toList_iff_getElem?_eq_some]
    exact ⟨present, needed⟩

/-- The terminal episodes that a sweep finds older than its cutoff. -/
def aged (terminalCutoffMs : Millis) (row : EpisodeRow) : Bool :=
  row.phase.terminal && decide (row.updatedAtMs < terminalCutoffMs)

/-- The database without the aged episodes. -/
def recent (terminalCutoffMs : Millis) : Db :=
  { db with episodes := db.episodes.filter fun _ row => !aged terminalCutoffMs row }

/-- The episodes that a sweep deletes: a terminal one older than the cutoff, or behind the newest
`maxCompletedEntries` of those that are left. -/
def sweepsEpisode (terminalCutoffMs : Millis) (maxCompletedEntries : Nat) (id : String) : Bool :=
  (db.episodes[id]?).any fun row => row.phase.terminal &&
    (decide (row.updatedAtMs < terminalCutoffMs) || (decide (0 < maxCompletedEntries) &&
      ((db.recent terminalCutoffMs).surplus maxCompletedEntries).contains id))

variable {db}

/-! ### What a sweep keeps -/

theorem deleteEpisodes_episode (doomed : String → EpisodeRow → Bool) (id : String) :
    (db.deleteEpisodes doomed).episodes[id]? =
      if (db.episodes[id]?).any (doomed id) then none else db.episodes[id]? := by
  have filtered : (db.deleteEpisodes doomed).episodes[id]? =
      (db.episodes[id]?).filter fun row => !doomed id row := lookup_filter _ _ _
  rw [filtered]
  cases db.episodes[id]? with
  | none => rfl
  | some row => cases doom : doomed id row <;> simp [doom]

/-- The cascade on a table whose rows belong to episodes. -/
theorem lookup_cascade {ρ : Type} (table : Table ρ) (owner : ρ → String)
    (doomed : String → EpisodeRow → Bool) (id : String) :
    (table.filter fun _ row =>
      ((db.episodes[owner row]?).filter (doomed (owner row))).isNone)[id]? =
      (table[id]?).filter fun row => !(db.episodes[owner row]?).any (doomed (owner row)) := by
  rw [lookup_filter]
  congr 1
  funext row
  cases db.episodes[owner row]? with
  | none => rfl
  | some episode => cases doom : doomed (owner row) episode <;> simp [doom]

section sweep

variable (terminalCutoffMs idempotencyCutoffMs : Millis) (maxCompletedEntries : Nat)

theorem sweepsEpisode_eq (id : String) : db.sweepsEpisode terminalCutoffMs maxCompletedEntries id =
      ((db.episodes[id]?).any (aged terminalCutoffMs) ||
        decide (0 < maxCompletedEntries) && ((db.recent terminalCutoffMs).episodes[id]?).any
          fun row => row.phase.terminal &&
            ((db.recent terminalCutoffMs).surplus maxCompletedEntries).contains id) := by
  have filtered : (db.recent terminalCutoffMs).episodes[id]? =
      (db.episodes[id]?).filter fun row => !aged terminalCutoffMs row := lookup_filter _ _ _
  rw [filtered]
  unfold sweepsEpisode
  generalize ((db.recent terminalCutoffMs).surplus maxCompletedEntries).contains id = behind
  cases db.episodes[id]? with
  | none => simp
  | some row =>
    rw [Option.any_some, Option.any_some, Option.filter_some]
    cases old : aged terminalCutoffMs row with
    | true =>
      obtain ⟨terminal, early⟩ := Bool.and_eq_true_iff.mp old
      simp [terminal, early]
    | false =>
      unfold aged at old
      cases terminal : row.phase.terminal <;> simp_all

variable (db) in
theorem sweep_cases :
    ∃ cleaned : Db, cleaned.episodes = db.episodes ∧ cleaned.gatewaySessions = db.gatewaySessions ∧
      cleaned.agentJobs = db.agentJobs ∧
      db.sweep terminalCutoffMs idempotencyCutoffMs maxCompletedEntries =
        if 0 < maxCompletedEntries then
          (cleaned.deleteEpisodes fun _ row => aged terminalCutoffMs row).deleteEpisodes
            fun id row => row.phase.terminal &&
              ((db.recent terminalCutoffMs).surplus maxCompletedEntries).contains id
        else cleaned.deleteEpisodes fun _ row => aged terminalCutoffMs row :=
  ⟨{ db with
      reportIdempotency :=
        db.reportIdempotency.filter fun _ row => decide (idempotencyCutoffMs ≤ row.expiresAtMs)
      terminalOutcomes :=
        db.terminalOutcomes.filter fun _ row => decide (idempotencyCutoffMs ≤ row.expiresAtMs)
      outbox := db.outbox.filter fun _ row =>
        row.deliveredAtMs.all fun delivered => decide (terminalCutoffMs ≤ delivered) },
    rfl, rfl, rfl, rfl⟩

theorem sweep_episode (id : String) :
    (db.sweep terminalCutoffMs idempotencyCutoffMs maxCompletedEntries).episodes[id]? =
      if db.sweepsEpisode terminalCutoffMs maxCompletedEntries id then none
      else db.episodes[id]? := by
  obtain ⟨cleaned, episodes, _, _, swept⟩ :=
    sweep_cases db terminalCutoffMs idempotencyCutoffMs maxCompletedEntries
  have first : (cleaned.deleteEpisodes fun _ row => aged terminalCutoffMs row).episodes =
      (db.recent terminalCutoffMs).episodes := by
    unfold recent
    rw [← episodes]
    rfl
  rw [swept, sweepsEpisode_eq]
  split
  · next limited =>
    have young : (cleaned.deleteEpisodes fun _ row => aged terminalCutoffMs row).episodes[id]? =
        if (cleaned.episodes[id]?).any (aged terminalCutoffMs) then none
        else cleaned.episodes[id]? := deleteEpisodes_episode _ id
    rw [first, episodes] at young
    rw [deleteEpisodes_episode, first, young]
    cases old : (db.episodes[id]?).any (aged terminalCutoffMs) with
    | true => simp
    | false => simp [limited]
  · next unlimited =>
    rw [deleteEpisodes_episode, episodes]
    simp [unlimited]

/-- A sweep deletes the rows of a table with cascade that belong to the episodes it deletes. -/
theorem sweep_cascade {ρ : Type} (table : Db → Table ρ) (owner : ρ → String)
    (cascades : ∀ (db : Db) doomed (id : String), (table (db.deleteEpisodes doomed))[id]? =
      ((table db)[id]?).filter fun row => !(db.episodes[owner row]?).any (doomed (owner row)))
    (apart : ∀ db' : Db, db'.gatewaySessions = db.gatewaySessions →
      db'.agentJobs = db.agentJobs → table db' = table db) (id : String) :
    (table (db.sweep terminalCutoffMs idempotencyCutoffMs maxCompletedEntries))[id]? =
      ((table db)[id]?).filter fun row =>
        !db.sweepsEpisode terminalCutoffMs maxCompletedEntries (owner row) := by
  obtain ⟨cleaned, episodes, sessions, jobs, swept⟩ :=
    sweep_cases db terminalCutoffMs idempotencyCutoffMs maxCompletedEntries
  have first : (cleaned.deleteEpisodes fun _ row => aged terminalCutoffMs row).episodes =
      (db.recent terminalCutoffMs).episodes := by
    unfold recent
    rw [← episodes]
    rfl
  have same := apart cleaned sessions jobs
  rw [swept]
  simp only [sweepsEpisode_eq]
  split
  · next limited =>
    rw [cascades, first, cascades, same, episodes, Option.filter_filter]
    congr 1
    funext row
    simp [limited, Bool.not_or]
  · next unlimited =>
    rw [cascades, same, episodes]
    simp [unlimited]

theorem sweep_session (sessionId : String) :
    (db.sweep terminalCutoffMs idempotencyCutoffMs maxCompletedEntries).gatewaySessions[sessionId]?
      =
      (db.gatewaySessions[sessionId]?).filter fun row =>
        !db.sweepsEpisode terminalCutoffMs maxCompletedEntries row.episodeId :=
  sweep_cascade _ _ _ Db.gatewaySessions GatewaySessionRow.episodeId
    (fun db => lookup_cascade db.gatewaySessions _) (fun _ sessions _ => sessions) sessionId

theorem sweep_job (jobId : String) :
    (db.sweep terminalCutoffMs idempotencyCutoffMs maxCompletedEntries).agentJobs[jobId]? =
      (db.agentJobs[jobId]?).filter fun row =>
        !db.sweepsEpisode terminalCutoffMs maxCompletedEntries row.episodeId :=
  sweep_cascade _ _ _ Db.agentJobs AgentJobRow.episodeId
    (fun db => lookup_cascade db.agentJobs _) (fun _ _ jobs => jobs) jobId

end sweep

/-! ### What the other commands do to a session -/

theorem updateActiveEpisode_sessions (db : Db) (episodeId : String) (f : EpisodeRow → EpisodeRow) :
    (db.updateActiveEpisode episodeId f).gatewaySessions = db.gatewaySessions := by
  unfold updateActiveEpisode
  split
  · rfl
  · split <;> rfl

theorem commitTerminal_sessions {sha256Hex : Bytes → String} {now : Millis} {db' : Db}
    {result : EpisodeResult} {code message : String}
    (committed : db.commitTerminal sha256Hex now result code message = .ok db') :
    db'.gatewaySessions = db.gatewaySessions := by
  obtain ⟨_, _, ⟨_, _, rfl⟩ | ⟨_, _, rfl⟩⟩ := commitTerminal_ok committed
  · rfl
  · rfl

end Db

/-- What a command other than a sweep does to the row of one session. -/
inductive SessionStep (sessionId : String) (command : Command) :
    Option GatewaySessionRow → Option GatewaySessionRow → Prop
  | same (row : Option GatewaySessionRow) : SessionStep sessionId command row row
  | opened {row : GatewaySessionRow} (active : row.phase = .active) :
    SessionStep sessionId command none (some row)
  | refreshed {row row' : GatewaySessionRow} (episode : row'.episodeId = row.episodeId)
    (phase : row'.phase = row.phase) : SessionStep sessionId command (some row) (some row')
  | pending {row row' : GatewaySessionRow} (episode : row'.episodeId = row.episodeId)
    (phase : row'.phase = .cleanupPending) : SessionStep sessionId command (some row) (some row')
  | destroyed {row row' : GatewaySessionRow} (episode : row'.episodeId = row.episodeId)
    (named : command = .markGatewayDestroyed sessionId none) :
    SessionStep sessionId command (some row) (some row')

namespace Db

variable {db db' : Db} {sha256Hex : Bytes → String} {now : Millis} {command : Command}

theorem upsertGatewaySession_step {sessionId episodeId workerId url : String} {key : List UInt8}
    (upserted : db.upsertGatewaySession now sessionId episodeId workerId url key = .ok db')
    (id : String) :
    SessionStep id command db.gatewaySessions[id]? db'.gatewaySessions[id]? := by
  unfold upsertGatewaySession at upserted
  split at upserted
  · next missing =>
    simp only at upserted
    split at upserted
    · cases upserted
      dsimp only
      rw [lookup_insert]
      split
      · next same =>
        rw [← same, missing]
        exact .opened rfl
      · exact .same _
    · cases upserted
  · next row present =>
    cases upserted
    dsimp only
    rw [lookup_insert]
    split
    · next same =>
      rw [← same, present]
      exact .refreshed rfl rfl
    · exact .same _

theorem markGatewayDestroyed_step {sessionId : String} {error : Option String} (id : String) :
    SessionStep id (.markGatewayDestroyed sessionId error) db.gatewaySessions[id]?
      (db.markGatewayDestroyed now sessionId error).gatewaySessions[id]? := by
  unfold markGatewayDestroyed
  dsimp only
  rw [lookup_modify]
  split
  · next same =>
    subst same
    cases db.gatewaySessions[sessionId]? with
    | none => exact .same _
    | some =>
      cases error with
      | some e => exact .pending rfl rfl
      | none => exact .destroyed rfl rfl
  · exact .same _

theorem runCommand_session (ran : db.runCommand sha256Hex now command = .ok db')
    (kind : command.isSweep = false) (id : String) :
    SessionStep id command db.gatewaySessions[id]? db'.gatewaySessions[id]? := by
  have kept : db'.gatewaySessions = db.gatewaySessions →
      SessionStep id command db.gatewaySessions[id]? db'.gatewaySessions[id]? := by
    intro same
    rw [same]
    exact .same _
  cases command with
  | findOrCreateEpisode =>
    obtain ⟨answer, found, rfl⟩ := map_eq_ok.mp ran
    apply kept
    rcases findOrCreateEpisode_cases found with ⟨same, _⟩ | ⟨_, _, _, _, _, _, same⟩
    · rw [same]
    · rw [same]
  | commitTerminal => exact kept (commitTerminal_sessions ran)
  | putDispatchIntent =>
    obtain ⟨row, _, ran⟩ := bind_eq_ok.mp ran
    cases ran
    exact kept (updateActiveEpisode_sessions _ _ _)
  | markDispatchAccepted leaseId acceptedAtMs =>
    change db.markDispatchAccepted leaseId acceptedAtMs = _ at ran
    unfold markDispatchAccepted at ran
    split at ran
    · cases ran
    · cases ran
      exact kept (updateActiveEpisode_sessions _ _ _)
  | commitReportResult result idempotency outcomeCode outcomeMessage =>
    change db.commitReportResult sha256Hex now result idempotency outcomeCode outcomeMessage = _
      at ran
    unfold commitReportResult at ran
    split at ran
    · cases ran
      exact kept rfl
    · cases ran
    · obtain ⟨closed, ended, ran⟩ := bind_eq_ok.mp ran
      cases ran
      have sessions := commitTerminal_sessions ended
      exact kept sessions
  | enqueueAgentJob poolId job deadlineAtMs =>
    change db.enqueueAgentJob now poolId job deadlineAtMs = _ at ran
    unfold enqueueAgentJob at ran
    simp only at ran
    split at ran
    · cases ran
    · cases ran
      exact kept (updateActiveEpisode_sessions _ _ _)
  | leaseAgentJob jobId agentId runId =>
    cases ran
    rcases leaseAgentJob_cases db now jobId agentId runId with ⟨refused, _⟩ | ⟨_, _, _, _, leased⟩
    · exact kept (by rw [refused])
    · exact kept (by rw [leased])
  | requeueAgentJob job previousAgentId previousRunId =>
    cases ran
    rcases requeueAgentJob_cases db now job previousAgentId previousRunId with
      refused | ⟨_, _, _, _, _, requeued⟩
    · exact kept (by rw [refused])
    · exact kept (by rw [requeued])
  | commitAgentCompletion =>
    obtain ⟨answer, answered, rfl⟩ := map_eq_ok.mp ran
    apply kept
    rcases commitAgentCompletion_cases answered with
      ⟨same, _⟩ | ⟨_, closed, _, _, _, _, _, committed, ended⟩
    · rw [same]
    · rw [ended]
      have sessions := commitTerminal_sessions committed
      exact sessions
  | markAgentJobTerminal jobId phase =>
    cases ran
    rcases markAgentJobTerminal_cases db now jobId phase with same | ⟨_, _, _, changed⟩
    · exact kept (by rw [same])
    · exact kept (by rw [changed])
  | upsertGatewaySession =>
    exact upsertGatewaySession_step ran id
  | markGatewayDestroyed =>
    cases ran
    exact markGatewayDestroyed_step id
  | markOutboxDelivered =>
    cases ran
    exact kept rfl
  | sweep => cases kind

end Db

/-- The database with the sessions for which `MarkGatewayDestroyed(session, None)` was executed. -/
structure Ledger where
  db : Db := {}
  destroyed : List String := []

/-- The session that a command confirms destroyed, if it has a row. -/
def Command.confirms (db : Db) : Command → List String
  | .markGatewayDestroyed sessionId none =>
    if db.gatewaySessions.contains sessionId then [sessionId] else []
  | _ => []

/-- A command of the writer thread; one that fails is rolled back. -/
def Ledger.run (sha256Hex : Bytes → String) (s : Ledger) (call : Millis × Command) : Ledger :=
  match s.db.runCommand sha256Hex call.1 call.2 with
  | .error _ => s
  | .ok db => { db, destroyed := s.destroyed ++ call.2.confirms s.db }

def ledger (sha256Hex : Bytes → String) : System Ledger (Millis × Command) where
  init s := s = {}
  step s call := some (s.run sha256Hex call)

/-- The episode of a session has no terminal phase. -/
def Db.Unfinished (db : Db) (session : GatewaySessionRow) : Prop :=
  ∃ episode, db.episodes[session.episodeId]? = some episode ∧ episode.phase.terminal = false

/-- No session is forgotten between two states: neither its row nor its place among the sessions
to clean up is lost before it is confirmed destroyed, as long as its episode has ended, and a
sweep leaves every session that is not destroyed. -/
structure Remembers (s t : Ledger) (command : Command) : Prop where
  row : ∀ (id : String) (row : GatewaySessionRow), s.db.gatewaySessions[id]? = some row →
    t.db.gatewaySessions[id]? = none → id ∈ t.destroyed ∨ s.db.Unfinished row
  returned : ∀ (id : String) (row : GatewaySessionRow), s.db.gatewaySessions[id]? = some row →
    s.db.ReturnsForCleanup id → ¬ t.db.ReturnsForCleanup id →
    id ∈ t.destroyed ∨ s.db.Unfinished row
  swept : command.isSweep = true → ∀ (id : String) (row : GatewaySessionRow),
    s.db.gatewaySessions[id]? = some row → row.phase ≠ .destroyed →
    t.db.gatewaySessions[id]? = some row

/-- A sweep deletes no episode with a session that is not destroyed. -/
def Db.Spares (db : Db) : Command → Prop
  | .sweep terminalCutoffMs _ maxCompletedEntries =>
    ∀ (id : String) (row : GatewaySessionRow), db.gatewaySessions[id]? = some row →
      row.phase ≠ .destroyed →
      db.sweepsEpisode terminalCutoffMs maxCompletedEntries row.episodeId = false
  | _ => True

/-- A destroyed session was confirmed destroyed. -/
def Ledger.Confirmed (s : Ledger) : Prop :=
  ∀ (id : String) (row : GatewaySessionRow), s.db.gatewaySessions[id]? = some row →
    row.phase = .destroyed → id ∈ s.destroyed

section ledger

variable {sha256Hex : Bytes → String} {s t : Ledger} {call : Millis × Command}

variable (sha256Hex) in
theorem Ledger.run_cases (s : Ledger) (call : Millis × Command) :
    s.run sha256Hex call = s ∨ ∃ db, s.db.runCommand sha256Hex call.1 call.2 = .ok db ∧
      s.run sha256Hex call = { db, destroyed := s.destroyed ++ call.2.confirms s.db } := by
  unfold Ledger.run
  cases s.db.runCommand sha256Hex call.1 call.2 with
  | error e => exact Or.inl rfl
  | ok db => exact Or.inr ⟨db, rfl, rfl⟩

theorem confirms_of_present {id : String} {row : GatewaySessionRow}
    (present : s.db.gatewaySessions[id]? = some row) :
    id ∈ (Command.markGatewayDestroyed id none).confirms s.db := by
  have contained := (contains_iff_lookup s.db.gatewaySessions id).mpr ⟨row, present⟩
  change id ∈ if s.db.gatewaySessions.contains id then [id] else []
  rw [if_pos contained]
  exact List.mem_singleton.mpr rfl

/-- A row with phase `destroyed` stays what it was, or a confirmation made it. -/
theorem Ledger.Confirmed.run (confirmed : s.Confirmed) : (s.run sha256Hex call).Confirmed := by
  obtain ⟨now, command⟩ := call
  rcases s.run_cases sha256Hex (now, command) with same | ⟨db, ran, same⟩
  · rw [same]
    exact confirmed
  · rw [same]
    intro id row' present destroyed
    apply List.mem_append.mpr
    cases kind : command.isSweep with
    | false =>
      have step := Db.runCommand_session ran kind id
      rw [present] at step
      cases before : s.db.gatewaySessions[id]? with
      | none =>
        rw [before] at step
        cases step with
        | opened active => cases active.symm.trans destroyed
      | some row =>
        rw [before] at step
        cases step with
        | same => exact Or.inl (confirmed id row' before destroyed)
        | refreshed episode phase =>
          exact Or.inl (confirmed id row before (phase.symm.trans destroyed))
        | pending episode phase => cases phase.symm.trans destroyed
        | destroyed episode named =>
          right
          rw [named]
          exact confirms_of_present before
    | true =>
      cases command with
      | sweep =>
        cases ran
        dsimp only at present
        rw [Db.sweep_session] at present
        exact Or.inl (confirmed id row' (Option.filter_eq_some_iff.mp present).1 destroyed)
      | _ => cases kind

section step

variable {sweeping : Prop} {db db' : Db} {id : String}

/-- An episode row outlives every command but a sweep, and a terminal one keeps its phase. -/
theorem Db.episode_persists {row : EpisodeRow} (still : ¬ sweeping)
    (evolves : Db.Evolves sha256Hex sweeping db db') (present : db.episodes[id]? = some row) :
    ∃ row', db'.episodes[id]? = some row' ∧
      (row.phase.terminal = true → row'.phase.terminal = true) := by
  have step := evolves id
  rw [present] at step
  generalize db'.episodes[id]? = after at step
  cases step with
  | same => exact ⟨row, rfl, fun terminal => terminal⟩
  | written active =>
    refine ⟨_, rfl, fun terminal => ?_⟩
    cases active.symm.trans terminal
  | ended active =>
    refine ⟨_, rfl, fun terminal => ?_⟩
    cases active.symm.trans terminal
  | swept sweep => exact (still sweep).elim

theorem Db.needsCleanup_iff (row : GatewaySessionRow) :
    db.needsCleanup row = true ↔ ∃ episode, db.episodes[row.episodeId]? = some episode ∧
      (row.phase = .cleanupPending ∨ row.phase = .active ∧ episode.phase.terminal = true) := by
  unfold Db.needsCleanup
  simp only [Option.any_eq_true, Bool.or_eq_true, Bool.and_eq_true, beq_iff_eq]

/-- A session that is not destroyed stays with `load_gateway_cleanup` through every command but a
sweep. -/
theorem returned_of_step {command : Command} (still : ¬ sweeping)
    (evolves : Db.Evolves sha256Hex sweeping db db')
    (step : SessionStep id command db.gatewaySessions[id]? db'.gatewaySessions[id]?)
    (returned : db.ReturnsForCleanup id) :
    db'.ReturnsForCleanup id ∨ command = .markGatewayDestroyed id none := by
  obtain ⟨row, present, needed⟩ := (Db.returnsForCleanup_iff db id).mp returned
  obtain ⟨episode, joined, phase⟩ := (Db.needsCleanup_iff row).mp needed
  obtain ⟨episode', joined', ended⟩ := Db.episode_persists still evolves joined
  rw [Db.returnsForCleanup_iff]
  rw [present] at step
  generalize db'.gatewaySessions[id]? = after at step
  cases step with
  | same =>
    refine Or.inl ⟨row, rfl, (Db.needsCleanup_iff row).mpr ⟨episode', joined', ?_⟩⟩
    exact phase.imp_right (And.imp_right ended)
  | @refreshed _ row' here same =>
    refine Or.inl ⟨row', rfl, (Db.needsCleanup_iff row').mpr ⟨episode', ?_, ?_⟩⟩
    · rw [here]
      exact joined'
    · rw [same]
      exact phase.imp_right (And.imp_right ended)
  | @pending _ row' here waits =>
    refine Or.inl ⟨row', rfl, (Db.needsCleanup_iff row').mpr ⟨episode', ?_, Or.inl waits⟩⟩
    rw [here]
    exact joined'
  | destroyed here named => exact Or.inr named

end step

theorem remembers_of_step (kind : call.2.isSweep = false) :
    Remembers s (s.run sha256Hex call) call.2 := by
  obtain ⟨now, command⟩ := call
  rcases s.run_cases sha256Hex (now, command) with same | ⟨db, ran, same⟩
  · rw [same]
    refine ⟨?_, fun _ _ _ returned lost => (lost returned).elim, fun _ _ _ present _ => present⟩
    intro id row present missing
    cases present.symm.trans missing
  · rw [same]
    refine ⟨?_, ?_, fun sweep => by cases kind.symm.trans sweep⟩
    · intro id row present missing
      have step := Db.runCommand_session ran kind id
      dsimp only at missing
      rw [present, missing] at step
      cases step
    · intro id row present returned lost
      have step := Db.runCommand_session ran kind id
      have still : ¬ command.isSweep = true := by
        rw [kind]
        exact Bool.false_ne_true
      rcases returned_of_step still (Db.runCommand_change ran).evolves step returned with
        kept | named
      · exact (lost kept).elim
      · left
        apply List.mem_append_right
        change command = _ at named
        dsimp only
        rw [named]
        exact confirms_of_present present

/-- A sweep forgets nothing exactly when it spares the sessions that are not destroyed. -/
theorem remembers_sweep_iff (confirmed : s.Confirmed)
    (now terminalCutoffMs idempotencyCutoffMs : Millis)
    (maxCompletedEntries : Nat) :
    let command := Command.sweep terminalCutoffMs idempotencyCutoffMs maxCompletedEntries
    Remembers s (s.run sha256Hex (now, command)) command ↔ s.db.Spares command := by
  intro command
  let swept := s.db.sweep terminalCutoffMs idempotencyCutoffMs maxCompletedEntries
  have ran : s.run sha256Hex (now, command) = { db := swept, destroyed := s.destroyed ++ [] } := rfl
  rw [ran]
  constructor
  · intro remembers id row present waits
    have kept := remembers.swept rfl id row present waits
    dsimp only [swept] at kept
    rw [Db.sweep_session] at kept
    exact Bool.not_eq_true' _ |>.mp (Option.filter_eq_some_iff.mp kept).2
  · intro spares
    have stays : ∀ (id : String) (row : GatewaySessionRow), s.db.gatewaySessions[id]? = some row →
        row.phase ≠ .destroyed → swept.gatewaySessions[id]? = some row := by
      intro id row present waits
      dsimp only [swept]
      rw [Db.sweep_session, present, Option.filter_some, spares id row present waits]
      rfl
    refine ⟨?_, ?_, fun _ => stays⟩
    · intro id row present missing
      left
      by_cases destroyed : row.phase = .destroyed
      · exact List.mem_append_left _ (confirmed id row present destroyed)
      · cases (stays id row present destroyed).symm.trans missing
    · intro id row present returned lost
      refine (lost ?_).elim
      obtain ⟨row', present', needed⟩ := (Db.returnsForCleanup_iff _ id).mp returned
      obtain ⟨episode, joined, phase⟩ := (Db.needsCleanup_iff row').mp needed
      have waits : row'.phase ≠ .destroyed := by
        rcases phase with pending | ⟨active, _⟩
        · rw [pending]
          exact SessionPhase.noConfusion
        · rw [active]
          exact SessionPhase.noConfusion
      refine (Db.returnsForCleanup_iff _ id).mpr ⟨row', stays id row' present' waits,
        (Db.needsCleanup_iff row').mpr ⟨episode, ?_, phase⟩⟩
      dsimp only [swept]
      rw [Db.sweep_episode, spares id row' present' waits, if_neg Bool.false_ne_true]
      exact joined

theorem remembers_iff (confirmed : s.Confirmed) :
    Remembers s (s.run sha256Hex call) call.2 ↔ s.db.Spares call.2 := by
  obtain ⟨now, command⟩ := call
  cases kind : command.isSweep with
  | false =>
    refine ⟨fun _ => ?_, fun _ => remembers_of_step kind⟩
    cases command with
    | sweep => cases kind
    | _ => trivial
  | true =>
    cases command with
    | sweep =>
      exact remembers_sweep_iff confirmed now _ _ _
    | _ => cases kind

/-- Along every sequence of commands, no session is forgotten exactly when every sweep spares the
sessions that are not destroyed. -/
theorem no_session_forgotten_iff (schedule : List (Millis × Command)) :
    (ledger sha256Hex).Along (fun s call => Remembers s (s.run sha256Hex call) call.2) {} schedule ↔
      (ledger sha256Hex).Along (fun s call => s.db.Spares call.2) {} schedule := by
  have initial : Ledger.Confirmed {} := by
    intro id row present
    rw [Std.ExtTreeMap.getElem?_empty] at present
    cases present
  apply System.along_congr (motive := Ledger.Confirmed) ?_ ?_ initial
  · intro s call t confirmed _ taken
    cases taken
    exact confirmed.run
  · intro s call confirmed
    exact remembers_iff confirmed

end ledger

/-- An episode with a session ends, the session cannot be destroyed, and later the episode is
older than the cutoff of a sweep. -/
def unreachableGateway : List (Millis × Command) :=
  [(1, .findOrCreateEpisode exampleUuid .zero exampleRequest "sync" 60000),
    (2, .upsertGatewaySession "g1" "e1" "w1" "http://w1:9000" []),
    (3, .commitTerminal { episodeId := "e1", status := "completed" } "" ""),
    (4, .markGatewayDestroyed "g1" (some "connection refused"))]

/-- The retention of the episodes ends the retries of the cleanup. -/
theorem session_forgotten_by_sweep : ¬ (ledger Sha256.sha256Hex).Along
      (fun s call => Remembers s (s.run Sha256.sha256Hex call) call.2) {}
      (unreachableGateway ++ [(9, .sweep 5 5 0)]) := by
  intro along
  have ran : ((ledger Sha256.sha256Hex).exec {} unreachableGateway).any (fun s =>
      (s.db.gatewaySessions["g1"]?).any (fun row => row.phase == .cleanupPending) &&
        ((s.run Sha256.sha256Hex (9, .sweep 5 5 0)).db.gatewaySessions["g1"]?).isNone) = true := by
    decide +kernel
  obtain ⟨s, ran, facts⟩ := (Option.any_eq_true _ _).mp ran
  obtain ⟨open_, gone⟩ := Bool.and_eq_true_iff.mp facts
  obtain ⟨row, present, pending⟩ := (Option.any_eq_true _ _).mp open_
  have waits : row.phase ≠ .destroyed := by
    rw [beq_iff_eq.mp pending]
    exact SessionPhase.noConfusion
  have kept := (along.last ran).swept rfl "g1" row present waits
  rw [kept] at gone
  cases gone

end UEnv.Persistence
