import UEnv.Persistence.Resubmission
import UEnv.Persistence.Statements

/-!
# Terminal rows

What a command can do to the row of an episode. A row without a terminal phase may be written
again, and at its end it takes a result; a row with one stays as it is until a sweep deletes it.
-/

namespace UEnv.Persistence

open Proto Wire Tables Fallible Transaction Runs

/-- What a command does to the row of one episode, a sweep or another one. -/
inductive RowStep (sha256Hex : Bytes → String) (sweeping : Prop) :
    Option EpisodeRow → Option EpisodeRow → Prop
  | same (row : Option EpisodeRow) : RowStep sha256Hex sweeping row row
  | created {row : EpisodeRow} (active : row.phase.terminal = false) :
    RowStep sha256Hex sweeping none (some row)
  | written {row row' : EpisodeRow} (active : row.phase.terminal = false)
    (active' : row'.phase.terminal = false) : RowStep sha256Hex sweeping (some row) (some row')
  | ended {row : EpisodeRow} (active : row.phase.terminal = false) (now : Millis)
    (result : EpisodeResult) (code message : String) :
    RowStep sha256Hex sweeping (some row)
      (some (Db.terminalRow sha256Hex now row result code message))
  | swept {row : EpisodeRow} (sweep : sweeping) (terminal : row.phase.terminal = true) :
    RowStep sha256Hex sweeping (some row) none

/-- Whether a command may delete episodes. -/
def Command.isSweep : Command → Bool
  | .sweep .. => true
  | _ => false

namespace Db

variable {db db' : Db} {sha256Hex : Bytes → String} {sweeping : Prop} {now : Millis}

/-- Every row takes a step. -/
def Evolves (sha256Hex : Bytes → String) (sweeping : Prop) (db db' : Db) : Prop :=
  ∀ id : String, RowStep sha256Hex sweeping db.episodes[id]? db'.episodes[id]?

theorem Evolves.of_eq (same : db'.episodes = db.episodes) : Evolves sha256Hex sweeping db db' := by
  intro id
  rw [same]
  exact .same _

theorem Evolves.congr {start final : Db} (evolves : Evolves sha256Hex sweeping start final)
    (before : start.episodes = db.episodes) (after : db'.episodes = final.episodes) :
    Evolves sha256Hex sweeping db db' := by
  intro id
  rw [after, ← before]
  exact evolves id

theorem Evolves.insert {episodeId : String} {row : EpisodeRow}
    (changed : db'.episodes = db.episodes.insert episodeId row)
    (step : RowStep sha256Hex sweeping db.episodes[episodeId]? (some row)) :
    Evolves sha256Hex sweeping db db' := by
  intro id
  rw [changed, lookup_insert]
  by_cases here : episodeId = id
  · rw [if_pos here, ← here]
    exact step
  · rw [if_neg here]
    exact .same _

theorem updateActiveEpisode_evolves (db : Db) (episodeId : String) (f : EpisodeRow → EpisodeRow)
    (active : ∀ row, (f row).phase.terminal = false) :
    Evolves sha256Hex sweeping db (db.updateActiveEpisode episodeId f) := by
  unfold updateActiveEpisode
  cases present : db.episodes[episodeId]? with
  | none => exact Evolves.of_eq rfl
  | some row =>
    simp only
    split
    · exact Evolves.of_eq rfl
    · next unfinished =>
      apply Evolves.insert rfl
      rw [present]
      exact .written (by simpa using unfinished) (active row)

theorem commitTerminal_evolves {result : EpisodeResult} {code message : String}
    (committed : db.commitTerminal sha256Hex now result code message = .ok db') :
    Evolves sha256Hex sweeping db db' := by
  obtain ⟨row, present, ⟨_, _, rfl⟩ | ⟨active, _, rfl⟩⟩ := commitTerminal_ok committed
  · exact Evolves.of_eq rfl
  · apply Evolves.insert rfl
    rw [present]
    exact .ended active now result code message

theorem deleteEpisodes_lookup (db : Db) (doomed : String → EpisodeRow → Bool)
    (terminal : ∀ id row, doomed id row = true → row.phase.terminal = true) (id : String) :
    (db.deleteEpisodes doomed).episodes[id]? = db.episodes[id]? ∨
      (∃ row, db.episodes[id]? = some row ∧ row.phase.terminal = true) ∧
        (db.deleteEpisodes doomed).episodes[id]? = none := by
  have filtered : (db.deleteEpisodes doomed).episodes[id]? =
      (db.episodes[id]?).filter fun row => !doomed id row := lookup_filter _ _ _
  rw [filtered]
  cases present : db.episodes[id]? with
  | none => exact Or.inl rfl
  | some row =>
    cases doom : doomed id row with
    | false =>
      left
      simp [doom]
    | true =>
      right
      refine ⟨⟨row, rfl, terminal id row doom⟩, ?_⟩
      simp [doom]

theorem sweep_lookup (db : Db) (terminalCutoffMs idempotencyCutoffMs : Millis)
    (maxCompletedEntries : Nat) (id : String) :
    (db.sweep terminalCutoffMs idempotencyCutoffMs maxCompletedEntries).episodes[id]? =
        db.episodes[id]? ∨
      (∃ row, db.episodes[id]? = some row ∧ row.phase.terminal = true) ∧
        (db.sweep terminalCutoffMs idempotencyCutoffMs maxCompletedEntries).episodes[id]? =
          none := by
  unfold sweep
  simp only
  generalize old : ({ db with
    reportIdempotency := _, terminalOutcomes := _, outbox := _ } : Db) = cleaned
  have episodes : cleaned.episodes = db.episodes := by rw [← old]
  rw [← episodes]
  have first := deleteEpisodes_lookup cleaned
    (fun _ row => row.phase.terminal && decide (row.updatedAtMs < terminalCutoffMs))
    (fun _ row doom => (Bool.and_eq_true_iff.mp doom).1) id
  generalize cleaned.deleteEpisodes _ = young at first ⊢
  split
  · have second := deleteEpisodes_lookup young
      (fun id row => row.phase.terminal && (young.surplus maxCompletedEntries).contains id)
      (fun _ row doom => (Bool.and_eq_true_iff.mp doom).1) id
    rcases second with kept | ⟨⟨row, present, terminal⟩, gone⟩
    · rw [kept]
      exact first
    · rcases first with same | ⟨_, none_⟩
      · exact Or.inr ⟨⟨row, same.symm.trans present, terminal⟩, gone⟩
      · cases none_.symm.trans present
  · exact first

theorem sweep_evolves (terminalCutoffMs idempotencyCutoffMs : Millis) (maxCompletedEntries : Nat)
    (sweep : sweeping) :
    Evolves sha256Hex sweeping db
      (db.sweep terminalCutoffMs idempotencyCutoffMs maxCompletedEntries) := by
  intro id
  rcases sweep_lookup db terminalCutoffMs idempotencyCutoffMs maxCompletedEntries id with
    same | ⟨⟨row, present, terminal⟩, gone⟩
  · rw [same]
    exact .same _
  · rw [present, gone]
    exact .swept sweep terminal

/-- What a command does to the episodes and to the outbox. -/
inductive Change (sha256Hex : Bytes → String) (now : Millis) (command : Command) (db db' : Db) :
    Prop
  | kept (episodes : db'.episodes = db.episodes) (outbox : db'.outbox = db.outbox)
  | created (episodeId : String) (row : EpisodeRow) (missing : db.episodes[episodeId]? = none)
    (active : row.phase.terminal = false)
    (episodes : db'.episodes = db.episodes.insert episodeId row) (outbox : db'.outbox = db.outbox)
  | written (start : Db) (episodeId : String) (f : EpisodeRow → EpisodeRow)
    (active : ∀ row, (f row).phase.terminal = false) (before : start.episodes = db.episodes)
    (outbox : start.outbox = db.outbox) (after : db' = start.updateActiveEpisode episodeId f)
  | committed (result : EpisodeResult) (code message : String) (closed : Db)
    (commit : db.commitTerminal sha256Hex now result code message = .ok closed)
    (episodes : db'.episodes = closed.episodes) (outbox : db'.outbox = closed.outbox)
  | delivered (eventId : String) (named : command = .markOutboxDelivered eventId)
    (after : db' = db.markOutboxDelivered now eventId)
  | swept (terminalCutoffMs idempotencyCutoffMs : Millis) (maxCompletedEntries : Nat)
    (named : command = .sweep terminalCutoffMs idempotencyCutoffMs maxCompletedEntries)
    (after : db' = db.sweep terminalCutoffMs idempotencyCutoffMs maxCompletedEntries)

theorem findOrCreateEpisode_change {command : Command} {request : EpisodeRequest}
    {submissionKind : String} {deadlineAtMs : Millis} {answer : EpisodeLookup}
    (found : db.findOrCreateEpisode sha256Hex now request submissionKind deadlineAtMs =
      .ok (answer, db')) : Change sha256Hex now command db db' := by
  rcases findOrCreateEpisode_cases found with ⟨rfl, _⟩ | ⟨_, missing, row, _, _, phase, rfl⟩
  · exact .kept rfl rfl
  · exact .created _ row missing (by rw [phase]; rfl) rfl rfl

theorem runCommand_change {command : Command}
    (ran : db.runCommand sha256Hex now command = .ok db') :
    Change sha256Hex now command db db' := by
  cases command with
  | findOrCreateEpisode =>
    obtain ⟨answer, found, rfl⟩ := map_eq_ok.mp ran
    exact findOrCreateEpisode_change found
  | commitTerminal result terminalCode terminalMessage =>
    exact .committed result terminalCode terminalMessage db' ran rfl rfl
  | putDispatchIntent =>
    obtain ⟨row, _, ran⟩ := bind_eq_ok.mp ran
    cases ran
    refine .written _ _ _ ?_ ?_ ?_ rfl
    · exact fun _ => rfl
    · rfl
    · rfl
  | markDispatchAccepted leaseId acceptedAtMs =>
    change db.markDispatchAccepted leaseId acceptedAtMs = _ at ran
    unfold markDispatchAccepted at ran
    split at ran
    · cases ran
    · cases ran
      refine .written _ _ _ ?_ ?_ ?_ rfl
      · exact fun _ => rfl
      · rfl
      · rfl
  | commitReportResult result idempotency outcomeCode outcomeMessage =>
    change db.commitReportResult sha256Hex now result idempotency outcomeCode outcomeMessage = _
      at ran
    unfold commitReportResult at ran
    split at ran
    · cases ran
      exact .kept rfl rfl
    · cases ran
    · obtain ⟨closed, ended, ran⟩ := bind_eq_ok.mp ran
      cases ran
      exact .committed _ _ _ closed ended rfl rfl
  | enqueueAgentJob poolId job deadlineAtMs =>
    change db.enqueueAgentJob now poolId job deadlineAtMs = _ at ran
    unfold enqueueAgentJob at ran
    simp only at ran
    split at ran
    · cases ran
    · cases ran
      refine .written _ _ _ ?_ ?_ ?_ rfl
      · exact fun _ => rfl
      · rfl
      · rfl
  | leaseAgentJob jobId agentId runId =>
    cases ran
    rcases leaseAgentJob_cases db now jobId agentId runId with ⟨refused, _⟩ | ⟨_, _, _, _, leased⟩
    · rw [refused]
      exact .kept rfl rfl
    · rw [leased]
      exact .kept rfl rfl
  | requeueAgentJob job previousAgentId previousRunId =>
    cases ran
    rcases requeueAgentJob_cases db now job previousAgentId previousRunId with
      refused | ⟨_, _, _, _, _, requeued⟩
    · rw [refused]
      exact .kept rfl rfl
    · rw [requeued]
      exact .kept rfl rfl
  | commitAgentCompletion =>
    obtain ⟨answer, answered, rfl⟩ := map_eq_ok.mp ran
    rcases commitAgentCompletion_cases answered with
      ⟨same, _⟩ | ⟨_, closed, _, _, _, _, _, committed, ended⟩
    · rw [same]
      exact .kept rfl rfl
    · rw [ended]
      exact .committed _ _ _ closed committed rfl rfl
  | markAgentJobTerminal jobId phase =>
    cases ran
    rcases markAgentJobTerminal_cases db now jobId phase with same | ⟨_, _, _, changed⟩
    · rw [same]
      exact .kept rfl rfl
    · rw [changed]
      exact .kept rfl rfl
  | upsertGatewaySession sessionId episodeId workerId gatewayPublicUrl gatewayApiKey =>
    change db.upsertGatewaySession now sessionId episodeId workerId gatewayPublicUrl gatewayApiKey =
      _ at ran
    unfold upsertGatewaySession at ran
    split at ran
    · simp only at ran
      split at ran
      · cases ran
        exact .kept rfl rfl
      · cases ran
    · cases ran
      exact .kept rfl rfl
  | markGatewayDestroyed =>
    cases ran
    exact .kept rfl rfl
  | markOutboxDelivered eventId =>
    cases ran
    exact .delivered eventId rfl rfl
  | sweep =>
    cases ran
    exact .swept _ _ _ rfl rfl

theorem Change.evolves {command : Command} (change : Change sha256Hex now command db db') :
    Evolves sha256Hex (command.isSweep = true) db db' := by
  cases change with
  | kept episodes => exact Evolves.of_eq episodes
  | created episodeId row missing active episodes =>
    apply Evolves.insert episodes
    rw [missing]
    exact .created active
  | written start episodeId f active before outbox after =>
    rw [after]
    exact (updateActiveEpisode_evolves start episodeId f active).congr before rfl
  | committed result code message closed commit episodes =>
    exact (commitTerminal_evolves commit).congr rfl episodes
  | delivered eventId named after =>
    rw [after]
    exact Evolves.of_eq rfl
  | swept terminalCutoffMs idempotencyCutoffMs maxCompletedEntries named after =>
    rw [after]
    exact sweep_evolves _ _ _ (by rw [named]; rfl)

end Db

/-- A terminal row is what the commit of some result made of it: its phase, its attempt, its
blob and its checksum are those of one result. -/
def EpisodeRow.Settled (sha256Hex : Bytes → String) (row : EpisodeRow) : Prop :=
  row.phase.terminal = true → ∃ result : EpisodeResult, row.result = some result ∧
    row.resultChecksum = some (Persistence.resultChecksum sha256Hex result) ∧
    row.phase = normalizeTerminalPhase result.status ∧ row.attemptId = result.attemptId

section RowStep

variable {sha256Hex : Bytes → String} {sweeping : Prop} {before after : Option EpisodeRow}

theorem RowStep.settled (step : RowStep sha256Hex sweeping before after)
    (settled : ∀ row, before = some row → row.Settled sha256Hex) :
    ∀ row, after = some row → row.Settled sha256Hex := by
  intro final present terminal
  cases step with
  | same => exact settled final present terminal
  | created active =>
    cases present
    rw [active] at terminal
    cases terminal
  | written active active' =>
    cases present
    rw [active'] at terminal
    cases terminal
  | ended active now result =>
    cases present
    exact ⟨result, rfl, rfl, rfl, rfl⟩
  | swept => cases present

theorem RowStep.terminal {row : EpisodeRow} (step : RowStep sha256Hex sweeping (some row) after)
    (terminal : row.phase.terminal = true) : after = some row ∨ sweeping ∧ after = none := by
  cases step with
  | same => exact Or.inl rfl
  | written active =>
    rw [active] at terminal
    cases terminal
  | ended active =>
    rw [active] at terminal
    cases terminal
  | swept sweep => exact Or.inr ⟨sweep, rfl⟩

end RowStep

/-- A command as the store thread takes it from its queue: the clock, and the statements that the
engine will refuse. -/
structure Call where
  now : Millis
  command : Command
  faults : List (Option String) := []

/-- The connection of the store thread, from the empty database on. -/
def sessions (sha256Hex : Bytes → String) : System (Connection String Db) Call where
  init c := c = { durable := {} }
  step c call :=
    some (Sql.handleCommand sha256Hex call.now { c with faults := call.faults } call.command).2

section sessions

variable {sha256Hex : Bytes → String} {c c' : Connection String Db}

theorem working_of_reachable (reached : Reachable (sessions sha256Hex) c) : c.working = none := by
  refine ReachableWhen.invariant (motive := fun c => c.working = none) ?_ ?_ reached
  · rintro c rfl
    rfl
  · intro c call c' _ closed _ taken
    cases taken
    exact (Sql.handleCommand_effect (c := { c with faults := call.faults }) closed _).1

variable {call : Call}

theorem durable_of_failed {error : String} (closed : c.working = none)
    (failed : (Sql.handleCommand sha256Hex call.now { c with faults := call.faults }
      call.command).1 = some error) :
    (Sql.handleCommand sha256Hex call.now { c with faults := call.faults }
      call.command).2.durable = c.durable := by
  have effect := (@Sql.handleCommand_effect sha256Hex call.now
    { c with faults := call.faults } closed call.command).2
  rw [failed] at effect
  exact effect.1

theorem change_of_step (closed : c.working = none)
    (taken : (sessions sha256Hex).step c call = some c') :
    Db.Change sha256Hex call.now call.command c.durable c'.durable := by
  cases taken
  have effect := (@Sql.handleCommand_effect sha256Hex call.now
    { c with faults := call.faults } closed call.command).2
  cases answer : (Sql.handleCommand sha256Hex call.now { c with faults := call.faults }
      call.command).1 with
  | none =>
    rw [answer] at effect
    exact Db.runCommand_change effect
  | some error =>
    have unchanged := durable_of_failed closed answer
    exact .kept (congrArg Db.episodes unchanged) (congrArg Db.outbox unchanged)

/-- Some call of the schedule is a sweep that deletes the row of `id`. -/
def SweptAlong (sha256Hex : Bytes → String) (id : String) :
    Connection String Db → List Call → Prop
  | _, [] => False
  | c, call :: rest =>
    ∃ c', (sessions sha256Hex).step c call = some c' ∧
      (call.command.isSweep = true ∧ c'.durable.episodes[id]? = none ∨
        SweptAlong sha256Hex id c' rest)

theorem settled_of_reachable (reached : Reachable (sessions sha256Hex) c) :
    ∀ (id : String) (row : EpisodeRow), c.durable.episodes[id]? = some row →
      row.Settled sha256Hex := by
  refine ReachableWhen.invariant (motive := fun c => ∀ (id : String) (row : EpisodeRow),
    c.durable.episodes[id]? = some row → row.Settled sha256Hex) ?_ ?_ reached
  · rintro c rfl id row present
    rw [Std.ExtTreeMap.getElem?_empty] at present
    cases present
  · intro c call c' before settled _ taken id
    exact ((change_of_step (working_of_reachable before) taken).evolves id).settled (settled id)

theorem terminal_along {id : String} {row : EpisodeRow} (terminal : row.phase.terminal = true)
    (schedule : List Call) (reached : Reachable (sessions sha256Hex) c)
    (present : c.durable.episodes[id]? = some row)
    (ran : (sessions sha256Hex).exec c schedule = some c') :
    c'.durable.episodes[id]? = some row ∨ SweptAlong sha256Hex id c schedule := by
  induction schedule generalizing c with
  | nil =>
    cases ran
    exact Or.inl present
  | cons call rest ih =>
    obtain ⟨middle, taken, ran⟩ := Option.bind_eq_some_iff.mp ran
    have step := (change_of_step (working_of_reachable reached) taken).evolves id
    rw [present] at step
    rcases step.terminal terminal with kept | ⟨sweep, gone⟩
    · rcases ih (reached.next taken) kept ran with still | swept
      · exact Or.inl still
      · exact Or.inr ⟨middle, taken, Or.inr swept⟩
    · exact Or.inr ⟨middle, taken, Or.inl ⟨sweep, gone⟩⟩

/-- The first terminal result of an episode is final: every terminal row holds one result, the
row stays as it is along every run until a sweep deletes it, and a call that fails changes no
table. -/
theorem terminal_rows_written_once (reached : Reachable (sessions sha256Hex) c) :
    (∀ (id : String) (row : EpisodeRow), c.durable.episodes[id]? = some row →
      row.Settled sha256Hex) ∧
    (∀ (id : String) (row : EpisodeRow) (schedule : List Call) (c' : Connection String Db),
      c.durable.episodes[id]? = some row → row.phase.terminal = true →
      (sessions sha256Hex).exec c schedule = some c' →
      c'.durable.episodes[id]? = some row ∨ SweptAlong sha256Hex id c schedule) ∧
    (∀ (call : Call) (error : String),
      (Sql.handleCommand sha256Hex call.now { c with faults := call.faults }
        call.command).1 = some error →
      (Sql.handleCommand sha256Hex call.now { c with faults := call.faults }
        call.command).2.durable = c.durable) :=
  ⟨settled_of_reachable reached,
    fun _ _ schedule _ present terminal ran => terminal_along terminal schedule reached present ran,
    fun _ _ failed => durable_of_failed (working_of_reachable reached) failed⟩

/-- A commit whose third statement the engine refuses, and the same commit again. -/
def committedTwice : List Call :=
  [{ now := 1, command := .findOrCreateEpisode exampleUuid .zero exampleRequest "sync" 60000 },
    { now := 2, command := .commitTerminal { episodeId := "e1", status := "completed" } "" ""
      faults := [none, none, some "disk I/O error"] },
    { now := 3, command := .commitTerminal { episodeId := "e1", status := "completed" } "" "" }]

theorem terminal_rows_written_once_after_refusal : ∃ (c : Connection String Db) (row : EpisodeRow),
      c.durable.episodes["e1"]? = some row ∧ row.phase.terminal = true ∧ row.updatedAtMs = 3 ∧
      row.Settled Sha256.sha256Hex ∧
      ∀ (schedule : List Call) (c' : Connection String Db),
        (sessions Sha256.sha256Hex).exec c schedule = some c' →
        c'.durable.episodes["e1"]? = some row ∨
          SweptAlong Sha256.sha256Hex "e1" c schedule := by
  have ran : ((sessions Sha256.sha256Hex).exec { durable := {} } committedTwice).any (fun c =>
      (c.durable.episodes["e1"]?).any fun row =>
        row.phase.terminal && decide (row.updatedAtMs = 3)) = true := by decide +kernel
  obtain ⟨c, ran, facts⟩ := (Option.any_eq_true _ _).mp ran
  obtain ⟨row, present, facts⟩ := (Option.any_eq_true _ _).mp facts
  obtain ⟨terminal, clock⟩ := Bool.and_eq_true_iff.mp facts
  obtain ⟨settled, kept, _⟩ := terminal_rows_written_once (Reachable.of_exec rfl committedTwice ran)
  exact ⟨c, row, present, terminal, of_decide_eq_true clock, settled "e1" row present,
    fun schedule c' => kept "e1" row schedule c' present terminal⟩

/-- The store as its callers may think of it: a command is one step, which takes place as a whole or
not at all. -/
def commands (sha256Hex : Bytes → String) : System Db (Millis × Command) where
  init db := db = {}
  step db label := (db.runCommand sha256Hex label.1 label.2).toOption

/-- Whichever statements the engine refuses, the durable tables are such that whole commands lead to
them, and no transaction is left open. -/
theorem sessions_refine_commands (reached : Reachable (sessions sha256Hex) c) :
    c.working = none ∧ Reachable (commands sha256Hex) c.durable := by
  apply ReachableWhen.invariant
    (motive := fun c => c.working = none ∧ Reachable (commands sha256Hex) c.durable) ?_ ?_ reached
  · rintro c rfl
    exact ⟨rfl, .start rfl⟩
  · rintro c call c' _ ⟨closed, before⟩ _ taken
    cases taken
    obtain ⟨ended, effect⟩ := @Sql.handleCommand_effect sha256Hex call.now
      { c with faults := call.faults } closed call.command
    refine ⟨ended, ?_⟩
    cases answer : (Sql.handleCommand sha256Hex call.now { c with faults := call.faults }
        call.command).1 with
    | none =>
      rw [answer] at effect
      exact before.next (a := (call.now, call.command)) (congrArg Except.toOption effect)
    | some error => rwa [durable_of_failed closed answer]

theorem sessions_refine_commands_after_refusal : ∃ c : Connection String Db,
    (sessions Sha256.sha256Hex).exec { durable := {} } committedTwice = some c ∧
      c.working = none ∧ Reachable (commands Sha256.sha256Hex) c.durable := by
  have ran : ((sessions Sha256.sha256Hex).exec { durable := {} } committedTwice).isSome := by
    decide +kernel
  obtain ⟨c, ran⟩ := Option.isSome_iff_exists.mp ran
  exact ⟨c, ran, sessions_refine_commands (Reachable.of_exec rfl committedTwice ran)⟩

end sessions

end UEnv.Persistence
