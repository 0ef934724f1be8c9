import UEnv.Server.Courses

/-!
# Result identity

Which attempt a result names. The loop of the native backend counts up the attempt in its own copy
of the request, and each of the places that build a result copies its identity from another record:
the request of the loop, the pending entry, the row of the episode, the job, or the request that was
submitted.
-/

namespace UEnv

open Proto Persistence Scheduler Service ControlPlane Native Runs Fallible

/-- The result is of this episode and of this attempt. -/
structure Names (result : EpisodeResult) (req : EpisodeRequest) : Prop where
  episode : result.episodeId = req.episodeId
  attempt : result.attemptId = req.attemptId

/-- What a completion lacks that a result of the asynchronous modes must have. -/
structure LacksAsyncFields (req : EpisodeRequest) (complete : AgentJobCompleteRequest) : Prop where
  completed : complete.status = "" ∨ complete.status = "completed"
  mode : req.parallelMode = "one_step_off_policy" ∨ req.parallelMode = "fully_async"
  lacks : (complete.parallelMode ≠ "" ∧ complete.parallelMode ≠ req.parallelMode) ∨
    complete.rolloutParamVersion = none ∨ complete.rolloutPolicyVersion.getD "" = "" ∨
      complete.rolloutLogProbs = []

/-! ### The places that build a result -/

section Places

variable {clock : Clock} {req : EpisodeRequest}

theorem Names.withMetadata {result : EpisodeResult} (names : Names result req)
    (key value : String) : Names (withMetadata result key value) req :=
  ⟨names.episode, names.attempt⟩

theorem failedResultFromRequest_names (clock : Clock) (req : EpisodeRequest)
    (status message : String) (errorCode : ErrorCode) (timing : Option ResultTiming) :
    Names (failedResultFromRequest clock req status message errorCode timing) req := by
  constructor <;> simp [failedResultFromRequest]

theorem terminalResultFromRequest_names (clock : Clock) (req : EpisodeRequest)
    (event : EpisodeTerminalEvent) (timing : Option ResultTiming) :
    Names (terminalResultFromRequest clock req event timing) req := by
  cases event with
  | cancelled =>
    apply Names.withMetadata
    constructor <;> simp
  | timedOut => exact (failedResultFromRequest_names clock req _ _ _ timing).withMetadata _ _

theorem Names.complete {result : EpisodeResult} (names : Names result req)
    (timing : Option ResultTiming) : Names (completeEpisodeResult clock req result timing) req := by
  obtain ⟨episode, attempt⟩ := completeEpisodeResult_identity timing names.episode names.attempt
  exact ⟨episode, attempt⟩

theorem completionStatus_completed_iff (complete : AgentJobCompleteRequest) :
    completionStatus complete = "completed" ↔
      complete.status = "" ∨ complete.status = "completed" := by
  unfold completionStatus
  split
  · next empty => exact iff_of_true rfl (Or.inl (String.isEmpty_iff.mp empty))
  · next named => exact (or_iff_right (mt String.isEmpty_iff.mpr named)).symm

variable {rest : Except String Unit}

theorem refuse_else_iff {p : Prop} [Decidable p] {message : String} :
    (if p then .error message else rest) = .ok () ↔ ¬ p ∧ rest = .ok () := by
  split
  · next refused => exact iff_of_false (fun passed => by cases passed) (fun both => both.1 refused)
  · next passed => exact (and_iff_right passed).symm

theorem pass_else_iff {p : Prop} [Decidable p] :
    (if p then .ok () else rest) = .ok () ↔ p ∨ rest = .ok () := by
  split
  · next passed => exact iff_of_true rfl (Or.inl passed)
  · next checked => exact (or_iff_right checked).symm

theorem filledMode_ne_iff (complete : AgentJobCompleteRequest) :
    (if complete.parallelMode.isEmpty then req.parallelMode else complete.parallelMode) ≠
        req.parallelMode ↔
      complete.parallelMode ≠ "" ∧ complete.parallelMode ≠ req.parallelMode := by
  by_cases empty : complete.parallelMode = "" <;> simp [String.isEmpty_iff, empty]

theorem validate_completion_iff (job : AgentJob) (complete : AgentJobCompleteRequest) :
    validateVerlAsyncResult req (finalizeEpisodeResult clock req
        (completionResult none clock job complete) none) = .ok () ↔
      ¬ LacksAsyncFields req complete := by
  have checks : validateVerlAsyncResult req (finalizeEpisodeResult clock req
      (completionResult none clock job complete) none) = .ok () ↔
        ¬ completionStatus complete = "completed" ∨
          ¬ (req.parallelMode = "one_step_off_policy" ∨ req.parallelMode = "fully_async") ∨
            ¬ ((complete.parallelMode ≠ "" ∧ complete.parallelMode ≠ req.parallelMode) ∨
              complete.rolloutParamVersion = none ∨ complete.rolloutPolicyVersion.getD "" = "" ∨
                complete.rolloutLogProbs = []) := by
    unfold validateVerlAsyncResult
    rw [pass_else_iff, pass_else_iff, refuse_else_iff, refuse_else_iff, refuse_else_iff,
      refuse_else_iff, Option.isNone_iff_eq_none, String.isEmpty_iff, List.isEmpty_iff, not_or,
      not_or, not_or, not_or, ← filledMode_ne_iff]
    simp only [and_true]
    rfl
  rw [checks, ← not_and_or, ← not_and_or, completionStatus_completed_iff]
  exact not_congr ⟨fun lacking => ⟨lacking.1, lacking.2.1, lacking.2.2⟩,
    fun lacking => ⟨lacking.completed, lacking.mode, lacking.lacks⟩⟩

theorem completed_in_memory_names_iff (nonzero : req.attemptId ≠ 0) (job : AgentJob)
    (complete : AgentJobCompleteRequest) :
    Names (completeEpisodeResult clock req (completionResult none clock job complete) none) req ↔
      LacksAsyncFields req complete := by
  have valid_iff := @validate_completion_iff clock req job complete
  unfold completeEpisodeResult
  simp only
  split
  · next passed =>
    refine iff_of_false (fun names => ?_) (valid_iff.mp passed)
    have attempt := names.attempt
    rw [finalizeEpisodeResult_attemptId] at attempt
    exact nonzero attempt.symm
  · next message refused =>
    refine iff_of_true ((failedResultFromRequest_names clock req _ _ _ _).withMetadata _ _) ?_
    by_contra full
    have passed := valid_iff.mpr full
    rw [refused] at passed
    cases passed

theorem completionResult_names (request : EpisodeRequest) (clock : Clock) (job : AgentJob)
    (complete : AgentJobCompleteRequest) :
    Names (completionResult (some request) clock job complete) request := by
  apply Names.complete
  exact ⟨rfl, rfl⟩

end Places

/-! ### The records along a course -/

namespace Course

variable {settings : Settings} {request : EpisodeRequest} {c c' : Course}

section Records

variable (submitted req : EpisodeRequest) (lastAttempt : UInt32)

/-- The request of the execution is of the last attempt. -/
structure Current : Prop where
  episode : req.episodeId = submitted.episodeId
  attempt : req.attemptId = lastAttempt

/-- The request of the execution is of the first attempt. -/
structure First : Prop where
  current : Current submitted req lastAttempt
  first : lastAttempt = submitted.attemptId

/-- The entry is of the request of the execution. -/
structure Registered (entry : PendingResult) : Prop where
  current : Current submitted req lastAttempt
  episode : entry.request.episodeId = req.episodeId
  attempt : entry.request.attemptId = req.attemptId

/-- The records that the result of an ending is built from. -/
def EndingSound (settings : Settings) : Ending → Prop
  | .error _ | .recoveryFailed _ => True
  | .terminal .. | .agentTerminal .. | .nonRetryable .. => Current submitted req lastAttempt
  | .reported _ entry result =>
    Registered submitted req lastAttempt entry ∧ Names result entry.request
  | .superseded _ entry _ => Registered submitted req lastAttempt entry
  | .completed _ job _ => First submitted req lastAttempt ∧ job.episodeId = submitted.episodeId
  | .recoveredJob .. => First submitted req lastAttempt ∧ settings.persistent = true

/-- The records that a phase holds. -/
def PhaseSound (settings : Settings) : Phase → Prop
  | .admission | .acquiring => First submitted req lastAttempt
  | .scheduling | .slotFull | .retrying => Current submitted req lastAttempt
  | .attempt entry | .nativeWait entry => Registered submitted req lastAttempt entry
  | .waiting job => First submitted req lastAttempt ∧ job.episodeId = submitted.episodeId
  | .agentWait _ => First submitted req lastAttempt ∧ settings.persistent = true
  | .returned ending => EndingSound submitted req lastAttempt settings ending

end Records

/-- Every record that a result may be built from names the episode and the attempt that is made. -/
structure Sound (settings : Settings) (request : EpisodeRequest) (c : Course) : Prop where
  ready : ∃ (uuid : Uuid) (now : F64), prepare uuid now request = .ok c.submitted
  phase : PhaseSound c.submitted c.req c.lastAttempt settings c.phase

/-- What a step may do: the submitted request stays, and the records of the new phase are sound. -/
structure Follows (settings : Settings) (c c' : Course) : Prop where
  submitted : c'.submitted = c.submitted
  phase : PhaseSound c'.submitted c'.req c'.lastAttempt settings c'.phase

theorem Sound.follow (sound : c.Sound settings request) (follows : Follows settings c c') :
    c'.Sound settings request :=
  ⟨follows.submitted ▸ sound.ready, follows.phase⟩

theorem Sound.stay (sound : c.Sound settings request) : Follows settings c c := ⟨rfl, sound.phase⟩

variable {ending : Ending} {report : ReportResultRequest} {clock : Clock} {message : String}
  {committed : Except String Unit}

theorem finish_follows (records : EndingSound c.submitted c.req c.lastAttempt settings ending) :
    Follows settings c (c.finish ending) := ⟨rfl, records⟩

section

variable (current : Current c.submitted c.req c.lastAttempt)
include current

theorem beginTurn_follows : Follows settings c (c.beginTurn settings) := by
  unfold beginTurn
  split
  · exact finish_follows trivial
  · exact ⟨rfl, current⟩

/-- An attempt that fails leads to the next number, to the same one, or out of the loop. -/
theorem retry_follows (reason : String) : Follows settings c (c.retry settings reason) := by
  unfold retry
  split
  · exact ⟨rfl, current⟩
  · dsimp only
    split
    · exact ⟨rfl, current.episode, rfl⟩
    · next exhausted =>
      unfold beginTurn
      rw [if_pos (UInt32.not_le.mp exhausted)]
      exact ⟨rfl, trivial⟩

theorem dispatch_follows (clock : Clock) (epoch : UInt64) (leaseId : String)
    (stamp : NativeServer.DispatchStamp) (assignment : WorkerAssignment) :
    Follows settings c (c.dispatch settings clock epoch leaseId stamp assignment) :=
  ⟨rfl, ⟨current.episode, current.attempt⟩, rfl, rfl⟩

end

theorem dispatchFailed_follows {entry : PendingResult}
    (registered : Registered c.submitted c.req c.lastAttempt entry) (clock : Clock)
    (error : String) :
    Follows settings c (c.dispatchFailed settings clock entry error) := by
  unfold dispatchFailed
  split
  · exact finish_follows registered.current
  · exact retry_follows registered.current _

theorem accepted_names {entry : PendingResult} {result : EpisodeResult}
    (taken : accepted entry report = some result) : Names result entry.request := by
  obtain ⟨_, matching⟩ := Option.filter_eq_some_iff.mp taken
  rw [Bool.and_eq_true, Bool.and_eq_true, beq_iff_eq] at matching
  obtain ⟨⟨same, _⟩, _⟩ := matching
  exact ⟨congrArg PendingKey.episodeId same, congrArg PendingKey.attemptId same⟩

/-- What `report_result` does with a report that is accepted for a pending entry: without a store it
sends the result of the ending `reported`, and with one it commits that result first. -/
theorem removePending_accepted {s : Reports} {entry : PendingResult} {result : EpisodeResult}
    (stored : s.pendingResults[keyOf entry]? = some entry)
    (taken : accepted entry report = some result) (clock : Clock) (record : IdempotencyRecord)
    (expiresAt : Instant) {final : EpisodeResult}
    (outcome : (Ending.reported clock entry result).outcome none entry.request = .ok final) :
    s.removePending clock report result record expiresAt =
      let s := { s with pendingResults := s.pendingResults.erase (keyOf entry) }
      if s.store.isSome then
        (s, .committing final record expiresAt (keyOf entry) entry s.send)
      else s.accept clock.instant report final expiresAt (keyOf entry) entry := by
  cases outcome
  obtain ⟨_, matching⟩ := Option.filter_eq_some_iff.mp taken
  rw [Bool.and_eq_true, Bool.and_eq_true, beq_iff_eq] at matching
  obtain ⟨⟨same, worker⟩, token⟩ := matching
  unfold Reports.removePending
  simp only [same, stored, Option.filter_some, worker, token, Bool.and_self, if_true]

theorem report_follows (sound : c.Sound settings request) {entry : PendingResult}
    (registered : Registered c.submitted c.req c.lastAttempt entry) (clock : Clock)
    (report : ReportResultRequest) :
    Follows settings c (c.report clock entry report) := by
  unfold Course.report
  split
  · next result taken => exact finish_follows ⟨registered, accepted_names taken⟩
  · exact sound.stay

theorem queueJob_follows (first : First c.submitted c.req c.lastAttempt) (spec : AgentJob) :
    Follows settings c (c.queueJob settings spec) :=
  ⟨rfl, ⟨⟨first.current.episode, first.current.attempt⟩, first.first⟩, first.current.episode⟩

theorem complete_follows (sound : c.Sound settings request)
    (records : EndingSound c.submitted c.req c.lastAttempt settings ending) (job : AgentJob)
    (runId agentId : String) (complete : AgentJobCompleteRequest) :
    Follows settings c (c.complete ending job runId agentId complete) := by
  unfold Course.complete
  split
  · exact finish_follows records
  · exact sound.stay

theorem restart_follows {dispatchTs : F64} {latest : Nat}
    (taken : c.restart settings clock dispatchTs latest = some c') : Follows settings c c' := by
  unfold restart at taken
  split at taken
  · cases taken
  · next persistent =>
    split at taken
    · cases taken
      exact ⟨rfl, ⟨⟨rfl, rfl⟩, rfl⟩, by simpa using persistent⟩
    · split at taken
      · cases taken
        exact ⟨rfl, ⟨rfl, rfl⟩, rfl⟩
      · obtain ⟨record, _, rfl⟩ := Option.map_eq_some_iff.mp taken
        exact ⟨rfl, ⟨rfl, rfl⟩, rfl, rfl⟩

theorem fail_follows (taken : c.fail settings message = some c') : Follows settings c c' := by
  unfold fail at taken
  split at taken
  case h_5 =>
    split at taken
    · cases taken
      exact finish_follows trivial
    · cases taken
  case h_8 => cases taken
  all_goals
    cases taken
    exact finish_follows trivial

section

variable (sound : c.Sound settings request)
include sound

theorem Sound.standing {phase : Phase} (stands : c.phase = phase) :
    PhaseSound c.submitted c.req c.lastAttempt settings phase :=
  stands ▸ sound.phase

theorem Sound.current (running : ∀ ending, c.phase ≠ .returned ending) :
    Current c.submitted c.req c.lastAttempt := by
  cases stands : c.phase with
  | admission | acquiring => exact First.current (sound.standing stands)
  | scheduling | slotFull | retrying => exact sound.standing stands
  | attempt entry | nativeWait entry => exact Registered.current (sound.standing stands)
  | waiting job | agentWait job => exact First.current (sound.standing stands).1
  | returned ending => exact absurd stands (running ending)

theorem cancel_follows (taken : c.cancel clock = some c') : Follows settings c c' := by
  unfold cancel at taken
  split at taken
  case h_7 => cases taken
  all_goals
    next stands =>
    cases taken
    refine finish_follows (sound.current fun ending returned => ?_)
    rw [stands] at returned
    cases returned

theorem timeOut_follows (taken : c.timeOut clock message = some c') : Follows settings c c' := by
  unfold timeOut at taken
  split at taken
  case h_7 => cases taken
  all_goals
    next stands =>
    cases taken
    refine finish_follows (sound.current fun ending returned => ?_)
    rw [stands] at returned
    cases returned

theorem step_follows {label : Label} (taken : c.step settings label = some c') :
    Follows settings c c' := by
  cases label with
  | failed => exact fail_follows taken
  | cancelled => exact cancel_follows sound taken
  | timedOut => exact timeOut_follows sound taken
  | restart => exact restart_follows taken
  | admitted =>
    simp only [step] at taken
    split at taken
    · next stands =>
      have first : First c.submitted c.req c.lastAttempt := sound.standing stands
      split at taken <;> cases taken
      · exact beginTurn_follows first.current
      · exact ⟨rfl, first⟩
      · exact ⟨rfl, first⟩
    · cases taken
  | dispatch clock epoch leaseId stamp assignment =>
    simp only [step] at taken
    split at taken
    · next stands =>
      cases taken
      exact dispatch_follows (sound.standing stands) _ _ _ _ _
    · cases taken
  | dispatchFailed clock error =>
    simp only [step] at taken
    split at taken
    · next stands =>
      cases taken
      exact dispatchFailed_follows (sound.standing stands) _ _
    · cases taken
  | channelClosed =>
    simp only [step] at taken
    split at taken
    · next stands =>
      cases taken
      exact retry_follows (Registered.current (sound.standing stands)) _
    · cases taken
  | report clock report =>
    simp only [step] at taken
    split at taken
    · next stands =>
      cases taken
      exact report_follows sound (sound.standing stands) _ _
    · next stands =>
      cases taken
      exact report_follows sound (sound.standing stands) _ _
    · cases taken
  | registration clock staleId =>
    simp only [step] at taken
    split at taken
    case h_3 => cases taken
    all_goals
      next stands =>
      split at taken
      · cases taken
        exact finish_follows (sound.standing stands)
      · cases taken
  | wake =>
    simp only [step] at taken
    split at taken
    · next stands =>
      cases taken
      exact beginTurn_follows (sound.standing stands)
    · next stands =>
      cases taken
      exact beginTurn_follows (sound.standing stands)
    · cases taken
  | queueJob spec =>
    simp only [step] at taken
    split at taken
    · next stands =>
      cases taken
      exact queueJob_follows (sound.standing stands) _
    · cases taken
  | complete clock runId agentId complete =>
    simp only [step] at taken
    split at taken
    · next job stands =>
      cases taken
      have records : EndingSound c.submitted c.req c.lastAttempt settings
          (.completed clock job complete) := sound.standing stands
      exact complete_follows sound records _ _ _ _
    · next job stands =>
      cases taken
      have records : EndingSound c.submitted c.req c.lastAttempt settings
          (.recoveredJob clock job complete) := sound.standing stands
      exact complete_follows sound records _ _ _ _
    · cases taken

end

theorem sound_of_reached (reached : Reachable (system settings request) c) :
    c.Sound settings request := by
  refine ReachableWhen.invariant ?_ ?_ reached
  · rintro c ⟨uuid, now, req, enqueueAt, ready, rfl⟩
    exact ⟨⟨uuid, now, ready⟩, ⟨rfl, rfl⟩, rfl⟩
  · intro c label c' _ sound _ taken
    exact sound.follow (step_follows sound taken)

/-! ### The identity of what is returned -/

/-- The result is of the episode that `request` asks for, and of the attempt that produced it. -/
structure Identified (request : EpisodeRequest) (c : Course) (result : EpisodeResult) : Prop where
  episode : result.episodeId = c.submitted.episodeId
  asked : request.episodeId ≠ "" → result.episodeId = request.episodeId
  attempt : result.attemptId = c.lastAttempt
  nonzero : result.attemptId ≠ 0

/-- The identity is kept, unless the error of a later attempt becomes a result or a completion is
taken without a store. -/
def Keeps (settings : Settings) (c : Course) : Ending → Prop
  | .error _ => c.lastAttempt = c.submitted.attemptId
  | .completed _ _ complete => settings.persistent = true ∨ LacksAsyncFields c.req complete
  | _ => True

/-- The result is of the attempt that is made. -/
structure OfLast (c : Course) (result : EpisodeResult) : Prop where
  episode : result.episodeId = c.submitted.episodeId
  attempt : result.attemptId = c.lastAttempt

theorem Current.ofLast_iff (current : Current c.submitted c.req c.lastAttempt)
    (result : EpisodeResult) : OfLast c result ↔ Names result c.req := by
  constructor
  · rintro ⟨episode, attempt⟩
    exact ⟨episode.trans current.episode.symm, attempt.trans current.attempt.symm⟩
  · rintro ⟨episode, attempt⟩
    exact ⟨episode.trans current.episode, attempt.trans current.attempt⟩

theorem Registered.ofLast {entry : PendingResult}
    (registered : Registered c.submitted c.req c.lastAttempt entry) {result : EpisodeResult}
    (names : Names result entry.request) : OfLast c result := by
  rw [registered.current.ofLast_iff]
  exact ⟨names.episode.trans registered.episode, names.attempt.trans registered.attempt⟩

/-- In the first attempt a result that names the submitted request names the attempt. -/
theorem First.ofLast (first : First c.submitted c.req c.lastAttempt) {result : EpisodeResult}
    (names : Names result c.submitted) : OfLast c result :=
  ⟨names.episode, names.attempt.trans first.first.symm⟩

section

variable (sound : c.Sound settings request)
include sound

theorem Sound.nonzero : c.submitted.attemptId ≠ 0 := by
  obtain ⟨uuid, now, ready⟩ := sound.ready
  exact (prepared_of_prepare ready).attempt

theorem Sound.asked (named : request.episodeId ≠ "") :
    c.submitted.episodeId = request.episodeId := by
  obtain ⟨uuid, now, ready⟩ := sound.ready
  obtain ⟨mode, _, built⟩ := bind_eq_ok.mp ready
  rw [← Except.ok.inj built]
  change (if request.episodeId.isEmpty then uuid.text else request.episodeId) = _
  rw [if_neg fun empty => named (String.isEmpty_iff.mp empty)]

theorem completed_ofLast_iff {job : AgentJob} {complete : AgentJobCompleteRequest}
    (first : First c.submitted c.req c.lastAttempt) : OfLast c (completeEpisodeResult clock c.req
        (completionResult (c.persisted settings) clock job complete) none) ↔
      settings.persistent = true ∨ LacksAsyncFields c.req complete := by
  unfold persisted
  rw [first.current.ofLast_iff]
  split
  · next stored =>
    refine iff_of_true (Names.complete ?_ none) (Or.inl stored)
    exact (first.current.ofLast_iff _).mp (first.ofLast (completionResult_names _ _ _ _))
  · next inMemory =>
    have nonzero : c.req.attemptId ≠ 0 := by
      rw [first.current.attempt, first.first]
      exact sound.nonzero
    rw [completed_in_memory_names_iff nonzero, or_iff_right inMemory]

theorem outcome_ofLast_iff (returned : c.phase = .returned ending) {result : EpisodeResult}
    (outcome : ending.outcome (c.persisted settings) c.req = .ok result) :
    OfLast c result ↔ c.Keeps settings ending := by
  have records : EndingSound c.submitted c.req c.lastAttempt settings ending :=
    sound.standing returned
  cases ending with
  | error => cases outcome
  | recoveryFailed => cases outcome
  | terminal clock event timing =>
    cases outcome
    refine iff_of_true ((Current.ofLast_iff records _).mpr ?_) trivial
    exact terminalResultFromRequest_names clock c.req event timing
  | agentTerminal clock event timing =>
    cases outcome
    refine iff_of_true ((Current.ofLast_iff records _).mpr ?_) trivial
    exact (terminalResultFromRequest_names clock c.req event timing).complete none
  | nonRetryable clock =>
    cases outcome
    refine iff_of_true ((Current.ofLast_iff records _).mpr ?_) trivial
    exact ((failedResultFromRequest_names clock c.req _ _ _ _).withMetadata _ _).withMetadata _ _
  | reported =>
    cases outcome
    exact iff_of_true (records.1.ofLast (records.2.complete _)) trivial
  | superseded clock entry =>
    cases outcome
    refine iff_of_true (Registered.ofLast records ?_) trivial
    exact (failedResultFromRequest_names clock entry.request _ _ _ _).withMetadata _ _
  | completed =>
    cases outcome
    exact completed_ofLast_iff sound records.1
  | recoveredJob =>
    cases outcome
    refine iff_of_true (records.1.ofLast ?_) trivial
    unfold persisted
    rw [if_pos records.2]
    exact completionResult_names _ _ _ _

end

theorem committed_result {terminal result : EpisodeResult}
    (replied : some (committed.map fun _ => terminal) = some (.ok result)) : terminal = result := by
  cases committed with
  | error => cases replied
  | ok _ => exact Except.ok.inj (Option.some.inj replied)

/-- What `submit_episode` returns, with or without a store. -/
theorem reply_ofLast_iff (sound : c.Sound settings request) (returned : c.phase = .returned ending)
    {result : EpisodeResult} (replied : c.reply settings clock committed = some (.ok result)) :
    OfLast c result ↔ c.Keeps settings ending := by
  unfold reply at replied
  rw [returned] at replied
  simp only at replied
  split at replied
  · exact outcome_ofLast_iff sound returned (Option.some.inj replied)
  · next terminal outcome _ =>
    obtain rfl := committed_result replied
    exact outcome_ofLast_iff sound returned outcome
  · next message outcome _ =>
    cases ending with
    | error message =>
      obtain rfl := committed_result replied
      have names := failedResultFromRequest_names clock c.submitted "failed" message .errInternal
        none
      exact ⟨fun ofLast => ofLast.attempt.symm.trans names.attempt,
        fun first => ⟨names.episode, names.attempt.trans first.symm⟩⟩
    | recoveryFailed => cases replied
    | terminal | agentTerminal | nonRetryable | reported | superseded | completed | recoveredJob =>
      cases outcome

/-- A result that `submit_episode` returns carries the episode of the request and the attempt that
produced it, which is not 0, exactly if the identity is kept at the end of the execution and the
retries have not carried the number of the attempt round to 0. -/
theorem identified_iff (reached : Reachable (system settings request) c) {ending : Ending}
    (returned : c.phase = .returned ending) {clock : Clock} {committed : Except String Unit}
    {result : EpisodeResult} (replied : c.reply settings clock committed = some (.ok result)) :
    Identified request c result ↔ c.Keeps settings ending ∧ c.lastAttempt ≠ 0 := by
  have sound := sound_of_reached reached
  rw [← reply_ofLast_iff sound returned replied]
  constructor
  · intro identified
    exact ⟨⟨identified.episode, identified.attempt⟩, identified.attempt ▸ identified.nonzero⟩
  · rintro ⟨ofLast, nonzero⟩
    refine ⟨ofLast.episode, fun named => ?_, ofLast.attempt, ?_⟩
    · exact ofLast.episode.trans (sound.asked named)
    · rw [ofLast.attempt]
      exact nonzero

/-- Every payload of `env_type` "code" is one for an agent. -/
def codeSpecs : AgentSpecs := { swe := fun _ => false, code := fun _ => true }

def memoryOnly : Settings := { specs := codeSpecs, maxAttempts := 3, persistent := false }

def withStore : Settings := { specs := codeSpecs, maxAttempts := 3, persistent := true }

def epoch : Clock := { instant := 0, unixSeconds := .zero }

/-- The request for episode `e` in an environment. -/
def requestFor (envType : String) : EpisodeRequest :=
  { episodeId := "e", attemptId := 1, envType, parallelMode := "sync", enqueueTs := some .zero }

theorem initial_requestFor (settings : Settings) (envType : String) :
    (system settings (requestFor envType)).init (start 0 (requestFor envType)) := by
  refine ⟨⟨"u", by decide⟩, .zero, requestFor envType, 0, prepare_of_prepared ?_ _ _, rfl⟩
  constructor
  · exact (by decide : "e" ≠ "")
  · exact (by decide : (1 : UInt32) ≠ 0)
  · exact Or.inl rfl
  · intro key member
    exact absurd member Std.ExtTreeMap.not_mem_empty
  · rfl

/-- The execution has been cancelled. -/
def isCancelled (c : Course) : Bool :=
  match c.phase with
  | .returned (.terminal _ (.cancelled _) _) => true
  | _ => false

/-- A dispatch to worker `w1`. -/
def dispatchTo (leaseId : String) : Label :=
  .dispatch epoch 1 leaseId
    { token := [1], expireSeconds := 60, dispatchText := "0", dispatchAtMs := 0 }
    { workerId := "w1", endpoint := "http://w1", gatewayPublicUrl := "" }

/-- The schedule ends with a result for which `holds`. -/
def endsWith (settings : Settings) (envType : String) (schedule : List Label)
    (holds : Course → EpisodeResult → Bool) : Bool :=
  ((system settings (requestFor envType)).exec (start 0 (requestFor envType)) schedule).any fun c =>
    (c.reply settings epoch (.ok ())).any fun reply => reply.toOption.any (holds c)

theorem exists_of_endsWith {envType : String} {schedule : List Label}
    {holds : Course → EpisodeResult → Bool}
    (ends : endsWith settings envType schedule holds = true) :
    ∃ (c : Course) (result : EpisodeResult),
      Reachable (system settings (requestFor envType)) c ∧
        c.reply settings epoch (.ok ()) = some (.ok result) ∧ holds c result = true := by
  obtain ⟨c, ran, ends⟩ := (Option.any_eq_true _ _).mp ends
  obtain ⟨reply, replied, ends⟩ := (Option.any_eq_true _ _).mp ends
  obtain ⟨result, returned, ends⟩ := (Option.any_eq_true _ _).mp ends
  have succeeded : reply = .ok result := by
    cases reply with
    | error => cases returned
    | ok _ => exact congrArg Except.ok (Option.some.inj returned)
  rw [succeeded] at replied
  exact ⟨c, result, Reachable.of_exec (initial_requestFor _ _) schedule ran, replied, ends⟩

/-- The worker refuses the connection of the first attempt, and the second is cancelled. -/
theorem identified_second_attempt :
    ∃ (c : Course) (result : EpisodeResult),
      Reachable (system withStore (requestFor "math")) c ∧ result.attemptId = 2 ∧
        Identified (requestFor "math") c result := by
  have ends : endsWith withStore "math" [.admitted, dispatchTo "lease-1",
      .dispatchFailed epoch "refused", .wake, dispatchTo "lease-2", .cancelled epoch]
      (fun c result => isCancelled c && c.lastAttempt == 2 && result.attemptId == 2) = true := by
    decide +kernel
  obtain ⟨c, result, reached, replied, facts⟩ := exists_of_endsWith ends
  rw [Bool.and_eq_true, Bool.and_eq_true, beq_iff_eq, beq_iff_eq] at facts
  obtain ⟨⟨ended, last⟩, second⟩ := facts
  unfold isCancelled at ended
  split at ended
  · next clock reason timing returned =>
    refine ⟨c, result, reached, second, (identified_iff reached returned replied).mpr ⟨trivial, ?_⟩⟩
    rw [last]
    decide
  · cases ended

/-- The agent of the job of episode `e` completes it on a server without a store. -/
theorem completed_without_attempt :
    ∃ (c : Course) (result : EpisodeResult), Reachable (system memoryOnly (requestFor "code")) c ∧
      c.reply memoryOnly epoch (.ok ()) = some (.ok result) ∧ result.attemptId = 0 ∧
        ¬ Identified (requestFor "code") c result := by
  have ends : endsWith memoryOnly "code" [.admitted, .queueJob {}, .complete epoch "run-e" "agent"
      { jobId := "job-e", runId := "run-e", agentId := "agent" }]
      (fun _ result => result.attemptId == 0) = true := by decide +kernel
  obtain ⟨c, result, reached, replied, zero⟩ := exists_of_endsWith ends
  rw [beq_iff_eq] at zero
  exact ⟨c, result, reached, replied, zero, fun identified => identified.nonzero zero⟩

end Course

end UEnv
