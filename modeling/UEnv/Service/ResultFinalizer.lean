import UEnv.Scheduler.RoundRobin
import UEnv.Service.Request

/-!
# The result finalizer

`result_finalizer.rs`: how the server completes a result that a worker reports, and the results
that it makes itself. The clocks are an argument; observation and the trajectory store are left
out.
-/

namespace UEnv.Service

open Proto Scheduler

structure ResultTiming where
  enqueueAt : Instant
  dispatchAt : Option Instant
  dispatchTs : Option F64

/-- `Instant::now()` and `now_unix_seconds_f64()`. -/
structure Clock where
  instant : Instant
  unixSeconds : F64

/-- `t.elapsed().as_millis() as i64`. -/
def Clock.elapsedMillis (clock : Clock) (t : Instant) : Int64 :=
  Int64.ofNat ((clock.instant - t) / 1000000)

inductive EpisodeTerminalEvent
  | cancelled (reason : String)
  | timedOut (reason : String)

section Finalizer

variable (clock : Clock) (req : EpisodeRequest)

/-- The entries of the request that `finalize_episode_result` adds to the metadata of a result. -/
def addContext (metadata : StringMap) : StringMap :=
  req.metadata.foldl
    (fun metadata key value =>
      if isProtocolMetadataKey key then metadata else metadata.insertIfNew key value)
    metadata

/-- `finalize_episode_result` (result_finalizer.rs, 152-187). -/
def finalizeEpisodeResult (result : EpisodeResult) (timing : Option ResultTiming) :
    EpisodeResult :=
  let result := { result with
    parallelMode := if result.parallelMode.isEmpty then req.parallelMode else result.parallelMode
    metadata := addContext req result.metadata
    resultReadyTs := some (result.resultReadyTs.getD clock.unixSeconds) }
  match timing with
  | none => result
  | some timing =>
    let since := timing.dispatchAt.getD timing.enqueueAt
    { result with
      dispatchTs := result.dispatchTs.or timing.dispatchTs
      serverLatencyMs := some (result.serverLatencyMs.getD (clock.elapsedMillis since)) }

/-- `failed_result_from_request` (result_finalizer.rs, 40-62). -/
def failedResultFromRequest (status message : String) (errorCode : ErrorCode)
    (timing : Option ResultTiming) : EpisodeResult :=
  let result : EpisodeResult :=
    { episodeId := req.episodeId, attemptId := req.attemptId, status
      errorCode := some errorCode.toInt32, errorMessage := message
      summary := some { terminateReason := status } }
  finalizeEpisodeResult clock req result timing

/-- `result.metadata.insert(key, value)`. -/
def withMetadata (result : EpisodeResult) (key value : String) : EpisodeResult :=
  { result with metadata := result.metadata.insert key value }

/-- `terminal_result_from_request` (result_finalizer.rs, 64-105). -/
def terminalResultFromRequest (event : EpisodeTerminalEvent) (timing : Option ResultTiming) :
    EpisodeResult :=
  match event with
  | .cancelled reason =>
    let result : EpisodeResult :=
      { episodeId := req.episodeId, attemptId := req.attemptId, status := "cancelled"
        errorMessage := reason, summary := some { terminateReason := "cancelled" } }
    withMetadata (finalizeEpisodeResult clock req result timing) "terminal_kind" "cancelled"
  | .timedOut reason =>
    withMetadata
      (failedResultFromRequest clock req "failed" reason .errEpisodeTimeout timing)
      "terminal_kind" "timeout"

/-- `cancelled_result_from_request` (result_finalizer.rs, 107-119). -/
def cancelledResultFromRequest (reason : String) (timing : Option ResultTiming) : EpisodeResult :=
  terminalResultFromRequest clock req (.cancelled reason) timing

/-- `timeout_result_from_request` (result_finalizer.rs, 121-133). -/
def timeoutResultFromRequest (reason : String) (timing : Option ResultTiming) : EpisodeResult :=
  terminalResultFromRequest clock req (.timedOut reason) timing

/-- `validate_verl_async_result` (result_finalizer.rs, 188-218). -/
def validateVerlAsyncResult (result : EpisodeResult) : Except String Unit :=
  if result.status ≠ "completed" then .ok ()
  else if req.parallelMode ≠ "one_step_off_policy" ∧ req.parallelMode ≠ "fully_async" then .ok ()
  else if result.parallelMode ≠ req.parallelMode then
    .error s!"parallel_mode mismatch: request={req.parallelMode}, result={result.parallelMode}"
  else if result.rolloutParamVersion.isNone then .error "missing rollout_param_version"
  else if (result.rolloutPolicyVersion.getD "").isEmpty then
    .error "missing rollout_policy_version"
  else if result.rolloutLogProbs.isEmpty then .error "missing rollout_log_probs"
  else .ok ()

/-- `finalize_or_protocol_failed`, and `complete_episode_result` without publication. -/
def completeEpisodeResult (result : EpisodeResult) (timing : Option ResultTiming) :
    EpisodeResult :=
  let finalized := finalizeEpisodeResult clock req result timing
  match validateVerlAsyncResult req finalized with
  | .ok () => finalized
  | .error message =>
    withMetadata
      (failedResultFromRequest clock req "failed" message .errAsyncProtocolMissingField timing)
      "async_protocol_error" message

end Finalizer

section Identity

variable {clock : Clock} {req : EpisodeRequest}

@[simp]
theorem finalizeEpisodeResult_episodeId (result : EpisodeResult) (timing : Option ResultTiming) :
    (finalizeEpisodeResult clock req result timing).episodeId = result.episodeId := by
  cases timing <;> rfl

@[simp]
theorem finalizeEpisodeResult_attemptId (result : EpisodeResult) (timing : Option ResultTiming) :
    (finalizeEpisodeResult clock req result timing).attemptId = result.attemptId := by
  cases timing <;> rfl

@[simp]
theorem finalizeEpisodeResult_status (result : EpisodeResult) (timing : Option ResultTiming) :
    (finalizeEpisodeResult clock req result timing).status = result.status := by
  cases timing <;> rfl

theorem completeEpisodeResult_identity {result : EpisodeResult} (timing : Option ResultTiming)
    (episode : result.episodeId = req.episodeId) (attempt : result.attemptId = req.attemptId) :
    (completeEpisodeResult clock req result timing).episodeId = req.episodeId ∧
      (completeEpisodeResult clock req result timing).attemptId = req.attemptId := by
  unfold completeEpisodeResult
  simp only
  split
  · simp [episode, attempt]
  · simp [withMetadata, failedResultFromRequest]

end Identity

/-! ### Finalizing twice -/

section Idempotence

variable {clock : Clock} {req : EpisodeRequest} {result : EpisodeResult} {metadata : StringMap}

/-- What one entry of the request adds to the metadata of a result. -/
def addEntry (metadata : StringMap) (entry : String × String) : StringMap :=
  if isProtocolMetadataKey entry.1 then metadata else metadata.insertIfNew entry.1 entry.2

theorem addContext_eq_foldl (req : EpisodeRequest) (metadata : StringMap) :
    addContext req metadata = req.metadata.toList.foldl addEntry metadata :=
  Std.ExtTreeMap.foldl_eq_foldl_toList

/-- An entry stays, and the one that is added is there unless the protocol has a field for it. -/
theorem mem_addEntry (entry : String × String) (key : String) : key ∈ addEntry metadata entry ↔
      key ∈ metadata ∨ entry.1 = key ∧ isProtocolMetadataKey key = false := by
  unfold addEntry
  by_cases protocol : isProtocolMetadataKey entry.1 = true
  · rw [if_pos protocol]
    refine ⟨Or.inl, fun either => either.elim id ?_⟩
    rintro ⟨rfl, context⟩
    rw [protocol] at context
    cases context
  · rw [if_neg protocol, Std.ExtTreeMap.mem_insertIfNew, Std.LawfulEqCmp.compare_eq_iff_eq]
    constructor
    · rintro (rfl | present)
      · exact Or.inr ⟨rfl, Bool.eq_false_iff.mpr protocol⟩
      · exact Or.inl present
    · rintro (present | ⟨same, _⟩)
      · exact Or.inr present
      · exact Or.inl same

theorem addEntry_of_mem {entry : String × String}
    (present : isProtocolMetadataKey entry.1 = false → entry.1 ∈ metadata) :
    addEntry metadata entry = metadata := by
  unfold addEntry
  cases context : isProtocolMetadataKey entry.1 with
  | true => rfl
  | false =>
    apply Std.ExtTreeMap.ext_getElem?
    intro key
    rw [if_neg Bool.false_ne_true, Std.ExtTreeMap.getElem?_insertIfNew, if_neg]
    rintro ⟨_, absent⟩
    exact absent (present context)

/-- The entries of the request that belong into the metadata of a result are there. -/
def HasContext (req : EpisodeRequest) (metadata : StringMap) : Prop :=
  ∀ entry ∈ req.metadata.toList, isProtocolMetadataKey entry.1 = false → entry.1 ∈ metadata

theorem mem_foldl_addEntry (entries : List (String × String)) (key : String) :
    key ∈ entries.foldl addEntry metadata ↔
      key ∈ metadata ∨ ∃ entry ∈ entries, entry.1 = key ∧ isProtocolMetadataKey key = false := by
  induction entries generalizing metadata with
  | nil => simp
  | cons entry rest ih =>
    rw [List.foldl_cons, ih, mem_addEntry, or_assoc]
    simp only [List.mem_cons, exists_eq_or_imp]

theorem hasContext_addContext (req : EpisodeRequest) (metadata : StringMap) :
    HasContext req (addContext req metadata) := by
  intro entry member context
  rw [addContext_eq_foldl, mem_foldl_addEntry]
  exact Or.inr ⟨entry, member, rfl, context⟩

theorem HasContext.addContext (present : HasContext req metadata) :
    addContext req metadata = metadata := by
  rw [addContext_eq_foldl]
  have unchanged : ∀ entries : List (String × String),
      (∀ entry ∈ entries, isProtocolMetadataKey entry.1 = false → entry.1 ∈ metadata) →
      entries.foldl addEntry metadata = metadata := by
    intro entries
    induction entries with
    | nil => exact fun _ => rfl
    | cons entry rest ih =>
      intro present
      rw [List.foldl_cons, addEntry_of_mem (present entry List.mem_cons_self)]
      exact ih fun entry later => present entry (List.mem_cons_of_mem _ later)
  exact unchanged _ present

/-- A result to which `finalize_episode_result` has nothing to add. -/
structure Finalized (req : EpisodeRequest) (result : EpisodeResult) : Prop where
  parallelMode : result.parallelMode.isEmpty = true → req.parallelMode = result.parallelMode
  context : HasContext req result.metadata
  ready : result.resultReadyTs.isSome = true

theorem finalized_finalize (clock : Clock) (req : EpisodeRequest) (result : EpisodeResult)
    (timing : Option ResultTiming) :
    Finalized req (finalizeEpisodeResult clock req result timing) := by
  have fields : ∀ filled : EpisodeResult, filled.parallelMode =
        (if result.parallelMode.isEmpty then req.parallelMode else result.parallelMode) →
      filled.metadata = addContext req result.metadata →
      filled.resultReadyTs = some (result.resultReadyTs.getD clock.unixSeconds) →
      Finalized req filled := by
    intro filled mode context ready
    refine ⟨?_, context ▸ hasContext_addContext req _, ready ▸ rfl⟩
    rw [mode]
    split
    · exact fun _ => rfl
    · next given => exact fun empty => absurd empty given
  cases timing with
  | none => exact fields _ rfl rfl rfl
  | some => exact fields _ rfl rfl rfl

theorem Finalized.finalize (finalized : Finalized req result) (clock : Clock) :
    finalizeEpisodeResult clock req result none = result := by
  have mode : (if result.parallelMode.isEmpty then req.parallelMode else result.parallelMode) =
      result.parallelMode := by
    split
    · next empty => exact finalized.parallelMode empty
    · rfl
  obtain ⟨ready, known⟩ := Option.isSome_iff_exists.mp finalized.ready
  have kept : some (result.resultReadyTs.getD clock.unixSeconds) = result.resultReadyTs := by
    rw [known]
    rfl
  unfold finalizeEpisodeResult
  simp only [mode, finalized.context.addContext, kept]

theorem Finalized.withMetadata (finalized : Finalized req result) (key value : String) :
    Finalized req (withMetadata result key value) := by
  refine ⟨finalized.parallelMode, fun entry member context => ?_, finalized.ready⟩
  exact Std.ExtTreeMap.mem_insert.mpr (Or.inr (finalized.context entry member context))

/-- A completed result has nothing more to be filled in and passes the protocol's check. -/
theorem finalized_complete (clock : Clock) (req : EpisodeRequest) (result : EpisodeResult)
    (timing : Option ResultTiming) :
    Finalized req (completeEpisodeResult clock req result timing) ∧
      validateVerlAsyncResult req (completeEpisodeResult clock req result timing) = .ok () := by
  unfold completeEpisodeResult
  simp only
  cases checked : validateVerlAsyncResult req (finalizeEpisodeResult clock req result timing) with
  | ok => exact ⟨finalized_finalize clock req result timing, checked⟩
  | error message =>
    refine ⟨(finalized_finalize clock req _ timing).withMetadata _ _, if_pos ?_⟩
    -- the replacement is a failure, of which the protocol asks nothing
    show (failedResultFromRequest clock req "failed" message .errAsyncProtocolMissingField
      timing).status ≠ "completed"
    rw [failedResultFromRequest, finalizeEpisodeResult_status]
    exact (by decide : "failed" ≠ "completed")

/-- Finalization is idempotent, whatever the clocks: the second commit of a result is the first. -/
theorem completeEpisodeResult_idempotent (first second : Clock) (req : EpisodeRequest)
    (result : EpisodeResult) (timing : Option ResultTiming) :
    completeEpisodeResult second req (completeEpisodeResult first req result timing) none =
      completeEpisodeResult first req result timing := by
  obtain ⟨finalized, checked⟩ := finalized_complete first req result timing
  rw [completeEpisodeResult, finalized.finalize second, checked]

end Idempotence

end UEnv.Service
