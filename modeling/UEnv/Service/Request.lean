import UEnv.Proto.Episode
import UEnv.Lib.Fallible
import UEnv.Lib.Tables

/-!
# Preparing a request

What every submission does to its request before anything else (`prelude_and_guards.rs`). The
fresh uuid and the clock are arguments.
-/

namespace UEnv.Service

open Proto Fallible Tables

/-- The text of a fresh uuid, which is never empty. -/
structure Uuid where
  text : String
  nonempty : text ≠ ""

/-- `normalize_episode_request` (prelude_and_guards.rs, 295-302). -/
def normalizeEpisodeRequest (uuid : Uuid) (req : EpisodeRequest) : EpisodeRequest :=
  { req with
    episodeId := if req.episodeId.isEmpty then uuid.text else req.episodeId
    attemptId := if req.attemptId = 0 then 1 else req.attemptId }

/-- The characters with the Unicode property `White_Space`, which `str::trim` removes. -/
def isWhiteSpace (c : Char) : Bool :=
  let n := c.toNat
  (9 ≤ n && n ≤ 13) || n == 32 || n == 133 || n == 160 || n == 5760 || (8192 ≤ n && n ≤ 8202) ||
    n == 8232 || n == 8233 || n == 8239 || n == 8287 || n == 12288

/-- `str::trim`. -/
def trim (s : String) : String :=
  String.ofList (((s.toList.dropWhile isWhiteSpace).reverse.dropWhile isWhiteSpace).reverse)

/-- `normalize_parallel_mode` (prelude_and_guards.rs, 323-334). -/
def normalizeParallelMode (raw : String) : Except String String :=
  let mode := trim raw
  if mode.isEmpty then .ok "sync"
  else if mode = "sync" ∨ mode = "one_step_off_policy" ∨ mode = "fully_async" then .ok mode
  else .error s!"unsupported parallel_mode: {mode}"

/-- `is_protocol_metadata_key` (result_finalizer.rs, 135-151). -/
def isProtocolMetadataKey (key : String) : Bool :=
  ["parallel_mode", "rollout_param_version", "rollout_policy_version", "rollout_log_probs",
    "enqueue_ts", "dispatch_ts", "result_ready_ts", "worker_start_ts", "worker_finish_ts",
    "server_latency_ms", "worker_latency_ms", "model_latency_ms"].contains key

/-- `strip_protocol_metadata` (prelude_and_guards.rs, 354-356). -/
def stripProtocolMetadata (metadata : StringMap) : StringMap :=
  metadata.filter fun key _ => !isProtocolMetadataKey key

/-- `ensure_async_request_context` (prelude_and_guards.rs, 362-375). -/
def ensureAsyncRequestContext (now : F64) (req : EpisodeRequest) :
    Except String EpisodeRequest := do
  let parallelMode ← normalizeParallelMode req.parallelMode
  .ok { req with
    parallelMode
    metadata := stripProtocolMetadata req.metadata
    enqueueTs := some (req.enqueueTs.getD now) }

/-- The request as the store and the coordinator see it. -/
def prepare (uuid : Uuid) (now : F64) (req : EpisodeRequest) : Except String EpisodeRequest :=
  ensureAsyncRequestContext now (normalizeEpisodeRequest uuid req)

/-- The parallel modes that the server supports. -/
def SupportedMode (mode : String) : Prop :=
  mode = "sync" ∨ mode = "one_step_off_policy" ∨ mode = "fully_async"

/-- A request in the form that `prepare` gives it. -/
structure Prepared (req : EpisodeRequest) : Prop where
  named : req.episodeId ≠ ""
  attempt : req.attemptId ≠ 0
  mode : SupportedMode req.parallelMode
  metadata : ∀ key ∈ req.metadata, isProtocolMetadataKey key = false
  enqueued : req.enqueueTs.isSome

theorem supportedMode_of_normalize {raw mode : String}
    (normalized : normalizeParallelMode raw = .ok mode) : SupportedMode mode := by
  unfold normalizeParallelMode at normalized
  simp only at normalized
  split at normalized
  · cases normalized
    exact Or.inl rfl
  · split at normalized
    · next supported =>
      cases normalized
      exact supported
    · cases normalized

theorem normalizeParallelMode_of_supported {mode : String} (supported : SupportedMode mode) :
    normalizeParallelMode mode = .ok mode := by
  rcases supported with rfl | rfl | rfl
  · decide
  · decide
  · decide

theorem normalizeEpisodeRequest_named (uuid : Uuid) (req : EpisodeRequest) :
    (normalizeEpisodeRequest uuid req).episodeId ≠ "" := by
  unfold normalizeEpisodeRequest
  simp only [String.isEmpty_iff]
  split
  · exact uuid.nonempty
  · next named => exact named

theorem normalizeEpisodeRequest_attemptId (uuid : Uuid) (req : EpisodeRequest) :
    (normalizeEpisodeRequest uuid req).attemptId ≠ 0 := by
  unfold normalizeEpisodeRequest
  simp only
  split
  · exact (by decide : (1 : UInt32) ≠ 0)
  · next nonzero => exact nonzero

theorem prepared_of_prepare {uuid : Uuid} {now : F64} {req prepared : EpisodeRequest}
    (ready : prepare uuid now req = .ok prepared) : Prepared prepared := by
  obtain ⟨mode, normalized, built⟩ := bind_eq_ok.mp ready
  cases built
  refine ⟨normalizeEpisodeRequest_named uuid req, normalizeEpisodeRequest_attemptId uuid req,
    supportedMode_of_normalize normalized, ?_, rfl⟩
  intro key member
  obtain ⟨value, present⟩ := (mem_iff_lookup _ _).mp member
  have kept := (lookup_of_filter present).2
  simpa using kept

theorem prepare_of_prepared {req : EpisodeRequest} (prepared : Prepared req) (uuid : Uuid)
    (now : F64) : prepare uuid now req = .ok req := by
  have normalized : normalizeEpisodeRequest uuid req = req := by
    unfold normalizeEpisodeRequest
    simp only [String.isEmpty_iff, if_neg prepared.named, if_neg prepared.attempt]
  have stripped : stripProtocolMetadata req.metadata = req.metadata := by
    apply Std.ExtTreeMap.ext_getElem?
    intro key
    unfold stripProtocolMetadata
    rw [lookup_filter]
    cases present : req.metadata[key]? with
    | none => rfl
    | some value =>
      have member : key ∈ req.metadata := (mem_iff_lookup _ _).mpr ⟨value, present⟩
      rw [Option.filter_some, prepared.metadata key member]
      rfl
  obtain ⟨enqueueTs, enqueued⟩ := Option.isSome_iff_exists.mp prepared.enqueued
  have kept : some (req.enqueueTs.getD now) = req.enqueueTs := by
    rw [enqueued]
    rfl
  unfold prepare ensureAsyncRequestContext
  rw [normalized, normalizeParallelMode_of_supported prepared.mode, stripped, kept]
  rfl

end UEnv.Service
