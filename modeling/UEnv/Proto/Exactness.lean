import UEnv.Lib.Fields
import UEnv.Proto.Encode

/-!
# Encodings that can be read back

The episode messages without their maps: the encoding of a request and of a result determines it,
also when something follows that starts with no key. A plain `double` is left out for both zeros,
so a result is determined when none of these is negative.
-/

namespace UEnv

/-- A number that is no negative zero. -/
def F64.Signless (x : F64) : Prop := x.bits &&& 0x7FFFFFFFFFFFFFFF = 0 → x.bits = 0

theorem F64.bits_inj {x y : F64} (same : x.bits = y.bits) : x = y := by
  cases x
  cases y
  exact congrArg F64.mk same

end UEnv

namespace UEnv.Proto

open Wire

section Kinds

variable {α : Type} {ok : α → Prop} {field : Nat}

/-- A plain `double`. -/
theorem fields_double (p : α → F64) (signless : ∀ a, ok a → (p a).Signless)
    (number : ValidKey field 1 := by decide) :
    Fields field (field + 1) ok (fun a => double field (p a).bits) fun a b => p a = p b :=
  (Fields.double (fun a => (p a).bits) signless number).imp fun _ _ same => F64.bits_inj same

/-- An optional `double`. -/
theorem fields_optDouble (p : α → Option F64) (number : ValidKey field 1 := by decide) :
    Fields field (field + 1) ok (fun a => optDouble field ((p a).map F64.bits))
      fun a b => p a = p b :=
  (Fields.optDouble (fun a => (p a).map F64.bits) number).imp fun _ _ same =>
    Option.map_injective (fun _ _ => F64.bits_inj) same

/-- An optional `int64`. -/
theorem fields_optInt64 (p : α → Option Int64) (number : ValidKey field 0 := by decide) :
    Fields field (field + 1) ok (fun a => optVarint field ((p a).map Int64.toUInt64))
      fun a b => p a = p b :=
  (Fields.optVarint (fun a => (p a).map Int64.toUInt64) number).imp fun _ _ same =>
    Option.map_injective (fun _ _ equal => congrArg Int64.ofUInt64 equal) same

/-- An optional `int32`. -/
theorem fields_optInt32 (p : α → Option Int32) (number : ValidKey field 0 := by decide) :
    Fields field (field + 1) ok
      (fun a => optVarint field ((p a).map fun n => n.toInt64.toUInt64)) fun a b => p a = p b :=
  (Fields.optVarint (fun a => (p a).map fun n => n.toInt64.toUInt64) number).imp fun _ _ same =>
    Option.map_injective (fun _ _ equal => toInt64_inj (congrArg Int64.ofUInt64 equal)) same

end Kinds

theorem exact_timestamp : Exact (fun _ => True) Timestamp.encode := by
  refine (Fields.int64 Timestamp.seconds
    |>.append (Fields.int32 Timestamp.nanos)).exact ?_
  rintro ⟨⟩ ⟨⟩ _ _ ⟨rfl, rfl⟩
  rfl

theorem exact_resourceSpec : Exact (fun _ => True) ResourceSpec.encode := by
  refine (Fields.int32 ResourceSpec.cpuCores
    |>.append (Fields.int32 ResourceSpec.memoryMb)
    |>.append (Fields.int32 ResourceSpec.gpuCount)
    |>.append (Fields.string ResourceSpec.gpuType)).exact ?_
  rintro ⟨⟩ ⟨⟩ _ _ ⟨⟨⟨rfl, rfl⟩, rfl⟩, rfl⟩
  rfl

theorem exact_modelEndpoint : Exact (fun _ => True) ModelEndpoint.encode := by
  refine (Fields.string ModelEndpoint.endpointType
    |>.append (Fields.string ModelEndpoint.url)
    |>.append (Fields.string ModelEndpoint.modelName)
    |>.append (Fields.bytes ModelEndpoint.generationConfigJson)
    |>.append (Fields.int32 ModelEndpoint.maxRetries)).exact ?_
  rintro ⟨⟩ ⟨⟩ _ _ ⟨⟨⟨⟨rfl, rfl⟩, rfl⟩, rfl⟩, rfl⟩
  rfl

theorem exact_rolloutTrace : Exact (fun _ => True) RolloutTrace.encode := by
  have ids : Delimited (fun _ : Int64 => True) fun id => varint id.toUInt64 :=
    delimited_varint.comap (fun _ _ => trivial) fun _ _ same => congrArg Int64.ofUInt64 same
  have masks : Delimited (fun _ : Int32 => True) fun m => varint m.toInt64.toUInt64 :=
    delimited_varint.comap (fun _ _ => trivial) fun _ _ same =>
      toInt64_inj (congrArg Int64.ofUInt64 same)
  refine (Fields.packed ids (fun _ => varint_ne_nil _) RolloutTrace.responseIds
      fun _ _ _ _ => trivial)
    |>.append (Fields.packed masks (fun _ => varint_ne_nil _) RolloutTrace.responseMask
      fun _ _ _ _ => trivial) |>.exact ?_
  rintro ⟨⟩ ⟨⟩ _ _ ⟨rfl, rfl⟩
  rfl

/-- A step without its `info` whose reward is no negative zero. -/
structure StepRecord.Plain (s : StepRecord) : Prop where
  info : s.info = ∅
  reward : s.reward.Signless

theorem exact_stepRecord : Exact StepRecord.Plain StepRecord.encode := by
  refine (Fields.int32 StepRecord.stepIndex
    |>.append (Fields.bytes StepRecord.observation)
    |>.append (Fields.bytes StepRecord.action)
    |>.append (fields_double StepRecord.reward fun _ plain => plain.reward)
    |>.append (Fields.boolean StepRecord.terminated)
    |>.append (Fields.boolean StepRecord.truncated)
    |>.append (Fields.int64 StepRecord.durationMs)
    |>.append (Fields.message exact_rolloutTrace StepRecord.rolloutTrace
      fun _ _ _ _ => trivial)).exact ?_
  rintro ⟨⟩ ⟨⟩ ⟨rfl, _⟩ ⟨rfl, _⟩ ⟨⟨⟨⟨⟨⟨⟨rfl, rfl⟩, rfl⟩, rfl⟩, rfl⟩, rfl⟩, rfl⟩, rfl⟩
  rfl

/-- A trajectory of such steps whose reward is no negative zero. -/
structure Trajectory.Plain (t : Trajectory) : Prop where
  steps : ∀ s ∈ t.steps, s.Plain
  totalReward : t.totalReward.Signless

theorem exact_trajectory : Exact Trajectory.Plain Trajectory.encode := by
  refine (Fields.repeated exact_stepRecord Trajectory.steps fun _ plain => plain.steps)
    |>.append (fields_double Trajectory.totalReward fun _ plain => plain.totalReward)
    |>.append (Fields.int32 Trajectory.totalSteps) |>.exact ?_
  rintro ⟨⟩ ⟨⟩ _ _ ⟨⟨rfl, rfl⟩, rfl⟩
  rfl

theorem exact_summary : Exact (fun s => s.totalReward.Signless) Summary.encode := by
  refine (fields_double Summary.totalReward fun _ signless => signless)
    |>.append (Fields.int32 Summary.totalSteps)
    |>.append (Fields.int64 Summary.totalDurationMs)
    |>.append (Fields.string Summary.terminateReason) |>.exact ?_
  rintro ⟨⟩ ⟨⟩ _ _ ⟨⟨⟨rfl, rfl⟩, rfl⟩, rfl⟩
  rfl

theorem fields_requestTail : Fields 3 25 (fun r : EpisodeRequest => r.metadata = ∅)
    EpisodeRequest.encodeTail fun a b => ∀ episodeId attemptId,
      { a with episodeId, attemptId, metadata := ∅ } =
        ({ b with episodeId, attemptId, metadata := ∅ } : EpisodeRequest) := by
  refine (Fields.string EpisodeRequest.envType
    |>.append (Fields.bytes EpisodeRequest.payload)
    |>.append (Fields.int32 EpisodeRequest.mode)
    |>.append (Fields.int32 EpisodeRequest.maxSteps)
    |>.append (Fields.message exact_resourceSpec EpisodeRequest.resourceSpec
      fun _ _ _ _ => trivial)
    |>.append (fields_optInt32 EpisodeRequest.seed)
    |>.append (Fields.string EpisodeRequest.correlationId)
    |>.append (Fields.int32 EpisodeRequest.timeoutSeconds)
    |>.append (Fields.bytes EpisodeRequest.rewardConfig)
    |>.append (Fields.string EpisodeRequest.dispatchLeaseId)
    |>.append (Fields.message exact_timestamp EpisodeRequest.leaseExpireAt
      fun _ _ _ _ => trivial)
    |>.append (Fields.uint64 EpisodeRequest.schedulerEpoch)
    |>.append (Fields.bytes EpisodeRequest.dispatchToken)
    |>.append (Fields.string EpisodeRequest.envPackageId)
    |>.append (Fields.string EpisodeRequest.envPackageVersion)
    |>.append (Fields.string EpisodeRequest.parallelMode)
    |>.append (fields_optDouble EpisodeRequest.enqueueTs)
    |>.append (Fields.message exact_modelEndpoint EpisodeRequest.modelEndpointConfig
      fun _ _ _ _ => trivial)
    |>.append (Fields.string EpisodeRequest.schedulingGroupId)
    |>.append (Fields.uint32 EpisodeRequest.schedulingPriority)).imp ?_
  rintro ⟨⟩ ⟨⟩ same _ _
  simp_all

theorem fields_request :
    Fields 1 25 (fun r : EpisodeRequest => r.metadata = ∅) EpisodeRequest.encode Eq := by
  refine (Fields.string EpisodeRequest.episodeId
    |>.append (Fields.uint32 EpisodeRequest.attemptId)
    |>.append fields_requestTail).whole ?_
  rintro ⟨⟩ ⟨⟩ rfl rfl ⟨⟨rfl, rfl⟩, tail⟩
  exact tail _ _

/-- A result without maps in which no plain `double` is a negative zero. -/
structure EpisodeResult.Plain (r : EpisodeResult) : Prop where
  trajectory : ∀ t ∈ r.trajectory, t.Plain
  summary : ∀ s ∈ r.summary, s.totalReward.Signless
  metadata : r.metadata = ∅

theorem fields_result : Fields 1 25 EpisodeResult.Plain EpisodeResult.encode Eq := by
  have probs : Delimited (fun _ : F32 => True) fun p => littleEndian 4 p.bits.toNat := by
    intro x y r s _ _ _ _ same
    obtain ⟨values, rest⟩ := littleEndian_append_inj 4 (x.bits.toNat_lt) (y.bits.toNat_lt) same
    cases x
    cases y
    exact ⟨congrArg F32.mk (UInt32.toNat_inj.mp values), rest⟩
  have written : ∀ p : F32, littleEndian 4 p.bits.toNat ≠ [] := fun p empty =>
    absurd (congrArg List.length empty) (by rw [length_littleEndian]; decide)
  refine (Fields.string EpisodeResult.episodeId
    |>.append (Fields.uint32 EpisodeResult.attemptId)
    |>.append (Fields.string EpisodeResult.status)
    |>.append (Fields.message exact_trajectory EpisodeResult.trajectory
      fun _ plain => plain.trajectory)
    |>.append (Fields.message exact_summary EpisodeResult.summary fun _ plain => plain.summary)
    |>.append (fields_optInt32 EpisodeResult.errorCode)
    |>.append (Fields.string EpisodeResult.errorMessage)
    |>.append (Fields.string EpisodeResult.trajectoryChecksum)
    |>.append (Fields.boolean EpisodeResult.integrityVerified)
    |>.append (Fields.string EpisodeResult.trajectoryId)
    |>.append (Fields.string EpisodeResult.trajectoryStorageUrl)
    |>.append (Fields.string EpisodeResult.gatewaySessionId)
    |>.append (Fields.string EpisodeResult.parallelMode)
    |>.append (fields_optInt64 EpisodeResult.rolloutParamVersion)
    |>.append (Fields.message exact_utf8 EpisodeResult.rolloutPolicyVersion
      fun _ _ _ _ => trivial)
    |>.append (Fields.packed probs written EpisodeResult.rolloutLogProbs fun _ _ _ _ => trivial)
    |>.append (fields_optDouble EpisodeResult.dispatchTs)
    |>.append (fields_optDouble EpisodeResult.workerStartTs)
    |>.append (fields_optDouble EpisodeResult.workerFinishTs)
    |>.append (fields_optDouble EpisodeResult.resultReadyTs)
    |>.append (fields_optInt64 EpisodeResult.serverLatencyMs)
    |>.append (fields_optInt64 EpisodeResult.workerLatencyMs)
    |>.append (fields_optInt64 EpisodeResult.modelLatencyMs)).whole ?_
  rintro ⟨⟩ ⟨⟩ ⟨_, _, rfl⟩ ⟨_, _, rfl⟩ same
  simp_all

end UEnv.Proto
