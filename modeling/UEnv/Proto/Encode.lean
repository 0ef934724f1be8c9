import UEnv.Lib.Wire
import UEnv.Proto.Agent

/-!
# Encodings of the episode messages

`encode_to_vec` for the messages whose bytes the checksums cover, fields in the order of their
tags. Every map field is taken to be empty, as the checksums clear the maps first.
-/

namespace UEnv.Proto

open Wire

def Timestamp.encode (t : Timestamp) : Bytes := int64 1 t.seconds ++ int32 2 t.nanos

def ResourceSpec.encode (r : ResourceSpec) : Bytes :=
  int32 1 r.cpuCores ++ int32 2 r.memoryMb ++ int32 3 r.gpuCount ++ string 4 r.gpuType

def ModelEndpoint.encode (m : ModelEndpoint) : Bytes :=
  string 1 m.endpointType ++ string 2 m.url ++ string 3 m.modelName ++
    bytes 4 m.generationConfigJson ++ int32 5 m.maxRetries

/-- The fields of an `EpisodeRequest` behind `attempt_id`. -/
def EpisodeRequest.encodeTail (r : EpisodeRequest) : Bytes :=
  string 3 r.envType ++ bytes 4 r.payload ++ int32 5 r.mode ++ int32 6 r.maxSteps ++
    message 7 (r.resourceSpec.map ResourceSpec.encode) ++
    optVarint 9 (r.seed.map fun seed => seed.toInt64.toUInt64) ++
    string 10 r.correlationId ++ int32 11 r.timeoutSeconds ++ bytes 12 r.rewardConfig ++
    string 13 r.dispatchLeaseId ++ message 14 (r.leaseExpireAt.map Timestamp.encode) ++
    uint64 15 r.schedulerEpoch ++ bytes 16 r.dispatchToken ++ string 17 r.envPackageId ++
    string 18 r.envPackageVersion ++ string 19 r.parallelMode ++
    optDouble 20 (r.enqueueTs.map F64.bits) ++
    message 22 (r.modelEndpointConfig.map ModelEndpoint.encode) ++
    string 23 r.schedulingGroupId ++ uint32 24 r.schedulingPriority

def EpisodeRequest.encode (r : EpisodeRequest) : Bytes :=
  string 1 r.episodeId ++ uint32 2 r.attemptId ++ r.encodeTail

def RolloutTrace.encode (t : RolloutTrace) : Bytes :=
  packed 1 (t.responseIds.map fun id => varint id.toUInt64) ++
    packed 2 (t.responseMask.map fun m => varint m.toInt64.toUInt64)

def StepRecord.encode (s : StepRecord) : Bytes :=
  int32 1 s.stepIndex ++ bytes 2 s.observation ++ bytes 3 s.action ++ double 4 s.reward.bits ++
    boolean 5 s.terminated ++ boolean 6 s.truncated ++ int64 8 s.durationMs ++
    message 9 (s.rolloutTrace.map RolloutTrace.encode)

def Trajectory.encode (t : Trajectory) : Bytes :=
  (t.steps.map fun step => message 1 (some step.encode)).flatten ++
    double 2 t.totalReward.bits ++ int32 3 t.totalSteps

def Summary.encode (s : Summary) : Bytes :=
  double 1 s.totalReward.bits ++ int32 2 s.totalSteps ++ int64 3 s.totalDurationMs ++
    string 4 s.terminateReason

def EpisodeResult.encode (r : EpisodeResult) : Bytes :=
  string 1 r.episodeId ++ uint32 2 r.attemptId ++ string 3 r.status ++
    message 4 (r.trajectory.map Trajectory.encode) ++ message 5 (r.summary.map Summary.encode) ++
    optVarint 6 (r.errorCode.map fun code => code.toInt64.toUInt64) ++ string 7 r.errorMessage ++
    string 8 r.trajectoryChecksum ++ boolean 9 r.integrityVerified ++ string 10 r.trajectoryId ++
    string 11 r.trajectoryStorageUrl ++ string 12 r.gatewaySessionId ++ string 13 r.parallelMode ++
    optVarint 14 (r.rolloutParamVersion.map Int64.toUInt64) ++
    message 15 (r.rolloutPolicyVersion.map utf8) ++
    packed 16 (r.rolloutLogProbs.map fun p => littleEndian 4 p.bits.toNat) ++
    optDouble 18 (r.dispatchTs.map F64.bits) ++ optDouble 19 (r.workerStartTs.map F64.bits) ++
    optDouble 20 (r.workerFinishTs.map F64.bits) ++ optDouble 21 (r.resultReadyTs.map F64.bits) ++
    optVarint 22 (r.serverLatencyMs.map Int64.toUInt64) ++
    optVarint 23 (r.workerLatencyMs.map Int64.toUInt64) ++
    optVarint 24 (r.modelLatencyMs.map Int64.toUInt64)

theorem EpisodeRequest.encodeTail_attemptId (r : EpisodeRequest) (a : UInt32) :
    ({ r with attemptId := a } : EpisodeRequest).encodeTail = r.encodeTail := rfl

theorem EpisodeRequest.encode_attemptId_inj (r : EpisodeRequest) {a b : UInt32}
    (same : ({ r with attemptId := a } : EpisodeRequest).encode =
      ({ r with attemptId := b } : EpisodeRequest).encode) : a = b := by
  unfold EpisodeRequest.encode at same
  rw [encodeTail_attemptId, encodeTail_attemptId] at same
  have heads := List.append_cancel_right same
  exact uint32_inj (List.append_cancel_left heads)

end UEnv.Proto
