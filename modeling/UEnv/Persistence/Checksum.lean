import UEnv.Proto.Encode

/-!
# Request and result checksums

`persistence/mod.rs`. The digest itself comes from a library and is the parameter `sha256Hex`;
what it is applied to is computed here.
-/

namespace UEnv.Persistence

open Proto Wire

/-- `append_len_prefixed`: the length is a little-endian `u64`. -/
def appendLenPrefixed (value : Bytes) : Bytes := littleEndian 8 value.length ++ value

def appendSortedStringMap (values : StringMap) : Bytes :=
  littleEndian 8 values.size ++
    (values.toList.map fun entry =>
      appendLenPrefixed (utf8 entry.1) ++ appendLenPrefixed (utf8 entry.2)).flatten

/-- The request without the fields that the server fills in. -/
def canonicalRequest (request : EpisodeRequest) : EpisodeRequest :=
  { request with
    enqueueTs := none
    dispatchLeaseId := ""
    dispatchToken := []
    schedulerEpoch := 0
    leaseExpireAt := none
    metadata := request.metadata.erase "dispatch_ts" }

/-- What `request_checksum` hashes. -/
def requestBytes (request : EpisodeRequest) : Bytes :=
  let canonical := canonicalRequest request
  canonical.encode ++ utf8 "\x00uenv-request-map-v1" ++ appendSortedStringMap canonical.metadata

/-- `request_checksum` (episode_coordinator.rs, 23-25). -/
def requestChecksum (sha256Hex : Bytes → String) (request : EpisodeRequest) : String :=
  sha256Hex (requestBytes request)

/-- What `result_checksum` hashes. -/
def resultBytes (result : EpisodeResult) : Bytes :=
  let stepInfo := (result.trajectory.map fun t => t.steps.map StepRecord.info).getD []
  result.encode ++ utf8 "\x00uenv-result-map-v1" ++ appendSortedStringMap result.metadata ++
    littleEndian 8 stepInfo.length ++ (stepInfo.map appendSortedStringMap).flatten

/-- `result_checksum` (persistence/mod.rs, 60-78). -/
def resultChecksum (sha256Hex : Bytes → String) (result : EpisodeResult) : String :=
  sha256Hex (resultBytes result)

end UEnv.Persistence
