import UEnv.Lib.Crc32
import UEnv.Lib.Escape
import UEnv.Lib.Runs
import UEnv.Lib.Sha256
import UEnv.Lib.Tables
import UEnv.Proto.Encode

/-!
# The write-ahead log of results

`wal/mod.rs`. A result is kept in a file until the server has it. The name of the file is the
idempotency key of the dispatch with every colon written as two underscores, and a replay reads
the key back from the name.
-/

namespace UEnv.Worker

open Tables Runs Wire Proto Sha256 Escape

/-- The components of an idempotency key. -/
structure Dispatch where
  episodeId : String
  attemptId : UInt32
  workerId : String
  dispatchLeaseId : String
  deriving DecidableEq

/-- `build_idempotency_key` (async_context.rs, 30-37). -/
def buildIdempotencyKey (d : Dispatch) : String :=
  d.episodeId ++ ":" ++ toString d.attemptId ++ ":" ++ d.workerId ++ ":" ++ d.dispatchLeaseId

/-- `ReplayState`, the states that the worker writes and reads. -/
def replayStatePending : Int32 := 1

def replayStateAcked : Int32 := 3

structure WalRecord where
  episodeId : String
  attemptId : UInt32
  workerId : String
  dispatchLeaseId : String
  serverEpoch : UInt64
  requestChecksum : String
  resultChecksum : String
  status : String
  protobufPayload : Bytes
  createdAt : Option Timestamp
  replayState : Int32
  dispatchToken : Bytes

structure WalPendingRecord where
  idempotencyKey : String
  episodeId : String
  attemptId : UInt32
  workerId : String
  serverEpoch : UInt64
  requestChecksum : String
  resultChecksum : String
  result : EpisodeResult
  dispatchLeaseId : String
  dispatchToken : Bytes

/-- The identity fields of a record. -/
def WalPendingRecord.dispatch (r : WalPendingRecord) : Dispatch :=
  ⟨r.episodeId, r.attemptId, r.workerId, r.dispatchLeaseId⟩

/-- `encode_to_vec`. -/
def WalRecord.encode (w : WalRecord) : Bytes :=
  string 1 w.episodeId ++ uint32 2 w.attemptId ++ string 3 w.workerId ++
    string 4 w.dispatchLeaseId ++ uint64 5 w.serverEpoch ++ string 6 w.requestChecksum ++
    string 7 w.resultChecksum ++ string 8 w.status ++ bytes 9 w.protobufPayload ++
    message 10 (w.createdAt.map Timestamp.encode) ++ int32 11 w.replayState ++
    bytes 12 w.dispatchToken

/-- The record that a replay makes of a stored one. -/
def WalRecord.pending (wal : WalRecord) (idempotencyKey : String) (result : EpisodeResult) :
    WalPendingRecord where
  idempotencyKey
  episodeId := wal.episodeId
  attemptId := wal.attemptId
  workerId := wal.workerId
  serverEpoch := wal.serverEpoch
  requestChecksum := wal.requestChecksum
  resultChecksum := wal.resultChecksum
  result
  dispatchLeaseId := wal.dispatchLeaseId
  dispatchToken := wal.dispatchToken

/-! ### File names -/

/-- `path_of`, relative to the directory of the log. -/
def pathOf (idempotencyKey : String) : String :=
  String.ofList (escape ':' '_' idempotencyKey.toList) ++ ".wal"

/-- The parts of a name before and after its last dot. -/
def splitDot : List Char → Option (List Char × List Char)
  | [] => none
  | c :: rest =>
    match splitDot rest with
    | some (before, after) => some (c :: before, after)
    | none => if c = '.' then some ([], rest) else none

/-- `Path::file_stem` and `Path::extension`, of a name that has both. -/
def stemAndExtension (name : String) : Option (String × String) :=
  (splitDot name.toList).bind fun (before, after) =>
    if before.isEmpty then none else some (String.ofList before, String.ofList after)

/-- The idempotency key in a name with the extension of the log. -/
def keyOfName (name : String) : Option String :=
  (stemAndExtension name).bind fun (stem, extension) =>
    if extension = "wal" then some (String.ofList (unescape ':' '_' stem.toList)) else none

/-! ### Files -/

/-- Decoding with `prost`. -/
structure Prost where
  decodeRecord : Bytes → Option WalRecord
  decodeResult : Bytes → Option EpisodeResult

section files

variable (prost : Prost)

/-- The bytes that `write_record` writes: the checksum and the length as `u32`, then the payload. -/
def frame (payload : Bytes) : Bytes :=
  littleEndian 4 (Crc32.checksum payload).toNat ++
    littleEndian 4 (UInt32.ofNat payload.length).toNat ++ payload

/-- `read_record` (wal/mod.rs, 220-240). -/
def readRecord (bytes : Bytes) : Except String WalRecord :=
  if bytes.length < 8 then .error "wal_too_short"
  else
    let crc := ofLittleEndian (bytes.take 4)
    let len := ofLittleEndian ((bytes.drop 4).take 4)
    if bytes.length ≠ 8 + len then .error "wal_length_mismatch"
    else
      let payload := bytes.drop 8
      if (Crc32.checksum payload).toNat ≠ crc then .error "wal_crc_mismatch"
      else
        match prost.decodeRecord payload with
        | some wal => .ok wal
        | none => .error "decode"

/-- What `load_pending` does with a file. -/
inductive Loaded
  | skipped
  | removed
  | quarantined (reason : String)
  | pending (record : WalPendingRecord)

/-- One round of the loop in `load_pending`. -/
def loadEntry (name : String) (bytes : Bytes) : Loaded :=
  match keyOfName name with
  | none => .skipped
  | some idempotencyKey =>
    match readRecord prost bytes with
    | .error _ => .quarantined "record_corrupt"
    | .ok wal =>
      if wal.replayState = replayStateAcked then .removed
      else
        match prost.decodeResult wal.protobufPayload with
        | none => .quarantined "result_decode"
        | some result => .pending (wal.pending idempotencyKey result)

/-- The records that `load_pending` returns for the entries of the directory. -/
def loadPending (entries : List (String × Bytes)) : List WalPendingRecord :=
  entries.filterMap fun entry =>
    match loadEntry prost entry.1 entry.2 with
    | .pending record => some record
    | _ => none

end files

/-- A path that is in the directory itself. -/
def listed (path : String) : Bool := !path.toList.contains '/'

/-! ### The log in use -/

/-- What `encode_to_vec` answered for a request and a result; the order of a map in the bytes is
not fixed. -/
structure Encoded where
  request : Bytes
  result : Bytes

inductive WalCall
  | persistPending (episode : EpisodeRequest) (workerId : String) (serverEpoch : UInt64)
      (result : EpisodeResult) (now : Timestamp) (encoded : Encoded)
  | markAcked (d : Dispatch)

/-- The files of the log, and the records that are owed to the server. -/
structure WalState where
  files : Map String Bytes := ∅
  owed : List WalPendingRecord := []

/-- The dispatch of a request to a worker. -/
def dispatchOf (episode : EpisodeRequest) (workerId : String) : Dispatch :=
  ⟨episode.episodeId, episode.attemptId, workerId, episode.dispatchLeaseId⟩

/-- The record that `persist_pending` stores. -/
def walRecord (episode : EpisodeRequest) (workerId : String) (serverEpoch : UInt64)
    (result : EpisodeResult) (now : Timestamp) (encoded : Encoded) : WalRecord where
  episodeId := episode.episodeId
  attemptId := episode.attemptId
  workerId
  dispatchLeaseId := episode.dispatchLeaseId
  serverEpoch
  requestChecksum := sha256Hex encoded.request
  resultChecksum := sha256Hex encoded.result
  status := result.status
  protobufPayload := encoded.result
  createdAt := some now
  replayState := replayStatePending
  dispatchToken := episode.dispatchToken

namespace WalState

variable (s : WalState)

/-- No record of a dispatch is owed any longer. -/
def settle (d : Dispatch) : List WalPendingRecord := s.owed.filter (·.dispatch ≠ d)

/-- `persist_pending`, and the key that it returns. -/
def persistPending (episode : EpisodeRequest) (workerId : String) (serverEpoch : UInt64)
    (result : EpisodeResult) (now : Timestamp) (encoded : Encoded) : WalState × String :=
  let d := dispatchOf episode workerId
  let key := buildIdempotencyKey d
  let wal := walRecord episode workerId serverEpoch result now encoded
  ({ files := s.files.insert (pathOf key) (frame wal.encode)
     owed := s.settle d ++ [wal.pending key result] }, key)

/-- `mark_acked` (wal/mod.rs, 123-132). -/
def markAcked (d : Dispatch) : WalState :=
  { files := s.files.erase (pathOf (buildIdempotencyKey d)), owed := s.settle d }

end WalState

/-- Calls of the log from an empty directory. -/
def walLog : System WalState WalCall where
  init s := s = {}
  step s
    | .persistPending episode workerId serverEpoch result now encoded =>
      some (s.persistPending episode workerId serverEpoch result now encoded).1
    | .markAcked d => some (s.markAcked d)

/-- A replay returns exactly the records that are owed, one for each dispatch, and leaves every
file where it is. -/
structure Exact (prost : Prost) (s : WalState) : Prop where
  distinct : (s.owed.map WalPendingRecord.dispatch).Nodup
  loads : ∀ entries : List (String × Bytes),
    entries.Perm (s.files.toList.filter fun entry => listed entry.1) →
    (loadPending prost entries).Perm s.owed ∧
      ∀ entry ∈ entries, ∃ r, loadEntry prost entry.1 entry.2 = .pending r

/-- What `prost` promises: decoding gives back what was encoded. -/
def Decodes (prost : Prost) : WalCall → Prop
  | .persistPending episode workerId serverEpoch result now encoded =>
    let wal := walRecord episode workerId serverEpoch result now encoded
    prost.decodeRecord wal.encode = some wal ∧
      prost.decodeResult encoded.result = some result
  | .markAcked _ => True

/-- A key that the name of a file in the directory can carry. -/
def Carried (key : String) : Prop := plain ':' '_' key.toList = true ∧ '/' ∉ key.toList

/-- The call finds no other dispatch under the name of its file, and what it stores can be read
back: the name carries its key, and the length of its record is a `u32`. -/
def Apart (s : WalState) : WalCall → Prop
  | .persistPending episode workerId serverEpoch result now encoded =>
    let d := dispatchOf episode workerId
    Carried (buildIdempotencyKey d) ∧
      (walRecord episode workerId serverEpoch result now encoded).encode.length < 2 ^ 32 ∧
      ∀ r ∈ s.owed, r.dispatch ≠ d → buildIdempotencyKey r.dispatch ≠ buildIdempotencyKey d
  | .markAcked d => ∀ r ∈ s.owed, r.dispatch ≠ d →
      pathOf (buildIdempotencyKey r.dispatch) ≠ pathOf (buildIdempotencyKey d)

/-! ### Reading back -/

theorem splitDot_eq_none {chars : List Char} (none_ : '.' ∉ chars) : splitDot chars = none := by
  induction chars with
  | nil => rfl
  | cons c rest ih =>
    have other : c ≠ '.' := fun same => none_ (same ▸ List.mem_cons_self)
    rw [splitDot, ih fun member => none_ (List.mem_cons_of_mem _ member)]
    exact if_neg other

theorem splitDot_append (before : List Char) {after : List Char} (last : '.' ∉ after) :
    splitDot (before ++ '.' :: after) = some (before, after) := by
  induction before with
  | nil =>
    rw [List.nil_append, splitDot, splitDot_eq_none last]
    exact if_pos rfl
  | cons c rest ih => rw [List.cons_append, splitDot, ih]

theorem toList_pathOf (key : String) :
    (pathOf key).toList = escape ':' '_' key.toList ++ '.' :: ['w', 'a', 'l'] := by
  unfold pathOf
  rw [String.toList_append, String.toList_ofList]
  rfl

theorem colon_mem_key (d : Dispatch) : ':' ∈ (buildIdempotencyKey d).toList := by
  unfold buildIdempotencyKey
  simp

variable {key : String} {b : Bytes}

theorem keyOfName_pathOf (colon : ':' ∈ key.toList) : keyOfName (pathOf key) =
      some (String.ofList (unescape ':' '_' (escape ':' '_' key.toList))) := by
  have written : escape ':' '_' key.toList ≠ [] := by
    intro empty
    obtain ⟨before, after, split⟩ := List.append_of_mem colon
    rw [split] at empty
    simp [escape] at empty
  unfold keyOfName stemAndExtension
  rw [toList_pathOf, splitDot_append _ (by decide), Option.bind_some]
  dsimp only
  rw [if_neg (by simpa using written), Option.bind_some]
  dsimp only
  rw [if_pos rfl, String.toList_ofList]

theorem keyOfName_pathOf_iff (colon : ':' ∈ key.toList) :
    keyOfName (pathOf key) = some key ↔ plain ':' '_' key.toList = true := by
  rw [keyOfName_pathOf colon, ← unescape_escape_iff (by decide), Option.some.injEq,
    ← String.toList_inj, String.toList_ofList]

theorem listed_pathOf (flat : '/' ∉ key.toList) : listed (pathOf key) = true := by
  unfold listed
  rw [toList_pathOf, Bool.not_eq_true', ← Bool.not_eq_true, List.contains_iff_mem]
  intro member
  rcases List.mem_append.mp member with inside | outside
  · obtain ⟨c, here, made⟩ := List.mem_flatMap.mp inside
    split at made
    · revert made
      decide
    · exact flat (List.mem_singleton.mp made ▸ here)
  · revert outside
    decide

section readRecord

variable {prost : Prost} {payload : Bytes}

variable {wal : WalRecord}

/-- A frame whose length is a `u32` is read back. -/
theorem readRecord_frame (short : payload.length < 2 ^ 32)
    (decodes : prost.decodeRecord payload = some wal) :
    readRecord prost (frame payload) = .ok wal := by
  have crc := ofLittleEndian_littleEndian 4 (Crc32.checksum payload).toNat
  have len := ofLittleEndian_littleEndian 4 (UInt32.ofNat payload.length).toNat
  have crcWidth := length_littleEndian 4 (Crc32.checksum payload).toNat
  have lenWidth := length_littleEndian 4 (UInt32.ofNat payload.length).toNat
  have fits : (Crc32.checksum payload).toNat < 256 ^ 4 := (Crc32.checksum payload).toNat_lt
  rw [Nat.mod_eq_of_lt fits] at crc
  have width : payload.length < 256 ^ 4 := Nat.lt_of_lt_of_eq short (by decide)
  rw [UInt32.toNat_ofNat', Nat.mod_eq_of_lt short, Nat.mod_eq_of_lt width] at len
  unfold readRecord frame
  generalize littleEndian 4 (Crc32.checksum payload).toNat = front at crc crcWidth
  rw [UInt32.toNat_ofNat', Nat.mod_eq_of_lt short] at lenWidth ⊢
  generalize littleEndian 4 payload.length = size at len lenWidth
  have total : (front ++ size ++ payload).length = 8 + payload.length := by
    rw [List.length_append, List.length_append]
    omega
  have first : (front ++ size ++ payload).take 4 = front := by
    rw [List.append_assoc, ← crcWidth, List.take_left]
  have second : ((front ++ size ++ payload).drop 4).take 4 = size := by
    rw [List.append_assoc, ← crcWidth, List.drop_left, crcWidth, ← lenWidth, List.take_left]
  have third : (front ++ size ++ payload).drop 8 = payload := by
    have eight : (front ++ size).length = 8 := by
      rw [List.length_append]
      omega
    rw [← eight, List.drop_left]
  rw [if_neg (by omega)]
  dsimp only
  rw [first, second, third, crc, len, if_neg (fun wrong => wrong total),
    if_neg (fun wrong => wrong rfl), decodes]

theorem loadEntry_frame {key : String} (colon : ':' ∈ key.toList) (carried : Carried key)
    (short : payload.length < 2 ^ 32) {result : EpisodeResult}
    (decodes : prost.decodeRecord payload = some wal) (state : wal.replayState = replayStatePending)
    (decoded : prost.decodeResult wal.protobufPayload = some result) :
    loadEntry prost (pathOf key) (frame payload) = .pending (wal.pending key result) := by
  unfold loadEntry
  rw [(keyOfName_pathOf_iff colon).mpr carried.1]
  dsimp only
  rw [readRecord_frame short decodes]
  dsimp only
  rw [state, if_neg (by decide), decoded]

theorem key_of_loadEntry {name : String} {bytes : Bytes} {r : WalPendingRecord}
    (loaded : loadEntry prost name bytes = .pending r) :
    keyOfName name = some r.idempotencyKey := by
  unfold loadEntry at loaded
  split at loaded
  · cases loaded
  · next key named =>
    split at loaded
    · cases loaded
    · split at loaded
      · cases loaded
      · split at loaded
        · cases loaded
        · obtain rfl := Loaded.pending.inj loaded
          exact named

end readRecord

/-! ### The invariant -/

/-- The files are those of the owed records. -/
structure Kept (prost : Prost) (s : WalState) : Prop where
  distinct : (s.owed.map WalPendingRecord.dispatch).Nodup
  keyed : ∀ r ∈ s.owed, r.idempotencyKey = buildIdempotencyKey r.dispatch
  stored : ∀ r ∈ s.owed, listed (pathOf r.idempotencyKey) = true ∧
    ∃ bytes, s.files[pathOf r.idempotencyKey]? = some bytes ∧
      loadEntry prost (pathOf r.idempotencyKey) bytes = .pending r
  owned : ∀ name bytes, s.files[name]? = some bytes → ∃ r ∈ s.owed, name = pathOf r.idempotencyKey

namespace Kept

variable {prost : Prost} {s : WalState}

theorem mem_settle {d : Dispatch} {r : WalPendingRecord} :
    r ∈ s.settle d ↔ r ∈ s.owed ∧ r.dispatch ≠ d := by
  unfold WalState.settle
  rw [List.mem_filter, decide_eq_true_iff]

theorem distinct_settle (kept : Kept prost s) (d : Dispatch) :
    ((s.settle d).map WalPendingRecord.dispatch).Nodup :=
  kept.distinct.sublist (List.filter_sublist.map _)

theorem markAcked (kept : Kept prost s) {d : Dispatch} (apart : Apart s (.markAcked d)) :
    Kept prost (s.markAcked d) := by
  have away : ∀ r ∈ s.settle d, pathOf (buildIdempotencyKey d) ≠ pathOf r.idempotencyKey := by
    intro r member
    obtain ⟨owed, other⟩ := mem_settle.mp member
    rw [kept.keyed r owed]
    exact Ne.symm (apart r owed other)
  refine ⟨kept.distinct_settle d, ?_, ?_, ?_⟩
  · exact fun r member => kept.keyed r (mem_settle.mp member).1
  · intro r member
    obtain ⟨listed, bytes, found, loaded⟩ := kept.stored r (mem_settle.mp member).1
    refine ⟨listed, bytes, ?_, loaded⟩
    show (s.files.erase _)[pathOf r.idempotencyKey]? = _
    rw [lookup_erase, if_neg (away r member), found]
  · intro name bytes found
    change (s.files.erase (pathOf (buildIdempotencyKey d)))[name]? = _ at found
    rw [lookup_erase] at found
    split at found
    · cases found
    · next other =>
      obtain ⟨r, owed, named⟩ := kept.owned name bytes found
      refine ⟨r, mem_settle.mpr ⟨owed, fun same => ?_⟩, named⟩
      rw [kept.keyed r owed, same] at named
      exact other named.symm

theorem persistPending (kept : Kept prost s) {episode : EpisodeRequest} {workerId : String}
    {serverEpoch : UInt64} {result : EpisodeResult} {now : Timestamp} {encoded : Encoded}
    (decodes : Decodes prost (.persistPending episode workerId serverEpoch result now encoded))
    (apart : Apart s (.persistPending episode workerId serverEpoch result now encoded)) :
    Kept prost (s.persistPending episode workerId serverEpoch result now encoded).1 := by
  obtain ⟨carried, short, others⟩ := apart
  obtain ⟨recorded, decoded⟩ := decodes
  unfold WalState.persistPending
  dsimp only
  generalize named : dispatchOf episode workerId = d at carried others
  let wal := walRecord episode workerId serverEpoch result now encoded
  let fresh := wal.pending (buildIdempotencyKey d) result
  have freshDispatch : fresh.dispatch = d := named
  have loaded : loadEntry prost (pathOf (buildIdempotencyKey d)) (frame wal.encode) =
      .pending fresh :=
    loadEntry_frame (colon_mem_key d) carried short recorded rfl decoded
  have away : ∀ r ∈ s.settle d, pathOf (buildIdempotencyKey d) ≠ pathOf r.idempotencyKey := by
    intro r member same
    obtain ⟨owed, other⟩ := mem_settle.mp member
    obtain ⟨_, bytes, _, old⟩ := kept.stored r owed
    have key := key_of_loadEntry old
    rw [← same, (keyOfName_pathOf_iff (colon_mem_key d)).mpr carried.1, kept.keyed r owed] at key
    exact others r owed other (Option.some.inj key).symm
  refine ⟨?_, ?_, ?_, ?_⟩
  · show ((s.settle d ++ [fresh]).map WalPendingRecord.dispatch).Nodup
    rw [List.map_append, List.nodup_append]
    refine ⟨kept.distinct_settle d, List.nodup_singleton _, ?_⟩
    rintro a old b new rfl
    obtain ⟨r, member, same⟩ := List.mem_map.mp old
    rw [List.map_singleton, List.mem_singleton, freshDispatch] at new
    exact (mem_settle.mp member).2 (same.trans new)
  · intro r member
    rcases List.mem_append.mp member with old | new
    · exact kept.keyed r (mem_settle.mp old).1
    · rw [List.mem_singleton.mp new]
      show buildIdempotencyKey d = buildIdempotencyKey fresh.dispatch
      rw [freshDispatch]
  · intro r member
    rcases List.mem_append.mp member with old | new
    · obtain ⟨listed, bytes, found, loads⟩ := kept.stored r (mem_settle.mp old).1
      refine ⟨listed, bytes, ?_, loads⟩
      rw [lookup_insert, if_neg (away r old), found]
    · rw [List.mem_singleton.mp new]
      exact ⟨listed_pathOf carried.2, _, by rw [lookup_insert]; exact if_pos rfl, loaded⟩
  · intro name bytes found
    rw [lookup_insert] at found
    split at found
    · next here => exact ⟨fresh, List.mem_append_right _ (List.mem_singleton_self _), here.symm⟩
    · next other =>
      obtain ⟨r, owed, path⟩ := kept.owned name bytes found
      refine ⟨r, List.mem_append_left _ (mem_settle.mpr ⟨owed, fun same => ?_⟩), path⟩
      rw [kept.keyed r owed, same] at path
      exact other path.symm

theorem exact (kept : Kept prost s) : Exact prost s := by
  refine ⟨kept.distinct, fun entries listing => ?_⟩
  have entry : ∀ name bytes, (name, bytes) ∈ entries ↔
      s.files[name]? = some bytes ∧ listed name = true := by
    intro name bytes
    rw [listing.mem_iff, List.mem_filter, Std.ExtTreeMap.mem_toList_iff_getElem?_eq_some]
  -- the file of an entry is the one of an owed record
  have found : ∀ e ∈ entries, ∃ r ∈ s.owed, e.1 = pathOf r.idempotencyKey ∧
      loadEntry prost e.1 e.2 = .pending r := by
    rintro ⟨name, bytes⟩ member
    obtain ⟨here, _⟩ := (entry name bytes).mp member
    obtain ⟨r, owed, path⟩ := kept.owned name bytes here
    obtain ⟨_, bytes', here', loaded⟩ := kept.stored r owed
    rw [← path, here] at here'
    cases here'
    exact ⟨r, owed, path, by rw [path]; exact loaded⟩
  have names : ∀ l : List (String × Bytes), (∀ e ∈ l, ∃ r ∈ s.owed, e.1 = pathOf r.idempotencyKey ∧
      loadEntry prost e.1 e.2 = .pending r) →
      (loadPending prost l).map (fun r => pathOf r.idempotencyKey) = l.map Prod.fst := by
    intro l
    induction l with
    | nil => exact fun _ => rfl
    | cons e rest ih =>
      intro all
      obtain ⟨r, _, path, loaded⟩ := all e List.mem_cons_self
      unfold loadPending
      rw [List.filterMap_cons_some (by rw [loaded]), List.map_cons, List.map_cons, path]
      congr 1
      exact ih fun e' member => all e' (List.mem_cons_of_mem _ member)
  have once : (loadPending prost entries).Nodup := by
    apply List.Nodup.of_map (fun r => pathOf r.idempotencyKey)
    rw [names entries found, (listing.map Prod.fst).nodup_iff]
    apply List.Nodup.sublist (List.filter_sublist.map Prod.fst)
    rw [Std.ExtTreeMap.map_fst_toList_eq_keys]
    exact Std.ExtTreeMap.nodup_keys
  refine ⟨?_, fun e member => ?_⟩
  · apply (List.perm_ext_iff_of_nodup once (List.Nodup.of_map _ kept.distinct)).mpr
    intro r
    unfold loadPending
    rw [List.mem_filterMap]
    constructor
    · rintro ⟨e, member, made⟩
      obtain ⟨r', owed, _, loaded⟩ := found e member
      rw [loaded] at made
      exact Option.some.inj made ▸ owed
    · intro owed
      obtain ⟨flat, bytes, here, loaded⟩ := kept.stored r owed
      refine ⟨(pathOf r.idempotencyKey, bytes), (entry _ _).mpr ⟨here, flat⟩, ?_⟩
      rw [loaded]
  · obtain ⟨r, _, _, loaded⟩ := found e member
    exact ⟨r, loaded⟩

end Kept

/-- Where the calls keep the files apart and the names carry the keys, a replay is exact. -/
theorem replay_exact {prost : Prost} {s : WalState}
    (reached : ReachableWhen walLog (fun s call => Decodes prost call ∧ Apart s call) s) :
    Exact prost s := by
  have kept : Kept prost s := by
    apply ReachableWhen.invariant (motive := Kept prost) ?_ ?_ reached
    · rintro s rfl
      refine ⟨List.nodup_nil, fun r member => ?_, fun r member => ?_, fun name bytes found => ?_⟩
      · cases member
      · cases member
      · rw [Std.ExtTreeMap.getElem?_empty] at found
        cases found
    · rintro s call t _ kept ⟨decodes, apart⟩ taken
      cases call with
      | persistPending =>
        cases taken
        exact kept.persistPending decodes apart
      | markAcked d =>
        cases taken
        exact kept.markAcked apart
  exact kept.exact

/-! ### Calls on two dispatches -/

/-- The result of an episode that is completed. -/
def sampleResult (episodeId : String) : EpisodeResult :=
  { episodeId, attemptId := 1, status := "completed" }

def sampleRequest (episodeId : String) : EpisodeRequest :=
  { episodeId, attemptId := 1, dispatchLeaseId := "lease-1" }

def sampleEncoded (episodeId : String) : Encoded :=
  ⟨(sampleRequest episodeId).encode, (sampleResult episodeId).encode⟩

def samplePersist (episodeId : String) : WalCall :=
  .persistPending (sampleRequest episodeId) "worker-1" 1 (sampleResult episodeId) ⟨0, 0⟩
    (sampleEncoded episodeId)

def sampleRecord (episodeId : String) : WalRecord :=
  walRecord (sampleRequest episodeId) "worker-1" 1 (sampleResult episodeId) ⟨0, 0⟩
    (sampleEncoded episodeId)

/-- Decoding of the records of two episodes. -/
def sampleProst (first second : String) : Prost where
  decodeRecord bytes := List.lookup bytes
    [((sampleRecord first).encode, sampleRecord first),
      ((sampleRecord second).encode, sampleRecord second)]
  decodeResult bytes := List.lookup bytes
    [((sampleResult first).encode, sampleResult first),
      ((sampleResult second).encode, sampleResult second)]

/-- Two episodes are reported, and the first one is acknowledged. -/
def sampleCalls : List WalCall :=
  [samplePersist "ep-1", samplePersist "ep-2",
    .markAcked (dispatchOf (sampleRequest "ep-1") "worker-1")]

theorem lookup_first {α : Type} {a : α} {rest : List (Bytes × α)} :
    List.lookup b ((b, a) :: rest) = some a := List.lookup_cons_self

theorem lookup_second {α : Type} {b' : Bytes} {a a' : α} {rest : List (Bytes × α)}
    (apart : b'.take 6 ≠ b.take 6) : List.lookup b' ((b, a) :: (b', a') :: rest) = some a' := by
  have other : (b' == b) = false := beq_false_of_ne fun same => apart (congrArg _ same)
  rw [List.lookup_cons, other]
  exact List.lookup_cons_self

theorem sampleProst_first (first second : String) :
    Decodes (sampleProst first second) (samplePersist first) := by
  refine ⟨?_, ?_⟩
  · show (sampleProst first second).decodeRecord (sampleRecord first).encode =
      some (sampleRecord first)
    unfold sampleProst
    generalize (sampleRecord first).encode = b
    exact lookup_first
  · show (sampleProst first second).decodeResult (sampleResult first).encode = _
    unfold sampleProst
    generalize (sampleResult first).encode = b
    exact lookup_first

theorem sampleProst_second {first second : String}
    (records : (sampleRecord second).encode.take 6 ≠ (sampleRecord first).encode.take 6)
    (results : (sampleResult second).encode.take 6 ≠ (sampleResult first).encode.take 6) :
    Decodes (sampleProst first second) (samplePersist second) := by
  refine ⟨?_, ?_⟩
  · show (sampleProst first second).decodeRecord (sampleRecord second).encode =
      some (sampleRecord second)
    unfold sampleProst
    generalize (sampleRecord second).encode = b at records
    exact lookup_second records
  · show (sampleProst first second).decodeResult (sampleResult second).encode = _
    unfold sampleProst
    generalize (sampleResult second).encode = b at results
    exact lookup_second results

theorem replay_exact_sampleCalls :
    ∃ s, walLog.exec {} sampleCalls = some s ∧ Exact (sampleProst "ep-1" "ep-2") s := by
  refine ⟨_, rfl, replay_exact (ReachableWhen.of_exec (.start rfl) sampleCalls ⟨⟨?_, ?_⟩, ?_⟩ rfl)⟩
  · exact sampleProst_first _ _
  · refine ⟨⟨by decide +kernel, by decide +kernel⟩, by decide +kernel, fun r member => ?_⟩
    cases member
  · rintro _ ⟨⟩
    refine ⟨⟨sampleProst_second (by decide +kernel) (by decide +kernel),
      ⟨by decide +kernel, by decide +kernel⟩, by decide +kernel, fun r member _ => ?_⟩, ?_⟩
    · rw [List.mem_singleton.mp member]
      decide +kernel
    · rintro _ ⟨⟩
      refine ⟨⟨trivial, fun r member other => ?_⟩, fun _ _ => trivial⟩
      rcases List.mem_append.mp member with old | new
      · rw [List.mem_singleton.mp (Kept.mem_settle.mp old).1] at other
        exact absurd rfl other
      · rw [List.mem_singleton.mp new]
        decide +kernel

/-- An instance id with two underscores is replayed under another key. -/
theorem replay_changes_key :
    ¬ ∀ (prost : Prost) (s : WalState), ReachableWhen walLog (fun _ call => Decodes prost call) s →
      Exact prost s := by
  intro all
  let prost := sampleProst "django__django-1" "django__django-1"
  have exact := all prost _
    (.next (.start rfl) (sampleProst_first "django__django-1" "django__django-1") rfl)
  obtain ⟨loads, _⟩ := exact.loads _ (List.Perm.refl _)
  obtain ⟨e, member, made⟩ := List.mem_filterMap.mp
    (loads.mem_iff.mpr (List.mem_append_right _ (List.mem_singleton_self _)))
  split at made
  · next r loaded =>
    cases made
    have key := key_of_loadEntry loaded
    have found := Std.ExtTreeMap.mem_toList_iff_getElem?_eq_some.mp (List.mem_filter.mp member).1
    have path : e.1 = pathOf (buildIdempotencyKey
        (dispatchOf (sampleRequest "django__django-1") "worker-1")) := by
      rcases lookup_insert_cases found with ⟨named, _⟩ | old
      · exact named
      · rw [Std.ExtTreeMap.getElem?_empty] at old
        cases old
    rw [path] at key
    exact absurd ((keyOfName_pathOf_iff (colon_mem_key _)).mp key) (by decide +kernel)
  · cases made

end UEnv.Worker
