import UEnv.Persistence.Commands
import UEnv.Service.ResultFinalizer
import Std.Data.String.ToNat

/-!
# Reporting a result

`ControlPlaneServiceImpl::report_result` of `control_plane.rs`, with the tables of `state.rs` that
it reads and writes. A call is cut at every await and between reading the pending entry and
`remove_if`, so that its segments interleave with those of other calls and with the tasks that
register and withdraw pending entries. A store command is sent by one segment, executed by the
writer thread, and answered to the next segment. Logging, the trajectory store and the time of a
worker's last report are left out.
-/

namespace UEnv.ControlPlane

open Proto Wire Persistence Tables Scheduler Service Runs

structure PendingKey where
  episodeId : String
  attemptId : UInt32
  dispatchLeaseId : String
  deriving DecidableEq

namespace PendingKey

/-- The order of the fields; only that it is a linear order matters. -/
def order : PendingKey → PendingKey → Ordering :=
  compareLex (compareOn episodeId) (compareLex (compareOn attemptId) (compareOn dispatchLeaseId))

instance : Ord PendingKey := ⟨order⟩

instance : Std.TransOrd PendingKey :=
  inferInstanceAs (Std.TransCmp
    (compareLex (compareOn episodeId)
      (compareLex (compareOn attemptId) (compareOn dispatchLeaseId))))

instance : Std.LawfulEqOrd PendingKey where
  eq_of_compare := by
    rintro ⟨episodeId, attemptId, leaseId⟩ ⟨episodeId', attemptId', leaseId'⟩ same
    change (compare episodeId episodeId').then
      ((compare attemptId attemptId').then (compare leaseId leaseId')) = .eq at same
    rw [Ordering.then_eq_eq, Ordering.then_eq_eq, Std.compare_eq_iff_eq, Std.compare_eq_iff_eq,
      Std.compare_eq_iff_eq] at same
    obtain ⟨rfl, rfl, rfl⟩ := same
    rfl
  compare_self := by
    intro key
    exact Std.ReflOrd.compare_self

end PendingKey

/-- `PendingResult`: `request` is the one of its context and `tx` the number of its channel. -/
structure PendingResult where
  request : EpisodeRequest
  tx : Nat
  workerId : String
  dispatchToken : List UInt8
  enqueueAt : Instant
  dispatchAt : Instant
  dispatchTs : F64

/-- The timing that `report_result` hands to the finalizer. -/
def PendingResult.timing (entry : PendingResult) : ResultTiming :=
  { enqueueAt := entry.enqueueAt, dispatchAt := some entry.dispatchAt
    dispatchTs := some entry.dispatchTs }

/-- `state::IdempotencyRecord`. -/
structure CachedReport where
  expiresAt : Instant
  episodeId : String
  attemptId : UInt32
  dispatchLeaseId : String
  ack : Bool
  code : String
  message : String

structure TimedOutcome where
  expiresAt : Instant
  code : String
  message : String

/-- A oneshot channel as its receiver sees it. -/
inductive Channel
  | pending
  | sent (result : EpisodeResult)
  | closed
  deriving DecidableEq

/-- `tx.send(result)`. -/
def Channel.send (result : EpisodeResult) : Channel → Channel
  | .pending => .sent result
  | channel => channel

/-- The sender is dropped. -/
def Channel.close : Channel → Channel
  | .pending => .closed
  | channel => channel

structure ReportResultRequest where
  idempotencyKey : String := ""
  workerId : String := ""
  serverEpoch : UInt64 := 0
  result : Option EpisodeResult := none
  dispatchLeaseId : String := ""
  dispatchToken : List UInt8 := []

structure ReportResultResponse where
  ack : Bool
  duplicate : Bool
  code : String
  message : String
  deriving DecidableEq

/-- The pending key of a result that is reported. -/
def ReportResultRequest.pendingKey (req : ReportResultRequest) (result : EpisodeResult) :
    PendingKey :=
  { episodeId := result.episodeId, attemptId := result.attemptId
    dispatchLeaseId := req.dispatchLeaseId }

/-- Where a call of `report_result` stands. The answer of an awaited store command is `none` until
the writer thread has executed it. -/
inductive ReportStage
  | arrived
  | findingDispatch (reply : Option (Except String (Option DispatchRow)))
  | checking (result : EpisodeResult) (record : IdempotencyRecord)
      (reply : Option (Except String IdempotencyDecision))
  | reading (result : EpisodeResult) (record : IdempotencyRecord)
  | removing (result : EpisodeResult) (record : IdempotencyRecord) (expiresAt : Instant)
  | findingOutcome (result : EpisodeResult) (expiresAt : Instant)
      (reply : Option (Except String (Option TerminalOutcome)))
  | committing (final : EpisodeResult) (record : IdempotencyRecord) (expiresAt : Instant)
      (key : PendingKey) (entry : PendingResult) (reply : Option (Except String Unit))
  | answered (key : Option PendingKey) (response : ReportResultResponse)
  | unavailable
  | dropped

structure ReportCall where
  req : ReportResultRequest
  stage : ReportStage

/-- What `report_result` reads and writes of the `ServerState`. -/
structure Reports where
  serverEpoch : UInt64
  -- `report_result_idempotency_ttl_secs` and `persistence_idempotency_ttl_secs`
  resultTtlSecs : UInt64
  storeTtlSecs : UInt64
  store : Option Db
  -- `PersistenceStore::healthy` and `persistence_ready`
  healthy : Bool := true
  ready : Bool := true
  nextLeaseSeq : Nat := 1
  pendingResults : Map PendingKey PendingResult := ∅
  idempotencyCache : Table CachedReport := ∅
  resultOutcomes : Map PendingKey TimedOutcome := ∅
  cancelOutcomes : Table TimedOutcome := ∅
  -- the oneshot channels by their numbers
  channels : List Channel := []

namespace Reports

variable (s : Reports)

/-- `next_lease_id` for the sequence number `seq`. -/
def leaseId (seq : Nat) : String := "lease-" ++ s.serverEpoch.toNat.repr ++ "-" ++ seq.repr

/-- `outcome_ttl` (state.rs, 322-324). -/
def outcomeTtl : Nat := (max s.resultTtlSecs 1).toNat * 1000000000

/-- `remember_result_outcome` (state.rs, 339-348). -/
def rememberResultOutcome (now : Instant) (key : PendingKey) (code message : String) : Reports :=
  { s with resultOutcomes :=
      s.resultOutcomes.insert key { expiresAt := now + s.outcomeTtl, code, message } }

/-- `remember_cancel_outcome` (state.rs, 327-336). -/
def rememberCancelOutcome (now : Instant) (episodeId code message : String) : Reports :=
  { s with cancelOutcomes :=
      s.cancelOutcomes.insert episodeId { expiresAt := now + s.outcomeTtl, code, message } }

/-- `sweep_ttl_caches`, on the caches that `report_result` reads. -/
def sweepTtlCaches (now : Instant) : Reports :=
  { s with
    idempotencyCache := s.idempotencyCache.filter fun _ record => decide (now < record.expiresAt)
    resultOutcomes := s.resultOutcomes.filter fun _ outcome => decide (now < outcome.expiresAt)
    cancelOutcomes := s.cancelOutcomes.filter fun _ outcome => decide (now < outcome.expiresAt) }

/-- The value of an `i64` that saturates. -/
def saturateI64 (x : Int) : Int := max (-9223372036854775808) (min x 9223372036854775807)

def persistedIdempotency (sha256Hex : Bytes → String) (nowMs : Millis) (req : ReportResultRequest)
    (result : EpisodeResult) : IdempotencyRecord :=
  { idempotencyKey := req.idempotencyKey, episodeId := result.episodeId
    attemptId := result.attemptId, dispatchLeaseId := req.dispatchLeaseId
    workerId := req.workerId, serverEpoch := req.serverEpoch
    resultChecksum := resultChecksum sha256Hex result, ack := true, code := "ACCEPTED"
    message := "accepted"
    expiresAtMs :=
      saturateI64 (nowMs + saturateI64 (s.storeTtlSecs.toInt64.toInt * 1000)) }

/-- The closure `remember`. -/
def remember (req : ReportResultRequest) (result : EpisodeResult) (expiresAt : Instant) (ack : Bool)
    (code message : String) : Reports :=
  { s with
    idempotencyCache := s.idempotencyCache.insert req.idempotencyKey
      { expiresAt, episodeId := result.episodeId, attemptId := result.attemptId
        dispatchLeaseId := req.dispatchLeaseId, ack, code, message } }

/-- Send a command: a store that is not healthy refuses it at once. -/
def send {α : Type} : Option (Except String α) :=
  if s.healthy then none else some (.error "persistence writer is unhealthy")

/-- `report_result` from the idempotency key to the store's check of it, or to the pending entry. -/
def validate (sha256Hex : Bytes → String) (nowMs : Millis) (req : ReportResultRequest)
    (recovered : Option DispatchRow) : ReportStage :=
  let invalid (message : String) : ReportStage :=
    .answered none { ack := false, duplicate := false, code := "INVALID_REQUEST", message }
  if req.idempotencyKey.isEmpty then invalid "empty idempotency_key"
  else match if s.store.isNone then s.idempotencyCache[req.idempotencyKey]? else none with
    | some record =>
      .answered none
        { ack := record.ack, duplicate := true
          code := if record.ack then "DUPLICATE_ACCEPTED" else "DUPLICATE_REJECTED"
          message := record.message }
    | none =>
      match req.result with
      | none => invalid "missing result"
      | some result =>
        if req.dispatchLeaseId.isEmpty || req.dispatchToken.isEmpty then
          invalid "missing dispatch lease or token"
        else if recovered.any fun row => row.record.episodeId != result.episodeId ||
            row.record.attemptId != result.attemptId then
          .answered none
            { ack := false, duplicate := false, code := "DISPATCH_MISMATCH"
              message := "recovered dispatch does not match result identity" }
        else
          let record := s.persistedIdempotency sha256Hex nowMs req result
          if s.store.isSome then .checking result record s.send else .reading result record

/-- The answer to a report of another server's lifetime. -/
def staleEpoch : ReportStage :=
  .answered none
    { ack := false, duplicate := false, code := "STALE_EPOCH", message := "server epoch mismatch" }

/-- The first segment of a call. -/
def begin (sha256Hex : Bytes → String) (now : Instant) (nowMs : Millis)
    (req : ReportResultRequest) : Reports × ReportStage :=
  let s := s.sweepTtlCaches now
  if req.serverEpoch ≠ 0 ∧ req.serverEpoch ≠ s.serverEpoch then
    if s.store.isSome then (s, .findingDispatch s.send) else (s, staleEpoch)
  else (s, s.validate sha256Hex nowMs req none)

/-- `pending_results.get`: an entry of another worker or with another token is left alone. -/
def readPending (now : Instant) (req : ReportResultRequest) (result : EpisodeResult)
    (record : IdempotencyRecord) : Reports × ReportStage :=
  let key := req.pendingKey result
  let expiresAt := now + s.outcomeTtl
  let reject (code message : String) : Reports × ReportStage :=
    (s.remember req result expiresAt false code message,
      .answered key { ack := false, duplicate := false, code, message })
  match s.pendingResults[key]? with
  | none => (s, .removing result record expiresAt)
  | some entry =>
    if entry.workerId ≠ req.workerId then
      reject "WORKER_MISMATCH" "worker_id does not own this dispatch lease"
    else if entry.dispatchToken ≠ req.dispatchToken then
      reject "TOKEN_MISMATCH" "dispatch token mismatch"
    else (s, .removing result record expiresAt)

/-- The answer to a report whose pending entry is gone. -/
def reject (req : ReportResultRequest) (result : EpisodeResult) (expiresAt : Instant)
    (code message : String) : Reports × ReportStage :=
  (s.remember req result expiresAt false code message,
    .answered (req.pendingKey result) { ack := false, duplicate := true, code, message })

/-- What memory says about a pending entry that is gone. -/
def absentOutcome (key : PendingKey) : String × String :=
  match s.resultOutcomes[key]? with
  | some outcome =>
    if outcome.code = "ACCEPTED" then
      ("ALREADY_COMPLETED", "result already accepted for this lease")
    else (outcome.code, outcome.message)
  | none =>
    if s.cancelOutcomes.contains key.episodeId then ("LATE_AFTER_CANCEL", "episode was cancelled")
    else ("UNKNOWN_PENDING", "pending result not found")

/-- The result is accepted: the outcome is remembered and the waiting call gets it. -/
def accept (now : Instant) (req : ReportResultRequest) (final : EpisodeResult)
    (expiresAt : Instant) (key : PendingKey) (entry : PendingResult) : Reports × ReportStage :=
  let s := s.rememberResultOutcome now key "ACCEPTED" ""
  ({ s with
      idempotencyCache := s.idempotencyCache.insert req.idempotencyKey
        { expiresAt, episodeId := key.episodeId, attemptId := key.attemptId
          dispatchLeaseId := key.dispatchLeaseId, ack := true, code := "ACCEPTED"
          message := "accepted" }
      channels := s.channels.modify entry.tx (Channel.send final) },
    .answered key { ack := true, duplicate := false, code := "ACCEPTED", message := "accepted" })

/-- `pending_results.remove_if`: with the entry the call holds the result to be finalized. -/
def removePending (clock : Clock) (req : ReportResultRequest) (result : EpisodeResult)
    (record : IdempotencyRecord) (expiresAt : Instant) : Reports × ReportStage :=
  let key := req.pendingKey result
  match (s.pendingResults[key]?).filter fun entry =>
      entry.workerId == req.workerId && entry.dispatchToken == req.dispatchToken with
  | none =>
    if s.store.isSome then (s, .findingOutcome result expiresAt s.send)
    else
      let (code, message) := s.absentOutcome key
      s.reject req result expiresAt code message
  | some entry =>
    let final := completeEpisodeResult clock entry.request result (some entry.timing)
    let s := { s with pendingResults := s.pendingResults.erase key }
    if s.store.isSome then (s, .committing final record expiresAt key entry s.send)
    else s.accept clock.instant req final expiresAt key entry

/-- A segment that resumes with the answer of the store, or that awaits nothing. -/
def advance (sha256Hex : Bytes → String) (clock : Clock) (nowMs : Millis)
    (req : ReportResultRequest) : ReportStage → Option (Reports × ReportStage)
  | .arrived => some (s.begin sha256Hex clock.instant nowMs req)
  | .findingDispatch (some (.ok row)) =>
    let recovered := row.filter fun row =>
      row.record.workerId == req.workerId && row.record.dispatchToken == req.dispatchToken &&
        row.record.serverEpoch == req.serverEpoch
    some (s, if recovered.isSome then s.validate sha256Hex nowMs req recovered else staleEpoch)
  | .checking result record (some (.ok decision)) =>
    match decision with
    | .replay existing =>
      some (s, .answered none
        { ack := existing.ack, duplicate := true, code := "DUPLICATE_ACCEPTED"
          message := existing.message })
    | .conflict _ =>
      some (s, .answered none
        { ack := false, duplicate := true, code := "IDEMPOTENCY_CONFLICT"
          message := "idempotency key reused with different report" })
    | .missing => some (s, .reading result record)
  | .reading result record => some (s.readPending clock.instant req result record)
  | .removing result record expiresAt => some (s.removePending clock req result record expiresAt)
  | .findingOutcome result expiresAt (some (.ok outcome)) =>
    match outcome with
    | some outcome =>
      let code := if outcome.code = "ACCEPTED" then "ALREADY_COMPLETED" else outcome.code
      some (s.reject req result expiresAt code outcome.message)
    | none =>
      let (code, message) := s.absentOutcome (req.pendingKey result)
      some (s.reject req result expiresAt code message)
  | .committing final _ expiresAt key entry (some (.ok ())) =>
    some (s.accept clock.instant req final expiresAt key entry)
  | .committing _ _ _ key entry (some (.error _)) =>
    some ({ s with pendingResults := s.pendingResults.insert key entry, ready := false },
      .answered key
        { ack := false, duplicate := false, code := "PERSISTENCE_FAILED"
          message := "result was not committed; retry with the same idempotency key" })
  | .findingDispatch (some (.error _)) | .checking _ _ (some (.error _))
  | .findingOutcome _ _ (some (.error _)) => some ({ s with ready := false }, .unavailable)
  | .findingDispatch none | .checking _ _ none | .findingOutcome _ _ none
  | .committing _ _ _ _ _ none | .answered .. | .unavailable | .dropped => none

/-- The writer thread executes the command that a call awaits, or SQLite fails. -/
def execute (sha256Hex : Bytes → String) (nowMs : Millis) (fault : Option String) (db : Db)
    (req : ReportResultRequest) : ReportStage → Option (Reports × ReportStage)
  | .findingDispatch none =>
    match fault with
    | some error => some ({ s with healthy := false }, .findingDispatch (some (.error error)))
    | none => some (s, .findingDispatch (some (.ok (db.getDispatch req.dispatchLeaseId))))
  | .checking result record none =>
    match fault with
    | some error =>
      some ({ s with healthy := false }, .checking result record (some (.error error)))
    | none => some (s, .checking result record (some (.ok (db.checkIdempotency record))))
  | .findingOutcome result expiresAt none =>
    match fault with
    | some error =>
      some ({ s with healthy := false }, .findingOutcome result expiresAt (some (.error error)))
    | none =>
      let outcome :=
        db.getTerminalOutcome nowMs result.episodeId result.attemptId req.dispatchLeaseId
      some (s, .findingOutcome result expiresAt (some (.ok outcome)))
  | .committing final record expiresAt key entry none =>
    match fault.elim (db.commitReportResult sha256Hex nowMs final record "ACCEPTED" "accepted")
        Except.error with
    | .error error =>
      some ({ s with healthy := false },
        .committing final record expiresAt key entry (some (.error error)))
    | .ok db =>
      some ({ s with store := some db },
        .committing final record expiresAt key entry (some (.ok ())))
  | _ => none

/-- A call is dropped at an await: the client of the request has gone. -/
def dropCall : ReportStage → Option Reports
  | .findingDispatch _ | .checking .. | .findingOutcome .. => some s
  | .committing _ _ _ _ entry _ =>
    some { s with channels := s.channels.modify entry.tx Channel.close }
  | _ => none

/-! ### What the segments leave alone -/

/-- The server's epoch, its lease counter and its store are the same. -/
structure Stays (s s' : Reports) : Prop where
  epoch : s'.serverEpoch = s.serverEpoch
  leases : s'.nextLeaseSeq = s.nextLeaseSeq
  store : s'.store = s.store
  healthy : s'.healthy = s.healthy

section Stays

variable {sha256Hex : Bytes → String} {s s' : Reports} {req : ReportResultRequest}
  {stage stage' : ReportStage}

theorem begin_stays (now : Instant) (nowMs : Millis) :
    Stays s (s.begin sha256Hex now nowMs req).1 := by
  unfold begin
  simp only
  split
  · split <;> exact ⟨rfl, rfl, rfl, rfl⟩
  · exact ⟨rfl, rfl, rfl, rfl⟩

theorem readPending_stays (now : Instant) (result : EpisodeResult)
    (record : IdempotencyRecord) : Stays s (s.readPending now req result record).1 := by
  unfold readPending
  simp only
  split
  · exact ⟨rfl, rfl, rfl, rfl⟩
  · split
    · exact ⟨rfl, rfl, rfl, rfl⟩
    · split <;> exact ⟨rfl, rfl, rfl, rfl⟩

theorem removePending_stays (clock : Clock) (result : EpisodeResult)
    (record : IdempotencyRecord) (expiresAt : Instant) :
    Stays s (s.removePending clock req result record expiresAt).1 := by
  unfold removePending
  simp only
  split
  · split <;> exact ⟨rfl, rfl, rfl, rfl⟩
  · split <;> exact ⟨rfl, rfl, rfl, rfl⟩

theorem advance_stays {clock : Clock} {nowMs : Millis}
    (taken : s.advance sha256Hex clock nowMs req stage = some (s', stage')) : Stays s s' := by
  unfold advance at taken
  split at taken
  · obtain ⟨rfl, rfl⟩ := Prod.mk.inj (Option.some.inj taken)
    exact begin_stays _ _
  · cases taken
    exact ⟨rfl, rfl, rfl, rfl⟩
  · split at taken <;> cases taken <;> exact ⟨rfl, rfl, rfl, rfl⟩
  · obtain ⟨rfl, rfl⟩ := Prod.mk.inj (Option.some.inj taken)
    exact readPending_stays _ _ _
  · obtain ⟨rfl, rfl⟩ := Prod.mk.inj (Option.some.inj taken)
    exact removePending_stays _ _ _ _
  · split at taken <;> cases taken <;> exact ⟨rfl, rfl, rfl, rfl⟩
  all_goals cases taken
  all_goals exact ⟨rfl, rfl, rfl, rfl⟩

end Stays

end Reports

end UEnv.ControlPlane
