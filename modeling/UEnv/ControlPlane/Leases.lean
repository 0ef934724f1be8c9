import UEnv.ControlPlane.Reports
import UEnv.Lib.Sha256

/-!
# Only the owner of a lease completes it

The calls of `report_result` among the tasks that register and remove pending entries: a dispatch
registers one under a fresh lease, recovery registers those of the leases of earlier lifetimes, and
the owner of an episode, a cancellation or a new registration of the worker's endpoint removes
one. However the segments interleave, an entry is in the table, with one call that has taken it,
or accepted through one call.
-/

namespace UEnv.ControlPlane

open Proto Wire Persistence Tables Scheduler Service Runs

/-- What a call has of a pending entry. -/
inductive Claim
  | nothing
  | holds (key : PendingKey) (entry : PendingResult)
  | accepted (key : PendingKey)

/-- The key of the entry that a call has taken. -/
def Claim.key : Claim → Option PendingKey
  | .nothing => none
  | .holds key _ => some key
  | .accepted key => some key

def ReportStage.claim : ReportStage → Claim
  | .committing _ _ _ key entry _ => .holds key entry
  | .answered (some key) response => if response.code = "ACCEPTED" then .accepted key else .nothing
  | _ => .nothing

/-- The reports and the tasks around them. `recoveries` are the entries that recovery has yet to
register; `registered` and `withdrawn` are history: what was stored at each dispatch, and the keys
whose entry another task removed. -/
structure Plane where
  reports : Reports
  calls : Map Nat ReportCall := ∅
  recoveries : Map PendingKey PendingResult := ∅
  registered : Map PendingKey PendingResult := ∅
  withdrawn : List PendingKey := []

namespace Plane

inductive Label
  | arrive (t : Nat) (req : ReportResultRequest)
  | advance (t : Nat) (clock : Clock) (nowMs : Millis)
  | execute (t : Nat) (nowMs : Millis) (fault : Option String)
  | dropCall (t : Nat)
  | dispatch (request : EpisodeRequest) (workerId : String) (dispatchToken : List UInt8)
      (enqueueAt dispatchAt : Instant) (dispatchTs : F64)
  | recover (key : PendingKey)
  | withdraw (key : PendingKey) (result : Option EpisodeResult)
  | rememberOutcome (now : Instant) (key : PendingKey) (code message : String)
  | rememberCancel (now : Instant) (episodeId code message : String)
  | sweep (now : Instant)
  | command (nowMs : Millis) (command : Command)

variable (sha256Hex : Bytes → String) (w : Plane)

/-- Register a pending entry with a new channel. -/
def register (key : PendingKey) (entry : PendingResult) : Plane :=
  { w with
    reports := { w.reports with
      pendingResults := w.reports.pendingResults.insert key entry
      channels := w.reports.channels ++ [.pending] }
    registered := w.registered.insert key entry }

/-- The native path registers the entry of a new dispatch under a fresh lease. -/
def dispatch (request : EpisodeRequest) (workerId : String) (dispatchToken : List UInt8)
    (enqueueAt dispatchAt : Instant) (dispatchTs : F64) : Plane :=
  let leaseId := w.reports.leaseId w.reports.nextLeaseSeq
  let key : PendingKey :=
    { episodeId := request.episodeId, attemptId := request.attemptId, dispatchLeaseId := leaseId }
  let w := { w with reports := { w.reports with nextLeaseSeq := w.reports.nextLeaseSeq + 1 } }
  w.register key
    { request := { request with dispatchLeaseId := leaseId, dispatchToken }
      tx := w.reports.channels.length, workerId, dispatchToken, enqueueAt, dispatchAt, dispatchTs }

/-- `recover_native_wait` registers the entry of a dispatch of an earlier lifetime. -/
def recover (key : PendingKey) : Option Plane :=
  match w.recoveries[key]? with
  | none => none
  | some entry =>
    let w := { w with recoveries := w.recoveries.erase key }
    some (w.register key { entry with tx := w.reports.channels.length })

/-- Another task removes an entry, and perhaps sends a result of its own. -/
def withdraw (key : PendingKey) (result : Option EpisodeResult) : Plane :=
  let channels :=
    match w.reports.pendingResults[key]? with
    | none => w.reports.channels
    | some entry => w.reports.channels.modify entry.tx (result.elim Channel.close Channel.send)
  { w with
    reports := { w.reports with
      pendingResults := w.reports.pendingResults.erase key, channels }
    withdrawn := key :: w.withdrawn }

/-- A call of `report_result` goes on. -/
def ofCall (t : Nat)
    (segment : ReportResultRequest → ReportStage → Option (Reports × ReportStage)) :
    Option Plane :=
  match w.calls[t]? with
  | none => none
  | some call =>
    match segment call.req call.stage with
    | none => none
    | some (reports, stage) =>
      some { w with reports, calls := w.calls.insert t { call with stage } }

/-- A call of `report_result` is dropped; the entry that it holds is gone. -/
def dropCall (t : Nat) : Option Plane :=
  match w.calls[t]? with
  | none => none
  | some call =>
    match w.reports.dropCall call.stage with
    | none => none
    | some reports =>
      some { w with
        reports
        calls := w.calls.insert t { call with stage := .dropped }
        withdrawn := call.stage.claim.key.toList ++ w.withdrawn }

def step (w : Plane) : Label → Option Plane
  | .arrive t req =>
    if w.calls.contains t then none
    else some { w with calls := w.calls.insert t { req, stage := .arrived } }
  | .advance t clock nowMs => w.ofCall t (w.reports.advance sha256Hex clock nowMs)
  | .execute t nowMs fault =>
    match w.reports.store with
    | none => none
    | some db => w.ofCall t (w.reports.execute sha256Hex nowMs fault db)
  | .dropCall t => w.dropCall t
  | .dispatch request workerId dispatchToken enqueueAt dispatchAt dispatchTs =>
    some (w.dispatch request workerId dispatchToken enqueueAt dispatchAt dispatchTs)
  | .recover key => w.recover key
  | .withdraw key result => some (w.withdraw key result)
  | .rememberOutcome now key code message =>
    some { w with reports := w.reports.rememberResultOutcome now key code message }
  | .rememberCancel now episodeId code message =>
    some { w with reports := w.reports.rememberCancelOutcome now episodeId code message }
  | .sweep now => some { w with reports := w.reports.sweepTtlCaches now }
  | .command nowMs command =>
    match w.reports.store with
    | none => none
    | some db =>
      match db.handleCommand sha256Hex nowMs command with
      | .ok db => some { w with reports := { w.reports with store := some db } }
      | .error _ => some { w with reports := { w.reports with healthy := false } }

/-- A server that starts: no call and no dispatch yet, any database, and entries to recover whose
leases are of earlier lifetimes. -/
def system : System Plane Label where
  init := fun w =>
    w.calls = ∅ ∧ w.reports.pendingResults = ∅ ∧ w.registered = ∅ ∧ w.withdrawn = [] ∧
      ∀ key ∈ w.recoveries, ∀ seq : Nat, key.dispatchLeaseId ≠ w.reports.leaseId seq
  step := step sha256Hex

/-- What a call has of a pending entry; a call that has not arrived has nothing. -/
def claim (t : Nat) : Claim := (w.calls[t]?).elim .nothing fun call => call.stage.claim

end Plane

/-! ### One segment of a call -/

/-- What one segment of a call with request `req` does to the table of pending entries, along with
what the call has of an entry before and after it. -/
inductive Move (req : ReportResultRequest) (pending : Map PendingKey PendingResult) :
    Claim → Claim → Map PendingKey PendingResult → Prop
  | stay (claim : Claim) : Move req pending claim claim pending
  | take {key : PendingKey} {entry : PendingResult} (present : pending[key]? = some entry)
      (worker : entry.workerId = req.workerId) (token : entry.dispatchToken = req.dispatchToken) :
      Move req pending .nothing (.holds key entry) (pending.erase key)
  | takeAccepted {key : PendingKey} {entry : PendingResult} (present : pending[key]? = some entry)
      (worker : entry.workerId = req.workerId) (token : entry.dispatchToken = req.dispatchToken) :
      Move req pending .nothing (.accepted key) (pending.erase key)
  | accept (key : PendingKey) (entry : PendingResult) :
      Move req pending (.holds key entry) (.accepted key) pending
  | putBack (key : PendingKey) (entry : PendingResult) :
      Move req pending (.holds key entry) .nothing (pending.insert key entry)

namespace Reports

variable {sha256Hex : Bytes → String} {s s' : Reports} {req : ReportResultRequest}
  {stage stage' : ReportStage}

theorem absentOutcome_code (key : PendingKey) : (s.absentOutcome key).1 ≠ "ACCEPTED" := by
  unfold absentOutcome
  split
  · split
    · decide
    · next other => exact other
  · split <;> decide

theorem claim_answered {key : PendingKey} {response : ReportResultResponse}
    (other : response.code ≠ "ACCEPTED") :
    (ReportStage.answered (some key) response).claim = .nothing := by
  show (if response.code = "ACCEPTED" then Claim.accepted key else .nothing) = _
  rw [if_neg other]

theorem validate_claim (nowMs : Millis) (recovered : Option DispatchRow) :
    (s.validate sha256Hex nowMs req recovered).claim = .nothing := by
  unfold validate
  simp only
  repeat' split
  all_goals rfl

theorem begin_move (now : Instant) (nowMs : Millis) :
    Move req s.pendingResults .nothing (s.begin sha256Hex now nowMs req).2.claim
      (s.begin sha256Hex now nowMs req).1.pendingResults := by
  unfold begin
  simp only
  split
  · split
    · exact .stay _
    · exact .stay _
  · dsimp only
    rw [validate_claim]
    exact .stay _

theorem readPending_move (now : Instant) (result : EpisodeResult) (record : IdempotencyRecord) :
    Move req s.pendingResults .nothing (s.readPending now req result record).2.claim
      (s.readPending now req result record).1.pendingResults := by
  unfold readPending
  simp only
  split
  · exact .stay _
  · split
    · dsimp only
      rw [claim_answered (by decide)]
      exact .stay _
    · split
      · dsimp only
        rw [claim_answered (by decide)]
        exact .stay _
      · exact .stay _

theorem reject_move (result : EpisodeResult) (expiresAt : Instant) {code message : String}
    (other : code ≠ "ACCEPTED") :
    Move req s.pendingResults .nothing (s.reject req result expiresAt code message).2.claim
      (s.reject req result expiresAt code message).1.pendingResults := by
  unfold reject
  dsimp only
  rw [claim_answered other]
  exact .stay _

theorem removePending_move (clock : Clock) (result : EpisodeResult) (record : IdempotencyRecord)
    (expiresAt : Instant) :
    Move req s.pendingResults .nothing (s.removePending clock req result record expiresAt).2.claim
      (s.removePending clock req result record expiresAt).1.pendingResults := by
  unfold removePending
  simp only
  cases taken : (s.pendingResults[req.pendingKey result]?).filter fun entry =>
      entry.workerId == req.workerId && entry.dispatchToken == req.dispatchToken with
  | none =>
    simp only
    split
    · exact .stay _
    · exact reject_move result expiresAt (absentOutcome_code _)
  | some entry =>
    obtain ⟨present, matching⟩ := Option.filter_eq_some_iff.mp taken
    rw [Bool.and_eq_true, beq_iff_eq, beq_iff_eq] at matching
    simp only
    split
    · exact .take present matching.1 matching.2
    · exact .takeAccepted present matching.1 matching.2

theorem advance_move {clock : Clock} {nowMs : Millis}
    (taken : s.advance sha256Hex clock nowMs req stage = some (s', stage')) :
    Move req s.pendingResults stage.claim stage'.claim s'.pendingResults := by
  cases stage with
  | arrived =>
    obtain ⟨rfl, rfl⟩ := Prod.mk.inj (Option.some.inj taken)
    exact begin_move _ _
  | findingDispatch reply =>
    rcases reply with _ | error | row
    · cases taken
    · cases taken
      exact .stay _
    · cases taken
      split
      · rw [validate_claim]
        exact .stay _
      · exact .stay _
  | checking result record reply =>
    rcases reply with _ | error | decision
    · cases taken
    · cases taken
      exact .stay _
    · cases decision <;>
      · cases taken
        exact .stay _
  | reading =>
    obtain ⟨rfl, rfl⟩ := Prod.mk.inj (Option.some.inj taken)
    exact readPending_move _ _ _
  | removing =>
    obtain ⟨rfl, rfl⟩ := Prod.mk.inj (Option.some.inj taken)
    exact removePending_move _ _ _ _
  | findingOutcome result expiresAt reply =>
    rcases reply with _ | error | outcome
    · cases taken
    · cases taken
      exact .stay _
    · cases outcome with
      | none =>
        cases taken
        exact reject_move result expiresAt (absentOutcome_code _)
      | some outcome =>
        cases taken
        refine reject_move result expiresAt ?_
        split
        · decide
        · next other => exact other
  | committing final record expiresAt key entry reply =>
    rcases reply with _ | error | _
    · cases taken
    · cases taken
      exact .putBack key entry
    · cases taken
      exact .accept key entry
  | answered => cases taken
  | unavailable => cases taken
  | dropped => cases taken

theorem execute_move {nowMs : Millis} {fault : Option String} {db : Db}
    (taken : s.execute sha256Hex nowMs fault db req stage = some (s', stage')) :
    Move req s.pendingResults stage.claim stage'.claim s'.pendingResults := by
  unfold execute at taken
  repeat' split at taken
  all_goals cases taken
  all_goals exact .stay _

end Reports

/-! ### The segments leave the lease counter alone -/

namespace Reports

/-- The lease ids that are still to come are the same. -/
def SameLeases (s s' : Reports) : Prop :=
  s'.serverEpoch = s.serverEpoch ∧ s'.nextLeaseSeq = s.nextLeaseSeq

variable {sha256Hex : Bytes → String} {s s' : Reports} {req : ReportResultRequest}
  {stage stage' : ReportStage}

theorem SameLeases.leaseId (same : SameLeases s s') (seq : Nat) :
    s'.leaseId seq = s.leaseId seq := by
  unfold Reports.leaseId
  rw [same.1]

theorem Stays.sameLeases (stays : Stays s s') : SameLeases s s' := ⟨stays.epoch, stays.leases⟩

theorem execute_sameLeases {nowMs : Millis} {fault : Option String} {db : Db}
    (taken : s.execute sha256Hex nowMs fault db req stage = some (s', stage')) :
    SameLeases s s' := by
  unfold execute at taken
  repeat' split at taken
  all_goals cases taken
  all_goals exact ⟨rfl, rfl⟩

theorem dropCall_frame (taken : s.dropCall stage = some s') :
    SameLeases s s' ∧ s'.pendingResults = s.pendingResults := by
  unfold dropCall at taken
  split at taken
  all_goals cases taken
  all_goals exact ⟨⟨rfl, rfl⟩, rfl⟩

theorem leaseId_injective {seq seq' : Nat} (same : s.leaseId seq = s.leaseId seq') :
    seq = seq' := by
  unfold leaseId at same
  exact Nat.repr_injective ((String.append_right_inj _).mp same)

end Reports

/-! ### The invariant -/

namespace Plane

/-- Every registered entry is in the table, taken by one call of its owner, or was removed by
another task; and a lease is registered once. -/
structure Owned (w : Plane) : Prop where
  stored : ∀ (key : PendingKey) (entry : PendingResult),
    w.reports.pendingResults[key]? = some entry →
      w.registered[key]? = some entry ∧ ∀ t : Nat, (w.claim t).key ≠ some key
  sole : ∀ (key : PendingKey) (t t' : Nat), (w.claim t).key = some key →
    (w.claim t').key = some key → t = t'
  held : ∀ (t : Nat) (key : PendingKey) (entry : PendingResult), w.claim t = .holds key entry →
    w.registered[key]? = some entry
  owner : ∀ (t : Nat) (key : PendingKey), (w.claim t).key = some key →
    ∃ (call : ReportCall) (entry : PendingResult), w.calls[t]? = some call ∧
      w.registered[key]? = some entry ∧ entry.workerId = call.req.workerId ∧
        entry.dispatchToken = call.req.dispatchToken
  kept : ∀ (key : PendingKey) (entry : PendingResult), w.registered[key]? = some entry →
    key ∈ w.withdrawn ∨ w.reports.pendingResults[key]? = some entry ∨
      ∃ t : Nat, (w.claim t).key = some key
  spent : ∀ (key : PendingKey) (entry : PendingResult), w.registered[key]? = some entry →
    ∀ seq : Nat, key.dispatchLeaseId = w.reports.leaseId seq → seq < w.reports.nextLeaseSeq
  later : ∀ key ∈ w.recoveries, w.registered[key]? = none ∧
    ∀ seq : Nat, key.dispatchLeaseId ≠ w.reports.leaseId seq

variable {sha256Hex : Bytes → String} {w w' : Plane}

theorem claim_of_call {t : Nat} {call : ReportCall} (present : w.calls[t]? = some call) :
    w.claim t = call.stage.claim := by
  unfold claim
  rw [present]
  rfl

theorem claim_insert (t t' : Nat) (call : ReportCall) (reports : Reports) :
    { w with reports, calls := w.calls.insert t call }.claim t' =
      if t = t' then call.stage.claim else w.claim t' := by
  unfold claim
  simp only [lookup_insert]
  split <;> rfl

namespace Owned

variable {stage : ReportStage}

theorem call_insert {t t' : Nat} {call call' : ReportCall} (present : w.calls[t]? = some call)
    (found : w.calls[t']? = some call') :
    ∃ call'' : ReportCall, (w.calls.insert t { call with stage })[t']? = some call'' ∧
      call''.req = call'.req := by
  rw [lookup_insert]
  split
  · next same =>
    rw [← same, present] at found
    cases found
    exact ⟨_, rfl, rfl⟩
  · exact ⟨call', found, rfl⟩

section

variable (owned : w.Owned)
include owned

theorem still {t : Nat} {call : ReportCall} {reports : Reports} (present : w.calls[t]? = some call)
    (same : Reports.SameLeases w.reports reports)
    (pending : reports.pendingResults = w.reports.pendingResults)
    (keys : stage.claim.key = call.stage.claim.key)
    (holds : ∀ (key : PendingKey) (entry : PendingResult), stage.claim = .holds key entry →
      call.stage.claim = .holds key entry) :
    { w with reports, calls := w.calls.insert t { call with stage } }.Owned := by
  have before := claim_of_call present
  have claims : ∀ t' : Nat,
      ({ w with reports, calls := w.calls.insert t { call with stage } }.claim t').key =
        (w.claim t').key := by
    intro t'
    rw [claim_insert]
    split
    · next here => rw [← here, before, keys]
    · rfl
  refine ⟨?_, ?_, ?_, ?_, ?_, ?_, ?_⟩
  · intro key entry stored
    rw [pending] at stored
    refine ⟨(owned.stored key entry stored).1, ?_⟩
    intro t'
    rw [claims]
    exact (owned.stored key entry stored).2 t'
  · intro key t₁ t₂ first second
    rw [claims] at first second
    exact owned.sole key t₁ t₂ first second
  · intro t' key entry held
    rw [claim_insert] at held
    split at held
    · exact owned.held t key entry (before.trans (holds key entry held))
    · exact owned.held t' key entry held
  · intro t' key claimed
    rw [claims] at claimed
    obtain ⟨call', entry, found, rest⟩ := owned.owner t' key claimed
    obtain ⟨call'', found', req⟩ :
        ∃ call'' : ReportCall, (w.calls.insert t { call with stage })[t']? = some call'' ∧
          call''.req = call'.req := call_insert present found
    refine ⟨call'', entry, found', ?_⟩
    rw [req]
    exact rest
  · intro key entry registered
    rw [pending]
    simp only [claims]
    exact owned.kept key entry registered
  · intro key entry registered seq lease
    rw [same.leaseId] at lease
    rw [same.2]
    exact owned.spent key entry registered seq lease
  · intro key member
    refine ⟨(owned.later key member).1, ?_⟩
    intro seq
    rw [same.leaseId]
    exact (owned.later key member).2 seq

theorem take {t : Nat} {call : ReportCall} {reports : Reports} {key : PendingKey}
    {entry : PendingResult} (present : w.calls[t]? = some call)
    (same : Reports.SameLeases w.reports reports) (nothing : call.stage.claim = .nothing)
    (stored : w.reports.pendingResults[key]? = some entry)
    (worker : entry.workerId = call.req.workerId)
    (token : entry.dispatchToken = call.req.dispatchToken)
    (pending : reports.pendingResults = w.reports.pendingResults.erase key)
    (claimed : stage.claim = .holds key entry ∨ stage.claim = .accepted key) :
    { w with reports, calls := w.calls.insert t { call with stage } }.Owned := by
  have before := claim_of_call present
  obtain ⟨registered, free⟩ := owned.stored key entry stored
  have named : stage.claim.key = some key := by
    rcases claimed with claimed | claimed <;> rw [claimed] <;> rfl
  have claims : ∀ t' : Nat,
      ({ w with reports, calls := w.calls.insert t { call with stage } }.claim t').key =
        if t = t' then some key else (w.claim t').key := by
    intro t'
    rw [claim_insert]
    split
    · exact named
    · rfl
  refine ⟨?_, ?_, ?_, ?_, ?_, ?_, ?_⟩
  · intro key' entry' stored'
    rw [pending, lookup_erase] at stored'
    split at stored'
    · cases stored'
    · next other =>
      refine ⟨(owned.stored key' entry' stored').1, ?_⟩
      intro t'
      rw [claims]
      split
      · intro equal
        exact other (Option.some.inj equal)
      · exact (owned.stored key' entry' stored').2 t'
  · intro key' t₁ t₂ first second
    rw [claims] at first second
    split at first
    · next here₁ =>
      split at second
      · next here₂ => exact here₁.symm.trans here₂
      · exact absurd (second.trans first.symm) (free t₂)
    · split at second
      · exact absurd (first.trans second.symm) (free t₁)
      · exact owned.sole key' t₁ t₂ first second
  · intro t' key' entry' held
    rw [claim_insert] at held
    split at held
    · rcases claimed with claimed | claimed
      · obtain ⟨rfl, rfl⟩ := Claim.holds.inj (claimed.symm.trans held)
        exact registered
      · cases claimed.symm.trans held
    · exact owned.held t' key' entry' held
  · intro t' key' claimed'
    rw [claims] at claimed'
    split at claimed'
    · next here =>
      cases claimed'
      refine ⟨{ call with stage }, entry, ?_, registered, worker, token⟩
      rw [lookup_insert, if_pos here]
    · next other =>
      obtain ⟨call', entry', found, rest⟩ := owned.owner t' key' claimed'
      refine ⟨call', entry', ?_, rest⟩
      rw [lookup_insert, if_neg other]
      exact found
  · intro key' entry' registered'
    by_cases here : key = key'
    · right
      right
      refine ⟨t, ?_⟩
      rw [claims, if_pos rfl, here]
    · rw [pending, lookup_erase, if_neg here]
      rcases owned.kept key' entry' registered' with gone | there | ⟨t', claimed'⟩
      · exact Or.inl gone
      · exact Or.inr (Or.inl there)
      · refine Or.inr (Or.inr ⟨t', ?_⟩)
        rw [claims, if_neg]
        · exact claimed'
        · rintro rfl
          rw [before, nothing] at claimed'
          cases claimed'
  · intro key' entry' registered' seq lease
    rw [same.leaseId] at lease
    rw [same.2]
    exact owned.spent key' entry' registered' seq lease
  · intro key' member
    refine ⟨(owned.later key' member).1, ?_⟩
    intro seq
    rw [same.leaseId]
    exact (owned.later key' member).2 seq

/-- A call that holds an entry gives it up, and the entry goes back into the table or is gone. -/
theorem giveUp {t : Nat} {call : ReportCall} {reports : Reports} {key : PendingKey}
    {entry : PendingResult} {withdrawn : List PendingKey} (present : w.calls[t]? = some call)
    (same : Reports.SameLeases w.reports reports) (holds : call.stage.claim = .holds key entry)
    (nothing : stage.claim = .nothing) (more : w.withdrawn ⊆ withdrawn)
    (pending : reports.pendingResults = w.reports.pendingResults.insert key entry ∨
      reports.pendingResults = w.reports.pendingResults ∧ key ∈ withdrawn) :
    { w with reports, calls := w.calls.insert t { call with stage }, withdrawn }.Owned := by
  have before := (claim_of_call present).trans holds
  have registered := owned.held t key entry before
  have mine : (w.claim t).key = some key := by
    rw [before]
    rfl
  have claims : ∀ t' : Nat,
      ({ w with reports, calls := w.calls.insert t { call with stage }, withdrawn }.claim t') =
        if t = t' then .nothing else w.claim t' := by
    intro t'
    rw [← nothing]
    exact claim_insert t t' { call with stage } reports
  have lookups : ∀ key' : PendingKey, key ≠ key' →
      reports.pendingResults[key']? = w.reports.pendingResults[key']? := by
    intro key' other
    rcases pending with back | ⟨gone, _⟩
    · rw [back, lookup_insert, if_neg other]
    · rw [gone]
  have others : ∀ (key' : PendingKey) (t' : Nat),
      ({ w with reports, calls := w.calls.insert t { call with stage }, withdrawn }.claim t').key =
        some key' → (w.claim t').key = some key' ∧ t ≠ t' := by
    intro key' t' claimed
    rw [claims] at claimed
    split at claimed
    · cases claimed
    · next other => exact ⟨claimed, other⟩
  refine ⟨?_, ?_, ?_, ?_, ?_, ?_, ?_⟩
  · intro key' entry' stored
    by_cases here : key = key'
    · subst here
      refine ⟨?_, ?_⟩
      · rcases pending with back | ⟨gone, _⟩
        · rw [back, lookup_insert, if_pos rfl] at stored
          cases stored
          exact registered
        · rw [gone] at stored
          exact (owned.stored key entry' stored).1
      · intro t' claimed
        obtain ⟨claimed, other⟩ := others key t' claimed
        exact other (owned.sole key t t' mine claimed)
    · rw [lookups key' here] at stored
      refine ⟨(owned.stored key' entry' stored).1, ?_⟩
      intro t' claimed
      exact (owned.stored key' entry' stored).2 t' (others key' t' claimed).1
  · intro key' t₁ t₂ first second
    exact owned.sole key' t₁ t₂ (others key' t₁ first).1 (others key' t₂ second).1
  · intro t' key' entry' held
    rw [claims] at held
    split at held
    · cases held
    · exact owned.held t' key' entry' held
  · intro t' key' claimed
    obtain ⟨claimed, other⟩ := others key' t' claimed
    obtain ⟨call', entry', found, rest⟩ := owned.owner t' key' claimed
    refine ⟨call', entry', ?_, rest⟩
    rw [lookup_insert, if_neg other]
    exact found
  · intro key' entry' registered'
    by_cases here : key = key'
    · subst here
      rcases pending with back | ⟨_, gone⟩
      · obtain rfl := Option.some.inj (registered.symm.trans registered')
        right
        left
        rw [back, lookup_insert, if_pos rfl]
      · exact Or.inl gone
    · rw [lookups key' here]
      rcases owned.kept key' entry' registered' with gone | there | ⟨t', claimed⟩
      · exact Or.inl (more gone)
      · exact Or.inr (Or.inl there)
      · refine Or.inr (Or.inr ⟨t', ?_⟩)
        rw [claims, if_neg]
        · exact claimed
        · rintro rfl
          exact here (Option.some.inj (mine.symm.trans claimed))
  · intro key' entry' registered' seq lease
    rw [same.leaseId] at lease
    rw [same.2]
    exact owned.spent key' entry' registered' seq lease
  · intro key' member
    refine ⟨(owned.later key' member).1, ?_⟩
    intro seq
    rw [same.leaseId]
    exact (owned.later key' member).2 seq

theorem moved {t : Nat} {call : ReportCall} {reports : Reports} (present : w.calls[t]? = some call)
    (same : Reports.SameLeases w.reports reports)
    (move : Move call.req w.reports.pendingResults call.stage.claim stage.claim
      reports.pendingResults) :
    { w with reports, calls := w.calls.insert t { call with stage } }.Owned := by
  generalize before : call.stage.claim = claim at move
  generalize after : stage.claim = claim' at move
  generalize left : reports.pendingResults = pending at move
  cases move with
  | stay =>
    refine owned.still present same left ?_ ?_
    · rw [before, after]
    · intro key entry held
      rw [before, ← after]
      exact held
  | take stored worker token =>
    exact owned.take present same before stored worker token left (Or.inl after)
  | takeAccepted stored worker token =>
    exact owned.take present same before stored worker token left (Or.inr after)
  | accept =>
    refine owned.still present same left ?_ ?_
    · rw [before, after]
      rfl
    · intro key' entry' held
      cases after.symm.trans held
  | putBack =>
    exact owned.giveUp present same before after (List.Subset.refl _) (Or.inl left)

theorem register {key : PendingKey} (entry : PendingResult) (fresh : w.registered[key]? = none)
    (spent : ∀ seq : Nat, key.dispatchLeaseId = w.reports.leaseId seq →
      seq < w.reports.nextLeaseSeq) (later : key ∉ w.recoveries) :
    (w.register key entry).Owned where
  stored := by
    intro key' entry' stored
    change (w.reports.pendingResults.insert key entry)[key']? = some entry' at stored
    show (w.registered.insert key entry)[key']? = some entry' ∧ _
    rw [lookup_insert] at stored ⊢
    split at stored
    · next here =>
      subst here
      refine ⟨(if_pos rfl).trans stored, ?_⟩
      intro t claimed
      obtain ⟨_, entry₀, _, registered, _⟩ := owned.owner t key claimed
      cases fresh.symm.trans registered
    · next other =>
      rw [if_neg other]
      exact owned.stored key' entry' stored
  sole := owned.sole
  held := by
    intro t key' entry' held
    have registered := owned.held t key' entry' held
    show (w.registered.insert key entry)[key']? = some entry'
    rw [lookup_insert, if_neg]
    · exact registered
    · rintro rfl
      cases fresh.symm.trans registered
  owner := by
    intro t key' claimed
    obtain ⟨call, entry', found, registered, rest⟩ := owned.owner t key' claimed
    refine ⟨call, entry', found, ?_, rest⟩
    show (w.registered.insert key entry)[key']? = some entry'
    rw [lookup_insert, if_neg]
    · exact registered
    · rintro rfl
      cases fresh.symm.trans registered
  kept := by
    intro key' entry' registered
    change (w.registered.insert key entry)[key']? = some entry' at registered
    show _ ∨ (w.reports.pendingResults.insert key entry)[key']? = some entry' ∨ _
    rw [lookup_insert] at registered ⊢
    split at registered
    · next here =>
      rw [if_pos here]
      exact Or.inr (Or.inl registered)
    · next other =>
      rw [if_neg other]
      exact owned.kept key' entry' registered
  spent := by
    intro key' entry' registered
    change (w.registered.insert key entry)[key']? = some entry' at registered
    rw [lookup_insert] at registered
    split at registered
    · next here =>
      rw [← here]
      exact spent
    · exact owned.spent key' entry' registered
  later := by
    intro key' member
    show (w.registered.insert key entry)[key']? = none ∧ _
    rw [lookup_insert, if_neg]
    · exact owned.later key' member
    · rintro rfl
      exact later member

theorem dispatch (request : EpisodeRequest) (workerId : String) (dispatchToken : List UInt8)
    (enqueueAt dispatchAt : Instant) (dispatchTs : F64) :
    (w.dispatch request workerId dispatchToken enqueueAt dispatchAt dispatchTs).Owned := by
  have counted : { w with
      reports := { w.reports with nextLeaseSeq := w.reports.nextLeaseSeq + 1 } }.Owned :=
    { stored := owned.stored, sole := owned.sole, held := owned.held, owner := owned.owner
      kept := owned.kept
      spent := fun key entry registered seq lease =>
        Nat.lt_succ_of_lt (owned.spent key entry registered seq lease)
      later := owned.later }
  refine counted.register _ ?_ ?_ ?_
  · rw [Option.eq_none_iff_forall_ne_some]
    intro entry registered
    exact absurd (owned.spent _ entry registered _ rfl) (Nat.lt_irrefl _)
  · intro seq lease
    rw [← Reports.leaseId_injective lease]
    exact Nat.lt_succ_self _
  · intro member
    exact (owned.later _ member).2 _ rfl

theorem recover {key : PendingKey} (taken : w.recover key = some w') : w'.Owned := by
  unfold Plane.recover at taken
  split at taken
  · cases taken
  · next entry found =>
    cases taken
    have member : key ∈ w.recoveries := (mem_iff_lookup _ _).mpr ⟨entry, found⟩
    have others : { w with recoveries := w.recoveries.erase key }.Owned :=
      { stored := owned.stored, sole := owned.sole, held := owned.held, owner := owned.owner
        kept := owned.kept, spent := owned.spent
        later := fun key' member' => owned.later key' (Std.ExtTreeMap.mem_of_mem_erase member') }
    refine others.register _ (owned.later key member).1 ?_ ?_
    · intro seq lease
      exact absurd lease ((owned.later key member).2 seq)
    · show key ∉ w.recoveries.erase key
      simp

theorem withdraw (key : PendingKey) (result : Option EpisodeResult) :
    (w.withdraw key result).Owned where
  stored := by
    intro key' entry stored
    exact owned.stored key' entry (lookup_of_erase stored)
  sole := owned.sole
  held := owned.held
  owner := owned.owner
  kept := by
    intro key' entry registered
    show key' ∈ key :: w.withdrawn ∨ (w.reports.pendingResults.erase key)[key']? = some entry ∨ _
    rw [lookup_erase]
    by_cases here : key = key'
    · exact Or.inl (here ▸ List.mem_cons_self)
    · rw [if_neg here]
      rcases owned.kept key' entry registered with gone | there | claimed
      · exact Or.inl (List.mem_cons_of_mem _ gone)
      · exact Or.inr (Or.inl there)
      · exact Or.inr (Or.inr claimed)
  spent := owned.spent
  later := owned.later

theorem dropCall {t : Nat} (taken : w.dropCall t = some w') : w'.Owned := by
  unfold Plane.dropCall at taken
  split at taken
  · cases taken
  · next call present =>
    split at taken
    · cases taken
    · next reports dropped =>
      cases taken
      obtain ⟨same, pending⟩ := Reports.dropCall_frame dropped
      cases before : call.stage.claim with
      | nothing =>
        refine owned.still present same pending ?_ ?_
        · rw [before]
          rfl
        · intro key entry held
          cases held
      | holds =>
        refine owned.giveUp present same before rfl ?_ (Or.inr ⟨pending, ?_⟩)
        · exact List.subset_append_right _ _
        · exact List.mem_cons_self
      | accepted key =>
        have stage : ∃ response, call.stage = .answered (some key) response := by
          cases named : call.stage with
          | answered key' response =>
            rw [named] at before
            cases key' with
            | none => cases before
            | some key' =>
              change (if _ then Claim.accepted key' else .nothing) = _ at before
              split at before
              · obtain rfl := Claim.accepted.inj before
                exact ⟨response, rfl⟩
              · cases before
          | _ =>
            rw [named] at before
            cases before
        obtain ⟨response, stage⟩ := stage
        rw [stage] at dropped
        cases dropped

theorem arrive {t : Nat} {req : ReportResultRequest} (absent : w.calls[t]? = none) :
    { w with calls := w.calls.insert t { req, stage := .arrived } }.Owned := by
  have claims : ∀ t' : Nat,
      { w with calls := w.calls.insert t { req, stage := .arrived } }.claim t' = w.claim t' := by
    intro t'
    refine (claim_insert t t' _ w.reports).trans ?_
    split
    · next here =>
      unfold claim
      rw [← here, absent]
      rfl
    · rfl
  refine ⟨?_, ?_, ?_, ?_, ?_, owned.spent, owned.later⟩
  · simp only [claims]
    exact owned.stored
  · simp only [claims]
    exact owned.sole
  · simp only [claims]
    exact owned.held
  · intro t' key claimed
    rw [claims] at claimed
    obtain ⟨call, entry, found, rest⟩ := owned.owner t' key claimed
    refine ⟨call, entry, ?_, rest⟩
    rw [lookup_insert, if_neg]
    · exact found
    · rintro rfl
      cases absent.symm.trans found
  · simp only [claims]
    exact owned.kept

theorem ofCall {t : Nat}
    {segment : ReportResultRequest → ReportStage → Option (Reports × ReportStage)}
    (taken : w.ofCall t segment = some w')
    (move : ∀ (req : ReportResultRequest) (stage stage' : ReportStage) (reports : Reports),
      segment req stage = some (reports, stage') → Reports.SameLeases w.reports reports ∧
        Move req w.reports.pendingResults stage.claim stage'.claim reports.pendingResults) :
    w'.Owned := by
  unfold Plane.ofCall at taken
  split at taken
  · cases taken
  · next call present =>
    split at taken
    · cases taken
    · next reports stage ran =>
      cases taken
      obtain ⟨same, moves⟩ := move _ _ _ _ ran
      exact owned.moved present same moves

end

end Owned

theorem owned_step (owned : w.Owned) {label : Label} (taken : step sha256Hex w label = some w') :
    w'.Owned := by
  cases label with
  | arrive t req =>
    unfold step at taken
    simp only at taken
    split at taken
    · cases taken
    · next absent =>
      cases taken
      refine owned.arrive ?_
      rw [Bool.not_eq_true, Std.ExtTreeMap.contains_eq_isSome_getElem?,
        Option.isSome_eq_false_iff, Option.isNone_iff_eq_none] at absent
      exact absent
  | advance =>
    exact owned.ofCall taken fun req stage stage' reports ran =>
      ⟨(Reports.advance_stays ran).sameLeases, Reports.advance_move ran⟩
  | execute =>
    unfold step at taken
    simp only at taken
    split at taken
    · cases taken
    · exact owned.ofCall taken fun req stage stage' reports ran =>
        ⟨Reports.execute_sameLeases ran, Reports.execute_move ran⟩
  | dropCall t => exact owned.dropCall taken
  | dispatch request workerId dispatchToken enqueueAt dispatchAt dispatchTs =>
    cases taken
    exact owned.dispatch request workerId dispatchToken enqueueAt dispatchAt dispatchTs
  | recover => exact owned.recover taken
  | withdraw key result =>
    cases taken
    exact owned.withdraw key result
  | rememberOutcome =>
    cases taken
    exact ⟨owned.stored, owned.sole, owned.held, owned.owner, owned.kept, owned.spent, owned.later⟩
  | rememberCancel =>
    cases taken
    exact ⟨owned.stored, owned.sole, owned.held, owned.owner, owned.kept, owned.spent, owned.later⟩
  | sweep =>
    cases taken
    exact ⟨owned.stored, owned.sole, owned.held, owned.owner, owned.kept, owned.spent, owned.later⟩
  | command =>
    unfold step at taken
    simp only at taken
    split at taken
    · cases taken
    · split at taken <;>
      · cases taken
        exact ⟨owned.stored, owned.sole, owned.held, owned.owner, owned.kept, owned.spent,
          owned.later⟩

theorem owned_of_reached (reached : Reachable (system sha256Hex) w) : w.Owned := by
  refine reached.invariant (motive := Owned) ?_ fun s label t _ owned _ taken =>
    owned_step owned taken
  rintro s ⟨calls, pending, registered, _, later⟩
  have nothing : ∀ t : Nat, s.claim t = .nothing := by
    intro t
    unfold claim
    rw [calls]
    rfl
  refine ⟨?_, ?_, ?_, ?_, ?_, ?_, ?_⟩
  · intro key entry stored
    rw [pending] at stored
    cases stored
  · intro key t t' claimed
    rw [nothing] at claimed
    cases claimed
  · intro t key entry held
    rw [nothing] at held
    cases held
  · intro t key claimed
    rw [nothing] at claimed
    cases claimed
  · intro key entry stored
    rw [registered] at stored
    cases stored
  · intro key entry stored
    rw [registered] at stored
    cases stored
  · intro key member
    refine ⟨?_, later key member⟩
    rw [registered]
    rfl

end Plane

/-! ### What the answers say -/

/-- What the stage of a call with request `req` says of that request. -/
def ReportStage.Fits (req : ReportResultRequest) : ReportStage → Prop
  | .checking result _ _ | .reading result _ | .removing result _ _ | .findingOutcome result _ _ =>
    req.result = some result
  | .committing _ _ _ key _ _ => ∃ result ∈ req.result, key = req.pendingKey result
  | .answered key response =>
    (∀ k ∈ key, ∃ result ∈ req.result, k = req.pendingKey result) ∧
      (response.code = "ACCEPTED" ↔ response.ack = true ∧ response.duplicate = false) ∧
        (response.code = "ACCEPTED" → key.isSome)
  | _ => True

namespace Reports

variable {sha256Hex : Bytes → String} {s s' : Reports} {req : ReportResultRequest}
  {stage stage' : ReportStage}

variable {response : ReportResultResponse}

theorem fits_answered {key : Option PendingKey}
    (named : ∀ k ∈ key, ∃ result ∈ req.result, k = req.pendingKey result)
    (other : response.code ≠ "ACCEPTED") (kind : response.ack = false ∨ response.duplicate = true) :
    (ReportStage.answered key response).Fits req := by
  refine ⟨named, ⟨fun code => absurd code other, ?_⟩, fun code => absurd code other⟩
  rintro ⟨ack, first⟩
  rcases kind with rejected | repeated
  · cases ack.symm.trans rejected
  · cases first.symm.trans repeated

theorem fits_rejected (other : response.code ≠ "ACCEPTED")
    (kind : response.ack = false ∨ response.duplicate = true) :
    (ReportStage.answered none response).Fits req :=
  fits_answered (fun k member => absurd member (Option.not_mem_none k)) other kind

theorem fits_keyed {result : EpisodeResult} (carried : req.result = some result)
    (other : response.code ≠ "ACCEPTED") (kind : response.ack = false ∨ response.duplicate = true) :
    (ReportStage.answered (some (req.pendingKey result)) response).Fits req := by
  refine fits_answered ?_ other kind
  intro k same
  cases same
  exact ⟨result, carried, rfl⟩

theorem validate_fits (nowMs : Millis) (recovered : Option DispatchRow) :
    (s.validate sha256Hex nowMs req recovered).Fits req := by
  unfold validate
  simp only
  split
  · exact fits_rejected (by decide) (Or.inl rfl)
  · split
    · refine fits_rejected ?_ (Or.inr rfl)
      dsimp only
      split <;> decide
    · split
      · exact fits_rejected (by decide) (Or.inl rfl)
      · next result carried =>
        split
        · exact fits_rejected (by decide) (Or.inl rfl)
        · split
          · exact fits_rejected (by decide) (Or.inl rfl)
          · split
            · exact carried
            · exact carried

theorem begin_fits (now : Instant) (nowMs : Millis) :
    (s.begin sha256Hex now nowMs req).2.Fits req := by
  unfold begin
  simp only
  split
  · split
    · trivial
    · exact fits_rejected (by decide) (Or.inl rfl)
  · exact validate_fits _ _

theorem readPending_fits (now : Instant) {result : EpisodeResult} (record : IdempotencyRecord)
    (carried : req.result = some result) : (s.readPending now req result record).2.Fits req := by
  unfold readPending
  simp only
  split
  · exact carried
  · split
    · exact fits_keyed carried (by decide) (Or.inl rfl)
    · split
      · exact fits_keyed carried (by decide) (Or.inl rfl)
      · exact carried

theorem fits_accepted {result : EpisodeResult} (carried : req.result = some result) :
    (ReportStage.answered (some (req.pendingKey result))
      { ack := true, duplicate := false, code := "ACCEPTED", message := "accepted" }).Fits req := by
  refine ⟨?_, by decide, fun _ => rfl⟩
  intro k same
  cases same
  exact ⟨result, carried, rfl⟩

theorem removePending_fits (clock : Clock) {result : EpisodeResult} (record : IdempotencyRecord)
    (expiresAt : Instant) (carried : req.result = some result) :
    (s.removePending clock req result record expiresAt).2.Fits req := by
  unfold removePending
  simp only
  split
  · split
    · exact carried
    · exact fits_keyed carried (absentOutcome_code _) (Or.inl rfl)
  · split
    · exact ⟨result, carried, rfl⟩
    · exact fits_accepted carried

theorem advance_fits {clock : Clock} {nowMs : Millis} (fits : stage.Fits req)
    (taken : s.advance sha256Hex clock nowMs req stage = some (s', stage')) : stage'.Fits req := by
  unfold advance at taken
  split at taken
  · obtain ⟨rfl, rfl⟩ := Prod.mk.inj (Option.some.inj taken)
    exact begin_fits _ _
  · cases taken
    split
    · exact validate_fits _ _
    · exact fits_rejected (by decide) (Or.inl rfl)
  · split at taken
    · cases taken
      refine fits_rejected ?_ (Or.inr rfl)
      show "DUPLICATE_ACCEPTED" ≠ "ACCEPTED"
      decide
    · cases taken
      exact fits_rejected (by decide) (Or.inl rfl)
    · cases taken
      exact fits
  · obtain ⟨rfl, rfl⟩ := Prod.mk.inj (Option.some.inj taken)
    exact readPending_fits _ _ fits
  · obtain ⟨rfl, rfl⟩ := Prod.mk.inj (Option.some.inj taken)
    exact removePending_fits _ _ _ fits
  · split at taken
    · cases taken
      refine fits_keyed fits ?_ (Or.inl rfl)
      dsimp only
      split
      · decide
      · next other => exact other
    · cases taken
      exact fits_keyed fits (absentOutcome_code _) (Or.inl rfl)
  · cases taken
    obtain ⟨result, carried, rfl⟩ := fits
    exact fits_accepted carried
  · cases taken
    obtain ⟨result, carried, rfl⟩ := fits
    exact fits_keyed carried (by decide) (Or.inl rfl)
  all_goals cases taken
  all_goals trivial

theorem execute_fits {nowMs : Millis} {fault : Option String} {db : Db} (fits : stage.Fits req)
    (taken : s.execute sha256Hex nowMs fault db req stage = some (s', stage')) :
    stage'.Fits req := by
  unfold execute at taken
  repeat' split at taken
  all_goals cases taken
  all_goals exact fits

end Reports

namespace Plane

variable {sha256Hex : Bytes → String} {w w' : Plane}

/-- Every call is of its request. -/
def Fitting (w : Plane) : Prop :=
  ∀ (t : Nat) (call : ReportCall), w.calls[t]? = some call → call.stage.Fits call.req

theorem Fitting.insert (fitting : w.Fitting) {reports : Reports} {withdrawn : List PendingKey}
    (t : Nat) {call : ReportCall} (fits : call.stage.Fits call.req) :
    { w with reports, calls := w.calls.insert t call, withdrawn }.Fitting := by
  intro t' call' found
  rcases lookup_insert_cases found with ⟨_, rfl⟩ | found
  · exact fits
  · exact fitting t' call' found

theorem Fitting.ofCall (fitting : w.Fitting) {t : Nat}
    {segment : ReportResultRequest → ReportStage → Option (Reports × ReportStage)}
    (taken : w.ofCall t segment = some w')
    (next : ∀ (req : ReportResultRequest) (stage stage' : ReportStage) (reports : Reports),
      stage.Fits req → segment req stage = some (reports, stage') → stage'.Fits req) :
    w'.Fitting := by
  unfold Plane.ofCall at taken
  split at taken
  · cases taken
  · next call present =>
    split at taken
    · cases taken
    · next reports stage ran =>
      cases taken
      exact fitting.insert t (next _ _ _ _ (fitting t call present) ran)

theorem fitting_step (fitting : w.Fitting) {label : Label}
    (taken : step sha256Hex w label = some w') : w'.Fitting := by
  cases label with
  | arrive t =>
    unfold step at taken
    simp only at taken
    split at taken
    · cases taken
    · cases taken
      exact fitting.insert t trivial
  | advance =>
    exact fitting.ofCall taken fun _ _ _ _ fits ran => Reports.advance_fits fits ran
  | execute =>
    unfold step at taken
    simp only at taken
    split at taken
    · cases taken
    · exact fitting.ofCall taken fun _ _ _ _ fits ran => Reports.execute_fits fits ran
  | dropCall t =>
    change w.dropCall t = _ at taken
    unfold Plane.dropCall at taken
    repeat' split at taken
    all_goals cases taken
    exact fitting.insert t trivial
  | recover key =>
    change w.recover key = _ at taken
    unfold Plane.recover at taken
    split at taken
    · cases taken
    · cases taken
      exact fitting
  | command =>
    unfold step at taken
    simp only at taken
    split at taken
    · cases taken
    · split at taken <;>
      · cases taken
        exact fitting
  | _ =>
    cases taken
    exact fitting

theorem fitting_of_reached (reached : Reachable (system sha256Hex) w) : w.Fitting := by
  refine reached.invariant (motive := Fitting) ?_ fun s label t _ fitting _ taken =>
    fitting_step fitting taken
  rintro s ⟨calls, _⟩ t call found
  rw [calls] at found
  cases found

/-- Call `t` reported the result of `key` and was answered with `response`. -/
def Answers (w : Plane) (t : Nat) (key : PendingKey) (response : ReportResultResponse) : Prop :=
  ∃ (call : ReportCall) (named : Option PendingKey), w.calls[t]? = some call ∧
    (∃ result ∈ call.req.result, call.req.pendingKey result = key) ∧
      call.stage = .answered named response

/-- Call `t` has taken the entry of `key` and waits for the store. -/
def Commits (w : Plane) (t : Nat) (key : PendingKey) : Prop :=
  ∃ (call : ReportCall) (entry : PendingResult), w.calls[t]? = some call ∧
    call.stage.claim = .holds key entry

theorem claim_of_answers {t : Nat} {key : PendingKey} {response : ReportResultResponse}
    (fitting : w.Fitting) (answers : w.Answers t key response)
    (accepted : response.code = "ACCEPTED") :
    w.claim t = .accepted key := by
  obtain ⟨call, named, found, ⟨result, carried, same⟩, stage⟩ := answers
  have fits := fitting t call found
  rw [stage] at fits
  obtain ⟨names, _, keyed⟩ := fits
  obtain ⟨key', rfl⟩ := Option.isSome_iff_exists.mp (keyed accepted)
  obtain ⟨result', carried', same'⟩ := names key' rfl
  obtain rfl := Option.some.inj (carried.symm.trans carried')
  rw [claim_of_call found, stage]
  show (if response.code = "ACCEPTED" then Claim.accepted key' else .nothing) = _
  rw [if_pos accepted, same', same]

theorem answers_or_commits {t : Nat} {key : PendingKey} (fitting : w.Fitting)
    (claimed : (w.claim t).key = some key) :
    (∃ response : ReportResultResponse, w.Answers t key response ∧ response.code = "ACCEPTED") ∨
      w.Commits t key := by
  unfold claim at claimed
  cases found : w.calls[t]? with
  | none =>
    rw [found] at claimed
    cases claimed
  | some call =>
    rw [found] at claimed
    change call.stage.claim.key = some key at claimed
    cases stage : call.stage with
    | committing final record expiresAt key' entry =>
      rw [stage] at claimed
      cases claimed
      refine Or.inr ⟨call, entry, found, ?_⟩
      rw [stage]
      rfl
    | answered named response =>
      rw [stage] at claimed
      cases named with
      | none => cases claimed
      | some key' =>
        change (if response.code = "ACCEPTED" then Claim.accepted key' else .nothing).key =
          some key at claimed
        split at claimed
        · next accepted =>
          obtain rfl := Option.some.inj claimed
          have fits := fitting t call found
          rw [stage] at fits
          obtain ⟨result, carried, same⟩ := fits.1 key' rfl
          exact Or.inl ⟨response, ⟨call, some key', found, ⟨result, carried, same.symm⟩, stage⟩,
            accepted⟩
        · cases claimed
    | _ =>
      rw [stage] at claimed
      cases claimed

/-- However the segments of the calls interleave with each other and with the tasks around them:
at most one call is answered `ACCEPTED` for a lease, that call is of the worker and carries the
token that were stored at the dispatch, `ACCEPTED` is the one answer with `ack` and without
`duplicate`, and a call with any other answer leaves the table as it was: the entry of a lease
that no other task removed is in the table, as it was stored, unless a call was accepted for it or
has taken it and still waits for the store. -/
theorem lease_completed_once_by_its_owner (reached : Reachable (system sha256Hex) w) :
    (∀ (key : PendingKey) (t t' : Nat) (r r' : ReportResultResponse), w.Answers t key r →
      w.Answers t' key r' → r.code = "ACCEPTED" → r'.code = "ACCEPTED" → t = t') ∧
    (∀ (key : PendingKey) (t : Nat) (r : ReportResultResponse), w.Answers t key r →
      (r.code = "ACCEPTED" ↔ r.ack = true ∧ r.duplicate = false) ∧
      (r.code = "ACCEPTED" → ∃ (call : ReportCall) (entry : PendingResult),
        w.calls[t]? = some call ∧ w.registered[key]? = some entry ∧
          entry.workerId = call.req.workerId ∧ entry.dispatchToken = call.req.dispatchToken)) ∧
    ∀ key ∉ w.withdrawn,
      ((∃ (t : Nat) (r : ReportResultResponse), w.Answers t key r ∧ r.code = "ACCEPTED") ∨
          (∃ t : Nat, w.Commits t key) → w.reports.pendingResults[key]? = none) ∧
      (¬ ((∃ (t : Nat) (r : ReportResultResponse), w.Answers t key r ∧ r.code = "ACCEPTED") ∨
          (∃ t : Nat, w.Commits t key)) →
        w.reports.pendingResults[key]? = w.registered[key]?) := by
  have owned := owned_of_reached reached
  have fitting := fitting_of_reached reached
  have accepted : ∀ {key : PendingKey} {t : Nat} {r : ReportResultResponse}, w.Answers t key r →
      r.code = "ACCEPTED" → (w.claim t).key = some key := by
    intro key t r answers code
    rw [claim_of_answers fitting answers code]
    rfl
  refine ⟨?_, ?_, ?_⟩
  · intro key t t' r r' first second code code'
    exact owned.sole key t t' (accepted first code) (accepted second code')
  · intro key t r answers
    refine ⟨?_, fun code => owned.owner t key (accepted answers code)⟩
    obtain ⟨call, named, found, _, stage⟩ := answers
    have fits := fitting t call found
    rw [stage] at fits
    exact fits.2.1
  · intro key kept
    have taken : (∃ (t : Nat) (r : ReportResultResponse), w.Answers t key r ∧ r.code = "ACCEPTED") ∨
        (∃ t : Nat, w.Commits t key) ↔ ∃ t : Nat, (w.claim t).key = some key := by
      constructor
      · rintro (⟨t, r, answers, code⟩ | ⟨t, call, entry, found, holds⟩)
        · exact ⟨t, accepted answers code⟩
        · refine ⟨t, ?_⟩
          rw [claim_of_call found, holds]
          rfl
      · rintro ⟨t, claimed⟩
        rcases answers_or_commits fitting claimed with ⟨r, answers⟩ | commits
        · exact Or.inl ⟨t, r, answers⟩
        · exact Or.inr ⟨t, commits⟩
    rw [taken]
    refine ⟨?_, ?_⟩
    · rintro ⟨t, claimed⟩
      rw [Option.eq_none_iff_forall_ne_some]
      intro entry stored
      exact (owned.stored key entry stored).2 t claimed
    · intro free
      cases registered : w.registered[key]? with
      | none =>
        rw [Option.eq_none_iff_forall_ne_some]
        intro entry stored
        cases registered.symm.trans (owned.stored key entry stored).1
      | some entry =>
        rcases owned.kept key entry registered with gone | there | claimed
        · exact absurd gone kept
        · exact there
        · exact absurd claimed free

/-- A result of episode `ep-1` under the lease `lease-7-1`. -/
def reportOf (idempotencyKey workerId : String) : ReportResultRequest :=
  { idempotencyKey, workerId, result := some { episodeId := "ep-1", attemptId := 1 }
    dispatchLeaseId := "lease-7-1", dispatchToken := [1] }

/-- One dispatch to `w1` that `w2` and then `w1` report on, in a server without a store. -/
def twoReports : List Label :=
  let clock : Clock := { instant := 0, unixSeconds := .zero }
  [.dispatch { episodeId := "ep-1", attemptId := 1 } "w1" [1] 0 0 .zero,
    .arrive 0 (reportOf "key-0" "w2"), .arrive 1 (reportOf "key-1" "w1"), .advance 0 clock 0,
    .advance 1 clock 0, .advance 0 clock 0, .advance 1 clock 0, .advance 1 clock 0]

/-- A server that starts in memory, with the clock at epoch 7. -/
def inMemory : Plane :=
  { reports := { serverEpoch := 7, resultTtlSecs := 600, storeTtlSecs := 600, store := none } }

theorem initial_inMemory : (system Sha256.sha256Hex).init inMemory := by
  refine ⟨rfl, rfl, rfl, rfl, ?_⟩
  intro key member
  simp [inMemory] at member

theorem lease_completed_once_of_two_reports :
    ∃ w : Plane, (system Sha256.sha256Hex).exec inMemory twoReports = some w ∧
      (∃ response, w.Answers 1 ⟨"ep-1", 1, "lease-7-1"⟩ response ∧ response.code = "ACCEPTED") ∧
      ∀ (t : Nat) (response : ReportResultResponse), w.Answers t ⟨"ep-1", 1, "lease-7-1"⟩ response →
        response.code = "ACCEPTED" → t = 1 := by
  have facts : ((system Sha256.sha256Hex).exec inMemory twoReports).any (fun w =>
      (w.calls[1]?).any fun call => match call.stage with
        | .answered _ response =>
          call.req.result.any (fun result =>
            call.req.pendingKey result == ⟨"ep-1", 1, "lease-7-1"⟩) && response.code == "ACCEPTED"
        | _ => false) = true := by decide +kernel
  obtain ⟨w, ran, facts⟩ := (Option.any_eq_true _ _).mp facts
  obtain ⟨call, found, facts⟩ := (Option.any_eq_true _ _).mp facts
  have answered : ∃ response, w.Answers 1 ⟨"ep-1", 1, "lease-7-1"⟩ response ∧
      response.code = "ACCEPTED" := by
    split at facts
    · next named response stage =>
      rw [Bool.and_eq_true, beq_iff_eq] at facts
      obtain ⟨keyed, code⟩ := facts
      obtain ⟨result, carried, same⟩ := (Option.any_eq_true _ _).mp keyed
      exact ⟨response, ⟨call, named, found, ⟨result, carried, beq_iff_eq.mp same⟩, stage⟩, code⟩
    · cases facts
  refine ⟨w, ran, answered, ?_⟩
  obtain ⟨response, first, code⟩ := answered
  intro t response' second code'
  exact (lease_completed_once_by_its_owner (Reachable.of_exec initial_inMemory twoReports ran)).1
    _ t 1 response' response second first code' code

end Plane

end UEnv.ControlPlane
