import UEnv.ControlPlane.Reports
import UEnv.Lib.Sha256

/-!
# Reports to a server without a store

Without a store `report_result` awaits nothing, so a call runs to its end. A rejected report leaves
the pending entry in place but is remembered under its idempotency key, and the next report under
that key is answered from the cache, whoever sends it.
-/

namespace UEnv.ControlPlane

open Proto Wire Persistence Tables Scheduler Service

/-- One call of `report_result`: its clocks and its request. -/
structure ReportInput where
  clock : Clock
  nowMs : Millis
  req : ReportResultRequest

namespace Reports

variable (sha256Hex : Bytes → String)

/-- Run the segments of a call until it waits for the store or is answered. -/
def run (input : ReportInput) : Nat → Reports × ReportStage → Reports × ReportStage
  | 0, state => state
  | fuel + 1, state =>
    match state.1.advance sha256Hex input.clock input.nowMs input.req state.2 with
    | none => state
    | some next => run input fuel next

/-- `report_result` of a server without a store, which has three segments at most. -/
def report (s : Reports) (input : ReportInput) : Reports × ReportStage :=
  run sha256Hex input 3 (s, .arrived)

/-- A sequence of calls. -/
def reportAll (s : Reports) (inputs : List ReportInput) : Reports :=
  inputs.foldl (fun s input => (s.report sha256Hex input).1) s

/-- The response of a call that is answered. -/
def answer (s : Reports) (input : ReportInput) : Option ReportResultResponse :=
  match (s.report sha256Hex input).2 with
  | .answered _ response => some response
  | _ => none

variable {sha256Hex} {s s' : Reports} {input : ReportInput}

theorem run_store (fuel : Nat) (state : Reports × ReportStage) :
    (run sha256Hex input fuel state).1.store = state.1.store := by
  induction fuel generalizing state with
  | zero => rfl
  | succ fuel ih =>
    unfold run
    split
    · rfl
    · next next taken => exact (ih next).trans (advance_stays taken).store

theorem reportAll_store (inputs : List ReportInput) :
    (s.reportAll sha256Hex inputs).store = s.store := by
  induction inputs generalizing s with
  | nil => rfl
  | cons input rest ih => exact ih.trans (run_store 3 (s, .arrived))

/-- What `validate` needs to let a report through to its pending entry. -/
def Passes (s : Reports) (input : ReportInput) : Prop :=
  input.req.idempotencyKey ≠ "" ∧ input.req.dispatchLeaseId ≠ "" ∧ input.req.dispatchToken ≠ [] ∧
    ∀ record : CachedReport, s.idempotencyCache[input.req.idempotencyKey]? = some record →
      record.expiresAt ≤ input.clock.instant

theorem lookup_sweepTtlCaches (now : Instant) (key : String) :
    (s.sweepTtlCaches now).idempotencyCache[key]? =
      (s.idempotencyCache[key]?).filter fun record => decide (now < record.expiresAt) :=
  lookup_filter _ _ _

variable {result : EpisodeResult} {key : String} {record : CachedReport}

theorem validate_of_passes (memory : s.store = none) (carried : input.req.result = some result)
    (passes : s.Passes input) :
    (s.sweepTtlCaches input.clock.instant).validate sha256Hex input.nowMs input.req none =
      .reading result
        ((s.sweepTtlCaches input.clock.instant).persistedIdempotency sha256Hex input.nowMs input.req
          result) := by
  obtain ⟨keyed, leased, token, expired⟩ := passes
  have uncached : (s.sweepTtlCaches input.clock.instant).idempotencyCache[
      input.req.idempotencyKey]? = none := by
    rw [lookup_sweepTtlCaches]
    cases cached : s.idempotencyCache[input.req.idempotencyKey]? with
    | none => rfl
    | some record =>
      rw [Option.filter_some, if_neg]
      simpa using expired record cached
  have memory' : (s.sweepTtlCaches input.clock.instant).store = none := memory
  unfold validate
  simp only
  rw [if_neg (by simpa using keyed), memory', uncached]
  simp only [Option.isNone_none, if_true, carried, Option.any_none, Bool.false_eq_true, if_false,
    Option.isSome_none]
  rw [if_neg (by simp [leased, token])]

variable (sha256Hex) in
theorem validate_of_not_passes (memory : s.store = none) (fails : ¬ s.Passes input) :
    ∃ response : ReportResultResponse, response.code ≠ "ACCEPTED" ∧
      (s.sweepTtlCaches input.clock.instant).validate sha256Hex input.nowMs input.req none =
        .answered none response := by
  have memory' : (s.sweepTtlCaches input.clock.instant).store = none := memory
  unfold validate
  simp only
  rw [memory']
  by_cases keyed : input.req.idempotencyKey = ""
  · rw [if_pos (by simpa using keyed)]
    exact ⟨_, by decide, rfl⟩
  · rw [if_neg (by simpa using keyed)]
    simp only [Option.isNone_none, if_true]
    cases cached : (s.sweepTtlCaches input.clock.instant).idempotencyCache[
        input.req.idempotencyKey]? with
    | some record =>
      refine ⟨_, ?_, rfl⟩
      dsimp only
      split <;> decide
    | none =>
      simp only
      cases carried : input.req.result with
      | none => exact ⟨_, by decide, rfl⟩
      | some result =>
        simp only
        split
        · exact ⟨_, by decide, rfl⟩
        · next present =>
          refine absurd ⟨keyed, ?_, ?_, ?_⟩ fails
          · intro empty
            exact present (by simp [empty])
          · intro empty
            exact present (by simp [empty])
          · intro record found
            rw [lookup_sweepTtlCaches, found, Option.filter_some] at cached
            by_contra live
            rw [if_pos (by simpa using live)] at cached
            cases cached

/-- The answer to a report of the owner of a lease: it is accepted exactly when it passes. -/
theorem answer_accepted_iff {entry : PendingResult} (memory : s.store = none)
    (carried : input.req.result = some result)
    (stored : s.pendingResults[input.req.pendingKey result]? = some entry)
    (worker : input.req.workerId = entry.workerId)
    (token : input.req.dispatchToken = entry.dispatchToken)
    (epoch : input.req.serverEpoch = 0 ∨ input.req.serverEpoch = s.serverEpoch) :
    (∃ response, s.answer sha256Hex input = some response ∧ response.code = "ACCEPTED") ↔
      s.Passes input := by
  have current : ¬ (input.req.serverEpoch ≠ 0 ∧
      input.req.serverEpoch ≠ (s.sweepTtlCaches input.clock.instant).serverEpoch) := by
    rintro ⟨nonzero, other⟩
    rcases epoch with zero | same
    · exact nonzero zero
    · exact other same
  have first : s.advance sha256Hex input.clock input.nowMs input.req .arrived =
      some (s.sweepTtlCaches input.clock.instant,
        (s.sweepTtlCaches input.clock.instant).validate sha256Hex input.nowMs input.req none) := by
    show some (s.begin sha256Hex input.clock.instant input.nowMs input.req) = _
    unfold begin
    simp only
    rw [if_neg current]
  constructor
  · rintro ⟨response, answered, code⟩
    by_contra fails
    obtain ⟨response', other, invalid⟩ := validate_of_not_passes sha256Hex memory fails
    unfold answer report at answered
    rw [run, first] at answered
    simp only at answered
    rw [invalid] at answered
    cases answered
    exact other code
  · intro passes
    have second : ∀ record : IdempotencyRecord,
        (s.sweepTtlCaches input.clock.instant).readPending input.clock.instant input.req result
          record = (s.sweepTtlCaches input.clock.instant,
            .removing result record (input.clock.instant + s.outcomeTtl)) := by
      intro record
      have stored' : (s.sweepTtlCaches input.clock.instant).pendingResults[
          input.req.pendingKey result]? = some entry := stored
      unfold readPending
      simp only
      rw [stored']
      simp only
      rw [if_neg (not_not_intro worker.symm), if_neg (not_not_intro token.symm)]
      rfl
    have third : s.report sha256Hex input = (s.sweepTtlCaches input.clock.instant).removePending
        input.clock input.req result
        ((s.sweepTtlCaches input.clock.instant).persistedIdempotency sha256Hex input.nowMs input.req
          result) (input.clock.instant + s.outcomeTtl) := by
      unfold report
      rw [run, first, validate_of_passes memory carried passes]
      show run sha256Hex input 1 (Reports.readPending _ _ _ _ _) = _
      rw [second]
      rfl
    have matching : (s.pendingResults[input.req.pendingKey result]?).filter (fun entry =>
        entry.workerId == input.req.workerId && entry.dispatchToken == input.req.dispatchToken) =
          some entry := by
      rw [stored, Option.filter_some, if_pos (by simp [worker, token])]
    have stored' : (s.sweepTtlCaches input.clock.instant).pendingResults = s.pendingResults := rfl
    have memory' : (s.sweepTtlCaches input.clock.instant).store = none := memory
    unfold answer
    rw [third]
    unfold removePending
    simp only
    rw [stored', matching, memory']
    exact ⟨_, rfl, rfl⟩

/-! ### What the earlier calls leave in the cache -/

/-- The records under `key` of the cache are those of before, unless the call has that key. -/
def CachesOnly (s s' : Reports) (req : ReportResultRequest) (key : String) : Prop :=
  ∀ record : CachedReport, s'.idempotencyCache[key]? = some record →
    s.idempotencyCache[key]? = some record ∨ req.idempotencyKey = key

section Cache

variable {clock : Clock} {nowMs : Millis} {req : ReportResultRequest} {key : String}

theorem cachesOnly_of_eq (same : s'.idempotencyCache = s.idempotencyCache) :
    CachesOnly s s' req key := by
  intro record cached
  rw [same] at cached
  exact Or.inl cached

theorem cachesOnly_of_insert {remembered : CachedReport}
    (inserted : s'.idempotencyCache = s.idempotencyCache.insert req.idempotencyKey remembered) :
    CachesOnly s s' req key := by
  intro record cached
  rw [inserted] at cached
  rcases lookup_insert_cases cached with ⟨same, _⟩ | before
  · exact Or.inr same.symm
  · exact Or.inl before

theorem cachesOnly_sweep : CachesOnly s (s.sweepTtlCaches clock.instant) req key := by
  intro record cached
  exact Or.inl (lookup_of_filter cached).1

theorem cachesOnly_begin : CachesOnly s (s.begin sha256Hex clock.instant nowMs req).1 req key := by
  unfold begin
  simp only
  repeat' split
  all_goals exact cachesOnly_sweep

theorem cachesOnly_readPending (result : EpisodeResult) (record : IdempotencyRecord) :
    CachesOnly s (s.readPending clock.instant req result record).1 req key := by
  unfold readPending
  simp only
  split
  · exact cachesOnly_of_eq rfl
  · split
    · exact cachesOnly_of_insert rfl
    · split
      · exact cachesOnly_of_insert rfl
      · exact cachesOnly_of_eq rfl

theorem cachesOnly_removePending (result : EpisodeResult) (record : IdempotencyRecord)
    (expiresAt : Instant) :
    CachesOnly s (s.removePending clock req result record expiresAt).1 req key := by
  unfold removePending
  simp only
  split
  · split
    · exact cachesOnly_of_eq rfl
    · exact cachesOnly_of_insert rfl
  · split
    · exact cachesOnly_of_eq rfl
    · exact cachesOnly_of_insert rfl

theorem cachesOnly_of_advance {stage stage' : ReportStage}
    (taken : s.advance sha256Hex clock nowMs req stage = some (s', stage')) :
    CachesOnly s s' req key := by
  unfold advance at taken
  split at taken
  · obtain ⟨rfl, rfl⟩ := Prod.mk.inj (Option.some.inj taken)
    exact cachesOnly_begin
  · cases taken
    exact cachesOnly_of_eq rfl
  · split at taken <;> cases taken <;> exact cachesOnly_of_eq rfl
  · obtain ⟨rfl, rfl⟩ := Prod.mk.inj (Option.some.inj taken)
    exact cachesOnly_readPending _ _
  · obtain ⟨rfl, rfl⟩ := Prod.mk.inj (Option.some.inj taken)
    exact cachesOnly_removePending _ _ _
  · split at taken <;> cases taken <;> exact cachesOnly_of_insert rfl
  · cases taken
    exact cachesOnly_of_insert rfl
  all_goals cases taken
  all_goals exact cachesOnly_of_eq rfl

end Cache

theorem cached_of_run (fuel : Nat) (state : Reports × ReportStage)
    (cached : (run sha256Hex input fuel state).1.idempotencyCache[key]? = some record) :
    state.1.idempotencyCache[key]? = some record ∨ input.req.idempotencyKey = key := by
  induction fuel generalizing state with
  | zero => exact Or.inl cached
  | succ fuel ih =>
    unfold run at cached
    split at cached
    · exact Or.inl cached
    · next next taken =>
      rcases ih next cached with before | same
      · exact cachesOnly_of_advance taken record before
      · exact Or.inr same

/-- A key that the cache knows after a sequence of calls was known before it, or one of the calls
used it. -/
theorem cached_of_reportAll (inputs : List ReportInput)
    (cached : (s.reportAll sha256Hex inputs).idempotencyCache[key]? = some record) :
    s.idempotencyCache[key]? = some record ∨
      ∃ input ∈ inputs, input.req.idempotencyKey = key := by
  induction inputs generalizing s with
  | nil => exact Or.inl cached
  | cons input rest ih =>
    rcases ih cached with before | ⟨later, member, same⟩
    · rcases cached_of_run 3 (s, .arrived) before with known | same
      · exact Or.inl known
      · exact Or.inr ⟨input, List.mem_cons_self, same⟩
    · exact Or.inr ⟨later, List.mem_cons_of_mem _ member, same⟩

/-- After any sequence of calls that leaves the entry of a lease in place, a report of its worker
with its token and the current epoch is answered `ACCEPTED` if and only if it names a lease, a
token and an idempotency key, and the cache has no record under that key that is still live. -/
theorem lawful_report_accepted_iff (s : Reports) (memory : s.store = none)
    (earlier : List ReportInput) (input : ReportInput) {result : EpisodeResult}
    {entry : PendingResult} (carried : input.req.result = some result)
    (stored : (s.reportAll sha256Hex earlier).pendingResults[input.req.pendingKey result]? =
      some entry)
    (worker : input.req.workerId = entry.workerId)
    (token : input.req.dispatchToken = entry.dispatchToken)
    (epoch : input.req.serverEpoch = 0 ∨
      input.req.serverEpoch = (s.reportAll sha256Hex earlier).serverEpoch) :
    (∃ response, (s.reportAll sha256Hex earlier).answer sha256Hex input = some response ∧
      response.code = "ACCEPTED") ↔ (s.reportAll sha256Hex earlier).Passes input :=
  answer_accepted_iff ((reportAll_store earlier).trans memory) carried stored worker token epoch

/-- The entry of `lease-7-1`, which `w1` owns. -/
def ownedEntry : PendingResult :=
  { request := { episodeId := "ep-1", attemptId := 1 }, tx := 0, workerId := "w1"
    dispatchToken := [1], enqueueAt := 0, dispatchAt := 0, dispatchTs := .zero }

/-- A server without a store that waits for the result of `lease-7-1`. -/
def waiting : Reports :=
  { serverEpoch := 7, resultTtlSecs := 600, storeTtlSecs := 600, store := none
    pendingResults := (∅ : Map PendingKey PendingResult).insert ⟨"ep-1", 1, "lease-7-1"⟩ ownedEntry
    channels := [.pending] }

/-- A report on `lease-7-1` with the right token. -/
def reportUnder (idempotencyKey workerId : String) : ReportInput :=
  { clock := { instant := 0, unixSeconds := .zero }, nowMs := 0
    req :=
      { idempotencyKey, workerId, serverEpoch := 7
        result := some { episodeId := "ep-1", attemptId := 1 }
        dispatchLeaseId := "lease-7-1", dispatchToken := [1] } }

theorem lawful_report_accepted_after_rejected :
    ∃ response, (waiting.reportAll Sha256.sha256Hex [reportUnder "key-0" "w2"]).answer
      Sha256.sha256Hex (reportUnder "key-1" "w1") = some response ∧
        response.code = "ACCEPTED" := by
  have kept : ((waiting.reportAll Sha256.sha256Hex [reportUnder "key-0" "w2"]).pendingResults[
      (⟨"ep-1", 1, "lease-7-1"⟩ : PendingKey)]?).any (fun entry =>
        entry.workerId == "w1" && entry.dispatchToken == [1]) = true := by decide +kernel
  obtain ⟨entry, stored, same⟩ := (Option.any_eq_true _ _).mp kept
  rw [Bool.and_eq_true, beq_iff_eq, beq_iff_eq] at same
  refine (lawful_report_accepted_iff waiting rfl [reportUnder "key-0" "w2"]
    (reportUnder "key-1" "w1") rfl stored same.1.symm same.2.symm (Or.inr ?_)).mpr ?_
  · decide +kernel
  · refine ⟨by decide, by decide, by decide, ?_⟩
    intro record cached
    rcases cached_of_reportAll _ cached with known | ⟨earlier, member, same⟩
    · simp [waiting] at known
    · obtain rfl := List.mem_singleton.mp member
      exact absurd same (by decide)

/-- `w2` reports on the lease of `w1` and is rejected; the entry stays, but the report of `w1`
under the same idempotency key is answered with the rejection of `w2`. -/
theorem lawful_report_answered_by_rejection :
    ((waiting.reportAll Sha256.sha256Hex [reportUnder "key-0" "w2"]).pendingResults[
        (⟨"ep-1", 1, "lease-7-1"⟩ : PendingKey)]?).any (fun entry =>
          entry.workerId == "w1" && entry.dispatchToken == [1]) = true ∧
      (waiting.reportAll Sha256.sha256Hex [reportUnder "key-0" "w2"]).answer Sha256.sha256Hex
        (reportUnder "key-0" "w1") =
          some { ack := false, duplicate := true, code := "DUPLICATE_REJECTED"
                 message := "worker_id does not own this dispatch lease" } := by
  decide +kernel

end Reports

end UEnv.ControlPlane
