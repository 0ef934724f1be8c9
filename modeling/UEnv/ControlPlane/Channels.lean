import UEnv.ControlPlane.Leases

/-!
# The channel of a pending entry

Each entry is registered with a channel of its own, and nothing is sent on it and it is not closed
while its entry is in the table or held by a call that commits its result. So a receiver that has
got something knows that the entry of its dispatch is gone.
-/

namespace UEnv.ControlPlane

open Proto Wire Persistence Tables Scheduler Service Runs

namespace Reports

variable {sha256Hex : Bytes → String} {s s' : Reports} {req : ReportResultRequest}
  {stage stage' : ReportStage}

/-- What a segment does to the channels, along with what the call has of an entry before it. -/
inductive Speaks (s s' : Reports) (claim claim' : Claim) : Prop
  | silent (same : s'.channels = s.channels)
  | sends (key : PendingKey) (entry : PendingResult) (final : EpisodeResult)
      (accepted : claim' = .accepted key)
      (source : claim = .holds key entry ∧ s'.pendingResults = s.pendingResults ∨
        s.pendingResults[key]? = some entry ∧ s'.pendingResults = s.pendingResults.erase key)
      (sent : s'.channels = s.channels.modify entry.tx (Channel.send final))

theorem begin_channels (now : Instant) (nowMs : Millis) :
    (s.begin sha256Hex now nowMs req).1.channels = s.channels := by
  unfold begin
  simp only
  split
  · split <;> rfl
  · rfl

theorem readPending_channels (now : Instant) (result : EpisodeResult) (record : IdempotencyRecord) :
    (s.readPending now req result record).1.channels = s.channels := by
  unfold readPending
  simp only
  split
  · rfl
  · split
    · rfl
    · split <;> rfl

theorem removePending_speaks (clock : Clock) (result : EpisodeResult) (record : IdempotencyRecord)
    (expiresAt : Instant) :
    Speaks s (s.removePending clock req result record expiresAt).1 .nothing
      (s.removePending clock req result record expiresAt).2.claim := by
  unfold removePending
  simp only
  cases taken : (s.pendingResults[req.pendingKey result]?).filter fun entry =>
      entry.workerId == req.workerId && entry.dispatchToken == req.dispatchToken with
  | none =>
    simp only
    split <;> exact .silent rfl
  | some entry =>
    obtain ⟨present, _⟩ := Option.filter_eq_some_iff.mp taken
    simp only
    split
    · exact .silent rfl
    · exact .sends _ entry _ rfl (.inr ⟨present, rfl⟩) rfl

variable {nowMs : Millis}

theorem advance_speaks {clock : Clock}
    (taken : s.advance sha256Hex clock nowMs req stage = some (s', stage')) :
    Speaks s s' stage.claim stage'.claim := by
  unfold advance at taken
  split at taken
  · obtain ⟨rfl, rfl⟩ := Prod.mk.inj (Option.some.inj taken)
    exact .silent (begin_channels _ _)
  · cases taken
    exact .silent rfl
  · split at taken <;> cases taken <;> exact .silent rfl
  · obtain ⟨rfl, rfl⟩ := Prod.mk.inj (Option.some.inj taken)
    exact .silent (readPending_channels _ _ _)
  · obtain ⟨rfl, rfl⟩ := Prod.mk.inj (Option.some.inj taken)
    exact removePending_speaks _ _ _ _
  · split at taken <;> cases taken <;> exact .silent rfl
  · cases taken
    exact .sends _ _ _ rfl (.inl ⟨rfl, rfl⟩) rfl
  all_goals cases taken
  all_goals exact .silent rfl

theorem execute_channels {fault : Option String} {db : Db}
    (taken : s.execute sha256Hex nowMs fault db req stage = some (s', stage')) :
    s'.channels = s.channels := by
  unfold execute at taken
  repeat' split at taken
  all_goals cases taken
  all_goals rfl

theorem dropCall_channels (taken : s.dropCall stage = some s') :
    s'.channels = s.channels ∨ ∃ key entry, stage.claim = .holds key entry ∧
      s'.channels = s.channels.modify entry.tx Channel.close := by
  unfold dropCall at taken
  split at taken
  · cases taken
    exact .inl rfl
  · cases taken
    exact .inl rfl
  · cases taken
    exact .inl rfl
  · next final record expiresAt key entry reply =>
    cases taken
    exact .inr ⟨key, entry, rfl, rfl⟩
  · cases taken

end Reports

namespace Plane

/-- The channel of an entry that is in the table or held by a call is open, and no two entries were
registered with one channel. -/
structure Wired (w : Plane) : Prop where
  bound : ∀ (key : PendingKey) (entry : PendingResult), w.registered[key]? = some entry →
    entry.tx < w.reports.channels.length
  apart : ∀ (key key' : PendingKey) (entry entry' : PendingResult),
    w.registered[key]? = some entry → w.registered[key']? = some entry' → entry.tx = entry'.tx →
      key = key'
  open' : ∀ (key : PendingKey) (entry : PendingResult),
    w.reports.pendingResults[key]? = some entry → w.reports.channels[entry.tx]? = some .pending
  held : ∀ (t : Nat) (key : PendingKey) (entry : PendingResult), w.claim t = .holds key entry →
    w.reports.channels[entry.tx]? = some .pending

variable {sha256Hex : Bytes → String} {w w' : Plane}

theorem lookup_modify_of_ne {channels : List Channel} {i j : Nat} (f : Channel → Channel)
    (other : i ≠ j) : (channels.modify i f)[j]? = channels[j]? := by
  simp [other]

namespace Wired

section

variable (wired : w.Wired)
include wired

theorem same_channels (registered : w'.registered = w.registered)
    (channels : w'.reports.channels = w.reports.channels)
    (fewer : ∀ (key : PendingKey) (entry : PendingResult),
      w'.reports.pendingResults[key]? = some entry →
        w.reports.pendingResults[key]? = some entry ∨ ∃ t : Nat, w.claim t = .holds key entry)
    (claims : ∀ (t : Nat) (key : PendingKey) (entry : PendingResult),
      w'.claim t = .holds key entry →
        w.claim t = .holds key entry ∨ w.reports.pendingResults[key]? = some entry) : w'.Wired := by
  refine ⟨?_, ?_, ?_, ?_⟩
  · rw [registered, channels]
    exact wired.bound
  · rw [registered]
    exact wired.apart
  · intro key entry stored
    rw [channels]
    rcases fewer key entry stored with stored | ⟨t, held⟩
    · exact wired.open' key entry stored
    · exact wired.held t key entry held
  · intro t key entry held
    rw [channels]
    rcases claims t key entry held with held | stored
    · exact wired.held t key entry held
    · exact wired.open' key entry stored

/-- Something is done to the channel of an entry that no longer is in the table or held. -/
theorem modified (owned : w'.Owned) {key : PendingKey} {entry : PendingResult}
    {f : Channel → Channel} (known : w'.registered[key]? = some entry)
    (registered : w'.registered = w.registered)
    (channels : w'.reports.channels = w.reports.channels.modify entry.tx f)
    (gone : w'.reports.pendingResults[key]? = none)
    (dropped : ∀ (t : Nat) (entry : PendingResult), w'.claim t ≠ .holds key entry)
    (fewer : ∀ (key : PendingKey) (entry : PendingResult),
      w'.reports.pendingResults[key]? = some entry → w.reports.pendingResults[key]? = some entry)
    (claims : ∀ (t : Nat) (key : PendingKey) (entry : PendingResult),
      w'.claim t = .holds key entry → w.claim t = .holds key entry) : w'.Wired := by
  refine ⟨?_, ?_, ?_, ?_⟩
  · rw [registered, channels, List.length_modify]
    exact wired.bound
  · rw [registered]
    exact wired.apart
  · intro key' entry' stored
    have other : entry.tx ≠ entry'.tx := by
      intro same
      rw [registered] at known
      have known' := (owned.stored key' entry' stored).1
      rw [registered] at known'
      rw [wired.apart key key' entry entry' known known' same, stored] at gone
      cases gone
    rw [channels, lookup_modify_of_ne f other]
    exact wired.open' key' entry' (fewer key' entry' stored)
  · intro t key' entry' held
    have other : entry.tx ≠ entry'.tx := by
      intro same
      rw [registered] at known
      have known' := owned.held t key' entry' held
      rw [registered] at known'
      obtain rfl := wired.apart key key' entry entry' known known' same
      exact dropped t entry' held
    rw [channels, lookup_modify_of_ne f other]
    exact wired.held t key' entry' (claims t key' entry' held)

theorem register (owned : w.Owned) (key : PendingKey) {entry : PendingResult}
    (fresh : entry.tx = w.reports.channels.length) : (w.register key entry).Wired := by
  have old : ∀ {i : Nat}, i < w.reports.channels.length →
      (w.reports.channels ++ [Channel.pending])[i]? = w.reports.channels[i]? :=
    fun below => List.getElem?_append_left below
  refine ⟨?_, ?_, ?_, ?_⟩
  · intro key' entry' (registered : (w.registered.insert key entry)[key']? = some entry')
    show entry'.tx < (w.reports.channels ++ [Channel.pending]).length
    rw [List.length_append, List.length_singleton]
    rw [lookup_insert] at registered
    split at registered
    · cases registered
      omega
    · exact Nat.lt_succ_of_lt (wired.bound key' entry' registered)
  · intro key₁ key₂ entry₁ entry₂
    show (w.registered.insert key entry)[key₁]? = some entry₁ →
      (w.registered.insert key entry)[key₂]? = some entry₂ → _
    intro first second same
    rw [lookup_insert] at first second
    split at first <;> split at second
    · next here there => exact here.symm.trans there
    · cases first
      have below := wired.bound key₂ entry₂ second
      omega
    · cases second
      have below := wired.bound key₁ entry₁ first
      omega
    · exact wired.apart key₁ key₂ entry₁ entry₂ first second same
  · intro key' entry' (stored : (w.reports.pendingResults.insert key entry)[key']? = some entry')
    show (w.reports.channels ++ [Channel.pending])[entry'.tx]? = some .pending
    rw [lookup_insert] at stored
    split at stored
    · cases stored
      rw [fresh, List.getElem?_concat_length]
    · rw [old (wired.bound key' entry' (owned.stored key' entry' stored).1)]
      exact wired.open' key' entry' stored
  · intro t key' entry' held
    show (w.reports.channels ++ [Channel.pending])[entry'.tx]? = some .pending
    rw [old (wired.bound key' entry' (owned.held t key' entry' held))]
    exact wired.held t key' entry' held

theorem withdraw (owned : w.Owned) (key : PendingKey) (result : Option EpisodeResult) :
    (w.withdraw key result).Wired := by
  cases present : w.reports.pendingResults[key]? with
  | none =>
    have channels : (w.withdraw key result).reports.channels = w.reports.channels := by
      unfold Plane.withdraw
      simp only [present]
    refine wired.same_channels rfl channels ?_ fun _ _ _ held => .inl held
    intro key' entry' stored
    exact .inl (lookup_of_erase stored)
  | some entry =>
    have channels : (w.withdraw key result).reports.channels =
        w.reports.channels.modify entry.tx (result.elim Channel.close Channel.send) := by
      unfold Plane.withdraw
      simp only [present]
    refine wired.modified (owned.withdraw key result) (owned.stored key entry present).1 rfl
      channels ?_ ?_ ?_ fun _ _ _ held => held
    · show (w.reports.pendingResults.erase key)[key]? = none
      rw [lookup_erase, if_pos rfl]
    · intro t entry' (held : w.claim t = .holds key entry')
      exact (owned.stored key entry present).2 t (by rw [held]; rfl)
    · intro key' entry' stored
      exact lookup_of_erase stored

theorem moved {t : Nat} {call : ReportCall} {stage : ReportStage} {reports : Reports}
    (owned : w.Owned) (present : w.calls[t]? = some call)
    (owned' : { w with reports, calls := w.calls.insert t { call with stage } }.Owned)
    (move : Move call.req w.reports.pendingResults call.stage.claim stage.claim
      reports.pendingResults)
    (speaks : Reports.Speaks w.reports reports call.stage.claim stage.claim) :
    { w with reports, calls := w.calls.insert t { call with stage } }.Wired := by
  have claims := fun t' => claim_insert (w := w) t t' { call with stage } reports
  have mine : w.claim t = call.stage.claim := claim_of_call present
  generalize before : call.stage.claim = claim at move speaks
  generalize after : stage.claim = claim' at move speaks
  cases speaks with
  | silent same =>
    refine wired.same_channels rfl same ?_ ?_
    · intro key entry (stored : reports.pendingResults[key]? = some entry)
      generalize left : reports.pendingResults = pending at move
      rw [left] at stored
      cases move with
      | stay | accept => exact .inl stored
      | take | takeAccepted => exact .inl (lookup_of_erase stored)
      | putBack key' entry' =>
        rw [lookup_insert] at stored
        split at stored
        · next here =>
          cases stored
          rw [← here]
          exact .inr ⟨t, mine.trans before⟩
        · exact .inl stored
    · intro t' key entry held
      rw [claims] at held
      split at held
      · next here =>
        change stage.claim = _ at held
        rw [after] at held
        generalize reports.pendingResults = pending at move
        cases move with
        | stay =>
          rw [← here, mine, before]
          exact .inl held
        | take stored =>
          cases held
          exact .inr stored
        | takeAccepted | accept | putBack => cases held
      · exact .inl held
  | sends key entry final accepted source sent =>
    have known : w.registered[key]? = some entry := by
      rcases source with ⟨held, _⟩ | ⟨stored, _⟩
      · exact owned.held t key entry (mine.trans (before.trans held))
      · exact (owned.stored key entry stored).1
    have accepted' : { w with
        reports, calls := w.calls.insert t { call with stage } }.claim t = .accepted key := by
      rw [claims, if_pos rfl]
      exact after.trans accepted
    refine wired.modified owned' known rfl sent ?_ ?_ ?_ ?_
    · rw [Option.eq_none_iff_forall_ne_some]
      intro entry' stored
      exact (owned'.stored key entry' stored).2 t (by rw [accepted']; rfl)
    · intro t' entry' held
      obtain rfl := owned'.sole key t t' (by rw [accepted']; rfl) (by rw [held]; rfl)
      cases accepted'.symm.trans held
    · intro key' entry' (stored : reports.pendingResults[key']? = some entry')
      rcases source with ⟨_, same⟩ | ⟨_, same⟩
      · rw [same] at stored
        exact stored
      · rw [same] at stored
        exact lookup_of_erase stored
    · intro t' key' entry' held
      rw [claims] at held
      split at held
      · cases (after.trans accepted).symm.trans held
      · exact held

theorem ofCall (owned : w.Owned) {t : Nat}
    {segment : ReportResultRequest → ReportStage → Option (Reports × ReportStage)}
    (taken : w.ofCall t segment = some w') (owned' : w'.Owned)
    (move : ∀ (req : ReportResultRequest) (stage stage' : ReportStage) (reports : Reports),
      segment req stage = some (reports, stage') →
        Move req w.reports.pendingResults stage.claim stage'.claim reports.pendingResults ∧
          Reports.Speaks w.reports reports stage.claim stage'.claim) : w'.Wired := by
  unfold Plane.ofCall at taken
  split at taken
  · cases taken
  · next call present =>
    split at taken
    · cases taken
    · next reports stage ran =>
      cases taken
      obtain ⟨moves, speaks⟩ := move _ _ _ _ ran
      exact wired.moved owned present owned' moves speaks

theorem dropCall (owned : w.Owned) {t : Nat} (taken : w.dropCall t = some w') (owned' : w'.Owned) :
    w'.Wired := by
  unfold Plane.dropCall at taken
  split at taken
  · cases taken
  · next call present =>
    split at taken
    · cases taken
    · next reports dropped =>
      cases taken
      have mine : w.claim t = call.stage.claim := claim_of_call present
      have claims : ∀ t' : Nat, Plane.claim { w with
            reports, calls := w.calls.insert t { call with stage := .dropped }
            withdrawn := call.stage.claim.key.toList ++ w.withdrawn } t' =
          if t = t' then .nothing else w.claim t' :=
        fun t' => claim_insert (w := w) t t' { call with stage := .dropped } reports
      have still : ∀ (t' : Nat) (key : PendingKey) (entry : PendingResult), Plane.claim { w with
            reports, calls := w.calls.insert t { call with stage := .dropped }
            withdrawn := call.stage.claim.key.toList ++ w.withdrawn } t' = .holds key entry →
          t ≠ t' ∧ w.claim t' = .holds key entry := by
        intro t' key entry held
        rw [claims] at held
        split at held
        · cases held
        · next other => exact ⟨other, held⟩
      have pending : reports.pendingResults = w.reports.pendingResults :=
        (Reports.dropCall_frame dropped).2
      rcases Reports.dropCall_channels dropped with same | ⟨key, entry, held, closed⟩
      · refine wired.same_channels rfl same ?_ fun t' key entry held =>
          .inl (still t' key entry held).2
        intro key entry (stored : reports.pendingResults[key]? = some entry)
        rw [pending] at stored
        exact .inl stored
      · have held : w.claim t = .holds key entry := mine.trans held
        refine wired.modified owned' (owned.held t key entry held) rfl closed ?_ ?_ ?_
          fun t' key entry held => (still t' key entry held).2
        · show reports.pendingResults[key]? = none
          rw [pending, Option.eq_none_iff_forall_ne_some]
          intro entry' stored
          exact (owned.stored key entry' stored).2 t (by rw [held]; rfl)
        · intro t' entry' held'
          obtain ⟨other, held'⟩ := still t' key entry' held'
          exact other (owned.sole key t t' (by rw [held]; rfl) (by rw [held']; rfl))
        · intro key' entry' (stored : reports.pendingResults[key']? = some entry')
          rw [pending] at stored
          exact stored

theorem congr (registered : w'.registered = w.registered)
    (channels : w'.reports.channels = w.reports.channels)
    (pending : w'.reports.pendingResults = w.reports.pendingResults)
    (claims : ∀ t : Nat, w'.claim t = w.claim t) : w'.Wired := by
  refine wired.same_channels registered channels ?_ ?_
  · intro key entry stored
    rw [pending] at stored
    exact .inl stored
  · intro t key entry held
    rw [claims] at held
    exact .inl held

theorem dispatch (owned : w.Owned) (request : EpisodeRequest) (workerId : String)
    (dispatchToken : List UInt8) (enqueueAt dispatchAt : Instant) (dispatchTs : F64) :
    (w.dispatch request workerId dispatchToken enqueueAt dispatchAt dispatchTs).Wired := by
  have counted : { w with
      reports := { w.reports with nextLeaseSeq := w.reports.nextLeaseSeq + 1 } }.Wired :=
    ⟨wired.bound, wired.apart, wired.open', wired.held⟩
  exact counted.register
    { stored := owned.stored, sole := owned.sole, held := owned.held, owner := owned.owner
      kept := owned.kept
      spent := fun key entry registered seq lease =>
        Nat.lt_succ_of_lt (owned.spent key entry registered seq lease)
      later := owned.later } _ rfl

end

end Wired

theorem wired_step (owned : w.Owned) (wired : w.Wired) {label : Label}
    (taken : step sha256Hex w label = some w') : w'.Wired := by
  have owned' := owned_step owned taken
  cases label with
  | arrive t req =>
    unfold step at taken
    simp only at taken
    split at taken
    · cases taken
    · next absent =>
      cases taken
      refine wired.congr rfl rfl rfl ?_
      intro t'
      refine (claim_insert t t' _ w.reports).trans ?_
      split
      · next here =>
        unfold claim
        rw [← here, Std.ExtTreeMap.getElem?_eq_none absent]
        rfl
      · rfl
  | advance =>
    exact wired.ofCall owned taken owned' fun req stage stage' reports ran =>
      ⟨Reports.advance_move ran, Reports.advance_speaks ran⟩
  | execute =>
    unfold step at taken
    simp only at taken
    split at taken
    · cases taken
    · exact wired.ofCall owned taken owned' fun req stage stage' reports ran =>
        ⟨Reports.execute_move ran, .silent (Reports.execute_channels ran)⟩
  | dropCall t => exact wired.dropCall owned taken owned'
  | dispatch request workerId dispatchToken enqueueAt dispatchAt dispatchTs =>
    cases taken
    exact wired.dispatch owned request workerId dispatchToken enqueueAt dispatchAt dispatchTs
  | recover key =>
    unfold step at taken
    simp only [Plane.recover] at taken
    split at taken
    · cases taken
    · next entry found =>
      cases taken
      have others : { w with recoveries := w.recoveries.erase key }.Wired :=
        ⟨wired.bound, wired.apart, wired.open', wired.held⟩
      exact others.register
        { stored := owned.stored, sole := owned.sole, held := owned.held, owner := owned.owner
          kept := owned.kept, spent := owned.spent
          later := fun key' member' =>
            owned.later key' (Std.ExtTreeMap.mem_of_mem_erase member') } key rfl
  | withdraw key result =>
    cases taken
    exact wired.withdraw owned key result
  | rememberOutcome | rememberCancel | sweep =>
    cases taken
    exact wired.congr rfl rfl rfl fun _ => rfl
  | command =>
    unfold step at taken
    simp only at taken
    split at taken
    · cases taken
    · split at taken <;>
      · cases taken
        exact wired.congr rfl rfl rfl fun _ => rfl

theorem wired_of_init (initial : (system sha256Hex).init w) : w.Wired := by
  obtain ⟨calls, pending, registered, _, _⟩ := initial
  have nothing : ∀ t : Nat, w.claim t = .nothing := by
    intro t
    unfold claim
    rw [calls]
    rfl
  refine ⟨?_, ?_, ?_, ?_⟩
  · intro key entry stored
    rw [registered] at stored
    cases stored
  · intro key key' entry entry' stored
    rw [registered] at stored
    cases stored
  · intro key entry stored
    rw [pending] at stored
    cases stored
  · intro t key entry held
    rw [nothing] at held
    cases held

/-! ### Entries that only go -/

/-- From `w` to `w'` no entry has come into the table. -/
structure Lapse (w w' : Plane) : Prop where
  registered : w'.registered = w.registered
  fewer : ∀ (key : PendingKey) (entry : PendingResult),
    w'.reports.pendingResults[key]? = some entry → w.reports.pendingResults[key]? = some entry
  owned : w.Owned → w'.Owned
  wired : w.Owned → w.Wired → w'.Wired

theorem Lapse.refl (w : Plane) : Lapse w w := ⟨rfl, fun _ _ stored => stored, id, fun _ => id⟩

theorem Lapse.trans {w'' : Plane} (first : Lapse w w') (second : Lapse w' w'') : Lapse w w'' where
  registered := second.registered.trans first.registered
  fewer key entry stored := first.fewer key entry (second.fewer key entry stored)
  owned owned := second.owned (first.owned owned)
  wired owned wired := second.wired (first.owned owned) (first.wired owned wired)

theorem Lapse.withdraw (w : Plane) (key : PendingKey) (result : Option EpisodeResult) :
    Lapse w (w.withdraw key result) where
  registered := rfl
  fewer _ _ stored := lookup_of_erase stored
  owned owned := owned.withdraw key result
  wired owned wired := wired.withdraw owned key result

theorem Lapse.of_reports {reports : Reports} (epoch : reports.serverEpoch = w.reports.serverEpoch)
    (leases : reports.nextLeaseSeq = w.reports.nextLeaseSeq)
    (pending : reports.pendingResults = w.reports.pendingResults)
    (channels : reports.channels = w.reports.channels) : Lapse w { w with reports } where
  registered := rfl
  fewer key entry stored := by
    change reports.pendingResults[key]? = some entry at stored
    rw [← pending]
    exact stored
  owned owned := by
    refine ⟨?_, owned.sole, owned.held, owned.owner, ?_, ?_, ?_⟩
    · show ∀ key entry, reports.pendingResults[key]? = some entry → _
      rw [pending]
      exact owned.stored
    · show ∀ key entry, w.registered[key]? = some entry →
        _ ∨ reports.pendingResults[key]? = some entry ∨ _
      rw [pending]
      exact owned.kept
    · show ∀ key entry, _ → ∀ seq, _ = reports.leaseId seq → seq < reports.nextLeaseSeq
      intro key entry registered seq lease
      rw [leases]
      apply owned.spent key entry registered seq
      unfold Reports.leaseId at lease ⊢
      rw [lease, epoch]
    · intro key member
      refine ⟨(owned.later key member).1, ?_⟩
      intro seq
      show key.dispatchLeaseId ≠ reports.leaseId seq
      unfold Reports.leaseId
      rw [epoch]
      exact (owned.later key member).2 seq
  wired _ wired := wired.congr rfl channels pending fun _ => rfl

end Plane

/-! ### Entries that come back -/

/-- The key of the entry that a call puts back when it goes on. -/
def ReportStage.putsBack : ReportStage → Option PendingKey
  | .committing _ _ _ key _ (some (.error _)) => some key
  | _ => none

namespace Reports

variable {sha256Hex : Bytes → String} {s s' : Reports} {req : ReportResultRequest}
  {stage stage' : ReportStage}

theorem removePending_fewer (clock : Clock) (result : EpisodeResult) (record : IdempotencyRecord)
    (expiresAt : Instant) {key : PendingKey} {entry : PendingResult}
    (stored : (s.removePending clock req result record expiresAt).1.pendingResults[key]? =
      some entry) : s.pendingResults[key]? = some entry := by
  have move :
      Move req s.pendingResults .nothing (s.removePending clock req result record expiresAt).2.claim
      (s.removePending clock req result record expiresAt).1.pendingResults :=
    removePending_move clock result record expiresAt
  generalize (s.removePending clock req result record expiresAt).2.claim = claim at move
  generalize (s.removePending clock req result record expiresAt).1.pendingResults = pending
    at move stored
  cases move with
  | stay => exact stored
  | take | takeAccepted => exact lookup_of_erase stored

theorem begin_fewer (now : Instant) (nowMs : Millis) {key : PendingKey} {entry : PendingResult}
    (stored : (s.begin sha256Hex now nowMs req).1.pendingResults[key]? = some entry) :
    s.pendingResults[key]? = some entry := by
  unfold begin at stored
  simp only at stored
  split at stored
  · split at stored <;> exact stored
  · exact stored

theorem readPending_fewer (now : Instant) (result : EpisodeResult) (record : IdempotencyRecord)
    {key : PendingKey} {entry : PendingResult}
    (stored : (s.readPending now req result record).1.pendingResults[key]? = some entry) :
    s.pendingResults[key]? = some entry := by
  unfold readPending at stored
  simp only at stored
  split at stored
  · exact stored
  · split at stored
    · exact stored
    · split at stored <;> exact stored

variable {nowMs : Millis}

/-- The one segment that brings an entry into the table is that of a call whose commit failed. -/
theorem advance_fewer {clock : Clock}
    (taken : s.advance sha256Hex clock nowMs req stage = some (s', stage')) {key : PendingKey}
    {entry : PendingResult} (stored : s'.pendingResults[key]? = some entry) :
    s.pendingResults[key]? = some entry ∨ stage.putsBack = some key := by
  unfold advance at taken
  split at taken
  · obtain ⟨rfl, rfl⟩ := Prod.mk.inj (Option.some.inj taken)
    exact .inl (begin_fewer _ _ stored)
  · cases taken
    exact .inl stored
  · split at taken <;> cases taken <;> exact .inl stored
  · obtain ⟨rfl, rfl⟩ := Prod.mk.inj (Option.some.inj taken)
    exact .inl (readPending_fewer _ _ _ stored)
  · obtain ⟨rfl, rfl⟩ := Prod.mk.inj (Option.some.inj taken)
    exact .inl (removePending_fewer _ _ _ _ stored)
  · split at taken <;> cases taken <;> exact .inl stored
  · cases taken
    exact .inl stored
  · cases taken
    change (s.pendingResults.insert _ _)[key]? = some entry at stored
    rw [lookup_insert] at stored
    split at stored
    · next here => exact .inr (congrArg some here)
    · exact .inl stored
  all_goals cases taken
  all_goals exact .inl stored

theorem execute_pending {fault : Option String} {db : Db}
    (taken : s.execute sha256Hex nowMs fault db req stage = some (s', stage')) :
    s'.pendingResults = s.pendingResults := by
  unfold execute at taken
  repeat' split at taken
  all_goals cases taken
  all_goals rfl

end Reports

end UEnv.ControlPlane
