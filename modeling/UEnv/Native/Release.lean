import UEnv.ControlPlane.Channels
import UEnv.Native.Lock

/-!
# What a call leaves behind

A native call takes four things: the entries of its episode in `active_episodes` and
`active_episode_handles`, the pending entry of each attempt, and the worker lease of each attempt.
Guards give back the first two and the last; the pending entry is removed by hand at the end of an
attempt. Nothing of a call that is gone is left along the runs in which no call is dropped with
its pending entry in the table, and no report puts an entry back whose attempt is over.
-/

namespace UEnv.Native

open Proto Wire Persistence Tables Scheduler Service ControlPlane Runs LeasedScheduler

namespace NativeServer

/-- The attempt that registered the entry is still in progress. -/
def InProgress (s : NativeServer) (key : PendingKey) : Prop :=
  ∀ (t : Nat) (call : Call), s.calls[t]? = some call → key ∈ call.created →
    call.stage.attempt.map Attempt.key = some key

/-- No call is dropped whose pending entry is in the table, and a report whose commit failed puts
its entry back only while the attempt is in progress. -/
def Releasing (s : NativeServer) : Label → Prop
  | .dropCall t => ∀ call ∈ s.calls[t]?, ∀ attempt ∈ call.stage.attempt,
      s.plane.reports.pendingResults[attempt.key]? = none
  | .plane (.advance u _ _) => ∀ report ∈ s.plane.calls[u]?, ∀ key ∈ report.stage.putsBack,
      s.InProgress key
  | _ => True

instance (s : NativeServer) (key : PendingKey) : Decidable (s.InProgress key) :=
  decidableForallEntries s.calls fun _ (call : Call) => key ∈ call.created →
    call.stage.attempt.map Attempt.key = some key

instance decidableReleasing (s : NativeServer) : (label : Label) → Decidable (s.Releasing label)
  | .dropCall t => inferInstanceAs (Decidable (∀ call ∈ s.calls[t]?,
      ∀ attempt ∈ call.stage.attempt, s.plane.reports.pendingResults[attempt.key]? = none))
  | .plane (.advance u _ _) => inferInstanceAs (Decidable (∀ report ∈ s.plane.calls[u]?,
      ∀ key ∈ report.stage.putsBack, s.InProgress key))
  | .enter .. | .admission .. | .schedule .. | .prepared .. | .executeIntent .. | .intentDone _
  | .timeOut .. | .notice _ | .notified .. | .receive .. | .dispatched _ | .dispatchFailed ..
  | .wake _ | .cancelWait .. | .agentList .. | .agentClean _ | .agentReturn .. | .cancelEpisode ..
  | .plane (.arrive ..) | .plane (.execute ..) | .plane (.dropCall _) | .plane (.dispatch ..)
  | .plane (.recover _) | .plane (.withdraw ..) | .plane (.rememberOutcome ..)
  | .plane (.rememberCancel ..) | .plane (.sweep _) | .plane (.command ..) | .scheduler _ =>
    .isTrue trivial

/-- The attempts in progress on a worker. -/
def attemptsOn (s : NativeServer) (workerId : String) : Nat :=
  entryCount (fun call => call.stage.attempt.any fun attempt => attempt.workerId == workerId)
    s.calls

/-- What the tables hold of the calls: the entries are of running calls, and what an attempt holds
is held by an attempt in progress. -/
structure Kept (s : NativeServer) : Prop where
  owned : s.plane.Owned
  wired : s.plane.Wired
  accounted : s.leased.Accounted
  entries : ∀ (id : String) (entry : ActiveEpisode), s.activeEpisodes[id]? = some entry →
    ∃ call : Call, s.calls[entry.owner]? = some call ∧ call.Running ∧ call.req.episodeId = id
  handles : ∀ (id : String) (t : Nat), s.activeEpisodeHandles[id]? = some t →
    ∃ call : Call, s.calls[t]? = some call ∧ call.Running ∧ call.req.episodeId = id
  attempts : ∀ (t : Nat) (call : Call) (attempt : Attempt), s.calls[t]? = some call →
    call.stage.attempt = some attempt →
      attempt.key ∈ call.created ∧ attempt.lease ∈ call.leases ∧
        (∃ entry, s.plane.registered[attempt.key]? = some entry ∧ entry.tx = attempt.rx) ∧
          ∃ lease, s.leased.leases[attempt.lease]? = some lease ∧ lease.released = false ∧
            lease.assignment.workerId = attempt.workerId
  created : ∀ (t : Nat) (call : Call) (key : PendingKey), s.calls[t]? = some call →
    key ∈ call.created → (∃ entry, s.plane.registered[key]? = some entry) ∧
      ∀ entry, s.plane.reports.pendingResults[key]? = some entry →
        call.stage.attempt.map Attempt.key = some key
  leases : ∀ (t : Nat) (call : Call) (i : Nat), s.calls[t]? = some call → i ∈ call.leases →
    ∃ lease, s.leased.leases[i]? = some lease ∧
      (lease.released = false → call.stage.attempt.map Attempt.lease = some i)
  apart : ∀ (t t' : Nat) (call call' : Call) (i : Nat), s.calls[t]? = some call →
    s.calls[t']? = some call' → i ∈ call.leases → i ∈ call'.leases → t = t'
  counted : ∀ workerId : String, outstanding s.leased.leases workerId = s.attemptsOn workerId

/-! ### Releasing a lease -/

section Release

variable {s s' s₀ : NativeServer} {t : Nat} {call call' : Call} {attempt : Attempt}

theorem release_leases {i : Nat} {lease : WorkerLease} (found : s.leased.leases[i]? = some lease)
    (held : lease.released = false) :
    (s.release i).leased.leases = s.leased.leases.set i { lease with released := true } := by
  simp [release, LeasedScheduler.step, found, WorkerLease.release, held]

theorem release_accounted (accounted : s.leased.Accounted) (i : Nat) :
    (s.release i).leased.Accounted := by
  show ((s.leased.step (.release i)).getD s.leased).Accounted
  cases released : s.leased.step (.release i) with
  | none => exact accounted
  | some => exact accounted.step released

end Release

/-! ### The segment of a call -/

/-- In the middle of a segment of `call`: the calls are as before it, nothing has come into the
tables, and the lease and the entry of the attempt `ended` are given back. -/
structure Mid (s s₀ : NativeServer) (ended : Option Attempt) : Prop where
  calls : s₀.calls = s.calls
  handles : s₀.activeEpisodeHandles = s.activeEpisodeHandles
  entries : ∀ (id : String) (entry : ActiveEpisode), s₀.activeEpisodes[id]? = some entry →
    s.activeEpisodes[id]? = some entry
  plane : Plane.Lapse s.plane s₀.plane
  leased : s₀.leased = ended.elim s.leased fun attempt => (s.release attempt.lease).leased
  gone : ∀ attempt ∈ ended, s₀.plane.reports.pendingResults[attempt.key]? = none

/-- What a segment makes of its call: an attempt that is over has given back its lease and its
entry, and the tables have no entry of a call that is gone. -/
structure Turn (s s' : NativeServer) (t : Nat) (call call' : Call) : Prop where
  calls : s'.calls = s.calls.insert t call'
  created : call'.created = call.created
  leases : call'.leases = call.leases
  episode : call'.req.episodeId = call.req.episodeId
  plane : Plane.Lapse s.plane s'.plane
  attempt : (call'.stage.attempt = call.stage.attempt ∧ s'.leased = s.leased) ∨
    ∃ attempt, call.stage.attempt = some attempt ∧ call'.stage.attempt = none ∧
      s'.leased = (s.release attempt.lease).leased ∧
        s'.plane.reports.pendingResults[attempt.key]? = none
  entries : ∀ (id : String) (entry : ActiveEpisode), s'.activeEpisodes[id]? = some entry →
    (s.activeEpisodes[id]? = some entry ∨ entry.owner = t ∧ id = call.req.episodeId) ∧
      (call'.Running ∨ id ≠ call.req.episodeId)
  handles : ∀ (id : String) (u : Nat), s'.activeEpisodeHandles[id]? = some u →
    s.activeEpisodeHandles[id]? = some u ∧ (call'.Running ∨ id ≠ call.req.episodeId)

section Turns

variable {s s' s₀ : NativeServer} {t : Nat} {call call' : Call} {ended : Option Attempt}

theorem Mid.refl (s : NativeServer) : Mid s s none :=
  ⟨rfl, rfl, fun _ _ found => found, .refl _, rfl, fun _ member => by cases member⟩

theorem Mid.lapse {plane : Plane} (mid : Mid s s₀ ended) (lapse : Plane.Lapse s₀.plane plane) :
    Mid s { s₀ with plane } ended where
  calls := mid.calls
  handles := mid.handles
  entries := mid.entries
  plane := mid.plane.trans lapse
  leased := mid.leased
  gone attempt member := by
    have gone := mid.gone attempt member
    rw [Option.eq_none_iff_forall_ne_some] at gone ⊢
    intro entry stored
    exact gone entry (lapse.fewer _ _ stored)

theorem Mid.broadcast (mid : Mid s s₀ ended) (result : EpisodeResult) :
    Mid s (s₀.broadcast result) ended :=
  ⟨mid.calls, mid.handles, mid.entries, mid.plane, mid.leased, mid.gone⟩

theorem Mid.endAttempt {attempt : Attempt} (mid : Mid s s₀ none)
    (gone : s₀.plane.reports.pendingResults[attempt.key]? = none) (call : Call) :
    Mid s (s₀.endAttempt call attempt) (some attempt) where
  calls := mid.calls
  handles := mid.handles
  entries := by
    intro id entry found
    exact mid.entries id entry (lookup_of_erase found)
  plane := mid.plane
  leased := by
    have same : s₀.leased = s.leased := mid.leased
    show (s₀.leased.step (.release attempt.lease)).getD s₀.leased = _
    rw [same]
    rfl
  gone := by
    intro attempt' member
    cases member
    exact gone

theorem Mid.removed {attempt : Attempt} (mid : Mid s s₀ none) (call : Call) :
    Mid s ((s₀.removePending attempt.key).endAttempt call attempt) (some attempt) := by
  have lapsed : Mid s (s₀.removePending attempt.key) none := mid.lapse (.withdraw _ _ _)
  apply lapsed.endAttempt
  show (s₀.plane.reports.pendingResults.erase attempt.key)[attempt.key]? = none
  rw [lookup_erase, if_pos rfl]

theorem Mid.attempt (mid : Mid s s₀ ended) (at_stage : call.stage.attempt = ended)
    (spent : call'.stage.attempt = none) :
    (call'.stage.attempt = call.stage.attempt ∧ s₀.leased = s.leased) ∨
      ∃ attempt, call.stage.attempt = some attempt ∧ call'.stage.attempt = none ∧
        s₀.leased = (s.release attempt.lease).leased ∧
          s₀.plane.reports.pendingResults[attempt.key]? = none := by
  cases ended with
  | none => exact .inl ⟨spent.trans at_stage.symm, mid.leased⟩
  | some attempt => exact .inr ⟨attempt, at_stage, spent, mid.leased, mid.gone attempt rfl⟩

theorem Mid.exit {outcome : Except String EpisodeResult} (mid : Mid s s₀ ended)
    (at_stage : call.stage.attempt = ended) :
    Turn s (s₀.exit t call outcome) t call
      { call with stage := .returned outcome, listed := false } where
  calls := by
    rw [← mid.calls]
    rfl
  created := rfl
  leases := rfl
  episode := rfl
  plane := mid.plane
  attempt := mid.attempt at_stage rfl
  entries := by
    intro id entry (found : (s₀.activeEpisodes.erase call.req.episodeId)[id]? = some entry)
    refine ⟨.inl (mid.entries id entry (lookup_of_erase found)), .inr ?_⟩
    rintro rfl
    rw [lookup_erase, if_pos rfl] at found
    cases found
  handles := by
    intro id u (found : (s₀.activeEpisodeHandles.erase call.req.episodeId)[id]? = some u)
    rw [← mid.handles]
    refine ⟨lookup_of_erase found, .inr ?_⟩
    rintro rfl
    rw [lookup_erase, if_pos rfl] at found
    cases found

theorem Mid.resume (mid : Mid s s₀ ended) (running : call'.Running)
    (created : call'.created = call.created) (leases : call'.leases = call.leases)
    (episode : call'.req.episodeId = call.req.episodeId)
    (attempt : (call'.stage.attempt = call.stage.attempt ∧ s₀.leased = s.leased) ∨
      ∃ attempt, call.stage.attempt = some attempt ∧ call'.stage.attempt = none ∧
        s₀.leased = (s.release attempt.lease).leased ∧
          s₀.plane.reports.pendingResults[attempt.key]? = none) :
    Turn s (s₀.resume t call') t call call' where
  calls := by
    rw [← mid.calls]
    rfl
  created := created
  leases := leases
  episode := episode
  plane := mid.plane
  attempt := attempt
  entries id entry found := ⟨.inl (mid.entries id entry found), .inl running⟩
  handles id u found := ⟨mid.handles ▸ found, .inl running⟩

section

variable (kept : s.Kept)
include kept

theorem Kept.released_lease (found : s.calls[t]? = some call) {attempt : Attempt}
    (at_stage : call.stage.attempt = some attempt) :
    ∃ lease, s.leased.leases[attempt.lease]? = some lease ∧ lease.released = false ∧
      lease.assignment.workerId = attempt.workerId ∧ (s.release attempt.lease).leased.leases =
          s.leased.leases.set attempt.lease { lease with released := true } := by
  obtain ⟨_, _, _, lease, present, held, worker⟩ := kept.attempts t call attempt found at_stage
  exact ⟨lease, present, held, worker, release_leases present held⟩

theorem Kept.turn (found : s.calls[t]? = some call) (turn : Turn s s' t call call') : s'.Kept := by
  have lookup : ∀ t' : Nat, s'.calls[t']? = if t = t' then some call' else s.calls[t']? := by
    intro t'
    rw [turn.calls, lookup_insert]
  -- a lease that another call took is not touched
  have elsewhere : ∀ (t' : Nat) (other : Call) (i : Nat), t ≠ t' → s.calls[t']? = some other →
      i ∈ other.leases → s'.leased.leases[i]? = s.leased.leases[i]? := by
    intro t' other i away found' member
    rcases turn.attempt with ⟨_, same⟩ | ⟨attempt, at_stage, _, released, _⟩
    · rw [same]
    · obtain ⟨lease, _, _, _, leases⟩ := kept.released_lease found at_stage
      have taken := (kept.attempts t call attempt found at_stage).2.1
      rw [released, leases, List.getElem?_set_ne]
      rintro rfl
      exact away (kept.apart t t' call other _ found found' taken member)
  refine ⟨turn.plane.owned kept.owned, turn.plane.wired kept.owned kept.wired, ?_, ?_, ?_, ?_, ?_,
    ?_, ?_, ?_⟩
  · rcases turn.attempt with ⟨_, same⟩ | ⟨attempt, _, _, released, _⟩
    · rw [same]
      exact kept.accounted
    · rw [released]
      exact release_accounted kept.accounted _
  · intro id entry entered
    obtain ⟨source, runs⟩ := turn.entries id entry entered
    rw [lookup]
    rcases source with old | ⟨mine, rfl⟩
    · obtain ⟨owner, owns, running, episode⟩ := kept.entries id entry old
      by_cases here : t = entry.owner
      · rw [if_pos here]
        rw [← here, found] at owns
        cases owns
        rcases runs with runs | other
        · exact ⟨call', rfl, runs, turn.episode.trans episode⟩
        · exact absurd episode.symm other
      · rw [if_neg here]
        exact ⟨owner, owns, running, episode⟩
    · rw [if_pos mine.symm]
      rcases runs with runs | other
      · exact ⟨call', rfl, runs, turn.episode⟩
      · exact absurd rfl other
  · intro id u listed
    obtain ⟨old, runs⟩ := turn.handles id u listed
    obtain ⟨owner, owns, running, episode⟩ := kept.handles id u old
    rw [lookup]
    by_cases here : t = u
    · rw [if_pos here]
      rw [← here, found] at owns
      cases owns
      rcases runs with runs | other
      · exact ⟨call', rfl, runs, turn.episode.trans episode⟩
      · exact absurd episode.symm other
    · rw [if_neg here]
      exact ⟨owner, owns, running, episode⟩
  · intro t' other attempt found' at_stage
    rw [turn.plane.registered]
    rw [lookup] at found'
    split at found'
    · cases found'
      rcases turn.attempt with ⟨same, leased⟩ | ⟨_, _, spent, _⟩
      · rw [leased, turn.created, turn.leases]
        exact kept.attempts t call attempt found (same ▸ at_stage)
      · cases spent.symm.trans at_stage
    · next away =>
      have held := kept.attempts t' other attempt found' at_stage
      rw [elsewhere t' other attempt.lease away found' held.2.1]
      exact held
  · intro t' other key found' member
    rw [turn.plane.registered]
    rw [lookup] at found'
    split at found'
    · cases found'
      rw [turn.created] at member
      obtain ⟨registered, waits⟩ := kept.created t call key found member
      refine ⟨registered, ?_⟩
      intro entry stored
      have mine := waits entry (turn.plane.fewer key entry stored)
      rcases turn.attempt with ⟨same, _⟩ | ⟨attempt, at_stage, _, _, gone⟩
      · rw [same]
        exact mine
      · rw [at_stage] at mine
        cases mine
        cases gone.symm.trans stored
    · obtain ⟨registered, waits⟩ := kept.created t' other key found' member
      exact ⟨registered, fun entry stored => waits entry (turn.plane.fewer key entry stored)⟩
  · intro t' other i found' member
    rw [lookup] at found'
    split at found'
    · cases found'
      rw [turn.leases] at member
      obtain ⟨lease, present, holds⟩ := kept.leases t call i found member
      rcases turn.attempt with ⟨same, leased⟩ | ⟨attempt, at_stage, _, released, _⟩
      · rw [leased, same]
        exact ⟨lease, present, holds⟩
      · obtain ⟨mine, present', _, _, leases⟩ := kept.released_lease found at_stage
        rw [released, leases]
        by_cases here : attempt.lease = i
        · obtain ⟨bound, _⟩ := List.getElem?_eq_some_iff.mp present'
          rw [here] at bound ⊢
          exact ⟨_, List.getElem?_set_self bound, fun unreleased => by cases unreleased⟩
        · rw [List.getElem?_set_ne here]
          refine ⟨lease, present, ?_⟩
          intro unreleased
          have held := holds unreleased
          rw [at_stage] at held
          exact absurd (Option.some.inj held) here
    · next away =>
      rw [elsewhere t' other i away found' member]
      exact kept.leases t' other i found' member
  · have owner : ∀ (u : Nat) (c : Call) (i : Nat), s'.calls[u]? = some c → i ∈ c.leases →
        ∃ c₀ : Call, s.calls[u]? = some c₀ ∧ i ∈ c₀.leases := by
      intro u c i found' member
      rw [lookup] at found'
      split at found'
      · next here =>
        cases found'
        rw [turn.leases] at member
        exact ⟨call, here ▸ found, member⟩
      · exact ⟨c, found', member⟩
    intro t₁ t₂ c₁ c₂ i found₁ found₂ member₁ member₂
    obtain ⟨c₁', found₁', member₁'⟩ := owner t₁ c₁ i found₁ member₁
    obtain ⟨c₂', found₂', member₂'⟩ := owner t₂ c₂ i found₂ member₂
    exact kept.apart t₁ t₂ c₁' c₂' i found₁' found₂' member₁' member₂'
  · intro workerId
    have balance := kept.counted workerId
    have change := entryCount_insert s.calls
      (fun call => call.stage.attempt.any fun attempt => attempt.workerId == workerId) t call'
    rw [found, ← turn.calls] at change
    unfold attemptsOn at balance ⊢
    rw [Option.any_some] at change
    rcases turn.attempt with ⟨same, leased⟩ | ⟨attempt, at_stage, spent, released, _⟩
    · rw [leased, balance]
      rw [same] at change
      omega
    · obtain ⟨lease, present, held, worker, leases⟩ := kept.released_lease found at_stage
      have counts := outstanding_pos (List.mem_of_getElem? present) held
      rw [released, leases, outstanding_set_released present held, balance]
      rw [spent, at_stage, Option.any_some, Option.any_none, ← worker] at change
      by_cases mine : workerId = lease.assignment.workerId
      · rw [← mine, beq_self_eq_true] at change
        rw [← mine, balance] at counts
        rw [if_pos mine]
        simp only [Bool.toNat_true, Bool.toNat_false] at change
        omega
      · rw [beq_false_of_ne (Ne.symm mine)] at change
        rw [if_neg mine]
        simp only [Bool.toNat_false] at change
        omega

theorem Kept.join (fresh : s.calls[t]? = none) (calls : s'.calls = s.calls.insert t call)
    (created : call.created = []) (leases : call.leases = []) (spent : call.stage.attempt = none)
    (plane : s'.plane = s.plane) (leased : s'.leased = s.leased)
    (entries : ∀ (id : String) (entry : ActiveEpisode), s'.activeEpisodes[id]? = some entry →
      s.activeEpisodes[id]? = some entry ∨ entry.owner = t ∧ call.Running ∧ call.req.episodeId = id)
    (handles : ∀ (id : String) (u : Nat), s'.activeEpisodeHandles[id]? = some u →
      s.activeEpisodeHandles[id]? = some u ∨ u = t ∧ call.Running ∧ call.req.episodeId = id) :
    s'.Kept := by
  have lookup : ∀ t' : Nat, s'.calls[t']? = if t = t' then some call else s.calls[t']? := by
    intro t'
    rw [calls, lookup_insert]
  have away : ∀ {t' : Nat} {other : Call}, s.calls[t']? = some other →
      s'.calls[t']? = some other := by
    intro t' other found
    rw [lookup, if_neg]
    · exact found
    · rintro rfl
      cases fresh.symm.trans found
  refine ⟨?_, ?_, ?_, ?_, ?_, ?_, ?_, ?_, ?_, ?_⟩
  · rw [plane]
    exact kept.owned
  · rw [plane]
    exact kept.wired
  · rw [leased]
    exact kept.accounted
  · intro id entry entered
    rcases entries id entry entered with old | ⟨mine, running, episode⟩
    · obtain ⟨owner, owns, rest⟩ := kept.entries id entry old
      exact ⟨owner, away owns, rest⟩
    · refine ⟨call, ?_, running, episode⟩
      rw [lookup, if_pos mine.symm]
  · intro id u listed
    rcases handles id u listed with old | ⟨mine, running, episode⟩
    · obtain ⟨owner, owns, rest⟩ := kept.handles id u old
      exact ⟨owner, away owns, rest⟩
    · refine ⟨call, ?_, running, episode⟩
      rw [lookup, if_pos mine.symm]
  · intro t' other attempt found at_stage
    rw [plane, leased]
    rw [lookup] at found
    split at found
    · cases found
      cases spent.symm.trans at_stage
    · exact kept.attempts t' other attempt found at_stage
  · intro t' other key found member
    rw [plane]
    rw [lookup] at found
    split at found
    · cases found
      rw [created] at member
      cases member
    · exact kept.created t' other key found member
  · intro t' other i found member
    rw [leased]
    rw [lookup] at found
    split at found
    · cases found
      rw [leases] at member
      cases member
    · exact kept.leases t' other i found member
  · intro t₁ t₂ c₁ c₂ i found₁ found₂ member₁ member₂
    rw [lookup] at found₁ found₂
    split at found₁
    · cases found₁
      rw [leases] at member₁
      cases member₁
    · split at found₂
      · cases found₂
        rw [leases] at member₂
        cases member₂
      · exact kept.apart t₁ t₂ c₁ c₂ i found₁ found₂ member₁ member₂
  · intro workerId
    have balance := kept.counted workerId
    have change := entryCount_insert s.calls
      (fun call => call.stage.attempt.any fun attempt => attempt.workerId == workerId) t call
    rw [fresh, spent, ← calls] at change
    unfold attemptsOn at balance ⊢
    rw [leased, balance]
    exact change.symm

/-- The plane alone changes, and what comes into the table is of an attempt in progress. -/
theorem Kept.plane {plane : Plane} (registered : plane.registered = s.plane.registered)
    (owned : plane.Owned) (wired : plane.Wired)
    (fewer : ∀ (key : PendingKey) (entry : PendingResult),
      plane.reports.pendingResults[key]? = some entry →
        s.plane.reports.pendingResults[key]? = some entry ∨ s.InProgress key) :
    { s with plane }.Kept where
  owned := owned
  wired := wired
  accounted := kept.accounted
  entries := kept.entries
  handles := kept.handles
  attempts := by
    intro t call attempt found at_stage
    show _ ∧ _ ∧ (∃ entry, plane.registered[attempt.key]? = some entry ∧ _) ∧ _
    rw [registered]
    exact kept.attempts t call attempt found at_stage
  created := by
    intro t call key found member
    show (∃ entry, plane.registered[key]? = some entry) ∧ _
    rw [registered]
    obtain ⟨known, waits⟩ := kept.created t call key found member
    refine ⟨known, ?_⟩
    intro entry stored
    rcases fewer key entry stored with stored | progress
    · exact waits entry stored
    · exact progress t call found member
  leases := kept.leases
  apart := kept.apart
  counted := kept.counted

theorem Kept.lapse {plane : Plane} (lapse : Plane.Lapse s.plane plane) : { s with plane }.Kept :=
  kept.plane lapse.registered (lapse.owned kept.owned) (lapse.wired kept.owned kept.wired)
    fun key entry stored => .inl (lapse.fewer key entry stored)

theorem Kept.scheduler {leased : LeasedScheduler} (accounted : leased.Accounted)
    (leases : leased.leases = s.leased.leases) : { s with leased }.Kept where
  owned := kept.owned
  wired := kept.wired
  accounted := accounted
  entries := kept.entries
  handles := kept.handles
  attempts := by
    show ∀ t call attempt, _ → _ → _ ∧ _ ∧ _ ∧ ∃ lease, leased.leases[_]? = some lease ∧ _
    rw [leases]
    exact kept.attempts
  created := kept.created
  leases := by
    show ∀ t call i, _ → _ → ∃ lease, leased.leases[_]? = some lease ∧ _
    rw [leases]
    exact kept.leases
  apart := kept.apart
  counted := by
    show ∀ workerId, outstanding leased.leases workerId = _
    rw [leases]
    exact kept.counted

end

/-- What the beginning of an attempt makes of the state and of its call. -/
structure Begins (s s' : NativeServer) (t : Nat) (call call' : Call) (attempt : Attempt) :
    Prop where
  calls : s'.calls = s.calls.insert t call'
  at_stage : call'.stage.attempt = some attempt
  running : call'.Running
  created : call'.created = attempt.key :: call.created
  leases : call'.leases = attempt.lease :: call.leases
  episode : call'.req.episodeId = call.req.episodeId
  owned : s.plane.Owned → s'.plane.Owned
  wired : s.plane.Owned → s.plane.Wired → s'.plane.Wired
  registers : ∃ entry : PendingResult, entry.tx = attempt.rx ∧
    s'.plane.registered = s.plane.registered.insert attempt.key entry ∧
      s'.plane.reports.pendingResults = s.plane.reports.pendingResults.insert attempt.key entry
  fresh : attempt.key.dispatchLeaseId = s.plane.reports.leaseId s.plane.reports.nextLeaseSeq
  leased : s'.leased = s.leased
  lease : attempt.lease = s.leased.leases.length - 1
  entries : ∃ entry : ActiveEpisode, entry.owner = t ∧
    s'.activeEpisodes = s.activeEpisodes.insert call.req.episodeId entry
  handles : s'.activeEpisodeHandles = s.activeEpisodeHandles

theorem beginAttempt_begins (s : NativeServer) (t : Nat) (call : Call) (clock : Clock)
    (stamp : DispatchStamp) (assignment : WorkerAssignment) :
    ∃ (call' : Call) (attempt : Attempt), attempt.workerId = assignment.workerId ∧
      Begins s (s.beginAttempt t call clock stamp assignment) t call call' attempt := by
  let leaseId := s.plane.reports.leaseId s.plane.reports.nextLeaseSeq
  let attempt : Attempt :=
    { key := { episodeId := call.req.episodeId, attemptId := call.req.attemptId
               dispatchLeaseId := leaseId }
      rx := s.plane.reports.channels.length, lease := s.leased.leases.length - 1
      workerId := assignment.workerId, dispatchAt := clock.instant,
        dispatchTs := clock.unixSeconds }
  refine ⟨_, attempt, rfl, rfl, ?_, ?_, rfl, rfl, rfl, ?_, ?_, ⟨_, ?_, rfl, rfl⟩, rfl, rfl, rfl,
    ⟨_, ?_, rfl⟩, rfl⟩
  · show Stage.attempt (if _ then _ else _) = some attempt
    split <;> rfl
  · show Call.Running { call with stage := if _ then _ else _ }
    split <;> trivial
  · exact fun owned => owned.dispatch _ _ _ _ _ _
  · exact fun owned wired => wired.dispatch owned _ _ _ _ _ _
  · rfl
  · rfl

variable {clock : Clock} {assignment : WorkerAssignment} {stage : Stage} {label : Label}
  {sha256Hex : Bytes → String} {specs : AgentSpecs}

theorem reserve_leased {scheduler : RoundRobinScheduler}
    (reserved : s.leased.scheduler.reserve clock.instant call.req = .ok (assignment, scheduler)) :
    (s.leased.step (.reserve clock.instant call.req)).getD s.leased =
      { scheduler, leases := s.leased.leases ++ [WorkerLease.new assignment] } := by
  simp [LeasedScheduler.step, reserved]

theorem reserve_accounted (accounted : s.leased.Accounted) (now : Instant) (req : EpisodeRequest) :
    ((s.leased.step (.reserve now req)).getD s.leased).Accounted := by
  cases taken : s.leased.step (.reserve now req) with
  | none => exact accounted
  | some => exact accounted.step taken

theorem Kept.begins {attempt : Attempt} {leased : LeasedScheduler} (kept : s.Kept)
    (found : s.calls[t]? = some call) (idle : call.stage.attempt = none)
    (accounted : leased.Accounted)
    (leases : leased.leases = s.leased.leases ++ [WorkerLease.new assignment])
    (worker : attempt.workerId = assignment.workerId)
    (begins : Begins { s with leased } s' t call call' attempt) : s'.Kept := by
  have lookup : ∀ t' : Nat, s'.calls[t']? = if t = t' then some call' else s.calls[t']? := by
    intro t'
    rw [begins.calls, lookup_insert]
  obtain ⟨pending, wire, registered, stored⟩ := begins.registers
  change s'.plane.registered = s.plane.registered.insert attempt.key pending at registered
  change s'.plane.reports.pendingResults =
    s.plane.reports.pendingResults.insert attempt.key pending at stored
  have leases' : s'.leased.leases = s.leased.leases ++ [WorkerLease.new assignment] := by
    rw [begins.leased]
    exact leases
  have newest : attempt.lease = s.leased.leases.length := by
    rw [begins.lease]
    show leased.leases.length - 1 = _
    rw [leases, List.length_append, List.length_singleton, Nat.add_sub_cancel]
  -- no entry was registered under the new key, and no call took the new lease
  have fresh : s.plane.registered[attempt.key]? = none := by
    rw [Option.eq_none_iff_forall_ne_some]
    intro entry known
    exact absurd (kept.owned.spent _ entry known _ begins.fresh) (Nat.lt_irrefl _)
  have unborn : ∀ {u : Nat} {other : Call}, s.calls[u]? = some other →
      attempt.key ∉ other.created := by
    intro u other found' member
    obtain ⟨entry, known⟩ := (kept.created u other _ found' member).1
    cases fresh.symm.trans known
  have below : ∀ {u : Nat} {other : Call} {i : Nat}, s.calls[u]? = some other →
      i ∈ other.leases → i < s.leased.leases.length := by
    intro u other i found' member
    obtain ⟨lease, present, _⟩ := kept.leases u other i found' member
    exact (List.getElem?_eq_some_iff.mp present).1
  have older : ∀ {i : Nat}, i < s.leased.leases.length →
      s'.leased.leases[i]? = s.leased.leases[i]? := by
    intro i small
    rw [leases', List.getElem?_append_left small]
  have newLease : s'.leased.leases[attempt.lease]? = some (WorkerLease.new assignment) := by
    rw [leases', newest, List.getElem?_concat_length]
  refine ⟨begins.owned kept.owned, begins.wired kept.owned kept.wired, ?_, ?_, ?_, ?_, ?_, ?_, ?_,
    ?_⟩
  · rw [begins.leased]
    exact accounted
  · intro id entry entered
    obtain ⟨mine, owner, table⟩ := begins.entries
    rw [table, lookup_insert] at entered
    rw [lookup]
    split at entered
    · next here =>
      cases entered
      rw [if_pos owner.symm]
      exact ⟨call', rfl, begins.running, begins.episode.trans here⟩
    · obtain ⟨other, owns, running, episode⟩ := kept.entries id entry entered
      by_cases here : t = entry.owner
      · rw [← here, found] at owns
        cases owns
        rw [if_pos here]
        exact ⟨call', rfl, begins.running, begins.episode.trans episode⟩
      · rw [if_neg here]
        exact ⟨other, owns, running, episode⟩
  · intro id u listed
    rw [begins.handles] at listed
    obtain ⟨other, owns, running, episode⟩ := kept.handles id u listed
    rw [lookup]
    by_cases here : t = u
    · rw [← here, found] at owns
      cases owns
      rw [if_pos here]
      exact ⟨call', rfl, begins.running, begins.episode.trans episode⟩
    · rw [if_neg here]
      exact ⟨other, owns, running, episode⟩
  · intro u other attempt' found' at_stage
    rw [lookup] at found'
    split at found'
    · cases found'
      obtain rfl := Option.some.inj (begins.at_stage.symm.trans at_stage)
      refine ⟨?_, ?_, ⟨pending, ?_, wire⟩, WorkerLease.new assignment, newLease, rfl, worker.symm⟩
      · rw [begins.created]
        exact List.mem_cons_self
      · rw [begins.leases]
        exact List.mem_cons_self
      · rw [registered, lookup_insert, if_pos rfl]
    · obtain ⟨created, taken, ⟨entry, known, same⟩, held⟩ :=
        kept.attempts u other attempt' found' at_stage
      refine ⟨created, taken, ⟨entry, ?_, same⟩, ?_⟩
      · rw [registered, lookup_insert, if_neg]
        · exact known
        · rintro here
          exact unborn found' (here ▸ created)
      · rw [older (below found' taken)]
        exact held
  · intro u other key found' member
    rw [lookup] at found'
    split at found'
    · cases found'
      rw [registered, stored, lookup_insert, lookup_insert, begins.at_stage]
      rw [begins.created] at member
      by_cases here : attempt.key = key
      · rw [if_pos here]
        exact ⟨⟨pending, rfl⟩, fun _ _ => congrArg some here⟩
      · rw [if_neg here, if_neg here]
        have old := (List.mem_cons.mp member).resolve_left (Ne.symm here)
        obtain ⟨known, waits⟩ := kept.created t call key found old
        refine ⟨known, ?_⟩
        intro entry present
        have waiting := waits entry present
        rw [idle] at waiting
        cases waiting
    · obtain ⟨known, waits⟩ := kept.created u other key found' member
      have away : attempt.key ≠ key := by
        rintro rfl
        exact unborn found' member
      rw [registered, stored, lookup_insert, lookup_insert, if_neg away, if_neg away]
      exact ⟨known, waits⟩
  · intro u other i found' member
    rw [lookup] at found'
    split at found'
    · cases found'
      rw [begins.at_stage]
      rw [begins.leases] at member
      rcases List.mem_cons.mp member with rfl | old
      · exact ⟨_, newLease, fun _ => rfl⟩
      · rw [older (below found old)]
        obtain ⟨lease, present, holds⟩ := kept.leases t call i found old
        refine ⟨lease, present, ?_⟩
        intro unreleased
        have holding := holds unreleased
        rw [idle] at holding
        cases holding
    · rw [older (below found' member)]
      exact kept.leases u other i found' member
  · -- a lease that two calls took is an old one
    have source : ∀ {u : Nat} {c : Call} {i : Nat}, s'.calls[u]? = some c → i ∈ c.leases →
        (u = t ∧ i = s.leased.leases.length) ∨
          ∃ c₀ : Call, s.calls[u]? = some c₀ ∧ i ∈ c₀.leases := by
      intro u c i found' member
      rw [lookup] at found'
      split at found'
      · next here =>
        cases found'
        rw [begins.leases] at member
        rcases List.mem_cons.mp member with rfl | old
        · exact .inl ⟨here.symm, newest⟩
        · exact .inr ⟨call, here ▸ found, old⟩
      · exact .inr ⟨c, found', member⟩
    intro t₁ t₂ c₁ c₂ i found₁ found₂ member₁ member₂
    rcases source found₁ member₁ with ⟨here₁, new⟩ | ⟨c₁', found₁', member₁'⟩ <;>
      rcases source found₂ member₂ with ⟨here₂, new'⟩ | ⟨c₂', found₂', member₂'⟩
    · exact here₁.trans here₂.symm
    · exact absurd (below found₂' member₂') (by omega)
    · exact absurd (below found₁' member₁') (by omega)
    · exact kept.apart t₁ t₂ c₁' c₂' i found₁' found₂' member₁' member₂'
  · intro workerId
    have balance := kept.counted workerId
    have change := entryCount_insert s.calls
      (fun call => call.stage.attempt.any fun attempt => attempt.workerId == workerId) t call'
    rw [found] at change
    unfold attemptsOn at balance ⊢
    rw [begins.calls, leases', outstanding_append_new, balance]
    change entryCount _ (s.calls.insert t call') + _ = _ at change
    rw [Option.any_some, idle, begins.at_stage, Option.any_none, Option.any_some, worker] at change
    show _ = entryCount _ (s.calls.insert t call')
    by_cases mine : workerId = assignment.workerId
    · rw [← mine, beq_self_eq_true] at change
      rw [if_pos mine]
      simp only [Bool.toNat_true, Bool.toNat_false] at change
      omega
    · rw [beq_false_of_ne (Ne.symm mine)] at change
      rw [if_neg mine]
      simp only [Bool.toNat_false] at change
      omega

theorem Mid.stay (mid : Mid s s₀ none) (running : { call with stage }.Running)
    (same : stage.attempt = call.stage.attempt) :
    Turn s (s₀.resume t { call with stage }) t call { call with stage } :=
  mid.resume running rfl rfl rfl (.inl ⟨same, mid.leased⟩)

theorem Mid.exitCancelled (mid : Mid s s₀ ended) (at_stage : call.stage.attempt = ended) :
    ∃ call', Turn s (s₀.exitCancelled t call clock) t call call' := by
  have outcome : Plane.Lapse s₀.plane { s₀.plane with
      reports := s₀.plane.reports.rememberCancelOutcome clock.instant call.req.episodeId
        "LATE_AFTER_CANCEL" "episode cancelled" } := .of_reports rfl rfl rfl rfl
  exact ⟨_, ((mid.lapse outcome).broadcast _).exit at_stage⟩

theorem Mid.exitTimedOut {message : String} {timing : Option ResultTiming} (mid : Mid s s₀ ended)
    (at_stage : call.stage.attempt = ended) :
    ∃ call', Turn s (s₀.exitTimedOut t call clock message timing) t call call' :=
  ⟨_, (mid.broadcast _).exit at_stage⟩

theorem Mid.scheduleFailed {now : Instant} {error : ScheduleError}
    (idle : call.stage.attempt = none) :
    ∃ call', Turn s (s.scheduleFailed t call now error) t call call' := by
  unfold NativeServer.scheduleFailed
  split
  · exact ⟨_, (Mid.refl s).exit idle⟩
  · split
    · exact ⟨_, (Mid.refl s).exit idle⟩
    · exact ⟨_, (Mid.refl s).stay trivial idle.symm⟩

theorem Mid.retry {reason : String} {attempt : Attempt} (mid : Mid s s₀ (some attempt))
    (at_stage : call.stage.attempt = some attempt) :
    ∃ call', Turn s (s₀.retry t call reason) t call call' := by
  unfold NativeServer.retry
  simp only
  split
  · exact ⟨_, mid.resume trivial rfl rfl rfl (mid.attempt at_stage rfl)⟩
  · refine ⟨_, mid.resume ?_ rfl rfl rfl (mid.attempt at_stage ?_)⟩
    · split <;> trivial
    · show Stage.attempt (if _ then _ else _) = none
      split <;> rfl

theorem attempt_of_stage (at_stage : call.stage = stage) : call.stage.attempt = stage.attempt :=
  congrArg Stage.attempt at_stage

theorem attempt_of_either {attempt : Attempt}
    (at_stage : call.stage = .dispatching attempt ∨ call.stage = .waiting attempt) :
    call.stage.attempt = some attempt := by
  rcases at_stage with at_stage | at_stage
  · rw [at_stage]
    rfl
  · rw [at_stage]
    rfl

theorem agentEntry_turn (workerId : Option String) (at_stage : call.stage = .agent) :
    ∃ call', Turn s (s.agentEntry t call workerId) t call call' := by
  have running : call.Running := running_of at_stage trivial
  cases workerId with
  | none =>
    refine ⟨{ call with listed := false }, rfl, rfl, rfl, rfl, .refl _, .inl ⟨rfl, rfl⟩, ?_, ?_⟩
    · intro id entry found
      exact ⟨.inl (lookup_of_erase found), .inl running⟩
    · intro id u found
      exact ⟨found, .inl running⟩
  | some workerId =>
    refine ⟨{ call with listed := true }, rfl, rfl, rfl, rfl, .refl _, .inl ⟨rfl, rfl⟩, ?_, ?_⟩
    · intro id entry found
      change (s.activeEpisodes.insert call.req.episodeId _)[id]? = some entry at found
      rw [lookup_insert] at found
      split at found
      · next here =>
        cases found
        exact ⟨.inr ⟨rfl, here.symm⟩, .inl running⟩
      · exact ⟨.inl found, .inl running⟩
    · intro id u found
      exact ⟨found, .inl running⟩

/-- The guards of a call that is dropped give back its lease and the entries of its episode. -/
theorem dropCall_turn (gone : ∀ attempt, call.stage.attempt = some attempt →
      s.plane.reports.pendingResults[attempt.key]? = none) :
    Turn s (s.dropCall t call) t call { call with stage := .dropped, listed := false } := by
  let s₀ := (call.stage.attempt).elim s fun attempt => s.release attempt.lease
  have mid : Mid s s₀ call.stage.attempt := by
    cases at_stage : call.stage.attempt with
    | none =>
      simp only [s₀, at_stage]
      exact .refl s
    | some attempt =>
      simp only [s₀, at_stage]
      refine ⟨rfl, rfl, fun _ _ found => found, .refl _, rfl, ?_⟩
      intro attempt' member
      cases member
      exact gone attempt at_stage
  refine ⟨?_, rfl, rfl, rfl, mid.plane, mid.attempt rfl rfl, ?_, ?_⟩
  · rw [← mid.calls]
    rfl
  · intro id entry (found : (s₀.activeEpisodes.erase call.req.episodeId)[id]? = some entry)
    refine ⟨.inl (mid.entries id entry (lookup_of_erase found)), .inr ?_⟩
    rintro rfl
    rw [lookup_erase, if_pos rfl] at found
    cases found
  · intro id u (found : (s₀.activeEpisodeHandles.erase call.req.episodeId)[id]? = some u)
    rw [← mid.handles]
    refine ⟨lookup_of_erase found, .inr ?_⟩
    rintro rfl
    rw [lookup_erase, if_pos rfl] at found
    cases found

theorem Kept.gone_of_sent (kept : s.Kept) (found : s.calls[t]? = some call) {attempt : Attempt}
    {result : EpisodeResult} (at_stage : call.stage.attempt = some attempt)
    (sent : s.plane.reports.channels.getD attempt.rx .pending = .sent result) :
    s.plane.reports.pendingResults[attempt.key]? = none := by
  obtain ⟨_, _, ⟨entry, known, wire⟩, _⟩ := kept.attempts t call attempt found at_stage
  rw [Option.eq_none_iff_forall_ne_some]
  intro entry' stored
  have waits := kept.wired.open' _ _ stored
  cases known.symm.trans (kept.owned.stored _ _ stored).1
  rw [wire] at waits
  rw [List.getD_eq_getElem?_getD, waits] at sent
  cases sent

theorem segment_turn (kept : s.Kept) (releasing : s.Releasing label)
    (found : s.calls[t]? = some call) (segment : s.Segment t call label s') :
    (∃ call', Turn s s' t call call') ∨ s'.Kept := by
  cases segment with
  | begun assignment scheduler at_stage _ reserved =>
    have leased := reserve_leased reserved
    obtain ⟨call', attempt, worker, begins⟩ := beginAttempt_begins
      { s with leased := (s.leased.step (.reserve _ call.req)).getD s.leased } t call _ _ assignment
    refine .inr (kept.begins found (attempt_of_stage at_stage)
      (reserve_accounted kept.accounted _ _) ?_ worker begins)
    rw [leased]
  | started stage at_stage backend =>
    have idle : stage.attempt = call.stage.attempt := by
      rw [attempt_of_stage at_stage]
      rcases backend with rfl | rfl <;> rfl
    refine .inl ⟨_, (Mid.refl s).stay ?_ idle⟩
    rcases backend with rfl | rfl <;> trivial
  | queueCancelled at_stage _ =>
    exact .inl ((Mid.refl s).exitCancelled (attempt_of_stage at_stage))
  | queueTimedOut _ _ at_stage _ =>
    exact .inl ((Mid.refl s).exitTimedOut (attempt_of_stage at_stage))
  | queueClosed _ at_stage | exhausted _ at_stage _ | prepareFailed _ _ at_stage
  | agentReturned at_stage =>
    exact .inl ⟨_, (Mid.refl s).exit (attempt_of_stage at_stage)⟩
  | unmatched _ at_stage | prepareDone _ at_stage | intentDone _ _ at_stage
  | dispatched _ at_stage =>
    exact .inl ⟨_, (Mid.refl s).stay trivial (attempt_of_stage at_stage).symm⟩
  | unscheduled _ at_stage | prepareUseless _ at_stage =>
    exact .inl (Mid.scheduleFailed (attempt_of_stage at_stage))
  | intentFailed _ _ _ _ at_stage _ _ | intentStored _ _ _ _ at_stage _ _ =>
    refine .inl ⟨_, Mid.stay ?_ trivial (attempt_of_stage at_stage).symm⟩
    exact (Mid.refl s).lapse (.of_reports rfl rfl rfl rfl)
  | intentRefused attempt _ _ at_stage =>
    refine .inl ⟨_, Mid.exit ?_ (attempt_of_stage at_stage)⟩
    exact ((Mid.refl s).removed call).lapse (.of_reports rfl rfl rfl rfl)
  | timedOut attempt at_stage _ =>
    refine .inl (Mid.exitTimedOut ?_ (attempt_of_either at_stage))
    refine Mid.endAttempt ?_ ?_ call
    · exact ((Mid.refl s).lapse (.withdraw _ _ _)).lapse (.of_reports rfl rfl rfl rfl)
    · show (s.plane.reports.pendingResults.erase attempt.key)[attempt.key]? = none
      rw [lookup_erase, if_pos rfl]
  | noticed attempt at_stage _ =>
    exact .inl ⟨_, (Mid.refl s).stay trivial (attempt_of_either at_stage).symm⟩
  | notified _ at_stage =>
    exact .inl (((Mid.refl s).removed call).exitCancelled (attempt_of_stage at_stage))
  | received attempt _ at_stage sent =>
    have held := attempt_of_either at_stage
    have gone := kept.gone_of_sent found held sent
    exact .inl ⟨_, (((Mid.refl s).endAttempt gone call).broadcast _).exit held⟩
  | receiverClosed _ at_stage =>
    exact .inl (((Mid.refl s).removed call).exitCancelled (attempt_of_either at_stage))
  | channelLost _ at_stage =>
    exact .inl (((Mid.refl s).removed call).retry (attempt_of_either at_stage))
  | dispatchBroken _ _ at_stage =>
    exact .inl ⟨_, (((Mid.refl s).removed call).broadcast _).exit (attempt_of_stage at_stage)⟩
  | dispatchLost _ at_stage =>
    exact .inl (((Mid.refl s).removed call).retry (attempt_of_stage at_stage))
  | woken at_stage =>
    refine .inl ⟨_, (Mid.refl s).stay trivial ?_⟩
    rcases at_stage with at_stage | at_stage | at_stage <;>
      exact (attempt_of_stage at_stage).symm
  | sleepCancelled at_stage _ =>
    refine .inl ((Mid.refl s).exitCancelled ?_)
    rcases at_stage with at_stage | at_stage <;> exact attempt_of_stage at_stage
  | agentListed at_stage | agentCleaned at_stage => exact .inl (agentEntry_turn _ at_stage)
  | droppedAt => exact .inl ⟨_, dropCall_turn fun attempt => releasing call found attempt⟩

theorem Kept.segment (kept : s.Kept) (releasing : s.Releasing label)
    (found : s.calls[t]? = some call) (segment : s.Segment t call label s') : s'.Kept := by
  rcases segment_turn kept releasing found segment with ⟨call', turn⟩ | kept'
  · exact kept.turn found turn
  · exact kept'

theorem Kept.enter {uuid : Uuid} {request : EpisodeRequest} (kept : s.Kept)
    (fresh : s.calls[t]? = none) : (s.enter t uuid clock request).Kept := by
  unfold NativeServer.enter
  simp only
  split
  · exact kept.join fresh rfl rfl rfl rfl rfl rfl (fun _ _ found => .inl found)
      fun _ _ found => .inl found
  · next req _ =>
    split
    · exact kept.join fresh rfl rfl rfl rfl rfl rfl (fun _ _ found => .inl found)
        fun _ _ found => .inl found
    · refine kept.join fresh rfl rfl rfl rfl rfl rfl ?_ ?_
      · intro id entry found
        change (s.activeEpisodes.insert req.episodeId _)[id]? = some entry at found
        rw [lookup_insert] at found
        split at found
        · next here =>
          cases found
          exact .inr ⟨rfl, trivial, here⟩
        · exact .inl found
      · intro id u found
        change (s.activeEpisodeHandles.insert req.episodeId t)[id]? = some u at found
        rw [lookup_insert] at found
        split at found
        · next here =>
          cases found
          exact .inr ⟨rfl, trivial, here⟩
        · exact .inl found

theorem cancelTarget_found {episodeId : String} {attemptId : UInt32} {target : Nat × Call}
    (named : s.cancelTarget episodeId attemptId = some target) :
    s.calls[target.1]? = some target.2 ∧ s.activeEpisodeHandles[episodeId]? = some target.1 := by
  unfold cancelTarget at named
  split at named
  · cases named
  · next t listed =>
    split at named
    · cases named
    · next call found =>
      split at named
      · cases named
        exact ⟨found, listed⟩
      · cases named

theorem foldl_lapse (keys : List PendingKey) : ∀ s : NativeServer,
    keys.foldl (fun s key => s.removePending key) s =
        { s with plane := (keys.foldl (fun s key => s.removePending key) s).plane } ∧
      Plane.Lapse s.plane (keys.foldl (fun s key => s.removePending key) s).plane := by
  induction keys with
  | nil => exact fun s => ⟨rfl, .refl _⟩
  | cons key keys ih =>
    intro s
    obtain ⟨same, lapse⟩ := ih (s.removePending key)
    exact ⟨same, (Plane.Lapse.withdraw s.plane key none).trans lapse⟩

theorem Kept.cancelEpisode (kept : s.Kept) (now : Instant) (episodeId : String)
    (attemptId : UInt32) : (s.cancelEpisode now episodeId attemptId).Kept := by
  unfold NativeServer.cancelEpisode
  simp only
  generalize flagged : ((s.cancelTarget episodeId attemptId).elim s fun target =>
    s.resume target.1 { target.2 with cancelled := true }) = s₁
  have kept₁ : s₁.Kept := by
    subst flagged
    cases named : s.cancelTarget episodeId attemptId with
    | none => exact kept
    | some =>
      obtain ⟨found, listed⟩ := cancelTarget_found named
      obtain ⟨_, owns, running, _⟩ := kept.handles _ _ listed
      cases owns.symm.trans found
      exact kept.turn found ((Mid.refl s).resume running rfl rfl rfl (.inl ⟨rfl, rfl⟩))
  obtain ⟨same, lapse⟩ := foldl_lapse (s.cancelledKeys episodeId attemptId) s₁
  have kept₂ := kept₁.lapse lapse
  rw [← same] at kept₂
  split
  · exact kept₂.lapse (.of_reports rfl rfl rfl rfl)
  · exact kept₂

theorem external_fewer {w w' : Plane} {label : Plane.Label} (fits : external label = true)
    (taken : Plane.step sha256Hex w label = some w') :
    w'.registered = w.registered ∧ ∀ (key : PendingKey) (entry : PendingResult),
      w'.reports.pendingResults[key]? = some entry → w.reports.pendingResults[key]? = some entry ∨
          ∃ u clock nowMs report, label = .advance u clock nowMs ∧ w.calls[u]? = some report ∧
            report.stage.putsBack = some key := by
  cases label with
  | dispatch | recover | rememberCancel => cases fits
  | arrive =>
    unfold Plane.step at taken
    simp only at taken
    split at taken
    · cases taken
    · cases taken
      exact ⟨rfl, fun _ _ stored => .inl stored⟩
  | advance u clock nowMs =>
    unfold Plane.step at taken
    simp only [Plane.ofCall] at taken
    split at taken
    · cases taken
    · next report found =>
      split at taken
      · cases taken
      · next reports stage ran =>
        cases taken
        refine ⟨rfl, ?_⟩
        intro key entry stored
        rcases Reports.advance_fewer ran stored with old | puts
        · exact .inl old
        · exact .inr ⟨u, clock, nowMs, report, rfl, found, puts⟩
  | execute u nowMs fault =>
    unfold Plane.step at taken
    simp only [Plane.ofCall] at taken
    split at taken
    · cases taken
    · split at taken
      · cases taken
      · split at taken
        · cases taken
        · next reports stage ran =>
          cases taken
          refine ⟨rfl, ?_⟩
          intro key entry stored
          change reports.pendingResults[key]? = some entry at stored
          rw [Reports.execute_pending ran] at stored
          exact .inl stored
  | dropCall u =>
    unfold Plane.step at taken
    simp only [Plane.dropCall] at taken
    split at taken
    · cases taken
    · split at taken
      · cases taken
      · next reports dropped =>
        cases taken
        refine ⟨rfl, ?_⟩
        intro key entry stored
        change reports.pendingResults[key]? = some entry at stored
        rw [(Reports.dropCall_frame dropped).2] at stored
        exact .inl stored
  | withdraw =>
    cases taken
    exact ⟨rfl, fun _ _ stored => .inl (lookup_of_erase stored)⟩
  | rememberOutcome | sweep =>
    cases taken
    exact ⟨rfl, fun _ _ stored => .inl stored⟩
  | command =>
    unfold Plane.step at taken
    simp only at taken
    split at taken
    · cases taken
    · split at taken <;>
      · cases taken
        exact ⟨rfl, fun _ _ stored => .inl stored⟩

theorem scheduler_leases {op : SchedulerOp} {leased leased' : LeasedScheduler}
    (fits : ∀ now req, op ≠ .reserve now req) (keeps : ∀ lease, op ≠ .release lease)
    (taken : leased.step op = some leased') : leased'.leases = leased.leases := by
  cases op with
  | reserve now req => exact absurd rfl (fits now req)
  | release lease => exact absurd rfl (keeps lease)
  | registerWorker =>
    unfold LeasedScheduler.step at taken
    simp only at taken
    split at taken
    · cases taken
      rfl
    · cases taken
  | _ =>
    cases taken
    rfl

theorem kept_step (kept : s.Kept) (releasing : s.Releasing label)
    (taken : step specs sha256Hex s label = some s') : s'.Kept := by
  cases took_of_step taken with
  | enter fresh => exact kept.enter fresh
  | segment found segment => exact kept.segment releasing found segment
  | cancelEpisode => exact kept.cancelEpisode _ _ _
  | plane plane fits moved =>
    obtain ⟨registered, fewer⟩ := external_fewer fits moved
    refine kept.plane registered (Plane.owned_step kept.owned moved)
      (Plane.wired_step kept.owned kept.wired moved) ?_
    intro key entry stored
    rcases fewer key entry stored with old | ⟨u, clock, nowMs, report, rfl, found, puts⟩
    · exact .inl old
    · exact .inr (releasing report found key puts)
  | scheduler leased fits keeps moved =>
    exact kept.scheduler (kept.accounted.step moved) (scheduler_leases fits keeps moved)

theorem kept_along_releasing_runs (reached : ReachableWhen (system specs sha256Hex) Releasing s) :
    s.Kept := by
  refine reached.invariant (motive := Kept) ?_ fun s label t _ kept releasing taken =>
    kept_step kept releasing taken
  intro s initial
  have absent : ∀ {t : Nat} {call : Call}, s.calls[t]? ≠ some call := by
    intro t call found
    rw [initial.calls] at found
    cases found
  refine ⟨Plane.owned_of_reached (.start initial.plane), Plane.wired_of_init initial.plane,
    .of_reachable (.start initial.leased), ?_, ?_, ?_, ?_, ?_, ?_, ?_⟩
  · intro id entry entered
    rw [initial.active] at entered
    cases entered
  · intro id t listed
    rw [initial.handles] at listed
    cases listed
  · exact fun t call attempt found => absurd found absent
  · exact fun t call key found => absurd found absent
  · exact fun t call i found => absurd found absent
  · exact fun t t' call call' i found => absurd found absent
  · intro workerId
    obtain ⟨degraded, heartbeat, starts⟩ := initial.leased
    unfold attemptsOn
    rw [starts, initial.calls]
    rfl

theorem attempt_of_gone (gone : ¬ call.Running) : call.stage.attempt = none := by
  unfold Call.Running at gone
  split at gone
  · next at_stage => exact attempt_of_stage at_stage
  · next at_stage => exact attempt_of_stage at_stage
  · exact absurd trivial gone

/-- In a run in which no call is dropped whose pending entry is in the table and no report puts
back the entry of an attempt that is over, nothing of a call that is gone is left: no entry that it
made is in `active_episodes`, `active_episode_handles` or `pending_results`, its leases are
released, and the reserved load of each worker is the number of the attempts in progress on it. -/
theorem everything_released_along_releasing_runs {specs : AgentSpecs}
    {sha256Hex : Bytes → String} (reached : ReachableWhen (system specs sha256Hex) Releasing s) :
    (∀ (t : Nat) (call : Call), s.calls[t]? = some call → ¬ call.Running →
      (∀ (id : String) (entry : ActiveEpisode), s.activeEpisodes[id]? = some entry →
        entry.owner ≠ t) ∧
      (∀ id : String, s.activeEpisodeHandles[id]? ≠ some t) ∧
      (∀ key ∈ call.created, s.plane.reports.pendingResults[key]? = none) ∧
      ∀ i ∈ call.leases, ∃ lease, s.leased.leases[i]? = some lease ∧ lease.released = true) ∧
    ∀ w ∈ s.leased.scheduler.workers, w.reservedLoad.toNat = s.attemptsOn w.workerId := by
  have kept := kept_along_releasing_runs reached
  refine ⟨?_, ?_⟩
  · intro t call found gone
    have spent := attempt_of_gone gone
    refine ⟨?_, ?_, ?_, ?_⟩
    · rintro id entry entered rfl
      obtain ⟨owner, owns, running, _⟩ := kept.entries id entry entered
      cases found.symm.trans owns
      exact gone running
    · intro id listed
      obtain ⟨owner, owns, running, _⟩ := kept.handles id t listed
      cases found.symm.trans owns
      exact gone running
    · intro key member
      rw [Option.eq_none_iff_forall_ne_some]
      intro entry stored
      have waits := (kept.created t call key found member).2 entry stored
      rw [spent] at waits
      cases waits
    · intro i member
      obtain ⟨lease, present, holds⟩ := kept.leases t call i found member
      refine ⟨lease, present, ?_⟩
      by_contra unreleased
      have held := holds (Bool.not_eq_true _ ▸ unreleased)
      rw [spent] at held
      cases held
  · intro w member
    have balanced := kept.accounted.balanced w.workerId
    have found : s.leased.scheduler.worker? w.workerId = some w :=
      UEnv.Records.lookup_of_mem kept.accounted.unique member
    rw [kept.counted] at balanced
    simpa [reservedFor, found] using balanced

end Turns

/-- The worker of the first attempt of `ep-1` reports a result. -/
def workerReports : List Label :=
  [.dispatched 0, .plane (.arrive 0 (Plane.reportOf "key-0" "w1")),
    .plane (.advance 0 clockZero 0), .plane (.advance 0 clockZero 0),
    .plane (.advance 0 clockZero 0)]

theorem everything_released_after_result :
    ∃ (s : NativeServer) (call : Call), s.calls[0]? = some call ∧ ¬ call.Running ∧
      call.created ≠ [] ∧
      (∀ key ∈ call.created, s.plane.reports.pendingResults[key]? = none) ∧
      ∀ w ∈ s.leased.scheduler.workers, w.reservedLoad.toNat = s.attemptsOn w.workerId := by
  let sys := system nativeSpecs Sha256.sha256Hex
  let schedule := firstAttempt ++ workerReports ++ [.receive 0 clockZero]
  have along : sys.Along Releasing starting schedule := by decide +kernel
  have facts : (sys.exec starting schedule).any (fun s => (s.calls[0]?).any fun call =>
      decide (¬ call.Running) && !call.created.isEmpty) = true := by decide +kernel
  obtain ⟨s, ran, facts⟩ := (Option.any_eq_true _ _).mp facts
  obtain ⟨call, found, facts⟩ := (Option.any_eq_true _ _).mp facts
  rw [Bool.and_eq_true] at facts
  obtain ⟨gone, created⟩ := facts
  have gone : ¬ call.Running := of_decide_eq_true gone
  have reached : ReachableWhen sys Releasing s :=
    ReachableWhen.of_exec (.start initial_starting) schedule along ran
  have released := everything_released_along_releasing_runs reached
  refine ⟨s, call, found, gone, ?_, (released.1 0 call found gone).2.2.1, released.2⟩
  rintro empty
  rw [empty] at created
  cases created

/-- The client of `ep-1` goes away while the call waits for its worker: the call is gone, and the
pending entry that it made is still in the table. -/
theorem entry_left_by_dropped_call : ∃ (s : NativeServer) (call : Call) (key : PendingKey),
      Reachable (system nativeSpecs Sha256.sha256Hex) s ∧ s.calls[0]? = some call ∧
        ¬ call.Running ∧ key ∈ call.created ∧
          s.plane.reports.pendingResults.contains key = true := by
  let schedule := firstAttempt ++ [.dispatched 0, .dropCall 0]
  have facts : ((system nativeSpecs Sha256.sha256Hex).exec starting schedule).any (fun s =>
      (s.calls[0]?).any fun call => decide (¬ call.Running) && call.created.any fun key =>
        s.plane.reports.pendingResults.contains key) = true := by decide +kernel
  obtain ⟨s, ran, facts⟩ := (Option.any_eq_true _ _).mp facts
  obtain ⟨call, found, facts⟩ := (Option.any_eq_true _ _).mp facts
  rw [Bool.and_eq_true, List.any_eq_true] at facts
  obtain ⟨gone, key, member, stored⟩ := facts
  exact ⟨s, call, key, Reachable.of_exec initial_starting schedule ran, found,
    of_decide_eq_true gone, member, stored⟩

end NativeServer

end UEnv.Native
