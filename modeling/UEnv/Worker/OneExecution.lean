import UEnv.Worker.DispatchEpisode

/-!
# One execution of an attempt

The entry of an attempt in `active_leases` belongs to the dispatch that made it, until that
dispatch clears it. The exceptions are a second dispatch with the same lease, which the
registration lets through, a registration that leaves its lease behind, a call that is dropped
while its entries are in the tables, and an execution that panics.
-/

namespace UEnv.Worker

open Tables Runs

namespace DispatchPhase

/-- The dispatch has an entry in `active_leases`. -/
@[simp]
def Holds : DispatchPhase → Prop
  | registering fresh => fresh = true
  | permit _ | permitted _ | executing _ | streaming | persisting | reporting | completing
  | clearing _ _ => True
  | register | lookup | cleared _ _ | finished _ | dropped => False

/-- The dispatch is going to remove the entry in `active_cancellations`. -/
@[simp]
def Forgets : DispatchPhase → Prop
  | permit _ | permitted _ | executing _ | streaming | persisting | reporting | completing
  | clearing _ _ | cleared _ _ => True
  | register | lookup | registering _ | finished _ | dropped => False

def Executes : DispatchPhase → Prop
  | executing _ => True
  | _ => False

def InProgress : DispatchPhase → Prop
  | finished _ | dropped => False
  | _ => True

/-- The call has entries in the tables and has not returned. -/
def Exposed : DispatchPhase → Prop
  | registering fresh => fresh = true
  | permit _ | permitted _ => True
  | clearing spawned _ | cleared spawned _ => spawned = false
  | _ => False

instance : ∀ phase : DispatchPhase, Decidable phase.Exposed
  | registering fresh => inferInstanceAs (Decidable (fresh = true))
  | permit _ | permitted _ => .isTrue trivial
  | clearing spawned _ | cleared spawned _ => inferInstanceAs (Decidable (spawned = false))
  | lookup | register | executing _ | streaming | persisting | reporting | completing | finished _
  | dropped => .isFalse False.elim

instance : ∀ phase : DispatchPhase, Decidable phase.Executes
  | executing _ => .isTrue trivial
  | lookup | register | registering _ | permit _ | permitted _ | streaming | persisting | reporting
  | completing | clearing _ _ | cleared _ _ | finished _ | dropped => .isFalse False.elim

/-- The registration has entered a lease or found one. -/
def registers : DispatchPhase → Option Bool
  | registering fresh => some fresh
  | _ => none

variable {phase : DispatchPhase}

theorem Executes.holds (executes : phase.Executes) : phase.Holds := by
  cases phase <;> trivial

theorem Holds.inProgress (holds : phase.Holds) : phase.InProgress := by
  cases phase <;> trivial

theorem Forgets.inProgress (forgets : phase.Forgets) : phase.InProgress := by
  cases phase <;> trivial

end DispatchPhase

namespace WorkerService

variable (s : WorkerService)

/-- The dispatch `t` has the entry of `k` in `active_leases`. -/
def Holder (k : EpisodeKey) (t : Nat) : Prop :=
  ∃ call, s.calls[t]? = some call ∧ key call.episode = k ∧ call.phase.Holds

def Forgetter (k : EpisodeKey) (t : Nat) : Prop :=
  ∃ call, s.calls[t]? = some call ∧ key call.episode = k ∧ call.phase.Forgets

/-- The second section of a registration refuses the dispatch. -/
def conflicts (call : DispatchCall) : Bool :=
  (s.activeCancellations[key call.episode]?).any fun active =>
    active.dispatchLeaseId ≠ call.episode.dispatchLeaseId ∨
      active.dispatchToken ≠ call.episode.dispatchToken

/-- A registration is let through if and only if it has entered its lease, no execution panics, and
no call is dropped while its entries are in the tables. -/
def Orderly : ServiceLabel → Prop
  | .step t a => ∀ call ∈ s.calls[t]?,
    (∀ fresh ∈ call.phase.registers, s.conflicts call = !fresh) ∧
      ¬ (call.phase.Executes ∧ a.execution = .panicked)
  | .drop t => ∀ call ∈ s.calls[t]?, ¬ call.phase.Exposed
  | .dispatch .. | .cancel _ => True

/-- Every entry belongs to a dispatch, and an attempt has at most one lease. -/
structure Owned : Prop where
  sole : ∀ k t t', s.Holder k t → s.Holder k t' → t = t'
  lease : ∀ k, k ∈ s.activeLeases ↔ ∃ t, s.Holder k t
  cancellation : ∀ k ∈ s.activeCancellations, ∃ t, s.Forgetter k t

instance decidableOrderly : ∀ label, Decidable (s.Orderly label)
  | .step t a => inferInstanceAs (Decidable (∀ call ∈ s.calls[t]?,
    (∀ fresh ∈ call.phase.registers, s.conflicts call = !fresh) ∧
      ¬ (call.phase.Executes ∧ a.execution = .panicked)))
  | .drop t => inferInstanceAs (Decidable (∀ call ∈ s.calls[t]?, ¬ call.phase.Exposed))
  | .dispatch .. | .cancel _ => .isTrue trivial

end WorkerService

/-- At most one execution of an attempt is running, and an attempt without a dispatch in progress is
in neither table. -/
structure ExactlyOnce (s : WorkerService) : Prop where
  executions : ∀ (t t' : Nat) (call call' : DispatchCall), s.calls[t]? = some call →
    s.calls[t']? = some call' → key call.episode = key call'.episode →
    call.phase.Executes → call'.phase.Executes → t = t'
  idle : ∀ k, (∀ (t : Nat) (call : DispatchCall), s.calls[t]? = some call →
      key call.episode = k → ¬ call.phase.InProgress) →
    k ∉ s.activeLeases ∧ k ∉ s.activeCancellations

namespace WorkerService.Owned

open WorkerService

variable {s s' : WorkerService} {t : Nat} {call : DispatchCall} {phase : DispatchPhase}

theorem exactlyOnce (owned : s.Owned) : ExactlyOnce s where
  executions := by
    intro t t' call call' running running' same executes executes'
    exact owned.sole (key call'.episode) t t' ⟨call, running, same, executes.holds⟩
      ⟨call', running', rfl, executes'.holds⟩
  idle := by
    intro k quiet
    constructor
    · intro leased
      obtain ⟨t, call, running, same, holds⟩ := (owned.lease k).mp leased
      exact quiet t call running same holds.inProgress
    · intro registered
      obtain ⟨t, call, running, same, forgets⟩ := owned.cancellation k registered
      exact quiet t call running same forgets.inProgress

variable {new : DispatchCall} {spawned : Bool} {status : Option GrpcStatus} {token : Nat}

theorem holder_of_insert (calls : s'.calls = s.calls.insert t new) {k : EpisodeKey} {t' : Nat} :
    s'.Holder k t' ↔ if t = t' then key new.episode = k ∧ new.phase.Holds else s.Holder k t' := by
  by_cases same : t = t' <;> simp [Holder, calls, same]

theorem forgetter_of_insert (calls : s'.calls = s.calls.insert t new) {k : EpisodeKey} {t' : Nat} :
    s'.Forgetter k t' ↔
      if t = t' then key new.episode = k ∧ new.phase.Forgets else s.Forgetter k t' := by
  by_cases same : t = t' <;> simp [Forgetter, calls, same]

theorem pass (owned : s.Owned) (calls : s'.calls = s.calls.insert t new)
    (leases : s'.activeLeases = s.activeLeases)
    (holds : ∀ k, s.Holder k t ↔ key new.episode = k ∧ new.phase.Holds)
    (cancellations : ∀ k ∈ s'.activeCancellations, k ∈ s.activeCancellations ∨
      key new.episode = k ∧ new.phase.Forgets)
    (forgets : ∀ k ∈ s'.activeCancellations, s.Forgetter k t →
      key new.episode = k ∧ new.phase.Forgets) : s'.Owned := by
  have same : ∀ k t', s'.Holder k t' ↔ s.Holder k t' := by
    intro k t'
    rw [holder_of_insert calls]
    by_cases own : t = t'
    · subst own
      rw [if_pos rfl, holds]
    · rw [if_neg own]
  refine ⟨fun k t' t'' here there => ?_, fun k => ?_, fun k registered => ?_⟩
  · exact owned.sole k t' t'' ((same k t').mp here) ((same k t'').mp there)
  · simp only [leases, owned.lease, same]
  · rcases cancellations k registered with old | new
    · obtain ⟨t', forgetter⟩ := owned.cancellation k old
      by_cases own : t = t'
      · subst own
        exact ⟨t, (forgetter_of_insert calls).mpr
          (by rw [if_pos rfl]; exact forgets k registered forgetter)⟩
      · exact ⟨t', (forgetter_of_insert calls).mpr (by rwa [if_neg own])⟩
    · exact ⟨t, (forgetter_of_insert calls).mpr (by rwa [if_pos rfl])⟩

theorem holder_of_running (running : s.calls[t]? = some call) (k : EpisodeKey) :
    s.Holder k t ↔ key call.episode = k ∧ call.phase.Holds := by
  simp [Holder, running]

theorem forgetter_of_running (running : s.calls[t]? = some call) (k : EpisodeKey) :
    s.Forgetter k t ↔ key call.episode = k ∧ call.phase.Forgets := by
  simp [Forgetter, running]

section

variable (owned : s.Owned)
include owned

theorem goto (running : s.calls[t]? = some call)
    (calls : s'.calls = s.calls.insert t { call with phase })
    (leases : s'.activeLeases = s.activeLeases)
    (cancellations : s'.activeCancellations = s.activeCancellations)
    (holds : call.phase.Holds ↔ phase.Holds) (forgets : call.phase.Forgets → phase.Forgets) :
    s'.Owned := by
  apply owned.pass calls leases
  · intro k
    rw [holder_of_running running, holds]
  · exact fun k registered => Or.inl (cancellations ▸ registered)
  · intro k _ forgetter
    obtain ⟨same, before⟩ := (forgetter_of_running running k).mp forgetter
    exact ⟨same, forgets before⟩

theorem start (unknown : s.calls[t]? = none) (episode : Proto.EpisodeRequest) :
    { s with calls := s.calls.insert t { episode, phase := .lookup } }.Owned := by
  have nothing : ∀ k, ¬ s.Holder k t ∧ ¬ s.Forgetter k t := by
    intro k
    simp [Holder, Forgetter, unknown]
  refine owned.pass rfl rfl ?_ ?_ ?_
  · exact fun k => ⟨fun holder => absurd holder (nothing k).1, fun new => new.2.elim⟩
  · exact fun k registered => Or.inl registered
  · exact fun k _ forgetter => absurd forgetter (nothing k).2

section

variable (running : s.calls[t]? = some call)
include running

theorem enter (free : s.activeLeases[key call.episode]? = none) (forgets : ¬ call.phase.Forgets)
    (lease : String) (lock : Option Nat) : ({ s with
      activeLeases := s.activeLeases.insert (key call.episode) lease
      leasesLock := lock }.goto t call (.registering true)).Owned := by
  generalize after : { s with
    activeLeases := s.activeLeases.insert (key call.episode) lease
    leasesLock := lock }.goto t call (.registering true) = s'
  have calls : s'.calls = s.calls.insert t { call with phase := .registering true } := by
    rw [← after]
    rfl
  have leases : s'.activeLeases = s.activeLeases.insert (key call.episode) lease := by
    rw [← after]
    rfl
  have nobody : ∀ t', ¬ s.Holder (key call.episode) t' := by
    intro t' holder
    obtain ⟨_, known⟩ := (mem_iff_lookup _ _).mp ((owned.lease _).mpr ⟨t', holder⟩)
    rw [free] at known
    cases known
  refine ⟨?_, ?_, ?_⟩
  · intro k t' t'' here there
    rw [holder_of_insert calls] at here there
    by_cases own : t = t' <;> by_cases own' : t = t''
    · exact own.symm.trans own'
    · rw [if_pos own] at here
      rw [if_neg own'] at there
      exact absurd (here.1 ▸ there) (nobody t'')
    · rw [if_neg own] at here
      rw [if_pos own'] at there
      exact absurd (there.1 ▸ here) (nobody t')
    · rw [if_neg own] at here
      rw [if_neg own'] at there
      exact owned.sole k t' t'' here there
  · intro k
    rw [leases, mem_iff_lookup, lookup_insert]
    by_cases same : key call.episode = k
    · rw [if_pos same]
      refine ⟨fun _ => ⟨t, (holder_of_insert calls).mpr ?_⟩, fun _ => ⟨lease, rfl⟩⟩
      rw [if_pos rfl]
      exact ⟨same, rfl⟩
    · rw [if_neg same, ← mem_iff_lookup, owned.lease k]
      constructor
      · rintro ⟨t', holder⟩
        refine ⟨t', (holder_of_insert calls).mpr ?_⟩
        by_cases own : t = t'
        · subst own
          exact absurd ((holder_of_running running k).mp holder).1 same
        · rwa [if_neg own]
      · rintro ⟨t', holder⟩
        rw [holder_of_insert calls] at holder
        by_cases own : t = t'
        · rw [if_pos own] at holder
          exact absurd holder.1 same
        · rw [if_neg own] at holder
          exact ⟨t', holder⟩
  · intro k registered
    have registered : k ∈ s.activeCancellations := by
      rw [← after] at registered
      exact registered
    obtain ⟨t', forgetter⟩ := owned.cancellation k registered
    refine ⟨t', (forgetter_of_insert calls).mpr ?_⟩
    by_cases own : t = t'
    · subst own
      exact absurd ((forgetter_of_running running k).mp forgetter).2 forgets
    · rwa [if_neg own]

theorem clear (clearing : call.phase = .clearing spawned status) :
    ({ s with activeLeases := s.activeLeases.erase (key call.episode) }.goto t call
      (.cleared spawned status)).Owned := by
  generalize after : { s with activeLeases := s.activeLeases.erase (key call.episode) }.goto t call
    (.cleared spawned status) = s'
  have calls : s'.calls = s.calls.insert t { call with phase := .cleared spawned status } := by
    rw [← after]
    rfl
  have leases : s'.activeLeases = s.activeLeases.erase (key call.episode) := by
    rw [← after]
    rfl
  have mine : s.Holder (key call.episode) t :=
    (holder_of_running running _).mpr ⟨rfl, by rw [clearing]; trivial⟩
  have fewer : ∀ k t', s'.Holder k t' ↔ t ≠ t' ∧ s.Holder k t' := by
    intro k t'
    rw [holder_of_insert calls]
    by_cases own : t = t'
    · simp [own]
    · simp [own]
  refine ⟨?_, ?_, ?_⟩
  · intro k t' t'' here there
    exact owned.sole k t' t'' ((fewer k t').mp here).2 ((fewer k t'').mp there).2
  · intro k
    simp only [leases, mem_iff_lookup, lookup_erase, fewer]
    by_cases same : key call.episode = k
    · subst same
      simp only [if_true, reduceCtorEq, exists_false, false_iff, not_exists, not_and]
      exact fun t' other holder => other (owned.sole _ t t' mine holder)
    · rw [if_neg same, ← mem_iff_lookup, owned.lease k]
      constructor
      · rintro ⟨t', holder⟩
        refine ⟨t', ?_, holder⟩
        rintro rfl
        exact same ((holder_of_running running k).mp holder).1
      · exact fun ⟨t', _, holder⟩ => ⟨t', holder⟩
  · intro k registered
    have registered : k ∈ s.activeCancellations := by
      rw [← after] at registered
      exact registered
    obtain ⟨t', forgetter⟩ := owned.cancellation k registered
    refine ⟨t', (forgetter_of_insert calls).mpr ?_⟩
    by_cases own : t = t'
    · subst own
      rw [if_pos rfl]
      exact ⟨((forgetter_of_running running k).mp forgetter).1, trivial⟩
    · rwa [if_neg own]

theorem registered (ready : call.phase = .register) : (s.register t call).Owned := by
  rw [register]
  cases known : s.activeLeases[key call.episode]? with
  | none =>
    refine owned.enter running known ?_ _ _
    rw [ready]
    exact False.elim
  | some existing =>
    simp only []
    by_cases other : existing ≠ call.episode.dispatchLeaseId
    · rw [if_pos other]
      refine owned.goto running rfl rfl rfl ?_ ?_ <;> simp [ready]
    · rw [if_neg other]
      refine owned.goto running rfl rfl rfl ?_ ?_ <;> simp [ready]

theorem enrolled {fresh : Bool} (ready : call.phase = .registering fresh)
    (orderly : s.conflicts call = !fresh) : (s.enroll t call).Owned := by
  rw [enroll]
  rw [conflicts] at orderly
  have before : ∀ k, ¬ s.Forgetter k t := by
    intro k forgetter
    have forgets := ((forgetter_of_running running k).mp forgetter).2
    rw [ready] at forgets
    exact forgets
  cases known : s.activeCancellations[key call.episode]? with
  | none =>
    rw [known] at orderly
    obtain rfl : fresh = true := by simpa using orderly.symm
    simp only []
    refine owned.pass (t := t) rfl rfl ?_ ?_ ?_
    · intro k
      rw [holder_of_running running, ready]
      exact ⟨fun holder => ⟨holder.1, trivial⟩, fun holder => ⟨holder.1, rfl⟩⟩
    · intro k registered
      rw [WorkerService.goto, mem_iff_lookup, lookup_insert] at registered
      by_cases same : key call.episode = k
      · exact Or.inr ⟨same, trivial⟩
      · rw [if_neg same, ← mem_iff_lookup] at registered
        exact Or.inl registered
    · exact fun k _ forgetter => absurd forgetter (before k)
  | some active =>
    rw [known] at orderly
    simp only []
    by_cases refused : active.dispatchLeaseId ≠ call.episode.dispatchLeaseId ∨
        active.dispatchToken ≠ call.episode.dispatchToken
    · rw [Option.any_some, decide_eq_true refused] at orderly
      obtain rfl : fresh = false := by simpa using orderly.symm
      rw [if_pos refused]
      refine owned.goto running rfl rfl rfl ?_ ?_ <;>
        simp [ready]
    · rw [Option.any_some, decide_eq_false refused] at orderly
      obtain rfl : fresh = true := by simpa using orderly.symm
      rw [if_neg refused]
      refine owned.goto running rfl rfl rfl ?_ ?_ <;>
        simp [ready]

theorem forget (cleared : call.phase = .cleared spawned status) :
    ({ s with activeCancellations := s.activeCancellations.erase (key call.episode) }.goto t call
      (.finished status)).Owned := by
  have present : ∀ k ∈ s.activeCancellations.erase (key call.episode),
      key call.episode ≠ k ∧ k ∈ s.activeCancellations := by
    intro k registered
    rw [mem_iff_lookup, lookup_erase] at registered
    by_cases same : key call.episode = k
    · simp [same] at registered
    · rw [if_neg same, ← mem_iff_lookup] at registered
      exact ⟨same, registered⟩
  refine owned.pass (t := t) rfl rfl ?_ ?_ ?_
  · intro k
    rw [holder_of_running running, cleared]
    simp
  · exact fun k registered => Or.inl (present k registered).2
  · intro k registered forgetter
    exact absurd ((forgetter_of_running running k).mp forgetter).1 (present k registered).1

theorem carry (held : call.phase.Holds) (holds : phase.Holds) (forgets : phase.Forgets) :
    (s.goto t call phase).Owned :=
  owned.goto running rfl rfl rfl ⟨fun _ => holds, fun _ => held⟩ fun _ => forgets

theorem carried (held : call.phase.Holds)
    (taken : (if token ∈ s.cancelled then some (s.goto t call phase) else none) = some s')
    (holds : phase.Holds) (forgets : phase.Forgets) : s'.Owned := by
  obtain ⟨_, went⟩ := Option.ite_none_right_eq_some.mp taken
  cases went
  exact owned.carry running held holds forgets

theorem permitted (held : call.phase.Holds) {outcome : PermitOutcome}
    (taken : s.permit t call token outcome = some s') : s'.Owned := by
  cases outcome with
  | cancelled => exact owned.carried running held taken trivial trivial
  | _ =>
    cases taken
    exact owned.carry running held trivial trivial

theorem executed (held : call.phase.Holds) {outcome : ExecutionOutcome}
    (returned : outcome ≠ .panicked) (taken : s.execution t call token outcome = some s') :
    s'.Owned := by
  cases outcome with
  | panicked => exact absurd rfl returned
  | cancelled => exact owned.carried running held taken trivial trivial
  | _ =>
    cases taken
    exact owned.carry running held trivial trivial

theorem advanced {a : DispatchAnswer} (orderly : s.Orderly (.step t a))
    (taken : s.advance t call a = some s') : s'.Owned := by
  obtain ⟨orderly, returns⟩ := orderly call running
  rw [advance] at taken
  cases ready : call.phase with
  | lookup =>
    simp only [ready] at taken
    by_cases known : key call.episode ∈ s.completed
    · rw [if_pos known] at taken
      cases taken
      refine owned.goto running rfl rfl rfl ?_ ?_ <;>
        simp [ready]
    · rw [if_neg known] at taken
      cases taken
      refine owned.goto running rfl rfl rfl ?_ ?_ <;>
        simp [ready]
  | register =>
    simp only [ready] at taken
    by_cases unlocked : s.leasesLock = none
    · rw [if_pos unlocked] at taken
      cases taken
      exact owned.registered running ready
    · rw [if_neg unlocked] at taken
      cases taken
  | registering fresh =>
    simp only [ready] at taken
    cases taken
    exact owned.enrolled running ready (orderly fresh (by rw [ready]; rfl))
  | permit =>
    simp only [ready] at taken
    exact owned.permitted running (by rw [ready]; trivial) taken
  | permitted =>
    simp only [ready] at taken
    cases taken
    exact owned.carry running (by rw [ready]; trivial) trivial trivial
  | executing =>
    simp only [ready] at taken
    refine owned.executed running (by rw [ready]; trivial) ?_ taken
    exact fun panicked => returns ⟨by rw [ready]; trivial, panicked⟩
  | streaming | reporting =>
    simp only [ready] at taken
    cases taken
    exact owned.carry running (by rw [ready]; trivial) trivial trivial
  | persisting =>
    simp only [ready] at taken
    cases taken
    by_cases persisted : a.persisted = true
    · rw [if_pos persisted]
      exact owned.carry running (by rw [ready]; trivial) trivial trivial
    · rw [if_neg persisted]
      exact owned.carry running (by rw [ready]; trivial) trivial trivial
  | completing =>
    simp only [ready] at taken
    cases taken
    refine owned.goto running rfl rfl rfl ⟨fun _ => trivial, fun _ => ?_⟩ fun _ => trivial
    rw [ready]
    trivial
  | clearing =>
    simp only [ready] at taken
    by_cases unlocked : s.leasesLock = none
    · rw [if_pos unlocked] at taken
      cases taken
      exact owned.clear running ready
    · rw [if_neg unlocked] at taken
      cases taken
  | cleared =>
    simp only [ready] at taken
    cases taken
    exact owned.forget running ready
  | finished =>
    simp only [ready] at taken
    cases taken
  | dropped =>
    simp only [ready] at taken
    cases taken

theorem dropped (orderly : s.Orderly (.drop t)) (taken : s.drop t call = some s') : s'.Owned := by
  have hidden : ¬ call.phase.Exposed := orderly call running
  rw [drop] at taken
  cases ready : call.phase with
  | lookup | register =>
    simp only [ready] at taken
    cases taken
    refine owned.goto running rfl rfl rfl ?_ ?_ <;>
      simp [ready]
  | registering fresh =>
    rw [ready] at hidden
    obtain rfl : fresh = false := Bool.eq_false_iff.mpr hidden
    simp only [ready] at taken
    cases taken
    refine owned.goto running rfl rfl rfl ?_ ?_ <;>
      simp [ready]
  | permit _ | permitted _ =>
    rw [ready] at hidden
    exact absurd trivial hidden
  | clearing spawned status | cleared spawned status =>
    rw [ready] at hidden
    obtain rfl : spawned = true := by simpa [DispatchPhase.Exposed] using hidden
    simp only [ready] at taken
    cases taken
  | _ =>
    simp only [ready] at taken
    cases taken

end

theorem cancelled (req : CancelWorkerEpisodeRequest) : (s.cancelEpisode req).1.Owned := by
  rw [cancelEpisode]
  cases s.activeCancellations[(⟨req.episodeId, req.attemptId⟩ : EpisodeKey)]? with
  | none => exact owned
  | some active =>
    simp only []
    by_cases other : active.dispatchLeaseId ≠ req.dispatchLeaseId ∨
        active.dispatchToken ≠ req.dispatchToken
    · rw [if_pos other]
      exact owned
    · rw [if_neg other]
      exact ⟨owned.sole, owned.lease, owned.cancellation⟩

end

end WorkerService.Owned

theorem owned_of_reached {policy : DisconnectDispatchPolicy} {s : WorkerService}
    (reached : ReachableWhen (workerService policy) WorkerService.Orderly s) : s.Owned := by
  refine reached.invariant (motive := WorkerService.Owned) ?_ ?_
  · rintro s rfl
    refine ⟨?_, ?_, ?_⟩
    · rintro k t t' ⟨call, running, _⟩
      simp at running
    · intro k
      simp [WorkerService.Holder]
    · intro k registered
      simp at registered
  · intro s label s' _ owned orderly taken
    cases label with
    | dispatch t req connected now =>
      rw [workerService] at taken
      simp only at taken
      cases checked : req.check policy connected now with
      | error =>
        rw [checked] at taken
        exact Option.some.inj taken ▸ owned
      | ok episode =>
        rw [checked] at taken
        cases known : s.calls[t]? with
        | none =>
          have unknown : s.calls.contains t = false := by
            rw [Bool.eq_false_iff, ne_eq, contains_iff_lookup, known]
            simp
          simp only [unknown] at taken
          exact Option.some.inj taken ▸ owned.start known episode
        | some call =>
          have used : s.calls.contains t = true := (contains_iff_lookup _ t).mpr ⟨call, known⟩
          simp [used] at taken
    | step =>
      obtain ⟨call, running, taken⟩ := Option.bind_eq_some_iff.mp taken
      exact owned.advanced running orderly taken
    | drop t =>
      obtain ⟨call, running, taken⟩ := Option.bind_eq_some_iff.mp taken
      exact owned.dropped running orderly taken
    | cancel req =>
      cases taken
      exact owned.cancelled req

/-- Dispatch is exactly-once in every run in which a registration is let through if and only if it
has entered its lease, no execution panics, and no call is dropped while its entries are in the
tables. -/
theorem dispatch_exactly_once (policy : DisconnectDispatchPolicy) {s : WorkerService}
    (reached : ReachableWhen (workerService policy) WorkerService.Orderly s) : ExactlyOnce s :=
  (owned_of_reached reached).exactlyOnce

def leasedEpisode : Proto.EpisodeRequest :=
  { episodeId := "e1", attemptId := 1, dispatchLeaseId := "l1", dispatchToken := [7] }

/-- A dispatch up to its execution. -/
def dispatched (t : Nat) : List ServiceLabel :=
  .dispatch t ⟨some leasedEpisode⟩ true 0 :: List.replicate 5 (.step t {})

/-- The execution is cancelled, and the dispatch clears its entries. -/
def cancelledExecution (t : Nat) : List ServiceLabel :=
  [.cancel ⟨"e1", 1, "l1", [7]⟩, .step t { execution := .cancelled }, .step t {}, .step t {}]

theorem dispatch_exactly_once_after_cancellation : ∃ s : WorkerService,
    (s.calls[1]?).any (fun call => call.phase.Executes) = true ∧ 0 ∈ s.cancelled ∧
      ExactlyOnce s := by
  have facts : ((workerService .reject).exec {}
      (dispatched 0 ++ cancelledExecution 0 ++ dispatched 1)).any (fun s =>
      (s.calls[1]?).any (fun call => call.phase.Executes) && decide (0 ∈ s.cancelled)) = true := by
    decide +kernel
  obtain ⟨s, ran, facts⟩ := (Option.any_eq_true _ _).mp facts
  obtain ⟨executing, cancelled⟩ := Bool.and_eq_true_iff.mp facts
  have reached : ReachableWhen (workerService .reject) WorkerService.Orderly s :=
    ReachableWhen.of_exec (.start rfl) _ (by decide +kernel) ran
  exact ⟨s, executing, of_decide_eq_true cancelled, dispatch_exactly_once .reject reached⟩

/-- A second dispatch with the same lease and token executes next to the first. -/
theorem second_execution_of_same_lease :
    ¬ ∀ (policy : DisconnectDispatchPolicy) (s : WorkerService),
      Reachable (workerService policy) s → ExactlyOnce s := by
  intro always
  have facts : ((workerService .reject).exec {} (dispatched 0 ++ dispatched 1)).any (fun s =>
      (s.calls[0]?).any (fun call => key call.episode = ⟨"e1", 1⟩ && call.phase.Executes) &&
      (s.calls[1]?).any (fun call => key call.episode = ⟨"e1", 1⟩ && call.phase.Executes)) =
        true := by decide +kernel
  obtain ⟨s, ran, facts⟩ := (Option.any_eq_true _ _).mp facts
  obtain ⟨first, second⟩ := Bool.and_eq_true_iff.mp facts
  obtain ⟨call, running, facts⟩ := (Option.any_eq_true _ _).mp first
  obtain ⟨call', running', facts'⟩ := (Option.any_eq_true _ _).mp second
  simp only [Bool.and_eq_true, decide_eq_true_eq] at facts facts'
  have once := always .reject s (Reachable.of_exec rfl _ ran)
  have same := once.executions 0 1 call call' running running' (facts.1.trans facts'.1.symm)
    facts.2 facts'.2
  exact absurd same (by decide)

end UEnv.Worker
