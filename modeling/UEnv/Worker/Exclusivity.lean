import UEnv.Worker.WarmLeases

/-!
# Exclusive leases of the warm pool

`Held` along every run, and what it says of the outstanding leases. An eviction collects idle
instances under the lock and destroys them after dropping it, so an acquire in between can lease an
instance that the eviction then closes.
-/

namespace UEnv.Worker

open Tables Runs

/-! ### Runs -/

/-- The instance that an acquire is about to take. -/
def Task.claims : Task → Option String
  | take _ id => some id
  | _ => none

/-- No acquire takes an instance that was closed or that a running eviction has collected. -/
def Unclaimed (w : PoolWorld) : PoolLabel → Prop
  | .step t _ => ∀ id ∈ (w.tasks[t]?).bind Task.claims, id ∉ w.closed ∧ ¬ w.Victim id
  | .call _ _ => True

instance (w : PoolWorld) (id : String) : Decidable (w.Victim id) :=
  decidable_of_iff (¬ ∀ (t : Nat) (task : Task), w.tasks[t]? = some task → id ∉ task.victims) <| by
    simp [PoolWorld.Victim]

instance decidableUnclaimed (w : PoolWorld) : ∀ label : PoolLabel, Decidable (Unclaimed w label)
  | .call _ _ => .isTrue trivial
  | .step t _ => inferInstanceAs
    (Decidable (∀ id ∈ (w.tasks[t]?).bind Task.claims, id ∉ w.closed ∧ ¬ w.Victim id))

theorem Held.start {w : PoolWorld} : w = {} → Held w := by
  rintro rfl
  have nowhere : ∀ h stage id, ¬ PoolWorld.At {} h stage id := by
    intro h stage id there
    cases h <;> simp [PoolWorld.At, PoolState.queue] at there
  refine ⟨?_, ?_, ?_, ?_, ?_⟩
  · exact fun h _ stage _ id there _ => absurd there (nowhere h stage id)
  · simp [PoolState.queue]
  · exact fun h stage id there => absurd there (nowhere h stage id)
  · rintro id (⟨h, stage, there⟩ | shut | busy | ⟨t, task, running, _⟩)
    · exact absurd there (nowhere h stage id)
    · simp at shut
    · simp at busy
    · simp at running
  · intro t task running
    simp at running

variable {w' : PoolWorld} {t : Nat} {cfg : WarmupPoolConfig}

theorem Held.called {w : PoolWorld} {call : PoolCall} (held : Held w)
    (called : w.start t call = some w') : Held w' := by
  cases call with
  | prewarm =>
    cases called
    exact held.drop rfl rfl rfl trivial
  | acquire =>
    cases called
    exact held.drop rfl rfl rfl trivial
  | release =>
    obtain ⟨lease, lent, rfl⟩ := Option.map_eq_some_iff.mp called
    exact held.submit lent

theorem Held.advance {w : PoolWorld} (held : Held w) {old new : Task}
    (running : w.tasks[t]? = some old) (owned : new.owned = old.owned)
    (taken : new.taken = old.taken) (victims : new.victims = old.victims) (marked : new.Marked w) :
    Held (w.goto t new) := by
  refine held.pass running ?_ (by simp [victims]) marked
  intro slot st id now
  refine ⟨st, ?_, fun good => good⟩
  cases slot with
  | owned => exact owned.symm.trans now
  | taken => exact (congrArg (Option.map WarmLease.held) taken).symm.trans now

theorem Held.released {w : PoolWorld} {lease : WarmLease} (held : Held w)
    (running : w.tasks[t]? = some (.release lease)) (now : Nat) :
    Held (w.release cfg t lease now) := by
  have good := held.good _ _ _ (PoolWorld.at_taken running rfl)
  rw [PoolWorld.release, if_neg (not_not_intro good.1)]
  cases known : w.pool.tracked[lease.instanceId]? with
  | none =>
    have env := good.2.2.2
    simp [PoolState.env, known] at env
  | some tracked =>
    have unchanged :
      (w.pool.deactivate lease.instanceId).tracked[lease.instanceId]? = some tracked := known
    simp only [unchanged]
    by_cases worn : max cfg.maxEpisodeCount 1 ≤ tracked.episodeCount + 1
    · rw [if_pos worn]
      refine held.cool running ?_ rfl rfl rfl (Or.inl rfl) fun _ => trivial
      exact fun _ => rfl
    · rw [if_neg worn]
      refine held.cool running ?_ rfl rfl rfl (Or.inr rfl) fun _ => trivial
      exact fun _ => rfl

theorem Held.step {w : PoolWorld} {a : Answer} {task : Task} (held : Held w)
    (running : w.tasks[t]? = some task) (unclaimed : Unclaimed w (.step t a))
    (ran : w.run cfg t a task = some w') : Held w' := by
  cases ran_of_run ran with
  | prewarmed => exact held.drop rfl rfl rfl trivial
  | prewarm => exact held.drop rfl rfl rfl trivial
  | popEmpty envType empty =>
    refine held.stay (show _ = w.tasks.insert t (.ensure envType .acquire) from rfl) ?_ rfl
      (fun _ => Iff.rfl) (fun _ => rfl) rfl rfl ?_ (by simp [Task.victims]) trivial
    · intro e
      by_cases same : envType = e
      · simp [PoolWorld.goto, PoolWorld.setPool, same, ← same ▸ empty]
      · simp [PoolWorld.goto, PoolWorld.setPool, same]
    · intro slot st id now
      cases slot <;> simp [Task.holds, Task.owned, Task.taken, Purpose.taken] at now
  | pop envType id rest queued => exact held.pop queued
  | healthy => exact held.advance running rfl rfl rfl trivial
  | unhealthy envType =>
    refine held.pass running ?_ (by simp [Task.victims, AfterDestroy.victims]) trivial
    intro slot st id' now
    cases slot with
    | owned =>
      cases now
      exact ⟨.candidate envType, rfl, fun good => good.1⟩
    | taken => simp [Task.holds, Task.taken, AfterDestroy.taken, AfterFill.taken] at now
  | taken => exact held.drop rfl rfl rfl trivial
  | take envType id =>
    obtain ⟨alive, free⟩ := unclaimed id (by rw [running]; rfl)
    refine held.take running alive free ?_ true
    exact fun _ => rfl
  | full envType next =>
    cases next with
    | lease => exact held.lend running
    | prewarm _ => exact held.drop rfl rfl rfl trivial
    | retry _ => exact held.drop rfl rfl rfl trivial
    | unit => exact held.drop rfl rfl rfl trivial
  | fill => exact held.advance running rfl rfl rfl trivial
  | ensure => exact held.advance running rfl rfl rfl trivial
  | unresolved => exact held.drop rfl rfl rfl trivial
  | spawn envType purpose unknown => exact held.spawn running unknown
  | unspawned => exact held.drop rfl rfl rfl trivial
  | wait => exact held.advance running rfl rfl rfl trivial
  | unready => exact held.drop rfl rfl rfl trivial
  | insert envType id purpose =>
    cases purpose with
    | acquire => exact held.enter running a.now
    | fill => exact held.stock running a.now
  | untracked id next gone =>
    rw [PoolWorld.destroyed_eq]
    refine held.pass running ?_ (next.victims_task id) next.marked_task
    intro slot st id' now
    refine ⟨st, ?_, fun good => good⟩
    cases slot with
    | owned => simp [Task.holds, AfterDestroy.owned_task] at now
    | taken =>
      rw [Task.holds, next.taken_task] at now
      exact now
  | destroy id tracked next known =>
    refine held.advance running rfl rfl rfl ?_
    intro e present
    rw [PoolState.env, known] at present
    exact (Option.some.inj present).symm
  | mark id envType next =>
    have marked := held.marked t _ running
    refine held.stay (show _ = w.tasks.insert t (.close id envType next) from rfl) (fun _ => rfl)
      rfl (fun _ => Iff.rfl) ?_ rfl rfl ?_ (fun id' member => ⟨t, _, running, member⟩) ?_
    · exact fun id' => PoolState.env_modify _ id id' fun _ => rfl
    · intro slot st id' now
      refine ⟨st, ?_, fun good => good⟩
      rw [PoolWorld.At, running]
      cases slot <;> exact now
    · intro e present
      refine marked e ?_
      rw [← present]
      refine (PoolState.env_modify _ id id ?_).symm
      exact fun _ => rfl
  | close => exact held.close running
  | remove => exact held.remove running
  | release => exact held.released running a.now
  | reset => exact held.advance running rfl rfl rfl trivial
  | recovered => exact held.advance running rfl rfl rfl trivial
  | spoiled lease =>
    refine held.pass running ?_ (by simp [Task.victims, AfterDestroy.victims]) trivial
    intro slot st id now
    cases slot with
    | owned =>
      cases now
      exact ⟨.cooling lease.envType, rfl, fun good => good.1⟩
    | taken => simp [Task.holds, Task.taken, AfterDestroy.taken, AfterFill.taken] at now
  | giveBack =>
    refine held.giveBack running ?_
    exact fun _ => rfl
  | evict => exact held.collect fun _ member => List.mem_of_mem_filter member

theorem Held.of_reached {w : PoolWorld} (reached : ReachableWhen (warmupPool cfg) Unclaimed w) :
    Held w := by
  refine reached.invariant (motive := Held) (fun _ initial => Held.start initial) ?_
  intro w label w' _ held unclaimed taken
  cases label with
  | call => exact held.called (start_of_called taken)
  | step =>
    obtain ⟨task, running, ran⟩ := Option.bind_eq_some_iff.mp taken
    exact held.step running unclaimed ran

/-! ### Exclusive leases -/

/-- A lease that an acquire returned, until the first section of its release has run. -/
def PoolWorld.Outstanding (w : PoolWorld) (t : Nat) (lease : WarmLease) : Prop :=
  w.leases[t]? = some lease ∨ w.tasks[t]? = some (.release lease)

/-- Leases are exclusive and alive, and the queues hold distinct instances that are ready. -/
structure Exclusive (w : PoolWorld) : Prop where
  leases : ∀ t t' lease lease', w.Outstanding t lease → w.Outstanding t' lease' →
    lease.instanceId = lease'.instanceId → t = t'
  distinct : ∀ envType, (w.pool.queue envType).Nodup
  queues : ∀ envType envType' id,
    id ∈ w.pool.queue envType → id ∈ w.pool.queue envType' → envType = envType'
  ready : ∀ envType, ∀ id ∈ w.pool.queue envType, id ∈ w.pool.tracked ∧ id ∉ w.pool.active
  alive : ∀ t lease, w.Outstanding t lease → lease.instanceId ∉ w.closed ∧
    lease.instanceId ∈ w.pool.tracked ∧ lease.instanceId ∈ w.pool.active

theorem PoolWorld.Outstanding.held {w : PoolWorld} {lease : WarmLease}
    (outstanding : w.Outstanding t lease) : ∃ h, (h = .lease t ∨ h = .task t .taken) ∧
      w.At h (.leased lease.envType) lease.instanceId := by
  rcases outstanding with lent | returning
  · refine ⟨.lease t, Or.inl rfl, ?_⟩
    rw [PoolWorld.At, lent]
    rfl
  · refine ⟨.task t .taken, Or.inr rfl, ?_⟩
    rw [PoolWorld.At, returning]
    rfl

theorem Held.tracked {w : PoolWorld} {id envType : String} (known : w.pool.env id = some envType) :
    id ∈ w.pool.tracked := by
  obtain ⟨tracked, present, _⟩ := Option.map_eq_some_iff.mp known
  exact (mem_iff_lookup _ id).mpr ⟨tracked, present⟩

theorem Held.exclusive {w : PoolWorld} (held : Held w) : Exclusive w where
  leases := by
    intro t t' lease lease' outstanding outstanding' same
    obtain ⟨h, place, here⟩ := outstanding.held
    obtain ⟨h', place', here'⟩ := outstanding'.held
    rw [← same] at here'
    obtain rfl := held.only here here'
    rcases place with rfl | rfl <;> rcases place' with place' | place' <;> simp_all
  distinct := held.nodup
  queues := by
    intro envType envType' id here there
    have place := held.sole (.queue envType) (.queue envType') _ _ id ⟨rfl, here⟩ ⟨rfl, there⟩
    exact Holder.queue.inj place
  ready := by
    intro envType id member
    obtain ⟨inactive, known⟩ := held.good (.queue envType) _ id ⟨rfl, member⟩
    exact ⟨Held.tracked known, inactive⟩
  alive := by
    intro t lease outstanding
    obtain ⟨h, _, here⟩ := outstanding.held
    obtain ⟨active, alive, _, known⟩ := held.good h _ _ here
    exact ⟨alive, Held.tracked known, active⟩

/-- Leases are exclusive and alive in every run in which no acquire takes an instance that was
closed or that a running eviction has collected. -/
theorem leases_exclusive (cfg : WarmupPoolConfig) {w : PoolWorld}
    (reached : ReachableWhen (warmupPool cfg) Unclaimed w) : Exclusive w :=
  (Held.of_reached reached).exclusive

/-- One warm instance per environment, and none stays idle. -/
def restless : WarmupPoolConfig :=
  { warmupSize := 1, maxIdleTimeSecs := 0, coolTimeoutSecs := 0, maxEpisodeCount := 10 }

/-- Steps of a task that are answered without an error. -/
def steps (t count : Nat) (now : Nat := 0) : List PoolLabel :=
  List.replicate count (.step t { now })

/-- An acquire spawns one instance for itself and one for the queue. -/
def leased : List PoolLabel :=
  .call 0 (.acquire "math") :: steps 0 2 ++ .step 0 { id := "a" } :: steps 0 4 ++
    .step 0 { id := "b" } :: steps 0 3

/-- Its lease is released, and the eviction has collected the other instance. -/
def collected : List PoolLabel := leased ++ .call 1 (.release 0) :: steps 1 5 5

/-- The eviction closes the other instance, and then an acquire takes the first one again and
refills. -/
def leasedAgain : List PoolLabel :=
  collected ++ steps 1 4 5 ++
    .call 2 (.acquire "math") :: steps 2 5 5 ++ .step 2 { id := "c" } :: steps 2 3 5

theorem leases_exclusive_after_eviction :
    ∃ w : PoolWorld, w.leases[2]? = some ⟨"a", "math", true⟩ ∧ "b" ∈ w.closed ∧ Exclusive w := by
  have facts : ((warmupPool restless).exec {} leasedAgain).any (fun w =>
      w.leases[2]? = some ⟨"a", "math", true⟩ && w.closed.contains "b") = true := by decide +kernel
  obtain ⟨w, ran, facts⟩ := (Option.any_eq_true _ _).mp facts
  simp only [Bool.and_eq_true, decide_eq_true_eq, List.contains_iff_mem] at facts
  have reached : ReachableWhen (warmupPool restless) Unclaimed w :=
    ReachableWhen.of_exec (.start rfl) leasedAgain (by decide +kernel) ran
  exact ⟨w, facts.1, facts.2, leases_exclusive restless reached⟩

/-- Another acquire takes the instance that the eviction has collected, and the eviction closes
it. -/
theorem leased_instance_evicted :
    ¬ ∀ (cfg : WarmupPoolConfig) (w : PoolWorld), Reachable (warmupPool cfg) w → Exclusive w := by
  intro always
  have facts : ((warmupPool restless).exec {}
      (collected ++ .call 2 (.acquire "math") :: steps 2 4 5 ++ steps 1 4 5)).any (fun w =>
      w.leases[2]? = some ⟨"b", "math", true⟩ && w.closed.contains "b" &&
        w.pool.tracked["b"]?.isNone && !w.pool.active.contains "b") = true := by decide +kernel
  obtain ⟨w, ran, facts⟩ := (Option.any_eq_true _ _).mp facts
  simp only [Bool.and_eq_true, decide_eq_true_eq, List.contains_iff_mem] at facts
  have alive := (always restless w (Reachable.of_exec rfl _ ran)).alive 2 _ (Or.inl facts.1.1.1)
  exact alive.1 facts.1.1.2

end UEnv.Worker
