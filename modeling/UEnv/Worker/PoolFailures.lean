import UEnv.Worker.Exclusivity

/-!
# Failed calls of the warm pool

One call of the pool, alone, from any state. A failed acquire accounts for every instance that it
spawned as long as what fails comes before it has something in hand: the readiness of a spawned
instance and the refill after the lease was taken are not undone.
-/

namespace UEnv.Worker

open Tables Runs

/-- The answers that a task gets, one step each. -/
def answered (t : Nat) (answers : List Answer) : List PoolLabel := answers.map (.step t)

/-- Whatever the pool holds was spawned. -/
structure PoolWorld.Known (w : PoolWorld) : Prop where
  closed : ∀ id ∈ w.closed, id ∈ w.spawned
  active : ∀ id ∈ w.pool.active, id ∈ w.spawned
  queued : ∀ e, ∀ id ∈ w.pool.queue e, id ∈ w.spawned

/-- `active` is as before, and what was spawned since is closed or in a warm queue. -/
structure AcquireClean (w₀ w : PoolWorld) : Prop where
  active : ∀ id, id ∈ w.pool.active ↔ id ∈ w₀.pool.active
  spawned : ∀ id ∈ w.spawned, id ∉ w₀.spawned →
    id ∈ w.closed ∨ (id ∈ w.pool.tracked ∧ ∃ e, id ∈ w.pool.queue e)

/-- A released instance is closed or back in a warm queue. -/
def PoolWorld.Settled (w : PoolWorld) (id : String) : Prop :=
  id ∈ w.closed ∨ ∃ e, id ∈ w.pool.queue e

/-- The plugin host finds no closed instance healthy. -/
def Task.Honest (w : PoolWorld) (a : Answer) : Task → Prop
  | check _ id => a.ok = true → id ∉ w.closed
  | _ => True

/-- A spawned instance becomes ready, nothing fails in the refill after a lease was taken, and no
instance that is `active` is destroyed for its health. -/
def Task.Careful (w : PoolWorld) (a : Answer) : Task → Prop
  | check _ id => a.ok = true ∨ id ∉ w.pool.tracked ∨ id ∉ w.pool.active
  | ensure _ purpose | spawn _ purpose => a.ok = true ∨ purpose.taken = none
  | wait _ _ _ => a.ok = true
  | _ => True

/-- A condition on the task that goes on. -/
def OfTask (cond : PoolWorld → Answer → Task → Prop) (w : PoolWorld) : PoolLabel → Prop
  | .step t a => ∀ task ∈ w.tasks[t]?, cond w a task
  | .call _ _ => True

def Honest : PoolWorld → PoolLabel → Prop := OfTask Task.Honest

def Careful : PoolWorld → PoolLabel → Prop := OfTask Task.Careful

/-! ### What an acquire accounts for -/

/-- What an acquire has spawned and taken since `w₀`, with what it has in hand. -/
structure Accounted (w₀ w : PoolWorld) (owned : Option (Stage × String))
    (taken : Option WarmLease) : Prop where
  active : ∀ id, id ∈ w.pool.active ↔
    (∃ lease ∈ taken, lease.instanceId = id) ∨ id ∈ w₀.pool.active
  outside : ∀ lease ∈ taken, lease.instanceId ∉ w₀.pool.active
  kept : ∀ id ∈ w.spawned, id ∉ w₀.spawned →
    id ∈ w.closed ∨ (id ∈ w.pool.tracked ∧ ∃ e, id ∈ w.pool.queue e) ∨
      (∃ stage, owned = some (stage, id) ∧ (stage = .fresh ∨ id ∈ w.pool.tracked)) ∨
      ∃ lease ∈ taken, lease.instanceId = id
  older : ∀ id ∈ w₀.spawned, id ∈ w.spawned
  before : ∀ id ∈ w₀.pool.active, id ∈ w₀.spawned
  known : w.Known
  hands : ∀ stage id, owned = some (stage, id) → id ∈ w.spawned
  fresh : ∀ id, owned = some (.fresh, id) →
    id ∉ w₀.spawned ∧ id ∉ w.closed ∧ ∀ e, id ∉ w.pool.queue e

namespace Accounted

variable {w₀ w : PoolWorld} {owned : Option (Stage × String)} {taken : Option WarmLease} {t : Nat}

theorem start (known : w.Known) : Accounted w w none none where
  active := by simp
  outside := by simp
  kept := fun id spawned new => absurd spawned new
  older := fun _ old => old
  before := known.active
  known := known
  hands := by simp
  fresh := by simp

theorem goto (acc : Accounted w₀ w owned taken) (task : Task) :
    Accounted w₀ (w.goto t task) owned taken :=
  ⟨acc.active, acc.outside, acc.kept, acc.older, acc.before,
    ⟨acc.known.closed, acc.known.active, acc.known.queued⟩, acc.hands, acc.fresh⟩

theorem clean (acc : Accounted w₀ w none none) : AcquireClean w₀ w where
  active := by simpa using acc.active
  spawned := by
    intro id spawned new
    rcases acc.kept id spawned new with shut | queued | ⟨_, held, _⟩ | ⟨_, held, _⟩
    · exact Or.inl shut
    · exact Or.inr queued
    · cases held
    · cases held

/-- What is new is not in `active`. -/
theorem inactive (acc : Accounted w₀ w owned none) {id : String} (new : id ∉ w₀.spawned) :
    id ∉ w.pool.active := by
  intro busy
  rcases (acc.active id).mp busy with ⟨_, held, _⟩ | old
  · cases held
  · exact new (acc.before id old)

theorem forget (acc : Accounted w₀ w owned taken)
    (gone : ∀ stage id, owned = some (stage, id) → id ∉ w₀.spawned →
      id ∈ w.closed ∨ (id ∈ w.pool.tracked ∧ ∃ e, id ∈ w.pool.queue e)) :
    Accounted w₀ w none taken where
  active := acc.active
  outside := acc.outside
  kept := by
    intro id spawned new
    rcases acc.kept id spawned new with shut | queued | ⟨stage, held, _⟩ | held
    · exact Or.inl shut
    · exact Or.inr (Or.inl queued)
    · exact (gone stage id held new).imp_right Or.inl
    · exact Or.inr (Or.inr (Or.inr held))
  older := acc.older
  before := acc.before
  known := acc.known
  hands := by simp
  fresh := by simp

variable {stage : Stage} {pool : PoolState}

theorem restage (acc : Accounted w₀ w owned taken) {stage' : Stage} {id : String}
    (held : owned = some (stage, id)) (old : stage ≠ .fresh) (new : stage' ≠ .fresh) :
    Accounted w₀ w (some (stage', id)) taken where
  active := acc.active
  outside := acc.outside
  kept := by
    intro id' spawned later
    rcases acc.kept id' spawned later with shut | queued | ⟨stage'', here, state⟩ | lent
    · exact Or.inl shut
    · exact Or.inr (Or.inl queued)
    · obtain ⟨rfl, rfl⟩ := Prod.mk.inj (Option.some.inj (held.symm.trans here))
      exact Or.inr (Or.inr (Or.inl ⟨stage', rfl, Or.inr (state.resolve_left old)⟩))
    · exact Or.inr (Or.inr (Or.inr lent))
  older := acc.older
  before := acc.before
  known := acc.known
  hands := by
    intro stage'' id' here
    obtain ⟨_, rfl⟩ := Prod.mk.inj (Option.some.inj here)
    exact acc.hands stage _ held
  fresh := by
    intro id' here
    exact absurd (Prod.mk.inj (Option.some.inj here)).1 new

theorem pop (acc : Accounted w₀ w none none) {envType id : String} {rest : List String}
    (queued : w.pool.queue envType = id :: rest) :
    Accounted w₀ (w.setPool (w.pool.setQueue envType rest)) (some (.candidate envType, id))
      none where
  active := acc.active
  outside := acc.outside
  kept := by
    intro x spawned new
    simp only [PoolWorld.setPool, PoolState.queue_setQueue]
    rcases acc.kept x spawned new with shut | ⟨tracked, e, member⟩ | ⟨_, held, _⟩ | ⟨_, held, _⟩
    · exact Or.inl shut
    · by_cases same : envType = e
      · subst same
        rw [queued] at member
        rcases List.mem_cons.mp member with rfl | member
        · exact Or.inr (Or.inr (Or.inl ⟨_, rfl, Or.inr tracked⟩))
        · exact Or.inr (Or.inl ⟨tracked, envType, by rwa [if_pos rfl]⟩)
      · exact Or.inr (Or.inl ⟨tracked, e, by rwa [if_neg same]⟩)
    · cases held
    · cases held
  older := acc.older
  before := acc.before
  known := by
    refine ⟨acc.known.closed, acc.known.active, fun e x member => acc.known.queued e x ?_⟩
    simp only [PoolWorld.setPool, PoolState.queue_setQueue] at member
    by_cases same : envType = e
    · rw [if_pos same] at member
      exact same ▸ queued ▸ List.mem_cons_of_mem _ member
    · rwa [if_neg same] at member
  hands := by
    intro stage x held
    obtain ⟨_, rfl⟩ := Prod.mk.inj (Option.some.inj held)
    exact acc.known.queued envType _ (queued ▸ List.mem_cons_self)
  fresh := by simp

theorem congr (acc : Accounted w₀ w owned taken) (active : pool.active = w.pool.active)
    (tracked : ∀ id, id ∈ pool.tracked ↔ id ∈ w.pool.tracked)
    (queue : ∀ e, pool.queue e = w.pool.queue e) : Accounted w₀ (w.setPool pool) owned taken where
  active := by simpa [PoolWorld.setPool, active] using acc.active
  outside := acc.outside
  kept := by simpa [PoolWorld.setPool, tracked, queue] using acc.kept
  older := acc.older
  before := acc.before
  known := ⟨acc.known.closed, by simpa [PoolWorld.setPool, active] using acc.known.active,
    by simpa [PoolWorld.setPool, queue] using acc.known.queued⟩
  hands := acc.hands
  fresh := by simpa [PoolWorld.setPool, queue] using acc.fresh

theorem take (acc : Accounted w₀ w owned none) {id : String} (held : owned = some (stage, id))
    (idle : id ∉ w.pool.active) (active : ∀ x, x ∈ pool.active ↔ x = id ∨ x ∈ w.pool.active)
    (tracked : ∀ x, x ∈ w.pool.tracked → x ∈ pool.tracked)
    (queue : ∀ e, pool.queue e = w.pool.queue e) {lease : WarmLease}
      (lent : lease.instanceId = id) :
    Accounted w₀ (w.setPool pool) none (some lease) where
  active := by
    intro x
    have before := acc.active x
    simp only [PoolWorld.setPool, active, before, Option.mem_def, Option.some.injEq,
      exists_eq_left', lent]
    simp [eq_comm]
  outside := by
    intro lease' here old
    cases here
    exact idle ((acc.active id).mpr (Or.inr (lent ▸ old)))
  kept := by
    intro x spawned new
    rcases acc.kept x spawned new with shut | ⟨known, e, member⟩ | ⟨_, here, _⟩ | ⟨_, none, _⟩
    · exact Or.inl shut
    · exact Or.inr (Or.inl ⟨tracked x known, e, queue e ▸ member⟩)
    · obtain ⟨_, rfl⟩ := Prod.mk.inj (Option.some.inj (held.symm.trans here))
      exact Or.inr (Or.inr (Or.inr ⟨lease, rfl, lent⟩))
    · cases none
  older := acc.older
  before := acc.before
  known := by
    refine ⟨acc.known.closed, fun x busy => ?_, fun e x member => ?_⟩
    · rcases (active x).mp busy with rfl | busy
      · exact acc.hands stage _ held
      · exact acc.known.active x busy
    · exact acc.known.queued e x (queue e ▸ member)
  hands := by simp
  fresh := by simp

theorem spawn (acc : Accounted w₀ w none taken) {id : String} (unknown : id ∉ w.spawned) :
    Accounted w₀ { w with spawned := id :: w.spawned } (some (.fresh, id)) taken where
  active := acc.active
  outside := acc.outside
  kept := by
    intro x spawned new
    rcases List.mem_cons.mp spawned with rfl | spawned
    · exact Or.inr (Or.inr (Or.inl ⟨.fresh, rfl, Or.inl rfl⟩))
    · rcases acc.kept x spawned new with shut | queued | ⟨_, held, _⟩ | lent
      · exact Or.inl shut
      · exact Or.inr (Or.inl queued)
      · cases held
      · exact Or.inr (Or.inr (Or.inr lent))
  older := fun x old => List.mem_cons_of_mem _ (acc.older x old)
  before := acc.before
  known := ⟨fun x shut => List.mem_cons_of_mem _ (acc.known.closed x shut),
    fun x busy => List.mem_cons_of_mem _ (acc.known.active x busy),
    fun e x member => List.mem_cons_of_mem _ (acc.known.queued e x member)⟩
  hands := by
    intro stage x held
    obtain ⟨_, rfl⟩ := Prod.mk.inj (Option.some.inj held)
    exact List.mem_cons_self
  fresh := by
    intro x held
    obtain ⟨_, rfl⟩ := Prod.mk.inj (Option.some.inj held)
    exact ⟨fun old => unknown (acc.older _ old), fun shut => unknown (acc.known.closed _ shut),
      fun e member => unknown (acc.known.queued e _ member)⟩

theorem stock {id : String} (acc : Accounted w₀ w (some (.fresh, id)) taken) (envType : String)
    (tracked : TrackedInstance) :
    Accounted w₀ (w.setPool ((w.pool.track id tracked).pushBack envType id)) none taken where
  active := acc.active
  outside := acc.outside
  kept := by
    intro x spawned new
    simp only [PoolWorld.setPool, PoolState.pushBack, PoolState.queue_setQueue,
      PoolState.queue_track]
    have queued : ∀ y e, (y ∈ w.pool.queue e ∨ (y = id ∧ e = envType)) →
        y ∈ if envType = e then w.pool.queue envType ++ [id] else w.pool.queue e := by
      rintro y e (member | ⟨rfl, rfl⟩)
      · by_cases same : envType = e
        · rw [if_pos same]
          exact List.mem_append_left _ (same ▸ member)
        · rwa [if_neg same]
      · simp
    rcases acc.kept x spawned new with shut | ⟨known, e, member⟩ | ⟨_, held, _⟩ | lent
    · exact Or.inl shut
    · refine Or.inr (Or.inl ⟨?_, e, queued x e (Or.inl member)⟩)
      exact (PoolState.mem_tracked_track _ _ _ _).mpr (Or.inr known)
    · obtain ⟨_, rfl⟩ := Prod.mk.inj (Option.some.inj held)
      refine Or.inr (Or.inl ⟨?_, envType, queued _ envType (Or.inr ⟨rfl, rfl⟩)⟩)
      exact (PoolState.mem_tracked_track _ _ _ _).mpr (Or.inl rfl)
    · exact Or.inr (Or.inr (Or.inr lent))
  older := acc.older
  before := acc.before
  known := by
    refine ⟨acc.known.closed, acc.known.active, fun e x member => ?_⟩
    simp only [PoolWorld.setPool, PoolState.pushBack, PoolState.queue_setQueue,
      PoolState.queue_track] at member
    by_cases same : envType = e
    · rw [if_pos same, List.mem_append, List.mem_singleton] at member
      rcases member with member | rfl
      · exact acc.known.queued envType x member
      · exact acc.hands .fresh _ rfl
    · rw [if_neg same] at member
      exact acc.known.queued e x member
  hands := by simp
  fresh := by simp

theorem close {id : String} (acc : Accounted w₀ w (some (.leaving, id)) taken) :
    Accounted w₀ { w with closed := id :: w.closed } (some (.leaving, id)) taken where
  active := acc.active
  outside := acc.outside
  kept := fun x spawned new =>
    (acc.kept x spawned new).imp_left fun shut => List.mem_cons_of_mem _ shut
  older := acc.older
  before := acc.before
  known := by
    refine ⟨fun x shut => ?_, acc.known.active, acc.known.queued⟩
    rcases List.mem_cons.mp shut with rfl | shut
    · exact acc.hands .leaving _ rfl
    · exact acc.known.closed x shut
  hands := acc.hands
  fresh := by simp

theorem remove {id : String} (acc : Accounted w₀ w (some (.leaving, id)) taken)
    (shut : id ∈ w.closed)
    (idle : id ∉ w.pool.active) (envType : String) :
    Accounted w₀ (w.setPool (w.pool.remove id envType)) none taken where
  active := by
    intro x
    have before := acc.active x
    simp only [PoolWorld.setPool, PoolState.mem_active_remove, ← before, and_iff_left_iff_imp]
    rintro busy rfl
    exact idle busy
  outside := acc.outside
  kept := by
    intro x spawned new
    by_cases same : x = id
    · exact Or.inl (same ▸ shut)
    rcases acc.kept x spawned new with shut | ⟨known, e, member⟩ | ⟨_, held, _⟩ | lent
    · exact Or.inl shut
    · refine Or.inr (Or.inl ⟨?_, e, ?_⟩)
      · exact (PoolState.mem_tracked_remove _ _ _ _).mpr ⟨Ne.symm same, known⟩
      · simp only [PoolWorld.setPool, PoolState.queue_remove]
        by_cases own : envType = e
        · rw [if_pos own]
          exact List.mem_filter.mpr ⟨member, by simpa using same⟩
        · rwa [if_neg own]
    · exact absurd (Prod.mk.inj (Option.some.inj held)).2.symm same
    · exact Or.inr (Or.inr (Or.inr lent))
  older := acc.older
  before := acc.before
  known := by
    refine ⟨acc.known.closed, fun x busy => ?_, fun e x member => acc.known.queued e x ?_⟩
    · simp only [PoolWorld.setPool, PoolState.mem_active_remove] at busy
      exact acc.known.active x busy.1
    · simp only [PoolWorld.setPool, PoolState.queue_remove] at member
      by_cases own : envType = e
      · rw [if_pos own] at member
        exact List.mem_of_mem_filter member
      · rwa [if_neg own] at member
  hands := by simp
  fresh := by simp

end Accounted

/-! ### The steps of an acquire -/

def AfterFill.Acquires : AfterFill → Prop
  | retry _ | .lease _ => True
  | prewarm _ | unit => False

def Purpose.Acquires : Purpose → Prop
  | acquire => True
  | fill next => next.Acquires

def AfterDestroy.Acquires : AfterDestroy → Prop
  | refill _ (.retry _) => True
  | _ => False

/-- The task is an acquire that has not returned a lease. -/
def Task.Acquires : Task → Prop
  | pop _ | check _ _ | take _ _ | failed _ => True
  | fill _ next => next.Acquires
  | ensure _ purpose | spawn _ purpose | wait _ _ purpose | insert _ _ purpose => purpose.Acquires
  | destroy _ next | mark _ _ next | close _ _ next | remove _ _ next => next.Acquires
  | _ => False

theorem AfterDestroy.Acquires.refill {next : AfterDestroy} (acquires : next.Acquires) :
    ∃ envType retried, next = .refill envType (.retry retried) := by
  cases next with
  | refill envType next =>
    cases next with
    | retry retried => exact ⟨envType, retried, rfl⟩
    | _ => exact absurd acquires id
  | evict => exact absurd acquires id

/-- An instance that is removed was closed and is not active. -/
def Task.Safe (w : PoolWorld) : Task → Prop
  | destroy id _ => id ∉ w.pool.tracked ∨ id ∉ w.pool.active
  | mark id _ _ | close id _ _ => id ∉ w.pool.active
  | remove id _ _ => id ∈ w.closed ∧ id ∉ w.pool.active
  | _ => True

/-- An acquire accounts for everything. -/
structure Neat (w₀ w : PoolWorld) (task : Task) : Prop where
  acquires : task.Acquires
  accounted : Accounted w₀ w task.owned task.taken
  safe : task.Safe w

/-- An acquire goes on, or it returns its lease. -/
def Onward (P : PoolWorld → Task → Prop) (t : Nat) (w : PoolWorld) : Prop :=
  ∃ task, w.tasks[t]? = some task ∧ (task = .returned ∨ P w task)

theorem PoolWorld.goto_task (w : PoolWorld) (t : Nat) (task : Task) :
    (w.goto t task).tasks[t]? = some task := by
  simp [PoolWorld.goto]

theorem Onward.goto {P : PoolWorld → Task → Prop} {w : PoolWorld} {t : Nat} {task : Task}
    (holds : P (w.goto t task) task) : Onward P t (w.goto t task) :=
  ⟨task, w.goto_task t task, Or.inr holds⟩

namespace Neat

variable {cfg : WarmupPoolConfig} {w₀ w w' : PoolWorld} {t : Nat} {a : Answer}

theorem goto {task : Task} (acquires : task.Acquires)
    (accounted : Accounted w₀ w task.owned task.taken) (safe : task.Safe w) :
    Onward (Neat w₀) t (w.goto t task) := by
  refine Onward.goto ⟨acquires, accounted.goto task, ?_⟩
  cases task <;> exact safe

theorem step {task : Task} (neat : Neat w₀ w task) (careful : task.Careful w a)
    (ran : w.run cfg t a task = some w') : Onward (Neat w₀) t w' := by
  obtain ⟨acquires, acc, safe⟩ := neat
  cases ran_of_run ran with
  | popEmpty envType empty =>
    refine goto trivial (acc.congr rfl (fun _ => Iff.rfl) fun e => ?_) trivial
    by_cases same : envType = e
    · simp [same, ← same ▸ empty]
    · simp [same]
  | pop envType id rest queued => exact goto trivial (acc.pop queued) trivial
  | healthy => exact goto trivial acc trivial
  | unhealthy envType id ill =>
    exact goto trivial (acc.restage rfl (by simp) (by simp)) (careful.resolve_left ill)
  | taken envType id busy =>
    refine goto trivial (acc.forget fun stage id' held new => ?_) trivial
    obtain ⟨_, rfl⟩ := Prod.mk.inj (Option.some.inj held)
    exact absurd busy (acc.inactive new)
  | take envType id idle =>
    refine goto trivial (acc.take rfl idle ?_ ?_ ?_ rfl) trivial
    · simp
    · exact fun x known => (PoolState.mem_tracked_modify _ _ _ _).mpr known
    · exact fun _ => rfl
  | full envType next =>
    cases next with
    | retry => exact goto trivial acc trivial
    | lease => exact ⟨.returned, PoolWorld.goto_task _ _ _, Or.inl rfl⟩
    | prewarm _ => exact absurd acquires id
    | unit => exact absurd acquires id
  | fill => exact goto acquires acc trivial
  | ensure => exact goto acquires acc trivial
  | unresolved envType purpose fails =>
    rw [show (Task.ensure envType purpose).taken = none from careful.resolve_left fails] at acc
    exact goto trivial acc trivial
  | spawn envType purpose unknown => exact goto acquires (acc.spawn unknown) trivial
  | unspawned envType purpose fails =>
    rw [show (Task.spawn envType purpose).taken = none from careful.resolve_left fails] at acc
    exact goto trivial acc trivial
  | wait => exact goto acquires acc trivial
  | unready envType id purpose fails => exact absurd careful fails
  | insert envType id purpose =>
    cases purpose with
    | acquire =>
      have idle := acc.inactive (acc.fresh id rfl).1
      rw [PoolWorld.insert, PoolState.active_track, if_neg idle]
      refine goto trivial (acc.take rfl idle ?_ ?_ ?_ rfl) trivial
      · simp
      · exact fun x known => (PoolState.mem_tracked_track _ _ _ _).mpr (Or.inr known)
      · exact fun _ => rfl
    | fill => exact goto acquires (acc.stock envType _) trivial
  | untracked id next gone =>
    obtain ⟨envType, retried, rfl⟩ := acquires.refill
    refine goto trivial (acc.forget fun stage id' held new => ?_) trivial
    cases held
    rcases acc.kept id (acc.hands _ _ rfl) new with shut | queued | ⟨_, held, state⟩ | ⟨_, none, _⟩
    · exact Or.inl shut
    · exact Or.inr queued
    · obtain ⟨rfl, _⟩ := Prod.mk.inj (Option.some.inj held)
      exact absurd (state.resolve_left (by simp)) gone
    · cases none
  | destroy id tracked next known =>
    obtain ⟨_, _, rfl⟩ := acquires.refill
    have present : id ∈ w.pool.tracked := (mem_iff_lookup _ _).mpr ⟨tracked, known⟩
    exact goto trivial acc (safe.resolve_left (not_not_intro present))
  | mark =>
    obtain ⟨_, _, rfl⟩ := acquires.refill
    exact goto trivial (acc.congr rfl (by simp) fun _ => rfl) safe
  | close =>
    obtain ⟨_, _, rfl⟩ := acquires.refill
    exact goto trivial acc.close ⟨List.mem_cons_self, safe⟩
  | remove id envType =>
    obtain ⟨_, _, rfl⟩ := acquires.refill
    exact goto trivial (acc.remove safe.1 safe.2 envType) trivial
  | _ => exact absurd acquires id

end Neat

/-! ### What cannot be made good -/

/-- The instance that the task is about to add to `active`. -/
@[simp]
def Task.entering : Task → Option String
  | take _ id | wait _ id .acquire | insert _ id .acquire => some id
  | _ => none

/-- An instance that was active is being destroyed, or it is gone. -/
def Task.Losing (w : PoolWorld) (id : String) : Task → Prop
  | destroy id' _ => id' = id ∧ id ∈ w.pool.tracked ∨ id ∈ w.closed ∧ id ∉ w.pool.active
  | mark id' _ _ | close id' _ _ => id' = id ∨ id ∈ w.closed ∧ id ∉ w.pool.active
  | remove id' _ _ => id ∈ w.closed ∧ (id' = id ∨ id ∉ w.pool.active)
  | task => id ∈ w.closed ∧ id ∉ w.pool.active ∧ task.entering ≠ some id

/-- An acquire that cannot fail without a trace. -/
def Dirty (w₀ w : PoolWorld) (task : Task) : Prop :=
  (task.Acquires ∧ ∃ id ∈ w₀.pool.active, id ∈ w.spawned ∧ task.Losing w id) ∨
    (∃ message, task = .failed message) ∧ ¬ AcquireClean w₀ w

namespace Dirty

variable {cfg : WarmupPoolConfig} {w₀ w w' : PoolWorld} {t : Nat} {a : Answer}

theorem not_clean {message : String} (dirty : Dirty w₀ w (.failed message)) :
    ¬ AcquireClean w₀ w := by
  rcases dirty with ⟨_, id, busy, _, _, idle, _⟩ | ⟨_, unclean⟩
  · exact fun clean => idle ((clean.active id).mpr busy)
  · exact unclean

theorem of_neat {task : Task} (neat : Neat w₀ w task) (careless : ¬ task.Careful w a)
    (ran : w.run cfg t a task = some w') : Onward (Dirty w₀) t w' := by
  obtain ⟨acquires, acc, safe⟩ := neat
  have lost : ∀ lease ∈ task.taken, ∀ w'' : PoolWorld, w''.pool = w.pool →
      ¬ AcquireClean w₀ w'' := by
    intro lease lent w'' same clean
    have busy := (acc.active lease.instanceId).mpr (Or.inl ⟨lease, lent, rfl⟩)
    exact acc.outside lease lent ((clean.active lease.instanceId).mp (same ▸ busy))
  cases task with
  | check envType id =>
    cases ran
    simp only [Task.Careful, not_or, not_not] at careless
    obtain ⟨ill, tracked, busy⟩ := careless
    rw [if_neg ill]
    have old : id ∈ w₀.pool.active := by
      rcases (acc.active id).mp busy with ⟨_, none, _⟩ | old
      · cases none
      · exact old
    refine Onward.goto (Or.inl ⟨trivial, id, old, acc.known.active id busy, Or.inl ⟨rfl, tracked⟩⟩)
  | ensure =>
    cases ran
    simp only [Task.Careful, not_or] at careless
    obtain ⟨lease, lent⟩ := Option.ne_none_iff_exists'.mp careless.2
    rw [if_neg careless.1]
    exact Onward.goto (Or.inr ⟨⟨_, rfl⟩, lost lease lent _ rfl⟩)
  | spawn =>
    simp only [Task.Careful, not_or] at careless
    obtain ⟨lease, lent⟩ := Option.ne_none_iff_exists'.mp careless.2
    rw [PoolWorld.run, if_neg careless.1] at ran
    cases ran
    exact Onward.goto (Or.inr ⟨⟨_, rfl⟩, lost lease lent _ rfl⟩)
  | wait envType id =>
    cases ran
    rw [if_neg (show ¬ a.ok = true from careless)]
    obtain ⟨new, alive, unqueued⟩ := acc.fresh id rfl
    refine Onward.goto (Or.inr ⟨⟨_, rfl⟩, fun clean => ?_⟩)
    rcases clean.spawned id (acc.hands _ id rfl) new with shut | ⟨_, e, member⟩
    · exact alive shut
    · exact unqueued e member
  | _ => exact absurd trivial careless

theorem gone {task : Task} (acquires : task.Acquires) {id : String} (old : id ∈ w₀.pool.active)
    (spawned : id ∈ w.spawned) (shut : id ∈ w.closed) (idle : id ∉ w.pool.active)
    (apart : task.entering ≠ some id) : Onward (Dirty w₀) t (w.goto t task) := by
  refine Onward.goto (Or.inl ⟨acquires, id, old, spawned, ?_⟩)
  cases task with
  | destroy => exact Or.inr ⟨shut, idle⟩
  | mark _ _ _ | close _ _ _ => exact Or.inr ⟨shut, idle⟩
  | remove => exact ⟨shut, Or.inr idle⟩
  | _ => exact ⟨shut, idle, apart⟩

theorem step {task : Task} (dirty : Dirty w₀ w task) (honest : task.Honest w a)
    (ran : w.run cfg t a task = some w') : Onward (Dirty w₀) t w' := by
  rcases dirty with ⟨acquires, id, old, spawned, losing⟩ | ⟨⟨message, rfl⟩, _⟩
  rotate_left
  · cases ran
  cases ran_of_run ran with
  | popEmpty =>
    exact gone trivial old spawned losing.1 losing.2.1 (by simp)
  | pop =>
    exact gone trivial old spawned losing.1 losing.2.1 (by simp)
  | healthy envType id' ok =>
    refine gone trivial old spawned losing.1 losing.2.1 fun same => honest ok ?_
    exact Option.some.inj same ▸ losing.1
  | unhealthy =>
    exact gone trivial old spawned losing.1 losing.2.1 (by simp)
  | taken =>
    exact gone trivial old spawned losing.1 losing.2.1 (by simp)
  | take =>
    obtain ⟨shut, idle, apart⟩ := losing
    refine gone trivial old spawned shut ?_ (by simp)
    simp only [PoolWorld.setPool, PoolState.active_modify, PoolState.mem_active_activate, not_or]
    exact ⟨fun same => apart (congrArg some same.symm), idle⟩
  | full envType next =>
    cases next with
    | retry =>
      exact gone trivial old spawned losing.1 losing.2.1 (by simp)
    | lease => exact ⟨.returned, PoolWorld.goto_task _ _ _, Or.inl rfl⟩
    | _ => exact absurd acquires False.elim
  | fill =>
    exact gone acquires old spawned losing.1 losing.2.1 (by simp)
  | ensure =>
    exact gone acquires old spawned losing.1 losing.2.1 (by simp)
  | unresolved =>
    exact gone trivial old spawned losing.1 losing.2.1 (by simp)
  | spawn envType purpose unknown =>
    refine gone acquires old (List.mem_cons_of_mem _ spawned) losing.1 losing.2.1 ?_
    cases purpose with
    | acquire => exact fun same => unknown (Option.some.inj same ▸ spawned)
    | fill => simp
  | unspawned =>
    exact gone trivial old spawned losing.1 losing.2.1 (by simp)
  | wait envType id' purpose ok =>
    exact gone acquires old spawned losing.1 losing.2.1 (by cases purpose <;> exact losing.2.2)
  | unready =>
    exact gone trivial old spawned losing.1 losing.2.1 (by simp)
  | insert envType id' purpose =>
    obtain ⟨shut, idle, apart⟩ := losing
    cases purpose with
    | acquire =>
      rw [PoolWorld.insert]
      by_cases busy : id' ∈ w.pool.active
      · rw [PoolState.active_track, if_pos busy]
        exact gone trivial old spawned shut idle (by simp)
      · rw [PoolState.active_track, if_neg busy]
        refine gone trivial old spawned shut ?_ (by simp)
        simp only [PoolWorld.setPool, PoolState.mem_active_activate, PoolState.active_track, not_or]
        exact ⟨fun same => apart (congrArg some same.symm), idle⟩
    | fill => exact gone acquires old spawned shut idle (by simp)
  | untracked id' next absent =>
    obtain ⟨envType, retried, rfl⟩ := acquires.refill
    rcases losing with ⟨rfl, tracked⟩ | ⟨shut, idle⟩
    · exact absurd tracked absent
    · exact gone trivial old spawned shut idle (by simp)
  | destroy =>
    obtain ⟨_, _, rfl⟩ := acquires.refill
    exact Onward.goto (Or.inl ⟨trivial, id, old, spawned, losing.imp_left And.left⟩)
  | mark =>
    exact Onward.goto (Or.inl ⟨acquires, id, old, spawned, losing⟩)
  | close =>
    refine Onward.goto (Or.inl ⟨acquires, id, old, spawned, ?_⟩)
    rcases losing with rfl | ⟨shut, idle⟩
    · exact ⟨List.mem_cons_self, Or.inl rfl⟩
    · exact ⟨List.mem_cons_of_mem _ shut, Or.inr idle⟩
  | remove =>
    obtain ⟨_, _, rfl⟩ := acquires.refill
    obtain ⟨shut, place⟩ := losing
    refine gone trivial old spawned shut ?_ (by simp)
    simp only [PoolWorld.setPool, PoolState.mem_active_remove]
    rcases place with rfl | idle
    · exact fun busy => busy.2 rfl
    · exact fun busy => idle busy.1
  | _ => exact absurd acquires False.elim

end Dirty

/-! ### A failed acquire -/

section Runs

variable {cfg : WarmupPoolConfig} {w₀ w w' : PoolWorld} {t : Nat} {a : Answer} {message : String}
  {answers : List Answer}

theorem exec_answered {task : Task} (running : w.tasks[t]? = some task)
    (ran : (warmupPool cfg).exec w (answered t (a :: answers)) = some w') :
    ∃ middle, w.run cfg t a task = some middle ∧ (warmupPool cfg).step w (.step t a) = some middle ∧
      (warmupPool cfg).exec middle (answered t answers) = some w' := by
  obtain ⟨middle, taken, rest⟩ := Option.bind_eq_some_iff.mp ran
  refine ⟨middle, ?_, taken, rest⟩
  have stepped : (w.tasks[t]?).bind (w.run cfg t a) = some middle := taken
  rwa [running] at stepped

theorem not_failed_of_returned (returned : w.tasks[t]? = some .returned)
    (ran : (warmupPool cfg).exec w (answered t answers) = some w') :
    w'.tasks[t]? ≠ some (.failed message) := by
  cases answers with
  | nil =>
    cases ran
    rw [returned]
    simp
  | cons =>
    obtain ⟨middle, taken, _⟩ := exec_answered returned ran
    cases taken

theorem along_answered {cond : PoolWorld → Answer → Task → Prop} {task : Task} {middle : PoolWorld}
    (running : w.tasks[t]? = some task)
    (taken : (warmupPool cfg).step w (.step t a) = some middle) :
    (warmupPool cfg).Along (OfTask cond) w (answered t (a :: answers)) ↔
      cond w a task ∧ (warmupPool cfg).Along (OfTask cond) middle (answered t answers) := by
  simp [answered, System.Along, OfTask, running, taken]

theorem Dirty.run {task : Task} (dirty : Dirty w₀ w task) (running : w.tasks[t]? = some task)
    (honest : (warmupPool cfg).Along Honest w (answered t answers))
    (ran : (warmupPool cfg).exec w (answered t answers) = some w')
    (failed : w'.tasks[t]? = some (.failed message)) : ¬ AcquireClean w₀ w' := by
  induction answers generalizing w task with
  | nil =>
    cases ran
    obtain rfl := Option.some.inj (running.symm.trans failed)
    exact dirty.not_clean
  | cons a rest ih =>
    obtain ⟨middle, taken, stepped, ran⟩ := exec_answered running ran
    obtain ⟨here, honest⟩ := (along_answered running stepped).mp honest
    obtain ⟨task', running', returned | dirty⟩ := dirty.step here taken
    · exact absurd failed (not_failed_of_returned (returned ▸ running') ran)
    · exact ih dirty running' honest ran

theorem Neat.run {task : Task} (neat : Neat w₀ w task) (running : w.tasks[t]? = some task)
    (honest : (warmupPool cfg).Along Honest w (answered t answers))
    (ran : (warmupPool cfg).exec w (answered t answers) = some w')
    (failed : w'.tasks[t]? = some (.failed message)) :
    AcquireClean w₀ w' ↔ (warmupPool cfg).Along Careful w (answered t answers) := by
  induction answers generalizing w task with
  | nil =>
    cases ran
    obtain rfl := Option.some.inj (running.symm.trans failed)
    exact ⟨fun _ => trivial, fun _ => neat.accounted.clean⟩
  | cons a rest ih =>
    obtain ⟨middle, taken, stepped, ran⟩ := exec_answered running ran
    obtain ⟨here, honest⟩ := (along_answered running stepped).mp honest
    have split : (warmupPool cfg).Along Careful w (answered t (a :: rest)) ↔
        task.Careful w a ∧ (warmupPool cfg).Along Careful middle (answered t rest) :=
      along_answered running stepped
    rw [split]
    by_cases careful : task.Careful w a
    · obtain ⟨task', running', returned | neat⟩ := neat.step careful taken
      · exact absurd failed (not_failed_of_returned (returned ▸ running') ran)
      · simpa [careful] using ih neat running' honest ran
    · obtain ⟨task', running', returned | dirty⟩ := Dirty.of_neat neat careful taken
      · exact absurd failed (not_failed_of_returned (returned ▸ running') ran)
      · simpa [careful] using dirty.run running' honest ran failed

end Runs

/-! ### A failed release -/

/-- How far a release of `lease` is after its first section. -/
def Task.Releases (w : PoolWorld) (lease : WarmLease) : Task → Prop
  | reset l | health l _ | giveBack l => l = lease ∧ lease.instanceId ∈ w.pool.tracked
  | destroy id (.refill _ .unit) => id = lease.instanceId ∧ id ∈ w.pool.tracked
  | mark id _ (.refill _ .unit) | close id _ (.refill _ .unit) => id = lease.instanceId
  | remove id _ (.refill _ .unit) => id = lease.instanceId ∧ id ∈ w.closed
  | remove id _ (.evict _ _) => id ∈ w.closed ∧ w.Settled lease.instanceId
  | evict _ | destroy _ (.evict _ _) | mark _ _ (.evict _ _) | close _ _ (.evict _ _)
  | fill _ .unit | ensure _ (.fill .unit) | spawn _ (.fill .unit) | wait _ _ (.fill .unit)
  | insert _ _ (.fill .unit) | failed _ => w.Settled lease.instanceId
  | returned => True
  | _ => False

theorem PoolWorld.Settled.pushed {pool : PoolState} {w : PoolWorld} {id : String}
    (settled : w.Settled id) {envType id' : String}
    (queue : ∀ e, pool.queue e = w.pool.queue e) :
    (w.setPool (pool.pushBack envType id')).Settled id := by
  refine settled.imp_right fun ⟨e, member⟩ => ⟨e, ?_⟩
  simp only [PoolWorld.setPool, PoolState.pushBack, PoolState.queue_setQueue]
  by_cases same : envType = e
  · rw [if_pos same, queue envType]
    exact List.mem_append_left _ (same ▸ member)
  · rwa [if_neg same, queue e]

section Release

variable {cfg : WarmupPoolConfig} {w w' : PoolWorld} {t : Nat} {a : Answer} {lease : WarmLease}

variable {next : AfterDestroy} {envType : String}

/-- The release of an instance that is settled goes on in the refill or with the next victim. -/
theorem Task.Releases.destroyed (settled : w.Settled lease.instanceId)
    (kind : (∃ envType rest, next = .evict envType rest) ∨
      ∃ envType, next = .refill envType .unit) :
    Onward (fun w task => task.Releases w lease) t (w.destroyed t next) := by
  rw [PoolWorld.destroyed_eq]
  rcases kind with ⟨envType, rest, rfl⟩ | ⟨envType, rfl⟩
  · cases rest with
    | nil => exact Onward.goto settled
    | cons => exact Onward.goto settled
  · exact Onward.goto settled

/-- What a release of `lease` goes on with when an instance is destroyed. -/
theorem Task.Releases.after {id : String} (envType : String)
    (releases : (Task.destroy id next).Releases w lease ∨
      (Task.mark id envType next).Releases w lease ∨
      (Task.close id envType next).Releases w lease ∨
      (Task.remove id envType next).Releases w lease) :
    (∃ e, next = .refill e .unit) ∨ ∃ e rest, next = .evict e rest := by
  cases next with
  | evict e rest => exact Or.inr ⟨e, rest, rfl⟩
  | refill e next =>
    cases next with
    | unit => exact Or.inl ⟨e, rfl⟩
    | prewarm | retry | lease => simp [Task.Releases] at releases

/-- A release of `lease` fills the queue and goes on with nothing. -/
theorem Task.Releases.unit {next : AfterFill}
    (releases : (Task.fill envType next).Releases w lease) :
    next = .unit := by
  cases next with
  | unit => rfl
  | prewarm | retry | lease => exact releases.elim

/-- What a release of `lease` spawns an instance for. -/
theorem Task.Releases.purpose {purpose : Purpose} (id : String)
    (releases : (Task.ensure envType purpose).Releases w lease ∨
      (Task.spawn envType purpose).Releases w lease ∨
      (Task.wait envType id purpose).Releases w lease ∨
      (Task.insert envType id purpose).Releases w lease) : purpose = .fill .unit := by
  cases purpose with
  | acquire => simp [Task.Releases] at releases
  | fill next =>
    cases next with
    | unit => rfl
    | prewarm | retry | lease => simp [Task.Releases] at releases

theorem Task.Releases.step {task : Task} (releases : task.Releases w lease)
    (ran : w.run cfg t a task = some w') : Onward (fun w task => task.Releases w lease) t w' := by
  cases ran_of_run ran with
  | reset l => exact Onward.goto releases
  | recovered => exact Onward.goto releases
  | spoiled =>
    obtain ⟨rfl, tracked⟩ := releases
    exact Onward.goto ⟨rfl, tracked⟩
  | giveBack l =>
    obtain ⟨rfl, _⟩ := releases
    refine Onward.goto (Or.inr ⟨l.envType, ?_⟩)
    simp [PoolWorld.goto, PoolWorld.setPool, PoolState.pushBack]
  | evict => exact destroyed releases (Or.inl ⟨_, _, rfl⟩)
  | untracked id next gone =>
    rcases after "" (.inl releases) with ⟨e, rfl⟩ | ⟨e, rest, rfl⟩
    · exact absurd releases.2 gone
    · exact destroyed releases (Or.inl ⟨_, _, rfl⟩)
  | destroy =>
    rcases after "" (.inl releases) with ⟨e, rfl⟩ | ⟨e, rest, rfl⟩
    · exact Onward.goto releases.1
    · exact Onward.goto releases
  | mark =>
    rcases after _ (.inr (.inl releases)) with ⟨e, rfl⟩ | ⟨e, rest, rfl⟩
    · exact Onward.goto releases
    · exact Onward.goto releases
  | close =>
    rcases after _ (.inr (.inr (.inl releases))) with ⟨e, rfl⟩ | ⟨e, rest, rfl⟩
    · exact Onward.goto ⟨releases, List.mem_cons_self⟩
    · exact Onward.goto ⟨List.mem_cons_self, releases.imp_left (List.mem_cons_of_mem _)⟩
  | remove id envType =>
    rcases after _ (.inr (.inr (.inr releases))) with ⟨e, rfl⟩ | ⟨e, rest, rfl⟩
    · obtain ⟨rfl, shut⟩ := releases
      exact destroyed (Or.inl shut) (Or.inr ⟨_, rfl⟩)
    · obtain ⟨shut, settled⟩ := releases
      refine destroyed ?_ (Or.inl ⟨_, _, rfl⟩)
      by_cases own : lease.instanceId = id
      · exact Or.inl (own ▸ shut)
      · refine settled.imp_right fun queued => ?_
        obtain ⟨e, member⟩ := queued
        refine ⟨e, ?_⟩
        simp only [PoolWorld.setPool, PoolState.queue_remove]
        by_cases same : envType = e
        · rw [if_pos same]
          exact List.mem_filter.mpr ⟨member, by simpa using own⟩
        · rwa [if_neg same]
  | full =>
    obtain rfl := unit releases
    exact Onward.goto trivial
  | fill =>
    obtain rfl := unit releases
    exact Onward.goto releases
  | ensure =>
    obtain rfl := Task.Releases.purpose "" (.inl releases)
    exact Onward.goto releases
  | unresolved =>
    obtain rfl := Task.Releases.purpose "" (.inl releases)
    exact Onward.goto releases
  | spawn =>
    obtain rfl := Task.Releases.purpose "" (.inr (.inl releases))
    exact Onward.goto releases
  | unspawned =>
    obtain rfl := Task.Releases.purpose "" (.inr (.inl releases))
    exact Onward.goto releases
  | wait =>
    obtain rfl := Task.Releases.purpose _ (.inr (.inr (.inl releases)))
    exact Onward.goto releases
  | unready =>
    obtain rfl := Task.Releases.purpose _ (.inr (.inr (.inl releases)))
    exact Onward.goto releases
  | insert =>
    obtain rfl := Task.Releases.purpose _ (.inr (.inr (.inr releases)))
    exact Onward.goto (releases.pushed fun _ => rfl)
  | _ => exact releases.elim

theorem Task.Releases.run {answers : List Answer} {message : String} {task : Task}
    (releases : task.Releases w lease) (running : w.tasks[t]? = some task)
    (ran : (warmupPool cfg).exec w (answered t answers) = some w')
    (failed : w'.tasks[t]? = some (.failed message)) : w'.Settled lease.instanceId := by
  induction answers generalizing w task with
  | nil =>
    cases ran
    obtain rfl := Option.some.inj (running.symm.trans failed)
    exact releases
  | cons a rest ih =>
    obtain ⟨middle, taken, _, ran⟩ := exec_answered running ran
    obtain ⟨task', running', returned | releases⟩ := releases.step taken
    · exact absurd failed (not_failed_of_returned (returned ▸ running') ran)
    · exact ih releases running' ran

theorem Task.Releases.begin (busy : lease.instanceId ∈ w.pool.active) (now : Nat) :
    Onward (fun w task => task.Releases w lease) t (w.release cfg t lease now) := by
  rw [PoolWorld.release, if_neg (not_not_intro busy)]
  cases known : w.pool.tracked[lease.instanceId]? with
  | none =>
    have unchanged : (w.pool.deactivate lease.instanceId).tracked[lease.instanceId]? = none := known
    simp only [unchanged]
    exact Onward.goto trivial
  | some tracked =>
    have unchanged :
      (w.pool.deactivate lease.instanceId).tracked[lease.instanceId]? = some tracked := known
    have present : ∀ f, lease.instanceId ∈
        ((w.pool.deactivate lease.instanceId).modify lease.instanceId f).tracked := fun f =>
      (PoolState.mem_tracked_modify _ _ _ f).mpr ((mem_iff_lookup _ _).mpr ⟨tracked, known⟩)
    simp only [unchanged]
    by_cases worn : max cfg.maxEpisodeCount 1 ≤ tracked.episodeCount + 1
    · rw [if_pos worn]
      exact Onward.goto ⟨rfl, present _⟩
    · rw [if_neg worn]
      exact Onward.goto ⟨rfl, present _⟩

end Release

instance (w : PoolWorld) (a : Answer) : ∀ task : Task, Decidable (task.Honest w a)
  | .check _ id => inferInstanceAs (Decidable (a.ok = true → id ∉ w.closed))
  | .prewarm _ | .pop _ | .take _ _ | .fill _ _ | .ensure _ _ | .spawn _ _ | .wait _ _ _
  | .insert _ _ _ | .destroy _ _ | .mark _ _ _ | .close _ _ _ | .remove _ _ _ | .release _
  | .reset _ | .health _ _ | .giveBack _ | .evict _ | .returned | .failed _ => .isTrue trivial

instance (w : PoolWorld) (a : Answer) : ∀ task : Task, Decidable (task.Careful w a)
  | .check _ id =>
    inferInstanceAs (Decidable (a.ok = true ∨ id ∉ w.pool.tracked ∨ id ∉ w.pool.active))
  | .ensure _ purpose | .spawn _ purpose =>
    inferInstanceAs (Decidable (a.ok = true ∨ purpose.taken = none))
  | .wait _ _ _ => inferInstanceAs (Decidable (a.ok = true))
  | .prewarm _ | .pop _ | .take _ _ | .fill _ _ | .insert _ _ _ | .destroy _ _ | .mark _ _ _
  | .close _ _ _ | .remove _ _ _ | .release _ | .reset _ | .health _ _ | .giveBack _ | .evict _
  | .returned | .failed _ => .isTrue trivial

instance decidableOfTask (cond : PoolWorld → Answer → Task → Prop)
    [∀ w a task, Decidable (cond w a task)] (w : PoolWorld) :
    ∀ label, Decidable (OfTask cond w label)
  | .step t a => inferInstanceAs (Decidable (∀ task ∈ w.tasks[t]?, cond w a task))
  | .call _ _ => .isTrue trivial

instance : ∀ w label, Decidable (Honest w label) := decidableOfTask Task.Honest

instance : ∀ w label, Decidable (Careful w label) := decidableOfTask Task.Careful

/-- A call alone that fails, from any state. An acquire leaves `active` as it was and every instance
that it spawned closed or in a warm queue, exactly when no spawned instance fails to become ready,
nothing fails in the refill after its lease was taken, and it destroys no instance that is active. A
release leaves an instance that it took out of `active` closed or in a warm queue. -/
theorem failed_calls (cfg : WarmupPoolConfig) {w w' : PoolWorld} (known : w.Known) (t : Nat)
    (answers : List Answer) {message : String}
    (failed : w'.tasks[t]? = some (.failed message)) :
    (∀ envType, (warmupPool cfg).exec w (.call t (.acquire envType) :: answered t answers) =
      some w' →
      (warmupPool cfg).Along Honest w (.call t (.acquire envType) :: answered t answers) →
      (AcquireClean w w' ↔
        (warmupPool cfg).Along Careful w (.call t (.acquire envType) :: answered t answers))) ∧
    ∀ holder lease, w.leases[holder]? = some lease → lease.instanceId ∈ w.pool.active →
      (warmupPool cfg).exec w (.call t (.release holder) :: answered t answers) = some w' →
      w'.Settled lease.instanceId := by
  constructor
  · intro envType ran honest
    obtain ⟨middle, called, ran⟩ := Option.bind_eq_some_iff.mp ran
    have honest := honest.2 middle called
    have start : (warmupPool cfg).step w (.call t (.acquire envType)) = some middle := called
    obtain rfl := Option.some.inj (start_of_called called)
    have neat : Neat w (w.goto t (.pop envType)) (.pop envType) :=
      ⟨trivial, (Accounted.start known).goto _, trivial⟩
    rw [neat.run (w.goto_task t _) honest ran failed]
    constructor
    · intro careful
      refine ⟨trivial, fun w'' taken => ?_⟩
      obtain rfl := Option.some.inj (start.symm.trans taken)
      exact careful
    · exact fun careful => careful.2 _ start
  · intro holder lease lent busy ran
    obtain ⟨middle, called, ran⟩ := Option.bind_eq_some_iff.mp ran
    have begun := start_of_called called
    rw [PoolWorld.start, lent] at begun
    cases begun
    have running := { w with leases := w.leases.erase holder }.goto_task t (.release lease)
    cases answers with
    | nil =>
      cases ran
      exact absurd (running.symm.trans failed) (by simp)
    | cons a =>
      obtain ⟨middle, taken, _, ran⟩ := exec_answered running ran
      cases taken
      have begun : Onward (fun w task => task.Releases w lease) t (PoolWorld.release cfg
          ({ w with leases := w.leases.erase holder }.goto t (.release lease)) t lease a.now) := by
        apply Task.Releases.begin
        exact busy
      obtain ⟨task, running, returned | releases⟩ := begun
      · exact absurd failed (not_failed_of_returned (returned ▸ running) ran)
      · exact releases.run running ran failed

theorem Held.known {w : PoolWorld} (held : Held w) : w.Known where
  closed := fun id shut => held.born id (Or.inr (Or.inl shut))
  active := fun id busy => held.born id (Or.inr (Or.inr (Or.inl busy)))
  queued := fun e id member => held.born id (Or.inl ⟨.queue e, .warm e, rfl, member⟩)

/-- One instance is spawned ahead. -/
def prewarmed : List PoolLabel :=
  .call 0 (.prewarm ["math"]) :: steps 0 3 ++ .step 0 { id := "a" } :: steps 0 4

def refused : Answer := { ok := false, message := "no such plugin" }

/-- The instance is unhealthy, and the refill after its end fails. -/
def unhealthy : List PoolLabel :=
  .call 1 (.acquire "math") :: answered 1 [{}, refused, {}, {}, {}, {}, {}, {}, refused]

/-- The instance is taken, and the refill fails. -/
def unstocked : List PoolLabel :=
  .call 1 (.acquire "math") :: answered 1 [{}, {}, {}, {}, {}, refused]

theorem failed_calls_unhealthy : ∃ w w' : PoolWorld, "a" ∈ w.pool.queue "math" ∧
    w'.tasks[1]? = some (.failed "no such plugin") ∧ "a" ∈ w'.closed ∧ AcquireClean w w' := by
  have facts : ((warmupPool restless).exec {} prewarmed).any (fun w =>
      decide ("a" ∈ w.pool.queue "math" ∧ (warmupPool restless).Along Honest w unhealthy ∧
        (warmupPool restless).Along Careful w unhealthy) &&
      ((warmupPool restless).exec w unhealthy).any fun w' =>
        decide (w'.tasks[1]? = some (.failed "no such plugin") ∧ "a" ∈ w'.closed)) = true := by
    decide +kernel
  obtain ⟨w, stocked, facts⟩ := (Option.any_eq_true _ _).mp facts
  obtain ⟨before, after⟩ := Bool.and_eq_true_iff.mp facts
  obtain ⟨queued, honest, careful⟩ := of_decide_eq_true before
  obtain ⟨w', ran, after⟩ := (Option.any_eq_true _ _).mp after
  obtain ⟨failed, shut⟩ := of_decide_eq_true after
  have reached : ReachableWhen (warmupPool restless) Unclaimed w :=
    ReachableWhen.of_exec (.start rfl) prewarmed (by decide +kernel) stocked
  have clean :=
    (failed_calls restless (Held.of_reached reached).known 1 _ failed).1 "math" ran honest
  exact ⟨w, w', queued, failed, shut, clean.mpr careful⟩

/-- An acquire that fails in the refill after it took an instance leaves it in `active`. -/
theorem taken_instance_left_active :
    ¬ ∀ (cfg : WarmupPoolConfig) (w w' : PoolWorld), Reachable (warmupPool cfg) w →
      ∀ (t : Nat) (envType : String) (answers : List Answer) (message : String),
        (warmupPool cfg).exec w (.call t (.acquire envType) :: answered t answers) = some w' →
        w'.tasks[t]? = some (.failed message) → AcquireClean w w' := by
  intro always
  have facts : ((warmupPool restless).exec {} prewarmed).any (fun w =>
      decide ("a" ∉ w.pool.active) && ((warmupPool restless).exec w unstocked).any fun w' =>
        decide (w'.tasks[1]? = some (.failed "no such plugin") ∧ "a" ∈ w'.pool.active)) = true := by
    decide +kernel
  obtain ⟨w, stocked, facts⟩ := (Option.any_eq_true _ _).mp facts
  obtain ⟨before, after⟩ := Bool.and_eq_true_iff.mp facts
  obtain ⟨w', ran, after⟩ := (Option.any_eq_true _ _).mp after
  obtain ⟨failed, busy⟩ := of_decide_eq_true after
  have clean :=
    always restless w w' (Reachable.of_exec rfl prewarmed stocked) 1 "math" _ _ ran failed
  exact of_decide_eq_true before ((clean.active "a").mp busy)

end UEnv.Worker
