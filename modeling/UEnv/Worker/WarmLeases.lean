import UEnv.Worker.WarmupPool

/-!
# The leases of the warm pool

Every instance is held in one place: in a warm queue, by a task, or by an outstanding lease. What
is known of it depends on its stage there. An eviction works on instances that it does not hold,
so the exception is an acquire that takes an instance which an eviction has collected.
-/

namespace UEnv.Worker

open Tables Runs

attribute [local simp] PoolWorld.goto PoolWorld.setPool

/-! ### Who holds an instance -/

/-- How far an instance is, for whoever holds it. -/
inductive Stage
  | warm (envType : String)
  | candidate (envType : String)
  | fresh
  | leaving
  | cooling (envType : String)
  | leased (envType : String)
  deriving DecidableEq

def WarmLease.held (lease : WarmLease) : Stage × String := (.leased lease.envType, lease.instanceId)

/-- The lease that is returned after a refill. -/
def AfterFill.taken : AfterFill → Option WarmLease
  | .lease granted => some granted
  | .prewarm _ | .retry _ | .unit => none

def Purpose.taken : Purpose → Option WarmLease
  | acquire => none
  | fill next => next.taken

/-- An instance that is not evicted is destroyed by whoever holds it. -/
def AfterDestroy.owned (id : String) : AfterDestroy → Option (Stage × String)
  | refill _ _ => some (.leaving, id)
  | evict _ _ => none

def AfterDestroy.taken : AfterDestroy → Option WarmLease
  | refill _ next => next.taken
  | evict _ _ => none

/-- The instances that an eviction has still to destroy. -/
def AfterDestroy.victims (id : String) : AfterDestroy → List String
  | refill _ _ => []
  | evict _ rest => id :: rest

inductive Slot
  | owned | taken
  deriving DecidableEq

namespace Task

/-- The instance that a task holds for itself. -/
def owned : Task → Option (Stage × String)
  | check envType id | take envType id => some (.candidate envType, id)
  | wait _ id _ | insert _ id _ => some (.fresh, id)
  | destroy id next | mark id _ next | close id _ next | remove id _ next => next.owned id
  | reset lease | health lease _ | giveBack lease =>
    some (.cooling lease.envType, lease.instanceId)
  | _ => none

/-- The lease that a task holds. -/
def taken : Task → Option WarmLease
  | fill _ next => next.taken
  | ensure _ purpose | spawn _ purpose | wait _ _ purpose | insert _ _ purpose => purpose.taken
  | destroy _ next | mark _ _ next | close _ _ next | remove _ _ next => next.taken
  | .release lease => some lease
  | _ => none

def holds (task : Task) : Slot → Option (Stage × String)
  | .owned => task.owned
  | .taken => task.taken.map WarmLease.held

def victims : Task → List String
  | destroy id next | mark id _ next | close id _ next | remove id _ next => next.victims id
  | _ => []

/-- The instance that a task is removing from the pool. -/
def subject : Task → Option String
  | mark id _ _ | close id _ _ | remove id _ _ => some id
  | _ => none

/-- An instance that is being removed is held for that, or an eviction has collected it. -/
theorem subject_held {task : Task} {id : String} (removing : task.subject = some id) :
    task.holds .owned = some (.leaving, id) ∨ id ∈ task.victims := by
  have after (next : AfterDestroy) : next.owned id = some (.leaving, id) ∨
      id ∈ next.victims id := by
    cases next with
    | refill => exact Or.inl rfl
    | evict => exact Or.inr List.mem_cons_self
  cases task with
  | mark id' _ next | close id' _ next | remove id' _ next =>
    cases removing
    exact after next
  | _ => simp [subject] at removing

end Task

inductive Holder
  | queue (envType : String)
  | task (t : Nat) (slot : Slot)
  | lease (t : Nat)
  deriving DecidableEq

namespace PoolWorld

variable (w : PoolWorld)

/-- An instance is held at a stage. -/
def At : Holder → Stage → String → Prop
  | .queue envType, stage, id => stage = .warm envType ∧ id ∈ w.pool.queue envType
  | .task t slot, stage, id => (w.tasks[t]?).bind (·.holds slot) = some (stage, id)
  | .lease t, stage, id => (w.leases[t]?).map WarmLease.held = some (stage, id)

/-- A running eviction has still to destroy the instance. -/
def Victim (id : String) : Prop :=
  ∃ (t : Nat) (task : Task), w.tasks[t]? = some task ∧ id ∈ task.victims

end PoolWorld

theorem Task.not_warm (task : Task) (slot : Slot) (envType id : String) :
    task.holds slot ≠ some (.warm envType, id) := by
  have after (id' : String) (next : AfterDestroy) : next.owned id' ≠ some (.warm envType, id) := by
    cases next <;> simp [AfterDestroy.owned]
  cases slot with
  | owned => cases task <;> first | exact after _ _ | simp [holds, owned]
  | taken => simp [holds, WarmLease.held]

theorem PoolWorld.at_warm {w : PoolWorld} {h : Holder} {envType id : String}
    (there : w.At h (.warm envType) id) : h = .queue envType := by
  cases h with
  | queue e =>
    obtain ⟨fits, _⟩ := there
    rw [Stage.warm.inj fits]
  | task t slot =>
    obtain ⟨task, _, holding⟩ := Option.bind_eq_some_iff.mp there
    exact absurd holding (task.not_warm slot envType id)
  | lease t =>
    obtain ⟨lease, _, holding⟩ := Option.map_eq_some_iff.mp there
    exact Stage.noConfusion (Prod.mk.inj holding).1

/-- What is known of an instance at a stage. -/
def Stage.Good (w : PoolWorld) (id : String) : Stage → Prop
  | warm envType => id ∉ w.pool.active ∧ w.pool.env id = some envType
  | candidate envType => id ∉ w.pool.active ∧ (id ∉ w.closed → w.pool.env id = some envType)
  | fresh => id ∉ w.pool.active ∧ id ∉ w.closed ∧ ¬ w.Victim id
  | leaving => id ∉ w.pool.active
  | cooling envType =>
    id ∉ w.pool.active ∧ id ∉ w.closed ∧ ¬ w.Victim id ∧ w.pool.env id = some envType
  | leased envType =>
    id ∈ w.pool.active ∧ id ∉ w.closed ∧ ¬ w.Victim id ∧ w.pool.env id = some envType

/-- What a task knows of the instance that it destroys. -/
def Task.Marked (w : PoolWorld) : Task → Prop
  | .mark id envType _ | .close id envType _ => ∀ e, w.pool.env id = some e → e = envType
  | .remove id envType _ => (∀ e, w.pool.env id = some e → e = envType) ∧ id ∈ w.closed
  | _ => True

/-- Every instance is held once, at a stage that fits. -/
structure Held (w : PoolWorld) : Prop where
  sole : ∀ h h' stage stage' id, w.At h stage id → w.At h' stage' id → h = h'
  nodup : ∀ envType, (w.pool.queue envType).Nodup
  good : ∀ h stage id, w.At h stage id → stage.Good w id
  born : ∀ id, (∃ h stage, w.At h stage id) ∨ id ∈ w.closed ∨ id ∈ w.pool.active ∨ w.Victim id →
    id ∈ w.spawned
  marked : ∀ (t : Nat) (task : Task), w.tasks[t]? = some task → task.Marked w

/-! ### What a step does not touch -/

section Frame

variable {w w' : PoolWorld} {t : Nat} {new : Task}

variable {stage : Stage}

section

variable (tasks : w'.tasks = w.tasks.insert t new)
include tasks

theorem PoolWorld.at_task {t' : Nat} {slot : Slot} {id : String} : w'.At (.task t' slot) stage id ↔
      if t = t' then new.holds slot = some (stage, id) else w.At (.task t' slot) stage id := by
  by_cases same : t = t' <;> simp [PoolWorld.At, tasks, same]

theorem PoolWorld.victim_cases {id : String} (victim : w'.Victim id) :
    id ∈ new.victims ∨ w.Victim id := by
  obtain ⟨t', task, running, collected⟩ := victim
  rw [tasks] at running
  rcases lookup_insert_cases running with ⟨_, rfl⟩ | running
  · exact Or.inl collected
  · exact Or.inr ⟨t', task, running, collected⟩

theorem PoolWorld.not_victim (none : new.victims = []) {id : String} (free : ¬ w.Victim id) :
    ¬ w'.Victim id := by
  intro victim
  rcases PoolWorld.victim_cases tasks victim with member | old
  · simp [none] at member
  · exact free old

end

theorem PoolWorld.at_owned {task : Task} (running : w.tasks[t]? = some task) {id : String}
    (owned : task.owned = some (stage, id)) : w.At (.task t .owned) stage id := by
  rw [PoolWorld.At, running]
  exact owned

theorem PoolWorld.at_taken {task : Task} (running : w.tasks[t]? = some task) {lease : WarmLease}
    (taken : task.taken = some lease) :
    w.At (.task t .taken) (.leased lease.envType) lease.instanceId := by
  rw [PoolWorld.At, running, Option.bind_some, Task.holds, taken]
  rfl

/-- What is known of an instance is the same in two worlds. -/
structure SameAt (w w' : PoolWorld) (id : String) : Prop where
  active : id ∈ w'.pool.active ↔ id ∈ w.pool.active
  closed : id ∈ w'.closed ↔ id ∈ w.closed
  victim : w'.Victim id → w.Victim id
  env : w'.pool.env id = w.pool.env id

theorem SameAt.good {id : String} (same : SameAt w w' id) (good : stage.Good w id) :
    stage.Good w' id := by
  have inactive : id ∉ w.pool.active → id ∉ w'.pool.active := fun away here =>
    away (same.active.mp here)
  have alive : id ∉ w.closed → id ∉ w'.closed := fun away here => away (same.closed.mp here)
  have free : ¬ w.Victim id → ¬ w'.Victim id := fun away here => away (same.victim here)
  cases stage with
  | warm => exact ⟨inactive good.1, same.env.trans good.2⟩
  | candidate =>
    refine ⟨inactive good.1, fun away => same.env.trans (good.2 fun here => ?_)⟩
    exact away (same.closed.mpr here)
  | fresh => exact ⟨inactive good.1, alive good.2.1, free good.2.2⟩
  | leaving => exact inactive good
  | cooling =>
    exact ⟨inactive good.1, alive good.2.1, free good.2.2.1, same.env.trans good.2.2.2⟩
  | leased =>
    exact ⟨same.active.mpr good.1, alive good.2.1, free good.2.2.1, same.env.trans good.2.2.2⟩

theorem Task.Marked.of_subject {task : Task} (marked : task.Marked w)
    (env : ∀ id, task.subject = some id → ∀ e, w'.pool.env id = some e → w.pool.env id = some e)
    (closed : ∀ id ∈ w.closed, id ∈ w'.closed) : task.Marked w' := by
  cases task with
  | mark id envType next | close id envType next =>
    exact fun e known => marked e (env id rfl e known)
  | remove id =>
    exact ⟨fun e known => marked.1 e (env id rfl e known), closed id marked.2⟩
  | _ => trivial

end Frame

namespace Held

variable {w w' : PoolWorld} {t : Nat} {new : Task}

theorem only (held : Held w) {h h' : Holder} {stage stage' : Stage} {id : String}
    (here : w.At h stage id) (there : w.At h' stage' id) : h' = h :=
  held.sole h' h stage' stage id there here

theorem marked_after (held : Held w) (tasks : w'.tasks = w.tasks.insert t new)
    (marked : new.Marked w')
    (env : ∀ t' task, t' ≠ t → w.tasks[t']? = some task → ∀ id, task.subject = some id →
      ∀ e, w'.pool.env id = some e → w.pool.env id = some e)
    (closed : ∀ id ∈ w.closed, id ∈ w'.closed) (t' : Nat) (task : Task)
    (running : w'.tasks[t']? = some task) : task.Marked w' := by
  rw [tasks] at running
  by_cases own : t = t'
  · subst own
    rw [lookup_insert, if_pos rfl] at running
    exact Option.some.inj running ▸ marked
  · rw [lookup_insert, if_neg own] at running
    exact (held.marked t' task running).of_subject (env t' task (Ne.symm own) running) closed

/-- One instance moves to `target`; the others stay where they are. -/
theorem move (held : Held w) (tasks : w'.tasks = w.tasks.insert t new) {y : String}
    (target : Holder) (stage : Stage)
    (queues : ∀ e id, id ∈ w'.pool.queue e →
      (id = y ∧ target = .queue e ∧ stage = .warm e) ∨ (id ≠ y ∧ id ∈ w.pool.queue e))
    (slots : ∀ slot st id, new.holds slot = some (st, id) →
      (id = y ∧ target = .task t slot ∧ st = stage) ∨ (id ≠ y ∧ w.At (.task t slot) st id))
    (elsewhere : ∀ t' slot st, t' ≠ t → ¬ w.At (.task t' slot) st y)
    (leases : ∀ t' st id, w'.At (.lease t') st id →
      (id = y ∧ target = .lease t' ∧ st = stage) ∨ (id ≠ y ∧ w.At (.lease t') st id))
    (nodup : ∀ e, (w'.pool.queue e).Nodup)
    (good : stage.Good w' y)
    (active : ∀ id, id ≠ y → (id ∈ w'.pool.active ↔ id ∈ w.pool.active))
    (env : ∀ id, id ≠ y → w'.pool.env id = w.pool.env id)
    (removing : (∀ e, w'.pool.env y = some e → w.pool.env y = some e) ∨ ¬ w.Victim y)
    (closed : w'.closed = w.closed) (victims : ∀ id ∈ new.victims, w.Victim id)
    (kept : ∀ id ∈ w.spawned, id ∈ w'.spawned) (here : y ∈ w'.spawned)
    (marked : new.Marked w') : Held w' := by
  have victim : ∀ id, w'.Victim id → w.Victim id := fun id known =>
    (PoolWorld.victim_cases tasks known).elim (victims id) fun old => old
  have same : ∀ id, id ≠ y → SameAt w w' id := fun id other =>
    ⟨active id other, by rw [closed], victim id, env id other⟩
  have holds : ∀ h st id, w'.At h st id →
      (id = y ∧ target = h ∧ st = stage) ∨ (id ≠ y ∧ w.At h st id) := by
    intro h st id at_
    cases h with
    | queue e =>
      obtain ⟨rfl, member⟩ := at_
      rcases queues e id member with ⟨rfl, rfl, rfl⟩ | ⟨other, old⟩
      · exact Or.inl ⟨rfl, rfl, rfl⟩
      · exact Or.inr ⟨other, rfl, old⟩
    | task t' slot =>
      rw [PoolWorld.at_task tasks] at at_
      by_cases own : t = t'
      · subst own
        rw [if_pos rfl] at at_
        exact slots slot st id at_
      · rw [if_neg own] at at_
        refine Or.inr ⟨?_, at_⟩
        rintro rfl
        exact elsewhere t' slot st (Ne.symm own) at_
    | lease t' => exact leases t' st id at_
  refine ⟨?_, nodup, ?_, ?_, ?_⟩
  · intro h h' st st' id at_ at_'
    rcases holds h st id at_ with ⟨rfl, rfl, _⟩ | ⟨other, old⟩
    · rcases holds h' st' _ at_' with ⟨_, same, _⟩ | ⟨other, _⟩
      · exact same
      · exact absurd rfl other
    · rcases holds h' st' id at_' with ⟨here, _⟩ | ⟨_, old'⟩
      · exact absurd here other
      · exact held.sole h h' st st' id old old'
  · intro h st id at_
    rcases holds h st id at_ with ⟨rfl, _, rfl⟩ | ⟨other, old⟩
    · exact good
    · exact (same id other).good (held.good h st id old)
  · intro id known
    by_cases moved : id = y
    · exact moved ▸ here
    have same := same id moved
    apply kept
    apply held.born
    rcases known with ⟨h, st, at_⟩ | shut | busy | collected
    · rcases holds h st id at_ with ⟨here, _⟩ | ⟨_, old⟩
      · exact absurd here moved
      · exact Or.inl ⟨h, st, old⟩
    · exact Or.inr (Or.inl (same.closed.mp shut))
    · exact Or.inr (Or.inr (Or.inl (same.active.mp busy)))
    · exact Or.inr (Or.inr (Or.inr (same.victim collected)))
  · refine held.marked_after tasks marked ?_ (fun id shut => closed ▸ shut)
    intro t' task other running id subject e known
    by_cases moved : id = y
    · subst moved
      rcases removing with unchanged | free
      · exact unchanged e known
      · rcases Task.subject_held subject with owned | collected
        · refine absurd ?_ (elsewhere t' .owned .leaving other)
          rw [PoolWorld.At, running]
          exact owned
        · exact absurd ⟨t', task, running, collected⟩ free
    · exact (env id moved) ▸ known

theorem at_before (tasks : w'.tasks = w.tasks.insert t new)
    (queues : ∀ e, ∀ id ∈ w'.pool.queue e, id ∈ w.pool.queue e) (leases : w'.leases = w.leases)
    (slots : ∀ slot st id, new.holds slot = some (st, id) →
      ∃ st', w.At (.task t slot) st' id ∧ (st'.Good w id → st.Good w id))
    (h : Holder) (st : Stage) (id : String) (now : w'.At h st id) :
    ∃ st', w.At h st' id ∧ (st'.Good w id → st.Good w id) := by
  cases h with
  | queue e => exact ⟨st, ⟨now.1, queues e id now.2⟩, fun good => good⟩
  | task t' slot =>
    rw [PoolWorld.at_task tasks] at now
    by_cases own : t = t'
    · subst own
      rw [if_pos rfl] at now
      exact slots slot st id now
    · rw [if_neg own] at now
      exact ⟨st, now, fun good => good⟩
  | lease t' =>
    rw [PoolWorld.At, leases] at now
    exact ⟨st, now, fun good => good⟩

/-- Nothing moves, and what is known of the instances that are still held stays good. -/
theorem keep (held : Held w) (tasks : w'.tasks = w.tasks.insert t new)
    (holds : ∀ h st id, w'.At h st id → ∃ st', w.At h st' id ∧ (st'.Good w id → st.Good w id))
    (nodup : ∀ e, (w'.pool.queue e).Nodup)
    (good : ∀ h st id, w'.At h st id → st.Good w id → st.Good w' id)
    (known : ∀ id, id ∈ w'.closed ∨ id ∈ w'.pool.active ∨ w'.Victim id → id ∈ w.spawned)
    (spawned : w'.spawned = w.spawned)
    (env : ∀ id e, w'.pool.env id = some e → w.pool.env id = some e)
    (closed : ∀ id ∈ w.closed, id ∈ w'.closed) (marked : new.Marked w') : Held w' := by
  refine ⟨?_, nodup, ?_, ?_, ?_⟩
  · intro h h' st st' id now now'
    obtain ⟨_, old, _⟩ := holds h st id now
    obtain ⟨_, old', _⟩ := holds h' st' id now'
    exact held.sole h h' _ _ id old old'
  · intro h st id now
    obtain ⟨st', old, weaker⟩ := holds h st id now
    exact good h st id now (weaker (held.good h st' id old))
  · intro id here
    rw [spawned]
    rcases here with ⟨h, st, now⟩ | here
    · obtain ⟨st', old, _⟩ := holds h st id now
      exact held.born id (Or.inl ⟨h, st', old⟩)
    · exact known id here
  · exact held.marked_after tasks marked (fun _ _ _ _ id _ => env id) closed

theorem stay (held : Held w) (tasks : w'.tasks = w.tasks.insert t new)
    (queues : ∀ e, w'.pool.queue e = w.pool.queue e) (leases : w'.leases = w.leases)
    (active : ∀ id, id ∈ w'.pool.active ↔ id ∈ w.pool.active)
    (env : ∀ id, w'.pool.env id = w.pool.env id)
    (closed : w'.closed = w.closed) (spawned : w'.spawned = w.spawned)
    (slots : ∀ slot st id, new.holds slot = some (st, id) →
      ∃ st', w.At (.task t slot) st' id ∧ (st'.Good w id → st.Good w id))
    (victims : ∀ id ∈ new.victims, w.Victim id) (marked : new.Marked w') : Held w' := by
  have same : ∀ id, SameAt w w' id := fun id =>
    ⟨active id, by rw [closed], fun known =>
      (PoolWorld.victim_cases tasks known).elim (victims id) fun old => old, env id⟩
  apply held.keep tasks
  · exact at_before tasks (fun e id member => queues e ▸ member) leases slots
  · exact fun e => queues e ▸ held.nodup e
  · exact fun h st id _ good => (same id).good good
  · intro id known
    refine held.born id (Or.inr ?_)
    rcases known with shut | busy | collected
    · exact Or.inl ((same id).closed.mp shut)
    · exact Or.inr (Or.inl ((same id).active.mp busy))
    · exact Or.inr (Or.inr ((same id).victim collected))
  · exact spawned
  · exact fun id e known => env id ▸ known
  · exact fun id shut => closed ▸ shut
  · exact marked

end Held

/-! ### Each step -/

section Steps

variable {w : PoolWorld} {t : Nat}

/-- Where a task goes after `destroy_instance`. -/
def AfterDestroy.task : AfterDestroy → Task
  | refill envType next => .fill envType next
  | evict envType [] => .fill envType .unit
  | evict envType (id :: rest) => .destroy id (.evict envType rest)

section

variable (next : AfterDestroy)
include next

theorem PoolWorld.destroyed_eq : w.destroyed t next = w.goto t next.task := by
  cases next with
  | refill => rfl
  | evict envType rest => cases rest <;> rfl

theorem AfterDestroy.owned_task : next.task.owned = none := by
  cases next with
  | refill => rfl
  | evict envType rest => cases rest <;> rfl

theorem AfterDestroy.taken_task : next.task.taken = next.taken := by
  cases next with
  | refill => rfl
  | evict envType rest => cases rest <;> rfl

theorem AfterDestroy.victims_task (id : String) :
    ∀ id' ∈ next.task.victims, id' ∈ next.victims id := by
  cases next with
  | refill => simp [task, Task.victims]
  | evict envType rest =>
    cases rest with
    | nil => simp [task, Task.victims]
    | cons => exact fun id' member => List.mem_cons_of_mem _ member

theorem AfterDestroy.marked_task : next.task.Marked w := by
  cases next with
  | refill => trivial
  | evict envType rest => cases rest <;> trivial

end

namespace Held

variable {new : Task} {f : TrackedInstance → TrackedInstance} {next : AfterDestroy}

section

variable (held : Held w)
include held

theorem goto (slots : ∀ slot st id, new.holds slot = some (st, id) →
      ∃ st', w.At (.task t slot) st' id ∧ (st'.Good w id → st.Good w id))
    (victims : ∀ id ∈ new.victims, w.Victim id) (marked : new.Marked w) : Held (w.goto t new) := by
  refine held.stay (show (w.goto t new).tasks = _ from rfl) (fun _ => rfl) rfl (fun _ => Iff.rfl)
    (fun _ => rfl) rfl rfl slots victims ?_
  exact marked.of_subject (fun _ _ _ known => known) fun _ shut => shut

theorem drop (owned : new.owned = none) (taken : new.taken = none) (victims : new.victims = [])
    (marked : new.Marked w) : Held (w.goto t new) := by
  refine held.goto ?_ (by simp [victims]) marked
  intro slot st id now
  cases slot <;> simp [Task.holds, owned, taken] at now

theorem pass {old : Task} (running : w.tasks[t]? = some old)
    (slots : ∀ slot st id, new.holds slot = some (st, id) →
      ∃ st', old.holds slot = some (st', id) ∧ (st'.Good w id → st.Good w id))
    (victims : ∀ id ∈ new.victims, id ∈ old.victims) (marked : new.Marked w) :
    Held (w.goto t new) := by
  refine held.goto ?_ (fun id member => ⟨t, old, running, victims id member⟩) marked
  intro slot st id now
  obtain ⟨st', before, weaker⟩ := slots slot st id now
  exact ⟨st', by rw [PoolWorld.At, running]; exact before, weaker⟩

theorem pop {envType id : String} {rest : List String}
    (queued : w.pool.queue envType = id :: rest) :
    Held ((w.setPool (w.pool.setQueue envType rest)).goto t (.check envType id)) := by
  have distinct := held.nodup envType
  rw [queued, List.nodup_cons] at distinct
  have here : w.At (.queue envType) (.warm envType) id := ⟨rfl, queued ▸ List.mem_cons_self⟩
  have good := held.good _ _ _ here
  have source : ∀ h st, w.At h st id → h = .queue envType := fun h st there => held.only here there
  refine held.move (show _ = w.tasks.insert t (.check envType id) from rfl) (.task t .owned)
    (.candidate envType) ?_ ?_ ?_ ?_ ?_ ⟨good.1, fun _ => good.2⟩ (fun _ _ => Iff.rfl)
    (fun _ _ => rfl) (Or.inl fun _ known => known) rfl (by simp [Task.victims]) (fun _ old => old)
    (held.born id (Or.inl ⟨_, _, here⟩)) trivial
  · intro e id' member
    simp only [PoolWorld.goto, PoolWorld.setPool, PoolState.queue_setQueue] at member
    refine Or.inr ?_
    by_cases same : envType = e
    · rw [if_pos same] at member
      exact ⟨fun equal => distinct.1 (equal ▸ member),
        same ▸ queued ▸ List.mem_cons_of_mem _ member⟩
    · rw [if_neg same] at member
      refine ⟨?_, member⟩
      rintro rfl
      exact same (Holder.queue.inj (source (.queue e) (.warm e) ⟨rfl, member⟩)).symm
  · intro slot st id' now
    cases slot with
    | owned =>
      cases now
      exact Or.inl ⟨rfl, rfl, rfl⟩
    | taken => simp [Task.holds, Task.taken] at now
  · exact fun t' slot st _ there => Holder.noConfusion (source _ st there)
  · intro t' st id' now
    refine Or.inr ⟨?_, now⟩
    rintro rfl
    exact Holder.noConfusion (source (.lease t') st now)
  · intro e
    simp only [PoolWorld.goto, PoolWorld.setPool, PoolState.queue_setQueue]
    by_cases same : envType = e
    · rw [if_pos same]
      exact distinct.2
    · rw [if_neg same]
      exact held.nodup e

theorem hand {w' : PoolWorld} (tasks : w'.tasks = w.tasks.insert t new) {y : String}
    (source target : Holder) (stage : Stage) (only : ∀ h st, w.At h st y → h = source)
    (unqueued : ∀ e, source ≠ .queue e) (own : ∀ t' slot, t' ≠ t → source ≠ .task t' slot)
    (queues : ∀ e, w'.pool.queue e =
      if target = .queue e then w.pool.queue e ++ [y] else w.pool.queue e)
    (warm : ∀ e, target = .queue e → stage = .warm e)
    (slots : ∀ slot st id, new.holds slot = some (st, id) →
      (id = y ∧ target = .task t slot ∧ st = stage) ∨
        (source ≠ .task t slot ∧ w.At (.task t slot) st id))
    (leases : ∀ t' st id, w'.At (.lease t') st id →
      (id = y ∧ target = .lease t' ∧ st = stage) ∨ (source ≠ .lease t' ∧ w.At (.lease t') st id))
    (good : stage.Good w' y) (active : ∀ id, id ≠ y → (id ∈ w'.pool.active ↔ id ∈ w.pool.active))
    (env : ∀ id, id ≠ y → w'.pool.env id = w.pool.env id)
    (removing : (∀ e, w'.pool.env y = some e → w.pool.env y = some e) ∨ ¬ w.Victim y)
    (closed : w'.closed = w.closed) (victims : new.victims = [])
    (kept : ∀ id ∈ w.spawned, id ∈ w'.spawned) (here : y ∈ w'.spawned) (marked : new.Marked w') :
    Held w' := by
  have apart : ∀ h st id, source ≠ h → w.At h st id → id ≠ y := by
    rintro h st id other there rfl
    exact other (only h st there).symm
  have queued : ∀ e, ∀ id ∈ w.pool.queue e, id ≠ y := fun e id member =>
    apart (.queue e) (.warm e) id (unqueued e) ⟨rfl, member⟩
  refine held.move tasks target stage ?_ ?_ ?_ ?_ ?_ good active env removing closed
    (by simp [victims]) kept here marked
  · intro e id member
    rw [queues] at member
    by_cases back : target = .queue e
    · rw [if_pos back, List.mem_append, List.mem_singleton] at member
      rcases member with old | rfl
      · exact Or.inr ⟨queued e id old, old⟩
      · exact Or.inl ⟨rfl, back, warm e back⟩
    · rw [if_neg back] at member
      exact Or.inr ⟨queued e id member, member⟩
  · intro slot st id now
    exact (slots slot st id now).imp_right fun ⟨other, old⟩ => ⟨apart _ st id other old, old⟩
  · exact fun t' slot st other there => own t' slot other (only _ st there).symm
  · intro t' st id now
    exact (leases t' st id now).imp_right fun ⟨other, old⟩ => ⟨apart _ st id other old, old⟩
  · intro e
    rw [queues]
    by_cases back : target = .queue e
    · rw [if_pos back]
      refine List.nodup_append.mpr ⟨held.nodup e, List.nodup_singleton y, ?_⟩
      intro id old id' member
      obtain rfl := List.mem_singleton.mp member
      exact queued e id old
    · rw [if_neg back]
      exact held.nodup e

theorem take {envType id : String} (running : w.tasks[t]? = some (.take envType id))
    (alive : id ∉ w.closed) (free : ¬ w.Victim id)
    (keeps : ∀ tracked, (f tracked).envType = tracked.envType) (hit : Bool) :
    Held ((w.setPool ((w.pool.activate id).modify id f)).goto t
      (.fill envType (.lease ⟨id, envType, hit⟩))) := by
  have here : w.At (.task t .owned) (.candidate envType) id :=
    PoolWorld.at_owned running rfl
  have good := held.good _ _ _ here
  have tasks : ((w.setPool ((w.pool.activate id).modify id f)).goto t
      (.fill envType (.lease ⟨id, envType, hit⟩))).tasks = w.tasks.insert t _ := rfl
  have env : ∀ id', ((w.pool.activate id).modify id f).env id' = w.pool.env id' := fun id' =>
    PoolState.env_modify _ id id' keeps
  refine held.hand tasks (.task t .owned) (.task t .taken) (.leased envType)
    (fun h st there => held.only here there) (by simp) (by simp; tauto) (fun e => by simp)
    (by simp) ?_ ?_ ?_ ?_ (fun id' _ => env id') (Or.inl fun e known => env id ▸ known) rfl rfl
    (fun _ old => old) (held.born id (Or.inl ⟨_, _, here⟩)) trivial
  · intro slot st id' now
    cases slot with
    | owned => simp [Task.holds, Task.owned] at now
    | taken =>
      cases now
      exact Or.inl ⟨rfl, rfl, rfl⟩
  · exact fun t' st id' now => Or.inr ⟨by simp, now⟩
  · refine ⟨by simp, alive, ?_, (env id).trans (good.2 alive)⟩
    exact PoolWorld.not_victim tasks rfl free
  · intro id' other
    simp [other]

theorem lend {envType : String} {lease : WarmLease}
    (running : w.tasks[t]? = some (.fill envType (.lease lease))) :
    Held ({ w with leases := w.leases.insert t lease }.goto t .returned) := by
  have here : w.At (.task t .taken) (.leased lease.envType) lease.instanceId :=
    PoolWorld.at_taken running rfl
  have good := held.good _ _ _ here
  have tasks : ({ w with leases := w.leases.insert t lease }.goto t .returned).tasks =
    w.tasks.insert t .returned := rfl
  refine held.hand tasks (.task t .taken) (.lease t) (.leased lease.envType)
    (fun h st there => held.only here there) (by simp) (by simp; tauto) (fun e => by simp)
    (by simp) ?_ ?_ ?_ (fun _ _ => Iff.rfl) (fun _ _ => rfl) (Or.inl fun _ known => known) rfl rfl
    (fun _ old => old) (held.born _ (Or.inl ⟨_, _, here⟩)) trivial
  · intro slot st id now
    cases slot <;> simp [Task.holds, Task.owned, Task.taken] at now
  · intro t' st id now
    rw [PoolWorld.At, PoolWorld.goto, lookup_insert] at now
    by_cases own : t = t'
    · subst own
      rw [if_pos rfl] at now
      cases now
      exact Or.inl ⟨rfl, rfl, rfl⟩
    · rw [if_neg own] at now
      exact Or.inr ⟨by simp, now⟩
  · exact ⟨good.1, good.2.1, PoolWorld.not_victim tasks rfl good.2.2.1, good.2.2.2⟩

theorem submit {holder : Nat} {lease : WarmLease} (lent : w.leases[holder]? = some lease) :
    Held ({ w with leases := w.leases.erase holder }.goto t (.release lease)) := by
  have here : w.At (.lease holder) (.leased lease.envType) lease.instanceId := by
    rw [PoolWorld.At, lent]
    rfl
  have good := held.good _ _ _ here
  have tasks : ({ w with leases := w.leases.erase holder }.goto t (.release lease)).tasks =
    w.tasks.insert t (.release lease) := rfl
  refine held.hand tasks (.lease holder) (.task t .taken) (.leased lease.envType)
    (fun h st there => held.only here there) (by simp) (by simp) (fun e => by simp)
    (by simp) ?_ ?_ ?_ (fun _ _ => Iff.rfl) (fun _ _ => rfl) (Or.inl fun _ known => known) rfl rfl
    (fun _ old => old) (held.born _ (Or.inl ⟨_, _, here⟩)) trivial
  · intro slot st id now
    cases slot with
    | owned => simp [Task.holds, Task.owned] at now
    | taken =>
      cases now
      exact Or.inl ⟨rfl, rfl, rfl⟩
  · intro t' st id now
    rw [PoolWorld.At, PoolWorld.goto, lookup_erase] at now
    by_cases own : holder = t'
    · simp [own] at now
    · rw [if_neg own] at now
      exact Or.inr ⟨by simpa using own, now⟩
  · exact ⟨good.1, good.2.1, PoolWorld.not_victim tasks rfl good.2.2.1, good.2.2.2⟩

theorem spawn {envType id : String} {purpose : Purpose}
    (running : w.tasks[t]? = some (.spawn envType purpose)) (unknown : id ∉ w.spawned) :
    Held ({ w with spawned := id :: w.spawned }.goto t (.wait envType id purpose)) := by
  have nobody : ∀ h st, ¬ w.At h st id := fun h st there =>
    unknown (held.born id (Or.inl ⟨h, st, there⟩))
  have tasks : ({ w with spawned := id :: w.spawned }.goto t (.wait envType id purpose)).tasks =
    w.tasks.insert t (.wait envType id purpose) := rfl
  refine held.hand tasks (.task t .owned) (.task t .owned) .fresh
    (fun h st there => absurd there (nobody h st)) (by simp) (by simp; tauto)
    (fun e => by simp) (by simp) ?_ ?_ ⟨?_, ?_, ?_⟩ (fun _ _ => Iff.rfl)
    (fun _ _ => rfl) (Or.inl fun _ known => known) rfl rfl
    (fun _ old => List.mem_cons_of_mem _ old) List.mem_cons_self trivial
  · intro slot st id' now
    cases slot with
    | owned =>
      cases now
      exact Or.inl ⟨rfl, rfl, rfl⟩
    | taken =>
      refine Or.inr ⟨by simp, ?_⟩
      rw [PoolWorld.At, running]
      exact now
  · exact fun t' st id' now => Or.inr ⟨by simp, now⟩
  · exact fun busy => unknown (held.born id (Or.inr (Or.inr (Or.inl busy))))
  · exact fun shut => unknown (held.born id (Or.inr (Or.inl shut)))
  · exact PoolWorld.not_victim tasks rfl fun old =>
      unknown (held.born id (Or.inr (Or.inr (Or.inr old))))

theorem enter {envType id : String} (running : w.tasks[t]? = some (.insert envType id .acquire))
    (now : Nat) : Held (w.insert t envType id now .acquire) := by
  have here : w.At (.task t .owned) .fresh id :=
    PoolWorld.at_owned running rfl
  have good := held.good _ _ _ here
  rw [PoolWorld.insert, PoolState.active_track, if_neg good.1]
  generalize fresh : TrackedInstance.mk envType .active 0 now = tracked
  have known : tracked.envType = envType := by rw [← fresh]
  have tasks : ((w.setPool ((w.pool.track id tracked).activate id)).goto t
      (.fill envType (.lease ⟨id, envType, false⟩))).tasks = w.tasks.insert t _ := rfl
  refine held.hand tasks (.task t .owned) (.task t .taken) (.leased envType)
    (fun h st there => held.only here there) (by simp) (by simp; tauto)
    (fun e => by simp) (by simp) ?_ ?_ ⟨?_, good.2.1, ?_, ?_⟩
    ?_ ?_ (Or.inr good.2.2) rfl rfl (fun _ old => old) (held.born id (Or.inl ⟨_, _, here⟩)) trivial
  · intro slot st id' now
    cases slot with
    | owned => simp [Task.holds, Task.owned] at now
    | taken =>
      cases now
      exact Or.inl ⟨rfl, rfl, rfl⟩
  · exact fun t' st id' now => Or.inr ⟨by simp, now⟩
  · simp
  · exact PoolWorld.not_victim tasks rfl good.2.2
  · simp [known]
  · intro id' other
    simp [other]
  · intro id' other
    simp [Ne.symm other]

theorem stock {envType id : String} {next : AfterFill}
    (running : w.tasks[t]? = some (.insert envType id (.fill next))) (now : Nat) :
    Held (w.insert t envType id now (.fill next)) := by
  have here : w.At (.task t .owned) .fresh id :=
    PoolWorld.at_owned running rfl
  have good := held.good _ _ _ here
  rw [PoolWorld.insert]
  generalize fresh : TrackedInstance.mk envType .warm 0 now = tracked
  have known : tracked.envType = envType := by rw [← fresh]
  have tasks : ((w.setPool ((w.pool.track id tracked).pushBack envType id)).goto t
      (.fill envType next)).tasks = w.tasks.insert t _ := rfl
  refine held.hand tasks (.task t .owned) (.queue envType) (.warm envType)
    (fun h st there => held.only here there) (by simp) (by simp; tauto) ?_ (by simp) ?_ ?_
    ⟨good.1, ?_⟩ (fun _ _ => Iff.rfl) ?_ (Or.inr good.2.2) rfl rfl (fun _ old => old)
    (held.born id (Or.inl ⟨_, _, here⟩)) trivial
  · intro e
    by_cases same : envType = e <;>
      simp [PoolState.pushBack, same]
  · intro slot st id' now
    cases slot with
    | owned => simp [Task.holds, Task.owned] at now
    | taken =>
      refine Or.inr ⟨by simp, ?_⟩
      rw [PoolWorld.At, running]
      exact now
  · exact fun t' st id' now => Or.inr ⟨by simp, now⟩
  · simp [known]
  · intro id' other
    simp [Ne.symm other]

/-- A release takes the instance out of `active`, to destroy it or to reset it. -/
theorem cool {lease : WarmLease} (running : w.tasks[t]? = some (.release lease))
    (keeps : ∀ tracked, (f tracked).envType = tracked.envType) {stage : Stage}
    (owned : new.owned = some (stage, lease.instanceId)) (taken : new.taken = none)
    (victims : new.victims = []) (fits : stage = .leaving ∨ stage = .cooling lease.envType)
    (marked : ∀ w', new.Marked w') :
    Held ((w.setPool ((w.pool.deactivate lease.instanceId).modify lease.instanceId f)).goto t
      new) := by
  generalize same : lease.instanceId = id at owned ⊢
  have here : w.At (.task t .taken) (.leased lease.envType) id :=
    same ▸ PoolWorld.at_taken running rfl
  have good := held.good _ _ _ here
  have tasks : ((w.setPool ((w.pool.deactivate id).modify id f)).goto t new).tasks =
    w.tasks.insert t new := rfl
  have env : ∀ id', ((w.pool.deactivate id).modify id f).env id' = w.pool.env id' := fun id' =>
    PoolState.env_modify _ id id' keeps
  have inactive : id ∉ ((w.pool.deactivate id).modify id f).active := by simp
  refine held.hand tasks (.task t .taken) (.task t .owned) stage
    (fun h st there => held.only here there) (by simp) (by simp; tauto)
    (fun e => by simp) (by simp) ?_ ?_ ?_ ?_ (fun id' _ => env id')
    (Or.inl fun e known => env id ▸ known) rfl victims (fun _ old => old)
    (held.born id (Or.inl ⟨_, _, here⟩)) (marked _)
  · intro slot st id' now
    cases slot with
    | owned =>
      obtain ⟨rfl, rfl⟩ := Prod.mk.inj (Option.some.inj (owned.symm.trans now))
      exact Or.inl ⟨rfl, rfl, rfl⟩
    | taken => simp [Task.holds, taken] at now
  · exact fun t' st id' now => Or.inr ⟨by simp, now⟩
  · rcases fits with rfl | rfl
    · exact inactive
    · refine ⟨inactive, good.2.1, ?_, (env id).trans good.2.2.2⟩
      exact PoolWorld.not_victim tasks victims good.2.2.1
  · intro id' other
    simp [other]

theorem giveBack {lease : WarmLease} (running : w.tasks[t]? = some (.giveBack lease))
    (keeps : ∀ tracked, (f tracked).envType = tracked.envType) :
    Held ((w.setPool ((w.pool.modify lease.instanceId f).pushBack lease.envType
      lease.instanceId)).goto t (.evict lease.envType)) := by
  have here : w.At (.task t .owned) (.cooling lease.envType) lease.instanceId :=
    PoolWorld.at_owned running rfl
  have good := held.good _ _ _ here
  have env : ∀ id, ((w.pool.modify lease.instanceId f).pushBack lease.envType
      lease.instanceId).env id = w.pool.env id := fun id => PoolState.env_modify _ _ id keeps
  refine held.hand (show _ = w.tasks.insert t (.evict lease.envType) from rfl) (.task t .owned)
    (.queue lease.envType) (.warm lease.envType) (fun h st there => held.only here there) (by simp)
    (by simp; tauto) ?_ (by simp) ?_ ?_ ⟨good.1, (env _).trans good.2.2.2⟩ (fun _ _ => Iff.rfl)
    (fun id _ => env id) (Or.inl fun e known => env _ ▸ known) rfl rfl (fun _ old => old)
    (held.born _ (Or.inl ⟨_, _, here⟩)) trivial
  · intro e
    by_cases same : lease.envType = e <;>
      simp [PoolState.pushBack, same]
  · intro slot st id now
    cases slot <;> simp [Task.holds, Task.owned, Task.taken] at now
  · exact fun t' st id now => Or.inr ⟨by simp, now⟩

theorem collect {envType : String} {ids : List String}
    (queued : ∀ id ∈ ids, id ∈ w.pool.queue envType) :
    Held (w.destroyed t (.evict envType ids)) := by
  rw [PoolWorld.destroyed_eq]
  generalize next : (AfterDestroy.evict envType ids).task = new
  have owned : new.owned = none := next ▸ AfterDestroy.owned_task _
  have taken : new.taken = none := next ▸ AfterDestroy.taken_task _
  have victims : ∀ id ∈ new.victims, id ∈ ids := by
    subst next
    cases ids with
    | nil => simp [AfterDestroy.task, Task.victims]
    | cons => exact fun id member => member
  have tasks : (w.goto t new).tasks = w.tasks.insert t new := rfl
  have holds := at_before tasks (fun _ _ member => member) rfl (fun slot st id now => by
    cases slot <;> simp [Task.holds, owned, taken] at now)
  refine held.keep tasks holds held.nodup ?_ ?_ rfl (fun _ _ known => known) (fun _ shut => shut)
    (next ▸ AfterDestroy.marked_task _)
  · intro h st id now good
    by_cases collected : id ∈ ids
    · obtain ⟨st', old, _⟩ := holds h st id now
      have here : w.At (.queue envType) (.warm envType) id := ⟨rfl, queued id collected⟩
      obtain rfl := held.only here old
      obtain ⟨rfl, _⟩ := now
      exact good
    · have same : SameAt w (w.goto t new) id := ⟨Iff.rfl, Iff.rfl, fun victim =>
        (PoolWorld.victim_cases tasks victim).elim
          (fun member => absurd (victims id member) collected) fun old => old, rfl⟩
      exact same.good good
  · intro id known
    rcases known with shut | busy | victim
    · exact held.born id (Or.inr (Or.inl shut))
    · exact held.born id (Or.inr (Or.inr (Or.inl busy)))
    · rcases PoolWorld.victim_cases tasks victim with member | old
      · exact held.born id (Or.inl ⟨.queue envType, _, rfl, queued id (victims id member)⟩)
      · exact held.born id (Or.inr (Or.inr (Or.inr old)))

/-- The plugin host closes an instance that its holder gives up or an eviction has collected. -/
theorem close {id envType : String} (running : w.tasks[t]? = some (.close id envType next)) :
    Held ({ w with closed := id :: w.closed }.goto t (.remove id envType next)) := by
  have tasks : ({ w with closed := id :: w.closed }.goto t (.remove id envType next)).tasks =
    w.tasks.insert t (.remove id envType next) := rfl
  have marked := held.marked t _ running
  have removing := Task.subject_held (show (Task.close id envType next).subject = some id from rfl)
  have holds : ∀ slot st id', (Task.remove id envType next).holds slot = some (st, id') →
      ∃ st', w.At (.task t slot) st' id' ∧ (st'.Good w id' → st.Good w id') := by
    intro slot st id' now
    exact ⟨st, by rw [PoolWorld.At, running]; cases slot <;> exact now, fun good => good⟩
  have victims : ∀ id', ({ w with closed := id :: w.closed }.goto t
      (.remove id envType next)).Victim id' → w.Victim id' := fun id' victim =>
    (PoolWorld.victim_cases tasks victim).elim (fun member => ⟨t, _, running, member⟩)
      fun old => old
  have born : id ∈ w.spawned := by
    rcases removing with owned | collected
    · exact held.born id (Or.inl ⟨.task t .owned, .leaving, PoolWorld.at_owned running owned⟩)
    · exact held.born id (Or.inr (Or.inr (Or.inr ⟨t, _, running, collected⟩)))
  have before := at_before tasks (fun _ _ member => member) rfl holds
  refine held.keep tasks before held.nodup ?_ ?_ rfl (fun _ _ known => known)
    (fun _ shut => List.mem_cons_of_mem _ shut) ⟨marked, List.mem_cons_self⟩
  · intro h st id' now good
    by_cases same : id' = id
    · subst same
      rcases removing with owned | collected
      · have here : w.At (.task t .owned) .leaving id' := PoolWorld.at_owned running owned
        obtain ⟨st', old, _⟩ := before h st id' now
        obtain rfl := held.only here old
        rw [PoolWorld.at_task tasks, if_pos rfl] at now
        obtain ⟨rfl, _⟩ := Prod.mk.inj (Option.some.inj (owned.symm.trans now))
        exact good
      · have victim : w.Victim id' := ⟨t, _, running, collected⟩
        cases st with
        | warm e => exact good
        | candidate e => exact ⟨good.1, fun alive => absurd List.mem_cons_self alive⟩
        | fresh => exact absurd victim good.2.2
        | leaving => exact good
        | cooling e => exact absurd victim good.2.2.1
        | leased e => exact absurd victim good.2.2.1
    · have unchanged : SameAt w ({ w with closed := id :: w.closed }.goto t
          (.remove id envType next)) id' :=
        ⟨Iff.rfl, by simp [same], victims id', rfl⟩
      exact unchanged.good good
  · intro id' known
    rcases known with shut | busy | victim
    · rcases List.mem_cons.mp shut with rfl | old
      · exact born
      · exact held.born id' (Or.inr (Or.inl old))
    · exact held.born id' (Or.inr (Or.inr (Or.inl busy)))
    · exact held.born id' (Or.inr (Or.inr (Or.inr (victims id' victim))))

theorem remove {id envType : String} (running : w.tasks[t]? = some (.remove id envType next)) :
    Held ((w.setPool (w.pool.remove id envType)).destroyed t next) := by
  obtain ⟨alone, shut⟩ := held.marked t _ running
  rw [PoolWorld.destroyed_eq]
  have tasks : ((w.setPool (w.pool.remove id envType)).goto t next.task).tasks =
    w.tasks.insert t next.task := rfl
  have holds : ∀ slot st id', next.task.holds slot = some (st, id') →
      ∃ st', w.At (.task t slot) st' id' ∧ (st'.Good w id' → st.Good w id') := by
    intro slot st id' now
    cases slot with
    | owned => simp [Task.holds, AfterDestroy.owned_task] at now
    | taken =>
      refine ⟨st, ?_, fun good => good⟩
      rw [Task.holds, next.taken_task] at now
      rw [PoolWorld.At, running]
      exact now
  have victims : ∀ id', ((w.setPool (w.pool.remove id envType)).goto t next.task).Victim id' →
      w.Victim id' := fun id' victim =>
    (PoolWorld.victim_cases tasks victim).elim
      (fun member => ⟨t, _, running, next.victims_task id id' member⟩) fun old => old
  have queues : ∀ e, ∀ id' ∈ ((w.setPool (w.pool.remove id envType)).goto t next.task).pool.queue e,
      id' ∈ w.pool.queue e ∧ (envType = e → id' ≠ id) := by
    intro e id' member
    simp only [PoolWorld.goto, PoolWorld.setPool, PoolState.queue_remove] at member
    by_cases same : envType = e
    · rw [if_pos same] at member
      exact ⟨List.mem_of_mem_filter member, fun _ => by simpa using List.of_mem_filter member⟩
    · rw [if_neg same] at member
      exact ⟨member, fun equal => absurd equal same⟩
  have before := at_before tasks (fun e id' member => (queues e id' member).1) rfl holds
  refine held.keep tasks before ?_ ?_ ?_ rfl ?_ (fun _ shut => shut) next.marked_task
  · intro e
    simp only [PoolWorld.goto, PoolWorld.setPool, PoolState.queue_remove]
    by_cases same : envType = e
    · rw [if_pos same]
      exact (held.nodup e).filter _
    · rw [if_neg same]
      exact held.nodup e
  · intro h st id' now good
    by_cases same : id' = id
    · subst same
      have inactive : id' ∉ (w.pool.remove id' envType).active := by simp
      cases st with
      | warm e =>
        obtain rfl := PoolWorld.at_warm now
        exact absurd rfl ((queues e id' now.2).2 (alone e good.2).symm)
      | candidate e => exact ⟨inactive, fun alive => absurd shut alive⟩
      | fresh => exact absurd shut good.2.1
      | leaving => exact inactive
      | cooling e => exact absurd shut good.2.1
      | leased e => exact absurd shut good.2.1
    · have unchanged : SameAt w ((w.setPool (w.pool.remove id envType)).goto t next.task) id' :=
        ⟨by simp [same], Iff.rfl, victims id', by simp [Ne.symm same]⟩
      exact unchanged.good good
  · intro id' known
    rcases known with shut | busy | victim
    · exact held.born id' (Or.inr (Or.inl shut))
    · simp only [PoolWorld.goto, PoolWorld.setPool, PoolState.mem_active_remove] at busy
      exact held.born id' (Or.inr (Or.inr (Or.inl busy.1)))
    · exact held.born id' (Or.inr (Or.inr (Or.inr (victims id' victim))))
  · intro id' e known
    simp only [PoolWorld.goto, PoolWorld.setPool, PoolState.env_remove] at known
    by_cases same : id = id'
    · simp [same] at known
    · rwa [if_neg same] at known

end

end Held

end Steps

end UEnv.Worker
