import UEnv.Lib.Runs
import UEnv.Lib.Tables

/-!
# The warm pool

`pool/warmup_pool.rs`. Every section under the lock of the pool, and every call of the plugin host,
is one step of a task; the answers of the plugin host, of the environment resolver and of the clock
are arbitrary, but a spawned instance has an id of its own.
-/

namespace UEnv.Worker

open Tables Runs

inductive InstanceStatus
  | creating | warm | active | idle | cooling | evicting | destroyed
  deriving DecidableEq

structure WarmupPoolConfig where
  warmupSize : Nat
  maxIdleTimeSecs : Nat
  coolTimeoutSecs : Nat
  maxEpisodeCount : Nat

structure WarmLease where
  instanceId : String
  envType : String
  warmupHit : Bool
  deriving DecidableEq

structure TrackedInstance where
  envType : String
  status : InstanceStatus
  episodeCount : Nat
  lastUsedUnixSecs : Nat

structure PoolState where
  tracked : Map String TrackedInstance := ∅
  warmQueues : Map String (List String) := ∅
  active : List String := []

namespace PoolState

variable (pool : PoolState)

def queue (envType : String) : List String := (pool.warmQueues[envType]?).getD []

def modify (id : String) (f : TrackedInstance → TrackedInstance) : PoolState :=
  { pool with tracked := pool.tracked.modify id f }

def track (id : String) (tracked : TrackedInstance) : PoolState :=
  { pool with tracked := pool.tracked.insert id tracked }

def setQueue (envType : String) (ids : List String) : PoolState :=
  { pool with warmQueues := pool.warmQueues.insert envType ids }

/-- `warm_queues.entry(env_type).or_default().push_back(id)`. -/
def pushBack (envType id : String) : PoolState := pool.setQueue envType (pool.queue envType ++ [id])

def activate (id : String) : PoolState := { pool with active := pool.active.insert id }

def deactivate (id : String) : PoolState := { pool with active := pool.active.filter (· ≠ id) }

/-- The last section of `destroy_instance`. -/
def remove (id envType : String) : PoolState where
  tracked := pool.tracked.erase id
  warmQueues := pool.warmQueues.modify envType fun ids => ids.filter (· ≠ id)
  active := pool.active.filter (· ≠ id)

/-- The instances that `evict_idle` collects. -/
def idle (cfg : WarmupPoolConfig) (envType : String) (now : Nat) : List String :=
  (pool.queue envType).filter fun id => (pool.tracked[id]?).any fun tracked =>
    max cfg.maxIdleTimeSecs cfg.coolTimeoutSecs < now - tracked.lastUsedUnixSecs

/-- The environment of an instance that is tracked. -/
def env (id : String) : Option String := (pool.tracked[id]?).map (·.envType)

variable (id id' envType envType' : String)

@[simp]
theorem queue_modify (f : TrackedInstance → TrackedInstance) :
    (pool.modify id f).queue envType = pool.queue envType := rfl

@[simp]
theorem queue_track (tracked : TrackedInstance) :
    (pool.track id tracked).queue envType = pool.queue envType := rfl

@[simp]
theorem queue_activate : (pool.activate id).queue envType = pool.queue envType := rfl

@[simp]
theorem queue_deactivate : (pool.deactivate id).queue envType = pool.queue envType := rfl

@[simp]
theorem queue_setQueue (ids : List String) : (pool.setQueue envType ids).queue envType' =
      if envType = envType' then ids else pool.queue envType' := by
  by_cases same : envType = envType' <;> simp [queue, setQueue, same]

@[simp]
theorem queue_remove : (pool.remove id envType).queue envType' =
      if envType = envType' then (pool.queue envType').filter (· ≠ id)
      else pool.queue envType' := by
  by_cases same : envType = envType'
  · cases known : pool.warmQueues[envType']? <;> simp [queue, remove, same, known]
  · simp [queue, remove, same]

@[simp]
theorem active_modify (f : TrackedInstance → TrackedInstance) :
    (pool.modify id f).active = pool.active := rfl

@[simp]
theorem active_track (tracked : TrackedInstance) :
    (pool.track id tracked).active = pool.active := rfl

@[simp]
theorem active_setQueue (ids : List String) :
    (pool.setQueue envType ids).active = pool.active := rfl

@[simp]
theorem active_pushBack : (pool.pushBack envType id).active = pool.active := rfl

@[simp]
theorem mem_active_activate : id' ∈ (pool.activate id).active ↔ id' = id ∨ id' ∈ pool.active :=
  List.mem_insert_iff

@[simp]
theorem mem_active_deactivate :
    id' ∈ (pool.deactivate id).active ↔ id' ∈ pool.active ∧ id' ≠ id := by
  simp [deactivate]

@[simp]
theorem mem_active_remove :
    id' ∈ (pool.remove id envType).active ↔ id' ∈ pool.active ∧ id' ≠ id := by
  simp [remove]

@[simp]
theorem mem_tracked_modify (f : TrackedInstance → TrackedInstance) :
    id' ∈ (pool.modify id f).tracked ↔ id' ∈ pool.tracked := by
  rw [mem_iff_lookup, mem_iff_lookup, modify, lookup_modify]
  by_cases same : id = id'
  · subst same
    cases pool.tracked[id]? <;> simp
  · simp [same]

@[simp]
theorem mem_tracked_track (tracked : TrackedInstance) :
    id' ∈ (pool.track id tracked).tracked ↔ id = id' ∨ id' ∈ pool.tracked := by
  rw [mem_iff_lookup, mem_iff_lookup, track, lookup_insert]
  by_cases same : id = id' <;> simp [same]

@[simp]
theorem mem_tracked_remove :
    id' ∈ (pool.remove id envType).tracked ↔ id ≠ id' ∧ id' ∈ pool.tracked := by
  rw [mem_iff_lookup, mem_iff_lookup, remove, lookup_erase]
  by_cases same : id = id' <;> simp [same]

theorem env_modify {f : TrackedInstance → TrackedInstance}
    (keeps : ∀ tracked, (f tracked).envType = tracked.envType) :
    (pool.modify id f).env id' = pool.env id' := by
  by_cases same : id = id'
  · subst same
    cases known : pool.tracked[id]? <;> simp [env, modify, known, keeps]
  · simp [env, modify, same]

@[simp]
theorem env_track (tracked : TrackedInstance) : (pool.track id tracked).env id' =
      if id = id' then some tracked.envType else pool.env id' := by
  by_cases same : id = id' <;> simp [env, track, same]

@[simp]
theorem env_setQueue (ids : List String) :
    (pool.setQueue envType ids).env id' = pool.env id' := rfl

@[simp]
theorem env_pushBack : (pool.pushBack envType id).env id' = pool.env id' := rfl

@[simp]
theorem env_activate : (pool.activate id).env id' = pool.env id' := rfl

@[simp]
theorem env_deactivate : (pool.deactivate id).env id' = pool.env id' := rfl

@[simp]
theorem env_remove :
    (pool.remove id envType).env id' = if id = id' then none else pool.env id' := by
  by_cases same : id = id' <;> simp [env, remove, same]

end PoolState

/-! ### Tasks -/

/-- What follows when `fill_pool` returns. -/
inductive AfterFill
  | prewarm (envTypes : List String)
  | retry (envType : String)
  | lease (lease : WarmLease)
  | unit
  deriving DecidableEq

/-- What follows when `destroy_instance` returns. -/
inductive AfterDestroy
  | refill (envType : String) (next : AfterFill)
  | evict (envType : String) (victims : List String)
  deriving DecidableEq

/-- What an instance is spawned for. -/
inductive Purpose
  | acquire
  | fill (next : AfterFill)
  deriving DecidableEq

/-- Where a task stands. -/
inductive Task
  | prewarm (envTypes : List String)
  | pop (envType : String)
  | check (envType id : String)
  | take (envType id : String)
  | fill (envType : String) (next : AfterFill)
  | ensure (envType : String) (purpose : Purpose)
  | spawn (envType : String) (purpose : Purpose)
  | wait (envType id : String) (purpose : Purpose)
  | insert (envType id : String) (purpose : Purpose)
  | destroy (id : String) (next : AfterDestroy)
  | mark (id envType : String) (next : AfterDestroy)
  | close (id envType : String) (next : AfterDestroy)
  | remove (id envType : String) (next : AfterDestroy)
  | release (lease : WarmLease)
  | reset (lease : WarmLease)
  | health (lease : WarmLease) (resetOk : Bool)
  | giveBack (lease : WarmLease)
  | evict (envType : String)
  | returned
  | failed (message : String)
  deriving DecidableEq

/-- The answer of whatever a step calls. -/
structure Answer where
  ok : Bool := true
  id : String := ""
  now : Nat := 0
  message : String := ""

inductive PoolCall
  | prewarm (envTypes : List String)
  | acquire (envType : String)
  | release (holder : Nat)

inductive PoolLabel
  | call (task : Nat) (call : PoolCall)
  | step (task : Nat) (answer : Answer)

/-- The pool, its tasks, the outstanding leases by the task that acquired them, and the instances
that were ever spawned and closed. -/
structure PoolWorld where
  pool : PoolState := {}
  tasks : Map Nat Task := ∅
  leases : Map Nat WarmLease := ∅
  spawned : List String := []
  closed : List String := []

namespace PoolWorld

variable (cfg : WarmupPoolConfig) (w : PoolWorld) (t : Nat)

def goto (task : Task) : PoolWorld := { w with tasks := w.tasks.insert t task }

def setPool (pool : PoolState) : PoolWorld := { w with pool }

/-- `fill_pool` has returned. -/
def filled : AfterFill → PoolWorld
  | .prewarm envTypes => w.goto t (.prewarm envTypes)
  | .retry envType => w.goto t (.pop envType)
  | .lease lease => { w with leases := w.leases.insert t lease }.goto t .returned
  | .unit => w.goto t .returned

/-- `destroy_instance` has returned. -/
def destroyed : AfterDestroy → PoolWorld
  | .refill envType next => w.goto t (.fill envType next)
  | .evict envType [] => w.goto t (.fill envType .unit)
  | .evict envType (id :: rest) => w.goto t (.destroy id (.evict envType rest))

/-- The first section of `release`. -/
def release (lease : WarmLease) (now : Nat) : PoolWorld :=
  if lease.instanceId ∉ w.pool.active then
    w.goto t (.failed ("instance " ++ lease.instanceId ++ " is not active"))
  else
    let pool := w.pool.deactivate lease.instanceId
    match pool.tracked[lease.instanceId]? with
    | none => (w.setPool pool).goto t .returned
    | some tracked =>
      let pool := pool.modify lease.instanceId fun tracked =>
        { tracked with
          episodeCount := tracked.episodeCount + 1, lastUsedUnixSecs := now, status := .cooling }
      (w.setPool pool).goto t
        (if max cfg.maxEpisodeCount 1 ≤ tracked.episodeCount + 1 then
          .destroy lease.instanceId (.refill lease.envType .unit)
        else .reset lease)

/-- The section of `acquire` or of `fill_pool` that registers a spawned instance. -/
def insert (envType id : String) (now : Nat) : Purpose → PoolWorld
  | .acquire =>
    let pool := w.pool.track id
      { envType, status := .active, episodeCount := 0, lastUsedUnixSecs := now }
    if id ∈ pool.active then
      (w.setPool pool).goto t (.failed ("double allocation detected for " ++ id))
    else
      (w.setPool (pool.activate id)).goto t
        (.fill envType (.lease { instanceId := id, envType, warmupHit := false }))
  | .fill next =>
    let pool := w.pool.track id
      { envType, status := .warm, episodeCount := 0, lastUsedUnixSecs := now }
    (w.setPool (pool.pushBack envType id)).goto t (.fill envType next)

/-- One step of a task. -/
def run (a : Answer) : Task → Option PoolWorld
  | .prewarm [] => some (w.goto t .returned)
  | .prewarm (envType :: rest) => some (w.goto t (.fill envType (.prewarm rest)))
  | .pop envType =>
    match w.pool.queue envType with
    | [] => some ((w.setPool (w.pool.setQueue envType [])).goto t (.ensure envType .acquire))
    | id :: rest => some ((w.setPool (w.pool.setQueue envType rest)).goto t (.check envType id))
  | .check envType id =>
    some (w.goto t (if a.ok then .take envType id
      else .destroy id (.refill envType (.retry envType))))
  | .take envType id =>
    if id ∈ w.pool.active then
      some (w.goto t (.failed ("double allocation detected for " ++ id)))
    else
      let pool := (w.pool.activate id).modify id fun tracked => { tracked with status := .active }
      some ((w.setPool pool).goto t
        (.fill envType (.lease { instanceId := id, envType, warmupHit := true })))
  | .fill envType next =>
    if cfg.warmupSize ≤ (w.pool.queue envType).length then some (w.filled t next)
    else some (w.goto t (.ensure envType (.fill next)))
  | .ensure envType purpose =>
    some (w.goto t (if a.ok then .spawn envType purpose else .failed a.message))
  | .spawn envType purpose =>
    if a.ok then
      if a.id ∈ w.spawned then none
      else some ({ w with spawned := a.id :: w.spawned }.goto t (.wait envType a.id purpose))
    else some (w.goto t (.failed a.message))
  | .wait envType id purpose =>
    some (w.goto t (if a.ok then .insert envType id purpose
      else .failed ("plugin " ++ id ++ " not ready")))
  | .insert envType id purpose => some (w.insert t envType id a.now purpose)
  | .destroy id next =>
    match w.pool.tracked[id]? with
    | none => some (w.destroyed t next)
    | some tracked => some (w.goto t (.mark id tracked.envType next))
  | .mark id envType next =>
    let pool := w.pool.modify id fun tracked => { tracked with status := .evicting }
    some ((w.setPool pool).goto t (.close id envType next))
  | .close id envType next =>
    some ({ w with closed := id :: w.closed }.goto t (.remove id envType next))
  | .remove id envType next => some ((w.setPool (w.pool.remove id envType)).destroyed t next)
  | .release lease => some (w.release cfg t lease a.now)
  | .reset lease => some (w.goto t (.health lease a.ok))
  | .health lease resetOk =>
    some (w.goto t (if resetOk && a.ok then .giveBack lease
      else .destroy lease.instanceId (.refill lease.envType .unit)))
  | .giveBack lease =>
    let pool := w.pool.modify lease.instanceId fun tracked =>
      { tracked with status := .warm, lastUsedUnixSecs := a.now }
    some ((w.setPool (pool.pushBack lease.envType lease.instanceId)).goto t (.evict lease.envType))
  | .evict envType =>
    some (w.destroyed t (.evict envType (w.pool.idle cfg envType a.now)))
  | .returned | .failed _ => none

/-- A call starts a task; a lease is released once. -/
def start : PoolCall → Option PoolWorld
  | .prewarm envTypes => some (w.goto t (.prewarm envTypes))
  | .acquire envType => some (w.goto t (.pop envType))
  | .release holder => (w.leases[holder]?).map fun lease =>
    { w with leases := w.leases.erase holder }.goto t (.release lease)

end PoolWorld

/-- Any number of calls of the pool, interleaved. -/
def warmupPool (cfg : WarmupPoolConfig) : System PoolWorld PoolLabel where
  init w := w = {}
  step w
    | .call t call => if w.tasks.contains t then none else w.start t call
    | .step t answer => (w.tasks[t]?).bind fun task => w.run cfg t answer task

/-- What a step of a task can do. -/
inductive Ran (cfg : WarmupPoolConfig) (w : PoolWorld) (t : Nat) (a : Answer) :
    Task → PoolWorld → Prop
  | prewarmed : Ran cfg w t a (.prewarm []) (w.goto t .returned)
  | prewarm (envType : String) (rest : List String) :
    Ran cfg w t a (.prewarm (envType :: rest)) (w.goto t (.fill envType (.prewarm rest)))
  | popEmpty (envType : String) (empty : w.pool.queue envType = []) :
    Ran cfg w t a (.pop envType)
      ((w.setPool (w.pool.setQueue envType [])).goto t (.ensure envType .acquire))
  | pop (envType id : String) (rest : List String) (queued : w.pool.queue envType = id :: rest) :
    Ran cfg w t a (.pop envType)
      ((w.setPool (w.pool.setQueue envType rest)).goto t (.check envType id))
  | healthy (envType id : String) (ok : a.ok = true) :
    Ran cfg w t a (.check envType id) (w.goto t (.take envType id))
  | unhealthy (envType id : String) (ill : ¬ a.ok = true) :
    Ran cfg w t a (.check envType id) (w.goto t (.destroy id (.refill envType (.retry envType))))
  | taken (envType id : String) (busy : id ∈ w.pool.active) :
    Ran cfg w t a (.take envType id)
      (w.goto t (.failed ("double allocation detected for " ++ id)))
  | take (envType id : String) (idle : id ∉ w.pool.active) :
    Ran cfg w t a (.take envType id) ((w.setPool ((w.pool.activate id).modify id fun tracked =>
      { tracked with status := .active })).goto t
        (.fill envType (.lease { instanceId := id, envType, warmupHit := true })))
  | full (envType : String) (next : AfterFill) :
    Ran cfg w t a (.fill envType next) (w.filled t next)
  | fill (envType : String) (next : AfterFill) :
    Ran cfg w t a (.fill envType next) (w.goto t (.ensure envType (.fill next)))
  | ensure (envType : String) (purpose : Purpose) (ok : a.ok = true) :
    Ran cfg w t a (.ensure envType purpose) (w.goto t (.spawn envType purpose))
  | unresolved (envType : String) (purpose : Purpose) (fails : ¬ a.ok = true) :
    Ran cfg w t a (.ensure envType purpose) (w.goto t (.failed a.message))
  | spawn (envType : String) (purpose : Purpose) (unknown : a.id ∉ w.spawned) :
    Ran cfg w t a (.spawn envType purpose)
      ({ w with spawned := a.id :: w.spawned }.goto t (.wait envType a.id purpose))
  | unspawned (envType : String) (purpose : Purpose) (fails : ¬ a.ok = true) :
    Ran cfg w t a (.spawn envType purpose) (w.goto t (.failed a.message))
  | wait (envType id : String) (purpose : Purpose) (ok : a.ok = true) :
    Ran cfg w t a (.wait envType id purpose) (w.goto t (.insert envType id purpose))
  | unready (envType id : String) (purpose : Purpose) (fails : ¬ a.ok = true) :
    Ran cfg w t a (.wait envType id purpose)
      (w.goto t (.failed ("plugin " ++ id ++ " not ready")))
  | insert (envType id : String) (purpose : Purpose) :
    Ran cfg w t a (.insert envType id purpose) (w.insert t envType id a.now purpose)
  | untracked (id : String) (next : AfterDestroy) (gone : id ∉ w.pool.tracked) :
    Ran cfg w t a (.destroy id next) (w.destroyed t next)
  | destroy (id : String) (tracked : TrackedInstance) (next : AfterDestroy)
    (known : w.pool.tracked[id]? = some tracked) :
    Ran cfg w t a (.destroy id next) (w.goto t (.mark id tracked.envType next))
  | mark (id envType : String) (next : AfterDestroy) :
    Ran cfg w t a (.mark id envType next) ((w.setPool (w.pool.modify id fun tracked =>
      { tracked with status := .evicting })).goto t (.close id envType next))
  | close (id envType : String) (next : AfterDestroy) :
    Ran cfg w t a (.close id envType next)
      ({ w with closed := id :: w.closed }.goto t (.remove id envType next))
  | remove (id envType : String) (next : AfterDestroy) :
    Ran cfg w t a (.remove id envType next)
      ((w.setPool (w.pool.remove id envType)).destroyed t next)
  | release (lease : WarmLease) : Ran cfg w t a (.release lease) (w.release cfg t lease a.now)
  | reset (lease : WarmLease) : Ran cfg w t a (.reset lease) (w.goto t (.health lease a.ok))
  | recovered (lease : WarmLease) (resetOk : Bool) :
    Ran cfg w t a (.health lease resetOk) (w.goto t (.giveBack lease))
  | spoiled (lease : WarmLease) (resetOk : Bool) :
    Ran cfg w t a (.health lease resetOk)
      (w.goto t (.destroy lease.instanceId (.refill lease.envType .unit)))
  | giveBack (lease : WarmLease) :
    Ran cfg w t a (.giveBack lease) ((w.setPool ((w.pool.modify lease.instanceId fun tracked =>
      { tracked with status := .warm, lastUsedUnixSecs := a.now }).pushBack lease.envType
        lease.instanceId)).goto t (.evict lease.envType))
  | evict (envType : String) :
    Ran cfg w t a (.evict envType)
      (w.destroyed t (.evict envType (w.pool.idle cfg envType a.now)))

theorem ran_of_run {cfg : WarmupPoolConfig} {w w' : PoolWorld} {t : Nat} {a : Answer} {task : Task}
    (ran : w.run cfg t a task = some w') : Ran cfg w t a task w' := by
  cases task with
  | prewarm envTypes =>
    cases envTypes with
    | nil => exact Option.some.inj ran ▸ .prewarmed
    | cons envType rest => exact Option.some.inj ran ▸ .prewarm envType rest
  | pop envType =>
    rw [PoolWorld.run] at ran
    cases queued : w.pool.queue envType with
    | nil =>
      rw [queued] at ran
      exact Option.some.inj ran ▸ .popEmpty envType queued
    | cons id rest =>
      rw [queued] at ran
      exact Option.some.inj ran ▸ .pop envType id rest queued
  | check envType id =>
    cases ran
    by_cases ok : a.ok = true
    · rw [if_pos ok]
      exact .healthy envType id ok
    · rw [if_neg ok]
      exact .unhealthy envType id ok
  | take envType id =>
    rw [PoolWorld.run] at ran
    by_cases busy : id ∈ w.pool.active
    · rw [if_pos busy] at ran
      exact Option.some.inj ran ▸ .taken envType id busy
    · rw [if_neg busy] at ran
      exact Option.some.inj ran ▸ .take envType id busy
  | fill envType next =>
    rw [PoolWorld.run] at ran
    by_cases full : cfg.warmupSize ≤ (w.pool.queue envType).length
    · rw [if_pos full] at ran
      exact Option.some.inj ran ▸ .full envType next
    · rw [if_neg full] at ran
      exact Option.some.inj ran ▸ .fill envType next
  | ensure envType purpose =>
    cases ran
    by_cases ok : a.ok = true
    · rw [if_pos ok]
      exact .ensure envType purpose ok
    · rw [if_neg ok]
      exact .unresolved envType purpose ok
  | spawn envType purpose =>
    rw [PoolWorld.run] at ran
    by_cases ok : a.ok = true
    · rw [if_pos ok] at ran
      by_cases known : a.id ∈ w.spawned
      · rw [if_pos known] at ran
        cases ran
      · rw [if_neg known] at ran
        exact Option.some.inj ran ▸ .spawn envType purpose known
    · rw [if_neg ok] at ran
      exact Option.some.inj ran ▸ .unspawned envType purpose ok
  | wait envType id purpose =>
    cases ran
    by_cases ok : a.ok = true
    · rw [if_pos ok]
      exact .wait envType id purpose ok
    · rw [if_neg ok]
      exact .unready envType id purpose ok
  | insert envType id purpose => exact Option.some.inj ran ▸ .insert envType id purpose
  | destroy id next =>
    rw [PoolWorld.run] at ran
    cases known : w.pool.tracked[id]? with
    | none =>
      rw [known] at ran
      refine Option.some.inj ran ▸ .untracked id next ?_
      rw [mem_iff_lookup, known]
      simp
    | some tracked =>
      rw [known] at ran
      exact Option.some.inj ran ▸ .destroy id tracked next known
  | mark id envType next => exact Option.some.inj ran ▸ .mark id envType next
  | close id envType next => exact Option.some.inj ran ▸ .close id envType next
  | remove id envType next => exact Option.some.inj ran ▸ .remove id envType next
  | release lease => exact Option.some.inj ran ▸ .release lease
  | reset lease => exact Option.some.inj ran ▸ .reset lease
  | health lease resetOk =>
    cases ran
    by_cases ok : (resetOk && a.ok) = true
    · rw [if_pos ok]
      exact .recovered lease resetOk
    · rw [if_neg ok]
      exact .spoiled lease resetOk
  | giveBack lease => exact Option.some.inj ran ▸ .giveBack lease
  | evict envType => exact Option.some.inj ran ▸ .evict envType
  | returned => cases ran
  | failed => cases ran

theorem start_of_called {cfg : WarmupPoolConfig} {w w' : PoolWorld} {t : Nat} {call : PoolCall}
    (called : (warmupPool cfg).step w (.call t call) = some w') : w.start t call = some w' := by
  have called : (if w.tasks.contains t then none else w.start t call) = some w' := called
  by_cases used : w.tasks.contains t = true
  · rw [if_pos used] at called
    cases called
  · rwa [if_neg used] at called

end UEnv.Worker
