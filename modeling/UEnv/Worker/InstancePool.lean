import Mathlib.Data.Fintype.EquivFin
import UEnv.Lib.Runs
import UEnv.Lib.Tables

/-!
# The pool of SWE sandbox sessions

`SweInstancePool` and the lives of its sessions' containers. A creation reserves a slot under the
lock, provisions the container without it and registers the session under it again; a session that
was removed from the table lives on while a call holds it, and the capacity check does not count it.
-/

namespace UEnv.Worker

open Tables Runs

/-! ### Data -/

inductive BenchmarkVariant
  | verified
  | lite
  | pro
  | smith
  deriving DecidableEq

def BenchmarkVariant.asStr : BenchmarkVariant → String
  | verified => "verified"
  | lite => "lite"
  | pro => "pro"
  | smith => "smith"

/-- `sanitize` (instance_pool.rs, 493-503). -/
def sanitize (s : String) : String :=
  s.map fun c => if c.isAlphanum || c == '-' then c else '-'

/-- `SweInstancePool`. The store is given by the variants of its instances, and a session by the
number of its `SweSession`. -/
structure SweInstancePool where
  store : Map String BenchmarkVariant
  capacity : Nat
  sessions : Map String Nat := ∅
  pending : Nat := 0
  seq : UInt64 := 1

/-- Where a call of the pool stands. -/
inductive SweCall
  -- `create_session`: a slot is reserved, the session has its id, its container runs
  | reserved (instanceId : String)
  | named (sessionId : String)
  | provisioned (sessionId : String) (session : Nat)
  -- provisioning failed or panicked; the slot is not yet given back
  | failed
  -- `apply_patch`, `exec`, `submit`, `recycle` and the like hold the session
  | holding (session : Nat)
  -- `terminate` has killed the container
  | terminating (sessionId : String) (session : Nat)
  deriving DecidableEq

/-- The `create_session` calls between their reservation and their registration. -/
def SweCall.reserves : SweCall → Bool
  | reserved _ | named _ | provisioned _ _ | failed => true
  | holding _ | terminating _ _ => false

/-- The `create_session` calls whose container is still to be started. -/
def SweCall.awaits : SweCall → Bool
  | reserved _ | named _ => true
  | provisioned _ _ | failed | holding _ | terminating _ _ => false

/-- The session that a call holds. -/
def SweCall.session? : SweCall → Option Nat
  | provisioned _ session | holding session | terminating _ session => some session
  | reserved _ | named _ | failed => none

/-- The pool, the sessions that were not dropped with the number of their owners, and the calls. -/
structure SweWorld where
  pool : SweInstancePool
  sandboxes : Map Nat Nat := ∅
  calls : Map Nat SweCall := ∅

/-! ### Operations -/

namespace SweInstancePool

variable (pool : SweInstancePool)

/-- `new` (instance_pool.rs, 73-89). -/
def new (store : Map String BenchmarkVariant) (capacity : Nat) : SweInstancePool :=
  { store, capacity := max capacity 1 }

/-- The checks and the reservation of `create_session`. -/
def reserve (instanceId : String) (variant : BenchmarkVariant) : Except String SweInstancePool :=
  match pool.store[instanceId]? with
  | none => .error s!"swe instance_id `{instanceId}` not in catalog (size={pool.store.size})"
  | some catalogVariant =>
    if catalogVariant ≠ variant then
      .error (s!"swe instance `{instanceId}` variant mismatch: requested={variant.asStr}, " ++
        s!"catalog={catalogVariant.asStr}")
    else if pool.capacity ≤ pool.sessions.size + pool.pending then
      .error (s!"swe instance pool at capacity ({pool.sessions.size + pool.pending}/" ++
        s!"{pool.capacity})")
    else .ok { pool with pending := pool.pending + 1 }

/-- The id of a new session. -/
def sessionId (instanceId : String) : String :=
  s!"sess-{sanitize instanceId}-{pool.seq}"

/-- `PendingSlot::release`. -/
def release : SweInstancePool := { pool with pending := pool.pending - 1 }

/-- `get` (instance_pool.rs, 333-340). -/
def get (sessionId : String) : Except String Nat :=
  match pool.sessions[sessionId]? with
  | none => .error s!"session `{sessionId}` not found"
  | some session => .ok session

end SweInstancePool

namespace SweWorld

variable (s : SweWorld)

/-- A call goes on to its next stage. -/
def goto (t : Nat) (call : SweCall) : SweWorld := { s with calls := s.calls.insert t call }

/-- A call returns. -/
def finish (t : Nat) : SweWorld := { s with calls := s.calls.erase t }

/-- A session has one more owner. -/
def clone (session : Nat) : SweWorld :=
  { s with sandboxes := s.sandboxes.insert session ((s.sandboxes[session]?).getD 0 + 1) }

/-- A session has one owner less, and is dropped with its last one. -/
def drop (session : Nat) : SweWorld :=
  { s with sandboxes :=
      match s.sandboxes[session]? with
      | some (owners + 2) => s.sandboxes.insert session (owners + 1)
      | _ => s.sandboxes.erase session }

/-- `sessions.remove` in the section of `destroy`, which drops what it removes. -/
def destroy (sessionId : String) : SweWorld :=
  match s.pool.sessions[sessionId]? with
  | none => s
  | some session =>
    { s with pool := { s.pool with sessions := s.pool.sessions.erase sessionId } }.drop session

/-- `sessions.insert` and the release of the slot, in one section of `create_session`. A session
that had the id is dropped. -/
def register (sessionId : String) (session : Nat) : SweWorld :=
  let inserted :=
    { s with pool := { s.pool with sessions := s.pool.sessions.insert sessionId session }.release }
  match s.pool.sessions[sessionId]? with
  | none => inserted
  | some old => inserted.drop old

end SweWorld

/-! ### Runs -/

/-- A call, or the next step of one. -/
inductive SweLabel
  | createSession (t : Nat) (instanceId : String) (variant : BenchmarkVariant)
  | name (t : Nat)
  -- the backend answers with a running container, or fails
  | provision (t : Nat) (session : Option Nat)
  -- the reset or the setup of a running container fails, or panics
  | abandon (t : Nat)
  | release (t : Nat)
  | register (t : Nat)
  | get (t : Nat) (sessionId : String)
  | done (t : Nat)
  | destroy (sessionId : String)
  | terminate (t : Nat) (sessionId : String)
  | destroyTerminated (t : Nat)

namespace SweWorld

variable (s : SweWorld)

/-- One step of one call; a refused call changes nothing. -/
def step : SweLabel → Option SweWorld
  | .createSession t instanceId variant =>
    if t ∈ s.calls then none
    else match s.pool.reserve instanceId variant with
      | .error _ => some s
      | .ok pool => some ({ s with pool }.goto t (.reserved instanceId))
  | .name t =>
    match s.calls[t]? with
    | some (.reserved instanceId) =>
      some ({ s with pool := { s.pool with seq := s.pool.seq + 1 } }.goto t
        (.named (s.pool.sessionId instanceId)))
    | _ => none
  | .provision t answer =>
    match s.calls[t]?, answer with
    | some (.named _), none => some (s.goto t .failed)
    | some (.named sessionId), some session =>
      if session ∈ s.sandboxes then none
      else some ((s.clone session).goto t (.provisioned sessionId session))
    | _, _ => none
  | .abandon t =>
    match s.calls[t]? with
    | some (.provisioned _ session) => some ((s.drop session).goto t .failed)
    | _ => none
  | .release t =>
    match s.calls[t]? with
    | some .failed => some ({ s with pool := s.pool.release }.finish t)
    | _ => none
  | .register t =>
    match s.calls[t]? with
    | some (.provisioned sessionId session) => some ((s.register sessionId session).finish t)
    | _ => none
  | .get t sessionId =>
    if t ∈ s.calls then none
    else match s.pool.get sessionId with
      | .error _ => some s
      | .ok session => some ((s.clone session).goto t (.holding session))
  | .done t =>
    match s.calls[t]? with
    | some (.holding session) => some ((s.drop session).finish t)
    | _ => none
  | .destroy sessionId => some (s.destroy sessionId)
  | .terminate t sessionId =>
    if t ∈ s.calls then none
    else match s.pool.get sessionId with
      | .error _ => some s
      | .ok session => some ((s.clone session).goto t (.terminating sessionId session))
  | .destroyTerminated t =>
    match s.calls[t]? with
    | some (.terminating sessionId session) =>
      some ((s.destroy sessionId).goto t (.holding session))
    | _ => none

end SweWorld

/-- The pool from its construction on. -/
def swePool : System SweWorld SweLabel where
  init s := ∃ store capacity, s = { pool := SweInstancePool.new store capacity }
  step := SweWorld.step

/-- The pool keeps to its capacity. -/
structure SweWorld.WithinCapacity (s : SweWorld) : Prop where
  slots : s.pool.sessions.size + s.pool.pending ≤ s.pool.capacity
  pending : s.pool.pending = entryCount SweCall.reserves s.calls
  sandboxes : s.sandboxes.size ≤ s.pool.capacity

/-- A slot is reserved only when the containers that run and those still to be started leave room
for one more. -/
def Roomy (s : SweWorld) : SweLabel → Prop
  | .createSession _ instanceId variant => (s.pool.reserve instanceId variant).isOk →
      s.sandboxes.size + entryCount SweCall.awaits s.calls < s.pool.capacity
  | _ => True

instance decidableRoomy (s : SweWorld) : ∀ label, Decidable (Roomy s label)
  | .createSession _ instanceId variant =>
    inferInstanceAs (Decidable ((s.pool.reserve instanceId variant).isOk = true → _ < _))
  | .name _ | .provision _ _ | .abandon _ | .release _ | .register _ | .get _ _ | .done _
  | .destroy _ | .terminate _ _ | .destroyTerminated _ => .isTrue trivial

/-! ### What a step does -/

/-- What a step that was taken did. -/
inductive SweWorld.Took (s : SweWorld) : SweLabel → SweWorld → Prop
  | refused (label : SweLabel) : Took s label s
  | reserved (t : Nat) (instanceId : String) (variant : BenchmarkVariant) (pool : SweInstancePool) :
      s.calls[t]? = none → s.pool.reserve instanceId variant = .ok pool →
      Took s (.createSession t instanceId variant) ({ s with pool }.goto t (.reserved instanceId))
  | named (t : Nat) (instanceId : String) : s.calls[t]? = some (.reserved instanceId) →
      Took s (.name t) ({ s with pool := { s.pool with seq := s.pool.seq + 1 } }.goto t
        (.named (s.pool.sessionId instanceId)))
  | unprovisioned (t : Nat) (sessionId : String) : s.calls[t]? = some (.named sessionId) →
      Took s (.provision t none) (s.goto t .failed)
  | provisioned (t : Nat) (sessionId : String) (session : Nat) :
      s.calls[t]? = some (.named sessionId) → s.sandboxes[session]? = none →
      Took s (.provision t (some session))
        ((s.clone session).goto t (.provisioned sessionId session))
  | abandoned (t : Nat) (sessionId : String) (session : Nat) :
      s.calls[t]? = some (.provisioned sessionId session) →
      Took s (.abandon t) ((s.drop session).goto t .failed)
  | released (t : Nat) : s.calls[t]? = some .failed →
      Took s (.release t) ({ s with pool := s.pool.release }.finish t)
  | registered (t : Nat) (sessionId : String) (session : Nat) :
      s.calls[t]? = some (.provisioned sessionId session) →
      Took s (.register t) ((s.register sessionId session).finish t)
  | got (t : Nat) (sessionId : String) (session : Nat) : s.calls[t]? = none →
      s.pool.sessions[sessionId]? = some session →
      Took s (.get t sessionId) ((s.clone session).goto t (.holding session))
  | done (t : Nat) (session : Nat) : s.calls[t]? = some (.holding session) →
      Took s (.done t) ((s.drop session).finish t)
  | destroyed (sessionId : String) : Took s (.destroy sessionId) (s.destroy sessionId)
  | terminated (t : Nat) (sessionId : String) (session : Nat) : s.calls[t]? = none →
      s.pool.sessions[sessionId]? = some session →
      Took s (.terminate t sessionId) ((s.clone session).goto t (.terminating sessionId session))
  | removed (t : Nat) (sessionId : String) (session : Nat) :
      s.calls[t]? = some (.terminating sessionId session) →
      Took s (.destroyTerminated t) ((s.destroy sessionId).goto t (.holding session))

section Steps

variable {s s' : SweWorld} {label : SweLabel}

theorem SweInstancePool.lookup_of_get {pool : SweInstancePool} {sessionId : String} {session : Nat}
    (got : pool.get sessionId = .ok session) : pool.sessions[sessionId]? = some session := by
  unfold SweInstancePool.get at got
  split at got
  · cases got
  · next found => rw [found, Except.ok.inj got]

theorem took_of_step (taken : s.step label = some s') : s.Took label s' := by
  have fresh : ∀ {t : Nat}, ¬ t ∈ s.calls → s.calls[t]? = none :=
    fun absent => Std.ExtTreeMap.getElem?_eq_none absent
  cases label with
  | createSession t instanceId variant =>
    simp only [SweWorld.step] at taken
    split at taken
    · cases taken
    · next absent =>
      split at taken
      · cases taken
        exact .refused _
      · next pool reserved =>
        cases taken
        exact .reserved t instanceId variant pool (fresh absent) reserved
  | name t =>
    simp only [SweWorld.step] at taken
    split at taken
    · next instanceId known =>
      cases taken
      exact .named t instanceId known
    · cases taken
  | provision t answer =>
    simp only [SweWorld.step] at taken
    split at taken
    · next sessionId known =>
      cases taken
      exact .unprovisioned t sessionId known
    · next sessionId session known =>
      split at taken
      · cases taken
      · next absent =>
        cases taken
        exact .provisioned t sessionId session known (Std.ExtTreeMap.getElem?_eq_none absent)
    · cases taken
  | abandon t =>
    simp only [SweWorld.step] at taken
    split at taken
    · next sessionId session known =>
      cases taken
      exact .abandoned t sessionId session known
    · cases taken
  | release t =>
    simp only [SweWorld.step] at taken
    split at taken
    · next known =>
      cases taken
      exact .released t known
    · cases taken
  | register t =>
    simp only [SweWorld.step] at taken
    split at taken
    · next sessionId session known =>
      cases taken
      exact .registered t sessionId session known
    · cases taken
  | get t sessionId =>
    simp only [SweWorld.step] at taken
    split at taken
    · cases taken
    · next absent =>
      split at taken
      · cases taken
        exact .refused _
      · next session got =>
        cases taken
        exact .got t sessionId session (fresh absent) (SweInstancePool.lookup_of_get got)
  | done t =>
    simp only [SweWorld.step] at taken
    split at taken
    · next session known =>
      cases taken
      exact .done t session known
    · cases taken
  | destroy sessionId =>
    cases taken
    exact .destroyed sessionId
  | terminate t sessionId =>
    simp only [SweWorld.step] at taken
    split at taken
    · cases taken
    · next absent =>
      split at taken
      · cases taken
        exact .refused _
      · next session got =>
        cases taken
        exact .terminated t sessionId session (fresh absent) (SweInstancePool.lookup_of_get got)
  | destroyTerminated t =>
    simp only [SweWorld.step] at taken
    split at taken
    · next sessionId session known =>
      cases taken
      exact .removed t sessionId session known
    · cases taken

end Steps

/-! ### Slots and room -/

attribute [local simp] SweCall.reserves SweCall.awaits

attribute [local simp] SweWorld.clone

section Capacity

variable {s s' : SweWorld} {label : SweLabel}

theorem SweInstancePool.reserve_ok {pool pool' : SweInstancePool} {instanceId : String}
    {variant : BenchmarkVariant} (reserved : pool.reserve instanceId variant = .ok pool') :
    pool.sessions.size + pool.pending < pool.capacity ∧
      pool' = { pool with pending := pool.pending + 1 } := by
  unfold SweInstancePool.reserve at reserved
  split at reserved
  · cases reserved
  · split at reserved
    · cases reserved
    · split at reserved
      · cases reserved
      · next room => exact ⟨Nat.lt_of_not_le room, (Except.ok.inj reserved).symm⟩

theorem SweWorld.count_goto (s : SweWorld) (p : SweCall → Bool) (t : Nat) (call : SweCall) :
    entryCount p (s.goto t call).calls + ((s.calls[t]?).any p).toNat =
      entryCount p s.calls + (p call).toNat :=
  entryCount_insert s.calls p t call

theorem SweWorld.count_finish (s : SweWorld) (p : SweCall → Bool) (t : Nat) :
    entryCount p (s.finish t).calls + ((s.calls[t]?).any p).toNat = entryCount p s.calls :=
  entryCount_erase s.calls p t

@[simp]
theorem SweWorld.pool_goto (t : Nat) (call : SweCall) : (s.goto t call).pool = s.pool := rfl

@[simp]
theorem SweWorld.sandboxes_goto (t : Nat) (call : SweCall) :
    (s.goto t call).sandboxes = s.sandboxes := rfl

@[simp]
theorem SweWorld.pool_finish (t : Nat) : (s.finish t).pool = s.pool := rfl

@[simp]
theorem SweWorld.sandboxes_finish (t : Nat) : (s.finish t).sandboxes = s.sandboxes := rfl

/-- An operation that changes the table and the sessions, and no call. It makes neither of them
larger, and keeps the reservations. -/
structure SweWorld.Shrinks (s s' : SweWorld) : Prop where
  calls : s'.calls = s.calls
  capacity : s'.pool.capacity = s.pool.capacity
  pending : s'.pool.pending = s.pool.pending
  sessions : s'.pool.sessions.size ≤ s.pool.sessions.size
  sandboxes : s'.sandboxes.size ≤ s.sandboxes.size

theorem SweWorld.size_drop (s : SweWorld) (session : Nat) :
    (s.drop session).sandboxes.size ≤ s.sandboxes.size := by
  unfold SweWorld.drop
  split
  · next owners known =>
    have present : session ∈ s.sandboxes := (mem_iff_lookup _ _).mpr ⟨_, known⟩
    simp [Std.ExtTreeMap.size_insert, present]
  · exact Std.ExtTreeMap.size_erase_le

theorem SweWorld.shrinks_drop (s : SweWorld) (session : Nat) : s.Shrinks (s.drop session) :=
  ⟨rfl, rfl, rfl, Nat.le_refl _, s.size_drop session⟩

theorem SweWorld.shrinks_destroy (s : SweWorld) (sessionId : String) :
    s.Shrinks (s.destroy sessionId) := by
  unfold SweWorld.destroy
  split
  · exact ⟨rfl, rfl, rfl, Nat.le_refl _, Nat.le_refl _⟩
  · exact ⟨rfl, rfl, rfl, Std.ExtTreeMap.size_erase_le, SweWorld.size_drop _ _⟩

theorem SweWorld.size_clone_of_mem {session : Nat} (present : session ∈ s.sandboxes) :
    (s.clone session).sandboxes.size = s.sandboxes.size := by
  simp [Std.ExtTreeMap.size_insert, present]

theorem SweWorld.size_clone_le (s : SweWorld) (session : Nat) :
    (s.clone session).sandboxes.size ≤ s.sandboxes.size + 1 := by
  unfold SweWorld.clone
  exact Std.ExtTreeMap.size_insert_le

theorem SweWorld.register_spec (s : SweWorld) (sessionId : String) (session : Nat) :
    (s.register sessionId session).calls = s.calls ∧
      (s.register sessionId session).pool.capacity = s.pool.capacity ∧
      (s.register sessionId session).pool.pending = s.pool.pending - 1 ∧
      (s.register sessionId session).pool.sessions.size ≤ s.pool.sessions.size + 1 ∧
      (s.register sessionId session).sandboxes.size ≤ s.sandboxes.size := by
  unfold SweWorld.register
  dsimp only
  split
  · exact ⟨rfl, rfl, rfl, Std.ExtTreeMap.size_insert_le, Nat.le_refl _⟩
  · exact ⟨rfl, rfl, rfl, Std.ExtTreeMap.size_insert_le, SweWorld.size_drop _ _⟩

/-- What the check and the counter keep. -/
structure SweWorld.Slots (s : SweWorld) : Prop where
  slots : s.pool.sessions.size + s.pool.pending ≤ s.pool.capacity
  pending : s.pool.pending = entryCount SweCall.reserves s.calls

theorem SweWorld.Slots.shrink (slots : s.Slots) (shrinks : s.Shrinks s') : s'.Slots := by
  obtain ⟨room, pending⟩ := slots
  constructor
  · rw [shrinks.pending, shrinks.capacity]
    exact Nat.le_trans (Nat.add_le_add_right shrinks.sessions _) room
  · rw [shrinks.pending, shrinks.calls, pending]

theorem SweWorld.Slots.goto (slots : s.Slots) {t : Nat} {call : SweCall}
    (same : (s.calls[t]?).any SweCall.reserves = call.reserves) : (s.goto t call).Slots := by
  have count := s.count_goto SweCall.reserves t call
  rw [same] at count
  exact ⟨slots.slots, slots.pending.trans (Nat.add_right_cancel count).symm⟩

theorem SweWorld.Slots.finish (slots : s.Slots) {t : Nat}
    (free : (s.calls[t]?).any SweCall.reserves = false) : (s.finish t).Slots := by
  have count := s.count_finish SweCall.reserves t
  rw [free] at count
  exact ⟨slots.slots, slots.pending.trans count.symm⟩

theorem SweWorld.Slots.step (slots : s.Slots) (took : s.Took label s') : s'.Slots := by
  cases took with
  | refused => exact slots
  | reserved t instanceId variant pool fresh reserved =>
    obtain ⟨room, rfl⟩ := SweInstancePool.reserve_ok reserved
    have count := s.count_goto SweCall.reserves t (.reserved instanceId)
    rw [fresh] at count
    have pending := slots.pending
    constructor
    · simp only [SweWorld.pool_goto]
      omega
    · simp only [SweWorld.pool_goto]
      rw [pending]
      exact count.symm
  | named t instanceId known =>
    have renamed : SweWorld.Slots { s with pool := { s.pool with seq := s.pool.seq + 1 } } :=
      ⟨slots.slots, slots.pending⟩
    exact renamed.goto (by simp [known])
  | unprovisioned t sessionId known => exact slots.goto (by simp [known])
  | provisioned t sessionId session known =>
    have cloned : (s.clone session).Slots := ⟨slots.slots, slots.pending⟩
    exact cloned.goto (by simp [known])
  | abandoned t sessionId session known =>
    exact (slots.shrink (s.shrinks_drop session)).goto (by simp [SweWorld.drop, known])
  | released t known =>
    have count := s.count_finish SweCall.reserves t
    rw [known] at count
    obtain ⟨room, pending⟩ := slots
    have counted : entryCount SweCall.reserves (s.finish t).calls + 1 = s.pool.pending :=
      count.trans pending.symm
    constructor
    · simp only [SweWorld.pool_finish, SweInstancePool.release]
      omega
    · show s.pool.pending - 1 = entryCount SweCall.reserves (s.finish t).calls
      omega
  | registered t sessionId session known =>
    obtain ⟨calls, capacity, released, sessions, _⟩ := s.register_spec sessionId session
    have count := (s.register sessionId session).count_finish SweCall.reserves t
    rw [calls, known] at count
    obtain ⟨room, pending⟩ := slots
    have counted : entryCount SweCall.reserves ((s.register sessionId session).finish t).calls + 1 =
        s.pool.pending := count.trans pending.symm
    constructor
    · simp only [SweWorld.pool_finish]
      omega
    · rw [SweWorld.pool_finish, released]
      omega
  | got t sessionId session fresh =>
    have cloned : (s.clone session).Slots := ⟨slots.slots, slots.pending⟩
    exact cloned.goto (by simp [fresh])
  | done t session known =>
    exact (slots.shrink (s.shrinks_drop session)).finish (by simp [SweWorld.drop, known])
  | destroyed sessionId => exact slots.shrink (s.shrinks_destroy sessionId)
  | terminated t sessionId session fresh =>
    have cloned : (s.clone session).Slots := ⟨slots.slots, slots.pending⟩
    exact cloned.goto (by simp [fresh])
  | removed t sessionId session known =>
    have shrinks := s.shrinks_destroy sessionId
    exact (slots.shrink shrinks).goto (by simp [shrinks.calls, known])

end Capacity

/-! ### The owners of a session -/

/-- The owners of a session: the table and the calls that hold it. -/
def SweWorld.owners (s : SweWorld) (session : Nat) : Nat :=
  entryCount (· == session) s.pool.sessions +
    entryCount (fun call => call.session? == some session) s.calls

/-- The number of owners that is kept is their number, and a session without owners is dropped.
`moving` is a session that changes hands and has an owner that is neither. -/
structure SweWorld.Owned (s : SweWorld) (moving : Option Nat) : Prop where
  count : ∀ session : Nat,
    (s.sandboxes[session]?).getD 0 = s.owners session + (moving == some session).toNat
  positive : ∀ session : Nat, s.sandboxes[session]? ≠ some 0

section Owners

variable {s s' : SweWorld} {label : SweLabel} {session : Nat}

theorem SweWorld.Owned.mem_iff (owned : s.Owned none) :
    session ∈ s.sandboxes ↔ 0 < s.owners session := by
  have count : (s.sandboxes[session]?).getD 0 = s.owners session := owned.count session
  rw [← count, mem_iff_lookup]
  cases known : s.sandboxes[session]? with
  | none => simp
  | some count =>
    have positive : count ≠ 0 := fun zero => owned.positive session (zero ▸ known)
    simpa using Nat.pos_of_ne_zero positive

theorem SweWorld.owners_goto (s : SweWorld) (t : Nat) (call : SweCall) (session : Nat) :
    (s.goto t call).owners session +
        ((s.calls[t]?).any fun call => call.session? == some session).toNat =
      s.owners session + (call.session? == some session).toNat := by
  have count := s.count_goto (fun call => call.session? == some session) t call
  simp only [SweWorld.owners, SweWorld.pool_goto]
  omega

theorem SweWorld.owners_finish (s : SweWorld) (t : Nat) (session : Nat) :
    (s.finish t).owners session +
        ((s.calls[t]?).any fun call => call.session? == some session).toNat =
      s.owners session := by
  have count := s.count_finish (fun call => call.session? == some session) t
  simp only [SweWorld.owners, SweWorld.pool_finish]
  omega

theorem SweWorld.lookup_clone (s : SweWorld) (held session : Nat) :
    ((s.clone held).sandboxes[session]?).getD 0 =
      (s.sandboxes[session]?).getD 0 + (held == session).toNat := by
  simp only [SweWorld.clone, lookup_insert]
  by_cases same : held = session
  · subst same
    simp
  · simp [same]

theorem SweWorld.lookup_drop (s : SweWorld) (held session : Nat) :
    ((s.drop held).sandboxes[session]?).getD 0 =
      (s.sandboxes[session]?).getD 0 - (held == session).toNat := by
  unfold SweWorld.drop
  by_cases same : held = session
  · subst same
    rw [beq_self_eq_true, Bool.toNat_true]
    split
    · next owners known => simp [known]
    · next few =>
      rw [lookup_erase, if_pos rfl]
      cases known : s.sandboxes[held]? with
      | none => rfl
      | some owners =>
        rcases owners with _ | _ | owners
        · rfl
        · rfl
        · exact absurd known (few owners)
  · have other : (held == session) = false := beq_eq_false_iff_ne.mpr same
    rw [other, Bool.toNat_false, Nat.sub_zero]
    split
    · rw [lookup_insert, if_neg same]
    · rw [lookup_erase, if_neg same]

theorem SweWorld.positive_clone (positive : ∀ session : Nat, s.sandboxes[session]? ≠ some 0)
    (held : Nat) : ∀ session : Nat, (s.clone held).sandboxes[session]? ≠ some 0 := by
  intro session
  simp only [SweWorld.clone, lookup_insert]
  split
  · simp
  · exact positive session

theorem SweWorld.positive_drop (positive : ∀ session : Nat, s.sandboxes[session]? ≠ some 0)
    (held : Nat) : ∀ session : Nat, (s.drop held).sandboxes[session]? ≠ some 0 := by
  intro session
  unfold SweWorld.drop
  split
  · rw [lookup_insert]
    split
    · simp
    · exact positive session
  · rw [lookup_erase]
    split
    · simp
    · exact positive session

theorem beq_some_some (held session : Nat) : (some held == some session) = (held == session) := rfl

variable {t held : Nat} {call call' : SweCall} {sessionId : String}

theorem SweWorld.Owned.clone (owned : s.Owned none) (held : Nat) :
    (s.clone held).Owned (some held) := by
  refine ⟨fun session => ?_, s.positive_clone owned.positive held⟩
  have count := owned.count session
  rw [s.lookup_clone held session, count]
  rfl

theorem SweWorld.Owned.drop (owned : s.Owned (some held)) : (s.drop held).Owned none := by
  refine ⟨fun session => ?_, s.positive_drop owned.positive held⟩
  have count := owned.count session
  rw [beq_some_some] at count
  rw [s.lookup_drop held session, count, Nat.add_sub_cancel]
  rfl

theorem SweWorld.Owned.take (owned : s.Owned (some held))
    (idle : (s.calls[t]?).bind SweCall.session? = none) (takes : call.session? = some held) :
    (s.goto t call).Owned none := by
  refine ⟨fun session => ?_, owned.positive⟩
  have change := s.owners_goto t call session
  have free : (s.calls[t]?).any (fun call => call.session? == some session) = false := by
    cases known : s.calls[t]? with
    | none => rfl
    | some call =>
      have none : call.session? = none := by simpa [known] using idle
      simp [none]
  rw [free, takes] at change
  rw [SweWorld.sandboxes_goto, owned.count session]
  exact change.symm

section

variable (owned : s.Owned none)
include owned

theorem SweWorld.Owned.give (holds : (s.calls[t]?).bind SweCall.session? = some held)
    (gives : call.session? = none) : (s.goto t call).Owned (some held) := by
  refine ⟨fun session => ?_, owned.positive⟩
  obtain ⟨before, known, held⟩ := Option.bind_eq_some_iff.mp holds
  have change := s.owners_goto t call session
  rw [known, Option.any_some, held, gives] at change
  rw [SweWorld.sandboxes_goto, owned.count session]
  exact change.symm

theorem SweWorld.Owned.leave (holds : (s.calls[t]?).bind SweCall.session? = some held) :
    (s.finish t).Owned (some held) := by
  refine ⟨fun session => ?_, owned.positive⟩
  obtain ⟨before, known, held⟩ := Option.bind_eq_some_iff.mp holds
  have change := s.owners_finish t session
  rw [known, Option.any_some, held] at change
  rw [SweWorld.sandboxes_finish, owned.count session]
  exact change.symm

theorem SweWorld.Owned.keep (known : s.calls[t]? = some call)
    (same : call.session? = call'.session?) : (s.goto t call').Owned none := by
  refine ⟨fun session => ?_, owned.positive⟩
  have change := s.owners_goto t call' session
  rw [known, Option.any_some, same] at change
  rw [SweWorld.sandboxes_goto, owned.count session, Nat.add_right_cancel change]

theorem SweWorld.Owned.enter (fresh : s.calls[t]? = none) (none : call.session? = none) :
    (s.goto t call).Owned Option.none := by
  refine ⟨fun session => ?_, owned.positive⟩
  have change := s.owners_goto t call session
  rw [fresh, Option.any_none, none] at change
  rw [SweWorld.sandboxes_goto, owned.count session]
  exact congrArg (· + _) change.symm

theorem SweWorld.Owned.exit (known : s.calls[t]? = some call) (none : call.session? = none) :
    (s.finish t).Owned Option.none := by
  refine ⟨fun session => ?_, owned.positive⟩
  have change := s.owners_finish t session
  rw [known, Option.any_some, none] at change
  rw [SweWorld.sandboxes_finish, owned.count session]
  exact congrArg (· + _) change.symm

theorem SweWorld.Owned.erase (found : s.pool.sessions[sessionId]? = some held) :
    SweWorld.Owned { s with pool := { s.pool with sessions := s.pool.sessions.erase sessionId } }
      (some held) := by
  refine ⟨fun session => ?_, owned.positive⟩
  have change := entryCount_erase s.pool.sessions (· == session) sessionId
  rw [found, Option.any_some] at change
  have count := owned.count session
  simp only [SweWorld.owners] at count ⊢
  rw [count, beq_some_some, ← change]
  simp only [Option.none_beq_some, Bool.toNat_false]
  omega

end

theorem SweWorld.Owned.insert (owned : s.Owned (some held)) (sessionId : String) : SweWorld.Owned
      { s with pool := { s.pool with sessions := s.pool.sessions.insert sessionId held } }
      s.pool.sessions[sessionId]? := by
  refine ⟨fun session => ?_, owned.positive⟩
  have change := entryCount_insert s.pool.sessions (· == session) sessionId held
  have count := owned.count session
  have old : (s.pool.sessions[sessionId]?).any (· == session) =
      (s.pool.sessions[sessionId]? == some session) := by
    cases s.pool.sessions[sessionId]? <;> rfl
  rw [old] at change
  rw [beq_some_some] at count
  simp only [SweWorld.owners] at count ⊢
  rw [count]
  omega

theorem SweWorld.Owned.destroy (owned : s.Owned none) (sessionId : String) :
    (s.destroy sessionId).Owned none := by
  unfold SweWorld.destroy
  split
  · exact owned
  · next found => exact (owned.erase found).drop

theorem SweWorld.calls_destroy (s : SweWorld) (sessionId : String) :
    (s.destroy sessionId).calls = s.calls := (s.shrinks_destroy sessionId).calls

theorem SweWorld.Owned.step (owned : s.Owned none) (took : s.Took label s') : s'.Owned none := by
  cases took with
  | refused => exact owned
  | reserved t instanceId variant pool fresh reserved =>
    obtain ⟨_, rfl⟩ := SweInstancePool.reserve_ok reserved
    have counted : SweWorld.Owned
        { s with pool := { s.pool with pending := s.pool.pending + 1 } } none :=
      ⟨owned.count, owned.positive⟩
    exact counted.enter fresh rfl
  | named t instanceId known =>
    have counted : SweWorld.Owned { s with pool := { s.pool with seq := s.pool.seq + 1 } } none :=
      ⟨owned.count, owned.positive⟩
    exact counted.keep known rfl
  | unprovisioned t sessionId known => exact owned.keep known rfl
  | provisioned t sessionId session known =>
    exact (owned.clone session).take (by simp [known, SweCall.session?]) rfl
  | abandoned t sessionId session known =>
    have given : (s.goto t .failed).Owned (some session) :=
      owned.give (by simp [known, SweCall.session?]) rfl
    exact given.drop
  | released t known =>
    have counted : SweWorld.Owned { s with pool := s.pool.release } none :=
      ⟨owned.count, owned.positive⟩
    exact counted.exit known rfl
  | registered t sessionId session known =>
    have left : (s.finish t).Owned (some session) :=
      owned.leave (by simp [known, SweCall.session?])
    have inserted := left.insert sessionId
    unfold SweWorld.register
    dsimp only
    split
    · next vacant =>
      rw [SweWorld.pool_finish, vacant] at inserted
      exact ⟨inserted.count, inserted.positive⟩
    · next old present =>
      rw [SweWorld.pool_finish, present] at inserted
      exact ⟨inserted.drop.count, inserted.drop.positive⟩
  | got t sessionId session fresh =>
    exact (owned.clone session).take (by simp [fresh]) rfl
  | done t session known =>
    have left : (s.finish t).Owned (some session) :=
      owned.leave (by simp [known, SweCall.session?])
    exact left.drop
  | destroyed sessionId => exact owned.destroy sessionId
  | terminated t sessionId session fresh =>
    exact (owned.clone session).take (by simp [fresh]) rfl
  | removed t sessionId session known =>
    have still : (s.destroy sessionId).calls[t]? = some (.terminating sessionId session) := by
      rw [s.calls_destroy, known]
    exact (owned.destroy sessionId).keep still rfl

theorem SweWorld.Owned.mem_of_listed (owned : s.Owned none)
    (listed : s.pool.sessions[sessionId]? = some held) : held ∈ s.sandboxes := by
  rw [owned.mem_iff, SweWorld.owners]
  have change := entryCount_erase s.pool.sessions (· == held) sessionId
  rw [listed, Option.any_some, beq_self_eq_true, Bool.toNat_true] at change
  omega

end Owners

/-! ### Containers -/

/-- The containers that run and those still to be started fit into the pool. -/
def SweWorld.Room (s : SweWorld) : Prop :=
  s.sandboxes.size + entryCount SweCall.awaits s.calls ≤ s.pool.capacity

section Containers

variable {s s' : SweWorld} {label : SweLabel}

theorem SweWorld.Room.shrink (room : s.Room) (shrinks : s.Shrinks s') : s'.Room := by
  unfold SweWorld.Room
  rw [shrinks.calls, shrinks.capacity]
  exact Nat.le_trans (Nat.add_le_add_right shrinks.sandboxes _) room

theorem SweWorld.Room.goto (room : s.Room) {t : Nat} {call : SweCall}
    (less : call.awaits = true → (s.calls[t]?).any SweCall.awaits = true) :
    (s.goto t call).Room := by
  have count := s.count_goto SweCall.awaits t call
  have fewer : call.awaits.toNat ≤ ((s.calls[t]?).any SweCall.awaits).toNat := by
    cases awaits : call.awaits with
    | false => exact Nat.zero_le _
    | true => exact Nat.le_of_eq (by rw [less awaits])
  unfold SweWorld.Room at room ⊢
  simp only [SweWorld.sandboxes_goto, SweWorld.pool_goto]
  omega

theorem SweWorld.Room.finish (room : s.Room) (t : Nat) : (s.finish t).Room := by
  have count := s.count_finish SweCall.awaits t
  unfold SweWorld.Room at room ⊢
  simp only [SweWorld.sandboxes_finish, SweWorld.pool_finish]
  omega

theorem SweWorld.Room.clone (room : s.Room) (owned : s.Owned none) {sessionId : String}
    {session : Nat} (listed : s.pool.sessions[sessionId]? = some session) :
    (s.clone session).Room := by
  have size := SweWorld.size_clone_of_mem (owned.mem_of_listed listed)
  unfold SweWorld.Room
  rw [size]
  exact room

theorem SweWorld.Room.step (room : s.Room) (owned : s.Owned none) (roomy : Roomy s label)
    (took : s.Took label s') : s'.Room := by
  cases took with
  | refused => exact room
  | reserved t instanceId variant pool fresh reserved =>
    obtain ⟨_, rfl⟩ := SweInstancePool.reserve_ok reserved
    have free := roomy (by rw [reserved]; rfl)
    have count := s.count_goto SweCall.awaits t (.reserved instanceId)
    rw [fresh] at count
    show s.sandboxes.size + entryCount SweCall.awaits (s.goto t (.reserved instanceId)).calls ≤
      s.pool.capacity
    simp only [Option.any_none, Bool.toNat_false, SweCall.awaits, Bool.toNat_true] at count
    omega
  | named t instanceId known =>
    have counted : SweWorld.Room { s with pool := { s.pool with seq := s.pool.seq + 1 } } := room
    exact counted.goto (by simp [known])
  | unprovisioned => exact room.goto (by simp)
  | provisioned t sessionId session known =>
    have count := (s.clone session).count_goto SweCall.awaits t (.provisioned sessionId session)
    have calls : (s.clone session).calls = s.calls := rfl
    have size := s.size_clone_le session
    rw [calls, known] at count
    simp only [Option.any_some, SweCall.awaits, Bool.toNat_true, Bool.toNat_false] at count
    unfold SweWorld.Room at room ⊢
    show (s.clone session).sandboxes.size + _ ≤ s.pool.capacity
    omega
  | abandoned t sessionId session =>
    exact (room.shrink (s.shrinks_drop session)).goto (by simp)
  | released t =>
    have counted : SweWorld.Room { s with pool := s.pool.release } := room
    exact counted.finish t
  | registered t sessionId session =>
    obtain ⟨calls, capacity, _, _, sandboxes⟩ := s.register_spec sessionId session
    have registered : (s.register sessionId session).Room := by
      unfold SweWorld.Room at room ⊢
      rw [calls, capacity]
      omega
    exact registered.finish t
  | got t sessionId session fresh listed =>
    exact (room.clone owned listed).goto (by simp)
  | done t session => exact (room.shrink (s.shrinks_drop session)).finish t
  | destroyed sessionId => exact room.shrink (s.shrinks_destroy sessionId)
  | terminated t sessionId session fresh listed =>
    exact (room.clone owned listed).goto (by simp)
  | removed t sessionId =>
    exact (room.shrink (s.shrinks_destroy sessionId)).goto (by simp)

/-! ### Every run -/

theorem SweWorld.Owned.start {store : Map String BenchmarkVariant} {capacity : Nat} :
    SweWorld.Owned { pool := SweInstancePool.new store capacity } none := by
  constructor
  · intro session
    simp [SweWorld.owners, SweInstancePool.new]
  · simp

/-- The counter and the check keep the slots, and every session is dropped with its last owner. -/
theorem slots_of_reachable (reached : Reachable swePool s) : s.Slots ∧ s.Owned none := by
  apply ReachableWhen.invariant (motive := fun s => s.Slots ∧ s.Owned none) ?_ ?_ reached
  · rintro s ⟨store, capacity, rfl⟩
    exact ⟨⟨Nat.zero_le _, rfl⟩, SweWorld.Owned.start⟩
  · rintro s label s' _ ⟨slots, owned⟩ _ taken
    exact ⟨slots.step (took_of_step taken), owned.step (took_of_step taken)⟩

/-- Where slots are reserved only while the running containers and those still to be started leave
room, the pool keeps to its capacity. -/
theorem within_capacity (reached : ReachableWhen swePool Roomy s) : s.WithinCapacity := by
  have room : s.Room := by
    apply ReachableWhen.invariant (motive := SweWorld.Room) ?_ ?_ reached
    · rintro s ⟨store, capacity, rfl⟩
      exact Nat.zero_le _
    · rintro s label s' before room roomy taken
      exact room.step (slots_of_reachable (.of_when before)).2 roomy (took_of_step taken)
  obtain ⟨slots, _⟩ := slots_of_reachable (.of_when reached)
  exact ⟨slots.slots, slots.pending, Nat.le_trans (Nat.le_add_right _ _) room⟩

theorem exists_started (n : Nat) (s : SweWorld) (waiting : entryCount SweCall.awaits s.calls = n) :
    ∃ schedule s', swePool.exec s schedule = some s' ∧
      s'.sandboxes.size = s.sandboxes.size + n ∧ s'.pool.capacity = s.pool.capacity := by
  induction n generalizing s with
  | zero => exact ⟨[], s, rfl, rfl, rfl⟩
  | succ n ih =>
    -- a creation that has its name gets a container with a new number
    have start : ∀ (s : SweWorld) (t : Nat) (sessionId : String),
        s.calls[t]? = some (.named sessionId) → entryCount SweCall.awaits s.calls = n + 1 →
        ∃ schedule s', swePool.exec s schedule = some s' ∧
          s'.sandboxes.size = s.sandboxes.size + (n + 1) ∧
          s'.pool.capacity = s.pool.capacity := by
      intro s t sessionId known waiting
      obtain ⟨session, new⟩ := Infinite.exists_notMem_finset s.sandboxes.keys.toFinset
      have absent : ¬ session ∈ s.sandboxes := fun present =>
        new (List.mem_toFinset.mpr (Std.ExtTreeMap.mem_keys.mpr present))
      have count := (s.clone session).count_goto SweCall.awaits t (.provisioned sessionId session)
      have calls : (s.clone session).calls = s.calls := rfl
      rw [calls, known] at count
      simp only [Option.any_some, SweCall.awaits, Bool.toNat_true, Bool.toNat_false] at count
      obtain ⟨schedule, s', ran, size, capacity⟩ :=
        ih ((s.clone session).goto t (.provisioned sessionId session)) (by omega)
      have grown : (s.clone session).sandboxes.size = s.sandboxes.size + 1 := by
        simp [Std.ExtTreeMap.size_insert, absent]
      refine ⟨.provision t (some session) :: schedule, s', ?_, ?_, capacity⟩
      · rw [System.exec]
        simp only [swePool, SweWorld.step, known, if_neg absent, Option.bind_some]
        exact ran
      · rw [size, SweWorld.sandboxes_goto, grown]
        omega
    obtain ⟨t, call, known, awaits⟩ := exists_of_entryCount_pos (p := SweCall.awaits) s.calls
      (by omega)
    cases call with
    | reserved instanceId =>
      let named := { s with pool := { s.pool with seq := s.pool.seq + 1 } }.goto t
        (.named (s.pool.sessionId instanceId))
      have count := s.count_goto SweCall.awaits t (.named (s.pool.sessionId instanceId))
      rw [known] at count
      have now : named.calls[t]? = some (.named (s.pool.sessionId instanceId)) := by
        show (s.calls.insert t _)[t]? = _
        rw [lookup_insert, if_pos rfl]
      obtain ⟨schedule, s', ran, size, capacity⟩ := start named t _ now
        ((Nat.add_right_cancel count).trans waiting)
      refine ⟨.name t :: schedule, s', ?_, size, capacity⟩
      rw [System.exec]
      simp only [swePool, SweWorld.step, known, Option.bind_some]
      exact ran
    | named sessionId => exact start s t sessionId known waiting
    | provisioned | failed | holding | terminating => cases awaits

/-- A creation that is let in without room leads to more containers than the capacity. -/
theorem exceeds_of_not_roomy {t : Nat} {instanceId : String} {variant : BenchmarkVariant}
    (fresh : t ∉ s.calls) (crowded : ¬ Roomy s (.createSession t instanceId variant)) :
    ∃ schedule s', swePool.exec s (.createSession t instanceId variant :: schedule) = some s' ∧
      s'.pool.capacity < s'.sandboxes.size := by
  obtain ⟨passes, crowded⟩ := Classical.not_imp.mp crowded
  cases reserved : s.pool.reserve instanceId variant with
  | error => cases (congrArg Except.isOk reserved).symm.trans passes
  | ok pool =>
    obtain ⟨_, rfl⟩ := SweInstancePool.reserve_ok reserved
    have count := s.count_goto SweCall.awaits t (.reserved instanceId)
    rw [Std.ExtTreeMap.getElem?_eq_none fresh] at count
    let next := { s with pool := { s.pool with pending := s.pool.pending + 1 } }.goto t
      (.reserved instanceId)
    have waiting : entryCount SweCall.awaits next.calls =
        entryCount SweCall.awaits s.calls + 1 := count
    obtain ⟨schedule, s', ran, size, capacity⟩ := exists_started _ next waiting
    refine ⟨schedule, s', ?_, ?_⟩
    · rw [System.exec]
      simp only [swePool, SweWorld.step, if_neg fresh, reserved, Option.bind_some]
      exact ran
    · rw [size, capacity]
      simp only [next, SweWorld.sandboxes_goto, SweWorld.pool_goto]
      omega

/-- Every session that was not dropped is in the table or being created. -/
def SweWorld.Attached (s : SweWorld) : Prop :=
  ∀ session ∈ s.sandboxes, (∃ id : String, s.pool.sessions[id]? = some session) ∨
    ∃ (t : Nat) (id : String), s.calls[t]? = some (.provisioned id session)

/-- The session that a creation has provisioned. -/
def SweCall.created? : SweCall → Option Nat
  | provisioned _ session => some session
  | _ => none

/-- The check of `create_session` leaves room unless a session that was removed from the table is
still held. -/
theorem roomy_of_attached (slots : s.Slots) (attached : s.Attached) (label : SweLabel) :
    Roomy s label := by
  cases label with
  | createSession t instanceId variant =>
    intro passes
    cases reserved : s.pool.reserve instanceId variant with
    | error => cases (congrArg Except.isOk reserved).symm.trans passes
    | ok =>
      obtain ⟨free, -⟩ := SweInstancePool.reserve_ok reserved
      let created : SweCall → Bool := fun call => call.created?.isSome
      have listed : s.sandboxes.size ≤ (s.pool.sessions.toList.map Prod.snd ++
          s.calls.toList.filterMap fun call => call.2.created?).length := by
        apply size_le_length
        intro session alive
        rcases attached session alive with ⟨id, found⟩ | ⟨t, id, found⟩
        · exact List.mem_append_left _ (List.mem_map.mpr
            ⟨(id, session), Std.ExtTreeMap.mem_toList_iff_getElem?_eq_some.mpr found, rfl⟩)
        · exact List.mem_append_right _ (List.mem_filterMap.mpr
            ⟨(t, _), Std.ExtTreeMap.mem_toList_iff_getElem?_eq_some.mpr found, rfl⟩)
      rw [List.length_append, List.length_map, Std.ExtTreeMap.length_toList] at listed
      have provisioned : (s.calls.toList.filterMap fun call => call.2.created?).length =
          entryCount created s.calls := by
        rw [entryCount_eq_length, List.length_filterMap_eq_countP, List.countP_eq_length_filter]
      have apart : entryCount created s.calls + entryCount SweCall.awaits s.calls ≤
          entryCount SweCall.reserves s.calls := by
        apply entryCount_add_le <;> intro call <;> cases call <;>
          simp [created, SweCall.created?]
      have pending := slots.pending
      omega
  | _ => trivial

/-- Where every container that runs belongs to a session of the table or to a creation before each
step, the pool keeps to its capacity. -/
theorem within_capacity_of_attached (reached : ReachableWhen swePool (fun s _ => s.Attached) s) :
    s.WithinCapacity := by
  obtain ⟨slots, -⟩ := slots_of_reachable (.of_when reached)
  have room : s.Room := by
    apply ReachableWhen.invariant (motive := SweWorld.Room) ?_ ?_ reached
    · rintro s ⟨store, capacity, rfl⟩
      exact Nat.zero_le _
    · rintro s label s' before room attached taken
      obtain ⟨slots, owned⟩ := slots_of_reachable (.of_when before)
      exact room.step owned (roomy_of_attached slots attached label) (took_of_step taken)
  exact ⟨slots.slots, slots.pending, Nat.le_trans (Nat.le_add_right _ _) room⟩

/-- A catalog of one instance, in a pool of one session. -/
def oneInstance : SweWorld :=
  { pool := SweInstancePool.new ((∅ : Map String BenchmarkVariant).insert "i" .verified) 1 }

/-- Call `t` creates the session of container `session`. -/
def creates (t session : Nat) : List SweLabel :=
  [.createSession t "i" .verified, .name t, .provision t (some session), .register t]

theorem within_capacity_of_recreated :
    ∃ s, swePool.exec oneInstance (creates 1 10 ++ [.get 2 "sess-i-1", .done 2,
        .terminate 3 "sess-i-1", .destroyTerminated 3, .done 3] ++ creates 4 11) = some s ∧
      s.WithinCapacity := by
  have along : swePool.Along Roomy oneInstance (creates 1 10 ++ [.get 2 "sess-i-1", .done 2,
      .terminate 3 "sess-i-1", .destroyTerminated 3, .done 3] ++ creates 4 11) := by
    decide +kernel
  obtain ⟨s, ran⟩ := Option.isSome_iff_exists.mp
    (show (swePool.exec oneInstance (creates 1 10 ++ [.get 2 "sess-i-1", .done 2,
      .terminate 3 "sess-i-1", .destroyTerminated 3, .done 3] ++ creates 4 11)).isSome = true by
      decide +kernel)
  exact ⟨s, ran, within_capacity (ReachableWhen.of_exec (.start ⟨_, 1, rfl⟩) _ along ran)⟩

theorem within_capacity_of_created :
    ∃ s, swePool.exec oneInstance (creates 1 10 ++ [.get 2 "sess-i-1", .done 2,
        .destroy "sess-i-1"] ++ creates 3 11 ++ [.terminate 4 "sess-i-2", .destroyTerminated 4]) =
      some s ∧ s.WithinCapacity := by
  have along : swePool.Along (fun s _ => s.sandboxes.toList.all fun sandbox =>
      (s.pool.sessions.toList.any fun entry => entry.2 = sandbox.1) ||
        s.calls.toList.any fun entry => entry.2.created? = some sandbox.1) oneInstance
      (creates 1 10 ++ [.get 2 "sess-i-1", .done 2, .destroy "sess-i-1"] ++ creates 3 11 ++
        [.terminate 4 "sess-i-2", .destroyTerminated 4]) := by decide +kernel
  obtain ⟨s, ran⟩ := Option.isSome_iff_exists.mp
    (show (swePool.exec oneInstance (creates 1 10 ++ [.get 2 "sess-i-1", .done 2,
      .destroy "sess-i-1"] ++ creates 3 11 ++ [.terminate 4 "sess-i-2",
        .destroyTerminated 4])).isSome = true by decide +kernel)
  have reached := ReachableWhen.of_exec (.start (show swePool.init oneInstance from ⟨_, 1, rfl⟩)) _
    along ran
  refine ⟨s, ran, within_capacity_of_attached (reached.mono fun s _ all session alive => ?_)⟩
  obtain ⟨owners, owned⟩ := Option.isSome_iff_exists.mp
    (Std.ExtTreeMap.isSome_getElem?_iff_mem.mpr alive)
  have listed :=
    List.all_eq_true.mp all _ (Std.ExtTreeMap.mem_toList_iff_getElem?_eq_some.mpr owned)
  rcases Bool.or_eq_true_iff.mp listed with table | created
  · obtain ⟨⟨id, _⟩, member, same⟩ := List.any_eq_true.mp table
    cases of_decide_eq_true same
    exact .inl ⟨id, Std.ExtTreeMap.mem_toList_iff_getElem?_eq_some.mp member⟩
  · obtain ⟨⟨t, call⟩, member, same⟩ := List.any_eq_true.mp created
    have calling := Std.ExtTreeMap.mem_toList_iff_getElem?_eq_some.mp member
    cases call with
    | provisioned id _ =>
      cases of_decide_eq_true same
      exact .inr ⟨t, id, calling⟩
    | _ => cases of_decide_eq_true same

theorem exceeds_of_not_roomy_shared : ∃ s, Reachable swePool s ∧ ∃ schedule s',
    swePool.exec s (.createSession 4 "i" .verified :: schedule) = some s' ∧
      s'.pool.capacity < s'.sandboxes.size := by
  have ran : ∃ s ∈ swePool.exec oneInstance (creates 1 10 ++ [.get 2 "sess-i-1",
      .destroy "sess-i-1"]), 4 ∉ s.calls ∧ ¬ Roomy s (.createSession 4 "i" .verified) := by
    decide +kernel
  obtain ⟨s, ran, fresh, crowded⟩ := ran
  exact ⟨s, Reachable.of_exec ⟨_, 1, rfl⟩ _ ran, exceeds_of_not_roomy fresh crowded⟩

/-- A session is destroyed while a command runs in it, and another is created: two containers run
in a pool of one. -/
theorem two_containers_of_one :
    ¬ ∀ s, Reachable swePool s → s.WithinCapacity := by
  intro all
  have ran : ∃ s ∈ swePool.exec oneInstance (creates 1 10 ++ [.get 2 "sess-i-1",
      .destroy "sess-i-1"] ++ creates 4 11), s.pool.capacity < s.sandboxes.size := by
    decide +kernel
  obtain ⟨s, ran, exceeded⟩ := ran
  exact Nat.not_le_of_lt exceeded (all s (Reachable.of_exec ⟨_, 1, rfl⟩ _ ran)).sandboxes

end Containers

end UEnv.Worker
