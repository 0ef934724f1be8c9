import UEnv.Lib.Runs
import UEnv.Lib.Tables

/-!
# The trajectory store

`TrajectoryStore` over its rows and its files. The calls hold the connection lock, so they follow
one another; every file operation and every SQL statement of a call is a step that may fail, and the
process may die between any two of them. A file of `bodies`, `tmp` or `quarantine` is known by the
id in its name, and the digest of a body is a parameter.
-/

namespace UEnv.Trajectory

open Tables Runs

/-! ### Data -/

/-- The columns of `trajectories` that the store reads again. -/
structure TrajectoryRow where
  bodySha256 : String
  sealedAtMs : Int
  uploadStatus : String
  bodyPresent : Bool
  deriving DecidableEq

/-- The rows and the files. -/
structure TrajectoryStore where
  rows : Map String TrajectoryRow := ∅
  bodies : Map String (List UInt8) := ∅
  tmp : Map String (List UInt8) := ∅
  quarantine : Map String (List UInt8) := ∅

/-- The arguments of `insert`. -/
structure InsertArgs where
  id : String
  body : List UInt8
  sealedAtMs : Int
  deriving DecidableEq

/-- The row of a new trajectory. -/
def InsertArgs.row (u : InsertArgs) (bodySha256 : String) : TrajectoryRow :=
  { bodySha256, sealedAtMs := u.sealedAtMs, uploadStatus := "acked", bodyPresent := true }

inductive InsertOutcome
  | acked
  | duplicate
  | conflict
  deriving DecidableEq

/-- The statement or the file operation that comes next in a call. -/
inductive StoreStage
  -- `insert`; `restore` says that the row is there and marked as missing its body
  | find (u : InsertArgs)
  | create (u : InsertArgs) (restore : Bool)
  | write (u : InsertArgs) (restore : Bool)
  | sync (u : InsertArgs) (restore : Bool)
  | rename (u : InsertArgs) (restore : Bool)
  | update (u : InsertArgs)
  | index (u : InsertArgs)
  | undo (u : InsertArgs) (message : String)
  -- `get_body`
  | lookup (id : String)
  | read (id : String)
  | miss (id : String)
  -- `head`
  | count (id : String)
  -- `reconcile`
  | listBodies
  | countRows (id : String) (rest : List String) (orphan : Nat)
  | isolate (id : String) (rest : List String) (orphan : Nat)
  | listPresent (orphan : Nat)
  | checkBody (id : String) (rest : List String) (orphan ghost : Nat)
  | unmark (id : String) (rest : List String) (orphan ghost : Nat)
  -- `retention`
  | listOld (cutoff : Int)
  | checkOld (id : String) (rest : List String) (deleted : Nat)
  | remove (id : String) (rest : List String) (deleted : Nat)
  | delete (id : String) (rest : List String) (deleted : Nat)
  deriving DecidableEq

/-- What a call returns. -/
inductive StoreAnswer
  | insert (answer : Except String InsertOutcome)
  | body (answer : Except String (Option (List UInt8)))
  | head (answer : Except String Bool)
  | reconcile (answer : Except String (Nat × Nat))
  | retention (answer : Except String Nat)

/-- The store and its history: the store at the start of the last call, the bodies sent and those
acknowledged by a row that no `retention` deleted, the ids whose body was taken from them since it
was last stored, and those that the last `reconcile` did not see. -/
structure StoreLedger where
  disk : TrajectoryStore := {}
  entry : TrajectoryStore := {}
  sent : List (String × List UInt8) := []
  acked : List (String × List UInt8) := []
  hurt : List String := []
  skipped : List String := []

/-- The call in progress and the last answer. -/
structure StoreWorld extends StoreLedger where
  call : Option StoreStage := none
  last : Option StoreAnswer := none

/-! ### Operations -/

namespace TrajectoryStore

variable (disk : TrajectoryStore)

/-- The row that `get_body` and `head` look for. -/
def ackedRow (id : String) : Option TrajectoryRow :=
  (disk.rows[id]?).filter fun row => row.uploadStatus = "acked"

/-- What `get_body` returns when no step of it fails. -/
def getBody (id : String) : Except String (Option (List UInt8)) :=
  match disk.ackedRow id with
  | none => .ok none
  | some row =>
    if row.bodyPresent then
      match disk.bodies[id]? with
      | some body => .ok (some body)
      | none => .error "body_missing"
    else .ok none

/-- `UPDATE trajectories SET body_present=… WHERE trajectory_id=…`. -/
def setPresent (id : String) (bodyPresent : Bool) : TrajectoryStore :=
  { disk with rows := disk.rows.modify id fun row => { row with bodyPresent } }

/-- The file of the temporary directory becomes the body. -/
def moveTmp (id : String) (content : List UInt8) : TrajectoryStore :=
  { disk with bodies := disk.bodies.insert id content, tmp := disk.tmp.erase id }

/-- The body goes to the quarantine. -/
def moveBody (id : String) : TrajectoryStore :=
  match disk.bodies[id]? with
  | none => disk
  | some content =>
    { disk with
      bodies := disk.bodies.erase id
      quarantine := disk.quarantine.insert id content }

end TrajectoryStore

namespace StoreWorld

variable (s : StoreWorld)

/-- A call starts. -/
def start (stage : StoreStage) : StoreWorld :=
  { s with call := some stage, last := none, entry := s.disk }

/-- A call goes on. -/
def goto (stage : StoreStage) : StoreWorld := { s with call := some stage }

/-- A call returns. -/
def finish (answer : StoreAnswer) : StoreWorld := { s with call := none, last := some answer }

/-- `insert` fails. -/
def refuse (message : String) : StoreWorld := s.finish (.insert (.error message))

/-- `insert` acknowledges its body. -/
def acknowledge (u : InsertArgs) (outcome : InsertOutcome) : StoreWorld :=
  { s with acked := s.acked ++ [(u.id, u.body)] }.finish (.insert (.ok outcome))

/-- The files of `bodies` that `reconcile` still has to look at. -/
def nextOrphan (rest : List String) (orphan : Nat) : StoreWorld :=
  match rest with
  | [] => s.goto (.listPresent orphan)
  | id :: rest => s.goto (.countRows id rest orphan)

/-- The rows that `reconcile` still has to look at. -/
def nextGhost (rest : List String) (orphan ghost : Nat) : StoreWorld :=
  match rest with
  | [] => s.finish (.reconcile (.ok (orphan, ghost)))
  | id :: rest => s.goto (.checkBody id rest orphan ghost)

/-- The rows that `retention` still has to look at. -/
def nextOld (rest : List String) (deleted : Nat) : StoreWorld :=
  match rest with
  | [] => s.finish (.retention (.ok deleted))
  | id :: rest => s.goto (.checkOld id rest deleted)

/-- The process dies. -/
def crash : StoreWorld := { s with call := none, last := none }

end StoreWorld

/-! ### Runs -/

/-- A call, the answer to its next step, the rows or files that a listing gives, or a crash. -/
inductive StoreLabel
  | insert (u : InsertArgs)
  | getBody (id : String)
  | head (id : String)
  | reconcile
  | retention (cutoff : Int)
  | step (answer : Except String Unit)
  | rows (ids : List String)
  | crash

namespace StoreWorld

/-- The next statement or file operation of a call. -/
def proceed (sha : List UInt8 → String) (s : StoreWorld) :
    StoreStage → Except String Unit → Option StoreWorld
  | .find _, .error message => some (s.refuse message)
  | .find u, .ok () =>
    match s.disk.rows[u.id]? with
    | none => some (s.goto (.create u false))
    | some row =>
      if row.bodySha256 ≠ sha u.body then some (s.finish (.insert (.ok .conflict)))
      else if row.bodyPresent then some (s.acknowledge u .duplicate)
      else some (s.goto (.create u true))
  | .create _ _, .error message => some (s.refuse message)
  | .create u restore, .ok () =>
    some ({ s with disk := { s.disk with tmp := s.disk.tmp.insert u.id [] } }.goto
      (.write u restore))
  | .write _ _, .error message => some (s.refuse message)
  | .write u restore, .ok () =>
    some ({ s with disk := { s.disk with tmp := s.disk.tmp.insert u.id u.body } }.goto
      (.sync u restore))
  | .sync _ _, .error message => some (s.refuse message)
  | .sync u restore, .ok () => some (s.goto (.rename u restore))
  | .rename _ _, .error message => some (s.refuse message)
  | .rename u restore, .ok () =>
    match s.disk.tmp[u.id]? with
    | none => none
    | some content =>
      some ({ s with disk := s.disk.moveTmp u.id content }.goto
        (if restore then .update u else .index u))
  | .update _, .error message => some (s.refuse message)
  | .update u, .ok () =>
    some ({ s with
      disk := s.disk.setPresent u.id true
      hurt := s.hurt.filter (· ≠ u.id) }.acknowledge u .duplicate)
  | .index u, .error message => some (s.goto (.undo u message))
  | .index u, .ok () =>
    some ({ s with
      disk := { s.disk with rows := s.disk.rows.insert u.id (u.row (sha u.body)) }
      hurt := s.hurt.filter (· ≠ u.id) }.acknowledge u .acked)
  | .undo _ message, .error _ => some (s.refuse message)
  | .undo u message, .ok () =>
    some ({ s with disk := { s.disk with bodies := s.disk.bodies.erase u.id } }.refuse message)
  | .lookup _, .error message => some (s.finish (.body (.error message)))
  | .lookup id, .ok () =>
    match s.disk.ackedRow id with
    | none => some (s.finish (.body (.ok none)))
    | some row =>
      if row.bodyPresent then some (s.goto (.read id)) else some (s.finish (.body (.ok none)))
  | .read id, .error _ => some (s.goto (.miss id))
  | .read id, .ok () =>
    match s.disk.bodies[id]? with
    | none => none
    | some content => some (s.finish (.body (.ok (some content))))
  -- whatever the read failed with, the row is marked
  | .miss _, .error _ => some (s.finish (.body (.error "body_missing")))
  | .miss id, .ok () =>
    some ({ s with disk := s.disk.setPresent id false, hurt := id :: s.hurt }.finish
      (.body (.error "body_missing")))
  | .count _, .error message => some (s.finish (.head (.error message)))
  | .count id, .ok () =>
    some (s.finish (.head (.ok ((s.disk.ackedRow id).any TrajectoryRow.bodyPresent))))
  | .listBodies, .error _ => some (s.goto (.listPresent 0))
  | .listBodies, .ok () => none
  | .countRows _ _ _, .error message => some (s.finish (.reconcile (.error message)))
  | .countRows id rest orphan, .ok () =>
    if id ∈ s.disk.rows then some (s.nextOrphan rest orphan)
    else some (s.goto (.isolate id rest orphan))
  | .isolate _ rest orphan, .error _ => some (s.nextOrphan rest (orphan + 1))
  | .isolate id rest orphan, .ok () =>
    some ({ s with disk := s.disk.moveBody id }.nextOrphan rest (orphan + 1))
  | .listPresent _, .error message => some (s.finish (.reconcile (.error message)))
  | .listPresent _, .ok () => none
  | .checkBody id rest orphan ghost, .error _ => some (s.goto (.unmark id rest orphan ghost))
  | .checkBody id rest orphan ghost, .ok () =>
    if id ∈ s.disk.bodies then some (s.nextGhost rest orphan ghost)
    else some (s.goto (.unmark id rest orphan ghost))
  | .unmark _ _ _ _, .error message => some (s.finish (.reconcile (.error message)))
  | .unmark id rest orphan ghost, .ok () =>
    some ({ s with disk := s.disk.setPresent id false, hurt := id :: s.hurt }.nextGhost rest
      orphan (ghost + 1))
  | .listOld _, .error message => some (s.finish (.retention (.error message)))
  | .listOld _, .ok () => none
  | .checkOld id rest deleted, .error _ => some (s.goto (.delete id rest deleted))
  | .checkOld id rest deleted, .ok () =>
    if id ∈ s.disk.bodies then some (s.goto (.remove id rest deleted))
    else some (s.goto (.delete id rest deleted))
  | .remove _ rest deleted, .error _ => some (s.nextOld rest deleted)
  | .remove id rest deleted, .ok () =>
    some ({ s with
      disk := { s.disk with bodies := s.disk.bodies.erase id }
      hurt := id :: s.hurt }.goto (.delete id rest deleted))
  | .delete _ _ _, .error message => some (s.finish (.retention (.error message)))
  | .delete id rest deleted, .ok () =>
    some ({ s with
      disk := { s.disk with rows := s.disk.rows.erase id }
      acked := s.acked.filter (·.1 ≠ id) }.nextOld rest (deleted + 1))

/-- The ids with `body_present=1`. -/
def presentIds (s : StoreWorld) : List String :=
  (s.disk.rows.toList.filter fun entry => entry.2.bodyPresent).map Prod.fst

/-- A listing gives its rows or files, or some of them: what fails to be read is passed over. -/
def scan (s : StoreWorld) (ids : List String) : StoreStage → Option StoreWorld
  | .listBodies => if ∀ id ∈ ids, id ∈ s.disk.bodies then some (s.nextOrphan ids 0) else none
  | .listPresent orphan =>
    if ∀ id ∈ ids, id ∈ s.presentIds then
      some ({ s with skipped := s.presentIds.filter (· ∉ ids) }.nextGhost ids orphan 0)
    else none
  | .listOld cutoff =>
    if ∀ id ∈ ids, (s.disk.ackedRow id).any (·.sealedAtMs < cutoff) then
      some (s.nextOld ids 0)
    else none
  | _ => none

/-- A call starts only when none is in progress, which holds the lock. -/
def call? (s : StoreWorld) (stage : StoreStage) : Option StoreWorld :=
  if s.call = none then some (s.start stage) else none

/-- One step. -/
def step (sha : List UInt8 → String) (s : StoreWorld) : StoreLabel → Option StoreWorld
  | .insert u => { s with sent := (u.id, u.body) :: s.sent }.call? (.find u)
  | .getBody id => s.call? (.lookup id)
  | .head id => s.call? (.count id)
  | .reconcile => s.call? .listBodies
  | .retention cutoff => s.call? (.listOld cutoff)
  | .step answer => s.call.bind fun stage => s.proceed sha stage answer
  | .rows ids => s.call.bind (s.scan ids)
  | .crash => some s.crash

end StoreWorld

/-- The store from an empty directory on. -/
def trajectoryStore (sha : List UInt8 → String) : System StoreWorld StoreLabel where
  init s := s = {}
  step := StoreWorld.step sha

/-- No two bodies sent under one id have the same digest. -/
def Distinct (sha : List UInt8 → String) (s : StoreWorld) : StoreLabel → Prop
  | .insert u => ∀ sent ∈ s.sent, sent.1 = u.id → sha sent.2 = sha u.body → sent.2 = u.body
  | _ => True

instance decidableDistinct (sha : List UInt8 → String) (s : StoreWorld) :
    ∀ label, Decidable (Distinct sha s label)
  | .insert u => inferInstanceAs (Decidable (∀ sent ∈ s.sent, sent.1 = u.id →
      sha sent.2 = sha u.body → sent.2 = u.body))
  | .getBody _ | .head _ | .reconcile | .retention _ | .step _ | .rows _ | .crash => .isTrue trivial

/-- What the store owes to those who sent it bodies. -/
structure StoreWorld.Reliable (s : StoreWorld) : Prop where
  readable : ∀ id body, (id, body) ∈ s.acked →
    (s.disk.getBody id = .ok (some body) ↔ id ∉ s.hurt)
  unchanged : ∀ answer, s.last = some (.insert answer) →
    (∀ outcome, answer = .ok outcome → outcome = .conflict) →
      ∀ id, s.disk.getBody id = s.entry.getBody id
  reconciled : ∀ counts, s.last = some (.reconcile (.ok counts)) → s.skipped = [] →
    ∀ id row, s.disk.rows[id]? = some row → row.uploadStatus = "acked" → row.bodyPresent →
      id ∈ s.disk.bodies

/-! ### Rows and bodies -/

namespace StoreLedger

variable (sha : List UInt8 → String) (s : StoreLedger) (id : String)

/-- A row stands for the one body that it acknowledged, and has its file unless it was hurt. -/
structure Holds (row : TrajectoryRow) (body : List UInt8) : Prop where
  acked : ∀ body', (id, body') ∈ s.acked ↔ body' = body
  sent : (id, body) ∈ s.sent
  digest : row.bodySha256 = sha body
  status : row.uploadStatus = "acked"
  whole : id ∉ s.hurt → row.bodyPresent = true ∧ s.disk.bodies[id]? = some body
  broken : id ∈ s.hurt → row.bodyPresent = false ∨ s.disk.bodies[id]? = none

/-- What is acknowledged has a row, and a row is acknowledged. -/
structure Kept : Prop where
  gone : s.disk.rows[id]? = none → ∀ body, (id, body) ∉ s.acked
  held : ∀ row, s.disk.rows[id]? = some row → ∃ body, s.Holds sha id row body

variable {sha s id}

theorem Kept.start : ({} : StoreLedger).Kept sha id where
  gone _ _ := List.not_mem_nil
  held := nofun

theorem Kept.send (kept : s.Kept sha id) (entry : String × List UInt8) :
    { s with sent := entry :: s.sent }.Kept sha id where
  gone := kept.gone
  held row present := by
    obtain ⟨body, holds⟩ := kept.held row present
    exact ⟨body, { holds with sent := List.mem_cons_of_mem _ holds.sent }⟩

theorem Kept.note (kept : s.Kept sha id) (entry : TrajectoryStore) (skipped : List String) :
    { s with entry, skipped }.Kept sha id where
  gone := kept.gone
  held row present := by
    obtain ⟨body, holds⟩ := kept.held row present
    exact ⟨body, { holds with }⟩

theorem Kept.scratch (kept : s.Kept sha id) (tmp : Map String (List UInt8)) :
    { s with disk := { s.disk with tmp } }.Kept sha id where
  gone := kept.gone
  held row present := by
    obtain ⟨body, holds⟩ := kept.held row present
    exact ⟨body, { holds with }⟩

variable {id' : String}

theorem Kept.rewrite (kept : s.Kept sha id)
    (unread : ∀ row, s.disk.rows[id']? = some row → row.bodyPresent = false)
    {bodies : Map String (List UInt8)} (same : id' ≠ id → bodies[id]? = s.disk.bodies[id]?)
    (tmp quarantine : Map String (List UInt8)) :
    { s with disk := { s.disk with bodies, tmp, quarantine } }.Kept sha id where
  gone := kept.gone
  held row present := by
    obtain ⟨body, holds⟩ := kept.held row present
    refine ⟨body, { holds with whole := fun sound => ?_, broken := fun hurt => ?_ }⟩
    · obtain ⟨shown, file⟩ := holds.whole sound
      by_cases here : id' = id
      · subst here
        cases (unread row present).symm.trans shown
      · exact ⟨shown, (same here).trans file⟩
    · by_cases here : id' = id
      · subst here
        exact .inl (unread row present)
      · exact (holds.broken hurt).imp_right (same here).trans

theorem Kept.unmark (kept : s.Kept sha id) (id' : String) :
    { s with disk := s.disk.setPresent id' false, hurt := id' :: s.hurt }.Kept sha id where
  gone absent := by
    apply kept.gone
    simp only [TrajectoryStore.setPresent, lookup_modify] at absent
    split at absent
    · next here => subst here; simpa using absent
    · exact absent
  held row present := by
    simp only [TrajectoryStore.setPresent, lookup_modify] at present
    split at present
    · next here =>
      subst here
      obtain ⟨row, known, rfl⟩ := Option.map_eq_some_iff.mp present
      obtain ⟨body, holds⟩ := kept.held row known
      exact ⟨body, {
        acked := holds.acked
        sent := holds.sent
        digest := holds.digest
        status := holds.status
        whole := fun sound => absurd List.mem_cons_self sound
        broken := fun _ => .inl rfl }⟩
    · next other =>
      obtain ⟨body, holds⟩ := kept.held row present
      refine ⟨body, { holds with whole := fun sound => ?_, broken := fun hurt => ?_ }⟩
      · exact holds.whole fun hurt => sound (List.mem_cons_of_mem _ hurt)
      · exact holds.broken ((List.mem_cons.mp hurt).resolve_left fun here => other here.symm)

theorem Kept.remove (kept : s.Kept sha id) (id' : String) : { s with
      disk := { s.disk with bodies := s.disk.bodies.erase id' }
      hurt := id' :: s.hurt }.Kept sha id where
  gone := kept.gone
  held row present := by
    obtain ⟨body, holds⟩ := kept.held row present
    refine ⟨body, { holds with whole := fun sound => ?_, broken := fun hurt => ?_ }⟩
    · obtain ⟨shown, file⟩ := holds.whole fun hurt => sound (List.mem_cons_of_mem _ hurt)
      have other : id' ≠ id := fun here => sound (by simp [here])
      exact ⟨shown, by rw [lookup_erase, if_neg other]; exact file⟩
    · rw [lookup_erase]
      split
      · exact .inr rfl
      · next other =>
        exact holds.broken ((List.mem_cons.mp hurt).resolve_left fun here => other here.symm)

theorem Kept.delete (kept : s.Kept sha id) (id' : String) : { s with
      disk := { s.disk with rows := s.disk.rows.erase id' }
      acked := s.acked.filter (·.1 ≠ id') }.Kept sha id where
  gone absent body member := by
    obtain ⟨member, other⟩ := List.mem_filter.mp member
    have other : id' ≠ id := fun here => by simp [here] at other
    rw [lookup_erase, if_neg other] at absent
    exact kept.gone absent body member
  held row present := by
    rw [lookup_erase] at present
    split at present
    · cases present
    · next other =>
      obtain ⟨body, holds⟩ := kept.held row present
      refine ⟨body, { holds with acked := fun body' => ?_ }⟩
      rw [← holds.acked body', List.mem_filter]
      simp [Ne.symm other]

theorem mem_filter_ne {ids : List String} {id : String} (other : id' ≠ id) :
    id ∈ ids.filter (· ≠ id') ↔ id ∈ ids := by
  simp [Ne.symm other]

theorem mem_append_sent {acked : List (String × List UInt8)} {u : InsertArgs}
    {body : List UInt8} (other : u.id ≠ id) :
    (id, body) ∈ acked ++ [(u.id, u.body)] ↔ (id, body) ∈ acked := by
  simp [Ne.symm other]

/-- The body of an upload is the only one of its digest that was sent under its id. -/
structure Alone (sha : List UInt8 → String) (all : List (String × List UInt8))
    (u : InsertArgs) : Prop where
  sent : (u.id, u.body) ∈ all
  only : ∀ body, (u.id, body) ∈ all → sha body = sha u.body → body = u.body

theorem Kept.acknowledge {u : InsertArgs} {row : TrajectoryRow} (kept : s.Kept sha id)
    (alone : Alone sha s.sent u) (present : s.disk.rows[u.id]? = some row)
    (digest : row.bodySha256 = sha u.body) :
    { s with acked := s.acked ++ [(u.id, u.body)] }.Kept sha id where
  gone absent body member := by
    have other : u.id ≠ id := fun here => by cases (here ▸ present).symm.trans absent
    exact kept.gone absent body ((mem_append_sent other).mp member)
  held row' present' := by
    obtain ⟨body, holds⟩ := kept.held row' present'
    refine ⟨body, { holds with acked := fun body' => ?_ }⟩
    by_cases here : u.id = id
    · subst here
      obtain rfl := Option.some.inj (present.symm.trans present')
      have same := alone.only body holds.sent (holds.digest.symm.trans digest)
      simp [holds.acked body', same]
    · exact (mem_append_sent here).trans (holds.acked body')

theorem Kept.restore {u : InsertArgs} {row : TrajectoryRow} (kept : s.Kept sha id)
    (alone : Alone sha s.sent u) (present : s.disk.rows[u.id]? = some row)
    (digest : row.bodySha256 = sha u.body) (file : s.disk.bodies[u.id]? = some u.body) :
    { s with
      disk := s.disk.setPresent u.id true
      hurt := s.hurt.filter (· ≠ u.id)
      acked := s.acked ++ [(u.id, u.body)] }.Kept sha id := by
  have kept := kept.acknowledge alone present digest
  by_cases here : u.id = id
  · subst here
    obtain ⟨body, holds⟩ := kept.held row present
    obtain rfl : body = u.body := ((holds.acked u.body).mp (by simp)).symm
    constructor
    · intro absent
      simp [TrajectoryStore.setPresent, present] at absent
    · intro row' present'
      simp only [TrajectoryStore.setPresent, lookup_modify, if_pos, present, Option.map_some,
        Option.some.injEq] at present'
      subst present'
      refine ⟨u.body, { holds with whole := fun _ => ⟨rfl, file⟩, broken := fun hurt => ?_ }⟩
      simp at hurt
  · have same : (s.disk.setPresent u.id true).rows[id]? = s.disk.rows[id]? := by
      simp [TrajectoryStore.setPresent, lookup_modify, here]
    constructor
    · intro absent
      exact kept.gone (same.symm.trans absent)
    · intro row' present'
      obtain ⟨body, holds⟩ := kept.held row' (same.symm.trans present')
      refine ⟨body, { holds with whole := fun sound => ?_, broken := fun hurt => ?_ }⟩
      · exact holds.whole fun hurt => sound ((mem_filter_ne here).mpr hurt)
      · exact holds.broken ((mem_filter_ne here).mp hurt)

theorem Kept.index {u : InsertArgs} (kept : s.Kept sha id) (alone : Alone sha s.sent u)
    (fresh : s.disk.rows[u.id]? = none) (file : s.disk.bodies[u.id]? = some u.body) :
    { s with
      disk := { s.disk with rows := s.disk.rows.insert u.id (u.row (sha u.body)) }
      hurt := s.hurt.filter (· ≠ u.id)
      acked := s.acked ++ [(u.id, u.body)] }.Kept sha id := by
  by_cases here : u.id = id
  · subst here
    constructor
    · intro absent
      simp at absent
    · intro row present
      rw [lookup_insert, if_pos rfl] at present
      cases present
      refine ⟨u.body, {
        acked := fun body' => ?_
        sent := alone.sent
        digest := rfl
        status := rfl
        whole := fun _ => ⟨rfl, file⟩
        broken := fun hurt => by simp at hurt }⟩
      simp [kept.gone fresh body']
  · constructor
    · intro absent body member
      rw [lookup_insert, if_neg here] at absent
      exact kept.gone absent body ((mem_append_sent here).mp member)
    · intro row present
      rw [lookup_insert, if_neg here] at present
      obtain ⟨body, holds⟩ := kept.held row present
      refine ⟨body, { holds with
        acked := fun body' => (mem_append_sent here).trans (holds.acked body')
        whole := fun sound => holds.whole fun hurt => sound ((mem_filter_ne here).mpr hurt)
        broken := fun hurt => holds.broken ((mem_filter_ne here).mp hurt) }⟩

end StoreLedger

/-! ### What a call knows -/

variable {disk' : TrajectoryStore}

theorem TrajectoryStore.getBody_congr {disk : TrajectoryStore} {id : String}
    (row : disk'.rows[id]? = disk.rows[id]?) (body : disk'.bodies[id]? = disk.bodies[id]?) :
    disk'.getBody id = disk.getBody id := by
  unfold getBody ackedRow
  rw [row, body]

theorem TrajectoryStore.getBody_rewrite {disk : TrajectoryStore} {id' : String}
    (rows : disk'.rows = disk.rows)
    (unread : ∀ row, disk.rows[id']? = some row → row.bodyPresent = false)
    (same : ∀ id, id' ≠ id → disk'.bodies[id]? = disk.bodies[id]?) (id : String) :
    disk'.getBody id = disk.getBody id := by
  by_cases here : id' = id
  · subst here
    unfold getBody ackedRow
    rw [rows]
    cases known : disk.rows[id']? with
    | none => rfl
    | some row =>
      cases shown : Option.filter (fun row => row.uploadStatus = "acked") (some row) with
      | none => rfl
      | some =>
        obtain ⟨same, -⟩ := Option.filter_eq_some_iff.mp shown
        cases same
        simp [unread row known]
  · exact getBody_congr (by rw [rows]) (same id here)

namespace StoreLedger

variable (sha : List UInt8 → String) (s : StoreLedger)

/-- The row that an upload found, which its body is written for. -/
def Open (u : InsertArgs) : Bool → Prop
  | false => s.disk.rows[u.id]? = none
  | true => ∃ row, s.disk.rows[u.id]? = some row ∧ row.bodyPresent = false ∧
      row.bodySha256 = sha u.body

/-- Nothing that is read changed since the call started. -/
def Unchanged : Prop := ∀ id, s.disk.getBody id = s.entry.getBody id

/-- The rows that still may miss their body. -/
def Listed (ids : List String) : Prop :=
  ∀ id row, s.disk.rows[id]? = some row → row.uploadStatus = "acked" → row.bodyPresent = true →
    id ∈ ids ∨ id ∈ s.disk.bodies ∨ id ∈ s.skipped

/-- An upload that wrote nothing that is read. -/
structure Uploads (u : InsertArgs) (restore : Bool) : Prop where
  alone : Alone sha s.sent u
  unchanged : s.Unchanged
  opened : s.Open sha u restore

/-- What a call knows of the store when it comes to a stage. -/
def Fits : StoreStage → Prop
  | .find u => Alone sha s.sent u ∧ s.Unchanged
  | .create u restore | .write u restore => s.Uploads sha u restore
  | .sync u restore | .rename u restore =>
    s.Uploads sha u restore ∧ s.disk.tmp[u.id]? = some u.body
  | .update u => s.Uploads sha u true ∧ s.disk.bodies[u.id]? = some u.body
  | .index u => s.Uploads sha u false ∧ s.disk.bodies[u.id]? = some u.body
  | .undo u _ => s.Unchanged ∧ s.disk.rows[u.id]? = none
  | .isolate id _ _ => s.disk.rows[id]? = none
  | .checkBody id rest _ _ | .unmark id rest _ _ => s.Listed (id :: rest)
  | _ => True

variable {sha s}

theorem Uploads.unread {u : InsertArgs} {restore : Bool} (uploads : s.Uploads sha u restore) :
    ∀ row, s.disk.rows[u.id]? = some row → row.bodyPresent = false := by
  intro row present
  cases restore with
  | false => cases uploads.opened.symm.trans present
  | true =>
    obtain ⟨row', present', missing, -⟩ := uploads.opened
    obtain rfl := Option.some.inj (present.symm.trans present')
    exact missing

end StoreLedger

namespace StoreWorld

open StoreLedger

variable (sha : List UInt8 → String) (s : StoreWorld)

/-- The invariant of the store. -/
structure Sound : Prop where
  kept : ∀ id, s.Kept sha id
  fits : ∀ stage, s.call = some stage → s.Fits sha stage ∧ s.last = none
  unchanged : ∀ answer, s.last = some (.insert answer) →
    (∀ outcome, answer = .ok outcome → outcome = .conflict) → s.Unchanged
  reconciled : ∀ counts, s.last = some (.reconcile (.ok counts)) → s.Listed []

variable {sha s}

variable {stage : StoreStage} {s' : StoreWorld}

section

variable (kept : ∀ id, s.Kept sha id)
include kept

theorem Sound.goto (fits : s.Fits sha stage) (quiet : s.last = none) :
    (s.goto stage).Sound sha where
  kept := kept
  fits := by
    rintro _ ⟨⟩
    exact ⟨fits, quiet⟩
  unchanged answer answered := by
    cases quiet.symm.trans answered
  reconciled counts answered := by
    cases quiet.symm.trans answered

theorem Sound.finish {answer : StoreAnswer} (unchanged : ∀ result, answer = .insert result →
      (∀ outcome, result = .ok outcome → outcome = .conflict) → s.Unchanged)
    (reconciled : ∀ counts, answer = .reconcile (.ok counts) → s.Listed []) :
    (s.finish answer).Sound sha where
  kept := kept
  fits := nofun
  unchanged result answered := unchanged result (Option.some.inj answered)
  reconciled counts answered := reconciled counts (Option.some.inj answered)

theorem Sound.refuse {message : String} (unchanged : s.Unchanged) : (s.refuse message).Sound sha :=
  .finish kept (fun _ _ _ => unchanged) nofun

theorem Sound.nextOrphan (quiet : s.last = none) (rest : List String) (orphan : Nat) :
    (s.nextOrphan rest orphan).Sound sha := by
  cases rest with
  | nil => exact .goto kept trivial quiet
  | cons => exact .goto kept trivial quiet

theorem Sound.nextGhost {rest : List String} (quiet : s.last = none) (listed : s.Listed rest)
    (orphan ghost : Nat) : (s.nextGhost rest orphan ghost).Sound sha := by
  cases rest with
  | nil => exact .finish kept nofun fun _ _ => listed
  | cons => exact .goto kept listed quiet

theorem Sound.nextOld (quiet : s.last = none) (rest : List String) (deleted : Nat) :
    (s.nextOld rest deleted).Sound sha := by
  cases rest with
  | nil => exact .finish kept nofun nofun
  | cons => exact .goto kept trivial quiet

end

/-- Every step of an `insert` keeps the invariant. -/
theorem Sound.find {u : InsertArgs} (sound : s.Sound sha) (call : s.call = some (.find u))
    (taken : s.proceed sha (.find u) (.ok ()) = some s') : s'.Sound sha := by
  obtain ⟨⟨alone, unchanged⟩, quiet⟩ := sound.fits _ call
  simp only [proceed] at taken
  split at taken
  · next absent =>
    cases taken
    exact .goto sound.kept ⟨alone, unchanged, absent⟩ quiet
  · next row present =>
    split at taken
    · cases taken
      exact .finish sound.kept (fun _ _ _ => unchanged) nofun
    · next same =>
      have digest : row.bodySha256 = sha u.body := not_not.mp same
      split at taken
      · cases taken
        refine .finish (fun id => (sound.kept id).acknowledge alone present digest) ?_ nofun
        rintro _ ⟨⟩ conflict
        cases conflict _ rfl
      · next missing =>
        cases taken
        refine .goto sound.kept ⟨alone, unchanged, ?_⟩ quiet
        exact ⟨row, present, Bool.eq_false_iff.mpr missing, digest⟩

theorem Sound.rename {u : InsertArgs} {restore : Bool} (sound : s.Sound sha)
    (call : s.call = some (.rename u restore))
    (taken : s.proceed sha (.rename u restore) (.ok ()) = some s') : s'.Sound sha := by
  obtain ⟨⟨uploads, written⟩, quiet⟩ := sound.fits _ call
  simp only [proceed, written] at taken
  cases taken
  have same (id : String) (other : u.id ≠ id) :
      (s.disk.bodies.insert u.id u.body)[id]? = s.disk.bodies[id]? := by
    rw [lookup_insert, if_neg other]
  have kept (id : String) := (sound.kept id).rewrite uploads.unread (same id)
    (s.disk.tmp.erase u.id) s.disk.quarantine
  have rows : (s.disk.moveTmp u.id u.body).rows = s.disk.rows := rfl
  have unchanged : ∀ id, (s.disk.moveTmp u.id u.body).getBody id = s.entry.getBody id := fun id =>
    (TrajectoryStore.getBody_rewrite rows uploads.unread same id).trans (uploads.unchanged id)
  have file : (s.disk.moveTmp u.id u.body).bodies[u.id]? = some u.body := by
    simp [TrajectoryStore.moveTmp]
  have alone := uploads.alone
  have opened := uploads.opened
  cases restore with
  | false => exact .goto kept ⟨⟨alone, unchanged, opened⟩, file⟩ quiet
  | true => exact .goto kept ⟨⟨alone, unchanged, opened⟩, file⟩ quiet

theorem listed_of_unmark {id : String} {rest hurt : List String} (listed : s.Listed (id :: rest)) :
    { s with disk := s.disk.setPresent id false, hurt }.Listed rest := by
  intro id' row present status shown
  simp only [TrajectoryStore.setPresent, lookup_modify] at present
  split at present
  · next here =>
    obtain ⟨row, -, rfl⟩ := Option.map_eq_some_iff.mp present
    cases shown
  · next other =>
    rcases listed id' row present status shown with member | file
    · exact .inl ((List.mem_cons.mp member).resolve_left fun here => other here.symm)
    · exact .inr file

theorem listed_of_present {id : String} {rest : List String} (listed : s.Listed (id :: rest))
    (file : id ∈ s.disk.bodies) : s.Listed rest := by
  intro id' row present status shown
  rcases listed id' row present status shown with member | file'
  · rcases List.mem_cons.mp member with rfl | member
    · exact .inr (.inl file)
    · exact .inl member
  · exact .inr file'

theorem Sound.proceed {answer : Except String Unit} (sound : s.Sound sha)
    (call : s.call = some stage) (taken : s.proceed sha stage answer = some s') : s'.Sound sha := by
  obtain ⟨fits, quiet⟩ := sound.fits _ call
  have kept := sound.kept
  cases stage with
  | find u =>
    cases answer with
    | error => cases taken; exact .refuse kept fits.2
    | ok => exact sound.find call taken
  | create =>
    cases answer with
    | error => cases taken; exact .refuse kept fits.unchanged
    | ok =>
      cases taken
      exact .goto (fun id => (kept id).scratch _) ⟨fits.alone, fits.unchanged, fits.opened⟩ quiet
  | write =>
    cases answer with
    | error => cases taken; exact .refuse kept fits.unchanged
    | ok =>
      cases taken
      refine .goto (fun id => (kept id).scratch _) ?_ quiet
      exact ⟨⟨fits.alone, fits.unchanged, fits.opened⟩, Std.ExtTreeMap.getElem?_insert_self⟩
  | sync =>
    cases answer with
    | error => cases taken; exact .refuse kept fits.1.unchanged
    | ok => cases taken; exact .goto kept fits quiet
  | rename =>
    cases answer with
    | error => cases taken; exact .refuse kept fits.1.unchanged
    | ok => exact sound.rename call taken
  | update u =>
    cases answer with
    | error => cases taken; exact .refuse kept fits.1.unchanged
    | ok =>
      cases taken
      obtain ⟨⟨alone, -, row, present, -, digest⟩, file⟩ := fits
      refine .finish (fun id => (kept id).restore alone present digest file) ?_ nofun
      rintro _ ⟨⟩ conflict
      cases conflict _ rfl
  | index u =>
    cases answer with
    | error => cases taken; exact .goto kept ⟨fits.1.unchanged, fits.1.opened⟩ quiet
    | ok =>
      cases taken
      refine .finish (fun id => (kept id).index fits.1.alone fits.1.opened fits.2) ?_ nofun
      rintro _ ⟨⟩ conflict
      cases conflict _ rfl
  | undo u =>
    obtain ⟨unchanged, absent⟩ := fits
    cases answer with
    | error _ => cases taken; exact .refuse kept unchanged
    | ok =>
      cases taken
      have unread : ∀ row, s.disk.rows[u.id]? = some row → row.bodyPresent = false :=
        fun row present => by cases absent.symm.trans present
      have same (id : String) (other : u.id ≠ id) :
          (s.disk.bodies.erase u.id)[id]? = s.disk.bodies[id]? := by
        rw [lookup_erase, if_neg other]
      refine .refuse (fun id => (kept id).rewrite unread (same id) s.disk.tmp s.disk.quarantine) ?_
      have rows : { s.disk with bodies := s.disk.bodies.erase u.id }.rows = s.disk.rows := rfl
      exact fun id => (TrajectoryStore.getBody_rewrite rows unread same id).trans (unchanged id)
  | lookup id =>
    cases answer with
    | error => cases taken; exact .finish kept nofun nofun
    | ok =>
      simp only [StoreWorld.proceed] at taken
      split at taken
      · cases taken; exact .finish kept nofun nofun
      · split at taken
        · cases taken; exact .goto kept trivial quiet
        · cases taken; exact .finish kept nofun nofun
  | read id =>
    cases answer with
    | error => cases taken; exact .goto kept trivial quiet
    | ok =>
      simp only [StoreWorld.proceed] at taken
      split at taken
      · cases taken
      · cases taken; exact .finish kept nofun nofun
  | miss id =>
    cases answer with
    | error => cases taken; exact .finish kept nofun nofun
    | ok => cases taken; exact .finish (fun id' => (kept id').unmark id) nofun nofun
  | count id =>
    cases answer with
    | error => cases taken; exact .finish kept nofun nofun
    | ok => cases taken; exact .finish kept nofun nofun
  | listBodies =>
    cases answer with
    | error => cases taken; exact .goto kept trivial quiet
    | ok => cases taken
  | countRows id rest orphan =>
    cases answer with
    | error => cases taken; exact .finish kept nofun nofun
    | ok =>
      simp only [StoreWorld.proceed] at taken
      split at taken
      · cases taken; exact .nextOrphan kept quiet rest orphan
      · next absent =>
        cases taken
        exact .goto kept (Std.ExtTreeMap.getElem?_eq_none absent) quiet
  | isolate id rest orphan =>
    cases answer with
    | error message => cases taken; exact .nextOrphan kept quiet rest _
    | ok =>
      cases taken
      refine .nextOrphan (fun id' => ?_) (by exact quiet) rest _
      have unread : ∀ row, s.disk.rows[id]? = some row → row.bodyPresent = false :=
        fun row present => by cases fits.symm.trans present
      change Kept sha { s.toStoreLedger with disk := s.disk.moveBody id } id'
      unfold TrajectoryStore.moveBody
      split
      · exact kept id'
      · refine (kept id').rewrite unread (fun other => ?_) s.disk.tmp _
        rw [lookup_erase, if_neg other]
  | listPresent =>
    cases answer with
    | error => cases taken; exact .finish kept nofun nofun
    | ok => cases taken
  | checkBody id rest orphan ghost =>
    cases answer with
    | error => cases taken; exact .goto kept fits quiet
    | ok =>
      simp only [StoreWorld.proceed] at taken
      split at taken
      · next file =>
        cases taken
        exact .nextGhost kept quiet (listed_of_present fits file) orphan ghost
      · cases taken; exact .goto kept fits quiet
  | unmark id rest orphan ghost =>
    cases answer with
    | error => cases taken; exact .finish kept nofun nofun
    | ok =>
      cases taken
      exact .nextGhost (fun id' => (kept id').unmark id) (by exact quiet) (listed_of_unmark fits)
        orphan _
  | listOld =>
    cases answer with
    | error => cases taken; exact .finish kept nofun nofun
    | ok => cases taken
  | checkOld =>
    cases answer with
    | error => cases taken; exact .goto kept trivial quiet
    | ok =>
      simp only [StoreWorld.proceed] at taken
      split at taken
      · cases taken; exact .goto kept trivial quiet
      · cases taken; exact .goto kept trivial quiet
  | remove id rest deleted =>
    cases answer with
    | error message => cases taken; exact .nextOld kept quiet rest deleted
    | ok => cases taken; exact .goto (fun id' => (kept id').remove id) trivial quiet
  | delete id rest deleted =>
    cases answer with
    | error => cases taken; exact .finish kept nofun nofun
    | ok =>
      cases taken
      exact .nextOld (fun id' => (kept id').delete id) (by exact quiet) rest _

theorem mem_presentIds {id : String} :
    id ∈ s.presentIds ↔ ∃ row, s.disk.rows[id]? = some row ∧ row.bodyPresent = true := by
  simp [presentIds, and_comm, Std.ExtTreeMap.mem_toList_iff_getElem?_eq_some]

theorem Sound.scan {ids : List String} (sound : s.Sound sha) (call : s.call = some stage)
    (taken : s.scan ids stage = some s') : s'.Sound sha := by
  obtain ⟨-, quiet⟩ := sound.fits _ call
  cases stage with
  | listBodies =>
    simp only [StoreWorld.scan] at taken
    split at taken
    · cases taken; exact .nextOrphan sound.kept quiet ids 0
    · cases taken
  | listPresent orphan =>
    simp only [StoreWorld.scan] at taken
    split at taken
    · cases taken
      refine .nextGhost (s := { s with skipped := s.presentIds.filter (· ∉ ids) })
        (fun id => (sound.kept id).note _ _) quiet ?_ orphan 0
      intro id row present _ shown
      by_cases listed : id ∈ ids
      · exact .inl listed
      · refine .inr (.inr (List.mem_filter.mpr ⟨mem_presentIds.mpr ⟨row, present, shown⟩, ?_⟩))
        simpa using listed
    · cases taken
  | listOld cutoff =>
    simp only [StoreWorld.scan] at taken
    split at taken
    · cases taken; exact .nextOld sound.kept quiet ids 0
    · cases taken
  | _ => cases taken

theorem Sound.call (taken : s.call? stage = some s') (kept : ∀ id, s.Kept sha id)
    (fits : { s with entry := s.disk }.Fits sha stage) : s'.Sound sha := by
  unfold call? at taken
  split at taken
  · cases taken
    refine ⟨fun id => (kept id).note _ _, ?_, nofun, nofun⟩
    rintro _ ⟨⟩
    exact ⟨fits, rfl⟩
  · cases taken

theorem Sound.step {label : StoreLabel} (sound : s.Sound sha) (distinct : Distinct sha s label)
    (taken : s.step sha label = some s') : s'.Sound sha := by
  cases label with
  | insert u =>
    refine .call taken (fun id => (sound.kept id).send _) ⟨⟨List.mem_cons_self, ?_⟩, fun _ => rfl⟩
    intro body sent same
    rcases List.mem_cons.mp sent with now | before
    · exact (Prod.mk.inj now).2
    · exact distinct _ before rfl same
  | getBody id => exact .call taken sound.kept trivial
  | head id => exact .call taken sound.kept trivial
  | reconcile => exact .call taken sound.kept trivial
  | retention => exact .call taken sound.kept trivial
  | step =>
    obtain ⟨stage, call, taken⟩ := Option.bind_eq_some_iff.mp taken
    exact sound.proceed call taken
  | rows =>
    obtain ⟨stage, call, taken⟩ := Option.bind_eq_some_iff.mp taken
    exact sound.scan call taken
  | crash =>
    cases taken
    exact ⟨sound.kept, nofun, nofun, nofun⟩

end StoreWorld

/-! ### The store as a whole -/

section Store

variable {sha : List UInt8 → String} {s : StoreWorld}

theorem sound_of_reachable (reached : ReachableWhen (trajectoryStore sha) (Distinct sha) s) :
    s.Sound sha := by
  apply ReachableWhen.invariant (motive := StoreWorld.Sound sha) ?_ ?_ reached
  · rintro s rfl
    exact ⟨fun _ => StoreLedger.Kept.start, nofun, nofun, nofun⟩
  · intro s label s' _ sound distinct taken
    exact sound.step distinct taken

theorem getBody_iff {id : String} {body : List UInt8} (kept : s.Kept sha id)
    (acked : (id, body) ∈ s.acked) : s.disk.getBody id = .ok (some body) ↔ id ∉ s.hurt := by
  cases known : s.disk.rows[id]? with
  | none => exact absurd acked (kept.gone known body)
  | some row =>
    obtain ⟨body', holds⟩ := kept.held row known
    obtain rfl := (holds.acked body).mp acked
    have found : s.disk.ackedRow id = some row := by
      simp [TrajectoryStore.ackedRow, known, holds.status]
    rw [TrajectoryStore.getBody, found]
    dsimp only
    constructor
    · intro read hurt
      rcases holds.broken hurt with missing | missing
      · rw [missing] at read
        cases read
      · rw [missing] at read
        split at read <;> cases read
    · intro sound
      obtain ⟨shown, file⟩ := holds.whole sound
      rw [shown, file]
      rfl

/-- In every run in which digests tell bodies apart, an acknowledged body that no `retention`
deleted is read between two calls just when nothing hurt its row; an `insert` that fails or
conflicts changes nothing that is read, and a `reconcile` that sees every row leaves none without
its file. -/
theorem trajectory_reliable (reached : ReachableWhen (trajectoryStore sha) (Distinct sha) s) :
    s.Reliable := by
  have sound := sound_of_reachable reached
  refine ⟨fun id body acked => getBody_iff (sound.kept id) acked, sound.unchanged, ?_⟩
  intro counts answered complete id row present status shown
  rcases sound.reconciled counts answered id row present status shown with listed | file | missed
  · cases listed
  · exact file
  · rw [complete] at missed
    cases missed

/-- A call of `get_body` whose steps succeed returns what is read. -/
theorem getBody_answers {id : String} {body : List UInt8} (idle : s.call = none)
    (read : s.disk.getBody id = .ok (some body)) :
    ∃ s', (trajectoryStore sha).exec s [.getBody id, .step (.ok ()), .step (.ok ())] = some s' ∧
      s'.last = some (.body (.ok (some body))) ∧ s'.disk = s.disk := by
  unfold TrajectoryStore.getBody at read
  split at read
  · cases read
  · next row found =>
    split at read
    · next shown =>
      split at read
      · next content file =>
        obtain rfl := Option.some.inj (Except.ok.inj read)
        refine ⟨(s.start (.lookup id)).finish (.body (.ok (some content))), ?_, rfl, rfl⟩
        simp [System.exec, trajectoryStore, StoreWorld.step, StoreWorld.call?, idle,
          StoreWorld.start, StoreWorld.proceed, found, shown, StoreWorld.goto, file,
          StoreWorld.finish]
      · cases read
    · cases read

/-- A digest that tells all bodies apart. -/
def plain (body : List UInt8) : String := String.ofList (body.map fun b => Char.ofNat b.toNat)

/-- The trajectory `t` with the body `{}`. -/
def emptyBody : InsertArgs := { id := "t", body := [0x7B, 0x7D], sealedAtMs := 5 }

/-- A statement or file operation succeeds. -/
def succeeds : StoreLabel := .step (.ok ())

/-- It fails. -/
def fails : StoreLabel := .step (.error "disk I/O error")

/-- An `insert` that comes to the last of its steps. -/
def stores (u : InsertArgs) : List StoreLabel := .insert u :: List.replicate 6 succeeds

/-- The process dies in a `retention` between the file and the row; a `reconcile` marks the row,
and the next upload restores it. -/
def repairs : List StoreLabel :=
  stores emptyBody ++ [.retention 9, .rows ["t"], succeeds, succeeds, .crash] ++
    [.reconcile, .rows [], .rows ["t"], succeeds, succeeds] ++ stores emptyBody

theorem trajectory_reliable_of_repairs :
    ∃ s, (trajectoryStore plain).exec {} repairs = some s ∧ s.Reliable := by
  have along : (trajectoryStore plain).Along (Distinct plain) {} repairs := by decide +kernel
  have ran : ((trajectoryStore plain).exec {} repairs).isSome = true := by decide +kernel
  obtain ⟨s, ran⟩ := Option.isSome_iff_exists.mp ran
  exact ⟨s, ran, trajectory_reliable (ReachableWhen.of_exec (.start rfl) _ along ran)⟩

/-- The file of an acknowledged body cannot be read once, and from then on the body is not
found. -/
theorem unread_after_failure : ¬∀ s, Reachable (trajectoryStore plain) s → s.call = none →
      ∀ id body, (id, body) ∈ s.acked → s.disk.getBody id = .ok (some body) := by
  intro all
  have ran : ∃ s ∈ (trajectoryStore plain).exec {}
      (stores emptyBody ++ [.getBody "t", succeeds, fails, succeeds]),
      s.call = none ∧ ("t", [0x7B, 0x7D]) ∈ s.acked ∧
        (s.disk.getBody "t").toOption = some none := by
    decide +kernel
  obtain ⟨s, ran, idle, acked, unread⟩ := ran
  rw [all s (Reachable.of_exec rfl _ ran) idle "t" _ acked] at unread
  cases unread

end Store

end UEnv.Trajectory
