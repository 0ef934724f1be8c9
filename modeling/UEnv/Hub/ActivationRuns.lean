import UEnv.Hub.CriticalSection

/-!
# The link and the state file change together

Several calls at a time: before the lock a call creates directories only, and with it the call is
alone. So the link and the state file are always those of the start or those of one call, when no
call is between the two renames.
-/

namespace UEnv.Hub.Activation

open LinkedFiles RelyGuarantee Runs

/-! ### Before the lock -/

section Prepare

variable (slots : Slots)

/-- Something is at each of the paths. -/
def Present (paths : List Path) (files : Files Path Contents) : Prop :=
  ∀ path ∈ paths, files path ≠ none

def prepareMachine : Machine (@Op.Answer Path Contents) Disk (Fault Contents) where
  exec o fault disk := disk.exec o fault
  admits _ _ _ := True

/-- Before the lock nothing changes but that the missing directories are created, and no one
removes one. -/
def prepareContract : Contract Disk where
  rely v w := ∀ path ∈ slots.dirs, v.files path ≠ none → w.files path ≠ none
  guarantee v w := w.unread = v.unread ∧ ∀ path, w.files path = v.files path ∨
    (path ∈ slots.dirs ∧ v.files path = none ∧ w.files path ≠ none)
  rely_refl _ _ _ there := there
  rely_trans first second path member there := second path member (first path member there)

variable {slots} {disk : Disk} {paths : List Path}

theorem prepareContract_refl (v : Disk) : (prepareContract slots).guarantee v v :=
  ⟨rfl, fun _ => .inl rfl⟩

variable {v : Disk}

theorem Present.rely (present : Present paths disk.files) (subset : paths ⊆ slots.dirs)
    (acted : (prepareContract slots).rely disk v) : Present paths v.files :=
  fun path member => acted path (subset member) (present path member)

theorem guarantee_put {v : Disk} {path : Path} (member : path ∈ slots.dirs)
    (absent : v.files path = none) :
    (prepareContract slots).guarantee v { v with files := put v.files path .dir } := by
  refine ⟨rfl, fun other => ?_⟩
  by_cases same : other = path
  · subst same
    exact .inr ⟨member, absent, fun none => by cases (put_self ..).symm.trans none⟩
  · exact .inl (put_other same ..)

theorem guarantee_putDirs (subset : paths ⊆ slots.dirs) :
    (prepareContract slots).guarantee v { v with files := putDirs v.files paths } := by
  refine ⟨rfl, fun path => ?_⟩
  by_cases created : path ∈ paths ∧ v.files path = none
  · refine .inr ⟨subset created.1, created.2, fun none => ?_⟩
    cases (if_pos created).symm.trans none
  · exact .inl (if_neg created)

theorem exec_inspect (disk : Disk) (fault : Fault Contents) (path : Path) :
    (∃ node, disk.files path = some node ∧ disk.exec (.inspect path) fault = (.ok node, disk)) ∨
    ∃ e, disk.exec (.inspect path) fault = (.error e, disk) := by
  unfold Disk.exec
  obtain ⟨node, found, done⟩ | ⟨e, failed⟩ := Op.exec_inspect disk.files fault path
  · exact .inl ⟨node, found, by rw [done]⟩
  · exact .inr ⟨e, by rw [failed]⟩

theorem exec_createDir (disk : Disk) (fault : Fault Contents) (path : Path) :
    (disk.files path = none ∧ disk.exec (.createDir path) fault =
      (.ok (), { disk with files := put disk.files path .dir })) ∨
    ∃ e, disk.exec (.createDir path) fault = (.error e, disk) := by
  unfold Disk.exec
  obtain ⟨absent, done⟩ | ⟨e, failed⟩ := Op.exec_createDir disk.files fault path
  · exact .inl ⟨absent, by rw [done]⟩
  · exact .inr ⟨e, by rw [failed]⟩

theorem exec_createDirs (disk : Disk) (fault : Fault Contents) (paths : List Path) :
    disk.exec (.createDirs paths) fault =
      (.ok (), { disk with files := putDirs disk.files paths }) ∨
    ∃ e, disk.exec (.createDirs paths) fault = (.error e, disk) := by
  unfold Disk.exec
  obtain done | ⟨e, failed⟩ := Op.exec_createDirs disk.files fault paths
  · exact .inl (by rw [done])
  · exact .inr ⟨e, by rw [failed]⟩

theorem ensures_createDirs (subset : paths ⊆ slots.dirs) :
    Ensures prepareMachine (prepareContract slots) (fun
        | .ok _, v => Present paths v.files
        | .error _, _ => True)
      (attempt (.createDirs paths)) disk := by
  intro v acted fault _
  obtain done | ⟨e, failed⟩ := exec_createDirs v fault paths
  · have present : Present paths (putDirs v.files paths) := by
      intro path member none
      rw [putDirs] at none
      split at none
      · cases none
      · next kept => exact kept ⟨member, none⟩
    rw [show prepareMachine.exec (.createDirs paths) fault v = _ from done]
    exact ⟨guarantee_putDirs subset, fun w acted => Present.rely present subset acted⟩
  · rw [show prepareMachine.exec (.createDirs paths) fault v = _ from failed]
    exact ⟨prepareContract_refl v, fun _ _ => trivial⟩

theorem ensures_refuseNonSymlink (subset : paths ⊆ slots.dirs)
    (present : Present paths disk.files) :
    Ensures prepareMachine (prepareContract slots) (fun
        | .ok _, v => Present paths v.files
        | .error _, _ => True)
      (refuseNonSymlink slots) disk := by
  intro v acted fault _
  have present := present.rely subset acted
  obtain ⟨node, found, done⟩ | ⟨e, failed⟩ := exec_inspect v fault slots.active
  · rw [show prepareMachine.exec (.inspect slots.active) fault v = _ from done]
    refine ⟨prepareContract_refl v, ?_⟩
    cases node with
    | link => exact fun w acted => present.rely subset acted
    | file => exact fun _ _ => trivial
    | dir => exact fun _ _ => trivial
  · rw [show prepareMachine.exec (.inspect slots.active) fault v = _ from failed]
    exact ⟨prepareContract_refl v, fun w acted => present.rely subset acted⟩

theorem ensures_ensurePlainDirectory {path : Path} (subset : path :: paths ⊆ slots.dirs)
    (present : Present paths disk.files) :
    Ensures prepareMachine (prepareContract slots) (fun
        | .ok _, v => Present (path :: paths) v.files
        | .error _, _ => True)
      (ensurePlainDirectory path) disk := by
  have others : paths ⊆ slots.dirs := List.Subset.trans (List.subset_cons_self ..) subset
  have more : ∀ {v : Disk}, Present paths v.files → v.files path ≠ none →
      Present (path :: paths) v.files :=
    fun present there => List.forall_mem_cons.mpr ⟨there, present⟩
  intro v acted fault _
  have present := present.rely others acted
  obtain ⟨node, found, done⟩ | ⟨e, failed⟩ := exec_inspect v fault path
  · rw [show prepareMachine.exec (.inspect path) fault v = _ from done]
    refine ⟨prepareContract_refl v, ?_⟩
    cases node with
    | dir =>
      have there : v.files path ≠ none := fun none => by cases found.symm.trans none
      exact fun w acted => (more present there).rely subset acted
    | file => exact fun _ _ => trivial
    | link => exact fun _ _ => trivial
  · rw [show prepareMachine.exec (.inspect path) fault v = _ from failed]
    refine ⟨prepareContract_refl v, ?_⟩
    show Ensures _ _ _ (if e.notFound then attempt (.createDir path) else .throw e.text) v
    split
    · intro w acted fault _
      have present := present.rely others acted
      obtain ⟨absent, done⟩ | ⟨e, failed⟩ := exec_createDir w fault path
      · rw [show prepareMachine.exec (.createDir path) fault w = _ from done]
        have created := @guarantee_put slots w path (subset List.mem_cons_self) absent
        refine ⟨created, fun u acted => Present.rely (more ?_ ?_) subset acted⟩
        · intro other member none
          obtain same | ⟨_, _, there⟩ := created.2 other
          · exact present other member (same.symm.trans none)
          · exact there none
        · intro none
          cases (put_self ..).symm.trans none
      · rw [show prepareMachine.exec (.createDir path) fault w = _ from failed]
        exact ⟨prepareContract_refl w, fun _ _ => trivial⟩
    · exact fun _ _ => trivial

theorem Slots.dirs_subset (slots : Slots) :
    slots.lockParent :: slots.stateDir :: slots.root.inits ⊆ slots.dirs ∧
      slots.dirs ⊆ slots.lockParent :: slots.stateDir :: slots.root.inits := by
  have same : ∀ path, path ∈ slots.dirs ↔
      path = slots.lockParent ∨ path = slots.stateDir ∨ path <+: slots.root := by
    intro path
    rw [dirs, List.mem_inits, lockParent, List.prefix_concat_iff, stateDir, List.prefix_concat_iff]
  refine ⟨fun path member => ?_, fun path member => ?_⟩
  · simpa [same] using member
  · simpa [same] using member

theorem ensures_prepare (call : ActivateCall) : Ensures prepareMachine (prepareContract slots) (fun
        | .ok checked, v => call.package.check = .ok checked ∧ Present slots.dirs v.files
        | .error _, _ => True)
      (prepare slots call) disk := by
  obtain ⟨below, above⟩ := slots.dirs_subset
  have state : slots.stateDir :: slots.root.inits ⊆ slots.dirs :=
    List.Subset.trans (List.subset_cons_self ..) below
  have roots : slots.root.inits ⊆ slots.dirs :=
    List.Subset.trans (List.subset_cons_self ..) state
  unfold prepare
  cases checks : call.package.check with
  | error e => exact fun _ _ => trivial
  | ok =>
    show Ensures _ _ _ (attempt (.createDirs slots.root.inits) >>= fun _ => _) disk
    refine (ensures_createDirs roots).bind (fun _ v₁ present => ?_) (fun _ _ _ _ _ => trivial)
    refine (ensures_refuseNonSymlink roots present).bind (fun _ v₂ present => ?_)
      (fun _ _ _ _ _ => trivial)
    refine (ensures_ensurePlainDirectory state present).bind (fun _ v₃ present => ?_)
      (fun _ _ _ _ _ => trivial)
    refine (ensures_ensurePlainDirectory below present).bind (fun _ v₄ present => ?_)
      (fun _ _ _ _ _ => trivial)
    intro v acted
    refine ⟨rfl, fun path member => ?_⟩
    exact present.rely below acted path (above member)

end Prepare

/-! ### Runs -/

section Runs

variable (slots : Slots) (initial : Files Path Contents)

/-- A condition on the next operation of the critical section. -/
def Phase.Meets (condition : Nat → Op Path Contents → Prop) : Phase → Prop
  | .switching call _ _ (.op o _) => condition call.pid o
  | _ => True

/-- The rollback works; nothing is said of the other operations. -/
def RollbackWorks (host : Host) : Label → Prop
  | .start _ _ => True
  | .exec i fault => (host.callers i).Meets fun pid o => RollsBack slots pid host.disk o fault

/-- The rollback works, and the link can be restored when it has to be. -/
def Admissible (host : Host) : Label → Prop
  | .start _ _ => True
  | .exec i fault => (host.callers i).Meets fun pid o =>
    RollsBack slots pid host.disk o fault ∧ Restorable slots pid host.disk o fault

/-- The link and the state file are those of the start or those of one call. -/
def Settled (files : Files Path Contents) : Prop :=
  (files slots.active = initial slots.active ∧
    files slots.statePath = initial slots.statePath) ∨
  ∃ call checked target, call.package.check = .ok checked ∧
    files slots.active = some (.link target) ∧
    files slots.statePath = some (.file (.state (stateOf call checked target)))

/-- What holds of a call. -/
def Holds (disk : Disk) : Phase → Prop
  | .idle | .returned _ => True
  | .preparing call rest =>
    Ensures prepareMachine (prepareContract slots) (fun
      | .ok checked, v => call.package.check = .ok checked ∧ Present slots.dirs v.files
      | .error _, _ => True) rest disk
  | .locking call checked => call.package.check = .ok checked ∧ Present slots.dirs disk.files
  | .switching call checked entry rest =>
    call.package.check = .ok checked ∧ Present slots.shared disk.files ∧
      Settled slots initial entry ∧
      Ensures (switchMachine slots call.pid) (switchContract slots)
        (fun result v => Leaves slots call checked entry result v.files) rest disk
  | .releasing call checked entry result =>
    call.package.check = .ok checked ∧ Present slots.shared disk.files ∧
      Leaves slots call checked entry result disk.files

structure Invariant (host : Host) : Prop where
  holds : ∀ i, Holds slots initial host.disk (host.callers i)
  exclusive : ∀ i j, (host.callers i).hasLock → (host.callers j).hasLock → i = j
  settled : (∀ i, (host.callers i).isSwitching = false) → Settled slots initial host.disk.files

variable {slots initial} {v w : Disk} {phase : Phase}

variable {files : Files Path Contents} {after : Host} {call : ActivateCall} {i : Nat}
  {fault : Fault Contents}

theorem Settled.congr {after : Files Path Contents} (settled : Settled slots initial files)
    (active : after slots.active = files slots.active)
    (state : after slots.statePath = files slots.statePath) : Settled slots initial after := by
  unfold Settled
  rw [active, state]
  exact settled

theorem Settled.isLink (settled : Settled slots initial files)
    (prior : ∀ node, initial slots.active = some node → node.isLink = true) :
    ∀ node, files slots.active = some node → node.isLink = true := by
  intro node found
  obtain ⟨same, _⟩ | ⟨_, _, target, _, link, _⟩ := settled
  · exact prior node (same.symm.trans found)
  · obtain rfl := Option.some.inj (link.symm.trans found)
    rfl

theorem Leaves.settled {checked : Checked} {entry : Files Path Contents}
    {result : Except String String} (checks : call.package.check = .ok checked)
    (leaves : Leaves slots call checked entry result files)
    (settled : Settled slots initial entry) :
    Settled slots initial files := by
  cases result with
  | error e => exact settled.congr leaves.1 leaves.2
  | ok =>
    obtain ⟨target, _, active, state⟩ := leaves
    exact .inr ⟨call, checked, target, checks, active, state⟩

theorem Holds.rely (free : phase.hasLock = false) (holds : Holds slots initial v phase)
    (acted : (prepareContract slots).rely v w) : Holds slots initial w phase := by
  cases phase with
  | idle => trivial
  | returned => trivial
  | preparing => exact Ensures.rely holds acted
  | locking => exact ⟨holds.1, holds.2.rely (List.Subset.refl _) acted⟩
  | switching => cases free
  | releasing => cases free

theorem Holds.present (locked : phase.hasLock = true) (holds : Holds slots initial v phase) :
    Present slots.shared v.files := by
  cases phase with
  | switching => exact holds.2.1
  | releasing => exact holds.2.1
  | idle => cases locked
  | returned => cases locked
  | preparing => cases locked
  | locking => cases locked

theorem eq_of_guarantee (present : Present slots.shared v.files)
    (acted : (prepareContract slots).guarantee v w) : w = v := by
  obtain ⟨files, unread⟩ := v
  obtain ⟨files', unread'⟩ := w
  obtain ⟨same, each⟩ := acted
  obtain rfl : unread' = unread := same
  have : files' = files := by
    funext path
    obtain same | ⟨member, absent, _⟩ := each path
    · exact same
    · exact absurd absent (present path (List.mem_cons_of_mem _ member))
  rw [this]

theorem rely_of_guarantee (acted : (prepareContract slots).guarantee v w) :
    (prepareContract slots).rely v w := by
  intro path _ there none
  obtain same | ⟨_, _, there'⟩ := acted.2 path
  · exact there (same.symm.trans none)
  · exact there' none

theorem Holds.guarantee (holds : Holds slots initial v phase)
    (acted : (prepareContract slots).guarantee v w) : Holds slots initial w phase := by
  cases locked : phase.hasLock with
  | true =>
    rw [eq_of_guarantee (holds.present locked) acted]
    exact holds
  | false => exact holds.rely locked (rely_of_guarantee acted)

theorem Settled.guarantee (settled : Settled slots initial v.files)
    (acted : (prepareContract slots).guarantee v w) : Settled slots initial w.files := by
  have kept : ∀ path ∉ slots.shared, w.files path = v.files path := by
    intro path other
    obtain same | ⟨member, _⟩ := acted.2 path
    · exact same
    · exact absurd (List.mem_cons_of_mem _ member) other
  exact settled.congr (kept _ slots.active_not_mem) (kept _ slots.statePath_not_mem)

/-- A call of `prepare` that goes on is not in the critical section. -/
theorem hasLock_prepared (call : ActivateCall) (rest : Command Checked) :
    (Phase.prepared call rest).hasLock = false := by
  cases rest with
  | _ => rfl

theorem isSwitching_of_hasLock (free : phase.hasLock = false) : phase.isSwitching = false := by
  cases phase with
  | switching => cases free
  | _ => rfl

theorem holds_prepared {rest : Command Checked}
    (ensured : Ensures prepareMachine (prepareContract slots) (fun
      | .ok checked, v => call.package.check = .ok checked ∧ Present slots.dirs v.files
      | .error _, _ => True) rest v) : Holds slots initial v (.prepared call rest) := by
  cases rest with
  | pure => exact ensured.pure_post
  | throw e => trivial
  | op => exact ensured

theorem holds_switched {call : ActivateCall} {checked : Checked} {entry : Files Path Contents}
    {rest : Command String} (checks : call.package.check = .ok checked)
    (present : Present slots.shared v.files) (settled : Settled slots initial entry)
    (ensured : Ensures (switchMachine slots call.pid) (switchContract slots)
      (fun result v => Leaves slots call checked entry result v.files) rest v) :
    Holds slots initial v (.switched call checked entry rest) ∧
      ((Phase.switched call checked entry rest).isSwitching = false →
        Settled slots initial v.files) := by
  cases rest with
  | pure =>
    have leaves := ensured.pure_post
    exact ⟨⟨checks, present, leaves⟩, fun _ => leaves.settled checks settled⟩
  | throw e =>
    have leaves := ensured.throw_post
    exact ⟨⟨checks, present, leaves⟩, fun _ => leaves.settled checks settled⟩
  | op => exact ⟨⟨checks, present, settled, ensured⟩, fun free => by cases free⟩

theorem Invariant.update {host : Host} (inv : Invariant slots initial host) {disk : Disk}
    (own : Holds slots initial disk phase)
    (others : ∀ j, j ≠ i → Holds slots initial disk (host.callers j))
    (locks : phase.hasLock = true → ∀ j, j ≠ i → (host.callers j).hasLock = false)
    (settled : phase.isSwitching = false →
      (∀ j, j ≠ i → (host.callers j).isSwitching = false) → Settled slots initial disk.files) :
    Invariant slots initial { disk, callers := Function.update host.callers i phase } where
  holds j := by
    dsimp only
    by_cases same : j = i
    · subst same
      rw [Function.update_self]
      exact own
    · rw [Function.update_of_ne same]
      exact others j same
  exclusive j k lockJ lockK := by
    dsimp only at lockJ lockK
    by_cases first : j = i
    · by_cases second : k = i
      · rw [first, second]
      · subst first
        rw [Function.update_self] at lockJ
        rw [Function.update_of_ne second, locks lockJ k second] at lockK
        cases lockK
    · by_cases second : k = i
      · subst second
        rw [Function.update_self] at lockK
        rw [Function.update_of_ne first, locks lockK j first] at lockJ
        cases lockJ
      · rw [Function.update_of_ne first] at lockJ
        rw [Function.update_of_ne second] at lockK
        exact inv.exclusive j k lockJ lockK
  settled free := by
    dsimp only at free
    refine settled ?_ fun j other => ?_
    · have own := free i
      rwa [Function.update_self] at own
    · have free := free j
      rwa [Function.update_of_ne other] at free

theorem Invariant.settled_of {host : Host} (inv : Invariant slots initial host)
    (own : (host.callers i).isSwitching = false)
    (others : ∀ j, j ≠ i → (host.callers j).isSwitching = false) :
    Settled slots initial host.disk.files := by
  refine inv.settled fun j => ?_
  by_cases same : j = i
  · rw [same]
    exact own
  · exact others j same

theorem Invariant.start {host : Host} (inv : Invariant slots initial host)
    (taken : host.step slots (.start i call) = some after) : Invariant slots initial after := by
  cases at_ : host.callers i with
  | idle =>
    rw [Host.step, at_] at taken
    dsimp only at taken
    split at taken
    · cases taken
      have free := hasLock_prepared call (prepare slots call)
      refine inv.update (holds_prepared (ensures_prepare call)) (fun j _ => inv.holds j) ?_ ?_
      · rw [free]
        exact fun locked => by cases locked
      · exact fun _ others => inv.settled_of (by rw [at_]; rfl) others
    · cases taken
  | _ =>
    rw [Host.step, at_] at taken
    cases taken

theorem Invariant.exec {host : Host}
    (prior : ∀ node, initial slots.active = some node → node.isLink = true)
    (inv : Invariant slots initial host) (ok : Admissible slots host (.exec i fault))
    (taken : host.step slots (.exec i fault) = some after) : Invariant slots initial after := by
  have holds := inv.holds i
  cases at_ : host.callers i with
  | preparing call rest =>
    rw [Host.step, at_] at taken
    rw [at_] at holds
    cases rest with
    | op o next =>
      cases taken
      obtain ⟨guarantee, later⟩ := Ensures.step (f := fault) holds trivial
      have free := hasLock_prepared call (next (host.disk.exec o fault).1)
      refine inv.update (holds_prepared later) (fun j _ => (inv.holds j).guarantee guarantee) ?_ ?_
      · rw [free]
        exact fun locked => by cases locked
      · exact fun _ others => (inv.settled_of (by rw [at_]; rfl) others).guarantee guarantee
    | _ => cases taken
  | locking call checked =>
    rw [Host.step, at_] at taken
    rw [at_] at holds
    cases taken
    have notSwitching : (host.callers i).isSwitching = false := by rw [at_]; rfl
    obtain ⟨absent, done⟩ | ⟨e, failed⟩ := exec_createDir host.disk fault slots.lock
    · -- no other call has the lock, since it is not there
      have free : ∀ j, (host.callers j).hasLock = false := fun j =>
        Bool.eq_false_iff.mpr fun locked =>
          (inv.holds j).present locked slots.lock List.mem_cons_self absent
      have settled := inv.settled fun j => isSwitching_of_hasLock (free j)
      have kept : ∀ path, path ≠ slots.lock →
          put host.disk.files slots.lock .dir path = host.disk.files path :=
        fun path other => put_other other ..
      have entered : Settled slots initial (put host.disk.files slots.lock .dir) := by
        refine settled.congr (kept _ ?_) (kept _ ?_)
        · exact fun same => slots.active_not_mem (same ▸ List.mem_cons_self)
        · exact fun same => slots.statePath_not_mem (same ▸ List.mem_cons_self)
      have there : ∀ path, host.disk.files path ≠ none →
          put host.disk.files slots.lock .dir path ≠ none := by
        intro path there
        by_cases same : path = slots.lock
        · exact absurd (same ▸ absent) there
        · rw [kept path same]
          exact there
      rw [done]
      refine inv.update ⟨holds.1, ?_, entered, ensures_switch call checked ?_⟩
        (fun j _ => (inv.holds j).rely (free j) fun path _ => there path)
        (fun _ j _ => free j) (fun unswitched => by cases unswitched)
      · refine List.forall_mem_cons.mpr ⟨fun none => ?_, fun path member => ?_⟩
        · cases (put_self ..).symm.trans none
        · exact there path (holds.2 path member)
      · exact entered.isLink prior
    · rw [failed]
      exact inv.update trivial (fun j _ => inv.holds j) (fun locked => by cases locked)
        (fun _ others => inv.settled_of notSwitching others)
  | switching call checked entry rest =>
    rw [Host.step, at_] at taken
    rw [at_] at holds
    obtain ⟨checks, present, settled, ensured⟩ := holds
    have free : ∀ j, j ≠ i → (host.callers j).hasLock = false := fun j other =>
      Bool.eq_false_iff.mpr fun locked => other (inv.exclusive j i locked (by rw [at_]; rfl))
    cases rest with
    | op o =>
      rw [Admissible, at_] at ok
      cases taken
      obtain ⟨guarantee, later⟩ := ensured.step (f := fault) ok
      have stays : Present slots.shared (host.disk.exec o fault).2.files := by
        intro path member
        rw [show (host.disk.exec o fault).2.files path = _ from guarantee path member]
        exact present path member
      obtain ⟨own, ended⟩ := @holds_switched slots initial _ _ _ _ _ checks stays settled later
      refine inv.update own (fun j other => (inv.holds j).rely (free j other) ?_)
        (fun _ => free) (fun unswitched _ => ended unswitched)
      intro path member there
      rw [show (host.disk.exec o fault).2.files path = _ from
        guarantee path (List.mem_cons_of_mem _ member)]
      exact there
    | _ => cases taken
  | releasing =>
    rw [Host.step, at_] at taken
    cases taken
    have free : ∀ j, j ≠ i → (host.callers j).hasLock = false := fun j other =>
      Bool.eq_false_iff.mpr fun locked => other (inv.exclusive j i locked (by rw [at_]; rfl))
    have kept : ∀ path, path ≠ slots.lock →
        (host.disk.exec (.removeDir slots.lock) fault).2.files path = host.disk.files path := by
      intro path other
      obtain erased | same := Op.exec_removeDir host.disk.files fault slots.lock
      · exact (congrFun erased path).trans (erase_other other ..)
      · exact congrFun same path
    refine inv.update trivial (fun j other => (inv.holds j).rely (free j other) ?_)
      (fun locked => by cases locked) (fun _ others => ?_)
    · intro path member there
      rw [kept path fun same => slots.lock_not_mem_dirs (same ▸ member)]
      exact there
    · have settled := inv.settled_of (by rw [at_]; rfl) others
      refine settled.congr (kept _ ?_) (kept _ ?_)
      · exact fun same => slots.active_not_mem (same ▸ List.mem_cons_self)
      · exact fun same => slots.statePath_not_mem (same ▸ List.mem_cons_self)
  | idle =>
    rw [Host.step, at_] at taken
    cases taken
  | returned =>
    rw [Host.step, at_] at taken
    cases taken

theorem invariant_of_reachable {host : Host}
    (prior : ∀ node, initial slots.active = some node → node.isLink = true)
    (reached : ReachableWhen (activations slots initial) (Admissible slots) host) :
    Invariant slots initial host := by
  refine reached.invariant ?_ ?_
  · rintro _ rfl
    exact {
      holds := fun _ => trivial
      exclusive := fun _ _ locked => by cases locked
      settled := fun _ => .inl ⟨rfl, rfl⟩ }
  · intro host label after _ inv ok taken
    cases label with
    | start => exact inv.start taken
    | exec => exact inv.exec prior ok taken

/-- A step outside of the critical section leaves the link and the state file alone. -/
theorem step_outside {host : Host} (inv : Invariant slots initial host)
    (outside : (host.callers i).isSwitching = false)
    (taken : host.step slots (.exec i fault) = some after) :
    after.disk.files slots.active = host.disk.files slots.active ∧
      after.disk.files slots.statePath = host.disk.files slots.statePath := by
  suffices kept : ∀ path ∉ slots.shared, after.disk.files path = host.disk.files path from
    ⟨kept _ slots.active_not_mem, kept _ slots.statePath_not_mem⟩
  intro path other
  have notLock : path ≠ slots.lock := fun same => other (same ▸ List.mem_cons_self)
  have holds := inv.holds i
  cases at_ : host.callers i with
  | preparing call rest =>
    rw [Host.step, at_] at taken
    rw [at_] at holds
    cases rest with
    | op =>
      cases taken
      obtain ⟨guarantee, _⟩ := Ensures.step (f := fault) holds trivial
      obtain same | ⟨member, _⟩ := guarantee.2 path
      · exact same
      · exact absurd (List.mem_cons_of_mem _ member) other
    | _ => cases taken
  | locking =>
    rw [Host.step, at_] at taken
    cases taken
    obtain ⟨_, done⟩ | ⟨e, failed⟩ := exec_createDir host.disk fault slots.lock
    · rw [done]
      exact put_other notLock ..
    · rw [failed]
  | releasing =>
    rw [Host.step, at_] at taken
    cases taken
    obtain erased | same := Op.exec_removeDir host.disk.files fault slots.lock
    · exact (congrFun erased path).trans (erase_other notLock ..)
    · exact congrFun same path
  | switching =>
    rw [at_] at outside
    cases outside
  | idle =>
    rw [Host.step, at_] at taken
    cases taken
  | returned =>
    rw [Host.step, at_] at taken
    cases taken

variable (slots) in
/-- The state file names the directory that the link leads to. -/
def Agrees (files : Files Path Contents) : Prop :=
  ∀ target state, files slots.active = some (.link target) →
    files slots.statePath = some (.file (.state state)) → state.pluginDir = target

theorem Settled.agrees (settled : Settled slots initial files) (agrees : Agrees slots initial) :
    Agrees slots files := by
  intro target state link file
  obtain ⟨same, same'⟩ | ⟨call, checked, target', _, link', file'⟩ := settled
  · exact agrees target state (same.symm.trans link) (same'.symm.trans file)
  · cases link.symm.trans link'
    cases file.symm.trans file'
    rfl

/-- Activations of one `env_type`, in any order and with any faults: when a call gives the lock
back after an error, the link is the one it found, and after a success link and state file are
those of its package; no step outside of a critical section changes them; and when no call runs
they belong together. -/
theorem activation_allOrNothing {host : Host}
    (prior : ∀ node, initial slots.active = some node → node.isLink = true)
    (reached : ReachableWhen (activations slots initial) (Admissible slots) host) :
    (∀ i call checked entry result, host.callers i = .releasing call checked entry result →
      Leaves slots call checked entry result host.disk.files) ∧
    (∀ i fault after, (host.callers i).isSwitching = false →
      host.step slots (.exec i fault) = some after →
      after.disk.files slots.active = host.disk.files slots.active ∧
        after.disk.files slots.statePath = host.disk.files slots.statePath) ∧
    ((∀ i, (host.callers i).isRunning = false) → Settled slots initial host.disk.files ∧
      (Agrees slots initial → Agrees slots host.disk.files)) := by
  have inv := invariant_of_reachable prior reached
  refine ⟨fun i call checked entry result at_ => ?_, fun i fault after => step_outside inv,
    fun quiet => ?_⟩
  · have holds := inv.holds i
    rw [at_] at holds
    exact holds.2.2
  · have settled := inv.settled fun i => by
      have quiet := quiet i
      cases at_ : host.callers i with
      | switching =>
        rw [at_] at quiet
        cases quiet
      | _ => rfl
    exact ⟨settled, settled.agrees⟩

end Runs

/-! ### A plugin root with an active link -/

instance (slots : Slots) (pid : Nat) (disk : Disk) (fault : Fault Contents) :
    ∀ o, Decidable (RollsBack slots pid disk o fault)
  | .symlink _ _ | .rename _ _ | .removeFile _ => inferInstanceAs (Decidable (_ → _))
  | .inspect _ | .readLink _ | .canonicalize _ | .createDir _ | .createDirs _ | .removeDir _
  | .write _ _ => .isTrue trivial

instance (slots : Slots) (pid : Nat) (disk : Disk) (fault : Fault Contents) :
    ∀ o, Decidable (Restorable slots pid disk o fault)
  | .rename _ _ | .removeFile _ => inferInstanceAs (Decidable (_ → _ → _))
  | .inspect _ | .readLink _ | .canonicalize _ | .createDir _ | .createDirs _ | .removeDir _
  | .write _ _ | .symlink _ _ => .isTrue trivial

instance (condition : Nat → Op Path Contents → Prop) [∀ pid o, Decidable (condition pid o)] :
    ∀ phase : Phase, Decidable (phase.Meets condition)
  | .switching call _ _ (.op o _) => inferInstanceAs (Decidable (condition call.pid o))
  | .switching _ _ _ (.pure _) | .switching _ _ _ (.throw _) | .idle | .preparing _ _
  | .locking _ _ | .releasing _ _ _ _ | .returned _ => .isTrue trivial

instance (slots : Slots) (host : Host) : ∀ a, Decidable (RollbackWorks slots host a)
  | .start _ _ => .isTrue trivial
  | .exec i fault => inferInstanceAs (Decidable ((host.callers i).Meets fun pid o =>
    RollsBack slots pid host.disk o fault))

instance (slots : Slots) (host : Host) : ∀ a, Decidable (Admissible slots host a)
  | .start _ _ => .isTrue trivial
  | .exec i fault => inferInstanceAs (Decidable ((host.callers i).Meets fun pid o =>
    RollsBack slots pid host.disk o fault ∧ Restorable slots pid host.disk o fault))

def demoSlots : Slots where
  root := ["plugins".toList]
  envType := "demo"
  isEnvType := by decide +kernel

def demoState : ActivationState where
  envType := "demo"
  packageId := "demo"
  version := "1.0.0"
  bundleDigest := bundleDigest []
  pluginDir := ["v1".toList, "plugin".toList]
  activatedAt := 1

/-- Version 1.0.0 is active, and version 2.0.0 has been synced. -/
def demoFiles : Files Path Contents := fun path =>
  if path = demoSlots.active then some (.link demoState.pluginDir)
  else if path = demoSlots.statePath then some (.file (.state demoState))
  else if path ∈ [demoSlots.root, demoSlots.stateDir, demoSlots.lockParent,
    ["v2".toList, "plugin".toList]] then some .dir
  else none

def demoPackage : SyncedPackage where
  manifest := .ok {
    packageId := "demo"
    version := "2.0.0"
    workerOverlay := .obj [("process_plugin", .obj [("env_type", .str "demo")])] }
  marker := .ok (.obj [("package_id", .str "demo"), ("version", .str "2.0.0"),
    ("bundle_digest", .str (bundleDigest []))])
  digestOf _ := none
  plugin := .ok {
    envType := "demo", supportedBackends := some ["process"], ipc := "proto-uds",
    entry := "./run.sh" }
  isFile _ := true
  runtime := .ok ()
  permissions := .ok ()
  pluginDir := ["v2".toList, "plugin".toList]

def demoCall : ActivateCall where
  package := demoPackage
  pid := 7
  now := 2

/-- A call whose operations meet the faults from the fifth one after the lock on. -/
def demoSchedule (faults : List (Fault Contents)) : List Label :=
  .start 0 demoCall :: (List.replicate 5 Fault.none ++ faults).map (.exec 0)

def ioError : IoError := { text := "Input/output error (os error 5)" }

/-- The calls before anything has been done. -/
def demoHost : Host := { disk := { files := demoFiles } }

theorem demoFiles_active : demoFiles demoSlots.active = some (.link demoState.pluginDir) := by
  decide +kernel

theorem demo_prior (node : Node Path Contents) (found : demoFiles demoSlots.active = some node) :
    node.isLink = true := by
  obtain rfl := Option.some.inj (demoFiles_active.symm.trans found)
  rfl

theorem demo_reachable {ok : Host → Label → Prop} {schedule : List Label} {found : Host → Bool}
    (run : (activations demoSlots demoFiles).Along ok demoHost schedule ∧
      ((activations demoSlots demoFiles).exec demoHost schedule).any found = true) :
    ∃ host, ReachableWhen (activations demoSlots demoFiles) ok host ∧ found host = true := by
  obtain ⟨host, ran, holds⟩ := (Option.any_eq_true ..).mp run.2
  exact ⟨host, (ReachableWhen.start rfl).of_exec schedule run.1 ran, holds⟩

/-- The call 0 gives the lock back after a success, or after an error. -/
def returned (good : Bool) (host : Host) : Bool :=
  match host.callers 0 with
  | .releasing _ _ _ (.ok _) => good
  | .releasing _ _ _ (.error _) => !good
  | _ => false

/-- The call 0 gives the lock back after an error, and no link is there. -/
def lostLink (host : Host) : Bool :=
  match host.callers 0 with
  | .releasing _ _ entry (.error _) =>
    entry demoSlots.active = some (.link demoState.pluginDir) &&
      (host.disk.files demoSlots.active).isNone
  | _ => false

/-- A run whose first call returned so, with what it left. -/
def Ends (good : Bool) : Prop := ∃ host call checked entry outcome,
  ReachableWhen (activations demoSlots demoFiles) (Admissible demoSlots) host ∧
  host.callers 0 = .releasing call checked entry outcome ∧ outcome.isOk = good ∧
  Leaves demoSlots call checked entry outcome host.disk.files

/-- One call succeeds; another fails at the rename of the state file and is rolled back. -/
theorem activation_allOrNothing_demo : Ends true ∧ Ends false := by
  suffices every : ∀ good, Ends good from ⟨every true, every false⟩
  intro good
  let faults : List (Fault Contents) := List.replicate 7 .none ++
    if good then [.none] else .fails ioError :: List.replicate 4 .none
  obtain ⟨host, reached, found⟩ := @demo_reachable (Admissible demoSlots) (demoSchedule faults)
    (returned good) (by revert good; decide +kernel)
  have leaves := (activation_allOrNothing demo_prior reached).1 0
  unfold returned at found
  split at found
  · next at_ => exact ⟨host, _, _, _, _, reached, at_, found.symm, leaves _ _ _ _ at_⟩
  · next at_ =>
    exact ⟨host, _, _, _, _, reached, at_, (Bool.not_eq_true' _ ▸ found).symm, leaves _ _ _ _ at_⟩
  · cases found

/-- `read_link` fails, and later the rename of the state file: the rollback takes the link for
absent and removes it. -/
theorem unreadLink_not_restored : ¬ ∀ slots initial host,
    (∀ node, initial slots.active = some node → node.isLink = true) →
    ReachableWhen (activations slots initial) (RollbackWorks slots) host →
    ∀ i call checked entry e, host.callers i = .releasing call checked entry (.error e) →
      host.disk.files slots.active = entry slots.active := by
  intro restored
  obtain ⟨host, reached, found⟩ := @demo_reachable (RollbackWorks demoSlots)
    (demoSchedule [.none, .fails ioError, .none, .none, .none, .none, .none, .fails ioError,
      .none, .none]) lostLink (by decide +kernel)
  unfold lostLink at found
  split at found
  · next call checked entry e at_ =>
    have same := restored _ _ host demo_prior reached 0 _ _ _ _ at_
    rw [Bool.and_eq_true, decide_eq_true_eq] at found
    rw [same, found.1] at found
    cases found.2
  · cases found

end UEnv.Hub.Activation
