import UEnv.Hub.Activation

/-!
# The critical section of an activation

A call that has the lock is alone with the files. What it leaves is the pair of the link and the
state file as it was or the new pair, unless it could not read the link that it has to restore or
a link under the temporary name of the state file could not be removed.
-/

namespace UEnv.Hub.Activation

open LinkedFiles RelyGuarantee Runs

/-! ### The places are different ones -/

namespace Slots

variable (slots : Slots) (pid : Nat)

/-- An `env_type` does not begin with a dot. -/
theorem env_ne_dot (name : Name) : slots.env ≠ '.' :: name := by
  intro same
  have valid := slots.isEnvType
  unfold Activation.isEnvType at valid
  unfold env at same
  rw [same] at valid
  simp at valid

/-- The directories and the lock in them. -/
def shared : List Path := slots.lock :: slots.dirs

variable {name : Name}

/-- A name in the plugin root or in the state directory that is not the one of a directory. -/
theorem not_mem_shared (other : name ≠ ".active".toList) : slots.root ++ [name] ∉ slots.shared := by
  unfold shared dirs lock lockParent stateDir
  simp only [List.mem_cons, List.mem_inits, List.append_assoc, List.prefix_append_right_inj,
    List.append_cancel_left_eq]
  rintro (same | start)
  · simp at same
  · exact other (List.cons_prefix_cons.mp start).1

theorem not_mem_shared_of_state (other : name ≠ ".locks".toList) :
    slots.stateDir ++ [name] ∉ slots.shared := by
  unfold shared dirs lock lockParent stateDir
  simp only [List.mem_cons, List.mem_inits, List.append_assoc, List.prefix_append_right_inj,
    List.append_cancel_left_eq]
  rintro (same | start)
  · simp at same
  · exact other (List.cons_prefix_cons.mp start).1

theorem active_not_mem : slots.active ∉ slots.shared :=
  slots.not_mem_shared (slots.env_ne_dot _)

theorem statePath_not_mem : slots.statePath ∉ slots.shared := by
  refine slots.not_mem_shared_of_state fun same => ?_
  cases name : slots.env with
  | nil =>
    rw [name] at same
    exact absurd same (by decide)
  | cons c rest =>
    rw [name] at same
    simp at same
    exact slots.env_ne_dot rest (by rw [name, same.1])

theorem pending_not_mem : slots.pending pid ∉ slots.shared := by
  refine slots.not_mem_shared fun same => ?_
  have length := congrArg List.length same
  simp at length
  omega

theorem stateTmp_not_mem : slots.stateTmp pid ∉ slots.shared := by
  refine slots.not_mem_shared_of_state fun same => ?_
  have length := congrArg List.length same
  simp at length
  omega

theorem rollback_not_mem : slots.rollback pid ∉ slots.shared := by
  refine slots.not_mem_shared fun same => ?_
  have length := congrArg List.length same
  simp at length
  omega

theorem lock_not_mem_dirs : slots.lock ∉ slots.dirs := by
  unfold dirs lock
  rw [List.mem_inits]
  intro start
  have length := start.length_le
  rw [List.length_append, List.length_singleton] at length
  omega

theorem root_ne_state (name other : Name) : slots.root ++ [name] ≠ slots.stateDir ++ [other] := by
  unfold stateDir
  rw [List.append_assoc]
  simp

theorem active_ne_pending : slots.active ≠ slots.pending pid := by
  intro same
  exact slots.env_ne_dot _ (List.cons.inj (List.append_cancel_left same)).1

theorem statePath_ne_stateTmp : slots.statePath ≠ slots.stateTmp pid := by
  intro same
  have names := (List.cons.inj (List.append_cancel_left same)).1
  cases name : slots.env with
  | nil => simp [name] at names
  | cons c rest =>
    rw [name] at names
    exact slots.env_ne_dot rest (by rw [name, (List.cons.inj names).1])

end Slots

/-! ### What a call relies on -/

section Section

variable (slots : Slots) (pid : Nat)

/-- The operations of the rollback do not fail. -/
def RollsBack (disk : Disk) (o : Op Path Contents) (fault : Fault Contents) : Prop :=
  match o with
  | .symlink _ path => path = slots.rollback pid → (disk.exec o fault).1.isOk
  | .rename source _ => source = slots.rollback pid → (disk.exec o fault).1.isOk
  | .removeFile path => path = slots.active → (disk.exec o fault).1.isOk
  | _ => True

/-- The state file can be renamed if the active link that is there could not be read, and a link
under its temporary name can be removed. -/
def Restorable (disk : Disk) (o : Op Path Contents) (fault : Fault Contents) : Prop :=
  match o with
  | .rename source _ =>
    source = slots.stateTmp pid → disk.unread = true → (disk.exec o fault).1.isOk
  | .removeFile path =>
    path = slots.stateTmp pid → (disk.files path).any Node.isLink → (disk.exec o fault).1.isOk
  | _ => True

/-- The operations of a call with the lock. -/
def switchMachine : Machine (@Op.Answer Path Contents) Disk (Fault Contents) where
  exec o fault disk := disk.exec o fault
  admits o fault disk := RollsBack slots pid disk o fault ∧ Restorable slots pid disk o fault

/-- A call with the lock is alone, and keeps the directories and the lock. -/
def switchContract : Contract Disk where
  rely v w := w = v
  guarantee v w := ∀ path ∈ slots.shared, w.files path = v.files path
  rely_refl _ := rfl
  rely_trans same same' := same'.trans same

/-- What is done changes nothing but some paths. -/
def Only (paths : List Path) (v w : Disk) : Prop :=
  w.unread = v.unread ∧ ∀ path ∉ paths, w.files path = v.files path

variable {slots pid}

theorem Only.refl (paths : List Path) (v : Disk) : Only paths v v := ⟨rfl, fun _ _ => rfl⟩

variable {paths : List Path} {v w : Disk}

theorem Only.trans {u : Disk} (first : Only paths u v) (second : Only paths v w) : Only paths u w :=
  ⟨second.1.trans first.1, fun path other => (second.2 path other).trans (first.2 path other)⟩

theorem Only.mono {more : List Path} (only : Only paths v w) (subset : paths ⊆ more) :
    Only more v w :=
  ⟨only.1, fun path other => only.2 path fun member => other (subset member)⟩

theorem Only.guarantee (only : Only paths v w) (apart : ∀ path ∈ paths, path ∉ slots.shared) :
    (switchContract slots).guarantee v w :=
  fun path member => only.2 path fun changed => apart path changed member

theorem ensures_op {β : Type} {post : Except String β → Disk → Prop} {o : Op Path Contents}
    {next : o.Answer → Command β} {disk : Disk}
    (each : ∀ fault, RollsBack slots pid disk o fault → Restorable slots pid disk o fault →
      (switchContract slots).guarantee disk (disk.exec o fault).2 ∧
      Ensures (switchMachine slots pid) (switchContract slots) post (next (disk.exec o fault).1)
        (disk.exec o fault).2) :
    Ensures (switchMachine slots pid) (switchContract slots) post (.op o next) disk := by
  rintro _ rfl fault ⟨rollsBack, restorable⟩
  exact each fault rollsBack restorable

section Operations

variable (disk : Disk) (fault : Fault Contents)

theorem exec_canonicalize (path : Path) : (∃ place, resolve disk.files path = some place ∧
      disk.exec (.canonicalize path) fault = (.ok place, disk)) ∨
    ∃ e, disk.exec (.canonicalize path) fault = (.error e, disk) := by
  unfold Disk.exec
  obtain ⟨place, found, done⟩ | ⟨e, failed⟩ := Op.exec_canonicalize disk.files fault path
  · exact .inl ⟨place, found, by rw [done]⟩
  · exact .inr ⟨e, by rw [failed]⟩

theorem exec_readLink (path : Path) : (∃ target, disk.files path = some (.link target) ∧
      disk.exec (.readLink path) fault = (.ok target, { disk with unread := false })) ∨
    ∃ e, disk.exec (.readLink path) fault =
      (.error e, { disk with unread := (disk.files path).any Node.isLink }) := by
  unfold Disk.exec
  obtain ⟨target, found, done⟩ | ⟨e, failed⟩ := Op.exec_readLink disk.files fault path
  · refine .inl ⟨target, found, ?_⟩
    rw [done]
    rfl
  · refine .inr ⟨e, ?_⟩
    rw [failed]
    rfl

theorem exec_removeFile (path : Path) : disk.exec (.removeFile path) fault =
      (.ok (), { disk with files := erase disk.files path }) ∨
    ∃ e, disk.exec (.removeFile path) fault = (.error e, disk) := by
  unfold Disk.exec
  obtain done | ⟨e, failed⟩ := Op.exec_removeFile disk.files fault path
  · exact .inl (by rw [done])
  · exact .inr ⟨e, by rw [failed]⟩

theorem exec_symlink (target path : Path) : disk.exec (.symlink target path) fault =
      (.ok (), { disk with files := put disk.files path (.link target) }) ∨
    ∃ e, disk.exec (.symlink target path) fault = (.error e, disk) := by
  unfold Disk.exec
  obtain done | ⟨e, failed⟩ := Op.exec_symlink disk.files fault target path
  · exact .inl (by rw [done])
  · exact .inr ⟨e, by rw [failed]⟩

theorem exec_rename (source target : Path) :
    (∃ node, disk.files source = some node ∧ disk.exec (.rename source target) fault =
      (.ok (), { disk with files := put (erase disk.files source) target node })) ∨
    ∃ e, disk.exec (.rename source target) fault = (.error e, disk) := by
  unfold Disk.exec
  obtain ⟨node, found, done⟩ | ⟨e, failed⟩ := Op.exec_rename disk.files fault source target
  · exact .inl ⟨node, found, by rw [done]⟩
  · exact .inr ⟨e, by rw [failed]⟩

theorem exec_write {path : Path} (plain : (disk.files path).any Node.isLink = false)
    (content : Contents) :
    disk.exec (.write path content) fault =
      (.ok (), { disk with files := put disk.files path (.file content) }) ∨
    ∃ e files, disk.exec (.write path content) fault = (.error e, { disk with files }) ∧
      ∀ other ≠ path, files other = disk.files other := by
  unfold Disk.exec
  obtain done | ⟨e, failed⟩ | ⟨written, e, failed⟩ :=
    Op.exec_write disk.files fault plain content
  · exact .inl (by rw [done])
  · exact .inr ⟨e, disk.files, by rw [failed], fun _ _ => rfl⟩
  · exact .inr ⟨e, _, by rw [failed], fun other different => put_other different ..⟩

end Operations

variable {disk : Disk}

theorem only_erase (path : Path) : Only [path] disk { disk with files := erase disk.files path } :=
  ⟨rfl, fun other different => erase_other (by simpa using different) ..⟩

theorem only_put (path : Path) (node : Node Path Contents) :
    Only [path] disk { disk with files := put disk.files path node } :=
  ⟨rfl, fun other different => put_other (by simpa using different) ..⟩

theorem only_rename (source target : Path) (node : Node Path Contents) : Only [source, target] disk
      { disk with files := put (erase disk.files source) target node } := by
  refine ⟨rfl, fun other different => ?_⟩
  rw [List.mem_cons, List.mem_singleton, not_or] at different
  exact (put_other different.2 ..).trans (erase_other different.1 ..)

/-! ### The parts of the critical section -/

theorem ensures_ignoreRemove {β : Type} {post : Except String β → Disk → Prop} {path : Path}
    {rest : Command β} (apart : path ∉ slots.shared)
    (later : ∀ v, Only [path] disk v → (path = slots.stateTmp pid →
        (v.files path).any Node.isLink = false) →
      Ensures (switchMachine slots pid) (switchContract slots) post rest v) :
    Ensures (switchMachine slots pid) (switchContract slots) post
      (ignore (.removeFile path) >>= fun _ => rest) disk := by
  refine ensures_op fun fault _ restorable => ?_
  obtain done | ⟨e, failed⟩ := exec_removeFile disk fault path
  · rw [done]
    refine ⟨(only_erase path).guarantee (by simpa using apart), later _ (only_erase path) ?_⟩
    intro _
    exact congrArg (Option.any Node.isLink) (erase_self ..)
  · rw [failed]
    refine ⟨(Only.refl [path] disk).guarantee (by simpa using apart), later _ (.refl _ _) ?_⟩
    intro isTmp
    have removable := restorable isTmp
    rw [failed] at removable
    exact Bool.eq_false_iff.mpr fun isLink => Bool.false_ne_true (removable isLink)

theorem ensures_canonicalize (path : Path) :
    Ensures (switchMachine slots pid) (switchContract slots) (fun
        | .ok target, v => v = disk ∧ resolve disk.files path = some target
        | .error _, v => v = disk)
      (attempt (.canonicalize path)) disk := by
  refine ensures_op fun fault _ _ => ?_
  obtain ⟨place, found, done⟩ | ⟨e, failed⟩ :=
    exec_canonicalize disk fault path
  · rw [done]
    exact ⟨fun _ _ => rfl, fun _ same => ⟨same, found⟩⟩
  · rw [failed]
    exact ⟨fun _ _ => rfl, fun _ same => same⟩

variable (slots) in
/-- What is known of the link that was read. -/
def Read (files : Files Path Contents) (previous : Option Path) (unread : Bool) : Prop :=
  (∀ target, previous = some target → files slots.active = some (.link target)) ∧
  (previous = none → (files slots.active).any Node.isLink = true → unread = true)

theorem ensures_readPrevious : Ensures (switchMachine slots pid) (switchContract slots) (fun
        | .ok previous, v => v.files = disk.files ∧ Read slots disk.files previous v.unread
        | .error _, _ => False)
      (readPrevious slots) disk := by
  refine ensures_op fun fault _ _ => ?_
  obtain ⟨target, found, done⟩ | ⟨e, failed⟩ :=
    exec_readLink disk fault slots.active
  · rw [done]
    refine ⟨fun _ _ => rfl, ?_⟩
    rintro _ rfl
    refine ⟨rfl, ⟨fun other same => ?_, fun absent => ?_⟩⟩
    · cases same
      exact found
    · cases absent
  · rw [failed]
    refine ⟨fun _ _ => rfl, ?_⟩
    rintro _ rfl
    refine ⟨rfl, ⟨fun _ same => ?_, fun _ isLink => isLink⟩⟩
    cases same

section

variable (call : ActivateCall)
include call

theorem ensures_stageLink (target : Path) :
    Ensures (switchMachine slots call.pid) (switchContract slots) (fun
        | .ok (), v => Only [slots.pending call.pid] disk v ∧
            v.files (slots.pending call.pid) = some (.link target)
        | .error _, v => Only [slots.pending call.pid] disk v)
      (stageLink slots call target) disk := by
  have apart := slots.pending_not_mem call.pid
  refine ensures_ignoreRemove apart fun cleaned only _ => ensures_op fun fault _ _ => ?_
  obtain done | ⟨e, failed⟩ :=
    exec_symlink cleaned fault target (slots.pending call.pid)
  · rw [done]
    refine ⟨(only_put _ _).guarantee (by simpa using apart), ?_⟩
    rintro _ rfl
    exact ⟨only.trans (only_put ..), put_self ..⟩
  · rw [failed]
    refine ⟨fun _ _ => rfl, ?_⟩
    rintro _ rfl
    exact only

theorem ensures_stageState (checked : Checked) (target : Path) :
    Ensures (switchMachine slots call.pid) (switchContract slots) (fun
        | .ok (), v => Only [slots.stateTmp call.pid] disk v ∧
            v.files (slots.stateTmp call.pid) = some (.file (.state (stateOf call checked target)))
        | .error _, v => Only [slots.stateTmp call.pid] disk v)
      (stageState slots call checked target) disk := by
  have apart := slots.stateTmp_not_mem call.pid
  refine ensures_ignoreRemove apart fun cleaned only plain => ensures_op fun fault _ _ => ?_
  obtain done | ⟨e, files, failed, others⟩ :=
    exec_write cleaned fault (plain rfl) (.state (stateOf call checked target))
  · rw [done]
    refine ⟨(only_put _ _).guarantee (by simpa using apart), ?_⟩
    rintro _ rfl
    exact ⟨only.trans (only_put ..), put_self ..⟩
  · have written : Only [slots.stateTmp call.pid] cleaned { cleaned with files } :=
      ⟨rfl, fun other different => others other (by simpa using different)⟩
    rw [failed]
    refine ⟨written.guarantee (by simpa using apart), ?_⟩
    rintro _ rfl
    exact only.trans written

theorem ensures_switchLink {target : Path}
    (staged : disk.files (slots.pending call.pid) = some (.link target)) :
    Ensures (switchMachine slots call.pid) (switchContract slots) (fun
        | .ok (), v => Only [slots.pending call.pid, slots.active] disk v ∧
            v.files slots.active = some (.link target)
        | .error _, v => Only [slots.pending call.pid, slots.stateTmp call.pid] disk v)
      (switchLink slots call) disk := by
  have apart := slots.pending_not_mem call.pid
  refine ensures_op fun fault _ _ => ?_
  obtain ⟨node, found, done⟩ | ⟨e, failed⟩ := exec_rename disk fault
    (slots.pending call.pid) slots.active
  · obtain rfl := Option.some.inj (staged.symm.trans found)
    rw [done]
    refine ⟨(only_rename ..).guarantee ?_, ?_⟩
    · simpa using ⟨apart, slots.active_not_mem⟩
    · rintro _ rfl
      exact ⟨only_rename .., put_self ..⟩
  · rw [failed]
    refine ⟨fun _ _ => rfl, ?_⟩
    refine ensures_ignoreRemove apart fun first only _ => ?_
    refine ensures_ignoreRemove (slots.stateTmp_not_mem _) fun second only' _ => ?_
    rintro _ rfl
    exact (only.mono (by simp)).trans (only'.mono (by simp))

theorem ensures_restore (previous : Option Path) :
    Ensures (switchMachine slots call.pid) (switchContract slots) (fun
        | .ok (.ok ()), v => v.files slots.active = previous.map .link ∧
            Only [slots.rollback call.pid, slots.active] disk v
        | _, _ => False)
      (restore slots call previous) disk := by
  have apart := slots.rollback_not_mem call.pid
  cases previous with
  | some previous =>
    refine ensures_ignoreRemove apart fun cleaned only _ => ensures_op fun fault rollsBack _ => ?_
    obtain done | ⟨e, failed⟩ :=
      exec_symlink cleaned fault previous (slots.rollback call.pid)
    · rw [done]
      refine ⟨(only_put _ _).guarantee (by simpa using apart), ?_⟩
      refine ensures_op fun fault rollsBack _ => ?_
      obtain ⟨node, found, done⟩ | ⟨e, failed⟩ := exec_rename { cleaned with
          files := put cleaned.files (slots.rollback call.pid) (.link previous) } fault
        (slots.rollback call.pid) slots.active
      · obtain rfl := Option.some.inj ((put_self ..).symm.trans found)
        rw [done]
        refine ⟨(only_rename ..).guarantee ?_, ?_⟩
        · simpa using ⟨apart, slots.active_not_mem⟩
        · rintro _ rfl
          refine ⟨put_self .., ?_⟩
          exact (only.mono (by simp)).trans (((only_put ..).mono (by simp)).trans (only_rename ..))
      · have succeeds := rollsBack rfl
        rw [failed] at succeeds
        cases succeeds
    · have succeeds := rollsBack rfl
      rw [failed] at succeeds
      cases succeeds
  | none =>
    refine ensures_op fun fault rollsBack _ => ?_
    obtain done | ⟨e, failed⟩ := exec_removeFile disk fault slots.active
    · rw [done]
      refine ⟨(only_erase _).guarantee (by simpa using slots.active_not_mem), ?_⟩
      rintro _ rfl
      exact ⟨erase_self .., (only_erase _).mono (by simp)⟩
    · have succeeds := rollsBack rfl
      rw [failed] at succeeds
      cases succeeds

theorem ensures_switchState {files : Files Path Contents} {previous : Option Path}
    {state : ActivationState}
    (staged : disk.files (slots.stateTmp call.pid) = some (.file (.state state)))
    (prior : ∀ node, files slots.active = some node → node.isLink = true)
    (read : Read slots files previous disk.unread) :
    Ensures (switchMachine slots call.pid) (switchContract slots) (fun
        | .ok (), v => Only [slots.stateTmp call.pid, slots.statePath] disk v ∧
            v.files slots.statePath = some (.file (.state state))
        | .error _, v => v.files slots.active = files slots.active ∧
            v.files slots.statePath = disk.files slots.statePath)
      (switchState slots call previous) disk := by
  have apart := slots.stateTmp_not_mem call.pid
  refine ensures_op fun fault _ restorable => ?_
  obtain ⟨node, found, done⟩ | ⟨e, failed⟩ := exec_rename disk fault
    (slots.stateTmp call.pid) slots.statePath
  · obtain rfl := Option.some.inj (staged.symm.trans found)
    rw [done]
    refine ⟨(only_rename ..).guarantee ?_, ?_⟩
    · simpa using ⟨apart, slots.statePath_not_mem⟩
    · rintro _ rfl
      exact ⟨only_rename .., put_self ..⟩
  · have wasRead : disk.unread = false := by
      refine Bool.eq_false_iff.mpr fun unread => ?_
      have succeeds := restorable rfl unread
      rw [failed] at succeeds
      cases succeeds
    have restored : previous.map .link = files slots.active := by
      cases previous with
      | some target => exact (read.1 target rfl).symm
      | none =>
        cases found : files slots.active with
        | none => rfl
        | some node =>
          have missed := read.2 rfl (by rw [found]; exact prior node found)
          exact absurd missed (Bool.eq_false_iff.mp wasRead)
    rw [failed]
    refine ⟨fun _ _ => rfl, ?_⟩
    refine ensures_ignoreRemove apart fun cleaned only _ => ?_
    refine (ensures_restore call previous).bind (fun result v ended => ?_) (fun _ _ => False.elim)
    cases result with
    | ok _ =>
      rintro _ rfl
      refine ⟨ended.1.trans restored, ?_⟩
      rw [ended.2.2 slots.statePath ?_, only.2 slots.statePath ?_]
      · simpa using slots.statePath_ne_stateTmp call.pid
      · simpa using ⟨Ne.symm (slots.root_ne_state _ _), Ne.symm (slots.root_ne_state _ _)⟩
    | error _ => exact ended.elim

end

variable (slots) in
/-- What a call leaves when it took the lock at `entry`: the link and the state file as they were,
or the new ones. -/
def Leaves (call : ActivateCall) (checked : Checked) (entry : Files Path Contents) :
    Except String String → Files Path Contents → Prop
  | .error _, files =>
    files slots.active = entry slots.active ∧ files slots.statePath = entry slots.statePath
  | .ok _, files => ∃ target, resolve entry call.package.pluginDir = some target ∧
      files slots.active = some (.link target) ∧
      files slots.statePath = some (.file (.state (stateOf call checked target)))

theorem ensures_switch (call : ActivateCall) (checked : Checked)
    (prior : ∀ node, disk.files slots.active = some node → node.isLink = true) :
    Ensures (switchMachine slots call.pid) (switchContract slots)
      (fun result v => Leaves slots call checked disk.files result v.files)
      (switch slots call checked) disk := by
  have pendingTmp : slots.stateTmp call.pid ≠ slots.pending call.pid :=
    Ne.symm (slots.root_ne_state _ _)
  have activeTmp : slots.active ≠ slots.stateTmp call.pid := slots.root_ne_state _ _
  have activeState : slots.active ≠ slots.statePath := slots.root_ne_state _ _
  have pendingState : slots.statePath ≠ slots.pending call.pid :=
    Ne.symm (slots.root_ne_state _ _)
  have stateTmp := slots.statePath_ne_stateTmp call.pid
  have activePending := slots.active_ne_pending call.pid
  refine (ensures_canonicalize _).bind (fun target v found => ?_) (fun e v same => ?_)
  rotate_left
  · rintro _ rfl
    obtain rfl := same
    exact ⟨rfl, rfl⟩
  obtain ⟨rfl, found⟩ := found
  refine ensures_readPrevious.bind (fun previous v₁ read => ?_) (fun _ _ => False.elim)
  obtain ⟨same, read⟩ := read
  refine (ensures_stageLink call target).bind (fun _ v₂ staged => ?_) (fun e v₂ only => ?_)
  rotate_left
  · rintro _ rfl
    refine ⟨?_, ?_⟩
    · rw [only.2 _ (by simpa using activePending), same]
    · rw [only.2 _ (by simpa using pendingState), same]
  obtain ⟨only₂, link⟩ := staged
  refine (ensures_stageState call checked target).bind (fun _ v₃ staged => ?_) (fun e v₃ only => ?_)
  rotate_left
  · rintro _ rfl
    refine ⟨?_, ?_⟩
    · rw [only.2 _ (by simpa using activeTmp), only₂.2 _ (by simpa using activePending), same]
    · rw [only.2 _ (by simpa using stateTmp), only₂.2 _ (by simpa using pendingState), same]
  obtain ⟨only₃, file⟩ := staged
  have link₃ : v₃.files (slots.pending call.pid) = some (.link target) :=
    (only₃.2 _ (by simpa using Ne.symm pendingTmp)).trans link
  refine (ensures_switchLink call link₃).bind (fun _ v₄ switched => ?_) (fun e v₄ only => ?_)
  rotate_left
  · rintro _ rfl
    refine ⟨?_, ?_⟩
    · rw [only.2 _ (by simpa using ⟨activePending, activeTmp⟩),
        only₃.2 _ (by simpa using activeTmp), only₂.2 _ (by simpa using activePending), same]
    · rw [only.2 _ (by simpa using ⟨pendingState, stateTmp⟩),
        only₃.2 _ (by simpa using stateTmp), only₂.2 _ (by simpa using pendingState), same]
  obtain ⟨only₄, switched⟩ := switched
  have file₄ : v₄.files (slots.stateTmp call.pid) =
      some (.file (.state (stateOf call checked target))) := by
    rw [only₄.2 _ (by simpa using ⟨pendingTmp, Ne.symm activeTmp⟩), file]
  have state₄ : v₄.files slots.statePath = v.files slots.statePath := by
    rw [only₄.2 _ (by simpa using ⟨pendingState, Ne.symm activeState⟩),
      only₃.2 _ (by simpa using stateTmp), only₂.2 _ (by simpa using pendingState), same]
  have read₄ : Read slots v.files previous v₄.unread := by
    rw [only₄.1, only₃.1, only₂.1]
    exact read
  refine (ensures_switchState call file₄ prior read₄).bind (fun _ v₅ ended => ?_)
    (fun e v₅ ended => ?_)
  · rintro _ rfl
    refine ⟨target, found, ?_, ended.2⟩
    rw [ended.1.2 _ (by simpa using ⟨activeTmp, activeState⟩), switched]
  · rintro _ rfl
    exact ⟨ended.1, ended.2.trans state₄⟩

end Section

end UEnv.Hub.Activation
