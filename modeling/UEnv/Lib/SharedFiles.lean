import UEnv.Lib.Runs

/-!
# Calls over shared files

Calls that create, write, read, copy and remove files by their paths, one operation at a time, with
those of other calls in between. Every operation may also fail. A path leads to a file as long as no
one removes it; a file that is open can be written after that, and no one finds it.
-/

namespace UEnv.SharedFiles

open Runs

variable {π α : Type}

/-- The end of an operation. One that is not done has changed nothing. -/
inductive End
  | done
  | failed
  | unstarted
  deriving DecidableEq

/-- What a call still does. A reading operation names what the call means to find. -/
inductive Prog (π α : Type)
  | stop
  | create (path : π) (next : Bool → Prog π α)
  | write (path : π) (content : List α) (next : Bool → Prog π α)
  | read (path : π) (content : List α) (next : Option (List α) → Prog π α)
  | copy (source : π) (content : List α) (target : π) (next : End → Prog π α)
  | unlink (path : π) (next : Prog π α)
  -- a process that reads files from its start to its exit
  | process (files : List (π × List α)) (next : Bool → Prog π α)

/-- A file: its number and its content. -/
abbrev File (α : Type) := Nat × List α

structure Thread (π α : Type) where
  prog : Prog π α := .stop
  /-- The open files by the path they were created at. -/
  handles : π → Option Nat := fun _ => none

structure World (π α : Type) where
  files : π → Option (File α) := fun _ => none
  fresh : Nat := 0
  threads : Nat → Thread π α := fun _ => {}

/-- The content at a path. -/
def World.content (world : World π α) (path : π) : Option (List α) :=
  (world.files path).map Prod.snd

variable [DecidableEq π]

/-- The number of the file at a path, or a new one. -/
def World.fileAt (world : World π α) (path : π) : Nat :=
  ((world.files path).map Prod.fst).getD world.fresh

/-- A file is put at a path, with the number of the file that is there. -/
def World.put (world : World π α) (path : π) (content : List α) : World π α := { world with
  files := Function.update world.files path (some (world.fileAt path, content))
  fresh := world.fresh + 1 }

/-- An operation of a thread, with the world and the thread after it. -/
def Thread.exec (world : World π α) (thread : Thread π α) (ending : End) :
    World π α × Thread π α :=
  match thread.prog, ending with
  | .stop, _ => (world, thread)
  | .create path next, .done => (world.put path [], { thread with
      prog := next true
      handles := Function.update thread.handles path (some (world.fileAt path)) })
  | .create _ next, _ => (world, { thread with prog := next false })
  | .write path content next, .done =>
    match thread.handles path, world.files path with
    | some handle, some (number, old) =>
      if handle = number then
        (world.put path (content ++ old.drop content.length), { thread with prog := next true })
      -- the open file is at the path no more
      else (world, { thread with prog := next true })
    | _, _ => (world, { thread with prog := next true })
  | .write _ _ next, _ => (world, { thread with prog := next false })
  | .read path _ next, .done => (world, { thread with prog := next (world.content path) })
  | .read _ _ next, _ => (world, { thread with prog := next none })
  | .copy source _ target next, .done =>
    match world.content source with
    | some content => (world.put target content, { thread with prog := next .done })
    | none => (world, { thread with prog := next .failed })
  | .copy _ _ _ next, ending => (world, { thread with prog := next ending })
  | .unlink path next, .done =>
    ({ world with files := Function.update world.files path none }, { thread with prog := next })
  | .unlink _ next, _ => (world, { thread with prog := next })
  | .process _ next, .done => (world, { thread with prog := next true })
  | .process _ next, _ => (world, { thread with prog := next false })

inductive Label (Call : Type)
  | start (thread : Nat) (call : Call)
  | exec (thread : Nat) (ending : End)

variable {Call : Type} (program : Call → Prog π α)

/-- Calls of a family in any order; a number is free again when its call has stopped. -/
def calls : System (World π α) (Label Call) where
  init world := world = {}
  step world
    | .start i call =>
      match (world.threads i).prog with
      | .stop => some { world with
          threads := Function.update world.threads i { prog := program call } }
      | _ => none
    | .exec i ending =>
      let after := (world.threads i).exec world ending
      some { after.1 with threads := Function.update world.threads i after.2 }

/-- What is to be found where a thread reads is there. -/
def Finds (world : World π α) : Prog π α → Prop
  | .read path content _ => world.content path = some content
  | .copy source content _ _ => world.content source = some content
  | .process files _ => ∀ file ∈ files, world.content file.1 = some file.2
  | _ => True

/-- A call reads a path before it puts another file there. -/
def Prog.Needs (path : π) : Prog π α → Prop
  | .stop => False
  | .create created next => (created ≠ path ∧ (next true).Needs path) ∨ (next false).Needs path
  | .write _ _ next => ∃ ok, (next ok).Needs path
  | .read source _ next => source = path ∨ ∃ found, (next found).Needs path
  | .copy source _ target next => source = path ∨ (target ≠ path ∧ (next .done).Needs path) ∨
      (next .failed).Needs path ∨ (next .unstarted).Needs path
  | .unlink removed next => removed ≠ path ∧ next.Needs path
  | .process files next => path ∈ files.map Prod.fst ∨ ∃ ok, (next ok).Needs path

/-- The path that the next operation changes. -/
def Prog.changes : Prog π α → Option π
  | .create path _ | .write path _ _ | .copy _ _ path _ | .unlink path _ => some path
  | .stop | .read _ _ _ | .process _ _ => none

/-- A step changes no path that another thread still reads. -/
def Undisturbed (world : World π α) : Label Call → Prop
  | .exec i .done => ∀ path ∈ (world.threads i).prog.changes, ∀ j, j ≠ i →
      ¬ (world.threads j).prog.Needs path
  | _ => True

/-! ### A call alone -/

/-- What a call knows of a path: the file is open and empty, or it has the content. -/
inductive Belief (α : Type)
  | opened
  | holds (content : List α)

/-- Nothing that a call reads is other than the call has left it, if no one else is there. -/
def Alone (own : π → Option (Belief α)) : Prog π α → Prop
  | .stop => True
  | .create path next =>
    Alone (Function.update own path (some .opened)) (next true) ∧ Alone own (next false)
  | .write path content next => own path = some .opened ∧
      Alone (Function.update own path (some (.holds content))) (next true) ∧ Alone own (next false)
  | .read path content next => own path = some (.holds content) ∧
      Alone own (next (some content)) ∧ Alone own (next none)
  | .copy source content target next => own source = some (.holds content) ∧
      Alone (Function.update own target (some (.holds content))) (next .done) ∧
      Alone own (next .failed) ∧ Alone own (next .unstarted)
  | .unlink path next => Alone (Function.update own path none) next
  | .process files next => (∀ file ∈ files, own file.1 = some (.holds file.2)) ∧
      ∀ ok, Alone own (next ok)

/-- A program that reads only what it has left itself, whatever is known before it. -/
structure SelfContained (prog : Prog π α) : Prop where
  alone : ∀ own, Alone own prog

theorem selfContained_stop : SelfContained (.stop : Prog π α) := ⟨fun _ => trivial⟩

/-- What a thread knows of a path is so. -/
def Agrees (files : π → Option (File α)) (handles : π → Option Nat)
    (own : π → Option (Belief α)) (path : π) : Prop :=
  match own path with
  | none => True
  | some .opened => ∃ number, files path = some (number, []) ∧ handles path = some number
  | some (.holds content) => ∃ number, files path = some (number, content)

/-- A thread that is alone on every path that it still reads. -/
def Sound (world : World π α) (thread : Thread π α) : Prop :=
  ∃ own, Alone own thread.prog ∧
    ∀ path, thread.prog.Needs path → Agrees world.files thread.handles own path

variable {own : π → Option (Belief α)} {other : π}

omit [DecidableEq π] in
theorem Agrees.content {world : World π α} {handles : π → Option Nat} {path : π} {content : List α}
    (agrees : Agrees world.files handles own path) (holds : own path = some (.holds content)) :
    world.content path = some content := by
  rw [Agrees, holds] at agrees
  obtain ⟨number, found⟩ := agrees
  rw [World.content, found, Option.map_some]

omit [DecidableEq π] in
theorem Agrees.congr {files files' : π → Option (File α)} {handles handles' : π → Option Nat}
    {own' : π → Option (Belief α)} {path : π} (agrees : Agrees files handles own path)
    (file : files' path = files path) (handle : handles' path = handles path)
    (belief : own' path = own path) : Agrees files' handles' own' path := by
  unfold Agrees at agrees ⊢
  rwa [file, handle, belief]

variable {world after : World π α}

theorem Sound.finds {thread : Thread π α} (sound : Sound world thread) :
    Finds world thread.prog := by
  obtain ⟨own, alone, agrees⟩ := sound
  cases prog : thread.prog with
  | stop => trivial
  | create => trivial
  | write => trivial
  | unlink => trivial
  | read path =>
    rw [prog] at alone agrees
    exact (agrees path (.inl rfl)).content alone.1
  | copy source =>
    rw [prog] at alone agrees
    exact (agrees source (.inl rfl)).content alone.1
  | process =>
    rw [prog] at alone agrees
    intro file member
    exact (agrees file.1 (.inl (List.mem_map_of_mem member))).content (alone.1 file member)

theorem sound_start (world : World π α) {prog : Prog π α} (contained : SelfContained prog) :
    Sound world { prog } :=
  ⟨fun _ => none, contained.alone _, fun _ _ => trivial⟩

/-- The files that a thread still reads are those of a sound thread as long as they stay. -/
theorem Sound.mono {world' : World π α} {thread : Thread π α} (sound : Sound world thread)
    (same : ∀ path, thread.prog.Needs path → world'.files path = world.files path) :
    Sound world' thread := by
  obtain ⟨own, alone, agrees⟩ := sound
  exact ⟨own, alone, fun path needs => (agrees path needs).congr (same path needs) rfl rfl⟩

theorem World.files_put_ne {world : World π α} {path : π} (content : List α) (ne : path ≠ other) :
    (world.put path content).files other = world.files other :=
  Function.update_of_ne ne.symm _ _

theorem World.files_put_self (world : World π α) (path : π) (content : List α) :
    (world.put path content).files path = some (world.fileAt path, content) :=
  Function.update_self _ _ _

theorem files_exec (world : World π α) (thread : Thread π α) (ending : End) (path : π)
    (other : ending = .done → thread.prog.changes ≠ some path) :
    (thread.exec world ending).1.files path = world.files path := by
  obtain ⟨prog, handles⟩ := thread
  cases ending with
  | failed => cases prog <;> rfl
  | unstarted => cases prog <;> rfl
  | done =>
    have other := other rfl
    cases prog with
    | stop => rfl
    | create =>
      exact World.files_put_ne [] fun same => other (congrArg some same)
    | write written =>
      have ne : written ≠ path := fun same => other (congrArg some same)
      simp only [Thread.exec]
      split
      · split
        · exact World.files_put_ne _ ne
        · rfl
      · rfl
    | read => rfl
    | copy source content target =>
      have ne : target ≠ path := fun same => other (congrArg some same)
      simp only [Thread.exec]
      split
      · exact World.files_put_ne _ ne
      · rfl
    | unlink removed =>
      have ne : removed ≠ path := fun same => other (congrArg some same)
      exact Function.update_of_ne ne.symm _ _
    | process => rfl

/-- What a thread knows stays so where an operation changes nothing and it learns nothing. -/
theorem agrees_put {world : World π α} {handles : π → Option Nat} {path : π} (content : List α)
    (belief : Option (Belief α)) (ne : path ≠ other)
    (agrees : Agrees world.files handles own other) :
    Agrees (world.put path content).files handles (Function.update own path belief) other :=
  agrees.congr (World.files_put_ne content ne) rfl (Function.update_of_ne ne.symm _ _)

theorem Sound.exec {world : World π α} {thread : Thread π α} (sound : Sound world thread)
    (ending : End) : Sound (thread.exec world ending).1 (thread.exec world ending).2 := by
  obtain ⟨prog, handles⟩ := thread
  obtain ⟨own, alone, agrees⟩ := sound
  simp only at alone agrees
  cases prog with
  | stop => exact ⟨own, alone, agrees⟩
  | create path =>
    obtain ⟨created, failed⟩ := alone
    cases ending with
    | done =>
      refine ⟨_, created, fun other needs => ?_⟩
      by_cases same : path = other
      · subst same
        simp only [Thread.exec, Agrees, Function.update_self]
        exact ⟨world.fileAt path, World.files_put_self world path [], rfl⟩
      · have known := agrees other (.inl ⟨same, needs⟩)
        exact known.congr (World.files_put_ne [] same) (Function.update_of_ne (Ne.symm same) _ _)
          (Function.update_of_ne (Ne.symm same) _ _)
    | failed => exact ⟨own, failed, fun other needs => agrees other (.inr needs)⟩
    | unstarted => exact ⟨own, failed, fun other needs => agrees other (.inr needs)⟩
  | write path content next =>
    obtain ⟨opened, written, failed⟩ := alone
    cases ending with
    | done =>
      have after : (Thread.exec world ⟨.write path content next, handles⟩ .done).2 =
          ⟨next true, handles⟩ := by
        simp only [Thread.exec]
        split
        · split
          · rfl
          · rfl
        · rfl
      rw [after]
      refine ⟨_, written, fun other needs => ?_⟩
      have known := agrees other ⟨true, needs⟩
      by_cases same : path = other
      · subst same
        rw [Agrees, opened] at known
        obtain ⟨number, found, open'⟩ := known
        simp only [Thread.exec, open', found, if_true, Agrees, Function.update_self]
        exact ⟨world.fileAt path, by simp [World.files_put_self]⟩
      · refine known.congr (files_exec world _ .done other fun _ changed => ?_) rfl
          (Function.update_of_ne (Ne.symm same) _ _)
        exact same (Option.some.inj changed)
    | failed => exact ⟨own, failed, fun other needs => agrees other ⟨false, needs⟩⟩
    | unstarted => exact ⟨own, failed, fun other needs => agrees other ⟨false, needs⟩⟩
  | read path =>
    obtain ⟨holds, found, failed⟩ := alone
    have read := (agrees path (.inl rfl)).content holds
    cases ending with
    | done =>
      simp only [Thread.exec, read]
      exact ⟨own, found, fun other needs => agrees other (.inr ⟨_, needs⟩)⟩
    | failed => exact ⟨own, failed, fun other needs => agrees other (.inr ⟨_, needs⟩)⟩
    | unstarted => exact ⟨own, failed, fun other needs => agrees other (.inr ⟨_, needs⟩)⟩
  | copy source content target =>
    obtain ⟨holds, copied, failed, unstarted⟩ := alone
    have read := (agrees source (.inl rfl)).content holds
    cases ending with
    | done =>
      simp only [Thread.exec, read]
      refine ⟨_, copied, fun other needs => ?_⟩
      by_cases same : target = other
      · subst same
        simp only [Agrees, Function.update_self]
        exact ⟨world.fileAt target, World.files_put_self world target content⟩
      · exact agrees_put content _ same (agrees other (.inr (.inl ⟨same, needs⟩)))
    | failed => exact ⟨own, failed, fun other needs => agrees other (.inr (.inr (.inl needs)))⟩
    | unstarted =>
      exact ⟨own, unstarted, fun other needs => agrees other (.inr (.inr (.inr needs)))⟩
  | unlink path next =>
    have after : (Thread.exec world ⟨.unlink path next, handles⟩ ending).2 = ⟨next, handles⟩ := by
      cases ending <;> rfl
    rw [after]
    refine ⟨_, alone, fun other needs => ?_⟩
    by_cases same : path = other
    · subst same
      simp [Agrees]
    · refine (agrees other ⟨same, needs⟩).congr
        (files_exec world _ ending other fun _ changed => ?_) rfl
        (Function.update_of_ne (Ne.symm same) _ _)
      exact same (Option.some.inj changed)
  | process =>
    cases ending with
    | done => exact ⟨own, alone.2 true, fun other needs => agrees other (.inr ⟨_, needs⟩)⟩
    | failed => exact ⟨own, alone.2 false, fun other needs => agrees other (.inr ⟨_, needs⟩)⟩
    | unstarted => exact ⟨own, alone.2 false, fun other needs => agrees other (.inr ⟨_, needs⟩)⟩

/-! ### Undisturbed runs -/

/-- A step that changes nothing that another thread reads leaves every thread sound. -/
theorem sound_step {program : Call → Prog π α} (contained : ∀ call, SelfContained (program call))
    {label : Label Call} (sound : ∀ i, Sound world (world.threads i))
    (undisturbed : Undisturbed world label) (taken : (calls program).step world label = some after)
    (i : Nat) : Sound after (after.threads i) := by
  cases label with
  | start j call =>
    simp only [calls] at taken
    split at taken
    · cases taken
      by_cases same : i = j
      · subst same
        simp only [Function.update_self]
        exact sound_start _ (contained call)
      · simp only [Function.update_of_ne same]
        exact (sound i).mono fun _ _ => rfl
    · cases taken
  | exec j ending =>
    simp only [calls, Option.some.injEq] at taken
    subst taken
    by_cases same : i = j
    · subst same
      simp only [Function.update_self]
      exact ((sound i).exec ending).mono fun _ _ => rfl
    · simp only [Function.update_of_ne same]
      refine (sound i).mono fun path needs => files_exec world _ ending path fun done changed => ?_
      subst done
      exact undisturbed path changed i same needs

/-- In every run in which no step changes a path that another call still reads, every call finds
what it reads. -/
theorem finds_of_undisturbed {program : Call → Prog π α}
    (contained : ∀ call, SelfContained (program call))
    (reached : ReachableWhen (calls program) Undisturbed world) (i : Nat) :
    Finds world (world.threads i).prog := by
  have sound : ∀ i, Sound world (world.threads i) := by
    refine reached.invariant (motive := fun world => ∀ i, Sound world (world.threads i)) ?_ ?_
    · rintro world rfl i
      exact sound_start _ selfContained_stop
    · exact fun _ _ _ _ sound undisturbed taken => sound_step contained sound undisturbed taken
  exact (sound i).finds

theorem content_of_copy {program : Call → Prog π α} {i : Nat} {source target : π} {content : List α}
    {next : End → Prog π α} (found : world.content source = some content)
    (copying : (world.threads i).prog = .copy source content target next)
    (taken : (calls program).step world (.exec i .done) = some after) :
    after.content target = some content := by
  simp only [calls, Thread.exec, copying, found, Option.some.injEq] at taken
  subst taken
  simp [World.content, World.files_put_self]

end UEnv.SharedFiles
