import Mathlib.Logic.Function.Basic

/-!
# Files and symbolic links

What stands at each place of a file system, and the operations of the system on it. An operation
may fail for reasons of its own, or because the environment makes it fail. The directories above a
place are taken to be there, and hard links do not occur.
-/

namespace UEnv.LinkedFiles

variable {π α : Type}

/-- What stands at a place. -/
inductive Node (π α : Type)
  | file (content : α)
  | dir
  | link (target : π)
  deriving DecidableEq

def Node.isDir : Node π α → Bool
  | dir => true
  | _ => false

def Node.isLink : Node π α → Bool
  | link _ => true
  | _ => false

abbrev Files (π α : Type) := π → Option (Node π α)

/-- `std::io::Error`. -/
structure IoError where
  notFound : Bool := false
  text : String
  deriving DecidableEq

def enoent : IoError := { notFound := true, text := "No such file or directory (os error 2)" }
def eexist : IoError := { text := "File exists (os error 17)" }
def enotdir : IoError := { text := "Not a directory (os error 20)" }
def eisdir : IoError := { text := "Is a directory (os error 21)" }
def einval : IoError := { text := "Invalid argument (os error 22)" }
def eloop : IoError := { text := "Too many levels of symbolic links (os error 40)" }

inductive Op (π α : Type)
  /-- `symlink_metadata`. -/
  | inspect (path : π)
  | readLink (path : π)
  | canonicalize (path : π)
  | createDir (path : π)
  /-- `create_dir_all`, with the directories from the root to the path. -/
  | createDirs (paths : List π)
  /-- `remove_dir` of an empty directory. -/
  | removeDir (path : π)
  | removeFile (path : π)
  | symlink (target path : π)
  /-- `std::fs::write`. -/
  | write (path : π) (content : α)
  /-- `rename` of what is not a directory. -/
  | rename (source target : π)

/-- What an operation returns. -/
@[reducible] def Op.Value : Op π α → Type
  | inspect _ => Node π α
  | readLink _ | canonicalize _ => π
  | _ => Unit

abbrev Op.Answer (o : Op π α) : Type := Except IoError o.Value

/-- What the environment does to an operation. A write may fail when it has written something. -/
inductive Fault (α : Type)
  | none
  | fails (e : IoError)
  | torn (content : α) (e : IoError)

/-- The place that a path leads to; forty links are followed. -/
def follow (files : Files π α) : Nat → π → Option π
  | 0, _ => none
  | n + 1, path =>
    match files path with
    | some (.link target) => follow files n target
    | _ => some path

def resolve (files : Files π α) (path : π) : Option π := follow files 41 path

/-- A directory, also through links. -/
def isDir (files : Files π α) (path : π) : Bool :=
  ((resolve files path).bind files).any Node.isDir

variable [DecidableEq π]

def put (files : Files π α) (path : π) (node : Node π α) : Files π α :=
  Function.update files path (some node)

def erase (files : Files π α) (path : π) : Files π α := Function.update files path none

/-- The directories that are not there are created. -/
def putDirs (files : Files π α) (paths : List π) : Files π α := fun path =>
  if path ∈ paths ∧ files path = none then some .dir else files path

namespace Op

/-- The operation when the environment leaves it alone. -/
def outcome (files : Files π α) : (o : Op π α) → Except IoError (o.Value × Files π α)
  | inspect path =>
    match files path with
    | some node => .ok (node, files)
    | none => .error enoent
  | readLink path =>
    match files path with
    | some (.link target) => .ok (target, files)
    | some _ => .error einval
    | none => .error enoent
  | canonicalize path =>
    match resolve files path with
    | some place => if (files place).isSome then .ok (place, files) else .error enoent
    | none => .error eloop
  | createDir path =>
    match files path with
    | some _ => .error eexist
    | none => .ok ((), put files path .dir)
  | createDirs paths =>
    if paths.all fun path => (files path).isNone || isDir files path then
      .ok ((), putDirs files paths)
    else .error eexist
  | removeDir path =>
    match files path with
    | some .dir => .ok ((), erase files path)
    | some _ => .error enotdir
    | none => .error enoent
  | removeFile path =>
    match files path with
    | some .dir => .error eisdir
    | some _ => .ok ((), erase files path)
    | none => .error enoent
  | symlink target path =>
    match files path with
    | some _ => .error eexist
    | none => .ok ((), put files path (.link target))
  | write path content =>
    match resolve files path with
    | some place =>
      if (files place).any Node.isDir then .error eisdir
      else .ok ((), put files place (.file content))
    | none => .error eloop
  | rename source target =>
    match files source with
    | none => .error enoent
    | some .dir => .error eisdir
    | some node =>
      if (files target).any Node.isDir then .error eisdir
      else .ok ((), put (erase files source) target node)

/-- The operation under a fault. -/
def exec (o : Op π α) (fault : Fault α) (files : Files π α) : o.Answer × Files π α :=
  match fault with
  | .none =>
    match o.outcome files with
    | .ok (value, after) => (.ok value, after)
    | .error e => (.error e, files)
  | .fails e => (.error e, files)
  | .torn content e =>
    match o with
    | .write path _ =>
      match (Op.write path content).outcome files with
      | .ok (_, after) => (.error e, after)
      | .error e => (.error e, files)
    | _ => (.error e, files)

end Op

@[simp] theorem put_self (files : Files π α) (path : π) (node : Node π α) :
    put files path node path = some node := Function.update_self ..

theorem put_other {path other : π} (different : other ≠ path) (files : Files π α)
    (node : Node π α) : put files path node other = files other :=
  Function.update_of_ne different ..

@[simp] theorem erase_self (files : Files π α) (path : π) : erase files path path = none :=
  Function.update_self ..

theorem erase_other {path other : π} (different : other ≠ path) (files : Files π α) :
    erase files path other = files other :=
  Function.update_of_ne different ..

/-! ### What an operation can do -/

namespace Op

variable (files : Files π α) (fault : Fault α)

theorem exec_cases {o : Op π α} (other : ∀ path content, o ≠ .write path content) :
    (∃ value after, o.outcome files = .ok (value, after) ∧
      o.exec fault files = (.ok value, after)) ∨
    ∃ e, o.exec fault files = (.error e, files) := by
  cases fault with
  | none =>
    cases done : o.outcome files with
    | ok result =>
      refine .inl ⟨result.1, result.2, rfl, ?_⟩
      simp only [exec, done]
    | error e =>
      refine .inr ⟨e, ?_⟩
      simp only [exec, done]
  | fails e => exact .inr ⟨e, rfl⟩
  | torn content e =>
    cases o with
    | write path old => exact absurd rfl (other path old)
    | _ => exact .inr ⟨e, rfl⟩

theorem exec_of_outcome {o : Op π α} {P : Prop} (other : ∀ path content, o ≠ .write path content)
    (done : ∀ value after, o.outcome files = .ok (value, after) →
      o.exec fault files = (.ok value, after) → P) :
    P ∨ ∃ e, o.exec fault files = (.error e, files) :=
  (exec_cases files fault other).imp_left fun ⟨value, after, ended, ran⟩ =>
    done value after ended ran

theorem exec_inspect (path : π) : (∃ node, files path = some node ∧
      (inspect path).exec fault files = (.ok node, files)) ∨
    ∃ e, (inspect path).exec fault files = (.error e, files) := by
  refine exec_of_outcome files fault (by simp) fun value after done ran => ?_
  simp only [outcome] at done
  split at done
  · next node found =>
    cases done
    exact ⟨_, found, ran⟩
  · cases done

theorem exec_readLink (path : π) : (∃ target, files path = some (.link target) ∧
      (readLink path).exec fault files = (.ok target, files)) ∨
    ∃ e, (readLink path).exec fault files = (.error e, files) := by
  refine exec_of_outcome files fault (by simp) fun value after done ran => ?_
  simp only [outcome] at done
  split at done
  · next target found =>
    cases done
    exact ⟨_, found, ran⟩
  · cases done
  · cases done

theorem exec_canonicalize (path : π) : (∃ place, resolve files path = some place ∧
      (canonicalize path).exec fault files = (.ok place, files)) ∨
    ∃ e, (canonicalize path).exec fault files = (.error e, files) := by
  refine exec_of_outcome files fault (by simp) fun value after done ran => ?_
  simp only [outcome] at done
  split at done
  · next place found =>
    split at done
    · cases done
      exact ⟨_, found, ran⟩
    · cases done
  · cases done

theorem exec_createDir (path : π) : (files path = none ∧
      (createDir path).exec fault files = (.ok (), put files path .dir)) ∨
    ∃ e, (createDir path).exec fault files = (.error e, files) := by
  refine exec_of_outcome files fault (by simp) fun value after done ran => ?_
  simp only [outcome] at done
  split at done
  · cases done
  · next absent =>
    cases done
    exact ⟨absent, ran⟩

theorem exec_createDirs (paths : List π) :
    (createDirs paths).exec fault files = (.ok (), putDirs files paths) ∨
    ∃ e, (createDirs paths).exec fault files = (.error e, files) := by
  refine exec_of_outcome files fault (by simp) fun value after done ran => ?_
  simp only [outcome] at done
  split at done
  · cases done
    exact ran
  · cases done

theorem exec_removeDir (path : π) : ((removeDir path).exec fault files).2 = erase files path ∨
    ((removeDir path).exec fault files).2 = files := by
  obtain ⟨value, after, done, ran⟩ | ⟨e, failed⟩ :=
    exec_cases files fault (o := .removeDir path) (by simp)
  · left
    simp only [outcome] at done
    split at done
    · cases done
      exact congrArg Prod.snd ran
    · cases done
    · cases done
  · exact .inr (congrArg Prod.snd failed)

theorem exec_removeFile (path : π) :
    (removeFile path).exec fault files = (.ok (), erase files path) ∨
    ∃ e, (removeFile path).exec fault files = (.error e, files) := by
  refine exec_of_outcome files fault (by simp) fun value after done ran => ?_
  simp only [outcome] at done
  split at done
  · cases done
  · cases done
    exact ran
  · cases done

theorem exec_symlink (target path : π) :
    (symlink target path).exec fault files = (.ok (), put files path (.link target)) ∨
    ∃ e, (symlink target path).exec fault files = (.error e, files) := by
  refine exec_of_outcome files fault (by simp) fun value after done ran => ?_
  simp only [outcome] at done
  split at done
  · cases done
  · cases done
    exact ran

theorem exec_rename (source target : π) :
    (∃ node, files source = some node ∧ (rename source target).exec fault files =
      (.ok (), put (erase files source) target node)) ∨
    ∃ e, (rename source target).exec fault files = (.error e, files) := by
  refine exec_of_outcome files fault (by simp) fun value after done ran => ?_
  simp only [outcome] at done
  split at done
  · cases done
  · cases done
  · next node _ found =>
    split at done
    · cases done
    · cases done
      exact ⟨node, found, ran⟩

/-- A write to a path where no link is; a write that fails may leave anything there. -/
theorem exec_write {path : π} (plain : (files path).any Node.isLink = false) (content : α) :
    (write path content).exec fault files = (.ok (), put files path (.file content)) ∨
    (∃ e, (write path content).exec fault files = (.error e, files)) ∨
    ∃ written e, (write path content).exec fault files =
      (.error e, put files path (.file written)) := by
  have stays : resolve files path = some path := by
    simp only [resolve, follow]
    split
    · next found =>
      rw [found] at plain
      cases plain
    · rfl
  have outcomes : ∀ c, (write path c).outcome files = .ok ((), put files path (.file c)) ∨
      ∃ e, (write path c).outcome files = .error e := by
    intro c
    simp only [outcome, stays]
    split
    · exact .inr ⟨_, rfl⟩
    · exact .inl rfl
  cases fault with
  | none =>
    obtain done | ⟨e, done⟩ := outcomes content
    · exact .inl (by simp only [exec, done])
    · exact .inr (.inl ⟨e, by simp only [exec, done]⟩)
  | fails e => exact .inr (.inl ⟨e, rfl⟩)
  | torn written e =>
    obtain done | ⟨e', done⟩ := outcomes written
    · exact .inr (.inr ⟨written, e, by simp only [exec, done]⟩)
    · exact .inr (.inl ⟨e', by simp only [exec, done]⟩)

end Op

end UEnv.LinkedFiles
