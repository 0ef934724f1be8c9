import UEnv.Lib.Tables

/-!
# A repository with an index and a work tree

Commits as trees of files, the tree of `HEAD`, the index and the work tree, and the commands of git
that change them. Files that are ignored and the parents of a commit are left out.
-/

namespace UEnv.Git

open Tables

/-- Files by path. -/
abbrev Files (κ : Type) := Map String κ

/-- What is checked out: the tree of `HEAD`, the index and the files. -/
structure Checkout (κ : Type) where
  head : Files κ
  index : Files κ
  work : Files κ

structure Repository (κ : Type) extends Checkout κ where
  commits : List (Files κ)

variable {κ : Type}

/-- The files of one tree at the given paths, and of another elsewhere. -/
def switch (changed : String → Bool) (old new : Files κ) : Files κ :=
  (old.filter fun path _ => !changed path) ∪ new.filter fun path _ => changed path

@[simp]
theorem lookup_switch (changed : String → Bool) (old new : Files κ) (path : String) :
    (switch changed old new)[path]? = if changed path then new[path]? else old[path]? := by
  rw [switch, Std.ExtTreeMap.getElem?_union, lookup_filter, lookup_filter]
  by_cases here : changed path = true
  · cases entry : new[path]? <;> simp [here]
  · cases entry : old[path]? <;> simp [here]

namespace Repository

variable (repo : Repository κ)

/-- `git reset --hard`: the files of the index give way to those of the tree. -/
def resetHard (target : Files κ) : Repository κ := { repo with
  head := target
  index := target
  work := switch (fun path => path ∈ repo.index || path ∈ target) repo.work target }

/-- `git clean -fd`. -/
def clean : Repository κ := { repo with
  work := repo.work.filter fun path _ => path ∈ repo.index }

/-- After `git reset --hard` and `git clean` the files are those of the tree. -/
theorem clean_resetHard (target : Files κ) : (repo.resetHard target).clean =
    { commits := repo.commits, head := target, index := target, work := target } := by
  have work : (repo.resetHard target).clean.work = target := by
    ext path content
    rw [clean, resetHard, lookup_filter, lookup_switch]
    by_cases held : path ∈ target
    · cases entry : target[path]? <;> simp [held]
    · by_cases tracked : path ∈ repo.index <;> simp [held, tracked]
  simpa [clean, resetHard] using work

/-- `git add`. -/
def add (path : String) : Repository κ := { repo with
  index := switch (· = path) repo.index repo.work }

def addAll : Repository κ := { repo with index := repo.work }

variable [DecidableEq κ]

/-- `git commit`; without a change there is nothing to commit. -/
def commit : Option (Repository κ) :=
  if repo.index = repo.head then none
  else some { repo with commits := repo.commits ++ [repo.index], head := repo.index }

/-- The paths that a change of `HEAD` to a tree rewrites. -/
def rewritten (target : Files κ) (path : String) : Bool :=
  repo.head[path]? ≠ target[path]? && repo.index[path]? ≠ target[path]?

/-- `git checkout` of a commit: local changes are kept, and refuse it when they are in the way. -/
def checkout (target : Files κ) : Option (Repository κ) :=
  if (repo.head ∪ target).keys.all fun path => !repo.rewritten target path ||
      (repo.index[path]? = repo.head[path]? && repo.work[path]? = repo.head[path]?) then
    some { repo with
      head := target
      index := switch (fun path => repo.head[path]? ≠ target[path]?) repo.index target
      work := switch (repo.rewritten target) repo.work target }
  else none

/-- `git checkout` of one path of a tree, which refuses a path that the tree has not. -/
def restore (source : Files κ) (path : String) : Option (Repository κ) :=
  (source[path]?).map fun content => { repo with
    index := repo.index.insert path content
    work := repo.work.insert path content }

end Repository

variable [DecidableEq κ]

/-- What is done in a work tree. -/
inductive Command (κ : Type)
  | write (path : String) (content : κ)
  | delete (path : String)
  | add (path : String)
  | addAll
  | commit
  | checkout (commit : Nat)
  -- `git checkout -- path`, and the same from a commit
  | restore (path : String)
  | restoreFrom (commit : Nat) (path : String)

/-- A refused command changes nothing. -/
def Command.run (repo : Repository κ) : Command κ → Repository κ
  | write path content => { repo with work := repo.work.insert path content }
  | delete path => { repo with work := repo.work.erase path }
  | add path => repo.add path
  | addAll => repo.addAll
  | commit => repo.commit.getD repo
  | checkout id => ((repo.commits[id]?).bind repo.checkout).getD repo
  | restore path => (repo.restore repo.index path).getD repo
  | restoreFrom id path => ((repo.commits[id]?).bind (repo.restore · path)).getD repo

def Command.runAll (repo : Repository κ) (commands : List (Command κ)) : Repository κ :=
  commands.foldl run repo

theorem Command.commits_prefix (repo : Repository κ) (command : Command κ) :
    repo.commits <+: (command.run repo).commits := by
  cases command with
  | write => exact List.prefix_rfl
  | delete => exact List.prefix_rfl
  | add => exact List.prefix_rfl
  | addAll => exact List.prefix_rfl
  | commit =>
    simp only [run, Repository.commit]
    split
    · exact List.prefix_rfl
    · exact List.prefix_append _ _
  | checkout id =>
    simp only [run]
    cases repo.commits[id]? with
    | none => exact List.prefix_rfl
    | some =>
      simp only [Option.bind_some, Repository.checkout]
      split
      · exact List.prefix_rfl
      · exact List.prefix_rfl
  | restore path =>
    simp only [run, Repository.restore]
    cases repo.index[path]? with
    | none => exact List.prefix_rfl
    | some => exact List.prefix_rfl
  | restoreFrom id path =>
    simp only [run]
    cases repo.commits[id]? with
    | none => exact List.prefix_rfl
    | some source =>
      simp only [Option.bind_some, Repository.restore]
      cases source[path]? with
      | none => exact List.prefix_rfl
      | some => exact List.prefix_rfl

/-! ### Differences -/

/-- A file of a difference, and whether the text of the difference holds its content: that of a
binary file is left out. -/
structure Change (κ : Type) where
  path : String
  old : κ
  new : Option κ
  carried : Bool

/-- `git diff`: the files of the index that are not in the work tree as they are in the index. -/
def Repository.diff (text : κ → Bool) (repo : Repository κ) : List (Change κ) :=
  repo.index.toList.filterMap fun (path, old) =>
    if repo.work[path]? = some old then none
    else
      let new := repo.work[path]?
      some { path, old, new, carried := text old && new.all text }

/-- `git apply`, which needs the old content of every file and changes all of them or none. -/
def apply (changes : List (Change κ)) (tree : Files κ) : Option (Files κ) :=
  if changes.all fun change => change.carried && tree[change.path]? = some change.old then
    some (changes.foldl (fun tree change =>
      match change.new with
      | some content => tree.insert change.path content
      | none => tree.erase change.path) tree)
  else none

omit [DecidableEq κ] in
theorem lookup_foldl_changes (work : Files κ) {changes : List (Change κ)}
    (new : ∀ change ∈ changes, change.new = work[change.path]?) (tree : Files κ) (path : String) :
    (changes.foldl (fun tree change =>
      match change.new with
      | some content => tree.insert change.path content
      | none => tree.erase change.path) tree)[path]? =
      if path ∈ changes.map Change.path then work[path]? else tree[path]? := by
  induction changes generalizing tree with
  | nil => simp
  | cons change rest ih =>
    rw [List.foldl_cons, ih fun other member => new other (List.mem_cons_of_mem _ member)]
    have here := new change List.mem_cons_self
    by_cases later : path ∈ rest.map Change.path
    · simp [later]
    · by_cases same : change.path = path
      · subst same
        cases content : change.new with
        | none => simp_all
        | some => simp_all
      · cases content : change.new with
        | none => simp_all [Ne.symm same]
        | some => simp_all [Ne.symm same]

variable {text : κ → Bool} {repo : Repository κ} {command : Command κ} {tree : Files κ}

theorem mem_diff {change : Change κ} :
    change ∈ repo.diff text ↔ ∃ path old, repo.index[path]? = some old ∧
      repo.work[path]? ≠ some old ∧ change =
        ⟨path, old, repo.work[path]?, text old && (repo.work[path]?).all text⟩ := by
  simp only [Repository.diff, List.mem_filterMap, Prod.exists]
  constructor
  · rintro ⟨path, old, tracked, kept⟩
    split at kept
    · cases kept
    · rename_i changed
      exact ⟨path, old, Std.ExtTreeMap.mem_toList_iff_getElem?_eq_some.mp tracked, changed,
        (Option.some.inj kept).symm⟩
  · rintro ⟨path, old, tracked, changed, rfl⟩
    exact ⟨path, old, Std.ExtTreeMap.mem_toList_iff_getElem?_eq_some.mpr tracked, by simp [changed]⟩

theorem diff_eq_nil (text : κ → Bool)
    (kept : ∀ (path : String) (old : κ), repo.index[path]? = some old →
      repo.work[path]? = some old) : repo.diff text = [] := by
  refine List.eq_nil_iff_forall_not_mem.mpr fun change member => ?_
  obtain ⟨path, old, tracked, changed, -⟩ := mem_diff.mp member
  exact changed (kept path old tracked)

/-- What `git diff` tells of a path takes another tree's file to that of the work tree: a file of
the index is there as in the index, with a content that the text holds if it has changed, and any
other path is as in the work tree. -/
def Repository.Carries (text : κ → Bool) (repo : Repository κ) (tree : Files κ) (path : String) :
    Prop :=
  match repo.index[path]? with
  | some old => tree[path]? = some old ∧
    (repo.work[path]? = some old ∨ text old = true ∧ (repo.work[path]?).all text = true)
  | none => tree[path]? = repo.work[path]?

omit [DecidableEq κ] in
theorem Repository.carries_work (text : κ → Bool) (same : repo.work = repo.index) (path : String) :
    repo.Carries text repo.work path := by
  unfold Carries
  cases tracked : repo.index[path]? with
  | none => rfl
  | some =>
    rw [same, tracked]
    exact ⟨rfl, .inl rfl⟩

/-- Applying the difference to a tree gives the work tree exactly if every path is carried. -/
theorem apply_diff_iff (text : κ → Bool) (repo : Repository κ) (tree : Files κ) :
    apply (repo.diff text) tree = some repo.work ↔ ∀ path, repo.Carries text tree path := by
  have new : ∀ change ∈ repo.diff text, change.new = repo.work[change.path]? := by
    intro change member
    obtain ⟨path, old, -, -, rfl⟩ := mem_diff.mp member
    rfl
  have listed : ∀ path, path ∈ (repo.diff text).map Change.path ↔
      ∃ old, repo.index[path]? = some old ∧ repo.work[path]? ≠ some old := by
    intro path
    rw [List.mem_map]
    constructor
    · rintro ⟨change, member, rfl⟩
      obtain ⟨path, old, tracked, changed, rfl⟩ := mem_diff.mp member
      exact ⟨old, tracked, changed⟩
    · rintro ⟨old, tracked, changed⟩
      exact ⟨_, mem_diff.mpr ⟨path, old, tracked, changed, rfl⟩, rfl⟩
  have applies : ((repo.diff text).all fun change =>
      change.carried && tree[change.path]? = some change.old) = true ↔
      ∀ (path : String) (old : κ), repo.index[path]? = some old → repo.work[path]? ≠ some old →
        (text old = true ∧ (repo.work[path]?).all text = true) ∧ tree[path]? = some old := by
    simp only [List.all_eq_true, mem_diff]
    constructor
    · intro all path old tracked changed
      simpa using all _ ⟨path, old, tracked, changed, rfl⟩
    · rintro all change ⟨path, old, tracked, changed, rfl⟩
      simpa using all path old tracked changed
  unfold apply
  split
  · rename_i all
    have all := applies.mp all
    rw [Option.some_inj]
    constructor
    · intro same path
      have here := lookup_foldl_changes repo.work new tree path
      rw [same] at here
      unfold Repository.Carries
      cases tracked : repo.index[path]? with
      | none =>
        have unlisted : path ∉ (repo.diff text).map Change.path := by simp [listed, tracked]
        simpa [unlisted] using here.symm
      | some old =>
        by_cases changed : repo.work[path]? = some old
        · have unlisted : path ∉ (repo.diff text).map Change.path := by
            simp [listed, tracked, changed]
          rw [if_neg unlisted] at here
          exact ⟨here.symm.trans changed, .inl changed⟩
        · exact ⟨(all path old tracked changed).2, .inr (all path old tracked changed).1⟩
    · intro carries
      ext path content
      rw [lookup_foldl_changes repo.work new tree path]
      split
      · exact Iff.rfl
      · rename_i unlisted
        have carries := carries path
        unfold Repository.Carries at carries
        cases tracked : repo.index[path]? with
        | none =>
          rw [tracked] at carries
          rw [carries]
        | some old =>
          rw [tracked] at carries
          have changed : repo.work[path]? = some old := by simpa [listed, tracked] using unlisted
          rw [changed, carries.1]
  · rename_i fails
    refine iff_of_false (by simp) fun carries => fails (applies.mpr ?_)
    intro path old tracked changed
    have carries := carries path
    unfold Repository.Carries at carries
    rw [tracked] at carries
    exact ⟨carries.2.resolve_left changed, carries.1⟩

/-- A change of the files that `git diff` shows: the path is in the index, and the contents are
text. -/
def Command.Shown (text : κ → Bool) (repo : Repository κ) : Command κ → Prop
  | write path content => text content = true ∧ ∃ old ∈ repo.index[path]?, text old = true
  | delete path => ∃ old ∈ repo.index[path]?, text old = true
  | restore _ => True
  | add _ | addAll | commit | checkout _ | restoreFrom _ _ => False

theorem Command.Shown.index_run (shown : command.Shown text repo) :
    (command.run repo).index = repo.index := by
  cases command with
  | write => rfl
  | delete => rfl
  | restore path =>
    simp only [run, Repository.restore]
    cases entry : repo.index[path]? with
    | none => rfl
    | some content =>
      ext other value
      simp only [Option.map_some, Option.getD_some, lookup_insert]
      split
      · rename_i same
        rw [← same, entry]
      · exact Iff.rfl
  | add => exact shown.elim
  | addAll => exact shown.elim
  | commit => exact shown.elim
  | checkout id => exact shown.elim
  | restoreFrom => exact shown.elim

theorem Command.Shown.carries (shown : command.Shown text repo)
    (before : ∀ path, repo.Carries text tree path) (path : String) :
    (command.run repo).Carries text tree path := by
  have before := before path
  unfold Repository.Carries at before ⊢
  rw [shown.index_run]
  cases command with
  | write other =>
    obtain ⟨new, old, tracked, was⟩ := shown
    by_cases same : other = path
    · subst same
      rw [Option.mem_def.mp tracked] at before ⊢
      exact ⟨before.1, .inr ⟨was, by simpa [run] using new⟩⟩
    · simpa [run, lookup_insert, same] using before
  | delete other =>
    obtain ⟨old, tracked, was⟩ := shown
    by_cases same : other = path
    · subst same
      rw [Option.mem_def.mp tracked] at before ⊢
      exact ⟨before.1, .inr ⟨was, by simp [run]⟩⟩
    · simpa [run, lookup_erase, same] using before
  | restore other =>
    simp only [run, Repository.restore]
    cases tracked : repo.index[other]? with
    | none => simpa using before
    | some =>
      by_cases same : other = path
      · subst same
        rw [tracked] at before ⊢
        exact ⟨before.1, .inl (by simp)⟩
      · simpa [lookup_insert, same] using before
  | add => exact shown.elim
  | addAll => exact shown.elim
  | commit => exact shown.elim
  | checkout id => exact shown.elim
  | restoreFrom => exact shown.elim

omit [DecidableEq κ] in
theorem Command.shown_congr {after : Repository κ} (same : after.index = repo.index)
    (command : Command κ) : command.Shown text after ↔ command.Shown text repo := by
  cases command <;> simp [Shown, same]

theorem carries_runAll {commands : List (Command κ)} (repo : Repository κ)
    (shown : ∀ command ∈ commands, command.Shown text repo)
    (before : ∀ path, repo.Carries text tree path) (path : String) :
    (Command.runAll repo commands).Carries text tree path := by
  induction commands generalizing repo with
  | nil => exact before path
  | cons command rest ih =>
    have here := shown command List.mem_cons_self
    refine ih (command.run repo) (fun other member => ?_) (here.carries before)
    rw [Command.shown_congr here.index_run]
    exact shown other (List.mem_cons_of_mem _ member)

end UEnv.Git
