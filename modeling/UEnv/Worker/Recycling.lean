import UEnv.Lib.Git
import UEnv.Service.Request
import UEnv.Worker.InstancePool

/-!
# Provisioning and recycling a sandbox

`provision` and `reset_to_base` of `SweSession`, over the repository in the container. What `git
apply`, `patch` and the setup command of an instance do to the files is left to a parameter, and so
is what a name means to `git`, at the provision and at each recycle anew: agents move `HEAD`,
branches and tags.
-/

namespace UEnv.Worker

open Git Runs

/-! ### Instances -/

inductive PatchMode
  | none
  | applyDatasetPatch
  | reverseDatasetPatch
  deriving DecidableEq

/-- `InitialStateContract`, as far as the sandbox reads it. -/
structure InitialStateContract where
  provisionPatch : PatchMode := .none
  commitAfterProvision : Bool := false

/-- `BenchmarkRuntimeContract::for_variant`. -/
def InitialStateContract.forVariant : BenchmarkVariant → InitialStateContract
  | .smith => { provisionPatch := .applyDatasetPatch, commitAfterProvision := true }
  | .verified | .lite | .pro => {}

structure SweInstance where
  variant : BenchmarkVariant
  baseCommit : String := ""
  patch : String := ""
  setupCmd : Option String := none
  runtimeContract : Option InitialStateContract := none

/-- `runtime_contract`. -/
def SweInstance.initialState (inst : SweInstance) : InitialStateContract :=
  inst.runtimeContract.getD (.forVariant inst.variant)

/-- `trim().is_empty()`. -/
def isBlank (text : String) : Bool := (Service.trim text).isEmpty

/-- The programs in the container: `git rev-parse` of the names that it knows, `git apply`, `patch`
with its exit code, and a setup command. The flag says whether the patch is reversed. -/
structure Tools (κ : Type) where
  revParse : String → Option Nat
  gitApply : Bool → String → Files κ → Option (Files κ)
  patch : Bool → String → Files κ → Files κ × Nat
  shell : String → Checkout κ → Option (Checkout κ)

/-! ### Sessions -/

namespace SweSession

variable {κ : Type} [DecidableEq κ] (tools : Tools κ) (inst : SweInstance)

/-- `reset_script_keep_built`: a base commit that is blank stands for `HEAD`. -/
def resetScriptKeepBuilt (repo : Repository κ) : Option (Repository κ) :=
  if isBlank inst.baseCommit then some (repo.resetHard repo.head).clean
  else (tools.revParse inst.baseCommit).bind fun id =>
    (repo.commits[id]?).map fun base => (repo.resetHard base).clean

/-- `run_pro_setup_at_provision` (session.rs, 706-718). -/
def runProSetupAtProvision (repo : Repository κ) : Option (Repository κ) :=
  match inst.setupCmd.filter fun cmd => !isBlank cmd with
  | none => some repo
  | some cmd => (tools.shell cmd repo.toCheckout).map fun checkout =>
    { repo with toCheckout := checkout }

/-- `apply_patch_with_reverse`: where `git apply` fails, exit code 1 of `patch` is a success. -/
def applyPatchWithReverse (patch : String) (reverse : Bool) (work : Files κ) : Option (Files κ) :=
  if isBlank patch then some work
  else match tools.gitApply reverse patch work with
    | some patched => some patched
    | none =>
      let patched := tools.patch reverse patch work
      if patched.2 = 0 ∨ patched.2 = 1 then some patched.1 else none

/-- `apply_patch_mode` (session.rs, 741-747). -/
def applyPatchMode (mode : PatchMode) (patch : String) (work : Files κ) : Option (Files κ) :=
  match mode with
  | .none => some work
  | .applyDatasetPatch => applyPatchWithReverse tools patch false work
  | .reverseDatasetPatch => applyPatchWithReverse tools patch true work

/-- Whether the initial state ends in a commit of the baseline. -/
def commits : Bool := inst.initialState.commitAfterProvision && !isBlank inst.patch

/-- The patch of the initial state. -/
def baseline (work : Files κ) : Option (Files κ) :=
  applyPatchMode tools inst.initialState.provisionPatch inst.patch work

/-- `commit_baseline` (session.rs, 749-767). -/
def commitBaseline (repo : Repository κ) : Option (Repository κ) := repo.addAll.commit

/-- `apply_initial_state_contract` (session.rs, 720-730). -/
def applyInitialStateContract (repo : Repository κ) : Option (Repository κ) :=
  (baseline tools inst repo.work).bind fun work =>
    if commits inst then commitBaseline { repo with work } else some { repo with work }

/-- The state in which the patch of the initial state finds the repository. -/
def prepared (repo : Repository κ) : Option (Repository κ) :=
  (resetScriptKeepBuilt tools inst repo).bind (runProSetupAtProvision tools inst)

/-- `provision`, from the repository of the image. -/
def provision (image : Repository κ) : Option (Repository κ) :=
  (prepared tools inst image).bind (applyInitialStateContract tools inst)

def resetToBase (repo : Repository κ) : Option (Repository κ) :=
  (prepared tools inst repo).bind (applyInitialStateContract tools inst)

end SweSession

open SweSession

/-! ### Runs -/

/-- A recycle comes with what names and setup commands mean in the container as it is then. -/
inductive SweStep (κ : Type)
  | command (command : Command κ)
  | recycle (revParse : String → Option Nat) (shell : String → Checkout κ → Option (Checkout κ))

section Runs

variable {κ : Type} [DecidableEq κ] (tools : Tools κ) (inst : SweInstance) (image : Repository κ)

/-- A session from its provision on; a recycle that fails is its end. -/
def sweSession : System (Repository κ) (SweStep κ) where
  init repo := provision tools inst image = some repo
  step repo
    | .command command => some (command.run repo)
    | .recycle revParse shell => resetToBase { tools with revParse, shell } inst repo

/-- The trees are those right after provision. -/
structure IsFresh (first repo : Repository κ) : Prop where
  head : repo.head = first.head
  work : repo.work = first.work

/-- A recycle succeeds and gives a fresh sandbox. -/
def RecyclesFresh (first repo : Repository κ) : SweStep κ → Prop
  | .command _ => True
  | .recycle revParse shell =>
    ∃ after, resetToBase { tools with revParse, shell } inst repo = some after ∧ IsFresh first after

/-- The tree of the commit that the instance names, `HEAD` if it names none. -/
def baseTree (revParse : String → Option Nat) (repo : Repository κ) : Option (Files κ) :=
  if isBlank inst.baseCommit then some repo.head
  else (revParse inst.baseCommit).bind fun id => repo.commits[id]?

/-- What the setup command of the instance makes of a tree that is checked out. -/
def setUp (shell : String → Checkout κ → Option (Checkout κ)) (tree : Files κ) :
    Option (Checkout κ) :=
  match inst.setupCmd.filter fun cmd => !isBlank cmd with
  | none => some ⟨tree, tree, tree⟩
  | some cmd => shell cmd ⟨tree, tree, tree⟩

/-- The base commit names the tree that it named in the image, or one of which the setup command
makes the same `HEAD` and files. -/
def Resets (repo : Repository κ) : SweStep κ → Prop
  | .command _ => True
  | .recycle revParse shell => ∃ old new, baseTree inst tools.revParse image = some old ∧
    baseTree inst revParse repo = some new ∧
      ∃ before after, setUp inst tools.shell old = some before ∧ setUp inst shell new = some after ∧
        after.head = before.head ∧ after.work = before.work

end Runs

section Recycling

variable {κ : Type} [DecidableEq κ] {tools : Tools κ} {inst : SweInstance}
  {image repo : Repository κ}

variable {start after : Repository κ} {step : SweStep κ}

theorem applyInitialState_spec : applyInitialStateContract tools inst start = some after ↔
      ∃ work, baseline tools inst start.work = some work ∧
        if commits inst then work ≠ start.head ∧ after = { start with
          head := work, index := work, work := work, commits := start.commits ++ [work] }
        else after = { start with work } := by
  rw [applyInitialStateContract, Option.bind_eq_some_iff]
  refine exists_congr fun work => and_congr_right fun _ => ?_
  by_cases committed : commits inst = true
  · by_cases unchanged : work = start.head
    · simp [committed, unchanged, commitBaseline, Repository.addAll, Repository.commit]
    · simp [committed, unchanged, commitBaseline, Repository.addAll, Repository.commit, eq_comm]
  · simp [committed, eq_comm]

omit [DecidableEq κ] in
/-- The reset leaves nothing but a tree, from which the setup goes on. -/
theorem prepared_eq (tools : Tools κ) (inst : SweInstance) (repo : Repository κ) :
    prepared tools inst repo = (baseTree inst tools.revParse repo).bind fun tree =>
      (setUp inst tools.shell tree).map fun checkout => { repo with toCheckout := checkout } := by
  have set (tree : Files κ) : runProSetupAtProvision tools inst (repo.resetHard tree).clean =
      (setUp inst tools.shell tree).map fun checkout => { repo with toCheckout := checkout } := by
    rw [Repository.clean_resetHard]
    unfold runProSetupAtProvision setUp
    split <;> rfl
  unfold prepared resetScriptKeepBuilt baseTree
  split
  · exact set repo.head
  · cases tools.revParse inst.baseCommit with
    | none => rfl
    | some id =>
      rw [Option.bind_some, Option.bind_some]
      cases repo.commits[id]? with
      | none => rfl
      | some tree => exact set tree

omit [DecidableEq κ] in
theorem prepared_eq_some : prepared tools inst repo = some start ↔
    ∃ tree checkout, baseTree inst tools.revParse repo = some tree ∧
      setUp inst tools.shell tree = some checkout ∧
        { repo with toCheckout := checkout } = start := by
  rw [prepared_eq, Option.bind_eq_some_iff]
  refine exists_congr fun tree => ?_
  rw [Option.map_eq_some_iff]
  exact ⟨fun ⟨named, checkout, set⟩ => ⟨checkout, named, set⟩,
    fun ⟨checkout, named, set⟩ => ⟨named, checkout, set⟩⟩

/-- From the same `HEAD` and files the initial state comes out as at provision. -/
theorem fresh_of_resets {first : Repository κ}
    (provisioned : provision tools inst image = some first)
    (resets : Resets tools inst image repo step) : RecyclesFresh tools inst first repo step := by
  cases step with
  | command => trivial
  | recycle revParse shell =>
    obtain ⟨start, ready, applied⟩ := Option.bind_eq_some_iff.mp provisioned
    obtain ⟨tree, checkout, named, set, rfl⟩ := prepared_eq_some.mp ready
    obtain ⟨work, patched, made⟩ := applyInitialState_spec.mp applied
    obtain ⟨old, new, named', renamed, before, after, set', again, head, files⟩ := resets
    obtain rfl := Option.some.inj (named.symm.trans named')
    obtain rfl := Option.some.inj (set.symm.trans set')
    have ready' : prepared { tools with revParse, shell } inst repo =
        some { repo with toCheckout := after } :=
      prepared_eq_some.mpr ⟨new, after, renamed, again, rfl⟩
    have patched' : baseline tools inst after.work = some work := by
      rw [files]
      exact patched
    by_cases committed : commits inst = true
    · rw [if_pos committed] at made
      obtain ⟨changes, rfl⟩ := made
      refine ⟨_, Option.bind_eq_some_iff.mpr ⟨_, ready', applyInitialState_spec.mpr
        ⟨work, patched', (if_pos committed).mpr ⟨?_, rfl⟩⟩⟩, rfl, rfl⟩
      change work ≠ after.head
      rw [head]
      exact changes
    · rw [if_neg committed] at made
      subst made
      exact ⟨_, Option.bind_eq_some_iff.mpr ⟨_, ready', applyInitialState_spec.mpr
        ⟨work, patched', (if_neg committed).mpr rfl⟩⟩, head, rfl⟩

/-- Without a patch and a commit of the baseline a recycle that gives a fresh sandbox starts from
the same `HEAD` and files. -/
theorem resets_of_fresh {first : Repository κ}
    (provisioned : provision tools inst image = some first)
    (unpatched : inst.initialState.provisionPatch = .none) (uncommitted : ¬commits inst = true)
    (fresh : RecyclesFresh tools inst first repo step) : Resets tools inst image repo step := by
  cases step with
  | command => trivial
  | recycle =>
    have whole {tools : Tools κ} {start after : Repository κ}
        (applied : applyInitialStateContract tools inst start = some after) : after = start := by
      obtain ⟨work, patched, made⟩ := applyInitialState_spec.mp applied
      rw [baseline, unpatched] at patched
      cases patched
      rw [if_neg uncommitted] at made
      exact made
    obtain ⟨start, ready, applied⟩ := Option.bind_eq_some_iff.mp provisioned
    obtain ⟨old, before, named, set, rfl⟩ := prepared_eq_some.mp ready
    obtain rfl := whole applied
    obtain ⟨after, reset, head, files⟩ := fresh
    obtain ⟨start, ready, applied⟩ := Option.bind_eq_some_iff.mp reset
    obtain ⟨new, checkout, named', set', rfl⟩ := prepared_eq_some.mp ready
    obtain rfl := whole applied
    exact ⟨old, new, named, named', before, checkout, set, set', head, files⟩

omit [DecidableEq κ] in
theorem commits_prepared {new : Repository κ}
    (ready : prepared tools inst repo = some new) : new.commits = repo.commits := by
  obtain ⟨start, reset, set⟩ := Option.bind_eq_some_iff.mp ready
  have same : start.commits = repo.commits := by
    unfold resetScriptKeepBuilt at reset
    split at reset
    · cases reset
      rfl
    · obtain ⟨id, -, reset⟩ := Option.bind_eq_some_iff.mp reset
      obtain ⟨base, -, rfl⟩ := Option.map_eq_some_iff.mp reset
      rfl
  rw [← same]
  unfold runProSetupAtProvision at set
  split at set
  · cases set
    rfl
  · obtain ⟨checkout, -, rfl⟩ := Option.map_eq_some_iff.mp set
    rfl

theorem commits_prefix_resetToBase (reset : resetToBase tools inst repo = some after) :
    repo.commits <+: after.commits := by
  obtain ⟨new, ready, applied⟩ := Option.bind_eq_some_iff.mp reset
  obtain ⟨work, -, made⟩ := applyInitialState_spec.mp applied
  rw [← commits_prepared ready]
  split at made
  · obtain ⟨-, rfl⟩ := made
    exact List.prefix_append _ _
  · subst made
    exact List.prefix_rfl

/-- A name that still means the commit it meant in the image does so whatever the agent has done. -/
theorem resets_of_same {first : Repository κ}
    (provisioned : provision tools inst image = some first) (kept : image.commits <+: repo.commits)
    (named : isBlank inst.baseCommit = false) :
    Resets tools inst image repo (.recycle tools.revParse tools.shell) := by
  obtain ⟨start, ready, -⟩ := Option.bind_eq_some_iff.mp provisioned
  obtain ⟨old, before, known, set, -⟩ := prepared_eq_some.mp ready
  refine ⟨old, old, known, ?_, before, before, set, set, rfl, rfl⟩
  rw [baseTree, named, if_neg Bool.false_ne_true] at known ⊢
  obtain ⟨id, parsed, found⟩ := Option.bind_eq_some_iff.mp known
  rw [parsed, Option.bind_some]
  obtain ⟨later, split⟩ := kept
  rw [← split, List.getElem?_append_left (List.getElem?_eq_some_iff.mp found).1, found]

/-- Along every run of agent commands and recycles, each recycle succeeds and gives the trees right
after provision as long as the base commit names the tree that it named in the image, or the setup
makes up for the difference; and without a patched or committed baseline only then. -/
theorem along_recyclesFresh (tools : Tools κ) (inst : SweInstance)
    (image first : Repository κ) (provisioned : provision tools inst image = some first)
    (steps : List (SweStep κ)) :
    ((sweSession tools inst image).Along (Resets tools inst image) first steps →
      (sweSession tools inst image).Along (RecyclesFresh tools inst first) first steps) ∧
    (inst.initialState.provisionPatch = .none → commits inst = false →
      (sweSession tools inst image).Along (RecyclesFresh tools inst first) first steps →
        (sweSession tools inst image).Along (Resets tools inst image) first steps) := by
  constructor
  · exact System.Along.mono (fun _ _ => fresh_of_resets provisioned) steps
  · intro unpatched uncommitted
    refine System.Along.mono (fun _ _ => resets_of_fresh provisioned unpatched ?_) steps
    rw [uncommitted]
    exact Bool.false_ne_true

end Recycling

/-! ### A baseline that is committed -/

/-- The patch of an instance makes a file; where the file is, `patch` skips it with exit code 1. -/
def newFileTools : Tools Nat where
  revParse _ := some 0
  gitApply _ _ work := if "bug.py" ∈ work then none else some (work.insert "bug.py" 1)
  patch _ _ work := (work, 1)
  shell _ checkout := some checkout

def emptyImage : Repository Nat := { head := ∅, index := ∅, work := ∅, commits := [∅] }

def provisioned : Repository Nat :=
  let work := (∅ : Files Nat).insert "bug.py" 1
  { head := work, index := work, work := work, commits := [∅, work] }

def smithInstance (baseCommit : String) : SweInstance :=
  { variant := .smith, baseCommit, patch := "+++ b/bug.py" }

section Smith

variable (baseCommit : String)

theorem commits_smith : commits (smithInstance baseCommit) = true := by
  have blank : isBlank "+++ b/bug.py" = false := by decide +kernel
  simp [commits, smithInstance, SweInstance.initialState, InitialStateContract.forVariant, blank]

theorem baseline_smith (work : Files Nat) : baseline newFileTools (smithInstance baseCommit) work =
    some (if "bug.py" ∈ work then work else work.insert "bug.py" 1) := by
  have blank : isBlank "+++ b/bug.py" = false := by decide +kernel
  by_cases held : "bug.py" ∈ work
  · simp [baseline, smithInstance, SweInstance.initialState, InitialStateContract.forVariant,
      applyPatchMode, applyPatchWithReverse, newFileTools, blank, held]
  · simp [baseline, smithInstance, SweInstance.initialState, InitialStateContract.forVariant,
      applyPatchMode, applyPatchWithReverse, newFileTools, blank, held]

theorem provision_smith :
    provision newFileTools (smithInstance baseCommit) emptyImage = some provisioned := by
  have ready : prepared newFileTools (smithInstance baseCommit) emptyImage = some emptyImage := by
    have reset : resetScriptKeepBuilt newFileTools (smithInstance baseCommit) emptyImage =
        some (emptyImage.resetHard ∅).clean := by
      unfold resetScriptKeepBuilt
      split
      · rfl
      · rfl
    rw [prepared, reset, Repository.clean_resetHard]
    rfl
  have changes : provisioned.work ≠ emptyImage.head := by
    intro same
    have held := congrArg (fun tree => tree["bug.py"]?) same
    simp [provisioned, emptyImage] at held
  rw [provision, ready, Option.bind_some, applyInitialState_spec]
  refine ⟨provisioned.work, ?_, ?_⟩
  · simp [baseline_smith, emptyImage, provisioned]
  · rw [if_pos (commits_smith baseCommit)]
    exact ⟨changes, rfl⟩

end Smith

/-- The steps of an agent that commits its changes, and two recycles. -/
def recycledTwice : List (SweStep Nat) :=
  [.command (.write "bug.py" 2), .command .addAll, .command .commit,
    .recycle newFileTools.revParse newFileTools.shell,
    .recycle newFileTools.revParse newFileTools.shell]

theorem along_recyclesFresh_smith :
    (sweSession newFileTools (smithInstance "3f2a") emptyImage).Along
      (RecyclesFresh newFileTools (smithInstance "3f2a") provisioned) provisioned
        recycledTwice := by
  refine (along_recyclesFresh _ _ emptyImage _ (provision_smith "3f2a") _).1 ?_
  have named : isBlank "3f2a" = false := by decide +kernel
  have kept : emptyImage.commits <+: provisioned.commits := ⟨[_], rfl⟩
  refine ⟨trivial, fun _ wrote => ⟨trivial, fun _ added => ⟨trivial, fun s made => ?_⟩⟩⟩
  have kept : emptyImage.commits <+: s.commits := by
    cases wrote
    cases added
    cases made
    have later := Command.commits_prefix
      (Command.run (Command.run provisioned (.write "bug.py" 2)) .addAll) .commit
    exact kept.trans later
  refine ⟨resets_of_same (provision_smith _) kept named, fun t reset => ⟨?_, fun _ _ => trivial⟩⟩
  have ran : resetToBase newFileTools (smithInstance "3f2a") s = some t := reset
  exact resets_of_same (provision_smith _) (kept.trans (commits_prefix_resetToBase ran)) named

/-- Where the base commit is blank, the baseline is in `HEAD` when it is to be committed again. -/
theorem recycle_fails_on_baseline :
    provision newFileTools (smithInstance "") emptyImage = some provisioned ∧
      resetToBase newFileTools (smithInstance "") provisioned = none ∧
      ¬ (sweSession newFileTools (smithInstance "") emptyImage).Along
        (RecyclesFresh newFileTools (smithInstance "") provisioned) provisioned
        [.recycle newFileTools.revParse newFileTools.shell] := by
  have fails : resetToBase newFileTools (smithInstance "") provisioned = none := by
    have blank : isBlank "" = true := by decide +kernel
    have reset : resetScriptKeepBuilt newFileTools (smithInstance "") provisioned =
        some provisioned := by
      simp [resetScriptKeepBuilt, smithInstance, blank, Repository.clean_resetHard, provisioned]
    have ready : prepared newFileTools (smithInstance "") provisioned = some provisioned := by
      rw [prepared, reset]
      rfl
    rw [resetToBase, ready, Option.bind_some, applyInitialStateContract, baseline_smith,
      Option.bind_some, if_pos (commits_smith "")]
    simp [provisioned, commitBaseline, Repository.addAll, Repository.commit]
  refine ⟨provision_smith "", fails, ?_⟩
  rintro ⟨⟨after, reset, -⟩, -⟩
  rw [fails] at reset
  cases reset

end UEnv.Worker
