import UEnv.Lib.Hunks
import UEnv.Worker.Evaluation

/-!
# Patched trees

What `apply_patch` and `apply_patch_reverse` leave in the work tree, hunk by hunk, and with it the
baseline that a sandbox is handed out with and the tree on which an evaluation runs its tests.
-/

namespace UEnv.Worker.PatchedTrees

open Git Hunks Lockstep SweSession

/-! ### Hunks of a patch -/

/-- The hunks of patches. In place means present, or absent where the patch is reversed. -/
structure Patches (η κ : Type) where
  hunks : String → List η
  placed : Bool → η → Files κ → Prop
  /-- What `patch` rejects and does not find in place. -/
  rejected : Bool → String → Files κ → η → Prop
  /-- What `patch --batch --reverse` applies forward in a run without trouble, as it does with the
  hunks of a file whose first hunk looks unreversed; only `--forward` keeps it in its direction. -/
  turned : String → Files κ → η → Prop

namespace Patches

variable {η κ : Type} (patches : Patches η κ) (tools : Tools κ)

/-- Every hunk is in place. -/
def InPlace (reverse : Bool) (patch : String) (work : Files κ) : Prop :=
  ∀ hunk ∈ patches.hunks patch, patches.placed reverse hunk work

/-- `git apply` takes a patch as a whole. `patch` exits with 0 or 1 after it has applied, found or
rejected each hunk, with 1 if one was rejected; in the reverse direction it may also have turned a
hunk. -/
structure Describes : Prop where
  blank : ∀ {patch}, isBlank patch = true → patches.hunks patch = []
  gitApply : ∀ {reverse patch work after}, tools.gitApply reverse patch work = some after →
    patches.InPlace reverse patch after
  handled : ∀ {reverse patch work},
    (tools.patch reverse patch work).2 = 0 ∨ (tools.patch reverse patch work).2 = 1 →
    ∀ hunk ∈ patches.hunks patch, ¬ patches.rejected reverse patch work hunk →
      ¬ (reverse = true ∧ patches.turned patch work hunk) →
        patches.placed reverse hunk (tools.patch reverse patch work).1
  rejects : ∀ {reverse patch work hunk}, hunk ∈ patches.hunks patch →
    patches.rejected reverse patch work hunk →
      (tools.patch reverse patch work).2 = 1 ∧
        ¬ patches.placed reverse hunk (tools.patch reverse patch work).1
  turns : ∀ {patch work hunk}, hunk ∈ patches.hunks patch → patches.turned patch work hunk →
    ((tools.patch true patch work).2 = 0 ∨ (tools.patch true patch work).2 = 1) ∧
      ¬ patches.placed true hunk (tools.patch true patch work).1

/-- The patch meets no conflict: `git apply` takes it, or `patch` rejects nothing of it, and turns
nothing. -/
def Meets (reverse : Bool) (patch : String) (work : Files κ) : Prop :=
  isBlank patch = true ∨ (tools.gitApply reverse patch work).isSome ∨
    ∀ hunk ∈ patches.hunks patch, ¬ patches.rejected reverse patch work hunk ∧
      ¬ (reverse = true ∧ patches.turned patch work hunk)

/-- The direction in which a mode applies a patch. -/
def InMode (mode : PatchMode) (prop : Bool → Prop) : Prop :=
  match mode with
  | .none => True
  | .applyDatasetPatch => prop false
  | .reverseDatasetPatch => prop true

end Patches

open Patches

section Trees

variable {η κ : Type} {patches : Patches η κ} {tools : Tools κ}

theorem applied_inPlace_iff (described : patches.Describes tools) (reverse : Bool) (patch : String)
    (work : Files κ) :
    (∀ after, applyPatchWithReverse tools patch reverse work = some after →
        patches.InPlace reverse patch after) ↔ patches.Meets tools reverse patch work := by
  unfold applyPatchWithReverse Meets
  by_cases blank : isBlank patch = true
  · refine iff_of_true (fun after _ hunk here => ?_) (.inl blank)
    rw [described.blank blank] at here
    exact absurd here List.not_mem_nil
  rw [if_neg blank]
  cases taken : tools.gitApply reverse patch work with
  | some =>
    refine iff_of_true (fun after' same => ?_) (.inr (.inl rfl))
    cases same
    exact described.gitApply taken
  | none =>
    dsimp only
    constructor
    · intro inPlace
      refine .inr (.inr fun hunk here => ⟨fun rejected => ?_, ?_⟩)
      · obtain ⟨exitOne, missing⟩ := described.rejects here rejected
        exact missing (inPlace _ (if_pos (.inr exitOne)) hunk here)
      · rintro ⟨rfl, turned⟩
        obtain ⟨exits, present⟩ := described.turns here turned
        exact present (inPlace _ (if_pos exits) hunk here)
    · rintro (impossible | impossible | clean) after accepted
      · exact absurd impossible blank
      · cases impossible
      · split at accepted
        · rename_i exits
          cases accepted
          exact fun hunk here =>
            described.handled exits hunk here (clean hunk here).1 (clean hunk here).2
        · cases accepted

theorem mode_inPlace_iff (described : patches.Describes tools) (mode : PatchMode) (patch : String)
    (work : Files κ) :
    (∀ after, applyPatchMode tools mode patch work = some after →
        InMode mode fun reverse => patches.InPlace reverse patch after) ↔
      InMode mode fun reverse => patches.Meets tools reverse patch work := by
  cases mode with
  | none => exact iff_of_true (fun _ _ => trivial) trivial
  | applyDatasetPatch => exact applied_inPlace_iff described false patch work
  | reverseDatasetPatch => exact applied_inPlace_iff described true patch work

variable [DecidableEq κ]

/-- A sandbox that is handed out has its baseline in place. -/
def HandsOutWhole (patches : Patches η κ) (tools : Tools κ) (inst : SweInstance)
    (image : Repository κ) : Prop :=
  ∀ repo, provision tools inst image = some repo →
    InMode inst.initialState.provisionPatch fun reverse =>
      patches.InPlace reverse inst.patch repo.work

/-- The baseline meets no conflict, or it is to be committed and changes nothing. -/
def BaselineMeets (patches : Patches η κ) (tools : Tools κ) (inst : SweInstance)
    (image : Repository κ) : Prop :=
  ∀ start, prepared tools inst image = some start →
    (InMode inst.initialState.provisionPatch fun reverse =>
      patches.Meets tools reverse inst.patch start.work) ∨
      commits inst = true ∧ baseline tools inst start.work = some start.head

theorem handsOutWhole_iff (described : patches.Describes tools) (inst : SweInstance)
    (image : Repository κ) :
    HandsOutWhole patches tools inst image ↔ BaselineMeets patches tools inst image := by
  constructor
  · intro whole start ready
    rw [← mode_inPlace_iff described]
    by_cases unchanged : commits inst = true ∧ baseline tools inst start.work = some start.head
    · exact .inr unchanged
    refine .inl fun after patched => ?_
    have provisioned : ∃ repo, provision tools inst image = some repo ∧ repo.work = after := by
      simp only [provision, ready, Option.bind_some, applyInitialState_spec]
      by_cases committed : commits inst = true
      · have changes : after ≠ start.head := by
          rintro rfl
          exact unchanged ⟨committed, patched⟩
        exact ⟨_, ⟨after, patched, (if_pos committed).mpr ⟨changes, rfl⟩⟩, rfl⟩
      · exact ⟨_, ⟨after, patched, (if_neg committed).mpr rfl⟩, rfl⟩
    obtain ⟨repo, provisioned, rfl⟩ := provisioned
    exact whole repo provisioned
  · intro meets repo provisioned
    obtain ⟨start, ready, applied⟩ := Option.bind_eq_some_iff.mp provisioned
    obtain ⟨work, patched, made⟩ := applyInitialState_spec.mp applied
    have same : repo.work = work := by
      split at made
      · rw [made.2]
      · rw [made]
    rw [same]
    rcases meets start ready with clean | ⟨committed, unchanged⟩
    · exact (mode_inPlace_iff described _ _ _).mpr clean work patched
    · rw [if_pos committed] at made
      rw [patched] at unchanged
      exact absurd (Option.some.inj unchanged) made.1

end Trees

/-! ### The tree of an evaluation -/

/-- The file of a patch in the container. -/
def patchFile (label : String) : String := s!"/tmp/{label}.patch"

/-- The command of `apply_patch` for a work tree and the file of a patch. -/
def patchScript (ws dest : String) : String :=
  s!"cd {ws} && (git apply -v {dest} || " ++
    s!"(patch --batch --forward --fuzz=5 -p1 < {dest}; ec=$?; [ $ec -eq 0 -o $ec -eq 1 ]))"

/-- What that command does to the files, and whether it succeeds. -/
def runScript {κ : Type} (tools : Tools κ) (patch : String) (work : Files κ) : Files κ × Bool :=
  match tools.gitApply false patch work with
  | some patched => (patched, true)
  | none =>
    let patched := tools.patch false patch work
    (patched.1, decide (patched.2 = 0 ∨ patched.2 = 1))

/-- The session has a container with a work tree, in which the command runs the tools on the patch
that was written to its file. -/
structure Hosts {σ κ : Type} (session : Evaluation.SweSession σ) (tools : Tools κ)
    (work : σ → Files κ) (file : σ → List Char) : Prop where
  write : ∀ {text s t}, session.backend.write (patchFile "test") text s = (.ok (), t) →
    work t = work s ∧ file t = text
  script : ∀ {s r t},
    session.backend.exec (patchScript session.inst.workspaceDir (patchFile "test")) s =
      (.ok r, t) →
    (work t, decide (r.exitCode = 0)) = runScript tools (String.ofList (file s)) (work s)

section Evaluation

open Evaluation (Graders EpisodeOutcome ExecResult)
open Evaluation.SweSession (runOptional)

variable {σ : Type} (session : Evaluation.SweSession σ)

/-- The first steps of `observe`, up to the test patch. -/
def beforeTestPatch : Run σ (List Char) := do
  session.ensureActive
  let ws := session.inst.workspaceDir
  let diff ← Run.attempt (session.execRaw s!"cd {ws} && git diff")
  let modelDiff := (diff.map ExecResult.stdout).getD []
  (if session.inst.installCommand.isSome then session.ensureActive else pure ())
  runOptional session.execRaw session.inst.installCommand
  pure modelDiff

/-- The steps of `observe` after it. -/
def afterTestPatch (modelDiff : List Char) : Run σ (List Char × ExecResult) := do
  session.ensureActive
  runOptional session.execRaw session.inst.resolvedPreTestCommand
  session.ensureActive
  session.writeNodeIds
  let testRun ← session.execRaw session.inst.resolvedTestCommand
  pure (modelDiff, testRun)

def applyTestPatch : Run σ Unit :=
  session.applyPatch session.execRaw session.inst.testPatch "test"

theorem run_bind_assoc {α β γ : Type} (x : Run σ α) (f : α → Run σ β) (g : β → Run σ γ) :
    (x >>= f) >>= g = x >>= fun a => f a >>= g := by
  funext s
  rcases ran : x s with ⟨result, t⟩
  cases result with
  | error e => rw [run_bind_error (run_bind_error ran), run_bind_error ran]
  | ok a =>
    rw [run_bind_ok ran]
    change Run.bind (x >>= f) g s = Run.bind (f a) g t
    rw [Run.bind, run_bind_ok ran]
    rfl

theorem run_pure_bind {α β : Type} (a : α) (f : α → Run σ β) : (pure a : Run σ α) >>= f = f a :=
  rfl

theorem observe_eq : session.observe session.execRaw = (do
    let modelDiff ← beforeTestPatch session
    applyTestPatch session
    afterTestPatch session modelDiff) := by
  simp only [Evaluation.SweSession.observe, beforeTestPatch, applyTestPatch, afterTestPatch,
    run_bind_assoc, run_pure_bind]

theorem runScript_eq {κ : Type} (tools : Tools κ) {patch : String}
    (blank : ¬ isBlank patch = true) (work after : Files κ) :
    runScript tools patch work = (after, true) ↔
      applyPatchWithReverse tools patch false work = some after := by
  unfold runScript applyPatchWithReverse
  rw [if_neg blank]
  cases tools.gitApply false patch work with
  | some => simp
  | none => simp [and_comm]

theorem isBlank_ofList (text : List Char) :
    isBlank (String.ofList text) = (trimText text).isEmpty := by
  rw [Bool.eq_iff_iff, isBlank, String.isEmpty_iff, List.isEmpty_iff]
  simp [Service.trim, trimText, Text.trimBy]

variable {session} {κ : Type} {tools : Tools κ} {work : σ → Files κ} {file : σ → List Char}

/-- The test patch reaches the files as `apply_patch` does on the host. -/
theorem applyTestPatch_spec (hosts : Hosts session tools work file) {u v : σ}
    (ran : applyTestPatch session u = (.ok (), v)) :
    applyPatchWithReverse tools (String.ofList session.inst.testPatch) false (work u) =
      some (work v) := by
  unfold applyTestPatch Evaluation.SweSession.applyPatch at ran
  rw [← isBlank_ofList] at ran
  by_cases blank : isBlank (String.ofList session.inst.testPatch) = true
  · rw [if_pos blank] at ran
    obtain rfl : u = v := congrArg Prod.snd ran
    rw [applyPatchWithReverse, if_pos blank]
  · rw [if_neg blank] at ran
    obtain ⟨_, t, wrote, ran⟩ := run_bind_eq_ok.mp ran
    obtain ⟨r, w, executed, ran⟩ := run_bind_eq_ok.mp ran
    obtain ⟨kept, stored⟩ := hosts.write wrote
    rw [← kept, ← runScript_eq tools blank]
    have exits : r.exitCode = 0 ∧ w = v := by
      split at ran
      · cases ran
      · rename_i zero
        exact ⟨not_not.mp zero, congrArg Prod.snd ran⟩
    obtain ⟨zero, rfl⟩ := exits
    unfold Evaluation.SweSession.execRaw at executed
    split at executed
    · rename_i out w' answered
      obtain ⟨rfl, rfl⟩ : (Evaluation.ExecResult.mk _ _ out.exitCode _ = r) ∧ w' = w := by
        simpa using executed
      have effect := hosts.script answered
      rw [stored] at effect
      rw [← effect]
      simpa using zero
    · cases executed

/-- An evaluation that comes to a verdict has had the test patch in place before its tests. -/
def GradesWhole {η : Type} (patches : Patches η κ) (work : σ → Files κ)
    (session : Evaluation.SweSession σ) (graders : Graders σ) (s : σ) : Prop :=
  ∀ outcome t, session.evaluate graders s = (.ok outcome, t) →
    ∀ modelDiff u v, beforeTestPatch session s = (.ok modelDiff, u) →
      applyTestPatch session u = (.ok (), v) →
        patches.InPlace false (String.ofList session.inst.testPatch) (work v)

/-- Where an evaluation comes to a verdict, its test patch meets no conflict. -/
def TestPatchMeets {η : Type} (patches : Patches η κ) (tools : Tools κ) (work : σ → Files κ)
    (session : Evaluation.SweSession σ) (graders : Graders σ) (s : σ) : Prop :=
  ∀ outcome t, session.evaluate graders s = (.ok outcome, t) →
    ∀ modelDiff u, beforeTestPatch session s = (.ok modelDiff, u) →
      patches.Meets tools false (String.ofList session.inst.testPatch) (work u)

theorem gradesWhole_iff {η : Type} {patches : Patches η κ} (described : patches.Describes tools)
    (hosts : Hosts session tools work file) (graders : Graders σ) (s : σ) :
    GradesWhole patches work session graders s ↔
      TestPatchMeets patches tools work session graders s := by
  constructor
  · intro whole outcome t evaluated modelDiff u before
    obtain ⟨observed, w, ran, -⟩ := run_bind_eq_ok.mp evaluated
    rw [observe_eq, run_bind_ok before] at ran
    obtain ⟨_, v, patched, -⟩ := run_bind_eq_ok.mp ran
    rw [← applied_inPlace_iff described, applyTestPatch_spec hosts patched]
    rintro after same
    cases same
    exact whole outcome t evaluated modelDiff u v before patched
  · intro meets outcome t evaluated modelDiff u v before patched
    have clean := meets outcome t evaluated modelDiff u before
    exact (applied_inPlace_iff described false _ _).mpr clean _ (applyTestPatch_spec hosts patched)

end Evaluation

/-- Whatever is accepted is completely patched exactly where the patch meets no conflict: for
`apply_patch` and `apply_patch_reverse`, for the sandboxes that `provision` hands out and for the
trees on which `evaluate` runs the tests. -/
theorem completely_patched_iff {η κ σ : Type} [DecidableEq κ] {patches : Patches η κ}
    {tools : Tools κ} {session : Evaluation.SweSession σ} {work : σ → Files κ}
    {file : σ → List Char} (described : patches.Describes tools)
    (hosts : Hosts session tools work file) :
    (∀ reverse patch tree, (∀ after, applyPatchWithReverse tools patch reverse tree = some after →
        patches.InPlace reverse patch after) ↔ patches.Meets tools reverse patch tree) ∧
    (∀ inst image,
      HandsOutWhole patches tools inst image ↔ BaselineMeets patches tools inst image) ∧
    (∀ graders s, GradesWhole patches work session graders s ↔
      TestPatchMeets patches tools work session graders s) := by
  refine ⟨applied_inPlace_iff described, handsOutWhole_iff described, ?_⟩
  exact gradesWhole_iff described hosts

/-! ### Tools made of hunks -/

/-- `git apply` and `patch` over the ways in which each of them applies a hunk; `back` is `patch` in
the reverse direction. -/
def toolsOf {η κ : Type} (hunks : String → List η) (placed : Bool → η → Files κ → Prop)
    [∀ reverse hunk work, Decidable (placed reverse hunk work)]
    (exact : Bool → η → Files κ → Option (Files κ)) (fuzzy : η → Files κ → Option (Files κ))
    (back : String → Files κ → Files κ × Nat) : Tools κ where
  revParse _ := some 0
  gitApply reverse patch work := applyAll (exact reverse) (hunks patch) work
  patch reverse patch work :=
    if reverse then back patch work
    else
      let ran := applyEach fuzzy (placed false) (hunks patch) work
      (ran.1, if ran.2 = [] then 0 else 1)
  shell _ checkout := some checkout

/-- The hunks of such tools. -/
def patchesOf {η κ : Type} (hunks : String → List η) (placed : Bool → η → Files κ → Prop)
    [∀ reverse hunk work, Decidable (placed reverse hunk work)]
    (fuzzy : η → Files κ → Option (Files κ)) (stuck turned : String → Files κ → η → Prop) :
    Patches η κ where
  hunks := hunks
  placed := placed
  rejected reverse patch work hunk :=
    if reverse then stuck patch work hunk
    else hunk ∈ (applyEach fuzzy (placed false) (hunks patch) work).2
  turned := turned

theorem toolsOf_described {η κ : Type} {hunks : String → List η}
    {placed : Bool → η → Files κ → Prop}
    [∀ reverse hunk work, Decidable (placed reverse hunk work)]
    {exact : Bool → η → Files κ → Option (Files κ)} {fuzzy : η → Files κ → Option (Files κ)}
    {back : String → Files κ → Files κ × Nat} {stuck turned : String → Files κ → η → Prop}
    (blank : ∀ patch, isBlank patch = true → hunks patch = [])
    (exactly : ∀ reverse patch, Separate (exact reverse) (placed reverse) (hunks patch))
    (fuzzily : ∀ patch, Separate fuzzy (placed false) (hunks patch))
    (backward : ∀ patch work, ∀ hunk ∈ hunks patch,
      (stuck patch work hunk → (back patch work).2 = 1) ∧
      (turned patch work hunk → (back patch work).2 = 0 ∨ (back patch work).2 = 1) ∧
      (placed true hunk (back patch work).1 ↔ ¬ stuck patch work hunk ∧ ¬ turned patch work hunk)) :
    (patchesOf hunks placed fuzzy stuck turned).Describes
      (toolsOf hunks placed exact fuzzy back) where
  blank := blank _
  gitApply taken := placed_of_applyAll (exactly _ _) taken
  handled {reverse patch work} _ hunk here kept straight := by
    cases reverse with
    | false =>
      exact not_not.mp fun missing => kept ((rejected_iff (fuzzily _) _ hunk here).mpr missing)
    | true => exact (backward patch work hunk here).2.2.mpr ⟨kept, fun is => straight ⟨rfl, is⟩⟩
  rejects {reverse patch work hunk} here rejected := by
    cases reverse with
    | false =>
      exact ⟨if_neg (List.ne_nil_of_mem rejected), (rejected_iff (fuzzily _) _ _ here).mp rejected⟩
    | true =>
      obtain ⟨exitOne, _, whole⟩ := backward patch work hunk here
      exact ⟨exitOne rejected, fun gone => (whole.mp gone).1 rejected⟩
  turns {patch work hunk} here turned :=
    ⟨(backward patch work hunk here).2.1 turned,
      fun gone => ((backward patch work hunk here).2.2.mp gone).2 turned⟩

/-! ### A patch of two files -/

/-- One file goes from a version to another. -/
structure Change where
  path : String
  before : Nat
  after : Nat

def Change.target (reverse : Bool) (change : Change) : Nat :=
  if reverse then change.before else change.after

def Change.isIn (reverse : Bool) (change : Change) (work : Files Nat) : Prop :=
  work[change.path]? = some (change.target reverse)

instance (reverse : Bool) (change : Change) (work : Files Nat) :
    Decidable (change.isIn reverse work) :=
  inferInstanceAs (Decidable (_ = _))

def Change.apply (reverse : Bool) (change : Change) (work : Files Nat) : Option (Files Nat) :=
  if work[change.path]? = some (change.target !reverse) then
    some (work.insert change.path (change.target reverse))
  else none

/-- Every patch changes the same two files. -/
def twoFiles (patch : String) : List Change :=
  if isBlank patch then [] else [⟨"m.py", 0, 1⟩, ⟨"t.py", 0, 1⟩]

variable {reverse : Bool} {change : Change} {s t : Files Nat}

theorem Change.apply_isIn (applied : change.apply reverse s = some t) : change.isIn reverse t := by
  unfold Change.apply at applied
  split at applied
  · cases applied
    simp [Change.isIn]
  · cases applied

theorem Change.apply_other {other : Change} (apart : other.path ≠ change.path)
    (applied : change.apply reverse s = some t) : other.isIn reverse t ↔ other.isIn reverse s := by
  unfold Change.apply at applied
  split at applied
  · cases applied
    simp [Change.isIn, Std.ExtTreeMap.getElem?_insert, apart.symm]
  · cases applied

theorem twoFiles_separate (reverse : Bool) (patch : String) :
    Separate (Change.apply reverse) (Change.isIn reverse) (twoFiles patch) := by
  refine ⟨fun _ _ _ => Change.apply_isIn, ?_⟩
  unfold twoFiles
  split
  · exact .nil
  · refine .cons ?_ (List.pairwise_singleton _ _)
    intro later here s t applied
    rw [List.mem_singleton] at here
    subst here
    exact Change.apply_other (by decide) applied

/-- `patch --batch --reverse` on the one hunk of a file: it takes back a hunk that is there, and
puts in one that is not. -/
def Change.turn (work : Files Nat) (change : Change) : Files Nat :=
  if work[change.path]? = some change.after then work.insert change.path change.before
  else if work[change.path]? = some change.before then work.insert change.path change.after
  else work

/-- Neither version is there. -/
def Change.stuck (work : Files Nat) (change : Change) : Prop :=
  ¬ change.isIn true work ∧ ¬ change.isIn false work

instance (work : Files Nat) (change : Change) : Decidable (change.stuck work) :=
  inferInstanceAs (Decidable (_ ∧ _))

theorem Change.lookup_turn_other {path : String} (apart : change.path ≠ path) (work : Files Nat) :
    (change.turn work)[path]? = work[path]? := by
  unfold Change.turn
  split
  · rw [Std.ExtTreeMap.getElem?_insert, if_neg (by simpa using apart)]
  · split
    · rw [Std.ExtTreeMap.getElem?_insert, if_neg (by simpa using apart)]
    · rfl

theorem Change.isIn_turn (differ : change.before ≠ change.after) (work : Files Nat) :
    change.isIn true (change.turn work) ↔
      ¬ change.stuck work ∧ ¬ change.isIn true work := by
  unfold Change.turn Change.stuck Change.isIn Change.target
  by_cases present : work[change.path]? = some change.after
  · simp [present, differ.symm]
  · by_cases absent : work[change.path]? = some change.before
    · simp [absent, differ, differ.symm]
    · simp [present, absent]

def twoTools : Tools Nat := toolsOf twoFiles Change.isIn Change.apply (Change.apply false)
  fun patch work => ((twoFiles patch).foldl Change.turn work,
    if ∃ change ∈ twoFiles patch, change.stuck work then 1 else 0)

def twoPatches : Patches Change Nat := patchesOf twoFiles Change.isIn (Change.apply false)
  (fun _ work change => change.stuck work) fun _ work change => change.isIn true work

theorem two_described : twoPatches.Describes twoTools := by
  refine toolsOf_described (fun patch blank => ?_) twoFiles_separate (twoFiles_separate false) ?_
  · rw [twoFiles, if_pos blank]
  · intro patch work change here
    refine ⟨fun stuck => ?_, fun _ => ?_, ?_⟩
    · rw [if_pos ⟨change, here, stuck⟩]
    · split
      · exact .inr rfl
      · exact .inl rfl
    · unfold twoFiles at here ⊢
      split at here
      · exact absurd here List.not_mem_nil
      · rename_i visible
        rw [if_neg visible]
        simp only [List.foldl_cons, List.foldl_nil]
        rcases List.mem_cons.mp here with rfl | here
        · rw [← Change.isIn_turn (by decide)]
          unfold Change.isIn
          rw [Change.lookup_turn_other (by decide)]
        · obtain rfl := List.mem_singleton.mp here
          rw [Change.isIn_turn (by decide)]
          unfold Change.stuck Change.isIn
          rw [Change.lookup_turn_other (by decide)]

/-- A container with the two files and the file of a patch. -/
structure Box where
  work : Files Nat
  patch : List Char

/-- The answer of the command that applies a patch. -/
def boxAnswer (box : Box) : Except String Evaluation.ExecResult × Box :=
  let ran := runScript twoTools (String.ofList box.patch) box.work
  (.ok ⟨[], [], if ran.2 then 0 else 1, false⟩, { box with work := ran.1 })

def boxSession : Evaluation.SweSession Box where
  episodeId := "ep-1"
  inst :=
    { instanceId := "demo__demo-1"
      testPatch := "+++ b/t.py".toList
      specTestCommand := "pytest"
      failToPass := [] }
  backend :=
    { exec := fun command box =>
        if command = patchScript "/testbed" (patchFile "test") then boxAnswer box
        else (.ok ⟨[], [], 0, false⟩, box)
      write := fun _ text box => (.ok (), { box with patch := text })
      terminated := fun _ => false }

theorem box_exec (box : Box) : boxSession.backend.exec
    (patchScript boxSession.inst.workspaceDir (patchFile "test")) box = boxAnswer box := by
  simp only [boxSession, if_true]

theorem box_hosts : Hosts boxSession twoTools Box.work Box.patch where
  write wrote := by
    cases wrote
    exact ⟨rfl, rfl⟩
  script {s r t} ran := by
    rw [box_exec, boxAnswer] at ran
    generalize runScript twoTools (String.ofList s.patch) s.work = result at ran
    obtain ⟨work, accepted⟩ := result
    cases ran
    cases accepted <;> rfl

/-- A file of its own version and one of another. -/
def half : Files Nat := ((∅ : Files Nat).insert "m.py" 0).insert "t.py" 7

theorem half_model : half["m.py"]? = some 0 := by
  rw [half, Std.ExtTreeMap.getElem?_insert, if_neg (by decide), Std.ExtTreeMap.getElem?_insert_self]

theorem half_test : half["t.py"]? = some 7 :=
  Std.ExtTreeMap.getElem?_insert_self

def halfImage : Repository Nat := { head := half, index := half, work := half, commits := [half] }

def twoFilesInstance : SweInstance := { variant := .smith, patch := "+++ b/t.py" }

theorem half_blank : isBlank "+++ b/t.py" = false := by decide +kernel

theorem half_hunks : twoFiles "+++ b/t.py" = [⟨"m.py", 0, 1⟩, ⟨"t.py", 0, 1⟩] := by
  rw [twoFiles, half_blank]
  rfl

/-- Both files of their own version. -/
theorem completely_patched_fresh : ∃ after,
    applyPatchWithReverse twoTools "+++ b/t.py" false (half.insert "t.py" 0) = some after ∧
      twoPatches.InPlace false "+++ b/t.py" after := by
  have taken : twoTools.gitApply false "+++ b/t.py" (half.insert "t.py" 0) =
      some (((half.insert "t.py" 0).insert "m.py" 1).insert "t.py" 1) := by
    simp [twoTools, toolsOf, half_hunks, applyAll, Change.apply, Change.target, half_model,
      Std.ExtTreeMap.getElem_insert]
  have applied : applyPatchWithReverse twoTools "+++ b/t.py" false (half.insert "t.py" 0) =
      some (((half.insert "t.py" 0).insert "m.py" 1).insert "t.py" 1) := by
    simp [applyPatchWithReverse, half_blank, taken]
  have inPlace := (completely_patched_iff two_described box_hosts).1 false "+++ b/t.py"
    (half.insert "t.py" 0)
  exact ⟨_, applied, inPlace.mpr (.inr (.inl (by rw [taken]; rfl))) _ applied⟩

def passing : Evaluation.Graders Box where
  grade _ _ _ _ _ := ⟨true, F64.zero, []⟩

theorem half_rejected : applyEach (Change.apply false) (Change.isIn false)
    (twoFiles "+++ b/t.py") half = (half.insert "m.py" 1, [⟨"t.py", 0, 1⟩]) := by
  simp [half_hunks, applyEach, Change.apply, Change.isIn, Change.target, half_model, half_test]

theorem half_patched :
    applyPatchWithReverse twoTools "+++ b/t.py" false half = some (half.insert "m.py" 1) := by
  have refused : twoTools.gitApply false "+++ b/t.py" half = none := by
    simp [twoTools, toolsOf, half_hunks, applyAll, Change.apply, Change.target, half_model,
      half_test]
  have ran : twoTools.patch false "+++ b/t.py" half = (half.insert "m.py" 1, 1) := by
    simp [twoTools, toolsOf, half_rejected]
  simp [applyPatchWithReverse, half_blank, refused, ran]

theorem half_conflicts : ¬ twoPatches.Meets twoTools false "+++ b/t.py" half := by
  rw [← applied_inPlace_iff two_described]
  intro whole
  have here : (⟨"t.py", 0, 1⟩ : Change) ∈ twoPatches.hunks "+++ b/t.py" := by
    simp [twoPatches, patchesOf, half_hunks]
  have held := whole _ half_patched _ here
  simp [twoPatches, patchesOf, Change.isIn, Change.target, half_test] at held

/-- One hunk is applied and one is rejected: the patch is accepted, the baseline is handed out and
the evaluation comes to a verdict. -/
theorem half_patched_accepted :
    applyPatchWithReverse twoTools "+++ b/t.py" false half = some (half.insert "m.py" 1) ∧
      ¬ twoPatches.InPlace false "+++ b/t.py" (half.insert "m.py" 1) ∧
      ¬ HandsOutWhole twoPatches twoTools twoFilesInstance halfImage ∧
      ¬ GradesWhole twoPatches Box.work boxSession passing ⟨half, []⟩ := by
  refine ⟨half_patched, fun inPlace => ?_, fun whole => ?_, fun whole => ?_⟩
  · refine half_conflicts ((applied_inPlace_iff two_described _ _ _).mp fun after same => ?_)
    rw [half_patched] at same
    cases same
    exact inPlace
  · have reset : resetScriptKeepBuilt twoTools twoFilesInstance halfImage = some halfImage := by
      have blank : isBlank "" = true := by decide +kernel
      simp [resetScriptKeepBuilt, twoFilesInstance, blank, Repository.clean_resetHard, halfImage]
    have ready : prepared twoTools twoFilesInstance halfImage = some halfImage := by
      rw [prepared, reset]
      rfl
    rcases (handsOutWhole_iff two_described _ _).mp whole _ ready with clean | ⟨-, unchanged⟩
    · exact half_conflicts clean
    · have patched : baseline twoTools twoFilesInstance half = some (half.insert "m.py" 1) :=
        half_patched
      rw [show halfImage.work = half from rfl, patched] at unchanged
      have held := congrArg (fun tree : Files Nat => tree["m.py"]?) (Option.some.inj unchanged)
      simp only [halfImage, half_model, Std.ExtTreeMap.getElem?_insert_self] at held
      exact absurd held (by decide)
  · have graded : ((boxSession.evaluate passing ⟨half, []⟩).1.toOption.isSome) = true := by
      decide +kernel
    rcases evaluated : boxSession.evaluate passing ⟨half, []⟩ with ⟨outcome | outcome, t⟩
    · rw [evaluated] at graded
      cases graded
    · have meets := (gradesWhole_iff two_described box_hosts _ _).mp whole _ _ evaluated
      exact half_conflicts (meets _ _ rfl)

end UEnv.Worker.PatchedTrees
