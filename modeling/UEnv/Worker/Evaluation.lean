import Mathlib.Algebra.Order.Ring.Int
import UEnv.Lib.Lockstep
import UEnv.OpenHands.GatewayTools
import UEnv.Worker.Graders
import UEnv.Worker.Recycling

/-!
# The evaluation of a SWE session

`SweSession::evaluate`. Nothing is assumed of the container or of the commands that run in it. The
trace of the session and the times are left out.
-/

namespace UEnv.Worker.Evaluation

open Text Lockstep
open OpenHands (truncateOutput truncateOutput_length_le readWhole_iff)

/-- `ExecResponse` of a backend and `ExecResult` of a session. -/
structure ExecResult where
  stdout : List Char
  stderr : List Char
  exitCode : Int
  truncated : Bool := false

/-- The container of a session and its flag `terminated`. Another task may set the flag at any time,
so it belongs to the state. -/
structure SweBackend (σ : Type) where
  exec : String → Run σ ExecResult
  write : String → List Char → Run σ Unit
  terminated : σ → Bool

inductive RewardAdapterKind
  | internalPytest
  | externalCommand
  | internalWithExternalOverride
  deriving DecidableEq

structure SweInstance where
  instanceId : String
  variant : BenchmarkVariant := .verified
  workspaceDir : String := "/testbed"
  logParser : LogParser := .pytest
  -- `resolved_install_command`, or `UENV_SWE_INSTALL_CMD`
  installCmd : Option String := none
  testPatch : List Char := []
  preTestCmd : Option String := none
  testCmd : Option String := none
  -- the command that `RepoSpec::build_test_command` builds
  specTestCommand : String
  failToPass : List TestId
  passToPass : List TestId := []
  adapter : RewardAdapterKind := .internalPytest
  commandEnv : Option String := none

structure SweSession (σ : Type) where
  episodeId : String
  inst : SweInstance
  maxOutputBytes : Nat := OpenHands.defaultMaxOutputBytes
  backend : SweBackend σ

/-- `grader_for_spec(…).grade`, and what the command in a variable of the environment answers: the
results of `try_external_pro_grade_from_env`, `try_external_smith_grade_from_env` and
`try_external_contract_grade`. -/
structure Graders (σ : Type) where
  grade : Option String → LogParser → List Char → List TestId → List TestId → GradeResult
  externalPro : String → List Char → Run σ (Option GradeResult) := fun _ _ => pure none
  externalSmith : String → List Char → Run σ (Option GradeResult) := fun _ _ => pure none
  externalContract : Option String → List Char → List Char → Run σ (Option GradeResult) :=
    fun _ _ _ => pure none

/-- `grader_for_spec`, for an order in which a map yields its entries. -/
def graderForSpec (iterate : TestReport → List (TestId × Bool)) (name : Option String)
    (parser : LogParser) : List Char → List TestId → List TestId → GradeResult :=
  if name = some "swebench_pro" then swebenchProGrade iterate else swebenchGrade parser

structure TestResults where
  passed : Bool
  rawOutput : List Char
  perTest : List (TestId × Bool)

structure EpisodeArtifact where
  episodeId : String
  instanceId : String
  reward : F64
  gitDiff : List Char
  testResults : TestResults

structure EpisodeOutcome where
  instanceId : String
  resolved : Bool
  reward : F64
  artifact : EpisodeArtifact

/-! ### Commands of an instance -/

namespace SweInstance

variable (inst : SweInstance)

def condaActivate : String := "source /opt/miniconda3/bin/activate testbed 2>/dev/null"

/-- `install_command` (session.rs, 771-780). -/
def installCommand : Option String :=
  inst.installCmd.map fun raw => s!"{condaActivate}; cd /testbed && {raw}"

/-- `resolved_pre_test_command` (dataset.rs, 165-173). -/
def resolvedPreTestCommand : Option String :=
  if inst.variant ≠ .pro then none
  else (inst.preTestCmd.filter fun c => !isBlank c).map fun c => c.replace "\n" " && "

/-- `resolved_test_command` (dataset.rs, 177-196). -/
def resolvedTestCommand : String :=
  let ws := inst.workspaceDir
  match inst.testCmd.filter fun cmd => !isBlank cmd with
  | some cmd =>
    if inst.variant = .pro then s!"cd {ws} && {cmd}" else s!"{condaActivate}; cd /testbed && {cmd}"
  | none => inst.specTestCommand

def nodeIds : List TestId := inst.failToPass ++ inst.passToPass

/-- `MAX_INLINE_NODE_IDS_BYTES`. -/
def maxInlineNodeIdsBytes : Nat := 32 * 1024

/-- Whether the node ids are written to a file for the command. -/
def nodeIdsInFile : Bool :=
  inst.testCmd.isNone && inst.variant ≠ .pro &&
    maxInlineNodeIdsBytes < (inst.nodeIds.map fun id => byteLength id + 1).sum

end SweInstance

/-! ### The evaluation -/

namespace SweSession

variable {σ : Type} (session : SweSession σ) (graders : Graders σ)
  (exec : String → Run σ ExecResult)

/-- `exec_raw`, with the limit for what an agent sees. -/
def execRaw (command : String) : Run σ ExecResult := fun s =>
  match session.backend.exec command s with
  | (.ok out, t) =>
    let (stdout, t1) := truncateOutput session.maxOutputBytes out.stdout
    let (stderr, t2) := truncateOutput session.maxOutputBytes out.stderr
    (.ok ⟨stdout, stderr, out.exitCode, t1 || t2⟩, t)
  | (.error e, t) => (.error s!"SWE backend exec failed: {e}", t)

/-- `ensure_active` (session.rs, 698-703). -/
def ensureActive : Run σ Unit := fun s =>
  if session.backend.terminated s then (.error "SWE session terminated", s) else (.ok (), s)

def patchFailed (label : String) (r : ExecResult) : String :=
  let code := r.exitCode
  let stdout := String.ofList r.stdout
  let stderr := String.ofList r.stderr
  s!"apply {label} patch failed (code {code} reverse=false): {stdout}\n{stderr}"

def applyPatch (patch : List Char) (label : String) : Run σ Unit :=
  if (trimText patch).isEmpty then pure ()
  else do
    let dest := s!"/tmp/{label}.patch"
    session.backend.write dest patch
    let ws := session.inst.workspaceDir
    let r ← exec (s!"cd {ws} && (git apply -v {dest} || " ++
      s!"(patch --batch --forward --fuzz=5 -p1 < {dest}; ec=$?; [ $ec -eq 0 -o $ec -eq 1 ]))")
    if r.exitCode ≠ 0 then Run.fail (patchFailed label r) else pure ()

/-- The node ids in a file of the container, each with a NUL after it. -/
def writeNodeIds : Run σ Unit :=
  if session.inst.nodeIdsInFile then
    session.backend.write "/tmp/uenv-pytest-nodeids"
      (['\x00'].intercalate session.inst.nodeIds ++ ['\x00'])
  else pure ()

/-- A command whose exit code is only logged, if there is one. -/
def runOptional : Option String → Run σ Unit
  | some command => do
    let _ ← exec command
    pure ()
  | none => pure ()

/-- The first half of `evaluate`, to the run of the tests: the patch of the model, and what the
tests print. -/
def observe : Run σ (List Char × ExecResult) := do
  session.ensureActive
  let ws := session.inst.workspaceDir
  let diff ← Run.attempt (exec s!"cd {ws} && git diff")
  let modelDiff := (diff.map ExecResult.stdout).getD []
  (if session.inst.installCommand.isSome then session.ensureActive else pure ())
  runOptional exec session.inst.installCommand
  session.applyPatch exec session.inst.testPatch "test"
  session.ensureActive
  runOptional exec session.inst.resolvedPreTestCommand
  session.ensureActive
  session.writeNodeIds
  let testRun ← exec session.inst.resolvedTestCommand
  pure (modelDiff, testRun)

/-- `format!("{}\n{}", test_run.stdout, test_run.stderr)`. -/
def combined (testRun : ExecResult) : List Char := testRun.stdout ++ '\n' :: testRun.stderr

/-- The grader of the instance, or the external command in its place. -/
def graded (modelDiff combined : List Char) : Run σ GradeResult :=
  let inst := session.inst
  let grade := fun name =>
    graders.grade name inst.logParser combined inst.failToPass inst.passToPass
  let useExternal := inst.adapter = .externalCommand ∨ inst.adapter = .internalWithExternalOverride
  match inst.variant with
  | .pro => do
    let external ←
      match inst.commandEnv with
      | some env => if useExternal then graders.externalPro env combined else pure none
      | none => pure none
    pure (external.getD (grade (some "swebench_pro")))
  | .smith => do
    let internal := grade (some "swesmith")
    let external ←
      match inst.commandEnv with
      | some env => if useExternal then graders.externalSmith env modelDiff else pure none
      | none => pure none
    match external with
    | some ext =>
      pure (if ext.perTest.isEmpty then { ext with perTest := internal.perTest } else ext)
    | none => pure internal
  | _ => do
    let internal := grade none
    if useExternal then
      let external ← graders.externalContract inst.commandEnv modelDiff combined
      pure (external.getD internal)
    else pure internal

/-- `truncate`, by characters. -/
def truncate (s : List Char) (max : Nat) : List Char := if byteLength s ≤ max then s else s.take max

/-- The second half of `evaluate`. -/
def conclude (modelDiff : List Char) (testRun : ExecResult) : Run σ EpisodeOutcome := do
  session.ensureActive
  let combined := combined testRun
  let graded ← session.graded graders modelDiff combined
  session.ensureActive
  let inst := session.inst
  pure
    { instanceId := inst.instanceId
      resolved := graded.resolved
      reward := graded.reward
      artifact :=
        { episodeId := session.episodeId
          instanceId := inst.instanceId
          reward := graded.reward
          gitDiff := modelDiff
          testResults :=
            { passed := graded.resolved
              rawOutput := truncate combined session.maxOutputBytes
              perTest := graded.perTest } } }

/-- `evaluate`, for the way in which commands are run. -/
def evaluateWith : Run σ EpisodeOutcome := do
  let (modelDiff, testRun) ← session.observe exec
  session.conclude graders modelDiff testRun

/-- `evaluate` (session.rs, 518-696). -/
def evaluate : Run σ EpisodeOutcome := session.evaluateWith graders session.execRaw

end SweSession

/-! ### Grading the whole output -/

/-- What a grader decides, and the patch that is recorded beside it. -/
structure Verdict where
  resolved : Bool
  reward : F64
  perTest : List (TestId × Bool)
  gitDiff : List Char

def EpisodeOutcome.verdict (outcome : EpisodeOutcome) : Verdict where
  resolved := outcome.resolved
  reward := outcome.reward
  perTest := outcome.artifact.testResults.perTest
  gitDiff := outcome.artifact.gitDiff

/-- The verdict that a run gives from a state, if it gives one. -/
def verdictFrom {σ : Type} (run : Run σ EpisodeOutcome) (s : σ) : Option Verdict :=
  (run s).1.toOption.map EpisodeOutcome.verdict

/-- A text that the limit leaves as it is: it fits, or the cut is in a U+FFFD at its end. -/
def Whole (maxOutputBytes : Nat) (text : List Char) : Prop :=
  byteLength text ≤ maxOutputBytes ∨
    ∃ kept, text = kept ++ ['\uFFFD'] ∧ byteLength kept < maxOutputBytes

theorem truncateOutput_eq_self_iff {limit : Nat} {text : List Char} :
    (truncateOutput limit text).1 = text ↔ Whole limit text :=
  readWhole_iff ⟨limit, 0⟩ text

namespace SweSession

variable {σ : Type} (session : SweSession σ)

/-- What `git diff` and the tests print, if the run gets to its grader from a state, is left as it
is. -/
def PrintsWhole (s : σ) : Prop :=
  ∀ modelDiff testRun t, session.observe session.backend.exec s = (.ok (modelDiff, testRun), t) →
    session.backend.terminated t = false →
      Whole session.maxOutputBytes modelDiff ∧ Whole session.maxOutputBytes testRun.stdout ∧
        Whole session.maxOutputBytes testRun.stderr

/-- The output of a command, cut by `exec_raw`. -/
structure Cut (cut whole : ExecResult) : Prop where
  stdout : cut.stdout = (truncateOutput session.maxOutputBytes whole.stdout).1
  stderr : cut.stderr = (truncateOutput session.maxOutputBytes whole.stderr).1
  exitCode : cut.exitCode = whole.exitCode

theorem alike_execRaw (command : String) :
    Alike session.Cut (session.execRaw command) (session.backend.exec command) := by
  intro s
  unfold execRaw
  rcases session.backend.exec command s with ⟨result, t⟩
  cases result with
  | error e => exact .error
  | ok => exact .ok ⟨rfl, rfl, rfl⟩

theorem alike_applyPatch (patch : List Char) (label : String) :
    Alike (· = ·) (session.applyPatch session.execRaw patch label)
      (session.applyPatch session.backend.exec patch label) := by
  unfold applyPatch
  split
  · exact .pure rfl
  · refine .after _ fun _ => (session.alike_execRaw _).bind fun cut whole related => ?_
    rw [related.exitCode]
    split
    · -- the texts of the two errors may differ
      exact fun _ => .error
    · exact .pure rfl

theorem alike_runOptional (command : Option String) :
    Alike (· = ·) (runOptional session.execRaw command)
      (runOptional session.backend.exec command) := by
  cases command with
  | none => exact .pure rfl
  | some command => exact (session.alike_execRaw command).bind fun _ _ _ => .pure rfl

theorem alike_attempt_stdout (command : String) :
    Alike (fun cut whole => (cut.map ExecResult.stdout).getD [] =
        (truncateOutput session.maxOutputBytes ((whole.map ExecResult.stdout).getD [])).1)
      (Run.attempt (session.execRaw command)) (Run.attempt (session.backend.exec command)) := by
  refine (session.alike_execRaw command).attempt.mono ?_
  intro cut whole related
  cases related with
  | some related => exact related.stdout
  | none => exact (truncateOutput_eq_self_iff.mpr (.inl (Nat.zero_le _))).symm

theorem alike_observe :
    Alike (fun cut whole => cut.1 = (truncateOutput session.maxOutputBytes whole.1).1 ∧
        session.Cut cut.2 whole.2)
      (session.observe session.execRaw) (session.observe session.backend.exec) := by
  unfold observe
  refine .after _ fun _ => (session.alike_attempt_stdout _).bind fun diff diff' same => ?_
  refine .after _ fun _ => (session.alike_runOptional _).bind fun _ _ _ => ?_
  refine (session.alike_applyPatch _ _).bind fun _ _ _ => .after _ fun _ => ?_
  refine (session.alike_runOptional _).bind fun _ _ _ => .after _ fun _ => .after _ fun _ => ?_
  exact (session.alike_execRaw _).bind fun cut whole related => .pure ⟨same, related⟩

/-- Two texts that were cut and joined are the whole ones exactly if each of them is. -/
theorem combined_eq_iff {cut whole : ExecResult} (related : session.Cut cut whole) :
    combined cut = combined whole ↔
      Whole session.maxOutputBytes whole.stdout ∧ Whole session.maxOutputBytes whole.stderr := by
  rw [← truncateOutput_eq_self_iff, ← truncateOutput_eq_self_iff, ← related.stdout,
    ← related.stderr]
  constructor
  · intro same
    have outLe := truncateOutput_length_le session.maxOutputBytes whole.stdout
    have errLe := truncateOutput_length_le session.maxOutputBytes whole.stderr
    rw [← related.stdout] at outLe
    rw [← related.stderr] at errLe
    -- neither part got longer, so both kept their length
    have lengths := congrArg List.length same
    simp only [combined, List.length_append, List.length_cons] at lengths
    obtain ⟨out, err⟩ := List.append_inj same (by omega)
    exact ⟨out, (List.cons.inj err).2⟩
  · rintro ⟨out, err⟩
    rw [combined, combined, out, err]

variable {t : σ}

theorem evaluateWith_of_observed {exec : String → Run σ ExecResult} {graders : Graders σ} {s : σ}
    {modelDiff : List Char} {testRun : ExecResult}
    (ran : session.observe exec s = (.ok (modelDiff, testRun), t)) :
    session.evaluateWith graders exec s = session.conclude graders modelDiff testRun t :=
  run_bind_ok ran

/-- A grader that passes an output if it is the given one. -/
def onlyFor (output : List Char) : Graders σ where
  grade := fun _ _ combined _ _ => ⟨decide (combined = output), F64.zero, []⟩

theorem verdictFrom_onlyFor (output modelDiff : List Char) (testRun : ExecResult)
    (active : session.backend.terminated t = false) :
    verdictFrom (session.conclude (onlyFor output) modelDiff testRun) t =
      some ⟨decide (combined testRun = output), F64.zero, [], modelDiff⟩ := by
  have going : session.ensureActive t = (.ok (), t) := by simp [ensureActive, active]
  have graded : session.graded (onlyFor output) modelDiff (combined testRun) t =
      (.ok ⟨decide (combined testRun = output), F64.zero, []⟩, t) := by
    unfold graded
    -- no external command answers
    simp only [onlyFor, ite_self]
    cases session.inst.variant with
    | pro => cases session.inst.commandEnv <;> rfl
    | smith => cases session.inst.commandEnv <;> rfl
    | verified =>
      dsimp only
      split <;> rfl
    | lite =>
      dsimp only
      split <;> rfl
  rw [verdictFrom, conclude, run_bind_ok going, run_bind_ok graded, run_bind_ok going]
  rfl

theorem verdictFrom_inactive (graders : Graders σ) (modelDiff : List Char) (testRun : ExecResult)
    (ended : ¬session.backend.terminated t = false) :
    verdictFrom (session.conclude graders modelDiff testRun) t = none := by
  have stopped : session.ensureActive t = (.error "SWE session terminated", t) := by
    rw [ensureActive, if_pos (by simpa using ended)]
  rw [verdictFrom, conclude, run_bind_error stopped]
  rfl

/-- The limit on what an agent sees changes no verdict and no recorded patch, whatever the grader,
exactly if it cuts neither the patch nor what the tests print. -/
theorem evaluate_whole_iff (s : σ) : (∀ graders, verdictFrom (session.evaluate graders) s =
        verdictFrom (session.evaluateWith graders session.backend.exec) s) ↔
      session.PrintsWhole s := by
  have agree := session.alike_observe s
  unfold PrintsWhole
  generalize left : session.observe session.execRaw s = ended at agree
  generalize right : session.observe session.backend.exec s = ended' at agree
  cases agree with
  | error =>
    refine iff_of_true (fun graders => ?_) (fun _ _ _ impossible => by cases impossible)
    rw [verdictFrom, verdictFrom, evaluate, evaluateWith, evaluateWith, run_bind_error left,
      run_bind_error right]
    rfl
  | @ok cut whole t related =>
    obtain ⟨modelDiff, testRun⟩ := whole
    obtain ⟨diff, shown⟩ := related
    have split : ∀ graders, (verdictFrom (session.evaluate graders) s =
          verdictFrom (session.evaluateWith graders session.backend.exec) s) ↔
        verdictFrom (session.conclude graders cut.1 cut.2) t =
          verdictFrom (session.conclude graders modelDiff testRun) t := by
      intro graders
      rw [verdictFrom, verdictFrom, evaluate, evaluateWith_of_observed session left,
        evaluateWith_of_observed session right]
      rfl
    rw [forall_congr' split]
    by_cases active : session.backend.terminated t = false
    · constructor
      · intro same modelDiff' testRun' t' ran _
        obtain ⟨⟨rfl, rfl⟩, rfl⟩ : (modelDiff = modelDiff' ∧ testRun = testRun') ∧ t = t' := by
          simpa using ran
        have equal := same (onlyFor (combined testRun))
        rw [verdictFrom_onlyFor session _ _ _ active, verdictFrom_onlyFor session _ _ _ active]
          at equal
        obtain ⟨seen, recorded⟩ : combined cut.2 = combined testRun ∧ cut.1 = modelDiff := by
          simpa using equal
        refine ⟨truncateOutput_eq_self_iff.mp (diff.symm.trans recorded), ?_⟩
        exact (session.combined_eq_iff shown).mp seen
      · intro whole graders
        obtain ⟨fits, prints⟩ := whole modelDiff testRun t rfl active
        have recorded : cut.1 = modelDiff := diff.trans (truncateOutput_eq_self_iff.mpr fits)
        have seen := (session.combined_eq_iff shown).mpr prints
        rw [conclude, conclude, recorded, seen]
    · refine iff_of_true (fun graders => ?_) fun _ _ t' ran active' => ?_
      · rw [verdictFrom_inactive session _ _ _ active, verdictFrom_inactive session _ _ _ active]
      · obtain rfl : t = t' := congrArg Prod.snd ran
        exact absurd active' active

/-- The tests print their one result after the limit. -/
def longRun : SweSession Unit where
  episodeId := "ep-1"
  inst :=
    { instanceId := "demo__demo-1"
      specTestCommand := "python -m pytest -rA -v a.py::t"
      failToPass := ["a.py::t".toList] }
  maxOutputBytes := 24
  backend :=
    { exec := fun command s =>
        if command = "python -m pytest -rA -v a.py::t" then
          (.ok { stdout := "collected 1 item\n\na.py::t PASSED [100%]\n".toList
                 stderr := []
                 exitCode := 0 }, s)
        else (.ok { stdout := "diff --git a/m.py b/m.py\n".toList, stderr := [], exitCode := 0 }, s)
      write := fun _ _ => pure ()
      terminated := fun _ => false }

/-- A run whose test passes is graded as failed, and the patch is recorded without its end. -/
theorem long_run_misgraded : let graders : Graders Unit := { grade := graderForSpec (·.toList) }
    ((verdictFrom (longRun.evaluate graders) ()).map fun v => (v.resolved, v.gitDiff)) =
        some (false, "diff --git a/m.py b/m.py".toList) ∧
      ((verdictFrom (longRun.evaluateWith graders longRun.backend.exec) ()).map fun v =>
        (v.resolved, v.gitDiff)) = some (true, "diff --git a/m.py b/m.py\n".toList) := by
  decide +kernel

end SweSession

end UEnv.Worker.Evaluation
