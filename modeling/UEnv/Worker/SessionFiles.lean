import UEnv.Lib.SharedFiles
import UEnv.Worker.Recycling

/-!
# The files of concurrent calls

`write_file`, `apply_patch` and the external grading of `evaluate`, as operations on the files of
the host and of the containers. The names on the host are made of the process id, a label and a
reading of the clock; the readings of a call are part of the call.
-/

namespace UEnv.Worker

open Runs SharedFiles

/-- A file in the temporary directory of the host, or in the container of a session. -/
inductive Path
  | host (name : String)
  | container (session : Nat) (path : String)
  deriving DecidableEq

abbrev SessionProg := Prog Path Char

/-- `host_tmp` (session.rs, 894-899). -/
def hostTmp (label : String) (nanos : Nat) : Path := .host s!"uenv-swe-{label}-{nanos}.tmp"

/-- `host_tmp_path` (cli_container.rs, 186-188). -/
def hostTmpPath (pid : Nat) : Path := .host s!"uenv-swe-write-{pid}"

/-- `CliContainerBackend::write` of a content that was read, for one that was meant. -/
def backendWrite (pid : Nat) (target : Path) (meant content : List Char)
    (next : Bool → SessionProg) : SessionProg :=
  .create (hostTmpPath pid) fun
    | false => next false
    | true => .write (hostTmpPath pid) content fun
      | false => next false
      | true => .copy (hostTmpPath pid) meant target fun
        | .unstarted => next false
        | .failed => .unlink (hostTmpPath pid) (next false)
        | .done => .unlink (hostTmpPath pid) (next true)

/-- `cp_into` (session.rs, 782-792). -/
def cpInto (pid : Nat) (tmp target : Path) (content : List Char) (next : Bool → SessionProg) :
    SessionProg :=
  .read tmp content fun
    | none => next false
    | some found => backendWrite pid target content found next

/-- The temporary file of a call, which is removed when it has been copied or not. -/
def deliver (pid : Nat) (tmp target : Path) (content : List Char) (next : Bool → SessionProg) :
    SessionProg :=
  .create tmp fun
    | false => next false
    | true => .write tmp content fun
      | false => next false
      | true => cpInto pid tmp target content fun ok => .unlink tmp (next ok)

/-- `write_file` (session.rs, 312-351). -/
def writeFile (pid session : Nat) (path content : String) (nanos : Nat)
    (next : Bool → SessionProg) : SessionProg :=
  deliver pid (hostTmp "write" nanos) (.container session path) content.toList next

/-- Where a patch is put in the container. -/
def patchPath (session : Nat) (label : String) : Path := .container session s!"/tmp/{label}.patch"

/-- `apply_patch` (session.rs, 388-390). -/
def applyPatch (pid session : Nat) (patch label : String) (nanos : Nat)
    (next : Bool → SessionProg) : SessionProg :=
  if isBlank patch then next true
  else deliver pid (hostTmp label nanos) (patchPath session label) patch.toList fun
    | false => next false
    | true => .process [(patchPath session label, patch.toList)] next

/-! ### Grading -/

/-- The files that a grader is handed, and the reading of the clock in the name of their
directory. -/
inductive ExternalGrade
  | contract (millis : Nat) (instanceJson modelPatch testOutput : String)
  | smith (millis : Nat) (instanceJson modelPatch : String)

def ExternalGrade.files (pid : Nat) : ExternalGrade → List (Path × List Char)
  | contract millis instanceJson modelPatch testOutput =>
    let dir := s!"uenv-swe-contract-eval-{pid}-{millis}"
    [(.host s!"{dir}/instance.json", instanceJson.toList),
      (.host s!"{dir}/model.patch", modelPatch.toList),
      (.host s!"{dir}/test-output.txt", testOutput.toList)]
  | smith millis instanceJson modelPatch =>
    let dir := s!"uenv-swesmith-eval-{pid}-{millis}"
    [(.host s!"{dir}/instance.json", instanceJson.toList),
      (.host s!"{dir}/model.patch", modelPatch.toList)]

/-- The files are written one after the other; a file that cannot be, as when its directory is gone,
ends the call. -/
def putAll (files : List (Path × List Char)) (next : SessionProg) : SessionProg :=
  match files with
  | [] => next
  | (path, content) :: rest => .create path fun
    | false => .stop
    | true => .write path content fun
      | false => .stop
      | true => putAll rest next

def removeAll (paths : List Path) (next : SessionProg) : SessionProg :=
  paths.foldr Prog.unlink next

/-- `try_external_contract_grade` and `try_external_smith_grade_from_env`. -/
def externalGrade (pid : Nat) (grade : ExternalGrade) : SessionProg :=
  putAll (grade.files pid) (.process (grade.files pid) fun
    | false => .stop
    | true => removeAll ((grade.files pid).map Prod.fst) .stop)

/-- `PYTEST_NODE_IDS_FILE`. -/
def pytestNodeIdsFile : String := "/tmp/uenv-pytest-nodeids"

/-- What `evaluate` does with files: the node ids are written if they are too long for a command
line, and the grader is external if one is configured. -/
structure EvaluateCall where
  session : Nat
  testPatch : String
  testNanos : Nat
  nodeIds : Option String
  nodeIdsNanos : Nat
  external : Option ExternalGrade

def EvaluateCall.grade (pid : Nat) (evaluation : EvaluateCall) : SessionProg :=
  match evaluation.external with
  | none => .stop
  | some external => externalGrade pid external

def EvaluateCall.run (pid : Nat) (evaluation : EvaluateCall) : SessionProg :=
  match evaluation.nodeIds with
  | none => evaluation.grade pid
  | some nodeIds =>
    writeFile pid evaluation.session pytestNodeIdsFile nodeIds evaluation.nodeIdsNanos fun
      | false => .stop
      | true => evaluation.grade pid

def evaluate (pid : Nat) (evaluation : EvaluateCall) : SessionProg :=
  applyPatch pid evaluation.session evaluation.testPatch "test" evaluation.testNanos fun
    | false => .stop
    | true => evaluation.run pid

inductive SessionCall
  | writeFile (session : Nat) (path content : String) (nanos : Nat)
  | applyPatch (session : Nat) (patch label : String) (nanos : Nat)
  | evaluate (evaluation : EvaluateCall)

def SessionCall.program (pid : Nat) : SessionCall → SessionProg
  | writeFile session path content nanos =>
    UEnv.Worker.writeFile pid session path content nanos fun _ => .stop
  | applyPatch session patch label nanos =>
    UEnv.Worker.applyPatch pid session patch label nanos fun _ => .stop
  | evaluate evaluation => UEnv.Worker.evaluate pid evaluation

/-! ### Calls alone -/

variable {next : Bool → SessionProg}

/-- A temporary file is copied as it was written, and what it was copied to has its content. -/
theorem selfContained_deliver (pid : Nat) {tmp target : Path} (content : List Char)
    (apart : tmp ≠ target) (apart' : hostTmpPath pid ≠ target) (failed : SelfContained (next false))
    (delivered : ∀ own, own target = some (.holds content) → Alone own (next true)) :
    SelfContained (deliver pid tmp target content next) := by
  have copied : ∀ own, Alone own
      (backendWrite pid target content content fun ok => .unlink tmp (next ok)) := by
    intro own
    refine ⟨⟨Function.update_self _ _ _, ⟨Function.update_self _ _ _, ?_, ?_, ?_⟩, ?_⟩, ?_⟩
    · refine delivered _ ?_
      rw [Function.update_of_ne apart.symm, Function.update_of_ne apart'.symm, Function.update_self]
    · exact failed.alone _
    · exact failed.alone _
    · exact failed.alone _
    · exact failed.alone _
  refine ⟨fun own => ?_⟩
  refine ⟨⟨Function.update_self _ _ _, ⟨Function.update_self _ _ _, copied _, ?_⟩, ?_⟩, ?_⟩
  · exact failed.alone _
  · exact failed.alone _
  · exact failed.alone _

theorem selfContained_writeFile (pid session : Nat) (path content : String) (nanos : Nat)
    (after : ∀ ok, SelfContained (next ok)) :
    SelfContained (writeFile pid session path content nanos next) := by
  refine selfContained_deliver pid _ ?_ ?_ (after false) fun own _ => (after true).alone own
  · simp [hostTmp]
  · simp [hostTmpPath]

theorem selfContained_applyPatch (pid session : Nat) (patch label : String) (nanos : Nat)
    (after : ∀ ok, SelfContained (next ok)) :
    SelfContained (applyPatch pid session patch label nanos next) := by
  by_cases blank : isBlank patch = true
  · rw [applyPatch, if_pos blank]
    exact after true
  · rw [applyPatch, if_neg blank]
    refine selfContained_deliver pid _ ?_ ?_ ?_ ?_
    · simp [hostTmp, patchPath]
    · simp [hostTmpPath, patchPath]
    · exact after false
    · intro own delivered
      exact ⟨by simpa using delivered, fun ok => (after ok).alone own⟩

theorem alone_putAll {files : List (Path × List Char)} (apart : (files.map Prod.fst).Nodup)
    {next : SessionProg} (own : Path → Option (Belief Char))
    (after : ∀ own', (∀ file ∈ files, own' file.1 = some (.holds file.2)) →
      (∀ path ∉ files.map Prod.fst, own' path = own path) → Alone own' next) :
    Alone own (putAll files next) := by
  induction files generalizing own with
  | nil => exact after own (by simp) fun _ _ => rfl
  | cons file rest ih =>
    obtain ⟨path, content⟩ := file
    obtain ⟨fresh, apart⟩ := List.nodup_cons.mp apart
    refine ⟨⟨Function.update_self _ _ _, ?_, trivial⟩, trivial⟩
    refine ih apart _ fun own' written kept => after own' ?_ ?_
    · intro file member
      rcases List.mem_cons.mp member with rfl | member
      · rw [kept path fresh, Function.update_self]
      · exact written file member
    · intro other unlisted
      obtain ⟨ne, unlisted⟩ := not_or.mp (mt List.mem_cons.mpr unlisted)
      rw [kept other unlisted, Function.update_of_ne ne, Function.update_of_ne ne]

theorem alone_removeAll (paths : List Path) (own : Path → Option (Belief Char)) :
    Alone own (removeAll paths .stop) := by
  induction paths generalizing own with
  | nil => trivial
  | cons path rest ih => exact ih _

theorem selfContained_externalGrade (pid : Nat) (grade : ExternalGrade) :
    SelfContained (externalGrade pid grade) := by
  have apart : ((grade.files pid).map Prod.fst).Nodup := by
    cases grade with
    | contract =>
      simp [ExternalGrade.files, String.ext_iff]
      decide
    | smith =>
      simp [ExternalGrade.files, String.ext_iff]
      decide
  refine ⟨fun own => alone_putAll apart own fun own' written _ => ⟨written, fun ok => ?_⟩⟩
  cases ok with
  | false => trivial
  | true => exact alone_removeAll _ own'

theorem selfContained_grade (pid : Nat) (evaluation : EvaluateCall) :
    SelfContained (evaluation.grade pid) := by
  unfold EvaluateCall.grade
  split
  · exact selfContained_stop
  · exact selfContained_externalGrade pid _

theorem selfContained_run (pid : Nat) (evaluation : EvaluateCall) :
    SelfContained (evaluation.run pid) := by
  unfold EvaluateCall.run
  split
  · exact selfContained_grade pid evaluation
  · refine selfContained_writeFile pid _ _ _ _ fun ok => ?_
    cases ok with
    | false => exact selfContained_stop
    | true => exact selfContained_grade pid evaluation

theorem selfContained_program (pid : Nat) (call : SessionCall) :
    SelfContained (call.program pid) := by
  cases call with
  | writeFile session path content nanos =>
    rw [SessionCall.program]
    exact selfContained_writeFile pid session path content nanos fun _ => selfContained_stop
  | applyPatch session patch label nanos =>
    rw [SessionCall.program]
    exact selfContained_applyPatch pid session patch label nanos fun _ => selfContained_stop
  | evaluate evaluation =>
    rw [SessionCall.program, evaluate]
    refine selfContained_applyPatch pid _ _ _ _ fun ok => ?_
    cases ok with
    | false => exact selfContained_stop
    | true => exact selfContained_run pid evaluation

/-! ### Calls together -/

/-- The calls of one worker process. -/
abbrev sessionCalls (pid : Nat) : System (World Path Char) (Label SessionCall) :=
  calls (SessionCall.program pid)

/-- A call finds what it has put where it reads, and what it copies arrives. -/
structure Isolated (pid : Nat) (world : World Path Char) (i : Nat) : Prop where
  finds : Finds world (world.threads i).prog
  copies : ∀ source content target next,
    (world.threads i).prog = .copy source content target next →
    ∀ after ∈ (sessionCalls pid).step world (.exec i .done), after.content target = some content

/-- As long as no step of a call changes a path that another call has written and still reads, every
call is by itself: a grader and a script have the files of their call from their start to their end,
and a copy delivers the content of its call. -/
theorem isolated_of_undisturbed (pid : Nat) {world : World Path Char}
    (reached : ReachableWhen (sessionCalls pid) Undisturbed world) (i : Nat) :
    Isolated pid world i := by
  have finds := finds_of_undisturbed (selfContained_program pid) reached i
  refine ⟨finds, fun source content target next copying after taken => ?_⟩
  rw [copying] at finds
  exact content_of_copy finds copying taken

/-- A call that writes a file reads its own file of the host and the one that all calls share. -/
theorem not_needs_writeFile {pid session nanos : Nat} {path content : String} {other : Path}
    (own : other ≠ hostTmp "write" nanos) (shared : other ≠ hostTmpPath pid) :
    ¬ (writeFile pid session path content nanos fun _ => .stop).Needs other := by
  simp only [writeFile, deliver, cpInto, Prog.Needs, own.symm, Bool.exists_bool, or_false,
    false_or, not_and, not_exists]
  intro _ found
  cases found with
  | none => simp [Prog.Needs]
  | some => simp [backendWrite, Prog.Needs, shared.symm]

/-- Two writes at different times, which take turns until their own files are written. -/
def twoWrites : List (Label SessionCall) :=
  [.start 0 (.writeFile 0 "/app/a" "x" 1), .start 1 (.writeFile 1 "/app/b" "y" 2),
    .exec 0 .done, .exec 1 .done, .exec 0 .done, .exec 1 .done]

theorem undisturbed_of_two {world : World Path Char} {path : Path} {i : Nat}
    (other : Nat) (idle : ∀ k, (world.threads (k + 2)).prog = .stop) (two : i + other = 1)
    (changes : (world.threads i).prog.changes = some path)
    (apart : ¬ (world.threads other).prog.Needs path) :
    Undisturbed world (.exec i .done : Label SessionCall) := by
  intro changed change j ne needs
  obtain rfl := Option.some.inj (changes.symm.trans change)
  by_cases low : j < 2
  · obtain rfl : j = other := by omega
    exact apart needs
  · obtain ⟨k, rfl⟩ := Nat.exists_eq_add_of_le' (Nat.le_of_not_lt low)
    rw [idle] at needs
    exact needs

theorem isolated_write :
    Isolated 7 (((sessionCalls 7).exec {} twoWrites).getD {}) 0 := by
  have first : ¬ (writeFile 7 0 "/app/a" "x" 1 fun _ => .stop).Needs (hostTmp "write" 2) :=
    not_needs_writeFile (by decide +kernel) (by decide +kernel)
  have second : ¬ (writeFile 7 1 "/app/b" "y" 2 fun _ => .stop).Needs (hostTmp "write" 1) :=
    not_needs_writeFile (by decide +kernel) (by decide +kernel)
  have distinct : hostTmp "write" 1 ≠ hostTmp "write" 2 := by decide +kernel
  refine isolated_of_undisturbed 7 (.of_exec (.start rfl) twoWrites ?_ rfl) 0
  refine ⟨trivial, fun _ taken => ?_⟩
  cases taken
  refine ⟨trivial, fun _ taken => ?_⟩
  cases taken
  refine ⟨undisturbed_of_two 1 (fun _ => rfl) rfl rfl second, fun _ taken => ?_⟩
  cases taken
  refine ⟨undisturbed_of_two 0 (fun _ => rfl) rfl rfl fun needs =>
    first (.inl ⟨distinct, needs⟩), fun _ taken => ?_⟩
  cases taken
  refine ⟨undisturbed_of_two 1 (fun _ => rfl) rfl rfl fun needs =>
    second (.inl ⟨distinct.symm, needs⟩), fun _ taken => ?_⟩
  cases taken
  exact ⟨undisturbed_of_two 0 (fun _ => rfl) rfl rfl fun needs =>
    first (.inl ⟨distinct, true, needs⟩), fun _ _ => trivial⟩

/-- Two writes at different times; while the first copies, the second comes to its own copy. -/
def overlappingWrites : List (Label SessionCall) :=
  [.start 0 (.writeFile 0 "/app/a" "x" 1), .start 1 (.writeFile 1 "/app/b" "y" 2)] ++
    List.replicate 5 (.exec 0 .done) ++ List.replicate 4 (.exec 1 .done)

/-- The copies of all writes go through one file of the host: the second write has emptied it. -/
theorem copy_of_another_write :
    Reachable (sessionCalls 7) (((sessionCalls 7).exec {} overlappingWrites).getD {}) ∧
      ¬ Isolated 7 (((sessionCalls 7).exec {} overlappingWrites).getD {}) 0 := by
  refine ⟨.of_exec rfl overlappingWrites rfl, fun isolated => ?_⟩
  have found : World.content (((sessionCalls 7).exec {} overlappingWrites).getD {})
      (hostTmpPath 7) = some ['x'] := isolated.finds
  exact absurd found (by decide +kernel)

end UEnv.Worker
