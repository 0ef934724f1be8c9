import Mathlib.Data.List.TakeWhile
import UEnv.Bridge.Batch
import UEnv.Bridge.NativeAgentControl
import UEnv.Bridge.Results

/-!
# The evaluator of the code plugin

`run_inline_tests` and `main` of `evaluate_code.py`, and `evaluate` of the `dscodebench` backend,
which starts the script and reads its verdict from the standard output. Candidate and tests run in
one namespace and print to the same output; a candidate is any program of effects and endings.
-/

namespace UEnv.Plugins.Code

open Bridge Bridge.Client Fallible Obs Text

/-! ### Candidates and tests -/

/-- Where an exception stands in the hierarchy: below `AssertionError`, else below `Exception`, else
outside of it. -/
inductive ExceptionKind
  | assertion
  | exception
  | base
  deriving DecidableEq

/-- An exception with its `str` and what `format_exc` makes of it. -/
structure PyException where
  kind : ExceptionKind
  typeName : String
  message : String
  traceback : String

/-- A value that JSON could not write, with the answers to `bool`, `int`, `str` and `==` a text. -/
structure PyObject where
  truthy : Except PyException Bool := .ok true
  int : Except PyException Int
  str : Except PyException String
  equals : String → Bool := fun _ => false

/-- A value of a dictionary. -/
inductive PyItem
  | json (value : Json)
  | object (object : PyObject)

/-- The entries of a dictionary whose keys are texts. -/
abbrev PyDict := List (String × PyItem)

/-- The value of a global name: one that JSON could write, a dictionary, or any other. -/
inductive PyValue
  | json (value : Json)
  | dict (entries : PyDict)
  | other

abbrev Namespace := String → Option PyValue

inductive Action
  | print (text : List Char)
  -- a text on the standard error
  | warn (text : List Char)
  | setGlobal (name : String) (value : PyValue)

/-- How a piece of code ends: with a value, an exception, or the end of the process. -/
inductive Ending (α : Type)
  | returned (value : α)
  | raised (exc : PyException)
  | exited (code : Int)

structure Behaviour (α : Type) where
  actions : List Action := []
  ending : Ending α

/-- What a candidate does when it is loaded, and when one of its functions is called after the calls
so far, the last first. -/
structure Candidate where
  load : Behaviour Unit
  call : List (String × List Json) → String → List Json → Behaviour Json

/-- A test program without exception handling. -/
inductive Test
  | done
  | raise (exc : PyException)
  | exit (code : Int)
  | act (action : Action) (rest : Test)
  | look (next : Namespace → Test)
  | call (name : String) (args : List Json) (next : Json → Test)

/-- The evaluator's process. -/
structure Process where
  stdout : List Char := []
  stderr : List Char := []
  globals : Namespace

namespace Process

variable (process : Process)

def act : Action → Process
  | .print text => { process with stdout := process.stdout ++ text }
  | .warn text => { process with stderr := process.stderr ++ text }
  | .setGlobal name value => { process with
      globals := fun other => if other = name then some value else process.globals other }

def take (actions : List Action) : Process := actions.foldl act process

end Process

/-- Run the tests against a candidate. -/
def Test.run (candidate : Candidate) (process : Process) (calls : List (String × List Json)) :
    Test → Process × Ending Unit
  | done => (process, .returned ())
  | raise exc => (process, .raised exc)
  | exit code => (process, .exited code)
  | act action rest => rest.run candidate (process.act action) calls
  | look next => (next process.globals).run candidate process calls
  | call name args next =>
    let behaviour := candidate.call calls name args
    let process := process.take behaviour.actions
    match behaviour.ending with
    | .returned value => (next value).run candidate process ((name, args) :: calls)
    | .raised exc => (process, .raised exc)
    | .exited code => (process, .exited code)

/-! ### The script -/

/-- The configuration as far as the inline tests read it. -/
structure EvaluationRequest where
  code : String
  entryPoint : Option String := none
  numTests : Option UInt32 := none

/-- The dictionary that `_result` makes. -/
structure Verdict where
  passed : Bool
  testsRun : Int
  testsPassed : Int
  executionTimeMs : Int
  error : Option String := none
  errorCategory : Option String := none
  deriving DecidableEq

/-- What the script leaves to Python: `json`, `str` of what is no string, `int`, which may raise,
and `repr` of a string. -/
structure Python where
  loads : List Char → Option PyValue
  dumps : Verdict → List Char
  str : Json → String
  int : Json → Except PyException Int
  repr : String → String

def mentions (words : List String) (text : List Char) : Bool :=
  words.any fun word => has word.toList text

/-- `str.lower()`. -/
def lower (text : String) : List Char := text.toList.flatMap lowered

/-- `_classify_exception` (evaluate_code.py, 43-59). -/
def classifyException (exc : PyException) (text : String) : String :=
  let blob := lower (exc.typeName ++ ": " ++ text)
  if mentions ["timed out", "timeout"] blob then "timeout"
  else if mentions ["modulenotfounderror", "no module named", "importerror",
      "cannot import name"] blob then "dependency_error"
  else if exc.kind = .assertion then "wrong_answer"
  else "candidate_runtime_error"

/-- The result of an exception. -/
def failure (exc : PyException) (executionTimeMs : Int) : Verdict :=
  let text := if exc.traceback.isEmpty then exc.message else exc.traceback
  { passed := false, testsRun := 0, testsPassed := 0, executionTimeMs, error := some text
    errorCategory := some (classifyException exc text) }

/-- `raw` as a dictionary with a key `passed`. -/
def asVerdict (raw : PyValue) : Option PyDict :=
  let entries := match raw with
    | .json (.obj fields) => fields.map fun field => (field.1, PyItem.json field.2)
    | .dict entries => entries
    | _ => []
  if (entries.lookup "passed").isSome then some entries else none

/-- `raw.get(name)`. -/
def PyDict.get (raw : PyDict) (name : String) : PyItem := (raw.lookup name).getD (.json .null)

/-- `bool(value)`. -/
def PyItem.truthy : PyItem → Except PyException Bool
  | json value => .ok (Client.truthy value)
  | object o => o.truthy

section Script

variable (py : Python)

/-- `str(value)`. -/
def PyItem.str : PyItem → Except PyException String
  | json value => .ok (stringOr py.str value)
  | object o => o.str

/-- The category that `_from_harness_dict` finds for a failure without one. -/
def harnessCategory (testsRun testsPassed : Int) (error category : PyItem) :
    Except PyException PyItem := do
  if 0 < testsRun ∧ testsPassed < testsRun then return .json (.str "wrong_answer")
  if ← error.truthy then
    let text := lower (← error.str py)
    if has "no outputs".toList text then return .json (.str "candidate_runtime_error")
    if mentions ["modulenotfound", "import", "no module named"] text then
      return .json (.str "dependency_error")
    return .json (.str "harness_error")
  return category

/-- `None if value in (None, "", …) else str(value)`. -/
def textUnless (skipped : List String) : PyItem → Except PyException (Option String)
  | .json .null => .ok none
  | .json value =>
    let text := stringOr py.str value
    .ok (if text ∈ skipped ∧ (value.asStr).isSome then none else some text)
  | .object o => if skipped.any o.equals then .ok none else o.str.map some

/-- `int(raw.get(name) or 0)`. -/
def harnessCount (raw : PyDict) (name : String) : Except PyException Int :=
  match raw.get name with
  | .json value => py.int (orElse value (.posInt 0))
  | .object o => do if ← o.truthy then o.int else py.int (.posInt 0)

/-- `_from_harness_dict` (evaluate_code.py, 62-87). -/
def fromHarnessDict (raw : PyDict) (executionTimeMs : Int) : Except PyException Verdict := do
  let passed ← (raw.get "passed").truthy
  let testsRun ← harnessCount py raw "tests_run"
  let testsPassed ← harnessCount py raw "tests_passed"
  let error := raw.get "error"
  let category := raw.get "error_category"
  let named ← category.truthy
  let category ← (if !named && !passed then harnessCategory py testsRun testsPassed error category
    else .ok category)
  let error ← textUnless py [""] error
  let category ← textUnless py ["", "none"] category
  pure { passed, testsRun, testsPassed, executionTimeMs, error
         errorCategory := category.filter (· ≠ "") }

/-- The texts that `_parse_assertion_result` tries: the object at the end of the message first. -/
def resultTexts (message : List Char) : List (List Char) :=
  match splitFirst (· = '\x7b') message with
  | some (_, rest) =>
    if message.getLast? = some '\x7d' then ['\x7b' :: rest, message] else [message]
  | none => [message]

/-- `_parse_assertion_result` (evaluate_code.py, 90-107). -/
def parseAssertionResult (exc : PyException) : Option PyDict :=
  let message := trimBy NativeAgentControl.isSpace exc.message.toList
  if message.isEmpty then none
  else (resultTexts message).findSome? fun text => (py.loads text).bind asVerdict

/-- How `run_inline_tests` went. -/
inductive Course
  | loadRaised (process : Process) (exc : PyException)
  | loadExited (process : Process) (code : Int)
  | noEntryPoint (process : Process) (entryPoint : String)
  | tested (process : Process) (ending : Ending Unit)

/-- The process with a fresh namespace. -/
def EvaluationRequest.start (request : EvaluationRequest) : Process where
  globals := fun name =>
    if name = "__name__" then some (.json (.str "__uenv_eval__"))
    else if name = "code" then some (.json (.str request.code))
    -- `exec` puts it there
    else if name = "__builtins__" then some .other
    else none

/-- The candidate is loaded, its entry point is looked up, and the tests run. -/
def course (request : EvaluationRequest) (candidate : Candidate) (test : Test) : Course :=
  let process := request.start.take candidate.load.actions
  match candidate.load.ending with
  | .raised exc => .loadRaised process exc
  | .exited code => .loadExited process code
  | .returned _ =>
    match (request.entryPoint.filter (· ≠ "")).filter fun name => (process.globals name).isNone with
    | some entryPoint => .noEntryPoint process entryPoint
    | none =>
      let tested := test.run candidate process []
      .tested tested.1 tested.2

/-- The tests ran to their end without an exception. -/
def Course.Finished : Course → Prop
  | tested _ (.returned _) => True
  | _ => False

/-- What `main` comes to: a verdict to print, an exception that nothing catches, or an exit. -/
inductive Finish
  | verdict (process : Process) (verdict : Verdict)
  | uncaught (process : Process) (exc : PyException)
  | exited (process : Process) (code : Int)

/-- The harness' dictionary in the namespace. -/
def harnessResult (globals : Namespace) : Option PyDict := (globals "_result").bind asVerdict

/-- `except Exception`. -/
def caught (process : Process) (exc : PyException) (executionTimeMs : Int) : Finish :=
  if exc.kind = .base then .uncaught process exc
  else .verdict process (failure exc executionTimeMs)

/-- `main` catches what the reading of a dictionary raises. -/
def readHarness (process : Process) (raw : PyDict) (executionTimeMs : Int) : Finish :=
  match fromHarnessDict py raw executionTimeMs with
  | .ok verdict => .verdict process verdict
  | .error exc => caught process exc executionTimeMs

/-- The rest of `run_inline_tests`, and `main`. -/
def Course.finish (request : EvaluationRequest) (executionTimeMs : Int) : Course → Finish
  | loadRaised process exc => caught process exc executionTimeMs
  | loadExited process code => .exited process code
  | noEntryPoint process entryPoint => .verdict process {
      passed := false, testsRun := 1, testsPassed := 0, executionTimeMs
      error := some ("entry point " ++ py.repr entryPoint ++ " not found in generated code")
      errorCategory := some "candidate_runtime_error" }
  | tested process (.raised exc) =>
    if exc.kind = .assertion then
      match parseAssertionResult py exc with
      | some raw => readHarness py process raw executionTimeMs
      | none => caught process exc executionTimeMs
    else caught process exc executionTimeMs
  | tested process (.exited code) => .exited process code
  | tested process (.returned _) =>
    match harnessResult process.globals with
    | some raw => readHarness py process raw executionTimeMs
    | none =>
      let testsRun : Int := ((request.numTests.filter (· ≠ 0)).getD 1).toNat
      .verdict process { passed := true, testsRun, testsPassed := testsRun, executionTimeMs }

/-- What the parent sees of a process that ended. -/
structure Output where
  exitCode : Int
  stdout : List Char
  stderr : List Char

/-- `print(json.dumps(result))` and exit; a code of `sys.exit` is cut to eight bits. -/
def Finish.output : Finish → Output
  | verdict process result => ⟨0, process.stdout ++ py.dumps result ++ ['\n'], process.stderr⟩
  | uncaught process exc => ⟨1, process.stdout, process.stderr ++ exc.traceback.toList⟩
  | exited process code => ⟨code % 256, process.stdout, process.stderr⟩

end Script

/-! ### The backend -/

structure EvaluationResult where
  passed : Bool
  testsRun : UInt32
  testsPassed : UInt32
  executionTimeMs : UInt64
  error : Option String := none
  errorCategory : Option String := none
  deriving DecidableEq

/-- `MAX_IO_CHARS`. -/
def maxIoChars : Nat := 16 * 1024

def marker : List Char := "…[truncated]".toList

/-- `truncate_chars` (executor.rs, 193-199). -/
def truncateChars (text : List Char) (maxChars : Nat) : List Char :=
  if text.length ≤ maxChars then text else text.take maxChars ++ marker

/-- `fail_result` (executor.rs, 50-59). -/
def failResult (elapsedMs : UInt64) (error category : String) : EvaluationResult where
  passed := false
  testsRun := 0
  testsPassed := 0
  executionTimeMs := elapsedMs
  error := some error
  errorCategory := some category

def blank (text : List Char) : Bool := text.all Service.isWhiteSpace

/-- The last line that is not blank. -/
def jsonLine (stdout : List Char) : List Char :=
  ((lines stdout).reverse.find? fun line => !blank line).getD (trimBy Service.isWhiteSpace stdout)

/-- `evaluate`, from the end of the process on; `fromStr` is `from_str` of `serde_json`. -/
def evaluate (fromStr : List Char → Except String EvaluationResult) (elapsedMs : UInt64)
    (output : Output) : EvaluationResult :=
  let stdout := truncateChars output.stdout maxIoChars
  let stderr := truncateChars output.stderr maxIoChars
  if output.exitCode ≠ 0 then
    let text := trimBy Service.isWhiteSpace (if blank stderr then stdout else stderr)
    failResult elapsedMs
      (if text.isEmpty then s!"python exited with exit status: {output.exitCode}"
        else String.ofList text) "harness_error"
  else
    match fromStr (jsonLine stdout) with
    | .ok result =>
      if result.executionTimeMs = 0 then { result with executionTimeMs := elapsedMs } else result
    | .error e =>
      failResult elapsedMs (s!"parse evaluator output: {e}; stdout={String.ofList stdout}; " ++
        s!"stderr={String.ofList stderr}") "harness_error"

/-! ### The line of the verdict -/

/-- The white space of JSON. -/
def jsonSpace (c : Char) : Bool := c = ' ' || c = '\t' || c = '\n' || c = '\r'

/-- The counts and the time are in the range of their fields. -/
def Verdict.Fits (verdict : Verdict) : Prop :=
  (0 ≤ verdict.testsRun ∧ verdict.testsRun < 2 ^ 32) ∧
    (0 ≤ verdict.testsPassed ∧ verdict.testsPassed < 2 ^ 32) ∧
    0 ≤ verdict.executionTimeMs ∧ verdict.executionTimeMs < 2 ^ 64

instance (verdict : Verdict) : Decidable verdict.Fits := inferInstanceAs (Decidable (_ ∧ _))

/-- A verdict as the backend's type. -/
def Verdict.decoded (verdict : Verdict) : Option EvaluationResult :=
  if verdict.Fits then some {
    passed := verdict.passed
    testsRun := UInt32.ofNat verdict.testsRun.toNat
    testsPassed := UInt32.ofNat verdict.testsPassed.toNat
    executionTimeMs := UInt64.ofNat verdict.executionTimeMs.toNat
    error := verdict.error
    errorCategory := verdict.errorCategory }
  else none

/-- What is documented of the two JSON libraries, for the text of one verdict: it is one line in
braces, it reads as the verdict after white space, any other text before it is an error, and so is
the mark of a cut after any text. -/
structure Reads (fromStr : List Char → Except String EvaluationResult) (line : List Char)
    (verdict : Verdict) : Prop where
  framed : ∃ inside, line = '\x7b' :: inside ++ ['\x7d']
  oneLine : '\n' ∉ line
  spaced : ∀ space, (∀ c ∈ space, jsonSpace c = true) →
    (fromStr (space ++ line)).toOption = verdict.decoded
  alone : ∀ text, (fromStr (text ++ line)).isOk = true → ∀ c ∈ text, jsonSpace c = true
  marked : ∀ text, (fromStr (text ++ marker)).isOk = false

/-- The line of a verdict is within what the backend keeps, and nothing else is on it. -/
def Readable (process : Process) (line : List Char) : Prop :=
  process.stdout.length + line.length + 1 ≤ maxIoChars ∧
    ∀ c ∈ lastLine process.stdout, jsonSpace c = true

section Reading

variable {fromStr : List Char → Except String EvaluationResult} {line : List Char}
  {verdict : Verdict}

theorem jsonLine_eq {stdout last : List Char} {before : List (List Char)}
    (split : lines stdout = before ++ [last]) (visible : blank last = false) :
    jsonLine stdout = last := by
  simp [jsonLine, split, visible]

theorem Reads.ne_nil (reads : Reads fromStr line verdict) : line ≠ [] := by
  obtain ⟨inside, rfl⟩ := reads.framed
  simp

theorem Reads.visible (reads : Reads fromStr line verdict) (text : List Char) :
    blank (text ++ line) = false := by
  obtain ⟨inside, rfl⟩ := reads.framed
  simp [blank, Service.isWhiteSpace]

/-- Output that is not cut ends in the line of the verdict, after what was left on that line. -/
theorem Reads.jsonLine_of_short (reads : Reads fromStr line verdict) (stdout : List Char) :
    jsonLine (stdout ++ line ++ ['\n']) = lastLine stdout ++ line := by
  obtain ⟨before, -, split⟩ := lines_append stdout reads.oneLine reads.ne_nil
  obtain ⟨inside, framed⟩ := reads.framed
  have ended : endLine (lastLine stdout ++ line).reverse = lastLine stdout ++ line := by
    simp [framed, endLine]
  rw [ended] at split
  exact jsonLine_eq split (reads.visible _)

theorem jsonLine_of_cut (text : List Char) :
    jsonLine (text ++ marker) = lastLine text ++ marker := by
  have clean : '\n' ∉ marker := by decide
  obtain ⟨before, split, -⟩ := lines_append text clean (by decide)
  refine jsonLine_eq split ?_
  rw [blank, List.all_append]
  have seen : marker.all Service.isWhiteSpace = false := by decide
  simp [seen]

theorem evaluate_passed (elapsedMs : UInt64) (output : Output) :
    (evaluate fromStr elapsedMs output).passed = true ↔ output.exitCode = 0 ∧ ∃ result,
      fromStr (jsonLine (truncateChars output.stdout maxIoChars)) = .ok result ∧
        result.passed = true := by
  unfold evaluate
  by_cases success : output.exitCode = 0
  · cases read : fromStr (jsonLine (truncateChars output.stdout maxIoChars)) with
    | ok result => by_cases untimed : result.executionTimeMs = 0 <;> simp [success, read, untimed]
    | error => simp [success, read, failResult]
  · simp [success, failResult]

theorem Reads.passed_iff (reads : Reads fromStr line verdict) (elapsedMs : UInt64)
    (process : Process) (stderr : List Char) :
    (evaluate fromStr elapsedMs ⟨0, process.stdout ++ line ++ ['\n'], stderr⟩).passed = true ↔
      Readable process line ∧ verdict.passed = true ∧ verdict.Fits := by
  rw [evaluate_passed]
  by_cases short : process.stdout.length + line.length + 1 ≤ maxIoChars
  · have whole : truncateChars (process.stdout ++ line ++ ['\n']) maxIoChars =
        process.stdout ++ line ++ ['\n'] :=
      if_pos (by simpa [Nat.add_assoc] using short)
    rw [whole, reads.jsonLine_of_short]
    by_cases clear : ∀ c ∈ lastLine process.stdout, jsonSpace c = true
    · have read := reads.spaced _ clear
      simp only [Verdict.decoded] at read
      split at read
      · rename_i fits
        cases answer : fromStr (lastLine process.stdout ++ line) with
        | ok =>
          rw [answer] at read
          cases read
          simpa [Readable, short, fits] using fun _ => clear
        | error =>
          rw [answer] at read
          cases read
      · rename_i unfit
        cases answer : fromStr (lastLine process.stdout ++ line) with
        | ok =>
          rw [answer] at read
          cases read
        | error => simp [unfit]
    · have unread : ¬(fromStr (lastLine process.stdout ++ line)).isOk = true :=
        fun read => clear (reads.alone _ read)
      refine iff_of_false ?_ fun holds => clear holds.1.2
      rintro ⟨-, result, answer, -⟩
      rw [answer] at unread
      exact unread rfl
  · have cut : truncateChars (process.stdout ++ line ++ ['\n']) maxIoChars =
        (process.stdout ++ line ++ ['\n']).take maxIoChars ++ marker :=
      if_neg (by simpa [Nat.add_assoc] using short)
    rw [cut, jsonLine_of_cut]
    refine iff_of_false ?_ fun holds => short holds.1.1
    rintro ⟨-, result, answer, -⟩
    have unread := reads.marked (lastLine ((process.stdout ++ line ++ ['\n']).take maxIoChars))
    rw [answer] at unread
    cases unread

end Reading

/-! ### Who decides -/

section Deciding

variable (py : Python) (request : EvaluationRequest) (executionTimeMs : Int)

/-- A dictionary says that the tests passed, with counts and texts that can be read. -/
structure SaysPassed (raw : PyDict) : Prop where
  passed : (raw.get "passed").truthy.toOption = some true
  testsRun : ∃ n, harnessCount py raw "tests_run" = .ok n ∧ 0 ≤ n ∧ n < 2 ^ 32
  testsPassed : ∃ n, harnessCount py raw "tests_passed" = .ok n ∧ 0 ≤ n ∧ n < 2 ^ 32
  error : (textUnless py [""] (raw.get "error")).isOk
  category : (raw.get "error_category").truthy.isOk ∧
    (textUnless py ["", "none"] (raw.get "error_category")).isOk

/-- The time since the start fits its field. -/
def Timely : Prop := 0 ≤ executionTimeMs ∧ executionTimeMs < 2 ^ 64

/-- The line that `main` prints for the harness' dictionary, if it can be read. -/
def harnessLine (raw : PyDict) : List Char :=
  (fromHarnessDict py raw executionTimeMs).toOption.elim [] py.dumps

/-- The line that `main` prints for tests that ran to their end. -/
def passedLine : List Char :=
  let testsRun : Int := ((request.numTests.filter (· ≠ 0)).getD 1).toNat
  py.dumps { passed := true, testsRun, testsPassed := testsRun, executionTimeMs }

/-- What the candidate must not have done: after tests that ran to their end, left a dictionary
`_result` that does not say so, or output that hides the line of the verdict; raised an assertion
whose text is a dictionary that says so; or printed a verdict and ended the process with success.
The clock must not have gone back. -/
def Undecided (fromStr : List Char → Except String EvaluationResult) : Course → Prop
  | .tested process (.returned _) => Timely executionTimeMs ∧
    match harnessResult process.globals with
    | some raw => SaysPassed py raw ∧ Readable process (harnessLine py executionTimeMs raw)
    | none => Readable process (passedLine py request executionTimeMs)
  | .tested process (.raised exc) => exc.kind = .assertion → Timely executionTimeMs →
    ∀ raw ∈ parseAssertionResult py exc,
      SaysPassed py raw → ¬Readable process (harnessLine py executionTimeMs raw)
  | .tested process (.exited code) | .loadExited process code => code % 256 = 0 →
    ∀ result, fromStr (jsonLine (truncateChars process.stdout maxIoChars)) = .ok result →
      result.passed = false
  | .loadRaised _ _ | .noEntryPoint _ _ => True

variable {py request executionTimeMs}

theorem fromHarnessDict_passed (raw : PyDict) :
    (∃ verdict, fromHarnessDict py raw executionTimeMs = .ok verdict ∧ verdict.passed = true ∧
        verdict.Fits) ↔ SaysPassed py raw ∧ Timely executionTimeMs := by
  constructor
  · rintro ⟨verdict, read, passed, inRun, inPassed, timely⟩
    obtain ⟨said, truth, read⟩ := bind_eq_ok.mp read
    obtain ⟨testsRun, run, read⟩ := bind_eq_ok.mp read
    obtain ⟨testsPassed, pass, read⟩ := bind_eq_ok.mp read
    obtain ⟨named, naming, read⟩ := bind_eq_ok.mp read
    obtain ⟨category, kept, read⟩ := bind_eq_ok.mp read
    obtain ⟨error, errorText, read⟩ := bind_eq_ok.mp read
    obtain ⟨text, categoryText, read⟩ := bind_eq_ok.mp read
    cases read
    obtain rfl : said = true := passed
    rw [Bool.not_true, Bool.and_false] at kept
    cases kept
    exact ⟨⟨by rw [truth]; rfl, ⟨testsRun, run, inRun⟩, ⟨testsPassed, pass, inPassed⟩,
      isOk_iff.mpr ⟨error, errorText⟩, isOk_iff.mpr ⟨named, naming⟩,
      isOk_iff.mpr ⟨text, categoryText⟩⟩, timely⟩
  · rintro ⟨⟨said, ⟨testsRun, run, inRun⟩, ⟨testsPassed, pass, inPassed⟩, errorText, naming,
      categoryText⟩, timely⟩
    obtain ⟨error, errorText⟩ := isOk_iff.mp errorText
    obtain ⟨named, naming⟩ := isOk_iff.mp naming
    obtain ⟨text, categoryText⟩ := isOk_iff.mp categoryText
    have truth : (raw.get "passed").truthy = .ok true := by
      cases read : (raw.get "passed").truthy with
      | ok b =>
        rw [read] at said
        rw [Option.some.inj said]
      | error =>
        rw [read] at said
        cases said
    refine ⟨{ passed := true, testsRun, testsPassed, executionTimeMs, error
              errorCategory := text.filter (· ≠ "") }, ?_, rfl, inRun, inPassed, timely⟩
    refine bind_eq_ok.mpr ⟨true, truth, bind_eq_ok.mpr ⟨testsRun, run, bind_eq_ok.mpr
      ⟨testsPassed, pass, bind_eq_ok.mpr ⟨named, naming, bind_eq_ok.mpr
        ⟨raw.get "error_category", ?_, bind_eq_ok.mpr ⟨error, errorText, bind_eq_ok.mpr
          ⟨text, categoryText, rfl⟩⟩⟩⟩⟩⟩⟩
    rw [Bool.not_true, Bool.and_false]
    rfl

/-- The verdict that is printed, if one is. -/
def Finish.verdict? : Finish → Option Verdict
  | verdict _ result => some result
  | uncaught _ _ | exited _ _ => none

section Verdicts

variable {fromStr : List Char → Except String EvaluationResult}

theorem caught_fails (elapsedMs : UInt64) (process : Process) (exc : PyException)
    (reads : ∀ result ∈ (caught process exc executionTimeMs).verdict?,
      Reads fromStr (py.dumps result) result) :
    ¬(evaluate fromStr elapsedMs
        ((caught process exc executionTimeMs).output py)).passed = true := by
  by_cases base : exc.kind = .base
  · simp [caught, base, evaluate_passed, Finish.output]
  · simp only [caught, base, if_false] at reads ⊢
    rw [Finish.output, (reads _ rfl).passed_iff]
    simp [failure]

theorem harness_passed_iff (elapsedMs : UInt64) (process : Process) (raw : PyDict)
    (reads : ∀ result ∈ (readHarness py process raw executionTimeMs).verdict?,
      Reads fromStr (py.dumps result) result) :
    (evaluate fromStr elapsedMs
        ((readHarness py process raw executionTimeMs).output py)).passed = true ↔
      Timely executionTimeMs ∧ SaysPassed py raw ∧
        Readable process (harnessLine py executionTimeMs raw) := by
  have decided : (∃ verdict, fromHarnessDict py raw executionTimeMs = .ok verdict ∧
      verdict.passed = true ∧ verdict.Fits) ↔ SaysPassed py raw ∧ Timely executionTimeMs :=
    fromHarnessDict_passed raw
  unfold readHarness at reads ⊢
  unfold harnessLine
  cases read : fromHarnessDict py raw executionTimeMs with
  | ok verdict =>
    rw [read] at reads decided
    have fits : verdict.passed = true ∧ verdict.Fits ↔ SaysPassed py raw ∧ Timely executionTimeMs :=
      ⟨fun fits => decided.mp ⟨verdict, rfl, fits⟩, fun said => by
        obtain ⟨_, same, fits⟩ := decided.mpr said
        cases same
        exact fits⟩
    rw [Finish.output, (reads verdict rfl).passed_iff, fits]
    change Readable process (py.dumps verdict) ∧ _ ↔ _ ∧ _ ∧ Readable process (py.dumps verdict)
    tauto
  | error exc =>
    rw [read] at reads decided
    refine iff_of_false (caught_fails elapsedMs process exc reads) fun holds => ?_
    obtain ⟨_, made, _⟩ := decided.mpr ⟨holds.2.1, holds.1⟩
    cases made

theorem exited_passed_iff (elapsedMs : UInt64) (process : Process) (code : Int) :
    (¬(evaluate fromStr elapsedMs (Finish.output py (.exited process code))).passed = true) ↔
      (code % 256 = 0 →
        ∀ result, fromStr (jsonLine (truncateChars process.stdout maxIoChars)) = .ok result →
          result.passed = false) := by
  rw [evaluate_passed]
  simp [Finish.output]

end Verdicts

end Deciding

/-! ### Runs -/

/-- A reader that knows one line. -/
def reader (line : List Char) (result : EvaluationResult) (text : List Char) :
    Except String EvaluationResult :=
  if text.dropWhile jsonSpace = line then .ok result else .error "expected value"

theorem reads_reader {line : List Char} {result : EvaluationResult} {verdict : Verdict}
    (inside : List Char) (framed : line = '\x7b' :: inside ++ ['\x7d']) (oneLine : '\n' ∉ line)
    (decoded : verdict.decoded = some result) : Reads (reader line result) line verdict where
  framed := ⟨inside, framed⟩
  oneLine := oneLine
  spaced := by
    intro space spaces
    have kept : (space ++ line).dropWhile jsonSpace = line := by
      rw [List.dropWhile_append, List.dropWhile_eq_nil_iff.mpr spaces, framed]
      simp [jsonSpace]
    simp [reader, kept, decoded, Except.toOption]
  alone := by
    intro text read
    unfold reader at read
    split at read
    · rename_i same
      rw [List.dropWhile_append] at same
      split at same
      · rename_i spaces
        exact List.dropWhile_eq_nil_iff.mp (List.isEmpty_iff.mp spaces)
      · rename_i rest
        have none := List.append_left_eq_self.mp same
        simp [none] at rest
    · cases read
  marked := by
    intro text
    have other : (text ++ marker).dropWhile jsonSpace ≠ line := by
      rw [List.dropWhile_append, framed]
      intro same
      have last := congrArg List.getLast? same
      rw [List.getLast?_concat] at last
      split at last
      · exact absurd last (by decide)
      · rw [List.getLast?_append_of_ne_nil _ (by decide)] at last
        exact absurd last (by decide)
    rw [reader, if_neg other]
    rfl

/-- A verdict without an error, as `json` writes it. -/
def plainDumps (verdict : Verdict) : List Char :=
  ("\x7b\"passed\": " ++ (if verdict.passed then "true" else "false") ++
    ", \"tests_run\": " ++ toString verdict.testsRun ++
    ", \"tests_passed\": " ++ toString verdict.testsPassed ++
    ", \"execution_time_ms\": " ++ toString verdict.executionTimeMs ++
    ", \"error\": null\x7d").toList

/-- Python as far as the runs below need it. -/
def plainPython : Python where
  loads text := if text = "\x7b\"passed\": true\x7d".toList then
    some (.json (.obj [("passed", .bool true)])) else none
  dumps := plainDumps
  str _ := ""
  int value := match value with
    | .posInt n => .ok n.toNat
    | _ => .error ⟨.exception, "TypeError", "", ""⟩
  repr text := "'" ++ text ++ "'"

def assertion (message : String) : PyException := ⟨.assertion, "AssertionError", message, ""⟩

/-- `assert add(1, 2) == 3`. -/
def addTest : Test := .call "add" [.posInt 1, .posInt 2] fun value =>
  match value with
  | .posInt 3 => .done
  | _ => .raise (assertion "")

def addRequest : EvaluationRequest where
  code := "def add(a, b): ..."

/-- A candidate whose functions all end in one way. -/
def candidate (loaded : List Action) (ending : Ending Json) : Candidate where
  load := { actions := loaded, ending := .returned () }
  call _ _ _ := { ending }

def honest : Candidate := candidate [.print []] (.returned (.posInt 3))

/-- `add` raises an assertion whose text is a verdict. -/
def forger : Candidate := candidate [] (.raised (assertion "\x7b\"passed\": true\x7d"))

/-- `add` is right, and loading it prints as much as the backend reads. -/
def talker : Candidate := candidate [.print (List.replicate maxIoChars '-')] (.returned (.posInt 3))

/-- The verdict of tests that ran to their end, and the one that the forger writes. -/
def passedVerdict : Verdict :=
  { passed := true, testsRun := 1, testsPassed := 1, executionTimeMs := 5 }

def forgedVerdict : Verdict :=
  { passed := true, testsRun := 0, testsPassed := 0, executionTimeMs := 5 }

/-- `from_str` on the line of a verdict. -/
def readerOf (verdict : Verdict) : List Char → Except String EvaluationResult :=
  reader (plainDumps verdict) ⟨verdict.passed, UInt32.ofNat verdict.testsRun.toNat,
    UInt32.ofNat verdict.testsPassed.toNat, UInt64.ofNat verdict.executionTimeMs.toNat, none, none⟩

theorem reads_passed : Reads (readerOf passedVerdict) (plainDumps passedVerdict) passedVerdict := by
  refine reads_reader (plainDumps passedVerdict).tail.dropLast ?_ ?_ ?_ <;> decide +kernel

theorem reads_forged : Reads (readerOf forgedVerdict) (plainDumps forgedVerdict) forgedVerdict := by
  refine reads_reader (plainDumps forgedVerdict).tail.dropLast ?_ ?_ ?_ <;> decide +kernel

/-- The tests run to their end on both candidates whose `add` is right. -/
theorem course_right (loaded : List Char) :
    course addRequest (candidate [.print loaded] (.returned (.posInt 3))) addTest =
      .tested (addRequest.start.act (.print loaded)) (.returned ()) := by
  simp [course, candidate, addRequest, addTest, Process.take, Test.run]

theorem course_forger : course addRequest forger addTest =
    .tested addRequest.start (.raised (assertion "\x7b\"passed\": true\x7d")) := by
  simp [course, forger, candidate, addRequest, addTest, Process.take, Test.run]

attribute [local simp] EvaluationRequest.start

theorem finish_right (loaded : List Char) :
    (Course.tested (addRequest.start.act (.print loaded)) (.returned ())).finish plainPython
      addRequest 5 = .verdict (addRequest.start.act (.print loaded)) passedVerdict := by
  simp [Course.finish, harnessResult, Process.act, passedVerdict, addRequest]

theorem finish_forger : (Course.tested addRequest.start
        (.raised (assertion "\x7b\"passed\": true\x7d"))).finish plainPython addRequest 5 =
      .verdict addRequest.start forgedVerdict := by
  have parsed : parseAssertionResult plainPython (assertion "\x7b\"passed\": true\x7d") =
      some [("passed", .json (.bool true))] := rfl
  have read : readHarness plainPython addRequest.start [("passed", .json (.bool true))] 5 =
      .verdict addRequest.start forgedVerdict := rfl
  have kind : (assertion "\x7b\"passed\": true\x7d").kind = .assertion := rfl
  simp only [Course.finish, kind, parsed, read, if_true]

end UEnv.Plugins.Code
