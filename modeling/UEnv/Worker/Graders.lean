import UEnv.Lib.Text
import UEnv.Service.Request

/-!
# The graders of SWE tests

`harness.rs` and `grader.rs` of the worker: what a runner prints is read line by line into a report,
from a test id to whether the test passed, and a grader asks the report for the tests of an
instance.
-/

namespace UEnv.Worker

open Tables Text
open Service (isWhiteSpace)

abbrev TestId := List Char

/-- The `HashMap<String, bool>` of a parser. -/
abbrev TestReport := Map TestId Bool

/-- grader.rs, 12-17. -/
structure GradeResult where
  resolved : Bool
  reward : F64
  perTest : List (TestId × Bool)

/-- `str::trim`. -/
def trimText (text : List Char) : List Char := trimBy isWhiteSpace text

/-- `str::split_whitespace`. -/
def tokens (line : List Char) : List (List Char) := words isWhiteSpace line

/-! ### pytest -/

/-- `PYTEST_STATUSES`. -/
def pytestStatuses : List (List Char) :=
  ["PASSED".toList, "FAILED".toList, "ERROR".toList, "SKIPPED".toList, "XFAIL".toList,
    "XPASS".toList]

/-- What a line reports: its first status word, for its first token with `::`. -/
def pytestEntry (line : List Char) : Option (TestId × Bool) :=
  ((tokens line).find? (pytestStatuses.contains ·)).bind fun status =>
    ((tokens line).find? (has "::".toList)).map fun id => (id, status == "PASSED".toList)

/-- `map.insert` of the entry of a line. -/
def TestReport.insertEntry (report : TestReport) : Option (TestId × Bool) → TestReport
  | some entry => report.insert entry.1 entry.2
  | none => report

/-- `parse_pytest_report` (harness.rs, 146-159). -/
def parsePytestReport (output : List Char) : TestReport :=
  (lines output).foldl (fun map line => TestReport.insertEntry map (pytestEntry line)) ∅

/-- `report.get(id).copied().unwrap_or(false)`. -/
def TestReport.passed (report : TestReport) (id : TestId) : Bool := (report[id]?).getD false

def rewardOf (resolved : Bool) : F64 := if resolved then F64.one else F64.zero

/-- `decide_reward` (harness.rs, 162-173). -/
def decideReward (report : TestReport) (failToPass passToPass : List TestId) : Bool × F64 :=
  let resolved := failToPass.all report.passed && passToPass.all report.passed
  (resolved, rewardOf resolved)

/-! ### Django -/

/-- The texts with which the status of a test that did not pass starts. -/
def djangoEndings : List (List Char) :=
  ["FAIL".toList, "ERROR".toList, "skipped".toList, "expected failure".toList,
    "unexpected success".toList]

/-- The test that stands before the status, as `method (class)`. -/
def djangoLabel (left : List Char) : Option TestId :=
  (splitAt " (".toList left).bind fun (method, rest) =>
    let cls := trimText (trimEndBy (· == ')') rest)
    if cls.isEmpty || method.isEmpty then none else some (cls ++ '.' :: method)

/-- What a line of the runner of Django reports. -/
def djangoEntry (line : List Char) : Option (TestId × Bool) :=
  (splitAt " ... ".toList (trimEndBy isWhiteSpace line)).bind fun (left, statusPart) =>
    let status := trimText statusPart
    let passed := status == "ok".toList
    if passed || djangoEndings.any (·.isPrefixOf status) then
      (djangoLabel (trimText left)).map (·, passed)
    else none

/-- `parse_django_report` (grader.rs, 66-96). -/
def parseDjangoReport (output : List Char) : TestReport :=
  (lines output).foldl (fun map line => TestReport.insertEntry map (djangoEntry line)) ∅

/-! ### The runners of SWE-bench Pro -/

/-- `is_mocha_numbered_failure`; no digit is needed before the parenthesis. -/
def isMochaNumberedFailure (line : List Char) : Bool :=
  (((line.dropWhile isWhiteSpace).dropWhile Char.isDigit).head?) == some ')'

/-- `strip_mocha_prefix` (grader.rs, 215-229). -/
def stripMochaPrefix (line : List Char) : List Char :=
  match trimText line with
  | '✓' :: rest => trimText rest
  | '✔' :: rest => trimText rest
  | '✗' :: rest => trimText rest
  | '✖' :: rest => trimText rest
  | s =>
    if isMochaNumberedFailure s then
      match splitFirst (· == ')') s with
      | some (_, rest) => trimText rest
      | none => s
    else s

/-- Whether a line of the reporter tells of a test that passed or of one that failed. -/
def mochaStatus (trimmed : List Char) : Option Bool :=
  if trimmed.head? = some '✓' || trimmed.head? = some '✔' || has " passing ".toList trimmed then
    some true
  else if trimmed.head? = some '✗' || trimmed.head? = some '✖' ||
      has " failing ".toList trimmed || isMochaNumberedFailure trimmed then
    some false
  else none

/-- What a line of `parse_mocha_pro_lines` reports. -/
def mochaEntry (line : List Char) : Option (TestId × Bool) :=
  let trimmed := trimText line
  if has " | ".toList trimmed then
    (mochaStatus trimmed).bind fun passed =>
      let key := stripMochaPrefix trimmed
      if key.isEmpty then none else some (key, passed)
  else none

/-- What a line of `go test` reports. -/
def goEntry (line : List Char) : Option (TestId × Bool) :=
  let l := trimText line
  match "--- PASS:".toList.isPrefixOf? l with
  | some rest => (tokens rest).head?.map (·, true)
  | none =>
    match "--- FAIL:".toList.isPrefixOf? l with
    | some rest => (tokens rest).head?.map (·, false)
    | none => none

/-- What a line of TAP reports; the name may be empty. -/
def tapEntry (line : List Char) : Option (TestId × Bool) :=
  let l := trimText line
  match "not ok".toList.isPrefixOf? l with
  | some rest => some (trimText (afterLast "- ".toList rest), false)
  | none =>
    match "ok ".toList.isPrefixOf? l with
    | some rest => some (trimText (afterLast "- ".toList rest), true)
    | none => none

/-- `map.entry(…).or_insert(…)` of the entry of a line. -/
def TestReport.orInsertEntry (report : TestReport) : Option (TestId × Bool) → TestReport
  | some entry => report.insertIfNew entry.1 entry.2
  | none => report

/-- `parse_mocha_pro_lines` (grader.rs, 178-205). -/
def parseMochaProLines (output : List Char) (report : TestReport) : TestReport :=
  (lines output).foldl (fun map line => TestReport.insertEntry map (mochaEntry line)) report

/-- `parse_multi_runner_report` (grader.rs, 147-174). -/
def parseMultiRunnerReport (output : List Char) : TestReport :=
  (lines output).foldl
    (fun map line => (TestReport.insertEntry map (goEntry line)).orInsertEntry (tapEntry line))
    (parseMochaProLines output (parsePytestReport output))

/-- `str::parse::<usize>`. -/
def parseUsize (text : List Char) : Option Nat :=
  let digits := if text.head? = some '+' then text.tail else text
  let value := digits.foldl (fun n c => 10 * n + (c.toNat - '0'.toNat)) 0
  if digits ≠ [] && digits.all Char.isDigit && value < UInt64.size then some value else none

/-- The count at the start of a line. -/
def leadingCount (line : List Char) : Option Nat := (tokens line).head?.bind parseUsize

/-- `parse_mocha_summary` (grader.rs, 232-249). -/
def parseMochaSummary (output : List Char) : Option (Nat × Nat) :=
  let (passing, failing) := (lines output).foldl (fun (counts : Option Nat × Option Nat) line =>
    let l := trimText line
    let passing :=
      if "passing".toList.isSuffixOf l || has " passing (".toList l then
        (leadingCount l).or counts.1
      else counts.1
    let failing :=
      if "failing".toList.isSuffixOf l then (leadingCount l).or counts.2 else counts.2
    (passing, failing)) (none, none)
  passing.map (·, failing.getD 0)

/-- `pro_test_passed`, over the entries of the report in the order in which the map yields them. -/
def proTestPassed (report : TestReport) (entries : List (TestId × Bool)) (testId : TestId) : Bool :=
  match report[testId]? with
  | some passed => passed
  | none =>
    let suffix := afterLast "::".toList testId
    match entries.find? fun entry =>
        suffix.isSuffixOf entry.1 || has testId entry.1 || has entry.1 testId with
    | some entry => entry.2
    | none =>
      match entries.find? fun entry => has testId entry.1 || has entry.1 testId with
      | some entry => entry.2
      | none => false

/-! ### The graders -/

inductive LogParser
  | pytest
  | django
  deriving DecidableEq

def LogParser.parse : LogParser → List Char → TestReport
  | .pytest => parsePytestReport
  | .django => parseDjangoReport

/-- `SwebenchGrader::grade`; `SwesmithGrader` calls it too. -/
def swebenchGrade (parser : LogParser) (output : List Char) (failToPass passToPass : List TestId) :
    GradeResult :=
  let report := parser.parse output
  let (resolved, reward) := decideReward report failToPass passToPass
  { resolved := resolved
    reward := reward
    perTest := (failToPass ++ passToPass).map fun id => (id, report.passed id) }

/-- `SwebenchProGrader::grade`; `iterate` is the order in which a map yields its entries. -/
def swebenchProGrade (iterate : TestReport → List (TestId × Bool)) (output : List Char)
    (failToPass passToPass : List TestId) : GradeResult :=
  let report := parseMultiRunnerReport output
  let passed := proTestPassed report (iterate report)
  let resolved := failToPass.all passed && passToPass.all passed
  let graded : GradeResult :=
    { resolved := resolved
      reward := rewardOf resolved
      perTest := (failToPass ++ passToPass).map fun id => (id, passed id) }
  match parseMochaSummary output with
  | some (passing, failing) =>
    let expected := failToPass.length + passToPass.length
    if failing = 0 ∧ max expected failToPass.length ≤ passing then
      { resolved := true
        reward := F64.one
        perTest := (failToPass ++ passToPass).map (·, true) }
    else graded
  | none => graded

/-! ### What a report says -/

theorem tokens_endLine (line : List Char) : tokens (endLine line.reverse) = tokens line := by
  rcases endLine_reverse line with same | split
  · rw [same]
  · conv_rhs => rw [split]
    rw [tokens, tokens, words_append_cons rfl, words_nil, List.append_nil]

theorem pytestEntry_endLine (line : List Char) :
    pytestEntry (endLine line.reverse) = pytestEntry line := by
  rw [pytestEntry, tokens_endLine]
  rfl

theorem trimEndBy_endLine (line : List Char) :
    trimEndBy isWhiteSpace (endLine line.reverse) = trimEndBy isWhiteSpace line := by
  rcases endLine_reverse line with same | split
  · rw [same]
  · conv_rhs => rw [split]
    rw [trimEndBy, trimEndBy, List.reverse_append]
    rfl

theorem djangoEntry_endLine (line : List Char) :
    djangoEntry (endLine line.reverse) = djangoEntry line := by
  rw [djangoEntry, trimEndBy_endLine]
  rfl

/-- What an entry says of a test. -/
def statusIn (id : TestId) (entry : Option (TestId × Bool)) : Option Bool :=
  entry.bind fun found => if found.1 = id then some found.2 else none

variable {id : TestId} {entry : List Char → Option (TestId × Bool)} {printed : List (List Char)}

theorem statusIn_eq_some {entry : Option (TestId × Bool)} {passed : Bool} :
    statusIn id entry = some passed ↔ entry = some (id, passed) := by
  cases entry with
  | none => simp [statusIn]
  | some found =>
    obtain ⟨key, value⟩ := found
    simp only [statusIn, Option.bind_some, Option.some.injEq, Prod.mk.injEq]
    split
    · next same => simp [same]
    · next other => simp [other]

/-- What the last line that names a test says of it. -/
def lastStatus (entry : List Char → Option (TestId × Bool)) (id : TestId)
    (printed : List (List Char)) : Option Bool :=
  printed.reverse.findSome? fun line => statusIn id (entry line)

theorem lookup_insertEntry (report : TestReport) (entry : Option (TestId × Bool)) (id : TestId) :
    (report.insertEntry entry)[id]? = (statusIn id entry).or report[id]? := by
  cases entry with
  | none => rfl
  | some found =>
    obtain ⟨key, passed⟩ := found
    rw [TestReport.insertEntry, lookup_insert, statusIn, Option.bind_some]
    split
    · rfl
    · rfl

theorem lastStatus_concat (entry : List Char → Option (TestId × Bool)) (id : TestId)
    (printed : List (List Char)) (line : List Char) :
    lastStatus entry id (printed ++ [line]) =
      (statusIn id (entry line)).or (lastStatus entry id printed) := by
  rw [lastStatus, List.reverse_append, List.reverse_singleton, List.singleton_append,
    List.findSome?_cons]
  cases statusIn id (entry line) with
  | none => rfl
  | some => rfl

theorem lookup_foldl_insertEntry (entry : List Char → Option (TestId × Bool)) (id : TestId)
    (printed : List (List Char)) (report : TestReport) :
    (printed.foldl (fun map line => TestReport.insertEntry map (entry line)) report)[id]? =
      (lastStatus entry id printed).or report[id]? := by
  induction printed using List.reverseRecOn with
  | nil => rfl
  | append_singleton printed line ih =>
    rw [List.foldl_append, List.foldl_cons, List.foldl_nil, lookup_insertEntry, ih,
      lastStatus_concat, Option.or_assoc]

theorem lookup_foldl_insertEntry_empty (entry : List Char → Option (TestId × Bool)) (id : TestId)
    (printed : List (List Char)) :
    (printed.foldl (fun map line => TestReport.insertEntry map (entry line)) ∅)[id]? =
      lastStatus entry id printed := by
  rw [lookup_foldl_insertEntry, Std.ExtTreeMap.getElem?_empty, Option.or_none]

theorem exists_of_lastStatus {passed : Bool} (last : lastStatus entry id printed = some passed) :
    ∃ line ∈ printed, entry line = some (id, passed) := by
  obtain ⟨line, member, named⟩ := List.exists_of_findSome?_eq_some last
  exact ⟨line, List.mem_reverse.mp member, statusIn_eq_some.mp named⟩

theorem lastStatus_of_mem {line : List Char} {passed : Bool} (member : line ∈ printed)
    (named : entry line = some (id, passed)) : ∃ last, lastStatus entry id printed = some last := by
  rw [← Option.isSome_iff_exists, lastStatus, List.findSome?_isSome_iff]
  exact ⟨line, List.mem_reverse.mpr member, by rw [statusIn_eq_some.mpr named]; rfl⟩

/-- The report of a text that was made of lines, for an entry that a carriage return at the end of a
line does not change. -/
theorem lookup_lines (same : ∀ line, entry (endLine line.reverse) = entry line)
    (clean : ∀ line ∈ printed, '\n' ∉ line) (id : TestId) :
    ((lines (printed.flatMap (· ++ ['\n']))).foldl
      (fun map line => TestReport.insertEntry map (entry line)) ∅)[id]? =
        lastStatus entry id printed := by
  rw [lines_flatMap clean, List.foldl_map]
  simp only [same]
  exact lookup_foldl_insertEntry_empty _ _ _

end UEnv.Worker
