import UEnv.Worker.Graders

/-!
# What the grader of SWE-bench Pro reads

The report of `parse_multi_runner_report`, line by line, and the lookup of a test in it.
-/

namespace UEnv.Worker

open Tables Text

/-! ### The lines that name a test -/

/-- What the first line that names a test tells of it. -/
def firstStatus (entry : List Char → Option (TestId × Bool)) (id : TestId)
    (printed : List (List Char)) : Option Bool :=
  printed.findSome? fun line => statusIn id (entry line)

/-- The line that decides on a test: the last one of `go test`, else the last one of Mocha, else the
last one of pytest, else the first one of TAP. -/
def deciding (printed : List (List Char)) (id : TestId) : Option Bool :=
  (lastStatus goEntry id printed).or
    (((lastStatus mochaEntry id printed).or (lastStatus pytestEntry id printed)).or
      (firstStatus tapEntry id printed))

/-- What a line tells of a test in the formats in which it names it. -/
def readings (id : TestId) (line : List Char) : List Bool :=
  [pytestEntry, mochaEntry, goEntry, tapEntry].filterMap fun entry => statusIn id (entry line)

/-- Whether a line that names a test tells that it passed. -/
def lineStatus (id : TestId) (line : List Char) : Option Bool :=
  if readings id line = [] then none else some ((readings id line).all (· = true))

/-- Whether the last line that names a test tells that it passed. -/
def lastTold (printed : List (List Char)) (id : TestId) : Option Bool :=
  printed.reverse.findSome? (lineStatus id)

/-! ### The report -/

theorem lookup_orInsertEntry (report : TestReport) (entry : Option (TestId × Bool)) (id : TestId) :
    (report.orInsertEntry entry)[id]? = (report[id]?).or (statusIn id entry) := by
  cases entry with
  | none => rw [statusIn, Option.bind_none, Option.or_none]; rfl
  | some found =>
    obtain ⟨key, passed⟩ := found
    rw [TestReport.orInsertEntry, lookup_insertIfNew, statusIn, Option.bind_some]
    by_cases same : key = id
    · subst same
      rcases present : report[key]? with - | told
      · have absent : key ∉ report := fun member => by
          obtain ⟨told, found⟩ := (mem_iff_lookup report key).mp member
          rw [present] at found
          cases found
        rw [if_pos ⟨rfl, absent⟩, if_pos rfl, Option.none_or]
      · have member : key ∈ report := (mem_iff_lookup report key).mpr ⟨told, present⟩
        rw [if_neg (fun both => both.2 member), Option.some_or]
    · rw [if_neg (fun both => same both.1), if_neg same, Option.or_none]

theorem firstStatus_concat (entry : List Char → Option (TestId × Bool)) (id : TestId)
    (printed : List (List Char)) (line : List Char) :
    firstStatus entry id (printed ++ [line]) =
      (firstStatus entry id printed).or (statusIn id (entry line)) := by
  rw [firstStatus, List.findSome?_append, ← firstStatus]
  congr 1
  rw [List.findSome?_cons]
  cases statusIn id (entry line) with
  | none => rfl
  | some => rfl

/-- The lines of `go test` overwrite, those of TAP fill gaps. -/
theorem lookup_foldl_go_tap (id : TestId) (printed : List (List Char)) (report : TestReport) :
    (printed.foldl (fun map line =>
        (TestReport.insertEntry map (goEntry line)).orInsertEntry (tapEntry line)) report)[id]? =
      (lastStatus goEntry id printed).or ((report[id]?).or (firstStatus tapEntry id printed)) := by
  induction printed using List.reverseRecOn with
  | nil => exact (Option.or_none).symm
  | append_singleton printed line ih =>
    rw [List.foldl_append, List.foldl_cons, List.foldl_nil, lookup_orInsertEntry,
      lookup_insertEntry, ih, lastStatus_concat, firstStatus_concat]
    simp only [Option.or_assoc]

theorem lookup_parseMultiRunnerReport (output : List Char) (id : TestId) :
    (parseMultiRunnerReport output)[id]? = deciding (lines output) id := by
  rw [parseMultiRunnerReport, lookup_foldl_go_tap, parseMochaProLines, lookup_foldl_insertEntry,
    parsePytestReport, lookup_foldl_insertEntry_empty, deciding]

/-! ### The lookup -/

/-- The names that `pro_test_passed` takes for a test that the report does not have. -/
def Related (testId name : TestId) : Prop :=
  afterLast "::".toList testId <:+ name ∨ testId <:+: name ∨ name <:+: testId

/-- An order in which every map may yield its entries. -/
def IsOrder (iterate : TestReport → List (TestId × Bool)) : Prop :=
  ∀ report, (iterate report).Perm report.toList

variable {id name : TestId} {printed : List (List Char)} {report : TestReport}
  {entries : List (TestId × Bool)} {passed : Bool}

theorem readings_ne_nil_iff {line : List Char} :
    readings id line ≠ [] ↔ (statusIn id (goEntry line)).isSome ∨
      ((statusIn id (mochaEntry line)).isSome ∨ (statusIn id (pytestEntry line)).isSome) ∨
        (statusIn id (tapEntry line)).isSome := by
  simp only [readings, List.filterMap_cons, List.filterMap_nil]
  cases statusIn id (pytestEntry line) <;> cases statusIn id (mochaEntry line) <;>
    cases statusIn id (goEntry line) <;> cases statusIn id (tapEntry line) <;> simp

theorem isSome_deciding_iff :
    (deciding printed id).isSome ↔ ∃ line ∈ printed, readings id line ≠ [] := by
  simp only [deciding, lastStatus, firstStatus, Option.isSome_or, Bool.or_eq_true,
    List.findSome?_isSome_iff, List.mem_reverse, readings_ne_nil_iff, and_or_left, exists_or]

theorem isSome_lastTold_iff :
    (lastTold printed id).isSome ↔ ∃ line ∈ printed, readings id line ≠ [] := by
  rw [lastTold, List.findSome?_isSome_iff]
  simp only [List.mem_reverse, lineStatus]
  refine exists_congr fun line => and_congr_right fun _ => ?_
  split
  · next none => simp [none]
  · next some => simp [some]

theorem proTestPassed_of_some (named : report[id]? = some passed) :
    proTestPassed report entries id = passed := by
  rw [proTestPassed, named]

theorem related_iff {testId : TestId} :
    ((afterLast "::".toList testId).isSuffixOf name || has testId name || has name testId) = true ↔
      Related testId name := by
  rw [Bool.or_eq_true, Bool.or_eq_true, List.isSuffixOf_iff_suffix, has_iff_isInfix,
    has_iff_isInfix, or_assoc, Related]

/-- A test that the report does not have is not passed where all related ones failed. -/
theorem proTestPassed_of_none (unnamed : report[id]? = none)
    (failed : ∀ entry ∈ entries, Related id entry.1 → entry.2 = false) :
    proTestPassed report entries id = false := by
  rw [proTestPassed, unnamed]
  dsimp only
  split
  · next entry found =>
    have related := List.find?_some found
    exact failed entry (List.mem_of_find?_eq_some found) (related_iff.mp related)
  · split
    · next entry found =>
      have related := List.find?_some found
      refine failed entry (List.mem_of_find?_eq_some found) (related_iff.mp ?_)
      rw [Bool.or_assoc, Bool.or_eq_true]
      exact .inr related
    · rfl

theorem proTestPassed_cons {rest : List (TestId × Bool)} (unnamed : report[id]? = none)
    (related : Related id name) : proTestPassed report ((name, passed) :: rest) id = passed := by
  rw [proTestPassed, unnamed]
  dsimp only
  simp only [List.find?_cons, related_iff.mpr related]

/-- A test is read from its own lines and rightly: the line that decides on it, if it tells that the
test passed, is borne out by the last line that names the test; and if no line names the test, no
related test passed. -/
def ReadsRight (printed : List (List Char)) (id : TestId) : Prop :=
  match deciding printed id with
  | some passed => passed = true → lastTold printed id = some true
  | none => ∀ name, Related id name → deciding printed name ≠ some true

/-- The grading of an output does not depend on the order of a map, and it finds passed only tests
whose last line tells so. -/
structure ProSound (output : List Char) (failToPass passToPass : List TestId) : Prop where
  deterministic : ∀ iterate iterate', IsOrder iterate → IsOrder iterate' →
    swebenchProGrade iterate output failToPass passToPass =
      swebenchProGrade iterate' output failToPass passToPass
  sound : ∀ iterate, IsOrder iterate → ∀ id,
    (id, true) ∈ (swebenchProGrade iterate output failToPass passToPass).perTest →
      lastTold (lines output) id = some true

theorem swebenchProGrade_of_noSummary {output : List Char}
    (noSummary : parseMochaSummary output = none) (iterate : TestReport → List (TestId × Bool))
    (failToPass passToPass : List TestId) :
    let report := parseMultiRunnerReport output
    let passed := proTestPassed report (iterate report)
    let resolved := failToPass.all passed && passToPass.all passed
    swebenchProGrade iterate output failToPass passToPass =
      ⟨resolved, rewardOf resolved, (failToPass ++ passToPass).map fun id => (id, passed id)⟩ := by
  rw [swebenchProGrade, noSummary]

/-- What is found of a test is the same in every order where the test is read rightly. -/
theorem proTestPassed_of_readsRight {output : List Char} (right : ReadsRight (lines output) id)
    {iterate : TestReport → List (TestId × Bool)} (order : IsOrder iterate) :
    let report := parseMultiRunnerReport output
    proTestPassed report (iterate report) id = (deciding (lines output) id).getD false := by
  intro report
  have named : report[id]? = deciding (lines output) id := lookup_parseMultiRunnerReport output id
  unfold ReadsRight at right
  split at right
  · next passed decided =>
    rw [decided] at named ⊢
    exact proTestPassed_of_some named
  · next undecided =>
    rw [undecided] at named ⊢
    refine proTestPassed_of_none named fun entry member related => ?_
    have found : report[entry.1]? = some entry.2 :=
      Std.ExtTreeMap.mem_toList_iff_getElem?_eq_some.mp ((order report).mem_iff.mp member)
    rw [lookup_parseMultiRunnerReport] at found
    have notPassed := right entry.1 related
    rw [found] at notPassed
    cases told : entry.2 with
    | false => rfl
    | true => exact absurd (congrArg some told) notPassed

theorem all_congr_of_mem {p q : TestId → Bool} {ids : List TestId}
    (same : ∀ id ∈ ids, p id = q id) : ids.all p = ids.all q := by
  rw [Bool.eq_iff_iff, List.all_eq_true, List.all_eq_true]
  exact forall₂_congr fun id member => by rw [same id member]

theorem ReadsRight.lastTold {output : List Char} (right : ReadsRight (lines output) id)
    (passed : (deciding (lines output) id).getD false = true) :
    lastTold (lines output) id = some true := by
  unfold ReadsRight at right
  split at right
  · next verdict decided =>
    rw [decided] at passed
    exact right passed
  · next undecided =>
    rw [undecided] at passed
    cases passed

/-- The entries of a report with one of them in front, if it is there. -/
def startingWith (entry : TestId × Bool) (report : TestReport) : List (TestId × Bool) :=
  if entry ∈ report.toList then entry :: report.toList.erase entry else report.toList

theorem isOrder_startingWith (entry : TestId × Bool) : IsOrder (startingWith entry) := by
  intro report
  unfold startingWith
  split
  · next inside => exact (List.perm_cons_erase inside).symm
  · exact .refl _

/-- A test is read rightly if no order finds it passed against its last line: an order may start
with any related test that passed. -/
theorem readsRight_of_sound {output : List Char} (sound : ∀ iterate, IsOrder iterate →
      proTestPassed (parseMultiRunnerReport output) (iterate (parseMultiRunnerReport output)) id =
        true → lastTold (lines output) id = some true) : ReadsRight (lines output) id := by
  have named := lookup_parseMultiRunnerReport output
  unfold ReadsRight
  split
  · next passed decided =>
    rintro rfl
    refine sound (·.toList) (fun _ => .refl _) ?_
    exact proTestPassed_of_some ((named id).trans decided)
  · next undecided =>
    intro name related decided
    have member : (name, true) ∈ (parseMultiRunnerReport output).toList :=
      Std.ExtTreeMap.mem_toList_iff_getElem?_eq_some.mpr ((named name).trans decided)
    have told := sound (startingWith (name, true)) (isOrder_startingWith _) <| by
      rw [startingWith, if_pos member]
      exact proTestPassed_cons ((named id).trans undecided) related
    -- but no line names the test
    have someLine := isSome_lastTold_iff.mp (Option.isSome_of_eq_some told)
    rw [← isSome_deciding_iff, undecided] at someLine
    cases someLine

/-- Without a summary, the grading of an output does not depend on the order of a map, and finds
passed only tests whose last line tells so, exactly if every test that is asked for is read
rightly. -/
theorem proSound_iff {output : List Char} (noSummary : parseMochaSummary output = none)
    (failToPass passToPass : List TestId) :
    ProSound output failToPass passToPass ↔
      ∀ id ∈ failToPass ++ passToPass, ReadsRight (lines output) id := by
  have graded := swebenchProGrade_of_noSummary noSummary
  constructor
  · intro exact id asked
    refine readsRight_of_sound fun iterate order passed => exact.sound iterate order id ?_
    rw [graded]
    exact List.mem_map.mpr ⟨id, asked, by rw [passed]⟩
  · intro right
    have found : ∀ iterate, IsOrder iterate → ∀ id ∈ failToPass ++ passToPass,
        proTestPassed (parseMultiRunnerReport output) (iterate (parseMultiRunnerReport output)) id =
          (deciding (lines output) id).getD false :=
      fun iterate order id asked => proTestPassed_of_readsRight (right id asked) order
    refine ⟨fun iterate iterate' order order' => ?_, fun iterate order id passed => ?_⟩
    · have same : ∀ id ∈ failToPass ++ passToPass,
          proTestPassed (parseMultiRunnerReport output) (iterate _) id =
            proTestPassed (parseMultiRunnerReport output) (iterate' _) id :=
        fun id asked => (found iterate order id asked).trans (found iterate' order' id asked).symm
      rw [graded, graded, all_congr_of_mem fun id member => same id (List.mem_append_left _ member),
        all_congr_of_mem fun id member => same id (List.mem_append_right _ member),
        List.map_congr_left fun id member => congrArg (Prod.mk id) (same id member)]
    · rw [graded] at passed
      obtain ⟨id', asked, equal⟩ := List.mem_map.mp passed
      obtain ⟨rfl, told⟩ := Prod.mk.inj equal
      rw [found iterate order id' asked] at told
      exact (right id' asked).lastTold told

/-- Lines of TAP, of `go test` and of pytest. -/
def threeFormats : List Char :=
  "ok 1 - widget renders\n--- FAIL: TestB\nt.py::test_c PASSED\n--- PASS: TestB\n".toList

/-- The lines for the tests themselves are read rightly. -/
theorem proSound_tap : parseMochaSummary threeFormats = none ∧
      ProSound threeFormats ["widget renders".toList, "TestB".toList] ["t.py::test_c".toList] := by
  have noSummary : parseMochaSummary threeFormats = none := by decide +kernel
  refine ⟨noSummary, (proSound_iff noSummary _ _).mpr fun id asked => ?_⟩
  have decided : ∀ id ∈ ["widget renders".toList, "TestB".toList] ++ ["t.py::test_c".toList],
      deciding (lines threeFormats) id = some true ∧ lastTold (lines threeFormats) id = some true :=
    by decide +kernel
  rw [ReadsRight, (decided id asked).1]
  exact fun _ => (decided id asked).2

def longerNames : List Char := "--- PASS: TestParseA\n--- FAIL: TestParseB\n".toList

/-- Two tests with a longer name, one passed and one failed: the order of the map decides on a test
that no line names. -/
theorem longer_names_decide : parseMochaSummary longerNames = none ∧
      (swebenchProGrade (·.toList) longerNames ["TestParse".toList] []).resolved = true ∧
      lastTold (lines longerNames) "TestParse".toList = none ∧
      ¬ProSound longerNames ["TestParse".toList] [] := by
  have passes : (swebenchProGrade (·.toList) longerNames ["TestParse".toList] []).resolved =
      true := by
    decide +kernel
  have fails : (swebenchProGrade (·.toList.reverse) longerNames ["TestParse".toList] []).resolved =
      false := by
    decide +kernel
  refine ⟨by decide +kernel, passes, by decide +kernel, fun sound => ?_⟩
  have same := sound.deterministic (·.toList) (·.toList.reverse) (fun _ => .refl _)
    (fun report => List.reverse_perm report.toList)
  rw [same, fails] at passes
  cases passes

end UEnv.Worker
