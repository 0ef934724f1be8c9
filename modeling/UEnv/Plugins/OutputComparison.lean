import UEnv.Lib.NDArrays
import UEnv.Plugins.CodeEvaluator

/-!
# The comparison of outputs in DSCodeBench

`values_equal`, `evaluate_outputs` and `evaluate_problem` of the harness, over the outputs of the
ground truth and of a candidate. The outputs are plain Python values and arrays of numbers; there is
no pandas or torch among them.
-/

namespace UEnv.Plugins.Code.Outputs

open NDArrays
open Bridge.NativeAgentControl (strip)

/-! ### Values -/

/-- A Python value. The keys of a dictionary are taken up to `==`. -/
inductive Value (κ φ ν : Type)
  | none
  | bool (b : Bool)
  | int (i : Int)
  | float (x : φ)
  | str (s : String)
  | list (length : Nat) (item : Fin length → Value κ φ ν)
  | tuple (length : Nat) (item : Fin length → Value κ φ ν)
  | dict (keys : List κ) (value : κ → Value κ φ ν)
  | array (a : NDArray ν)

/-- Numbers of Python and numpy: `math.isnan`, `math.isclose`, `float` of an integer and of a text,
and the closeness of two entries of arrays with the entries that numbers become. -/
structure Numbers (φ ν : Type) where
  isNaN : φ → Bool
  isclose : φ → φ → Bool
  ofInt : Int → Option φ
  ofText : String → Option φ
  closeEntries : ν → ν → Bool
  entryOfInt : Int → Option ν
  entryOfFloat : φ → ν

/-- Closeness is reflexive, apart from NaN, and symmetric. -/
structure Numbers.Lawful {φ ν : Type} (num : Numbers φ ν) : Prop where
  refl : ∀ x, num.isNaN x = false → num.isclose x x = true
  symm : ∀ x y, num.isclose x y = num.isclose y x
  reflEntries : ∀ x, num.closeEntries x x = true
  symmEntries : ∀ x y, num.closeEntries x y = num.closeEntries y x

namespace Value

variable {κ φ ν : Type} (num : Numbers φ ν)

/-- A Boolean or an integer as an integer. -/
@[simp]
def asInt : Value κ φ ν → Option Int
  | bool b => some (if b then 1 else 0)
  | int i => some i
  | _ => Option.none

/-- `float` of a number; an integer may be too large. -/
@[simp]
def asFloat : Value κ φ ν → Option φ
  | float x => some x
  | value => value.asInt.bind num.ofInt

/-- `float` of a value, which reads texts, too. -/
def readFloat : Value κ φ ν → Option φ
  | str s => num.ofText s
  | value => value.asFloat num

@[simp]
def isFloat : Value κ φ ν → Bool
  | float _ => true
  | _ => false

@[simp]
def isArray : Value κ φ ν → Bool
  | array _ => true
  | _ => false

def isLeaf : Value κ φ ν → Bool
  | tuple _ _ | list _ _ | dict _ _ | array _ => false
  | _ => true

def isNumber : Value κ φ ν → Bool
  | bool _ | int _ | float _ => true
  | _ => false

def isNone : Value κ φ ν → Bool
  | none => true
  | _ => false

/-- `np.asanyarray`, where it gives an array of numbers. -/
def asArray [Inhabited ν] : Value κ φ ν → Option (NDArray ν)
  | array a => some a
  | float x => some ⟨[], fun _ => num.entryOfFloat x⟩
  | bool b => (num.entryOfInt (if b then 1 else 0)).map fun entry => ⟨[], fun _ => entry⟩
  | int i => (num.entryOfInt i).map fun entry => ⟨[], fun _ => entry⟩
  | list _ item => stack fun i => (item i).asArray
  | tuple _ item => stack fun i => (item i).asArray
  | none | str _ | dict _ _ => Option.none

end Value

open Value

section Comparison

variable {κ φ ν : Type} [DecidableEq κ] [Inhabited ν] (num : Numbers φ ν)

/-- `_allclose` (dscodebench_harness.py, 326-332). -/
def allclose (result ans : Value κ φ ν) : Bool :=
  match result.asArray num, ans.asArray num with
  | some a, some b => closeAll num.closeEntries a b
  | _, _ => false

/-- Two values one of which is a float; an exception makes them differ. -/
@[simp]
def floatsEqual (result ans : Value κ φ ν) : Bool :=
  if result.isNone || ans.isNone then result.isNone && ans.isNone
  else
    match result.asFloat num with
    -- `math.isnan` raises
    | Option.none => false
    | some x =>
      if num.isNaN x then
        match ans.asFloat num with
        | Option.none => false
        | some y => num.isNaN y || num.isclose x y
      else
        -- only `float` looks at the answer
        (ans.readFloat num).any (num.isclose x ·)

/-- `==` of values that are no floats, arrays or, on the left, containers. -/
@[simp]
def pyEqual : Value κ φ ν → Value κ φ ν → Bool
  | .none, .none => true
  | .str s, .str t => s == t
  | result, ans =>
    match result.asInt, ans.asInt with
    | some i, some j => i == j
    | _, _ => false

/-- `values_equal`, for an output of the candidate and the one of the ground truth. -/
@[simp]
def valuesEqual : Value κ φ ν → Value κ φ ν → Bool
  | .tuple n item, ans =>
    match ans with
    | .tuple m item' =>
      if same : n = m then (List.finRange n).all fun i => valuesEqual (item i) (item' (i.cast same))
      else false
    | _ => false
  | .list n item, ans =>
    match ans with
    | .list m item' =>
      if same : n = m then (List.finRange n).all fun i => valuesEqual (item i) (item' (i.cast same))
      else false
    | _ => false
  | .dict keys value, ans =>
    match ans with
    | .dict keys' value' =>
      (keys.all (· ∈ keys') && keys'.all (· ∈ keys)) &&
        keys.all fun k => valuesEqual (value k) (value' k)
    | _ => false
  | result, ans =>
    if result.isArray || ans.isArray then allclose num result ans
    else if result.isFloat || ans.isFloat then floatsEqual num result ans
    else pyEqual result ans

/-- `evaluate_outputs` (dscodebench_harness.py, 422-431). -/
def evaluateOutputs (groundTruthOutputs solutionOutputs : List (Value κ φ ν)) : List Nat :=
  if groundTruthOutputs.isEmpty || solutionOutputs.isEmpty then []
  else (groundTruthOutputs.zip solutionOutputs).map fun (ans, result) =>
    if valuesEqual num result ans then 1 else 0

end Comparison

/-! ### The verdict -/

structure ProblemVerdict where
  passed : Bool
  testsRun : Nat
  testsPassed : Nat
  error : Option String
  errorCategory : Option String
  deriving DecidableEq

/-- `_classify_harness_error` of a text. -/
def classifyHarnessError (error : String) : String :=
  let lower := lower error
  if mentions ["modulenotfounderror", "no module named", "importerror", "cannot import name"] lower
  then "dependency_error"
  else if mentions ["candidate produced no outputs"] lower then "candidate_runtime_error"
  else if mentions ["some tests failed"] lower then "wrong_answer"
  else if mentions ["harness exec failed", "ground-truth produced no outputs"] lower then
    "harness_error"
  else if mentions ["empty candidate"] lower then "candidate_runtime_error"
  else "harness_error"

/-- `_fail` (dscodebench_harness.py, 471-484). -/
def fail (error : String) (testsRun : Nat := 0) (errorCategory : Option String := none) :
    ProblemVerdict where
  passed := false
  testsRun := testsRun
  testsPassed := 0
  error := some error
  errorCategory := some (errorCategory.getD (classifyHarnessError error))

/-! ### The candidate's code -/

def fence : List Char := "```".toList

/-- The inside of a code block that starts here. -/
def block (word : Char → Bool) (text : List Char) : Option (List Char) :=
  if fence.isPrefixOf text then
    match (text.drop fence.length).dropWhile word with
    | '\n' :: body => (Text.splitAt fence body).map Prod.fst
    | _ => none
  else none

/-- `extract_code`; the characters of a language's name are those of `\w`. -/
def extractCode (word : Char → Bool) (text : List Char) : List Char :=
  (text.tails.findSome? (block word)).getD text

structure Problem where
  groundTruthCode : String
  candidateCode : String
  testScript : String
  numTests : Nat := 200
  randomSeed : Int := 42

/-- The code that is run as the candidate. -/
def Problem.candidate (word : Char → Bool) (problem : Problem) : String :=
  let extracted := strip (String.ofList (extractCode word problem.candidateCode.toList))
  if extracted.isEmpty then problem.candidateCode else extracted

/-- `"output.png" in ground_truth_code`. -/
def Problem.isPlot (problem : Problem) : Bool :=
  Text.has "output.png".toList problem.groundTruthCode.toList

/-- `get_exec_output`: the outputs of the ground truth and of the candidate, or an exception. -/
abbrev GetExecOutput (κ φ ν : Type) :=
  (groundTruthCode testSolutionCode testCaseScript : String) → (isMatplotlibOrSeaborn : Bool) →
    (testCaseNumber : Nat) → (randomSeed : Int) →
      Except String (List (Value κ φ ν) × List (Value κ φ ν))

/-- The outputs that a problem is judged by. -/
def Problem.outputs {κ φ ν : Type} (word : Char → Bool) (getExecOutput : GetExecOutput κ φ ν)
    (problem : Problem) : Except String (List (Value κ φ ν) × List (Value κ φ ν)) :=
  getExecOutput problem.groundTruthCode (problem.candidate word) problem.testScript problem.isPlot
    problem.numTests problem.randomSeed

section Verdict

variable {κ φ ν : Type} [DecidableEq κ] [Inhabited ν] (num : Numbers φ ν) (word : Char → Bool)
variable (getExecOutput : GetExecOutput κ φ ν)

/-- The verdict on outputs. -/
def judge (gtOut solOut : List (Value κ φ ν)) : ProblemVerdict :=
  if gtOut.isEmpty then fail "ground-truth produced no outputs (syntax/runtime error?)"
  else if solOut.isEmpty then
    fail "candidate produced no outputs (syntax/runtime error?)" gtOut.length
      (some "candidate_runtime_error")
  else
    let flags := evaluateOutputs num gtOut solOut
    let passed := 0 < flags.length ∧ flags.sum = flags.length
    { passed
      testsRun := flags.length
      testsPassed := flags.sum
      error := if passed then none else some "some tests failed"
      errorCategory := if passed then none else some "wrong_answer" }

/-- `evaluate_problem` (dscodebench_harness.py, 459-527). -/
def evaluateProblem (problem : Problem) : ProblemVerdict :=
  if (strip (problem.candidate word)).isEmpty then
    fail "empty candidate code" 0 (some "candidate_runtime_error")
  else if (strip problem.groundTruthCode).isEmpty then
    fail "empty ground_truth_code" 0 (some "harness_error")
  else if !Text.has "test_case_input_generator".toList problem.testScript.toList then
    fail "test_script missing test_case_input_generator" 0 (some "harness_error")
  else
    match problem.outputs word getExecOutput with
    | .error exc => fail s!"harness exec failed: {exc}"
    | .ok (gtOut, solOut) => judge num gtOut solOut

end Verdict

/-! ### Agreement -/

section Agreement

variable {κ φ ν : Type} (num : Numbers φ ν)

/-- Two numbers are close: integers if they are equal, and with a float as floats. -/
@[simp]
def numbersClose (result ans : Value κ φ ν) : Prop :=
  match result.asInt, ans.asInt with
  | some i, some j => i = j
  | _, _ => ∃ x y, result.asFloat num = some x ∧ ans.asFloat num = some y ∧
    ((num.isNaN x = true ∧ num.isNaN y = true) ∨ num.isclose x y = true)

/-- The same structure, with close leaves. -/
@[simp]
def Agree : Value κ φ ν → Value κ φ ν → Prop
  | .tuple n item, .tuple m item' => ∃ same : n = m, ∀ i, Agree (item i) (item' (i.cast same))
  | .list n item, .list m item' => ∃ same : n = m, ∀ i, Agree (item i) (item' (i.cast same))
  | .dict keys value, .dict keys' value' =>
    (∀ k, k ∈ keys ↔ k ∈ keys') ∧ ∀ k ∈ keys, Agree (value k) (value' k)
  | .array a, .array b => a.shape = b.shape ∧
    ∀ place ∈ places a.shape, num.closeEntries (a.entry place) (b.entry place) = true
  | .none, .none => True
  | .str s, .str t => s = t
  | result, ans => numbersClose num result ans

/-- A relation at every place that a comparison of two values comes to. -/
@[simp]
def Everywhere (rel : Value κ φ ν → Value κ φ ν → Prop) : Value κ φ ν → Value κ φ ν → Prop
  | .tuple n item, .tuple m item' =>
    ∀ (i : Fin n) (j : Fin m), i.val = j.val → Everywhere rel (item i) (item' j)
  | .list n item, .list m item' =>
    ∀ (i : Fin n) (j : Fin m), i.val = j.val → Everywhere rel (item i) (item' j)
  | .dict keys value, .dict _ value' => ∀ k ∈ keys, Everywhere rel (value k) (value' k)
  | result, ans => rel result ans

/-- An array stands against an array of its shape, and no text of the ground truth against a
float. -/
def Fits : Value κ φ ν → Value κ φ ν → Prop
  | .array a, .array b => a.shape = b.shape
  | .array _, _ => False
  | _, .array _ => False
  | .float _, .str _ => False
  | _, _ => True

/-- No array stands against a list or tuple, and no float against a text. -/
def Reversible : Value κ φ ν → Value κ φ ν → Prop
  | .array _, .list _ _ => False
  | .array _, .tuple _ _ => False
  | .float _, .str _ => False
  | _, _ => True

variable {num} [DecidableEq κ] [Inhabited ν]

variable {n m : Nat} {check : Fin n → Fin m → Bool} {place : Fin n → Fin m → Prop}
  {result ans : Value κ φ ν}

theorem items_iff {rel : Fin n → Fin m → Prop}
    (each : ∀ i j, rel i j ↔ check i j = true ∧ place i j) :
    (∃ same : n = m, ∀ i, rel i (i.cast same)) ↔
      (if same : n = m then (List.finRange n).all fun i => check i (i.cast same)
        else false) = true ∧
        ∀ (i : Fin n) (j : Fin m), i.val = j.val → place i j := by
  by_cases same : n = m
  · subst same
    rw [dif_pos rfl, List.all_eq_true]
    constructor
    · rintro ⟨_, all⟩
      refine ⟨fun i _ => ((each _ _).mp (all i)).1, fun i j equal => ?_⟩
      obtain rfl : i = j := Fin.ext equal
      exact ((each _ _).mp (all i)).2
    · rintro ⟨checked, placed⟩
      exact ⟨rfl, fun i => (each _ _).mpr ⟨checked i (List.mem_finRange i), placed i i rfl⟩⟩
  · rw [dif_neg same]
    exact iff_of_false (fun both => same both.1) (fun both => by cases both.1)

theorem keys_iff (keys keys' : List κ) :
    (keys.all (· ∈ keys') && keys'.all (· ∈ keys)) = true ↔ ∀ k, k ∈ keys ↔ k ∈ keys' := by
  rw [Bool.and_eq_true, List.all_eq_true, List.all_eq_true]
  simp only [decide_eq_true_eq]
  constructor
  · rintro ⟨there, back⟩ k
    exact ⟨there k, back k⟩
  · intro same
    exact ⟨fun k => (same k).mp, fun k => (same k).mpr⟩

omit [DecidableEq κ] [Inhabited ν] in
theorem floatsEqual_iff (present : result.isNone = false) (given : ans.isNone = false)
    (number : ans.readFloat num = ans.asFloat num) : floatsEqual num result ans = true ↔
      ∃ x y, result.asFloat num = some x ∧ ans.asFloat num = some y ∧
        ((num.isNaN x = true ∧ num.isNaN y = true) ∨ num.isclose x y = true) := by
  rw [floatsEqual, present, given, number, if_neg (by decide)]
  cases result.asFloat num with
  | none => simp
  | some x =>
    cases ans.asFloat num with
    | none => simp
    | some y => by_cases isNaN : num.isNaN x = true <;> simp [isNaN]

theorem agree_iff (result ans : Value κ φ ν) :
    Agree num result ans ↔ valuesEqual num result ans = true ∧ Everywhere Fits result ans := by
  induction result generalizing ans with
  | tuple n item ih =>
    cases ans with
    | tuple m item' => exact items_iff fun i j => ih i (item' j)
    | _ => simp
  | list n item ih =>
    cases ans with
    | list m item' => exact items_iff fun i j => ih i (item' j)
    | _ => simp
  | dict keys value ih =>
    cases ans with
    | dict keys' value' =>
      rw [Agree, valuesEqual, Bool.and_eq_true, keys_iff, List.all_eq_true, Everywhere, and_assoc]
      refine and_congr_right fun _ => ?_
      rw [← forall₂_and]
      exact forall₂_congr fun k _ => ih k (value' k)
    | _ => simp
  | array a =>
    cases ans with
    | array b =>
      change _ ↔ closeAll num.closeEntries a b = true ∧ a.shape = b.shape
      rw [Agree, and_comm]
      exact and_congr_left fun same => (closeAll_iff_of_shape same).symm
    | _ => simp [Fits]
  | none => cases ans <;> simp [Fits, isNone]
  | bool b =>
    cases ans with
    | float y => exact (floatsEqual_iff rfl rfl rfl).symm.trans (and_iff_left trivial).symm
    | _ => simp [Fits]
  | int i =>
    cases ans with
    | float y => exact (floatsEqual_iff rfl rfl rfl).symm.trans (and_iff_left trivial).symm
    | _ => simp [Fits]
  | float x =>
    cases ans with
    | bool b => exact (floatsEqual_iff rfl rfl rfl).symm.trans (and_iff_left trivial).symm
    | int i => exact (floatsEqual_iff rfl rfl rfl).symm.trans (and_iff_left trivial).symm
    | float y => exact (floatsEqual_iff rfl rfl rfl).symm.trans (and_iff_left trivial).symm
    | _ => simp [Fits, readFloat, isNone]
  | str s => cases ans <;> simp [Fits, isNone]

omit [DecidableEq κ] [Inhabited ν] in
theorem agree_self (lawful : num.Lawful) (value : Value κ φ ν) : Agree num value value := by
  induction value with
  | tuple n item ih => exact ⟨rfl, ih⟩
  | list n item ih => exact ⟨rfl, ih⟩
  | dict keys value ih => exact ⟨fun _ => Iff.rfl, fun k _ => ih k⟩
  | array a => exact ⟨rfl, fun _ _ => lawful.reflEntries _⟩
  | none => trivial
  | bool b => exact rfl
  | int i => exact rfl
  | float x =>
    refine ⟨x, x, rfl, rfl, ?_⟩
    cases isNaN : num.isNaN x with
    | true => exact .inl ⟨rfl, rfl⟩
    | false => exact .inr (lawful.refl x isNaN)
  | str s => exact rfl

/-! ### The other way round -/

omit [DecidableEq κ] in
theorem allclose_comm (lawful : num.Lawful) (result ans : Value κ φ ν) :
    allclose num result ans = allclose num ans result := by
  rw [allclose, allclose]
  cases result.asArray num with
  | none => cases ans.asArray num <;> rfl
  | some a =>
    cases ans.asArray num with
    | none => rfl
    | some b => exact closeAll_comm lawful.symmEntries a b

omit [DecidableEq κ] [Inhabited ν] in
theorem floatsEqual_numbers (number : result.isNumber = true) (number' : ans.isNumber = true) :
    floatsEqual num result ans = true ↔
      ∃ x y, result.asFloat num = some x ∧ ans.asFloat num = some y ∧
        ((num.isNaN x = true ∧ num.isNaN y = true) ∨ num.isclose x y = true) := by
  have present : ∀ {value : Value κ φ ν}, value.isNumber = true → value.isNone = false ∧
      value.readFloat num = value.asFloat num := by
    intro value number
    cases value with
    | bool | int | float => exact ⟨rfl, rfl⟩
    | _ => cases number
  exact floatsEqual_iff (present number).1 (present number').1 (present number').2

omit [DecidableEq κ] [Inhabited ν] in
theorem floatsEqual_comm (lawful : num.Lawful) (number : result.isNumber = true)
    (number' : ans.isNumber = true) : floatsEqual num result ans = floatsEqual num ans result := by
  rw [Bool.eq_iff_iff, floatsEqual_numbers number number', floatsEqual_numbers number' number]
  constructor
  · rintro ⟨x, y, first, second, close⟩
    refine ⟨y, x, second, first, close.imp And.symm fun close => ?_⟩
    rw [lawful.symm, close]
  · rintro ⟨y, x, second, first, close⟩
    refine ⟨x, y, first, second, close.imp And.symm fun close => ?_⟩
    rw [lawful.symm, close]

theorem numbers_comm (lawful : num.Lawful) (number : result.isNumber = true)
    (number' : ans.isNumber = true) : valuesEqual num result ans = valuesEqual num ans result := by
  have unfolded : ∀ {result ans : Value κ φ ν}, result.isNumber = true → ans.isNumber = true →
      valuesEqual num result ans = if result.isFloat || ans.isFloat then floatsEqual num result ans
        else pyEqual result ans := by
    intro result ans number number'
    cases result with
    | bool | int | float =>
      cases ans with
      | bool | int | float => rfl
      | _ => cases number'
    | _ => cases number
  rw [unfolded number number', unfolded number' number, Bool.or_comm,
    floatsEqual_comm lawful number number']
  have plain : pyEqual result ans = pyEqual ans result := by
    cases result with
    | bool | int | float =>
      cases ans with
      | bool | int | float => simp [eq_comm]
      | _ => cases number'
    | _ => cases number
  rw [plain]

theorem items_symm {check' : Fin m → Fin n → Bool}
    (each : ∀ i j, check i j = true → (check' j i = true ↔ place i j))
    (equal : (if same : n = m then (List.finRange n).all fun i => check i (i.cast same)
      else false) = true) :
    (if same : m = n then (List.finRange m).all fun j => check' j (j.cast same) else false) = true ↔
      ∀ (i : Fin n) (j : Fin m), i.val = j.val → place i j := by
  by_cases same : n = m
  · subst same
    rw [dif_pos rfl, List.all_eq_true] at equal
    rw [dif_pos rfl, List.all_eq_true]
    constructor
    · intro back i j alike
      obtain rfl : i = j := Fin.ext alike
      exact (each i i (equal i (List.mem_finRange i))).mp (back i (List.mem_finRange i))
    · intro placed i listed
      exact (each i i (equal i listed)).mpr (placed i i rfl)
  · rw [dif_neg same] at equal
    cases equal

theorem valuesEqual_array (a : NDArray ν) (ans : Value κ φ ν) :
    valuesEqual num (.array a) ans = allclose num (.array a) ans := by
  simp

theorem leaf_array (lawful : num.Lawful) (leaf : result.isLeaf = true) (b : NDArray ν) :
    valuesEqual num result (.array b) = valuesEqual num (.array b) result := by
  rw [valuesEqual_array, allclose_comm lawful]
  cases result with
  | tuple => cases leaf
  | list => cases leaf
  | dict => cases leaf
  | array => cases leaf
  | _ => simp

/-- Outputs that compare as equal do so the other way round, too, exactly if they can be turned
round at every place. -/
theorem reversed_iff (lawful : num.Lawful) (equal : valuesEqual num result ans = true) :
    valuesEqual num ans result = true ↔ Everywhere Reversible result ans := by
  induction result generalizing ans with
  | tuple n item ih =>
    cases ans with
    | tuple => exact items_symm (fun i j => ih i) equal
    | _ => cases equal
  | list n item ih =>
    cases ans with
    | list => exact items_symm (fun i j => ih i) equal
    | _ => cases equal
  | dict keys value ih =>
    cases ans with
    | dict =>
      rw [valuesEqual, Bool.and_eq_true, keys_iff, List.all_eq_true] at equal
      rw [valuesEqual, Bool.and_eq_true, keys_iff, List.all_eq_true, Everywhere]
      obtain ⟨same, items⟩ := equal
      rw [and_iff_right fun k => (same k).symm]
      constructor
      · intro back k listed
        exact (ih k (items k listed)).mp (back k ((same k).mp listed))
      · intro placed k listed
        have held := (same k).mpr listed
        exact (ih k (items k held)).mpr (placed k held)
    | _ => cases equal
  | array a =>
    cases ans with
    | list => exact iff_of_false (by simp) id
    | tuple => exact iff_of_false (by simp) id
    | dict => cases equal
    | array b =>
      rw [valuesEqual_array] at equal ⊢
      exact iff_of_true ((allclose_comm lawful _ _).trans equal) trivial
    | _ => exact iff_of_true ((leaf_array lawful rfl a).trans equal) trivial
  | none =>
    cases ans with
    | array b => exact iff_of_true ((leaf_array lawful rfl b).symm.trans equal) trivial
    | none => exact iff_of_true rfl trivial
    | _ => cases equal
  | bool b =>
    cases ans with
    | array a => exact iff_of_true ((leaf_array lawful rfl a).symm.trans equal) trivial
    | bool | int | float => exact iff_of_true ((numbers_comm lawful rfl rfl).trans equal) trivial
    | _ => cases equal
  | int i =>
    cases ans with
    | array a => exact iff_of_true ((leaf_array lawful rfl a).symm.trans equal) trivial
    | bool | int | float => exact iff_of_true ((numbers_comm lawful rfl rfl).trans equal) trivial
    | _ => cases equal
  | float x =>
    cases ans with
    | array a => exact iff_of_true ((leaf_array lawful rfl a).symm.trans equal) trivial
    | bool | int | float => exact iff_of_true ((numbers_comm lawful rfl rfl).trans equal) trivial
    | str t =>
      refine iff_of_false ?_ id
      simp [isNone]
    | _ =>
      simp [readFloat, isNone] at equal
  | str s =>
    cases ans with
    | array a => exact iff_of_true ((leaf_array lawful rfl a).symm.trans equal) trivial
    | str t =>
      have same : s = t := by simpa using equal
      rw [same] at equal ⊢
      exact iff_of_true equal trivial
    | _ =>
      simp [isNone] at equal

/-! ### What is passed -/

/-- As many outputs on both sides, at least one, and each agrees with the one at its place. -/
structure FullAgreement (num : Numbers φ ν) (gtOut solOut : List (Value κ φ ν)) : Prop where
  some : gtOut ≠ []
  length : solOut.length = gtOut.length
  agree : ∀ pair ∈ gtOut.zip solOut, Agree num pair.2 pair.1

theorem sum_flags (flags : List Nat) (bits : ∀ flag ∈ flags, flag ≤ 1) :
    flags.sum ≤ flags.length ∧ (flags.sum = flags.length ↔ ∀ flag ∈ flags, flag = 1) := by
  induction flags with
  | nil => simp
  | cons flag flags ih =>
    obtain ⟨le, all⟩ := ih fun flag member => bits flag (List.mem_cons_of_mem _ member)
    have bit := bits flag List.mem_cons_self
    rw [List.forall_mem_cons, ← all, List.sum_cons, List.length_cons]
    omega

theorem judge_passed {gtOut solOut : List (Value κ φ ν)} :
    (judge num gtOut solOut).passed = true ↔ gtOut ≠ [] ∧ solOut ≠ [] ∧
      ∀ pair ∈ gtOut.zip solOut, valuesEqual num pair.2 pair.1 = true := by
  cases gtOut with
  | nil => simp [judge, fail]
  | cons ans gtOut =>
    cases solOut with
    | nil => simp [judge, fail]
    | cons result solOut =>
      have bits : ∀ flag ∈ evaluateOutputs num (ans :: gtOut) (result :: solOut), flag ≤ 1 := by
        intro flag member
        obtain ⟨⟨ans, result⟩, -, rfl⟩ := List.mem_map.mp member
        dsimp only
        split <;> omega
      have passes : (judge num (ans :: gtOut) (result :: solOut)).passed = true ↔
          ∀ flag ∈ evaluateOutputs num (ans :: gtOut) (result :: solOut), flag = 1 := by
        rw [← (sum_flags _ bits).2]
        simp [judge, evaluateOutputs]
      rw [passes, evaluateOutputs, if_neg (by simp), List.forall_mem_map,
        and_iff_right (List.cons_ne_nil _ _), and_iff_right (List.cons_ne_nil _ _)]
      refine forall₂_congr fun pair _ => ?_
      dsimp only
      split <;> simp [*]

theorem evaluateProblem_passed {word : Char → Bool} {getExecOutput : GetExecOutput κ φ ν}
    {problem : Problem} (passed : (evaluateProblem num word getExecOutput problem).passed = true) :
    ∃ gtOut solOut, problem.outputs word getExecOutput = .ok (gtOut, solOut) ∧
      (judge num gtOut solOut).passed = true := by
  rw [evaluateProblem] at passed
  split at passed
  · cases passed
  · split at passed
    · cases passed
    · split at passed
      · cases passed
      · split at passed
        · cases passed
        · rename_i gtOut solOut ran
          exact ⟨gtOut, solOut, ran, passed⟩

/-- Outputs that pass agree in full exactly if there are as many on both sides and they fit at every
place. -/
theorem fullAgreement_iff {gtOut solOut : List (Value κ φ ν)}
    (passed : (judge num gtOut solOut).passed = true) :
    FullAgreement num gtOut solOut ↔ solOut.length = gtOut.length ∧
      ∀ pair ∈ gtOut.zip solOut, Everywhere Fits pair.2 pair.1 := by
  obtain ⟨some, -, equal⟩ := judge_passed.mp passed
  constructor
  · intro full
    exact ⟨full.length, fun pair here => ((agree_iff _ _).mp (full.agree pair here)).2⟩
  · rintro ⟨length, fits⟩
    exact ⟨some, length, fun pair here => (agree_iff _ _).mpr ⟨equal pair here, fits pair here⟩⟩

end Agreement

/-- A problem that passes shows full agreement exactly if there are as many outputs on both sides
and they fit at every place. The comparison is reflexive; where it holds, it holds the other way
round exactly if the outputs can be turned round. -/
theorem passes_full_agreement_iff {κ φ ν : Type} [DecidableEq κ] [Inhabited ν]
    (num : Numbers φ ν) (lawful : num.Lawful) :
    (∀ (word : Char → Bool) (getExecOutput : GetExecOutput κ φ ν) (problem : Problem),
      (evaluateProblem num word getExecOutput problem).passed = true →
        ∃ gtOut solOut, problem.outputs word getExecOutput = .ok (gtOut, solOut) ∧
          (FullAgreement num gtOut solOut ↔ solOut.length = gtOut.length ∧
            ∀ pair ∈ gtOut.zip solOut, Everywhere Fits pair.2 pair.1)) ∧
    (∀ value : Value κ φ ν, valuesEqual num value value = true) ∧
    ∀ result ans : Value κ φ ν, valuesEqual num result ans = true →
      (valuesEqual num ans result = true ↔ Everywhere Reversible result ans) := by
  refine ⟨?_, ?_, ?_⟩
  · intro word getExecOutput problem passed
    obtain ⟨gtOut, solOut, ran, judged⟩ := evaluateProblem_passed passed
    exact ⟨gtOut, solOut, ran, fullAgreement_iff judged⟩
  · intro value
    exact ((agree_iff _ _).mp (agree_self lawful value)).1
  · intro result ans equal
    exact reversed_iff lawful equal

/-! ### One number only -/

/-- Whole numbers and NaN, close if they are equal; the only text read is `1.0`. -/
def wholeNumbers : Numbers (Option Int) (Option Int) where
  isNaN x := x.isNone
  isclose x y := x.isSome && x == y
  ofInt i := some (some i)
  ofText s := if s = "1.0" then some (some 1) else none
  closeEntries x y := x == y
  entryOfInt i := some (some i)
  entryOfFloat x := x

theorem lawful_wholeNumbers : wholeNumbers.Lawful where
  refl x number := by
    cases x with
    | none => cases number
    | some i => exact beq_self_eq_true (some i)
  symm x y := by
    cases x with
    | none => cases y <;> rfl
    | some i =>
      cases y with
      | none => rfl
      | some j => exact Bool.beq_comm
  reflEntries x := beq_self_eq_true x
  symmEntries _ _ := Bool.beq_comm

/-- A problem with outputs that do not depend on the codes. -/
def identity : Problem where
  groundTruthCode := "def f(x): return x"
  candidateCode := "def f(x): return x"
  testScript := "def test_case_input_generator(n): return [1.0] * n"

def outputs (gtOut solOut : List (Value String (Option Int) (Option Int))) :
    GetExecOutput String (Option Int) (Option Int) :=
  fun _ _ _ _ _ _ => .ok (gtOut, solOut)

/-- A number twice in a tuple in a list, beside an array. -/
def nested (keys : List String) (one : Value String (Option Int) (Option Int)) :
    Value String (Option Int) (Option Int) :=
  .dict keys fun k =>
    if k = "xs" then .list 1 fun _ => .tuple 2 fun _ => one else .array ⟨[2], fun _ => some 1⟩

theorem passes_full_agreement_ones : ∃ gtOut solOut, identity.outputs (· ∈ ['p', 'y'])
        (outputs [nested ["xs", "a"] (.int 1)] [nested ["a", "xs"] (.float (some 1))]) =
        .ok (gtOut, solOut) ∧ FullAgreement wholeNumbers gtOut solOut := by
  have passed : (evaluateProblem wholeNumbers (· ∈ ['p', 'y']) (outputs
      [nested ["xs", "a"] (.int 1)] [nested ["a", "xs"] (.float (some 1))]) identity).passed =
        true := by decide +kernel
  obtain ⟨gtOut, solOut, ran, full⟩ :=
    (passes_full_agreement_iff wholeNumbers lawful_wholeNumbers).1 _ _ _ passed
  refine ⟨gtOut, solOut, ran, full.mpr ?_⟩
  cases ran
  refine ⟨rfl, fun pair here => ?_⟩
  obtain rfl := List.mem_singleton.mp here
  intro k key
  by_cases xs : k = "xs"
  · simp only [if_pos xs]
    exact fun _ _ _ _ _ _ => trivial
  · simp only [if_neg xs]
    rfl

/-- A candidate passes with one output for two; an array of two entries passes for one number; and a
float is equal to a text that is not equal to it. -/
theorem short_output_passes : ((evaluateProblem wholeNumbers (· ∈ ['p', 'y'])
        (outputs [.float (some 1), .none] [.float (some 1)]) identity).passed = true ∧
      ¬ @FullAgreement String _ _ wholeNumbers [.float (some 1), .none] [.float (some 1)]) ∧
    ((evaluateProblem wholeNumbers (· ∈ ['p', 'y'])
        (outputs [.array ⟨[2], fun _ => some 1⟩] [.int 1]) identity).passed = true ∧
      ¬ @FullAgreement String _ _ wholeNumbers [.array ⟨[2], fun _ => some 1⟩] [.int 1]) ∧
    valuesEqual wholeNumbers (.float (some 1) : Value String _ _) (.str "1.0") = true ∧
      valuesEqual wholeNumbers (.str "1.0" : Value String _ _) (.float (some 1)) = false := by
  refine ⟨⟨by decide +kernel, ?_⟩, ⟨by decide +kernel, ?_⟩, by decide +kernel, by decide +kernel⟩
  · intro full
    cases full.length
  · intro full
    have agree := full.agree _ List.mem_cons_self
    simp at agree

end UEnv.Plugins.Code.Outputs
