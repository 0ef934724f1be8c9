import UEnv.Lib.Rounding
import UEnv.Service.Request

/-!
# Rubric contracts

`rubric.rs`: the validation of a rubric block and the promotion gate. The counts of the alignment
metrics are `i64`, the two that may be left out are checked against each other only when both are
there.
-/

namespace UEnv.Hub

/-! ### Reports -/

inductive Severity
  | error
  | warning
  deriving DecidableEq

structure ValidationIssue where
  severity : Severity
  location : String
  message : String
  deriving DecidableEq

/-- What `push_error` adds to a report. -/
def pushError (location message : String) : List ValidationIssue := [⟨.error, location, message⟩]

/-- What `push_warning` adds to a report. -/
def pushWarning (location message : String) : List ValidationIssue :=
  [⟨.warning, location, message⟩]

/-- `ValidationReport::valid`, which `push_error` alone clears. -/
def Valid (issues : List ValidationIssue) : Prop := ∀ issue ∈ issues, issue.severity ≠ .error

instance (issues : List ValidationIssue) : Decidable (Valid issues) :=
  inferInstanceAs (Decidable (∀ issue ∈ issues, issue.severity ≠ .error))

@[simp] theorem valid_nil : Valid [] := by
  simp [Valid]

@[simp] theorem not_valid_pushError (location message : String) :
    ¬Valid (pushError location message) := by
  simp [Valid, pushError]

@[simp] theorem valid_pushWarning (location message : String) :
    Valid (pushWarning location message) := by
  simp [Valid, pushWarning]

variable {issues : List ValidationIssue}

@[simp] theorem valid_append {issues' : List ValidationIssue} :
    Valid (issues ++ issues') ↔ Valid issues ∧ Valid issues' := by
  simp only [Valid, List.forall_mem_append]

@[simp] theorem valid_flatMap {α : Type} {items : List α} {f : α → List ValidationIssue} :
    Valid (items.flatMap f) ↔ ∀ item ∈ items, Valid (f item) := by
  simp only [Valid, List.mem_flatMap, forall_exists_index, and_imp]
  exact ⟨fun valid item here issue found => valid issue item here found,
    fun valid issue item here found => valid item here issue found⟩

/-- A rule that is checked by one `push_error` is met by a valid report. -/
@[simp] theorem valid_ite_pushError {broken : Prop} [Decidable broken] {location message : String} :
    Valid (if broken then pushError location message else issues) ↔ ¬broken ∧ Valid issues := by
  by_cases broken : broken <;> simp [broken]

@[simp] theorem valid_ite_pushWarning {odd : Prop} [Decidable odd] {location message : String} :
    Valid (if odd then pushWarning location message else issues) ↔ odd ∨ Valid issues := by
  by_cases odd : odd <;> simp [odd]

end UEnv.Hub

namespace UEnv.Hub.Rubric

open Service

/-! ### Data -/

structure RubricMetrics where
  total : Option Int64
  agreed : Option Int64
  agreementRate : F64
  overCreditCount : Int64
  underCreditCount : Int64

structure RubricAlignment where
  corpusDigest : Option String
  reportDigest : Option String
  packageRef : Option String
  metrics : Option RubricMetrics

structure RubricGap where
  id : String
  severity : String

structure RubricScorerRef where
  packageRef : String
  artifact : String
  digest : String
  entrypoint : Option String
  rubricClasses : List String
  requires : List String

/-- `RubricSpec`; of the datasets, the keys of the map in order. -/
structure RubricSpec where
  schemaVersion : String
  productionScorer : Option String
  referenceScorer : Option RubricScorerRef
  alignment : Option RubricAlignment
  datasets : List String
  knownGaps : List RubricGap

/-- `RUBRIC_SCHEMA_VERSION`. -/
def rubricSchemaVersion : String := "1"

/-- `GAP_SEVERITIES`. -/
def gapSeverities : List String := ["too_strict", "too_lenient", "intentional"]

/-- `is_sha256` (rubric.rs, 394-399). -/
def isSha256 (digest : String) : Bool :=
  match digest.toList with
  | 's' :: 'h' :: 'a' :: '2' :: '5' :: '6' :: ':' :: hex =>
    hex.length == 64 && hex.all fun c =>
      c.isDigit || ('a' ≤ c && c ≤ 'f') || ('A' ≤ c && c ≤ 'F')
  | _ => false

/-- `text.as_deref().unwrap_or("").trim().is_empty()`. -/
def isBlank (text : Option String) : Bool := (trim (text.getD "")).isEmpty

/-! ### `validate` -/

/-- Whether the crate is built with overflow checks. -/
inductive Build
  | checked
  | wrapping
  deriving DecidableEq

/-- `x + y`; `none` panics. -/
def Build.add (build : Build) (x y : Int64) : Option Int64 :=
  match build with
  | .checked => if (x + y).toInt = x.toInt + y.toInt then some (x + y) else none
  | .wrapping => some (x + y)

/-- `validate_reference_scorer` (rubric.rs, 253-317). -/
def validateReferenceScorer (rubric : RubricSpec) : List ValidationIssue :=
  match rubric.referenceScorer with
  | none =>
    if rubric.alignment.isSome then
      pushWarning "rubric.reference_scorer"
        ("alignment evidence is declared but the gold-standard rule package is " ++
          "not; a consumer can read the agreement number without being able to " ++
          "fetch the rules it was measured against")
    else []
  | some scorer =>
    (if ¬scorer.packageRef.contains '@' then
      pushError "rubric.reference_scorer.package_ref" "must be of the form 'package_id@version'"
    else []) ++
    (if (trim scorer.artifact).isEmpty then
      pushError "rubric.reference_scorer.artifact"
        ("name the artifact inside the package that holds the rules " ++ "(e.g. 'qa_rubric.py')")
    else []) ++
    (if ¬isSha256 scorer.digest then
      pushError "rubric.reference_scorer.digest"
        "must be a 'sha256:<hex>' digest of the scorer source"
    else []) ++
    (if isBlank scorer.entrypoint then
      pushWarning "rubric.reference_scorer.entrypoint"
        ("no callable declared; give 'module:function' so a consumer can execute " ++
          "the rules rather than only read them")
    else if ¬(scorer.entrypoint.getD "").contains ':' then
      pushError "rubric.reference_scorer.entrypoint" "must be of the form 'module:callable'"
    else []) ++
    (if scorer.requires.isEmpty then
      pushWarning "rubric.reference_scorer.requires"
        ("no Python requirements declared; an air-gapped consumer cannot tell what " ++
          "it must have vendored to execute the rules")
    else [])

/-- The loop over the digests of the alignment. -/
def validateDigest (field : String) (digest : Option String) : List ValidationIssue :=
  match digest with
  | some d => if ¬isSha256 d then pushError field "must be a 'sha256:<hex>' digest" else []
  | none => pushWarning field "absent; without it the alignment claim is not reproducible"

/-- `agreed as f64 / total as f64`. -/
def derivedRate (agreed total : Int64) : F64 := (F64.ofInt agreed.toInt).div (F64.ofInt total.toInt)

/-- `0.005`. -/
def rateTolerance : F64 := ⟨0x3F747AE147AE147B⟩

/-- `agreed` and `total` against each other and the rate. -/
def validateAgreed (m : RubricMetrics) : List ValidationIssue :=
  match m.total, m.agreed with
  | some total, some agreed =>
    if total < 0 ∨ agreed < 0 then
      pushError "rubric.alignment.metrics.total" "counts must not be negative"
    else if total < agreed then
      pushError "rubric.alignment.metrics.agreed" "cannot exceed 'total'"
    else if 0 < total ∧
        rateTolerance.lt ((derivedRate agreed total).sub m.agreementRate).abs then
      pushError "rubric.alignment.metrics.agreement_rate"
        ("inconsistent with agreed/total (" ++ toString agreed ++ "/" ++ toString total ++ " = " ++
          (derivedRate agreed total).toFixed 4 ++ ")")
    else []
  | _, _ => []

/-- The two credit counts against `total`; `none` panics. -/
def validateCredits (build : Build) (m : RubricMetrics) : Option (List ValidationIssue) :=
  match m.total with
  | none => some []
  | some total =>
    if 0 < total then
      (build.add m.overCreditCount m.underCreditCount).map fun credits =>
        if total < credits then
          pushError "rubric.alignment.metrics"
            "over_credit_count + under_credit_count exceeds total"
        else []
    else some []

/-- The metrics of the alignment; `none` panics. -/
def validateMetrics (build : Build) (m : RubricMetrics) : Option (List ValidationIssue) :=
  (validateCredits build m).map fun credits =>
    (if ¬(F64.zero.le m.agreementRate ∧ m.agreementRate.le F64.one) then
      pushError "rubric.alignment.metrics.agreement_rate" "must be a fraction in [0, 1]"
    else []) ++
    (if m.overCreditCount < 0 then
      pushError "rubric.alignment.metrics.over_credit_count" "must not be negative"
    else []) ++
    (if m.underCreditCount < 0 then
      pushError "rubric.alignment.metrics.under_credit_count" "must not be negative"
    else []) ++
    validateAgreed m ++ credits

/-- The metrics, if the alignment has any; `none` panics. -/
def validateMeasured (build : Build) (metrics : Option RubricMetrics) :
    Option (List ValidationIssue) :=
  match metrics with
  | none => some (pushWarning "rubric.alignment.metrics"
      ("no agreement metrics declared; the promotion gate cannot judge " ++
        "this version and will treat it as unmeasured"))
  | some m => validateMetrics build m

/-- The alignment; `none` panics. -/
def validateAlignment (build : Build) (alignment : Option RubricAlignment) :
    Option (List ValidationIssue) :=
  match alignment with
  | none => some (pushWarning "rubric.alignment"
      ("no alignment evidence declared; the version cannot state which gold " ++
        "standard its rewards match"))
  | some alignment =>
    (validateMeasured build alignment.metrics).map fun metrics =>
      validateDigest "rubric.alignment.corpus_digest" alignment.corpusDigest ++
      validateDigest "rubric.alignment.report_digest" alignment.reportDigest ++
      (if alignment.packageRef.any fun pkg => !pkg.contains '@' then
        pushError "rubric.alignment.package_ref" "must be of the form 'package_id@version'"
      else []) ++
      metrics

/-- The gap at an index. -/
def validateGap (gap : RubricGap × Nat) : List ValidationIssue :=
  (if (trim gap.1.id).isEmpty then
    pushError ("rubric.known_gaps[" ++ toString gap.2 ++ "].id") "must not be empty"
  else []) ++
  (if gap.1.severity ∉ gapSeverities then
    pushError ("rubric.known_gaps[" ++ toString gap.2 ++ "].severity")
      ("must be one of " ++ " / ".intercalate gapSeverities)
  else [])

/-- The datasets against those that `config_schema` accepts. -/
def validateDatasets (rubric : RubricSpec) (datasetKeys : Option (List String)) :
    List ValidationIssue :=
  match datasetKeys with
  | none => []
  | some keys =>
    (rubric.datasets.flatMap fun name =>
      if name ∉ keys then
        pushError ("rubric.datasets." ++ name)
          "scores a dataset that config_schema does not accept"
      else []) ++
    (keys.flatMap fun key =>
      if key ∈ rubric.datasets then []
      else pushWarning ("rubric.datasets." ++ key)
        "dataset is accepted by config_schema but has no declared scorer")

/-- `rubric::validate`: the issues that it adds to the report; `none` panics. -/
def validate (build : Build) (rubric : RubricSpec) (datasetKeys : Option (List String)) :
    Option (List ValidationIssue) :=
  (validateAlignment build rubric.alignment).map fun alignment =>
    (if trim rubric.schemaVersion ≠ rubricSchemaVersion then
      pushError "rubric.schema_version"
        ("unsupported rubric schema '" ++ rubric.schemaVersion ++ "'; this Hub accepts '" ++
          rubricSchemaVersion ++ "'")
    else []) ++
    (if isBlank rubric.productionScorer then
      pushWarning "rubric.production_scorer"
        ("name the scorer that actually produces rewards (e.g. " ++
          "'uenv-math-plugin/score_action') so a trajectory can be traced to it")
    else []) ++
    validateReferenceScorer rubric ++
    alignment ++
    rubric.knownGaps.zipIdx.flatMap validateGap ++
    (if rubric.datasets.isEmpty then
      pushWarning "rubric.datasets"
        ("no per-dataset scorer routing declared; reward semantics are then " ++
          "undocumented per benchmark")
    else []) ++
    validateDatasets rubric datasetKeys

/-! ### The promotion gate -/

/-- rubric.rs, 33-40. -/
structure GateOptions where
  minAgreementRate : F64 := ⟨0x3FEE666666666666⟩
  maxOverCredit : Int64 := 0
  enforce : Bool := true

/-- rubric.rs, 57-62. -/
structure GateOutcome where
  eligible : Bool
  notes : List String
  deriving DecidableEq

/-- `clear` (rubric.rs, 66-71). -/
def GateOutcome.clear : GateOutcome where
  eligible := true
  notes := []

/-- The findings of `gate` that bar a version. -/
def gateFindings (rubric : RubricSpec) (opts : GateOptions) : List String :=
  match rubric.alignment.bind RubricAlignment.metrics with
  | none =>
    ["rubric declared without alignment metrics: cannot confirm the production " ++
      "scorer matches the reference implementation"]
  | some m =>
    (if opts.maxOverCredit < m.overCreditCount then
      ["over-credit cases " ++ toString m.overCreditCount ++ " exceed the allowed " ++
        toString opts.maxOverCredit ++ ": the scorer rewards answers the " ++
        "reference rejects, which a policy can exploit"]
    else []) ++
    (if m.agreementRate.lt opts.minAgreementRate then
      ["agreement rate " ++ m.agreementRate.toFixed 4 ++ " is below the required " ++
        opts.minAgreementRate.toFixed 4]
    else [])

/-- `rubric::gate`; `blocked` is set with every finding. -/
def gate (rubric : Option RubricSpec) (opts : GateOptions) : GateOutcome :=
  match rubric with
  | none => GateOutcome.clear
  | some rubric =>
    let findings := gateFindings rubric opts
    let blocked := !findings.isEmpty
    if blocked && !opts.enforce then
      { eligible := true
        notes := findings ++
          ["promotion gate is disabled on this Hub; recorded as advisory only"] }
    else { eligible := !blocked, notes := findings }

/-! ### What a valid report says -/

/-- `rubric.alignment.metrics`. -/
def RubricSpec.metrics (rubric : RubricSpec) : Option RubricMetrics :=
  rubric.alignment.bind RubricAlignment.metrics

/-- The rules on the coordinate of the reference scorer. -/
structure ScorerRules (scorer : RubricScorerRef) : Prop where
  packageRef : scorer.packageRef.contains '@' = true
  artifact : (trim scorer.artifact).isEmpty = false
  digest : isSha256 scorer.digest = true
  entrypoint : isBlank scorer.entrypoint = true ∨
    (scorer.entrypoint.getD "").contains ':' = true

/-- The rules on the alignment beside its metrics. -/
structure AlignmentRules (alignment : RubricAlignment) : Prop where
  corpusDigest : ∀ d ∈ alignment.corpusDigest, isSha256 d = true
  reportDigest : ∀ d ∈ alignment.reportDigest, isSha256 d = true
  packageRef : ∀ pkg ∈ alignment.packageRef, pkg.contains '@' = true

/-- The rules on the agreement rate: it is a fraction, and the one that the counts give. -/
structure RateRules (m : RubricMetrics) : Prop where
  fraction : F64.zero.le m.agreementRate = true ∧ m.agreementRate.le F64.one = true
  derived : ∀ total ∈ m.total, ∀ agreed ∈ m.agreed, 0 < total.toInt →
    rateTolerance.lt ((derivedRate agreed total).sub m.agreementRate).abs = false

/-- The rules of the contract beside those on the counts. -/
structure Rules (rubric : RubricSpec) (datasetKeys : Option (List String)) : Prop where
  schemaVersion : trim rubric.schemaVersion = rubricSchemaVersion
  scorer : ∀ scorer ∈ rubric.referenceScorer, ScorerRules scorer
  alignment : ∀ alignment ∈ rubric.alignment, AlignmentRules alignment
  rate : ∀ m ∈ rubric.metrics, RateRules m
  gaps : ∀ gap ∈ rubric.knownGaps, (trim gap.id).isEmpty = false ∧ gap.severity ∈ gapSeverities
  datasets : ∀ keys ∈ datasetKeys, ∀ name ∈ rubric.datasets, name ∈ keys

/-- What `validate` asks of the counts. -/
structure Counted (m : RubricMetrics) : Prop where
  overCredit : 0 ≤ m.overCreditCount.toInt
  underCredit : 0 ≤ m.underCreditCount.toInt
  agreed : ∀ total ∈ m.total, ∀ agreed ∈ m.agreed,
    0 ≤ total.toInt ∧ 0 ≤ agreed.toInt ∧ agreed.toInt ≤ total.toInt
  credits : ∀ total ∈ m.total, 0 < total.toInt →
    m.overCreditCount.toInt + m.underCreditCount.toInt ≤ total.toInt

/-- The declared counts are not negative, and those of the cases are at most `total`. -/
structure Consistent (m : RubricMetrics) : Prop where
  overCredit : 0 ≤ m.overCreditCount.toInt
  underCredit : 0 ≤ m.underCreditCount.toInt
  total : ∀ total ∈ m.total, 0 ≤ total.toInt
  agreed : ∀ agreed ∈ m.agreed, 0 ≤ agreed.toInt
  cases : ∀ total ∈ m.total,
    (m.agreed.elim 0 Int64.toInt) + m.overCreditCount.toInt + m.underCreditCount.toInt ≤ total.toInt

/-- The sum that `validate` forms is an `i64`. -/
def Fits (m : RubricMetrics) : Prop :=
  ∀ total ∈ m.total, 0 < total.toInt →
    (m.overCreditCount + m.underCreditCount).toInt =
      m.overCreditCount.toInt + m.underCreditCount.toInt

/-- The counts that no rule of `validate` looks at together. -/
inductive Unchecked (m : RubricMetrics) : Prop
  /-- A negative `total` without `agreed`. -/
  | total (total : Int64) (declared : m.total = some total) (absent : m.agreed = none)
      (negative : total.toInt < 0)
  /-- A negative `agreed` without `total`. -/
  | agreed (agreed : Int64) (declared : m.agreed = some agreed) (absent : m.total = none)
      (negative : agreed.toInt < 0)
  /-- Credits in a corpus without cases. -/
  | empty (declared : m.total = some 0) (agrees : ∀ agreed ∈ m.agreed, agreed.toInt = 0)
      (credits : 0 < m.overCreditCount.toInt + m.underCreditCount.toInt)
  /-- `agreed` and the credits are at most `total` each, and not together. -/
  | sum (total agreed : Int64) (declared : m.total = some total) (given : m.agreed = some agreed)
      (agrees : 0 ≤ agreed.toInt ∧ agreed.toInt ≤ total.toInt) (positive : 0 < total.toInt)
      (credits : m.overCreditCount.toInt + m.underCreditCount.toInt ≤ total.toInt)
      (exceeds : total.toInt < agreed.toInt + m.overCreditCount.toInt + m.underCreditCount.toInt)

/-- A rubric whose credits are not negative has counts that no rule looks at. -/
structure Missed (m : RubricMetrics) : Prop where
  overCredit : 0 ≤ m.overCreditCount.toInt
  underCredit : 0 ≤ m.underCreditCount.toInt
  unchecked : Unchecked m

/-- The validation does not overflow; without an error the counts are consistent, and over-credit
bars the version. -/
structure Accountable (rubric : RubricSpec) (datasetKeys : Option (List String)) : Prop where
  total : (validate .checked rubric datasetKeys).isSome
  consistent : ∀ build issues, validate build rubric datasetKeys = some issues → Valid issues →
    ∀ m ∈ rubric.metrics, Consistent m
  barred : ∀ m ∈ rubric.metrics, 0 < m.overCreditCount.toInt →
    ∀ minAgreementRate, (gate (some rubric)
      { minAgreementRate, maxOverCredit := 0, enforce := true }).eligible = false

theorem valid_validateReferenceScorer {rubric : RubricSpec} :
    Valid (validateReferenceScorer rubric) ↔
      ∀ scorer ∈ rubric.referenceScorer, ScorerRules scorer := by
  unfold validateReferenceScorer
  cases rubric.referenceScorer with
  | none =>
    simp only [valid_ite_pushWarning, valid_nil, or_true, Option.mem_def, reduceCtorEq,
      false_implies, implies_true]
  | some =>
    simp only [Option.mem_some_iff, forall_eq', valid_append, valid_ite_pushError,
      valid_ite_pushWarning, valid_nil, and_true, or_true, not_not]
    simp only [Bool.not_eq_true]
    constructor
    · rintro ⟨⟨⟨packageRef, artifact⟩, digest⟩, entrypoint⟩
      exact ⟨packageRef, artifact, digest, entrypoint⟩
    · intro rules
      exact ⟨⟨⟨rules.packageRef, rules.artifact⟩, rules.digest⟩, rules.entrypoint⟩

theorem valid_validateDigest {field : String} {digest : Option String} :
    Valid (validateDigest field digest) ↔ ∀ d ∈ digest, isSha256 d = true := by
  cases digest <;> simp [validateDigest]

theorem valid_validateAgreed {m : RubricMetrics} :
    Valid (validateAgreed m) ↔ ∀ total ∈ m.total, ∀ agreed ∈ m.agreed,
      (0 ≤ total.toInt ∧ 0 ≤ agreed.toInt ∧ agreed.toInt ≤ total.toInt) ∧
      (0 < total.toInt →
        rateTolerance.lt ((derivedRate agreed total).sub m.agreementRate).abs = false) := by
  unfold validateAgreed
  cases m.total with
  | none => simp
  | some =>
    cases m.agreed with
    | none => simp
    | some =>
      simp only [valid_ite_pushError, valid_nil, and_true, Int64.lt_iff_toInt_lt, Int64.toInt_zero,
        not_or, not_lt, not_and, Bool.not_eq_true, Option.mem_some_iff, forall_eq', and_assoc]

theorem Fits.add {m : RubricMetrics} {total : Int64} (fits : Fits m)
    (declared : m.total = some total) (positive : 0 < total.toInt) (build : Build) :
    build.add m.overCreditCount m.underCreditCount =
      some (m.overCreditCount + m.underCreditCount) := by
  cases build with
  | checked => exact if_pos (fits total declared positive)
  | wrapping => rfl

/-- The checked build stops exactly at a sum that is no `i64`. -/
theorem validateCredits_isSome {m : RubricMetrics} :
    (validateCredits .checked m).isSome ↔ Fits m := by
  unfold validateCredits Fits
  cases m.total with
  | none => simp
  | some total =>
    by_cases positive : 0 < total.toInt
    · simp [Int64.lt_iff_toInt_lt, Build.add, positive]
    · simp [Int64.lt_iff_toInt_lt, positive]

theorem valid_validateCredits {m : RubricMetrics} (fits : Fits m) (build : Build) :
    ∃ issues, validateCredits build m = some issues ∧
      (Valid issues ↔ ∀ total ∈ m.total, 0 < total.toInt →
        m.overCreditCount.toInt + m.underCreditCount.toInt ≤ total.toInt) := by
  unfold validateCredits
  cases declared : m.total with
  | none => exact ⟨[], rfl, by simp⟩
  | some total =>
    by_cases positive : 0 < total.toInt
    · have sum := fits total declared positive
      simp only [Int64.lt_iff_toInt_lt, Int64.toInt_zero, positive, if_true,
        fits.add declared positive build, Option.map_some, sum]
      exact ⟨_, rfl, by simp [positive]⟩
    · exact ⟨[], if_neg (by simpa [Int64.lt_iff_toInt_lt] using positive), by simp [positive]⟩

theorem validateMetrics_isSome {m : RubricMetrics} :
    (validateMetrics .checked m).isSome ↔ Fits m := by
  rw [validateMetrics, Option.isSome_map, validateCredits_isSome]

theorem valid_validateMetrics {m : RubricMetrics} (fits : Fits m) (build : Build) :
    ∃ issues, validateMetrics build m = some issues ∧
      (Valid issues ↔ RateRules m ∧ Counted m) := by
  obtain ⟨credits, found, valid⟩ := valid_validateCredits fits build
  refine ⟨_, by rw [validateMetrics, found, Option.map_some], ?_⟩
  simp only [valid_append, valid_ite_pushError, valid_nil, and_true, not_not, not_lt,
    Int64.lt_iff_toInt_lt, Int64.toInt_zero, valid_validateAgreed, valid]
  constructor
  · rintro ⟨⟨⟨⟨fraction, overCredit⟩, underCredit⟩, agreed⟩, credits⟩
    exact ⟨⟨fraction, fun total declared n given => (agreed total declared n given).2⟩,
      ⟨overCredit, underCredit, fun total declared n given => (agreed total declared n given).1,
        credits⟩⟩
  · rintro ⟨rate, counted⟩
    exact ⟨⟨⟨⟨rate.fraction, counted.overCredit⟩, counted.underCredit⟩,
      fun total declared n given =>
        ⟨counted.agreed total declared n given, rate.derived total declared n given⟩⟩,
      counted.credits⟩

theorem valid_validateGap {gap : RubricGap × Nat} : Valid (validateGap gap) ↔
      (trim gap.1.id).isEmpty = false ∧ gap.1.severity ∈ gapSeverities := by
  simp only [validateGap, valid_append, valid_ite_pushError, valid_nil, and_true,
    Bool.not_eq_true, not_not]

theorem valid_validateDatasets {rubric : RubricSpec} {datasetKeys : Option (List String)} :
    Valid (validateDatasets rubric datasetKeys) ↔
      ∀ keys ∈ datasetKeys, ∀ name ∈ rubric.datasets, name ∈ keys := by
  unfold validateDatasets
  cases datasetKeys with
  | none => simp
  | some =>
    have warned : ∀ key, Valid (if key ∈ rubric.datasets then []
        else pushWarning ("rubric.datasets." ++ key)
          "dataset is accepted by config_schema but has no declared scorer") := by
      intro key
      by_cases scored : key ∈ rubric.datasets <;> simp [scored]
    simp only [valid_append, valid_flatMap, valid_ite_pushError, valid_nil, and_true, not_not,
      warned, implies_true, Option.mem_some_iff, forall_eq']

theorem validateMeasured_isSome {metrics : Option RubricMetrics} :
    (validateMeasured .checked metrics).isSome ↔ ∀ m ∈ metrics, Fits m := by
  cases metrics with
  | none => simp [validateMeasured]
  | some m => simpa [validateMeasured] using validateMetrics_isSome

theorem valid_validateMeasured {metrics : Option RubricMetrics} (fits : ∀ m ∈ metrics, Fits m)
    (build : Build) :
    ∃ issues, validateMeasured build metrics = some issues ∧
      (Valid issues ↔ ∀ m ∈ metrics, RateRules m ∧ Counted m) := by
  cases metrics with
  | none => exact ⟨_, rfl, by simp⟩
  | some m => simpa [validateMeasured] using valid_validateMetrics (fits m rfl) build

theorem validateAlignment_isSome {alignment : Option RubricAlignment} :
    (validateAlignment .checked alignment).isSome ↔
      ∀ m ∈ alignment.bind RubricAlignment.metrics, Fits m := by
  cases alignment with
  | none => simp [validateAlignment]
  | some =>
    rw [validateAlignment, Option.isSome_map, Option.bind_some, validateMeasured_isSome]

theorem valid_validateAlignment {alignment : Option RubricAlignment}
    (fits : ∀ m ∈ alignment.bind RubricAlignment.metrics, Fits m) (build : Build) :
    ∃ issues, validateAlignment build alignment = some issues ∧
      (Valid issues ↔ (∀ found ∈ alignment, AlignmentRules found) ∧
        ∀ m ∈ alignment.bind RubricAlignment.metrics, RateRules m ∧ Counted m) := by
  cases alignment with
  | none => exact ⟨_, rfl, by simp⟩
  | some alignment =>
    rw [Option.bind_some] at fits ⊢
    obtain ⟨measured, found, valid⟩ := valid_validateMeasured fits build
    refine ⟨_, by rw [validateAlignment, found, Option.map_some], ?_⟩
    simp only [valid_append, valid_validateDigest, valid_ite_pushError, valid_nil, and_true,
      valid, Option.mem_some_iff, forall_eq']
    refine and_congr_left fun _ => ?_
    have packageRef : (¬(alignment.packageRef.any fun pkg => !pkg.contains '@') = true) ↔
        ∀ pkg ∈ alignment.packageRef, pkg.contains '@' = true := by
      cases alignment.packageRef <;> simp
    rw [packageRef]
    constructor
    · rintro ⟨⟨corpusDigest, reportDigest⟩, packageRef⟩
      exact ⟨corpusDigest, reportDigest, packageRef⟩
    · intro rules
      exact ⟨⟨rules.corpusDigest, rules.reportDigest⟩, rules.packageRef⟩

/-! ### Accountability -/

variable {rubric : RubricSpec} {datasetKeys : Option (List String)}

/-- The checked build stops exactly at credits whose sum is no `i64`. -/
theorem validate_isSome :
    (validate .checked rubric datasetKeys).isSome ↔ ∀ m ∈ rubric.metrics, Fits m := by
  rw [validate, Option.isSome_map, validateAlignment_isSome, RubricSpec.metrics]

/-- Away from that, a report of any build is valid exactly if the contract follows the rules. -/
theorem valid_validate (fits : ∀ m ∈ rubric.metrics, Fits m) (build : Build) :
    ∃ issues, validate build rubric datasetKeys = some issues ∧
      (Valid issues ↔ Rules rubric datasetKeys ∧ ∀ m ∈ rubric.metrics, Counted m) := by
  obtain ⟨aligned, found, valid⟩ := valid_validateAlignment fits build
  refine ⟨_, by rw [validate, found, Option.map_some], ?_⟩
  simp only [valid_append, valid_ite_pushError, valid_ite_pushWarning, valid_nil, and_true,
    or_true, not_not, valid_validateReferenceScorer, valid, valid_flatMap, valid_validateGap,
    valid_validateDatasets]
  constructor
  · rintro ⟨⟨⟨⟨schemaVersion, scorer⟩, alignment, metrics⟩, gaps⟩, datasets⟩
    refine ⟨⟨schemaVersion, scorer, alignment, fun m declared => (metrics m declared).1,
      fun gap listed => ?_, datasets⟩, fun m declared => (metrics m declared).2⟩
    obtain ⟨i, short, rfl⟩ := List.mem_iff_getElem.mp listed
    exact gaps (_, i) (List.mk_mem_zipIdx_iff_getElem?.mpr (List.getElem?_eq_getElem short))
  · rintro ⟨rules, counted⟩
    exact ⟨⟨⟨⟨rules.schemaVersion, rules.scorer⟩, rules.alignment,
      fun m declared => ⟨rules.rate m declared, counted m declared⟩⟩,
      fun gap listed => rules.gaps gap.1 (List.fst_mem_of_mem_zipIdx listed)⟩, rules.datasets⟩

section Counts

variable {m : RubricMetrics}

theorem Counted.consistent (counted : Counted m) (checked : ¬Unchecked m) : Consistent m where
  overCredit := counted.overCredit
  underCredit := counted.underCredit
  total := by
    intro total declared
    by_contra negative
    cases given : m.agreed with
    | none => exact checked (.total total declared given (not_le.mp negative))
    | some agreed => exact negative (counted.agreed total declared agreed given).1
  agreed := by
    intro agreed given
    by_contra negative
    cases declared : m.total with
    | none => exact checked (.agreed agreed given declared (not_le.mp negative))
    | some total => exact negative (counted.agreed total declared agreed given).2.1
  cases := by
    intro total declared
    by_contra exceeds
    have overCredit := counted.overCredit
    have underCredit := counted.underCredit
    have credits := counted.credits total declared
    rcases lt_trichotomy total.toInt 0 with negative | zero | positive
    · cases given : m.agreed with
      | none => exact checked (.total total declared given negative)
      | some agreed =>
        exact absurd (counted.agreed total declared agreed given).1 (not_le.mpr negative)
    · obtain rfl : total = 0 := Int64.toInt_inj.mp zero
      have agrees : ∀ agreed ∈ m.agreed, agreed.toInt = 0 := by
        intro agreed given
        have bounds := counted.agreed 0 declared agreed given
        exact le_antisymm bounds.2.2 bounds.2.1
      have none : m.agreed.elim 0 Int64.toInt = 0 := by
        cases given : m.agreed with
        | none => rfl
        | some agreed => exact agrees agreed given
      exact checked (.empty declared agrees (by omega))
    · cases given : m.agreed with
      | none =>
        rw [given] at exceeds
        exact exceeds (by simpa using credits positive)
      | some agreed =>
        rw [given] at exceeds
        exact checked (.sum total agreed declared given
          (counted.agreed total declared agreed given).2 positive (credits positive)
          (not_le.mp exceeds))

theorem Unchecked.not_consistent (unchecked : Unchecked m) : ¬Consistent m := by
  intro consistent
  cases unchecked with
  | total total declared absent negative =>
    exact absurd (consistent.total total declared) (not_le.mpr negative)
  | agreed agreed declared absent negative =>
    exact absurd (consistent.agreed agreed declared) (not_le.mpr negative)
  | empty declared agrees =>
    have cases := consistent.cases 0 declared
    rw [Int64.toInt_zero] at cases
    cases given : m.agreed with
    | none =>
      rw [given, Option.elim_none] at cases
      omega
    | some agreed =>
      rw [given, Option.elim_some, agrees agreed given] at cases
      omega
  | sum total agreed declared given =>
    have cases := consistent.cases total declared
    rw [given, Option.elim_some] at cases
    omega

theorem Missed.counted (missed : Missed m) : Counted m where
  overCredit := missed.overCredit
  underCredit := missed.underCredit
  agreed := by
    intro total declared agreed given
    cases missed.unchecked with
    | total total' declared' absent => simp [absent] at given
    | agreed agreed' given' absent => simp [absent] at declared
    | empty declared' agrees =>
      obtain rfl := Option.mem_unique declared' declared
      simp [agrees agreed given]
    | sum total' agreed' declared' given' agrees positive =>
      obtain rfl := Option.mem_unique declared' declared
      obtain rfl := Option.mem_unique given' given
      exact ⟨le_of_lt positive, agrees⟩
  credits := by
    intro total declared positive
    cases missed.unchecked with
    | total total' declared' =>
      obtain rfl := Option.mem_unique declared' declared
      omega
    | agreed agreed' given' absent => simp [absent] at declared
    | empty declared' =>
      obtain rfl := Option.mem_unique declared' declared
      simp at positive
    | sum total' agreed' declared' given' agrees positive credits =>
      obtain rfl := Option.mem_unique declared' declared
      exact credits

/-- Over-credit bars a version from promotion under `max_over_credit` 0. -/
theorem gate_bars (declared : m ∈ rubric.metrics) (overCredit : 0 < m.overCreditCount.toInt)
    (minAgreementRate : F64) :
    (gate (some rubric) { minAgreementRate, maxOverCredit := 0, enforce := true }).eligible =
      false := by
  have metrics : rubric.alignment.bind RubricAlignment.metrics = some m := declared
  simp [gate, gateFindings, metrics, Int64.lt_iff_toInt_lt, overCredit]

end Counts

/-- The validation accounts for the counts exactly if the sum that it forms is an `i64` and the
contract does not follow every other rule with counts that none looks at. -/
theorem accountable_iff : Accountable rubric datasetKeys ↔ (∀ m ∈ rubric.metrics, Fits m) ∧
        ¬(Rules rubric datasetKeys ∧ ∃ m ∈ rubric.metrics, Missed m) := by
  constructor
  · intro accountable
    have fits := validate_isSome.mp accountable.total
    refine ⟨fits, ?_⟩
    rintro ⟨rules, m, declared, missed⟩
    obtain ⟨issues, found, valid⟩ := @valid_validate rubric datasetKeys fits .checked
    have counted : ∀ n ∈ rubric.metrics, Counted n := by
      intro n given
      obtain rfl := Option.mem_unique declared given
      exact missed.counted
    exact missed.unchecked.not_consistent
      (accountable.consistent .checked issues found (valid.mpr ⟨rules, counted⟩) m declared)
  · rintro ⟨fits, checked⟩
    refine ⟨validate_isSome.mpr fits, ?_, fun m declared credited rate =>
      gate_bars declared credited rate⟩
    intro build issues found clean m declared
    obtain ⟨same, found', valid⟩ := @valid_validate rubric datasetKeys fits build
    obtain rfl := Option.some.inj (found.symm.trans found')
    obtain ⟨rules, counted⟩ := valid.mp clean
    have counts := counted m declared
    exact counts.consistent fun unchecked =>
      checked ⟨rules, m, declared, counts.overCredit, counts.underCredit, unchecked⟩

/-! ### Counts that no rule looks at -/

/-- A rubric that declares these metrics. -/
def measured (total agreed overCredit underCredit : Int64) : RubricSpec where
  schemaVersion := "1"
  productionScorer := none
  referenceScorer := none
  alignment := some
    { corpusDigest := none
      reportDigest := none
      packageRef := none
      metrics := some
        { total := some total
          agreed := some agreed
          agreementRate := F64.one
          overCreditCount := overCredit
          underCreditCount := underCredit } }
  datasets := []
  knownGaps := []

/-- The sum of the credits overflows; and all the cases agree, and as many do not. -/
theorem not_accountable :
    ¬Accountable (measured 1 1 Int64.maxValue 1) none ∧ ¬Accountable (measured 4 4 2 2) none := by
  constructor
  · intro accountable
    have total := accountable.total
    revert total
    decide
  · intro accountable
    obtain ⟨issues, found, valid⟩ : ∃ issues,
        validate .checked (measured 4 4 2 2) none = some issues ∧ Valid issues :=
      ⟨_, rfl, by decide +kernel⟩
    have consistent := accountable.consistent .checked issues found valid _ rfl
    have cases := consistent.cases 4 rfl
    revert cases
    decide

end UEnv.Hub.Rubric
