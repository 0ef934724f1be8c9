import UEnv.Hub.PackagingGate

/-!
# The verdicts of the gate and the errors of the validation

What a check says about its subject and what `validate_manifest` reports there. The places of the
issues of two validators never start alike, so that a check that goes by places finds the issues of
its own validator.
-/

namespace UEnv.Hub.Manifest

open Obs Rubric

/-! ### Places -/

/-- The report has an error at such a place. -/
def ErrorAt (p : String → Prop) (issues : List ValidationIssue) : Prop :=
  ∃ issue ∈ issues, issue.severity = .error ∧ p issue.location

/-- The places that start so. -/
def Under (start location : String) : Prop := startsWith start location = true

/-- The places of the errors start so. -/
def PlacedAt (start : String) (issues : List ValidationIssue) : Prop :=
  ∀ issue ∈ issues, issue.severity = .error → startsWith start issue.location = true

section Places

variable {start : String} {p : String → Prop} {issues issues' : List ValidationIssue}

variable {text location message : String}

theorem startsWith_append (starts : startsWith start text = true) (rest : String) :
    startsWith start (text ++ rest) = true := by
  rw [startsWith, List.isPrefixOf_iff_prefix] at starts ⊢
  rw [String.toList_append]
  exact starts.trans (List.prefix_append _ _)

theorem not_startsWith {other : String} (starts : startsWith start text = true)
    (differ : ¬start.toList <+: other.toList ∧ ¬other.toList <+: start.toList) :
    startsWith other text = false := by
  rw [startsWith, List.isPrefixOf_iff_prefix] at starts
  rw [startsWith, Bool.eq_false_iff, ne_eq, List.isPrefixOf_iff_prefix]
  intro also
  exact (List.prefix_or_prefix_of_prefix starts also).elim differ.1 differ.2

@[simp] theorem placedAt_nil : PlacedAt start [] := by
  simp [PlacedAt]

@[simp] theorem placedAt_append :
    PlacedAt start (issues ++ issues') ↔ PlacedAt start issues ∧ PlacedAt start issues' := by
  simp only [PlacedAt, List.forall_mem_append]

@[simp] theorem placedAt_flatMap {α : Type} {items : List α} {f : α → List ValidationIssue} :
    PlacedAt start (items.flatMap f) ↔ ∀ item ∈ items, PlacedAt start (f item) := by
  simp only [PlacedAt, List.mem_flatMap, forall_exists_index, and_imp]
  exact ⟨fun placed item here issue found => placed issue item here found,
    fun placed issue item here found => placed item here issue found⟩

@[simp] theorem placedAt_pushError :
    PlacedAt start (pushError location message) ↔ startsWith start location = true := by
  simp [PlacedAt, pushError]

theorem placedAt_of_valid (valid : Valid issues) : PlacedAt start issues :=
  fun issue listed error => absurd error (valid issue listed)

@[simp] theorem placedAt_pushWarning (location message : String) :
    PlacedAt start (pushWarning location message) :=
  placedAt_of_valid (valid_pushWarning location message)

theorem PlacedAt.ite {c : Prop} [Decidable c] (yes : PlacedAt start issues)
    (no : PlacedAt start issues') : PlacedAt start (if c then issues else issues') := by
  split
  · exact yes
  · exact no

/-- One rule that is checked by a `push_error`. -/
theorem PlacedAt.rule {c : Prop} [Decidable c] (starts : startsWith start location = true) :
    PlacedAt start (if c then pushError location message else []) :=
  PlacedAt.ite (placedAt_pushError.mpr starts) placedAt_nil

@[simp] theorem errorAt_append :
    ErrorAt p (issues ++ issues') ↔ ErrorAt p issues ∨ ErrorAt p issues' := by
  simp only [ErrorAt, List.mem_append, or_and_right, exists_or]

theorem not_errorAt_of_valid (valid : Valid issues) : ¬ErrorAt p issues := by
  rintro ⟨issue, listed, error, -⟩
  exact valid issue listed error

theorem PlacedAt.not_errorAt (placed : PlacedAt start issues)
    (avoids : ∀ location, startsWith start location = true → ¬p location) : ¬ErrorAt p issues := by
  rintro ⟨issue, listed, error, there⟩
  exact avoids issue.location (placed issue listed error) there

theorem PlacedAt.errorAt_under (placed : PlacedAt start issues) :
    ErrorAt (Under start) issues ↔ ¬Valid issues := by
  constructor
  · rintro ⟨issue, listed, error, -⟩ valid
    exact valid issue listed error
  · intro errs
    simp only [Valid, not_forall, not_not, exists_prop] at errs
    obtain ⟨issue, listed, error⟩ := errs
    exact ⟨issue, listed, error, placed issue listed error⟩

end Places

/-! ### Places of the validators -/

section Validators

variable {crates : Crates} {build : Build} {start location : String}

theorem placedAt_checkIsSchema (schema : Json) (starts : startsWith start location = true) :
    PlacedAt start (checkIsSchema crates schema location) := by
  unfold checkIsSchema
  cases crates.compile schema <;> simp [starts]

theorem placedAt_validateInstance (schema value : Json)
    (starts : startsWith start location = true) :
    PlacedAt start (validateInstance crates schema value location) := by
  unfold validateInstance
  cases crates.compile schema with
  | some => simp [starts]
  | none =>
    simp only [placedAt_flatMap, placedAt_pushError]
    rintro ⟨path, error⟩ -
    split
    · exact starts
    · exact startsWith_append starts path

theorem placedAt_checkDeclared (schema : Option Json) (starts : startsWith start location = true) :
    PlacedAt start (checkDeclared crates schema location) := by
  cases schema with
  | none => exact placedAt_nil
  | some schema => exact placedAt_checkIsSchema schema starts

theorem placedAt_validateInterface (interface : InterfaceSchema) :
    PlacedAt "interface." (validateInterface crates interface) := by
  simp only [validateInterface, placedAt_append]
  exact ⟨⟨placedAt_checkDeclared _ (by decide), placedAt_checkDeclared _ (by decide)⟩,
    placedAt_checkDeclared _ (by decide)⟩

theorem placedAt_validateExamples (req : PublishVersionRequest) :
    PlacedAt "examples[" (validateExamples crates req) := by
  simp only [validateExamples, placedAt_flatMap]
  rintro ⟨entry, i⟩ -
  unfold validateExampleActions
  split
  · simp only [placedAt_flatMap]
    rintro ⟨action, j⟩ -
    refine placedAt_validateInstance _ _ ?_
    simp only [String.append_assoc]
    exact startsWith_append (by decide) _
  · exact placedAt_nil

theorem placedAt_validateDependencies (dependencies : Option Dependencies) :
    PlacedAt "dependencies." (validateDependencies dependencies) := by
  unfold validateDependencies
  cases dependencies with
  | none => exact placedAt_nil
  | some =>
    simp only [placedAt_flatMap]
    rintro ⟨dep, i⟩ -
    refine PlacedAt.rule ?_
    rw [String.append_assoc]
    exact startsWith_append (by decide) _

theorem placedAt_validateEnvType (envType : String) :
    PlacedAt "env_type" (validateEnvType envType) := by
  unfold validateEnvType
  refine PlacedAt.ite (placedAt_pushError.mpr (by decide)) (placedAt_append.mpr ⟨?_, ?_⟩)
  · exact PlacedAt.rule (by decide)
  · exact PlacedAt.rule (by decide)

theorem placedAt_validateImage (image : Option ImageSpec) :
    PlacedAt "image." (validateImage image) := by
  cases image with
  | none => exact placedAt_nil
  | some =>
    simp only [validateImage, placedAt_append]
    refine ⟨⟨PlacedAt.rule (by decide), PlacedAt.ite (placedAt_pushWarning _ _) placedAt_nil⟩, ?_⟩
    split
    · exact placedAt_pushWarning _ _
    · exact placedAt_nil

theorem valid_validateBaseImage (base : Option String) :
    Valid (validateBaseImage location base) := by
  unfold validateBaseImage
  split <;> simp

theorem valid_adviseSide (side : String) (schema : Option Json) :
    Valid (adviseSide side schema) := by
  unfold adviseSide
  split <;> simp

end Validators

/-! ### Places of the rubric -/

section Rubric

variable {build : Build}

theorem placedAt_validateReferenceScorer (rubric : Rubric.RubricSpec) :
    PlacedAt "rubric." (validateReferenceScorer rubric) := by
  unfold validateReferenceScorer
  cases rubric.referenceScorer with
  | none => exact PlacedAt.ite (placedAt_pushWarning _ _) placedAt_nil
  | some =>
    simp only [placedAt_append]
    refine ⟨⟨⟨⟨PlacedAt.rule (by decide), PlacedAt.rule (by decide)⟩, PlacedAt.rule (by decide)⟩,
      ?_⟩, PlacedAt.ite (placedAt_pushWarning _ _) placedAt_nil⟩
    exact PlacedAt.ite (placedAt_pushWarning _ _) (PlacedAt.rule (by decide))

theorem placedAt_validateDigest {field : String} (digest : Option String)
    (starts : startsWith "rubric." field = true) :
    PlacedAt "rubric." (validateDigest field digest) := by
  cases digest with
  | none => exact placedAt_pushWarning _ _
  | some d => exact PlacedAt.rule starts

theorem placedAt_validateAgreed (m : RubricMetrics) : PlacedAt "rubric." (validateAgreed m) := by
  unfold validateAgreed
  split
  · refine PlacedAt.ite ?_ (PlacedAt.ite ?_ (PlacedAt.rule (by decide)))
    · exact placedAt_pushError.mpr (by decide)
    · exact placedAt_pushError.mpr (by decide)
  · exact placedAt_nil

variable {m : RubricMetrics}

theorem placedAt_validateCredits {issues : List ValidationIssue}
    (ran : validateCredits build m = some issues) : PlacedAt "rubric." issues := by
  unfold validateCredits at ran
  split at ran
  · cases ran
    exact placedAt_nil
  · split at ran
    · obtain ⟨credits, -, rfl⟩ := Option.map_eq_some_iff.mp ran
      exact PlacedAt.rule (by decide)
    · cases ran
      exact placedAt_nil

theorem placedAt_validateMetrics {issues : List ValidationIssue}
    (ran : validateMetrics build m = some issues) : PlacedAt "rubric." issues := by
  obtain ⟨credits, found, rfl⟩ := Option.map_eq_some_iff.mp ran
  simp only [placedAt_append]
  exact ⟨⟨⟨⟨PlacedAt.rule (by decide), PlacedAt.rule (by decide)⟩, PlacedAt.rule (by decide)⟩,
    placedAt_validateAgreed m⟩, placedAt_validateCredits found⟩

theorem placedAt_validateAlignment {alignment : Option RubricAlignment}
    {issues : List ValidationIssue} (ran : validateAlignment build alignment = some issues) :
    PlacedAt "rubric." issues := by
  cases alignment with
  | none =>
    cases ran
    exact placedAt_pushWarning _ _
  | some alignment =>
    obtain ⟨metrics, found, rfl⟩ := Option.map_eq_some_iff.mp ran
    simp only [placedAt_append]
    refine ⟨⟨⟨placedAt_validateDigest _ (by decide), placedAt_validateDigest _ (by decide)⟩,
      PlacedAt.rule (by decide)⟩, ?_⟩
    cases declared : alignment.metrics with
    | none =>
      rw [declared] at found
      cases found
      exact placedAt_pushWarning _ _
    | some m =>
      rw [declared] at found
      exact placedAt_validateMetrics found

theorem placedAt_validateGap (gap : RubricGap × Nat) : PlacedAt "rubric." (validateGap gap) := by
  simp only [validateGap, placedAt_append, String.append_assoc]
  exact ⟨PlacedAt.rule (startsWith_append (by decide) _),
    PlacedAt.rule (startsWith_append (by decide) _)⟩

theorem placedAt_validateDatasets (rubric : Rubric.RubricSpec)
    (datasetKeys : Option (List String)) :
    PlacedAt "rubric." (validateDatasets rubric datasetKeys) := by
  unfold validateDatasets
  cases datasetKeys with
  | none => exact placedAt_nil
  | some =>
    simp only [placedAt_append, placedAt_flatMap]
    exact ⟨fun name _ => PlacedAt.rule (startsWith_append (by decide) _),
      fun key _ => PlacedAt.ite placedAt_nil (placedAt_pushWarning _ _)⟩

theorem placedAt_validate {rubric : Rubric.RubricSpec} {datasetKeys : Option (List String)}
    {issues : List ValidationIssue} (ran : validate build rubric datasetKeys = some issues) :
    PlacedAt "rubric." issues := by
  obtain ⟨alignment, found, rfl⟩ := Option.map_eq_some_iff.mp ran
  simp only [placedAt_append, placedAt_flatMap]
  exact ⟨⟨⟨⟨⟨⟨PlacedAt.rule (by decide), PlacedAt.ite (placedAt_pushWarning _ _) placedAt_nil⟩,
    placedAt_validateReferenceScorer rubric⟩, placedAt_validateAlignment found⟩,
    fun gap _ => placedAt_validateGap gap⟩, PlacedAt.ite (placedAt_pushWarning _ _) placedAt_nil⟩,
    placedAt_validateDatasets rubric datasetKeys⟩

end Rubric

/-! ### The report of the validation -/

/-- `default_config` at any depth, or `config_schema`. -/
def AboutConfig (location : String) : Prop :=
  location = "config_schema" ∨ startsWith "default_config" location = true

section Manifest

variable {crates : Crates} {build : Build} {envType : String} {req : PublishVersionRequest}
  {issues rubric : List ValidationIssue} {p : String → Prop}

theorem placedAt_validateRubric (ran : validateRubric build req = some rubric) :
    PlacedAt "rubric." rubric := by
  unfold validateRubric at ran
  split at ran
  · exact placedAt_validate ran
  · cases ran
    exact placedAt_nil

/-- The places that no check goes by. -/
structure Avoids (p : String → Prop) : Prop where
  envType : ∀ location, startsWith "env_type" location = true → ¬p location
  version : ∀ location, startsWith "version" location = true → ¬p location
  image : ∀ location, startsWith "image." location = true → ¬p location
  dependencies : ∀ location, startsWith "dependencies." location = true → ¬p location

theorem errorAt_manifest (ran : validateManifest crates build envType req = some issues)
    (checked : validateRubric build req = some rubric) (avoids : Avoids p) :
    ErrorAt p issues ↔ ErrorAt p (validateConfig crates req) ∨
      ErrorAt p (validateInterface crates req.interface) ∨ ErrorAt p (validateExamples crates req) ∨
        ErrorAt p rubric := by
  have envType := (placedAt_validateEnvType envType).not_errorAt avoids.envType
  have version : ¬ErrorAt p (if ¬crates.isVersion req.version then
      pushError "version" "not a valid semantic version" else []) :=
    (PlacedAt.rule (by decide)).not_errorAt avoids.version
  have image := (placedAt_validateImage req.image).not_errorAt avoids.image
  have dependencies :=
    (placedAt_validateDependencies req.dependencies).not_errorAt avoids.dependencies
  have base := fun location base => not_errorAt_of_valid (p := p)
    (@valid_validateBaseImage location base)
  have side := fun side schema => not_errorAt_of_valid (p := p) (valid_adviseSide side schema)
  have warned : ∀ (c : Prop) [Decidable c] location message,
      ¬ErrorAt p (if c then pushWarning location message else []) := by
    intro c _ location message
    refine not_errorAt_of_valid ?_
    simp
  rw [validateManifest, validatePublish, checked] at ran
  cases ran
  simp only [errorAt_append, envType, version, image, dependencies, base, side, warned, or_false,
    false_or, or_assoc]

end Manifest

/-! ### The report of the gate -/

/-- The status of the check with this id. -/
def ConformanceReport.status (report : ConformanceReport) (id : String) : Option CheckStatus :=
  (report.checks.find? fun check => check.id = id).map Check.status

/-- No error, and no check that fails beside the one that lists the errors. -/
def Fit (issues : List ValidationIssue) (report : ConformanceReport) : Prop :=
  Valid issues ∧ ∀ check ∈ report.checks, check.id ≠ "C01" → check.status ≠ .fail

/-- The verdicts are those of the validation: four checks fail exactly at an error on their subject,
none of them passes with one, and a report passes without errors and other failures. -/
structure FaithfulVerdicts (issues : List ValidationIssue) (report : ConformanceReport) : Prop where
  interface : report.status "C03" = some .fail ↔
    ErrorAt (Under "interface.") issues
  examples : report.status "C05" = some .fail ↔
    ErrorAt (Under "examples[") issues
  config : report.status "C08" = some .fail ↔ ErrorAt AboutConfig issues
  rubric : report.status "C12" = some .fail ↔
    ErrorAt (Under "rubric.") issues
  passed : report.passed = true ↔ Fit issues report

/-- The gate bars the rubric of a request under its thresholds. -/
def Barred (req : PublishVersionRequest) (gate : Rubric.GateOptions) : Prop :=
  ∃ spec ∈ req.rubric, (Rubric.gate (some spec) gate).eligible = false

/-- The verdicts of the gate: C12 fails also at a rubric that the promotion gate bars. -/
structure GateVerdicts (req : PublishVersionRequest) (opts : RunOptions)
    (issues : List ValidationIssue) (report : ConformanceReport) : Prop where
  structural : report.status "C01" = some .fail ↔ ¬Valid issues
  interface : report.status "C03" = some .fail ↔
    ErrorAt (Under "interface.") issues
  examples : report.status "C05" = some .fail ↔
    ErrorAt (Under "examples[") issues
  config : report.status "C08" = some .fail → ErrorAt AboutConfig issues
  configRoot : ErrorAt (fun location => location = "config_schema" ∨ location = "default_config")
    issues → report.status "C08" = some .fail
  rubric : report.status "C12" = some .fail ↔
    ErrorAt (Under "rubric.") issues ∨
      Barred req opts.rubricGate
  passed : report.passed = true ↔ Fit issues report

section Verdicts

variable {crates : Crates} {build : Build} {envType : String} {req : PublishVersionRequest}
  {opts : RunOptions} {issues : List ValidationIssue}

@[simp] theorem failOn_id (id title : String) (errors : List String)
    (otherwise : CheckStatus × String) : (failOn id title errors otherwise).id = id := by
  unfold failOn
  split <;> rfl

theorem runChecks_eq {checks : List Check}
    (ran : runChecks crates build envType req opts = some checks) :
    ∃ issues drift rubric, validateManifest crates build envType req = some issues ∧
      contractMatches req.interface opts.modelsSrc = some drift ∧
      rubricCheck build req opts.rubricGate = some rubric ∧
      checks = [structuralValidity issues, contractComplete req.interface,
        schemasCompile crates req.interface, drift, examplesConform issues req.examples,
        zeroEgress req opts.intranetRegistries, imagePinned req.image,
        configConsistent issues req.configSchema, launchable req,
        healthCheckDeclared req.healthCheckPath, offlineCheck opts.offline req.dependencies,
        rubric, rubricScorerCheck req.rubric] := by
  obtain ⟨issues, validated, ran⟩ := Option.bind_eq_some_iff.mp ran
  obtain ⟨drift, matched, ran⟩ := Option.bind_eq_some_iff.mp ran
  obtain ⟨rubric, checked, ran⟩ := Option.bind_eq_some_iff.mp ran
  exact ⟨issues, drift, rubric, validated, matched, checked, (Option.some.inj ran).symm⟩

variable {check : Check} {gate : Rubric.GateOptions}

theorem contractMatches_id {interface : InterfaceSchema} {modelsSrc : Option (List Char)}
    (matched : contractMatches interface modelsSrc = some check) : check.id = "C04" := by
  unfold contractMatches at matched
  split at matched
  · cases matched
    rfl
  · obtain ⟨classes, -, rfl⟩ := Option.map_eq_some_iff.mp matched
    split
    · rfl
    · split <;> rfl

theorem rubricCheck_id (checked : rubricCheck build req gate = some check) : check.id = "C12" := by
  unfold rubricCheck at checked
  split at checked
  · cases checked
    rfl
  · obtain ⟨report, -, rfl⟩ := Option.map_eq_some_iff.mp checked
    dsimp only
    split_ifs <;> rfl

theorem examplesConform_id (examples : List Example) :
    (examplesConform issues examples).id = "C05" := by
  unfold examplesConform
  dsimp only
  split
  · rfl
  · exact failOn_id _ _ _ _

theorem zeroEgress_id (intranetRegistries : List String) :
    (zeroEgress req intranetRegistries).id = "C06" := by
  unfold zeroEgress
  dsimp only
  split_ifs <;> rfl

theorem imagePinned_id (image : Option ImageSpec) : (imagePinned image).id = "C07" := by
  unfold imagePinned
  cases image with
  | none => rfl
  | some =>
    dsimp only
    split <;> rfl

theorem launchable_id : (launchable req).id = "C09" := by
  unfold launchable
  dsimp only
  split_ifs <;> rfl

theorem healthCheckDeclared_id (path : Option String) : (healthCheckDeclared path).id = "C10" := by
  unfold healthCheckDeclared
  cases path with
  | none => rfl
  | some =>
    dsimp only
    split <;> rfl

theorem offlineCheck_id (ev : OfflineEvidence) (dependencies : Option Dependencies) :
    (offlineCheck ev dependencies).id = "C11" := by
  unfold offlineCheck
  dsimp only
  split
  · split_ifs <;> rfl
  · rfl

theorem rubricScorerCheck_id (rubric : Option Rubric.RubricSpec) :
    (rubricScorerCheck rubric).id = "C13" := by
  unfold rubricScorerCheck
  dsimp only
  split
  · rfl
  · split
    · rfl
    · split_ifs <;> rfl

theorem run_statuses {report : ConformanceReport}
    (ran : run crates build envType req opts = some report) :
    ∃ issues rubric, validateManifest crates build envType req = some issues ∧
      rubricCheck build req opts.rubricGate = some rubric ∧
      report.status "C01" = some (structuralValidity issues).status ∧
      report.status "C03" = some (schemasCompile crates req.interface).status ∧
      report.status "C05" = some (examplesConform issues req.examples).status ∧
      report.status "C08" = some (configConsistent issues req.configSchema).status ∧
      report.status "C12" = some rubric.status ∧
      (report.passed = true ↔ (structuralValidity issues).status ≠ .fail ∧
        ∀ check ∈ report.checks, check.id ≠ "C01" → check.status ≠ .fail) := by
  obtain ⟨checks, list, rfl⟩ := Option.map_eq_some_iff.mp ran
  obtain ⟨issues, drift, rubric, validated, matched, checked, rfl⟩ := runChecks_eq list
  have ids := And.intro (contractMatches_id matched) (rubricCheck_id checked)
  refine ⟨issues, rubric, validated, checked, ?_⟩
  simp [ConformanceReport.status, structuralValidity, contractComplete, schemasCompile, ids,
    examplesConform_id, zeroEgress_id, imagePinned_id, configConsistent, launchable_id,
    healthCheckDeclared_id, offlineCheck_id, rubricScorerCheck_id]

theorem errorTexts_eq_nil : errorTexts issues = [] ↔ Valid issues := by
  simp [errorTexts, Valid]

theorem failOn_fails {id title : String} {errors : List String}
    {otherwise : CheckStatus × String} (other : otherwise.1 ≠ .fail) :
    (failOn id title errors otherwise).status = .fail ↔ errors ≠ [] := by
  unfold failOn
  cases errors <;> simp [other]

theorem errorTexts_filter {q : ValidationIssue → Bool} {p : String → Prop}
    (places : ∀ issue, q issue = true ↔ p issue.location) :
    errorTexts (issues.filter q) ≠ [] ↔ ErrorAt p issues := by
  rw [ne_eq, errorTexts_eq_nil, Valid]
  simp only [List.mem_filter, places, and_imp, not_forall, not_not, exists_prop, ErrorAt]
  exact exists_congr fun issue => and_congr_right fun _ => and_comm

theorem rubricCheck_fails {rubric : List ValidationIssue}
    (validated : validateRubric build req = some rubric)
    (checked : rubricCheck build req gate = some check) :
    check.status = .fail ↔ ¬Valid rubric ∨ Barred req gate := by
  unfold rubricCheck at checked
  unfold validateRubric at validated
  unfold Barred
  cases declared : req.rubric with
  | none =>
    rw [declared] at checked validated
    cases checked
    cases validated
    simp
  | some spec =>
    rw [declared] at checked validated
    obtain ⟨report, found, rfl⟩ := Option.map_eq_some_iff.mp checked
    obtain rfl := Option.some.inj (found.symm.trans validated)
    simp only [List.isEmpty_iff, errorTexts_eq_nil, Option.mem_some_iff, exists_eq_left',
      Bool.not_eq_true']
    by_cases valid : Valid report
    · by_cases barred : (Rubric.gate (some spec) gate).eligible = false
      · simp [valid, barred]
      · rw [if_neg (not_not.mpr valid), if_neg barred]
        split <;> simp [valid, barred]
    · simp [valid]

/-- Neither of the texts is the start of the other. -/
def Apart (start other : String) : Prop :=
  ¬start.toList <+: other.toList ∧ ¬other.toList <+: start.toList

instance (start other : String) : Decidable (Apart start other) :=
  inferInstanceAs (Decidable (_ ∧ _))

theorem Apart.not_under {start other : String} (differ : Apart start other) (location : String)
    (starts : startsWith start location = true) : ¬Under other location := by
  rw [Under, not_startsWith starts differ]
  exact Bool.false_ne_true

theorem avoids_under {word : String}
    (differ : Apart "env_type" word ∧ Apart "version" word ∧ Apart "image." word ∧
      Apart "dependencies." word) : Avoids (Under word) :=
  ⟨differ.1.not_under, differ.2.1.not_under, differ.2.2.1.not_under, differ.2.2.2.not_under⟩

theorem errorAt_config_iff {p : String → Prop} : ErrorAt p (validateConfig crates req) ↔
      ∃ issue ∈ validateConfig crates req, issue.severity = .error ∧ p issue.location ∧
        (startsWith "config_schema" issue.location = true ∨
          startsWith "default_config" issue.location = true) := by
  constructor
  · rintro ⟨issue, listed, error, there⟩
    refine ⟨issue, listed, error, there, ?_⟩
    unfold validateConfig at listed
    split at listed
    · cases listed
    · rcases List.mem_append.mp listed with own | own
      · exact .inl (placedAt_checkIsSchema _ (by decide) issue own error)
      · split at own
        · exact .inr (placedAt_validateInstance _ _ (by decide) issue own error)
        · cases own
  · rintro ⟨issue, listed, error, there, -⟩
    exact ⟨issue, listed, error, there⟩

theorem not_errorAt_config {p : String → Prop}
    (schema : ∀ location, startsWith "config_schema" location = true → ¬p location)
    (default : ∀ location, startsWith "default_config" location = true → ¬p location) :
    ¬ErrorAt p (validateConfig crates req) := by
  rw [errorAt_config_iff]
  rintro ⟨issue, -, -, there, own | own⟩
  · exact schema _ own there
  · exact default _ own there

section Subjects

variable {rubric : List ValidationIssue} {word : String}

theorem not_errorAt_config_under
    (differ : Apart "config_schema" word ∧ Apart "default_config" word) :
    ¬ErrorAt (Under word) (validateConfig crates req) :=
  not_errorAt_config differ.1.not_under differ.2.not_under

section

variable (validated : validateManifest crates build envType req = some issues)
include validated

section

variable (checked : validateRubric build req = some rubric)
include checked

theorem errorAt_interface :
    ErrorAt (Under "interface.") issues ↔ ¬Valid (validateInterface crates req.interface) := by
  have config := @not_errorAt_config_under crates req "interface." (by decide)
  have examples := (@placedAt_validateExamples crates req).not_errorAt
    (show Apart _ "interface." by decide).not_under
  have scoring := (placedAt_validateRubric checked).not_errorAt
    (show Apart _ "interface." by decide).not_under
  rw [errorAt_manifest validated checked (avoids_under (by decide)),
    (placedAt_validateInterface req.interface).errorAt_under]
  simp only [config, examples, scoring, false_or, or_false]

theorem errorAt_examples :
    ErrorAt (Under "examples[") issues ↔ ¬Valid (validateExamples crates req) := by
  have config := @not_errorAt_config_under crates req "examples[" (by decide)
  have interface := (@placedAt_validateInterface crates req.interface).not_errorAt
    (show Apart _ "examples[" by decide).not_under
  have scoring := (placedAt_validateRubric checked).not_errorAt
    (show Apart _ "examples[" by decide).not_under
  rw [errorAt_manifest validated checked (avoids_under (by decide)),
    (placedAt_validateExamples req).errorAt_under]
  simp only [config, interface, scoring, false_or, or_false]

theorem errorAt_rubric : ErrorAt (Under "rubric.") issues ↔ ¬Valid rubric := by
  have config := @not_errorAt_config_under crates req "rubric." (by decide)
  have interface := (@placedAt_validateInterface crates req.interface).not_errorAt
    (show Apart _ "rubric." by decide).not_under
  have examples := (@placedAt_validateExamples crates req).not_errorAt
    (show Apart _ "rubric." by decide).not_under
  rw [errorAt_manifest validated checked (avoids_under (by decide)),
    (placedAt_validateRubric checked).errorAt_under]
  simp only [config, interface, examples, false_or]

end

end

end Subjects

theorem validateRubric_of_manifest
    (validated : validateManifest crates build envType req = some issues) :
    ∃ rubric, validateRubric build req = some rubric := by
  obtain ⟨publish, published, -⟩ := Option.map_eq_some_iff.mp validated
  obtain ⟨rubric, found, -⟩ := Option.map_eq_some_iff.mp published
  exact ⟨rubric, found⟩

theorem rubric_verdict {report : ConformanceReport}
    (validated : validateManifest crates build envType req = some issues)
    (ran : run crates build envType req opts = some report) :
    report.status "C12" = some .fail ↔
      ErrorAt (Under "rubric.") issues ∨ Barred req opts.rubricGate := by
  obtain ⟨-, check, -, checked, -, -, -, -, c12, -⟩ := run_statuses ran
  obtain ⟨rubric, rubricRan⟩ := validateRubric_of_manifest validated
  rw [c12, Option.some.injEq, rubricCheck_fails rubricRan checked,
    errorAt_rubric validated rubricRan]

/-- What the gate says of a manifest agrees with its validation. -/
theorem gate_verdicts {report : ConformanceReport}
    (validated : validateManifest crates build envType req = some issues)
    (ran : run crates build envType req opts = some report) :
    GateVerdicts req opts issues report := by
  obtain ⟨issues', -, validated', -, c01, c03, c05, c08, -, passed⟩ := run_statuses ran
  obtain rfl := Option.some.inj (validated.symm.trans validated')
  obtain ⟨rubric, rubricRan⟩ := validateRubric_of_manifest validated
  refine ⟨?_, ?_, ?_, ?_, ?_, rubric_verdict validated ran, ?_⟩
  · rw [c01, Option.some.injEq, structuralValidity, failOn_fails (by decide), ne_eq,
      errorTexts_eq_nil]
  · rw [c03, Option.some.injEq, schemasCompile, failOn_fails (by decide), ne_eq, errorTexts_eq_nil,
      errorAt_interface validated rubricRan]
  · rw [c05, Option.some.injEq, examplesConform]
    by_cases none : req.examples.isEmpty
    · have valid : Valid (validateExamples crates req) := by
        rw [validateExamples, List.isEmpty_iff.mp none]
        exact valid_nil
      rw [if_pos none, errorAt_examples validated rubricRan]
      simp [valid]
    · rw [if_neg none, failOn_fails (show CheckStatus.pass ≠ .fail by decide)]
      exact errorTexts_filter fun issue => Iff.rfl
  · intro fails
    rw [c08, Option.some.injEq] at fails
    have found := (failOn_fails (by split <;> decide)).mp fails
    obtain ⟨issue, listed, error, there⟩ := (errorTexts_filter (p := fun location =>
      location = "config_schema" ∨ location = "default_config") fun issue => by simp).mp found
    refine ⟨issue, listed, error, there.imp_right fun root => ?_⟩
    rw [root]
    decide
  · intro there
    rw [c08, Option.some.injEq]
    exact (failOn_fails (by split <;> decide)).mpr
      ((errorTexts_filter fun issue => by simp).mpr there)
  · rw [passed, Fit, structuralValidity, ne_eq, failOn_fails (by decide), ne_eq, errorTexts_eq_nil,
      not_not]

end Verdicts

/-! ### A barred rubric -/

/-- Crates that know one version, on a request without schemas. -/
def oneVersion : Crates where
  isVersion version := version == "1.0.0"
  compile _ := none
  violations _ _ := []

/-- A rubric that keeps every rule, with one case of over-credit. -/
def overCredited : PublishVersionRequest where
  version := "1.0.0"
  entrypoint := some "server.app:app"
  rubric := some (measured 1000 999 1 0)

theorem overCredited_runs : ∃ issues report,
    validateManifest oneVersion .checked "qa" overCredited = some issues ∧
      run oneVersion .checked "qa" overCredited {} = some report := by
  obtain ⟨issues, validated⟩ : ∃ issues,
      validateManifest oneVersion .checked "qa" overCredited = some issues := ⟨_, rfl⟩
  obtain ⟨report, ran⟩ : ∃ report,
      run oneVersion .checked "qa" overCredited {} = some report := ⟨_, rfl⟩
  exact ⟨issues, report, validated, ran⟩

theorem gate_verdicts_overCredited : ∃ issues report,
    validateManifest oneVersion .checked "qa" overCredited = some issues ∧
      run oneVersion .checked "qa" overCredited {} = some report ∧
      GateVerdicts overCredited {} issues report := by
  obtain ⟨issues, report, validated, ran⟩ := overCredited_runs
  exact ⟨issues, report, validated, ran, gate_verdicts validated ran⟩

/-- C12 fails without an error of the rubric. -/
theorem overCredited_not_faithful : ∃ issues report,
    validateManifest oneVersion .checked "qa" overCredited = some issues ∧
      run oneVersion .checked "qa" overCredited {} = some report ∧
      ¬FaithfulVerdicts issues report := by
  obtain ⟨issues, report, validated, ran⟩ := overCredited_runs
  refine ⟨issues, report, validated, ran, fun faithful => ?_⟩
  have fails := (rubric_verdict validated ran).mpr (.inr ⟨_, rfl, by decide⟩)
  have errs := faithful.rubric.mp fails
  obtain ⟨rubric, checked, valid⟩ : ∃ rubric,
      validateRubric .checked overCredited = some rubric ∧ Valid rubric :=
    ⟨_, rfl, by decide +kernel⟩
  exact (errorAt_rubric validated checked).mp errs valid

end UEnv.Hub.Manifest
