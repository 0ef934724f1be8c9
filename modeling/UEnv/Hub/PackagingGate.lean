import UEnv.Hub.Conformance
import UEnv.Hub.Manifest

/-!
# The gate before packaging

`run` of `conformance.rs`: thirteen checks over the validation of the manifest. C03 and C12 validate
once more, C05 and C08 look for the places of the issues in the report.
-/

namespace UEnv.Hub.Manifest

open Obs Rubric
open Service (trim)

/-! ### Evidence and options -/

structure OfflineEvidence where
  wheelCount : Option Nat := none
  pycCount : Option Nat := none
  imageTarPresent : Option Bool := none
  pySourceCount : Option Nat := none
  platformMismatch : Option Bool := none
  targetPlatform : Option String := none

/-- `conformance::GateOptions`. -/
structure RunOptions where
  modelsSrc : Option (List Char) := none
  offline : OfflineEvidence := {}
  intranetRegistries : List String := []
  rubricGate : Rubric.GateOptions := {}

structure ConformanceReport where
  envType : String
  version : String
  gateVersion : String
  checks : List Check
  passed : Bool
  strictPassed : Bool
  failed : Nat
  warned : Nat

/-- `GATE_VERSION`. -/
def gateVersion : String := "uenv-conformance/3"

/-! ### Checks on the report -/

/-- The errors of a report, each with its place. -/
def errorTexts (issues : List ValidationIssue) : List String :=
  (issues.filter fun issue => issue.severity = .error).map fun issue =>
    issue.location ++ ": " ++ issue.message

/-- A check that fails with what it found, or else has another outcome. -/
def failOn (id title : String) (errors : List String) (otherwise : CheckStatus × String) : Check :=
  if errors.isEmpty then { id, title, status := otherwise.1, detail := .text otherwise.2 }
  else { id, title, status := .fail, detail := .text ("; ".intercalate errors) }

/-- C01. -/
def structuralValidity (report : List ValidationIssue) : Check :=
  failOn "C01" "manifest structural validity" (errorTexts report)
    (.pass, "no structural errors (same rules as the server publish path)")

/-- C03. -/
def schemasCompile (crates : Crates) (interface : InterfaceSchema) : Check :=
  failOn "C03" "interface schemas compile" (errorTexts (validateInterface crates interface))
    (.pass, "action/observation/state are valid JSON Schema documents")

/-- C05. -/
def examplesConform (report : List ValidationIssue) (examples : List Example) : Check :=
  let title := "examples present and conform to the action schema"
  if examples.isEmpty then
    { id := "C05", title, status := .warn
      detail := .text "no examples/*.json supplied; the contract is undemonstrated" }
  else
    failOn "C05" title
      (errorTexts (report.filter fun issue => startsWith "examples[" issue.location))
      (.pass, toString examples.length ++ " example(s) validated against interface.action")

/-- C08. -/
def configConsistent (report : List ValidationIssue) (configSchema : Option Json) : Check :=
  failOn "C08" "config_schema / default_config consistency"
    (errorTexts (report.filter fun issue =>
      issue.location = "config_schema" ∨ issue.location = "default_config"))
    (if configSchema.isSome then
      (.pass, "config_schema is a valid schema and default_config satisfies it")
    else (.skip, "no config_schema declared"))

/-! ### Checks on the request -/

/-- The image references of a request, each with its field. -/
def imageRefs (req : PublishVersionRequest) : List (String × String) :=
  (req.image.map fun image => ("image.url", image.url)).toList ++
  ((req.image.bind ImageSpec.baseImageRef).map fun base => ("image.base_image_ref", base)).toList ++
  (req.baseImage.map fun base => ("version.base_image", base)).toList

/-- The reference leaves the intranet, or names no registry host. -/
inductive Egress
  | offender (text : String)
  | hostless (text : String)
  | inside

/-- One turn of the loop over the references. -/
def egress (allowlist : List String) (ref : String × String) : Egress :=
  let (field, value) := ref
  if allowlist.isEmpty then
    match publicRegistryOf value with
    | some registry => .offender (field ++ " -> " ++ registry)
    | none => .inside
  else if resolvesToDockerHub value then .hostless (field ++ " -> " ++ value)
  else
    let trimmed := trim value
    let registry := if '/' ∈ trimmed.toList then toAsciiLowercase (host trimmed) else ""
    if registry ∈ allowlist then .inside
    else .offender (field ++ " -> " ++ registry ++ " (not in the --intranet-registry allowlist)")

/-- C06. -/
def zeroEgress (req : PublishVersionRequest) (intranetRegistries : List String) : Check :=
  let title := "zero egress: no public container registry references"
  let allowlist := (intranetRegistries.map fun h => toAsciiLowercase (trim h)).filter (· ≠ "")
  let found := (imageRefs req).map (egress allowlist)
  let offenders := found.filterMap fun ref => match ref with
    | .offender text => some text
    | _ => none
  let hostless := found.filterMap fun ref => match ref with
    | .hostless text => some text
    | _ => none
  let mode := if allowlist.isEmpty then "known-public denylist"
    else "intranet allowlist [" ++ ", ".intercalate allowlist ++ "]"
  if ¬offenders.isEmpty then
    { id := "C06", title, status := .fail
      detail := .text ("packaging for an intranet must not reference external registries (" ++
        mode ++ "): " ++ ", ".intercalate offenders) }
  else if ¬hostless.isEmpty then
    { id := "C06", title, status := .warn
      detail := .text (mode ++ ": reference(s) without a registry host (" ++
        ", ".intercalate hostless ++ ") are only intranet-safe if the " ++
        "image is already in the worker's local store — ship it as a Hub-hosted tar " ++
        "(`uenv env publish-image` + `uenv env sync --docker-load`); a container engine " ++
        "would otherwise resolve them against docker.io") }
  else
    { id := "C06", title, status := .pass
      detail := .text (mode ++ ": every image reference is intranet-reachable or Hub-hosted") }

/-- C07. -/
def imagePinned (image : Option ImageSpec) : Check :=
  let title := "runtime image declared and digest-pinned"
  match image with
  | none =>
    { id := "C07", title, status := .warn
      detail := .text "no [image] declared; the worker can only launch via entrypoint" }
  | some image =>
    if image.digest.any isPinned then
      { id := "C07", title, status := .pass
        detail := .text (image.url ++ " pinned by " ++ image.digest.getD "") }
    else
      { id := "C07", title, status := .warn
        detail := .text (image.url ++ " has no sha256 digest; tampering cannot be detected") }

/-- C09. -/
def launchable (req : PublishVersionRequest) : Check :=
  let title := "environment is launchable (entrypoint or image)"
  if !isBlank req.entrypoint then
    { id := "C09", title, status := .pass, detail := .text "version.entrypoint declared" }
  else if req.image.isSome then
    { id := "C09", title, status := .pass
      detail := .text "[image] declared; launch via image CMD" }
  else
    { id := "C09", title, status := .fail
      detail := .text "neither version.entrypoint nor [image] declared" }

/-- C10. -/
def healthCheckDeclared (healthCheckPath : Option String) : Check :=
  let title := "health check path declared"
  match healthCheckPath with
  | some path =>
    if startsWith "/" path then
      { id := "C10", title, status := .pass, detail := .text ("health_check_path=" ++ path) }
    else
      { id := "C10", title, status := .warn
        detail := .text ("health_check_path '" ++ path ++ "' should start with '/'") }
  | none =>
    { id := "C10", title, status := .warn
      detail := .text
        "no health_check_path; readiness cannot be probed (OpenEnv serves /health)" }

/-- What C11 tells of the evidence. -/
def offlineDetail (ev : OfflineEvidence) (wheels pyc : Nat) : String :=
  "wheelhouse=" ++ toString wheels ++ " wheel(s), precompiled=" ++ toString pyc ++ " .pyc" ++
  (match ev.pySourceCount with
    | some total => " / " ++ toString total ++ " .py source(s)"
    | none => "") ++
  (match ev.imageTarPresent with
    | some tar => ", image_tar=" ++ if tar then "staged" else "absent"
    | none => "") ++
  (match ev.targetPlatform with
    | some platform => if platform.isEmpty then "" else ", target_platform=" ++ platform
    | none => "")

/-- C11, `offline_check`. -/
def offlineCheck (ev : OfflineEvidence) (dependencies : Option Dependencies) : Check :=
  let title := "offline precompilation prepared (wheels + bytecode)"
  let declaresDeps := dependencies.any fun deps =>
    deps.requirementsPath.isSome || !deps.requires.isEmpty
  match ev.wheelCount, ev.pycCount with
  | some wheels, some pyc =>
    let detail := offlineDetail ev wheels pyc
    if ev.platformMismatch = some true then
      { id := "C11", title, status := .fail
        detail := .text (detail ++
          "; the wheelhouse holds platform-specific wheels that do not match the " ++
          "target platform — it would fail to install on the air-gapped worker. Re-run " ++
          "openenv-offline-precompile.sh with --platform/--python-version for the target.") }
    else if wheels = 0 ∧ declaresDeps then
      { id := "C11", title, status := .fail
        detail := .text (detail ++ "; dependencies are declared but the offline wheelhouse is " ++
          "empty — an air-gapped install would need PyPI") }
    else if pyc = 0 then
      { id := "C11", title, status := .warn
        detail := .text (detail ++
          "; no precompiled bytecode (first-run import will compile in-container)") }
    else { id := "C11", title, status := .pass, detail := .text detail }
  | _, _ =>
    { id := "C11", title, status := .skip
      detail := .text ("no offline evidence supplied " ++
        "(run with --project pointing at the prepared env)") }

/-! ### Checks on the rubric -/

/-- `C12_TITLE`. -/
def c12Title : String := "rubric contract & gold-standard alignment"

/-- `C13_TITLE`. -/
def c13Title : String := "rubric gold-standard rule package is Hub-distributable"

/-- What C12 tells of a rubric that is fit. -/
def rubricDetail (spec : Rubric.RubricSpec) : String :=
  (match spec.metrics with
    | some m => "agreement=" ++ m.agreementRate.toFixed 4 ++ ", over_credit=" ++
        toString m.overCreditCount ++ ", under_credit=" ++ toString m.underCreditCount
    | none => "no metrics") ++
  match spec.productionScorer with
  | some scorer => ", scorer=" ++ scorer
  | none => ""

/-- C12, `rubric_check`; `none` panics. -/
def rubricCheck (build : Build) (req : PublishVersionRequest) (gate : Rubric.GateOptions) :
    Option Check :=
  let check (status : CheckStatus) (detail : String) : Check :=
    { id := "C12", title := c12Title, status, detail := .text detail }
  match req.rubric with
  | none => some (check .skip
      "no [rubric] declared; applies to rule-scored environments (e.g. qa) only")
  | some spec =>
    (validate build spec (req.configSchema.bind datasetKeysFromConfigSchema)).map fun report =>
      let errors := errorTexts report
      let outcome := Rubric.gate (some spec) gate
      if ¬errors.isEmpty then
        check .fail ("invalid rubric contract: " ++ "; ".intercalate errors)
      else if !outcome.eligible then
        check .fail ("gold-standard alignment insufficient: " ++ "; ".intercalate outcome.notes ++
          ". Re-run verify_qa_rubric_alignment.py and fix the scorer before packaging.")
      else if spec.alignment.all fun a => a.corpusDigest.isNone || a.reportDigest.isNone then
        check .warn (rubricDetail spec ++
          "; corpus/report digest missing — the alignment claim is not " ++
          "reproducible. Attach evidence with `uenv env rubric import --metrics … " ++
          "--corpus …`.")
      else check .pass (rubricDetail spec)

/-- The faults of the coordinate of the reference scorer. -/
def scorerFaults (scorer : RubricScorerRef) : List String :=
  (if ¬scorer.packageRef.contains '@' then
    ["package_ref '" ++ scorer.packageRef ++ "' is not 'package_id@version'"]
  else []) ++
  (if (trim scorer.artifact).isEmpty then ["artifact name is empty"] else []) ++
  (if ¬isSha256 scorer.digest then
    ["digest '" ++ scorer.digest ++
      "' is not a 'sha256:<hex>' value, so the bytes can never be verified"]
  else [])

/-- What C13 tells of a coordinate without a fault. -/
def scorerDetail (scorer : RubricScorerRef) : String :=
  scorer.packageRef ++ " :: " ++ scorer.artifact ++ " pinned by " ++ scorer.digest ++
  (match scorer.entrypoint with
    | some entrypoint => ", entrypoint=" ++ entrypoint
    | none => "") ++
  if scorer.rubricClasses.isEmpty then ""
  else ", verifiers classes=[" ++ ", ".intercalate scorer.rubricClasses ++ "]"

/-- C13, `rubric_scorer_check`. -/
def rubricScorerCheck (rubric : Option Rubric.RubricSpec) : Check :=
  let check (status : CheckStatus) (detail : String) : Check :=
    { id := "C13", title := c13Title, status, detail := .text detail }
  match rubric with
  | none => check .skip "no [rubric] declared; applies to rule-scored environments (e.g. qa) only"
  | some spec =>
    match spec.referenceScorer with
    | none => check .warn
        ("no [rubric.reference_scorer] declared: the gold standard is named by library " ++
          "only, so a consumer cannot fetch the extraction rules the agreement was " ++
          "measured against. Publish them with `uenv env rubric publish <pkg> --scorer " ++
          "qa_rubric.py` and reference them via `uenv env rubric import --scorer-ref`.")
    | some scorer =>
      if ¬(scorerFaults scorer).isEmpty then
        check .fail ("unusable reference_scorer coordinate: " ++
          "; ".intercalate (scorerFaults scorer))
      else if scorer.entrypoint.isNone then
        check .warn (scorerDetail scorer ++
          "; no entrypoint declared, so the rules can be read but not run")
      else if scorer.requires.isEmpty then
        check .warn (scorerDetail scorer ++
          "; no `requires` declared, so an air-gapped consumer cannot tell " ++
          "which wheels it must have vendored to execute the rules")
      else check .pass (scorerDetail scorer)

/-! ### `run` -/

/-- The checks of a report in order; `none` panics. -/
def runChecks (crates : Crates) (build : Build) (envType : String) (req : PublishVersionRequest)
    (opts : RunOptions) : Option (List Check) := do
  let report ← validateManifest crates build envType req
  let drift ← contractMatches req.interface opts.modelsSrc
  let rubric ← rubricCheck build req opts.rubricGate
  return [structuralValidity report, contractComplete req.interface,
    schemasCompile crates req.interface, drift, examplesConform report req.examples,
    zeroEgress req opts.intranetRegistries, imagePinned req.image,
    configConsistent report req.configSchema, launchable req,
    healthCheckDeclared req.healthCheckPath, offlineCheck opts.offline req.dependencies, rubric,
    rubricScorerCheck req.rubric]

/-- `conformance::run`; `none` panics. -/
def run (crates : Crates) (build : Build) (envType : String) (req : PublishVersionRequest)
    (opts : RunOptions) : Option ConformanceReport :=
  (runChecks crates build envType req opts).map fun checks =>
    let failed := checks.countP fun check => check.status = .fail
    let warned := checks.countP fun check => check.status = .warn
    { envType, version := req.version, gateVersion := gateVersion, checks, passed := failed = 0
      strictPassed := failed = 0 ∧ warned = 0, failed, warned }

end UEnv.Hub.Manifest
