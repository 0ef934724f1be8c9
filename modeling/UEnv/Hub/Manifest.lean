import UEnv.Hub.PythonModels
import UEnv.Hub.Rubric
import UEnv.Worker.RolloutMeta

/-!
# Validation of a manifest

`manifest.rs` with the validators it calls: `schema_validator.rs`, `interface.rs` and `rubric.rs`.
The crates for JSON Schema and for versions are parameters. Every validator names the place of its
issues, and no two of them the same.
-/

namespace UEnv.Hub.Manifest

open Obs Rubric
open Service (trim)

/-! ### Requests -/

structure ImageSpec where
  url : String
  digest : Option String
  baseImageRef : Option String

structure Example where
  request : Json

structure Dependencies where
  requirementsPath : Option String
  requires : List String

structure PublishVersionRequest where
  version : String
  image : Option ImageSpec := none
  baseImage : Option String := none
  healthCheckPath : Option String := none
  entrypoint : Option String := none
  configSchema : Option Json := none
  defaultConfig : Option Json := none
  interface : InterfaceSchema := {}
  examples : List Example := []
  dependencies : Option Dependencies := none
  rubric : Option Rubric.RubricSpec := none

/-- The crates that the validation calls: whether a text is a version, the error of a schema that
does not compile, and the violations of an instance, each with its path in the instance. -/
structure Crates where
  isVersion : String → Bool
  compile : Json → Option String
  violations : Json → Json → List (String × String)

/-! ### Text -/

/-- `str::starts_with`. -/
def startsWith (start text : String) : Bool := start.toList.isPrefixOf text.toList

def toAsciiLowercase (text : String) : String := String.ofList (text.toList.map Char.toLower)

/-- The text before its first `/`. -/
def host (text : String) : String := String.ofList (text.toList.takeWhile (· ≠ '/'))

/-! ### Registries -/

/-- `PUBLIC_REGISTRIES`. -/
def publicRegistries : List String :=
  ["docker.io", "registry-1.docker.io", "index.docker.io", "ghcr.io", "quay.io", "gcr.io",
    "k8s.gcr.io", "registry.k8s.io", "public.ecr.aws", "mcr.microsoft.com", "nvcr.io",
    "docker.elastic.co", "dockerproxy.net", "docker.m.daocloud.io", "dockerproxy.com",
    "registry.docker-cn.com", "docker.mirrors.ustc.edu.cn", "hub-mirror.c.163.com",
    "mirror.ccs.tencentyun.com", "docker.nju.edu.cn", "dockerhub.azk8s.cn", "docker.1panel.live"]

/-- `public_registry_of` (manifest.rs, 71-77). -/
def publicRegistryOf (imageRef : String) : Option String :=
  publicRegistries.find? fun registry =>
    toAsciiLowercase (host (trim imageRef)) = toAsciiLowercase registry

/-- `resolves_to_docker_hub` (manifest.rs, 89-103). -/
def resolvesToDockerHub (imageRef : String) : Bool :=
  let r := trim imageRef
  if r.isEmpty then false
  else if '/' ∉ r.toList then true
  else
    let first := host r
    !(first.toList.contains '.' || first.toList.contains ':' ||
      toAsciiLowercase first == "localhost")

/-! ### Schemas -/

section Validators

variable (crates : Crates)

/-- `check_is_schema` (schema_validator.rs, 14-18). -/
def checkIsSchema (schema : Json) (location : String) : List ValidationIssue :=
  match crates.compile schema with
  | some error => pushError location ("not a valid JSON Schema: " ++ error)
  | none => []

/-- `validate_instance` (schema_validator.rs, 21-45). -/
def validateInstance (schema value : Json) (location : String) : List ValidationIssue :=
  match crates.compile schema with
  | some error => pushError location ("schema does not compile: " ++ error)
  | none => (crates.violations schema value).flatMap fun (path, error) =>
      pushError (if path.isEmpty then location else location ++ path) error

/-- A schema of the interface, if it is declared. -/
def checkDeclared (schema : Option Json) (location : String) : List ValidationIssue :=
  match schema with
  | some schema => checkIsSchema crates schema location
  | none => []

/-- `validate_interface` (interface.rs, 14-24). -/
def validateInterface (interface : InterfaceSchema) : List ValidationIssue :=
  checkDeclared crates interface.action "interface.action" ++
  checkDeclared crates interface.observation "interface.observation" ++
  checkDeclared crates interface.state "interface.state"

/-- `validate_example_actions` (interface.rs, 28-48). -/
def validateExampleActions (interface : InterfaceSchema) (exampleRequest : Json)
    (location : String) : List ValidationIssue :=
  match interface.action, (exampleRequest.get "actions").bind Json.asArray with
  | some schema, some actions => actions.zipIdx.flatMap fun (action, i) =>
      validateInstance crates schema action (location ++ ".actions[" ++ toString i ++ "]")
  | _, _ => []

/-! ### `validate_manifest` -/

/-- `validate_env_type` (manifest.rs, 14-31). -/
def validateEnvType (envType : String) : List ValidationIssue :=
  if envType.isEmpty then pushError "env_type" "must not be empty"
  else
    (if 128 < envType.utf8ByteSize then
      pushError "env_type" "must be at most 128 characters"
    else []) ++
    (if ¬envType.toList.all fun c => c.isLower || c.isDigit || c == '-' || c == '_' || c == '.' then
      pushError "env_type" "may only contain lowercase letters, digits, '-', '_', '.'"
    else [])

/-- A digest that is pinned: `sha256:` and eight bytes at least. -/
def isPinned (digest : String) : Bool :=
  startsWith "sha256:" digest && "sha256:".utf8ByteSize + 8 ≤ digest.utf8ByteSize

/-- The image of a request. -/
def validateImage (image : Option ImageSpec) : List ValidationIssue :=
  match image with
  | none => []
  | some image =>
    (if (trim image.url).isEmpty then pushError "image.url" "must not be empty" else []) ++
    (if image.digest.any fun digest => !isPinned digest then
      pushWarning "image.digest" "expected a 'sha256:<hex>' digest for tamper protection"
    else []) ++
    match publicRegistryOf image.url with
    | some registry => pushWarning "image.url"
        ("references public registry '" ++ registry ++
          "'; for 内网零外拉 host the image on the Hub " ++
          "(`uenv env publish-image`) or an internal registry and reference that instead")
    | none => []

/-- A base image, which is staged while the image is built. -/
def validateBaseImage (location : String) (base : Option String) : List ValidationIssue :=
  match base.bind publicRegistryOf with
  | some registry => pushWarning location
      ("base image references public registry '" ++ registry ++
        "'; mirror it internally (air-gap " ++
        "offline build) so the image build never pulls from the internet")
  | none => []

/-- The guidance on a side of the contract that is not declared. -/
def adviseSide (side : String) (schema : Option Json) : List ValidationIssue :=
  if schema.isNone then
    pushWarning ("interface." ++ side)
      ("standardized environments should declare an OpenEnv `" ++ side ++ "` JSON Schema")
  else []

/-- `config_schema` and `default_config`. -/
def validateConfig (req : PublishVersionRequest) : List ValidationIssue :=
  match req.configSchema with
  | none => []
  | some schema =>
    checkIsSchema crates schema "config_schema" ++
    match req.defaultConfig with
    | some value => validateInstance crates schema value "default_config"
    | none => []

/-- The examples of a request. -/
def validateExamples (req : PublishVersionRequest) : List ValidationIssue :=
  req.examples.zipIdx.flatMap fun (entry, i) =>
    validateExampleActions crates req.interface entry.request ("examples[" ++ toString i ++ "]")

/-- `dataset_keys_from_config_schema` (rubric.rs, 377-392). -/
def datasetKeysFromConfigSchema (schema : Json) : Option (List String) :=
  match (((schema.get "properties").bind (Json.get "dataset")).bind (Json.get "enum")).bind
      Json.asArray with
  | some values =>
    let keys := values.filterMap Json.asStr
    if keys.isEmpty then none else some keys
  | none => none

/-- The rubric of a request against the datasets of its `config_schema`; `none` panics. -/
def validateRubric (build : Build) (req : PublishVersionRequest) :
    Option (List ValidationIssue) :=
  match req.rubric with
  | some spec => validate build spec (req.configSchema.bind datasetKeysFromConfigSchema)
  | none => some []

/-- The dependencies of a request. -/
def validateDependencies (dependencies : Option Dependencies) : List ValidationIssue :=
  match dependencies with
  | some deps => deps.requires.zipIdx.flatMap fun (dep, i) =>
      if ¬dep.contains '@' then
        pushError ("dependencies.requires[" ++ toString i ++ "]")
          "must be of the form 'env_type@version'"
      else []
  | none => []

/-- `validate_publish`: the issues that it adds to the report; `none` panics. -/
def validatePublish (build : Build) (req : PublishVersionRequest) :
    Option (List ValidationIssue) :=
  (validateRubric build req).map fun rubric =>
    (if ¬crates.isVersion req.version then
      pushError "version" "not a valid semantic version"
    else []) ++
    validateImage req.image ++
    validateBaseImage "version.base_image" req.baseImage ++
    validateBaseImage "image.base_image_ref" (req.image.bind ImageSpec.baseImageRef) ++
    adviseSide "action" req.interface.action ++
    adviseSide "observation" req.interface.observation ++
    adviseSide "state" req.interface.state ++
    (if isBlank req.entrypoint ∧ req.image.isNone then
      pushWarning "entrypoint"
        ("declare a version.entrypoint or an [image] so the worker knows how to launch " ++
          "the environment")
    else []) ++
    (if req.healthCheckPath.any fun path => !startsWith "/" path then
      pushWarning "health_check_path" "should start with '/'"
    else []) ++
    validateConfig crates req ++
    validateInterface crates req.interface ++
    validateExamples crates req ++
    rubric ++
    validateDependencies req.dependencies

/-- `validate_manifest`; `none` panics. -/
def validateManifest (build : Build) (envType : String) (req : PublishVersionRequest) :
    Option (List ValidationIssue) :=
  (validatePublish crates build req).map fun publish => validateEnvType envType ++ publish

end Validators

end UEnv.Hub.Manifest
