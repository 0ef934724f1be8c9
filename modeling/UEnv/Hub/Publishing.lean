import UEnv.Hub.Stacks
import UEnv.Lib.Retrying

/-!
# Publishing through the client

`publish_version` and `publish_package` of the client: `send_body` posts the request until the Hub
answers with something else than a server error or the retries are used up. The handlers of the Hub
are those of `routes.rs`; an attempt may fail on its way, in the Hub or on its way back.
-/

namespace UEnv.Hub

open Records Retrying

variable {M V : Type} [LinearOrder V]

/-! ### Errors on the wire -/

/-- The `ErrorCode`s of a publish. -/
inductive ErrorCode
  | forbidden
  | notFound
  | versionAlreadyExists
  | envAlreadyExists
  | invalidManifest
  | invalidVersion
  | invalidConstraint
  | schemaValidationFailed
  | conflict
  | internalError
  deriving DecidableEq

structure ApiError where
  status : Nat
  code : ErrorCode
  message : String
  deriving DecidableEq

/-- `From<HubError> for ApiError`. -/
def HubError.toApiError : HubError → ApiError
  | notFound kind id => ⟨404, .notFound, kind ++ " not found: " ++ id⟩
  | alreadyExists kind id =>
    { status := 409
      code := if kind = "version" then .versionAlreadyExists
        else if kind = "env" then .envAlreadyExists
        else .conflict
      message := kind ++ " already exists: " ++ id }
  | invalidVersion v => ⟨422, .invalidVersion, "invalid semantic version: " ++ v⟩
  | invalidConstraint c => ⟨422, .invalidConstraint, "invalid version constraint: " ++ c⟩
  | invalidManifest m => ⟨422, .invalidManifest, m⟩
  | schemaValidation => ⟨422, .schemaValidationFailed, "schema validation failed"⟩
  | forbidden m => ⟨403, .forbidden, m⟩
  | database | internal => ⟨500, .internalError, "internal error"⟩

/-! ### The handlers -/

/-- `PublishPackageRequest`; of its artifacts only the names matter here. -/
structure PublishPackageRequest (M : Type) where
  version : String
  publisher : Option String := none
  description : Option String := none
  uenvWorkerMin : String
  artifacts : List String := []
  fileArtifacts : List String := []
  content : M

/-- The checks of a package that read nothing but the request and the import directory:
`restrict_file_artifacts_to_import_root`, `validate_interface` and `validate_publish_artifacts`. -/
structure PackageRules (M : Type) where
  restrictFileArtifacts : PublishPackageRequest M → Option HubError
  validateInterface : PublishPackageRequest M → Option HubError
  validateArtifacts : PublishPackageRequest M → Option HubError

/-- The tables, and the files below the artifact root: package, version and name. -/
structure Registry (M : Type) where
  hub : HubStore M := {}
  staged : List (String × String × String) := []

/-- What breaks in the Hub. -/
inductive PublishFault
  -- a file after the first few cannot be written, or the transaction fails
  | beforeCommit (files : Nat)
  -- the published row cannot be read back
  | afterCommit
  deriving DecidableEq

/-- The files of `stage_artifacts` and `stage_file_artifacts`, created with `create_new`; `room` is
how many can be written, if there is a limit. -/
def stageFiles (package version : String) (room : Option Nat) :
    List String → List (String × String × String) →
      List (String × String × String) × Except HubError Unit
  | [], staged => (staged, .ok ())
  | name :: rest, staged =>
    if (package, version, name) ∈ staged then (staged, .error .internal)
    else if room = some 0 then (staged ++ [(package, version, name)], .error .internal)
    else stageFiles package version (room.map (· - 1)) rest (staged ++ [(package, version, name)])

/-- A check that may refuse. -/
def refuse : Option HubError → Except HubError Unit
  | some e => .error e
  | none => .ok ()

/-- The checks of `publish_inline_package` before its first file. -/
def PublishPackageRequest.check (semver : Semver V) (rules : PackageRules M) (id : String)
    (req : PublishPackageRequest M) (hub : HubStore M) : Except HubError Unit := do
  refuse (rules.restrictFileArtifacts req)
  refuse (if acceptedPackageId id then none
    else some (.invalidManifest ("invalid package_id '" ++ id ++ "'")))
  normalize semver req.version
  refuse (if (Service.trim req.uenvWorkerMin).isEmpty then
      some (.invalidManifest "platform.uenv_worker_min is required")
    else none)
  refuse (match hub.getPackageManifest id req.version with
    | .ok _ => some (.alreadyExists "package version" (id ++ "@" ++ req.version))
    | .error (.notFound _ _) => none
    | .error e => some e)
  refuse (rules.validateInterface req)
  refuse (rules.validateArtifacts req)

/-- `PublishVersionResponse` and `PublishPackageResponse`. -/
structure Published where
  name : String
  version : String
  publishedAt : Nat
  deriving DecidableEq

/-- The Hub and the principal of the client's token. -/
structure HubServer (M V : Type) where
  semver : Semver V
  rules : Rules M
  packageRules : PackageRules M
  principal : TokenInfo

/-- `ensure_role` of a publisher. -/
def ensurePublisher (principal : TokenInfo) : Except HubError Unit :=
  if principal.role = .reader then .error (.forbidden "requires role 'Publisher' or higher")
  else .ok ()

/-- What is published. -/
inductive Publish (M : Type)
  | version (envType : String) (nv : NewVersion M) (rubric : Option RubricSpec)
  | package (id : String) (req : PublishPackageRequest M)

variable (server : HubServer M V)

/-- `POST /envs/{env_type}/versions`: the tables after the commit, or why there is none. -/
def HubServer.commitVersion (envType : String) (nv : NewVersion M) (rubric : Option RubricSpec)
    (ts : Nat) (fails : Bool) (hub : HubStore M) : Except HubError (HubStore M) := do
  ensurePublisher server.principal
  Submission.serve server.semver server.rules hub
    { principal := server.principal, request := .publishVersion envType nv rubric, ts, fails }

/-- The row that `publish_package` stores. -/
def HubServer.packageVersion (req : PublishPackageRequest M) : NewVersion M where
  version := req.version
  content := req.content
  publishedBy := if server.principal.id ≠ 0 then some server.principal.id else none

/-- The transaction of `publish_package` of the store. -/
def HubServer.insertPackage (id : String) (req : PublishPackageRequest M) (ts : Nat)
    (hub : HubStore M) : Except HubError (HubStore M) := do
  let write ← Request.check server.semver hub
    (.publishPackage id req.publisher req.description (server.packageVersion req))
  write.run server.semver ts hub

/-- `POST /packages/{package_id}/versions` up to the commit; files that are staged stay. -/
def HubServer.commitPackage (id : String) (req : PublishPackageRequest M) (ts : Nat)
    (room : Option Nat) (r : Registry M) : Registry M × Except HubError (HubStore M) :=
  match ensurePublisher server.principal >>= fun _ =>
      req.check server.semver server.packageRules id r.hub with
  | .error e => (r, .error e)
  | .ok _ =>
    let (staged, written) :=
      stageFiles id req.version room (req.artifacts ++ req.fileArtifacts) r.staged
    ({ r with staged }, match written with
      | .error e => .error e
      | .ok _ => if room.isSome then .error .database else server.insertPackage id req ts r.hub)

/-- The published row as the answer shows it. -/
def Publish.readBack (hub : HubStore M) : Publish M → Except HubError Published
  | version envType nv _ => (hub.getManifest envType nv.version).map fun m =>
      ⟨m.envType, m.version.version, m.version.publishedAt⟩
  | package id req => (hub.getPackageManifest id req.version).map fun row =>
      ⟨id, row.version, row.publishedAt⟩

/-- `publish_version` and `publish_package` of the Hub up to the commit. -/
def HubServer.commit (p : Publish M) (ts : Nat) (fault : Option PublishFault) (r : Registry M) :
    Registry M × Except HubError (HubStore M) :=
  let room := match fault with
    | some (.beforeCommit files) => some files
    | _ => none
  match p with
  | .version envType nv rubric => (r, server.commitVersion envType nv rubric ts room.isSome r.hub)
  | .package id req => server.commitPackage id req ts room r

/-- The registry after a request, and its answer. -/
def HubServer.handle (p : Publish M) (ts : Nat) (fault : Option PublishFault) (r : Registry M) :
    Registry M × Except HubError Published :=
  match server.commit p ts fault r with
  | (r, .error e) => (r, .error e)
  | (r, .ok hub) =>
    ({ r with hub }, if fault = some .afterCommit then .error .database else p.readBack hub)

/-! ### The client -/

inductive ClientError
  | transport
  | api (error : ApiError)
  | unexpectedStatus (status : Nat)
  deriving DecidableEq

/-- An answer, of the Hub or of something between. -/
inductive HttpReply
  | created (published : Published)
  | refused (error : ApiError)
  | gateway (status : Nat)

def HttpReply.status : HttpReply → Nat
  | created _ => 201
  | refused e => e.status
  | gateway status => status

/-- Another attempt follows after a transport error and after a server error. -/
def triesAgain : Option HttpReply → Bool
  | none => true
  | some reply => 500 ≤ reply.status && reply.status < 600

/-- The result of `send_body` if no attempt follows. -/
def conclude : Option HttpReply → Except ClientError Published
  | none => .error .transport
  | some (.created published) => .ok published
  | some (.refused e) => .error (.api e)
  | some (.gateway status) => .error (.unexpectedStatus status)

def maxRetries : Nat := 3

def sendBody {S : Type} (exchange : Exchange S (Option HttpReply)) (s : S) :
    S × Except ClientError Published :=
  let (s, reply) := retry exchange triesAgain maxRetries 0 s
  (s, conclude reply)

/-! ### Attempts -/

/-- What becomes of an attempt. -/
inductive Delivery
  | requestLost
  | responseLost
  -- something between answers 5xx in place of the Hub, which got the request or not
  | badGateway (code : Fin 100) (reached : Bool)
  | fails (fault : PublishFault)
  | delivered
  deriving DecidableEq

/-- An answer comes back. -/
def Delivery.answers : Delivery → Bool
  | requestLost | responseLost => false
  | badGateway _ _ | fails _ | delivered => true

/-- The version is in the registry. -/
def Publish.stored (r : Registry M) : Publish M → Bool
  | version envType nv _ => ((r.hub.findEnvRowAny envType).bind fun env =>
      lookup VersionRow.version nv.version env.versions).isSome
  | package id req => ((lookup Series.id id r.hub.packages).bind fun series =>
      lookup VersionRow.version req.version series.versions).isSome

/-- An attempt of a publish: what others do before it, who publish another version, its second and
what becomes of it. -/
structure Attempt (p : Publish M) where
  others : Registry M → Registry M
  keeps : ∀ r, p.stored (others r) = p.stored r
  ts : Nat
  delivery : Delivery

/-- The answer of the Hub as the client reads it. -/
def replyOf : Except HubError Published → HttpReply
  | .ok published => .created published
  | .error e => .refused e.toApiError

variable {server}

/-- One `send` of the client. -/
def Attempt.send {p : Publish M} (server : HubServer M V) (a : Attempt p) (r : Registry M) :
    Registry M × Option HttpReply :=
  let r := a.others r
  match a.delivery with
  | .requestLost => (r, none)
  | .responseLost => ((server.handle p a.ts none r).1, none)
  | .badGateway code reached =>
    (if reached then (server.handle p a.ts none r).1 else r, some (.gateway (500 + code)))
  | .fails fault =>
    let (r, answer) := server.handle p a.ts (some fault) r
    (r, some (replyOf answer))
  | .delivered =>
    let (r, answer) := server.handle p a.ts none r
    (r, some (replyOf answer))

/-- The attempts of a call, as far as they are made. -/
def publishExchange (server : HubServer M V) {p : Publish M} (attempts : Nat → Attempt p) :
    Exchange (Registry M) (Option HttpReply) :=
  fun k r => (attempts k).send server r

/-- `publish_version` and `publish_package` of the client. -/
def publish (server : HubServer M V) {p : Publish M} (attempts : Nat → Attempt p)
    (r : Registry M) : Registry M × Except ClientError Published :=
  sendBody (publishExchange server attempts) r

end UEnv.Hub
