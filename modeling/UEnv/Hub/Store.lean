import UEnv.Lib.Fallible
import UEnv.Lib.Records
import UEnv.Lib.Rounding
import UEnv.Lib.Runs

/-!
# The tables of the Hub

`SqliteStore` over its environments, packages and stacks. A call first reads on its own and may
refuse, then takes its timestamp, then writes in one transaction, so a write works on the tables as
they are when it commits. A row of `envs` is never removed and its `env_type` never changes, hence a
row is known by its `env_type` and holds its tags and versions.
-/

namespace UEnv.Hub

open Records Runs

/-! ### Versions -/

/-- What the `semver` crate does with a version string. -/
structure Semver (V : Type) where
  parse : String → Option V
  render : V → String
  -- `pre.is_empty()`
  isRelease : V → Bool

/-- `parse` accepts one spelling of a version only, the one that `to_string` gives. -/
def Semver.RoundTrips {V : Type} (semver : Semver V) : Prop :=
  ∀ raw v, semver.parse raw = some v → semver.render v = raw

section Latest

variable {V : Type} [LinearOrder V]

/-- The update of `stable` and of `any` in `latest`. -/
def keepHighest (best : Option V) (v : V) : Option V :=
  match best with
  | none => some v
  | some highest => if highest < v then some v else some highest

/-- One turn of the loop over the candidates; the state is `(stable, any)`. -/
def latestStep (semver : Semver V) (best : Option V × Option V) (raw : String) :
    Option V × Option V :=
  match semver.parse raw with
  | none => best
  | some v => (if semver.isRelease v then keepHighest best.1 v else best.1, keepHighest best.2 v)

/-- `ver::latest`. -/
def latest (semver : Semver V) (candidates : List String) : Option String :=
  let best := candidates.foldl (latestStep semver) (none, none)
  (best.1.or best.2).map semver.render

end Latest

/-! ### The promotion gate -/

/-- The metrics of a rubric's alignment. -/
structure AlignmentMetrics where
  overCreditCount : Int
  agreementRate : F64

/-- `rubric.alignment.metrics`. -/
structure RubricSpec where
  metrics : Option AlignmentMetrics

/-- `rubric::GateOptions`. -/
structure GateOptions where
  minAgreementRate : F64 := ⟨0x3FEE666666666666⟩
  maxOverCredit : Int := 0
  enforce : Bool := true

/-- `rubric::gate`, without the notes. -/
def gate (rubric : Option RubricSpec) (opts : GateOptions) : Bool :=
  match rubric with
  | none => true
  | some rubric =>
    let blocked := match rubric.metrics with
      | none => true
      | some m => opts.maxOverCredit < m.overCreditCount ||
          m.agreementRate.lt opts.minAgreementRate
    if blocked && !opts.enforce then true else !blocked

/-! ### Rows -/

/-- `EnvLifecycle`. -/
inductive Lifecycle
  | active
  | canonical
  | deprecated
  deriving DecidableEq

structure NewEnv where
  envType : String
  envNamespace : String
  description : Option String := none
  author : Option String := none
  homepage : Option String := none
  repository : Option String := none
  license : Option String := none
  tags : List String := []
  lifecycle : Lifecycle := .active
  supersededBy : Option String := none
  compatAliases : List String := []
  deriving DecidableEq

structure EnvPatch where
  description : Option String := none
  author : Option String := none
  homepage : Option String := none
  repository : Option String := none
  license : Option String := none
  tags : Option (List String) := none
  lifecycle : Option Lifecycle := none
  supersededBy : Option String := none
  compatAliases : Option (List String) := none
  deriving DecidableEq

/-- What a publish brings; `content` stands for all that is stored and not read again here. -/
structure NewVersion (M : Type) where
  version : String
  content : M
  publishedBy : Option Int := none

/-- A row of one of the three tables of versions; only `env_versions` has `latest_eligible`. -/
structure VersionRow (M : Type) where
  version : String
  content : M
  publishedBy : Option Int := none
  publishedAt : Nat
  isYanked : Bool := false
  yankReason : Option String := none
  latestEligible : Bool := true
  deriving DecidableEq

/-- A row of `envs` with its rows of `env_tags` and `env_versions`. -/
structure Env (M : Type) where
  envType : String
  envNamespace : String
  description : Option String
  author : Option String
  homepage : Option String
  repository : Option String
  license : Option String
  latestVersion : Option String
  createdAt : Nat
  updatedAt : Nat
  isDeleted : Bool
  lifecycle : Lifecycle
  supersededBy : Option String
  -- the JSON text of a non-empty list
  compatAliases : Option (List String)
  tags : List String
  versions : List (VersionRow M)
  deriving DecidableEq

/-- A row of `env_packages` or `episode_stacks` with its versions; a stack has no publisher. -/
structure Series (M : Type) where
  id : String
  publisher : Option String
  description : Option String
  latestVersion : Option String
  createdAt : Nat
  updatedAt : Nat
  versions : List (VersionRow M)

/-- The tables. -/
structure HubStore (M : Type) where
  envs : List (Env M) := []
  packages : List (Series M) := []
  episodeStacks : List (Series M) := []

inductive HubError
  | notFound (kind id : String)
  | alreadyExists (kind id : String)
  | invalidVersion (version : String)
  | invalidConstraint (constraint : String)
  | invalidManifest (message : String)
  | internal
  | schemaValidation
  | forbidden (message : String)
  | database
  deriving DecidableEq

structure DeprecationNotice where
  supersededBy : Option String
  message : String
  deriving DecidableEq

structure FullManifest (M : Type) where
  envType : String
  version : VersionRow M
  deprecation : Option DeprecationNotice
  deriving DecidableEq

variable {M V : Type} [LinearOrder V]

/-! ### Reads -/

def Env.deprecationNotice (env : Env M) : Option DeprecationNotice :=
  if env.lifecycle = .deprecated then
    some
      { supersededBy := env.supersededBy
        message := match env.supersededBy with
          | some next => "env_type `" ++ env.envType ++ "` is deprecated; use `" ++ next ++
              "` for new workloads"
          | none => "env_type `" ++ env.envType ++ "` is deprecated" }
  else none

/-- `assemble_manifest` (repository.rs, 379-403). -/
def Env.assembleManifest (env : Env M) (v : VersionRow M) : FullManifest M where
  envType := env.envType
  version := v
  deprecation := env.deprecationNotice

/-- `find_env_row_any` (repository.rs, 72-78). -/
def HubStore.findEnvRowAny (hub : HubStore M) (envType : String) : Option (Env M) :=
  lookup Env.envType envType hub.envs

/-- `find_env_row` (repository.rs, 54-62). -/
def HubStore.findEnvRow (hub : HubStore M) (envType : String) : Option (Env M) :=
  (hub.findEnvRowAny envType).filter fun env => !env.isDeleted

/-- `require_env_row` (repository.rs, 64-68). -/
def HubStore.requireEnvRow (hub : HubStore M) (envType : String) : Except HubError (Env M) :=
  match hub.findEnvRow envType with
  | some env => .ok env
  | none => .error (.notFound "env" envType)

/-- The rows that `is_yanked = 0 AND latest_eligible = 1` selects. -/
def VersionRow.eligible (v : VersionRow M) : Bool :=
  !v.isYanked && v.latestEligible

/-- `latest_eligible_versions`, and the same statement in the transactions. -/
def Env.latestEligibleVersions (env : Env M) : List String :=
  (env.versions.filter VersionRow.eligible).map VersionRow.version

/-- The rows of a package or of a stack that `is_yanked = 0` selects. -/
def Series.versionStrings (series : Series M) : List String :=
  (series.versions.filter fun v => !v.isYanked).map VersionRow.version

/-- `get_manifest` (repository.rs, 406-418). -/
def HubStore.getManifest (hub : HubStore M) (envType version : String) :
    Except HubError (FullManifest M) := do
  let env ← hub.requireEnvRow envType
  match lookup VersionRow.version version env.versions with
  | some v => .ok (env.assembleManifest v)
  | none => .error (.notFound "version" (envType ++ "@" ++ version))

/-- `latest_manifest` (repository.rs, 421-427). -/
def HubStore.latestManifest (semver : Semver V) (hub : HubStore M) (envType : String) :
    Except HubError (FullManifest M) := do
  let env ← hub.requireEnvRow envType
  match latest semver env.latestEligibleVersions with
  | some version => hub.getManifest envType version
  | none => .error (.notFound "version" (envType ++ "@latest"))

/-- `changed_since`; the order of the answer is left open. -/
def HubStore.changedSince (hub : HubStore M) (ts : Nat) : List (FullManifest M) :=
  hub.envs.flatMap fun env =>
    (env.versions.filter fun v =>
      !env.isDeleted && (ts < v.publishedAt || ts < env.updatedAt)).map env.assembleManifest

/-- `require_package_row` and `require_stack_row`. -/
def requireSeries (kind id : String) (table : List (Series M)) : Except HubError (Series M) :=
  match lookup Series.id id table with
  | some series => .ok series
  | none => .error (.notFound kind id)

/-- `get_package_manifest` and `get_stack_manifest`, up to the decoding of the row. -/
def getSeriesManifest (kind kindOfVersion id version : String) (table : List (Series M)) :
    Except HubError (VersionRow M) := do
  let series ← requireSeries kind id table
  let version ← if version = "latest" then
      match series.latestVersion with
      | some version => .ok version
      | none => .error (.notFound kindOfVersion (id ++ "@latest"))
    else .ok version
  match lookup VersionRow.version version series.versions with
  | some v => .ok v
  | none => .error (.notFound kindOfVersion (id ++ "@" ++ version))

def HubStore.getPackageManifest (hub : HubStore M) (id version : String) :
    Except HubError (VersionRow M) :=
  getSeriesManifest "package" "package version" id version hub.packages

/-- `get_stack_manifest` (repository.rs, 1410-1434). -/
def HubStore.getStackManifest (hub : HubStore M) (id version : String) :
    Except HubError (VersionRow M) :=
  getSeriesManifest "episode stack" "episode stack version" id version hub.episodeStacks

/-! ### Transactions -/

/-- `alias_json` (repository.rs, 20-25). -/
def aliasJson (aliases : List String) : Option (List String) :=
  if aliases.isEmpty then none else some aliases

/-- `INSERT OR IGNORE INTO env_tags` for each tag of an environment without tags. -/
def insertTags (tags : List String) : List String :=
  tags.foldl (fun rows tag => if tag ∈ rows then rows else rows ++ [tag]) []

/-- The row that `create_env` inserts. -/
def NewEnv.insert (newEnv : NewEnv) (ts : Nat) : Env M where
  envType := newEnv.envType
  envNamespace := newEnv.envNamespace
  description := newEnv.description
  author := newEnv.author
  homepage := newEnv.homepage
  repository := newEnv.repository
  license := newEnv.license
  latestVersion := none
  createdAt := ts
  updatedAt := ts
  isDeleted := false
  lifecycle := newEnv.lifecycle
  supersededBy := newEnv.supersededBy
  compatAliases := aliasJson newEnv.compatAliases
  tags := insertTags newEnv.tags
  versions := []

/-- `resurrect_env`. -/
def NewEnv.resurrect (newEnv : NewEnv) (ts : Nat) (env : Env M) : Env M :=
  { env with
    isDeleted := false
    envNamespace := newEnv.envNamespace
    description := newEnv.description
    author := newEnv.author
    homepage := newEnv.homepage
    repository := newEnv.repository
    license := newEnv.license
    updatedAt := ts
    lifecycle := newEnv.lifecycle
    supersededBy := newEnv.supersededBy
    compatAliases := aliasJson newEnv.compatAliases
    tags := insertTags newEnv.tags }

/-- The statements of `update_env`. -/
def EnvPatch.apply (patch : EnvPatch) (ts : Nat) (env : Env M) : Env M :=
  { env with
    updatedAt := ts
    description := patch.description.or env.description
    author := patch.author.or env.author
    homepage := patch.homepage.or env.homepage
    repository := patch.repository.or env.repository
    license := patch.license.or env.license
    lifecycle := patch.lifecycle.getD env.lifecycle
    supersededBy := patch.supersededBy.or env.supersededBy
    compatAliases := match patch.compatAliases with
      | some list => aliasJson list
      | none => env.compatAliases
    tags := match patch.tags with
      | some tags => insertTags tags
      | none => env.tags }

/-- The statement of `soft_delete_env`. -/
def Env.softDelete (ts : Nat) (env : Env M) : Env M :=
  { env with isDeleted := true, updatedAt := ts }

/-- The last statements of `publish_version_gated` and `yank_version`: `versions` are the rows
after the first ones. -/
def Env.setLatest (semver : Semver V) (ts : Nat) (versions : List (VersionRow M))
    (env : Env M) : Env M :=
  { env with
    versions
    latestVersion := latest semver (Env.latestEligibleVersions { env with versions })
    updatedAt := ts }

/-- The same for a package and for a stack, with the texts of a publish. -/
def Series.setLatest (semver : Semver V) (ts : Nat) (publisher description : Option String)
    (versions : List (VersionRow M)) (series : Series M) : Series M :=
  { series with
    versions
    latestVersion := latest semver (Series.versionStrings { series with versions })
    updatedAt := ts
    publisher := publisher.or series.publisher
    description := description.or series.description }

/-- The row that a publish inserts. -/
def NewVersion.row (nv : NewVersion M) (ts : Nat) (latestEligible : Bool) : VersionRow M where
  version := nv.version
  content := nv.content
  publishedBy := nv.publishedBy
  publishedAt := ts
  latestEligible := latestEligible

/-- `UPDATE … SET is_yanked = 1, yank_reason = ? WHERE … AND version = ?`. -/
def yankRow (version reason : String) (versions : List (VersionRow M)) : List (VersionRow M) :=
  update VersionRow.version version
    (fun v => { v with isYanked := true, yankReason := some reason }) versions

/-- A write whose checks have passed. -/
inductive Write (M : Type)
  | insertEnv (newEnv : NewEnv)
  | resurrectEnv (newEnv : NewEnv)
  | updateEnv (envType : String) (patch : EnvPatch)
  | softDeleteEnv (envType : String)
  | publishVersion (envType : String) (nv : NewVersion M) (latestEligible : Bool)
  | yankVersion (envType version reason : String)
  | publishPackage (id : String) (publisher description : Option String) (nv : NewVersion M)
  | publishStack (id : String) (description : Option String) (nv : NewVersion M)
  | yankStack (id version reason : String)

/-- `UPDATE envs … WHERE id = ?`. -/
def HubStore.updateRow (hub : HubStore M) (envType : String) (f : Env M → Env M) : HubStore M :=
  { hub with envs := update Env.envType envType f hub.envs }

/-- The transaction of `publish_version_gated`; `UNIQUE(env_id, version)` may refuse it. -/
def HubStore.insertVersion (semver : Semver V) (hub : HubStore M) (envType : String)
    (v : VersionRow M) (ts : Nat) : Except HubError (HubStore M) :=
  match hub.findEnvRowAny envType with
  | none => .error .database
  | some env =>
    match lookup VersionRow.version v.version env.versions with
    | some _ => .error .database
    | none => .ok (hub.updateRow envType fun env => env.setLatest semver ts (env.versions ++ [v]))

/-- The transaction of `yank_version`. -/
def HubStore.yankVersion (semver : Semver V) (hub : HubStore M) (envType version reason : String)
    (ts : Nat) : Except HubError (HubStore M) :=
  match (hub.findEnvRowAny envType).bind fun env =>
      lookup VersionRow.version version env.versions with
  | none => .error (.notFound "version" (envType ++ "@" ++ version))
  | some _ => .ok (hub.updateRow envType fun env =>
      env.setLatest semver ts (yankRow version reason env.versions))

/-- The transaction of `publish_package` and of `publish_stack`. -/
def publishSeries (semver : Semver V) (kind id : String) (publisher description : Option String)
    (nv : NewVersion M) (ts : Nat) (table : List (Series M)) : Except HubError (List (Series M)) :=
  match lookup Series.id id table with
  | some series =>
    match lookup VersionRow.version nv.version series.versions with
    | some _ => .error (.alreadyExists kind (id ++ "@" ++ nv.version))
    | none =>
      .ok (update Series.id id (fun series => series.setLatest semver ts publisher description
        (series.versions ++ [nv.row ts true])) table)
  | none =>
    let series : Series M :=
      { id, publisher, description, latestVersion := none, createdAt := ts, updatedAt := ts
        versions := [] }
    .ok (table ++ [series.setLatest semver ts publisher description [nv.row ts true]])

/-- The transaction of `yank_stack`. -/
def yankSeries (semver : Semver V) (kind id version reason : String) (ts : Nat)
    (table : List (Series M)) : Except HubError (List (Series M)) :=
  match (lookup Series.id id table).bind fun series =>
      lookup VersionRow.version version series.versions with
  | none => .error (.notFound kind (id ++ "@" ++ version))
  | some _ => .ok (update Series.id id (fun series =>
      series.setLatest semver ts none none (yankRow version reason series.versions)) table)

/-- The transaction of a write with the timestamp `ts`; an error rolls it back. -/
def Write.run (semver : Semver V) (ts : Nat) (hub : HubStore M) :
    Write M → Except HubError (HubStore M)
  | insertEnv newEnv =>
    -- `env_type TEXT NOT NULL UNIQUE`
    match hub.findEnvRowAny newEnv.envType with
    | some _ => .error .database
    | none => .ok { hub with envs := hub.envs ++ [newEnv.insert ts] }
  | resurrectEnv newEnv => .ok (hub.updateRow newEnv.envType (newEnv.resurrect ts))
  | updateEnv envType patch => .ok (hub.updateRow envType (patch.apply ts))
  | softDeleteEnv envType => .ok (hub.updateRow envType (Env.softDelete ts))
  | publishVersion envType nv latestEligible =>
    hub.insertVersion semver envType (nv.row ts latestEligible) ts
  | yankVersion envType version reason => hub.yankVersion semver envType version reason ts
  | publishPackage id publisher description nv => do
    let packages ←
      publishSeries semver "package version" id publisher description nv ts hub.packages
    .ok { hub with packages }
  | publishStack id description nv => do
    let episodeStacks ← publishSeries semver "episode stack version" id none description nv ts
      hub.episodeStacks
    .ok { hub with episodeStacks }
  | yankStack id version reason => do
    let episodeStacks ← yankSeries semver "episode stack version" id version reason ts
      hub.episodeStacks
    .ok { hub with episodeStacks }

/-! ### Calls -/

/-- A call of the store. -/
inductive Request (M : Type)
  | createEnv (newEnv : NewEnv)
  | updateEnv (envType : String) (patch : EnvPatch)
  | softDeleteEnv (envType : String)
  | publishVersionGated (envType : String) (nv : NewVersion M) (rubric : Option RubricSpec)
      (opts : GateOptions)
  | yankVersion (envType version reason : String)
  | publishPackage (id : String) (publisher description : Option String) (nv : NewVersion M)
  | publishStack (id : String) (description : Option String) (nv : NewVersion M)
  | yankStack (id version reason : String)

/-- `ver::normalize`, as far as it refuses. -/
def normalize (semver : Semver V) (version : String) : Except HubError Unit :=
  match semver.parse version with
  | some _ => .ok ()
  | none => .error (.invalidVersion version)

/-- What a call reads before its transaction, and the write it goes on with. -/
def Request.check (semver : Semver V) (hub : HubStore M) : Request M → Except HubError (Write M)
  | createEnv newEnv =>
    match hub.findEnvRowAny newEnv.envType with
    | some existing =>
      if existing.isDeleted then .ok (.resurrectEnv newEnv)
      else .error (.alreadyExists "env" newEnv.envType)
    | none => .ok (.insertEnv newEnv)
  | updateEnv envType patch => do
    let _ ← hub.requireEnvRow envType
    .ok (.updateEnv envType patch)
  | softDeleteEnv envType => do
    let _ ← hub.requireEnvRow envType
    .ok (.softDeleteEnv envType)
  | publishVersionGated envType nv rubric opts => do
    let env ← hub.requireEnvRow envType
    match lookup VersionRow.version nv.version env.versions with
    | some _ => .error (.alreadyExists "version" (envType ++ "@" ++ nv.version))
    | none =>
      let _ ← normalize semver nv.version
      .ok (.publishVersion envType nv (gate rubric opts))
  | yankVersion envType version reason => do
    let _ ← hub.requireEnvRow envType
    .ok (.yankVersion envType version reason)
  | publishPackage id publisher description nv => do
    let _ ← normalize semver nv.version
    .ok (.publishPackage id publisher description nv)
  | publishStack id description nv => do
    let _ ← normalize semver nv.version
    .ok (.publishStack id description nv)
  | yankStack id version reason => do
    let _ ← requireSeries "episode stack" id hub.episodeStacks
    .ok (.yankStack id version reason)

/-- A call whose checks have passed; `stamp` is `now()` once it is read. -/
structure Call (M : Type) where
  write : Write M
  stamp : Option Nat := none

/-- The tables, the clock in whole seconds and the calls in progress. -/
structure HubWorld (M : Type) where
  hub : HubStore M := {}
  clock : Nat := 0
  calls : List (Call M) := []

/-- A step of the Hub. -/
inductive HubLabel (M : Type)
  | tick
  | start (request : Request M)
  | stamp (i : Nat)
  | commit (i : Nat)
  -- a statement fails or the call is dropped: SQLite rolls back
  | rollback (i : Nat)

/-- The transaction of the call `i`. -/
def HubWorld.commit (semver : Semver V) (w : HubWorld M) (i : Nat) : Option (HubWorld M) :=
  match w.calls[i]? with
  | some { write, stamp := some ts } =>
    match write.run semver ts w.hub with
    | .ok hub => some { w with hub, calls := w.calls.eraseIdx i }
    | .error _ => some { w with calls := w.calls.eraseIdx i }
  | _ => none

/-- One step. -/
def HubWorld.step (semver : Semver V) (w : HubWorld M) : HubLabel M → Option (HubWorld M)
  | .tick => some { w with clock := w.clock + 1 }
  | .start request =>
    match request.check semver w.hub with
    | .ok write => some { w with calls := w.calls ++ [{ write }] }
    | .error _ => some w
  | .stamp i =>
    match w.calls[i]? with
    | some { write, stamp := none } =>
      some { w with calls := w.calls.set i { write, stamp := some w.clock } }
    | _ => none
  | .commit i => w.commit semver i
  | .rollback i => some { w with calls := w.calls.eraseIdx i }

/-- A Hub that starts with empty tables. -/
def hubSystem (semver : Semver V) : System (HubWorld M) (HubLabel M) where
  init w := w.hub = {} ∧ w.calls = []
  step w a := w.step semver a

theorem HubWorld.step_cases {semver : Semver V} {w w' : HubWorld M} {a : HubLabel M}
    (taken : w.step semver a = some w') :
    w'.hub = w.hub ∨ ∃ i write ts, a = .commit i ∧ w.calls[i]? = some ⟨write, some ts⟩ ∧
      write.run semver ts w.hub = .ok w'.hub := by
  cases a with
  | tick | rollback =>
    cases taken
    exact Or.inl rfl
  | start request =>
    simp only [HubWorld.step] at taken
    cases checked : request.check semver w.hub with
    | ok =>
      rw [checked] at taken
      cases taken
      exact Or.inl rfl
    | error e =>
      rw [checked] at taken
      cases taken
      exact Or.inl rfl
  | stamp i =>
    simp only [HubWorld.step] at taken
    split at taken
    · cases taken
      exact Or.inl rfl
    · cases taken
  | commit i =>
    simp only [HubWorld.step, HubWorld.commit] at taken
    split at taken
    · rename_i write ts called
      cases ran : write.run semver ts w.hub with
      | ok =>
        rw [ran] at taken
        cases taken
        exact Or.inr ⟨i, write, ts, rfl, called, ran⟩
      | error e =>
        rw [ran] at taken
        cases taken
        exact Or.inl rfl
    · cases taken

end UEnv.Hub
