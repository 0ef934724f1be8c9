import Mathlib.Data.List.Infix
import UEnv.Lib.LinkedFiles
import UEnv.Lib.Paths
import UEnv.Lib.RelyGuarantee
import UEnv.Lib.Runs
import UEnv.Lib.Sha256
import UEnv.Obs.Events

/-!
# Activation of a process plugin

`activate_process_plugin` of the client: the checks of a synced package, the lock of its
`env_type`, and the two renames that change the active link and the state file. Several processes
may activate packages of one `env_type` at a time, and every operation on the files may fail.
-/

namespace UEnv.Hub.Activation

open LinkedFiles Obs RelyGuarantee Runs
open Paths (Component)

/-! ### The checks of a package -/

/-- `PackageArtifactRef`, the fields that are read here. -/
structure PackageArtifactRef where
  name : String
  digest : String
  syncMode : String
  targetRelPath : String

/-- `EnvPackageManifest`, the fields that are read here. -/
structure EnvPackageManifest where
  packageId : String
  version : String
  artifacts : List PackageArtifactRef := []
  workerOverlay : Json := .null

structure ProcessPluginManifest where
  envType : String
  version : Option String := none
  supportedBackends : Option (List String) := none
  ipc : String
  entry : String
  deriving DecidableEq

abbrev Name := List Char

/-- The names from the root. -/
abbrev Path := List Name

/-- A synced package as the command finds it: what its files say or why they could not be read,
the digests of the files below it, and how the preparation of the Python runtime and the change of
the permissions end. -/
structure SyncedPackage where
  manifest : Except String EnvPackageManifest
  marker : Except String Json
  digestOf : List Name → Option String
  plugin : Except String ProcessPluginManifest
  isFile : List Name → Bool
  runtime : Except String Unit
  permissions : Except String Unit
  /-- `package_dir/plugin`. -/
  pluginDir : Path

/-- `bundle_digest` (package.rs, 97-104). -/
def bundleDigest (refs : List PackageArtifactRef) : String :=
  let pairs := refs.map fun r => r.name ++ "=" ++ r.digest
  "sha256:" ++ Sha256.sha256Hex (Wire.utf8 ("\n".intercalate (pairs.mergeSort fun a b => a ≤ b)))

/-- The normal components of a path; `none` if there is another one. -/
def normalNames : List Component → Option (List Name)
  | [] => some []
  | .normal name :: rest => (normalNames rest).map (name :: ·)
  | .parentDir :: _ => none

/-- `safe_relative_path` (uenv.rs, 2293-2310). -/
def safeRelativePath (path : String) : Except String (List Name) :=
  if path.isEmpty || Paths.isAbsolute path.toList then
    .error ("path must be non-empty and relative: " ++ path)
  else
    match normalNames (Paths.components path.toList) with
    | none => .error ("path may not escape its package: " ++ path)
    | some [] => .error "relative path resolves to an empty path"
    | some names => .ok names

/-- `package_target_path`, below the package. -/
def packageTargetPath (targetRelPath : String) : Except String (List Name) := do
  let relative ← safeRelativePath targetRelPath
  if relative = ["manifest.json".toList] ∨ relative = [".synced".toList] then
    .error ("artifact target is reserved: " ++ targetRelPath)
  else .ok relative

/-- `synced_package_files_match`. -/
def SyncedPackage.filesMatch (package : SyncedPackage) (manifest : EnvPackageManifest) : Bool :=
  (manifest.artifacts.filter fun artifact => artifact.syncMode == "inline").all fun artifact =>
    match packageTargetPath artifact.targetRelPath with
    | .ok path => package.digestOf path == some artifact.digest
    | .error _ => false

/-- A character that an `env_type` may have after its first. -/
def isEnvChar (c : Char) : Bool := c.isLower || c.isDigit || c == '-' || c == '_' || c == '.'

/-- `validate_process_plugin_env_type`. -/
def isEnvType (envType : String) : Bool :=
  (match envType.toList with
    | c :: rest => (c.isLower || c.isDigit) && rest.all isEnvChar
    | [] => false) &&
  envType.utf8ByteSize ≤ 128 && ¬['.', '.'] <:+: envType.toList

/-- `{:?}` of a text of printable characters. -/
def debug (text : String) : String :=
  "\"" ++ String.join (text.toList.map fun c =>
    if c = '"' then "\\\"" else if c = '\\' then "\\\\" else c.toString) ++ "\""

/-- `read_process_plugin_manifest` (uenv.rs, 2496-2534). -/
def SyncedPackage.readProcessPluginManifest (package : SyncedPackage) :
    Except String ProcessPluginManifest := do
  let manifest ← package.plugin
  if !isEnvType manifest.envType then
    throw ("invalid plugin env_type " ++ debug manifest.envType ++
      "; use 1-128 lowercase letters, digits, '-', '_', or '.', beginning with a letter or digit")
  if manifest.ipc ≠ "proto-uds" then
    throw ("plugin " ++ manifest.envType ++ " uses ipc=" ++ manifest.ipc ++
      "; Hub process packages require proto-uds")
  if !(manifest.supportedBackends.getD []).any (· == "process") then
    throw ("plugin " ++ manifest.envType ++ " must declare supported_backends: [process]")
  let entry ← safeRelativePath manifest.entry
  if !package.isFile entry then
    throw ("plugin entry does not exist: " ++ manifest.entry)
  return manifest

/-- What the checks find out. -/
structure Checked where
  envType : String
  packageId : String
  version : String
  bundleDigest : String
  deriving DecidableEq

/-- The marker belongs to the manifest, and the files are those of the manifest. -/
def SyncedPackage.verified (package : SyncedPackage) (manifest : EnvPackageManifest)
    (marker : Json) : Bool :=
  (marker.get "package_id").bind Json.asStr == some manifest.packageId &&
  (marker.get "version").bind Json.asStr == some manifest.version &&
  (marker.get "bundle_digest").bind Json.asStr == some (bundleDigest manifest.artifacts) &&
  package.filesMatch manifest

def Json.nonEmptyArray : Json → Bool
  | .arr items => !items.isEmpty
  | _ => false

/-- `activate_process_plugin` before it changes anything in the plugin root. -/
def SyncedPackage.check (package : SyncedPackage) : Except String Checked := do
  let manifest ← package.manifest
  let marker ← package.marker
  if !package.verified manifest marker then
    throw "package marker or artifact digest verification failed"
  if (marker.get "skipped_artifacts").any Json.nonEmptyArray then
    throw "cannot activate a package with out-of-band/skipped artifacts"
  let some declaredEnv :=
      ((manifest.workerOverlay.get "process_plugin").bind (Json.get "env_type")).bind Json.asStr
    | throw "package does not declare worker_overlay.process_plugin.env_type"
  let plugin ← package.readProcessPluginManifest
  if plugin.envType ≠ declaredEnv then
    throw ("package declares env_type=" ++ declaredEnv ++ ", plugin manifest declares " ++
      plugin.envType)
  if plugin.version.any (· ≠ manifest.version) then
    throw ("plugin manifest version " ++ plugin.version.getD "" ++
      " does not match package version " ++ manifest.version)
  package.runtime
  package.permissions
  return {
    envType := plugin.envType
    packageId := manifest.packageId
    version := manifest.version
    bundleDigest := ((marker.get "bundle_digest").bind Json.asStr).getD "" }

/-! ### Places in the plugin root -/

/-- The plugin root and the `env_type` whose link is changed. -/
structure Slots where
  root : Path
  envType : String
  isEnvType : isEnvType envType = true

namespace Slots

variable (slots : Slots)

def env : Name := slots.envType.toList

def active : Path := slots.root ++ [slots.env]

def stateDir : Path := slots.root ++ [".active".toList]

def lockParent : Path := slots.stateDir ++ [".locks".toList]

def lock : Path := slots.lockParent ++ [slots.env]

def statePath : Path := slots.stateDir ++ [slots.env ++ ".json".toList]

/-- The temporary names of the process `pid`. -/
def pending (pid : Nat) : Path :=
  slots.root ++ ['.' :: slots.env ++ ".activate-".toList ++ (toString pid).toList]

def stateTmp (pid : Nat) : Path :=
  slots.stateDir ++ ['.' :: slots.env ++ ".json.tmp-".toList ++ (toString pid).toList]

def rollback (pid : Nat) : Path :=
  slots.root ++ ['.' :: slots.env ++ ".rollback-".toList ++ (toString pid).toList]

/-- The directories that a call creates before it takes the lock. -/
def dirs : List Path := slots.lockParent.inits

end Slots

/-- What the state file says. -/
structure ActivationState where
  envType : String
  packageId : String
  version : String
  bundleDigest : String
  pluginDir : Path
  activatedAt : Int
  deriving DecidableEq

/-- The content of a file: the state of an activation or something else. -/
inductive Contents
  | state (state : ActivationState)
  | other (text : String)
  deriving DecidableEq

/-! ### The command -/

/-- A call of the command by the process `pid`. -/
structure ActivateCall where
  package : SyncedPackage
  pid : Nat
  now : Int

abbrev Command (β : Type) := Prog (@Op.Answer Path Contents) String β

/-- An operation whose error is the error of the command. -/
def attempt (o : Op Path Contents) : Command o.Value :=
  .op o fun
    | .ok value => .pure value
    | .error e => .throw e.text

/-- An operation whose error does not matter. -/
def ignore (o : Op Path Contents) : Command Unit := .op o fun _ => .pure ()

def display (path : Path) : String :=
  String.join (path.map fun name => "/" ++ String.ofList name)

section Command

variable (slots : Slots) (call : ActivateCall)

/-- An active path that is there has to be a link. -/
def refuseNonSymlink : Command Unit :=
  .op (.inspect slots.active) fun
    | .ok (.link _) | .error _ => .pure ()
    | .ok _ => .throw ("refusing to replace non-symlink activated plugin path: " ++
        display slots.active)

/-- `ensure_plain_directory` (uenv.rs, 3179-3193). -/
def ensurePlainDirectory (path : Path) : Command Unit :=
  .op (.inspect path) fun
    | .ok .dir => .pure ()
    | .ok _ => .throw ("activation metadata path must be a real directory, " ++
        "not a file or symlink: " ++ display path)
    | .error e => if e.notFound then attempt (.createDir path) else .throw e.text

/-- What comes before the lock. -/
def prepare : Command Checked := do
  let checked ← Prog.ofExcept call.package.check
  attempt (.createDirs slots.root.inits)
  refuseNonSymlink slots
  ensurePlainDirectory slots.stateDir
  ensurePlainDirectory slots.lockParent
  return checked

/-- The error of a lock that cannot be taken. -/
def lockError (e : IoError) : String :=
  "cannot lock activation for env_type=" ++ slots.envType ++ ": " ++ e.text ++
    "; if no activation is running, remove stale lock " ++ display slots.lock

/-- `read_link(&active).ok()`. -/
def readPrevious : Command (Option Path) :=
  .op (.readLink slots.active) fun answer => .pure answer.toOption

/-- The state that the call writes. -/
def stateOf (checked : Checked) (target : Path) : ActivationState where
  envType := checked.envType
  packageId := checked.packageId
  version := checked.version
  bundleDigest := checked.bundleDigest
  pluginDir := target
  activatedAt := call.now

/-- The link under its temporary name. -/
def stageLink (target : Path) : Command Unit := do
  ignore (.removeFile (slots.pending call.pid))
  attempt (.symlink target (slots.pending call.pid))

/-- The state file under its temporary name. -/
def stageState (checked : Checked) (target : Path) : Command Unit := do
  ignore (.removeFile (slots.stateTmp call.pid))
  attempt (.write (slots.stateTmp call.pid) (.state (stateOf call checked target)))

/-- The rename of the link. -/
def switchLink : Command Unit :=
  .op (Op.rename (slots.pending call.pid) slots.active) fun
    | .ok () => .pure ()
    | .error e => do
      ignore (.removeFile (slots.pending call.pid))
      ignore (.removeFile (slots.stateTmp call.pid))
      .throw e.text

/-- The link as it was. -/
def restore : Option Path → Command (Except IoError Unit)
  | some previous => do
    ignore (.removeFile (slots.rollback call.pid))
    .op (.symlink previous (slots.rollback call.pid)) fun
      | .ok () => Prog.perform (Op.rename (slots.rollback call.pid) slots.active)
      | .error e => .pure (.error e)
  | none => Prog.perform (Op.removeFile slots.active)

/-- The rename of the state file; the link is restored when it fails. -/
def switchState (previous : Option Path) : Command Unit :=
  .op (.rename (slots.stateTmp call.pid) slots.statePath) fun
    | .ok () => .pure ()
    | .error stateError => do
      ignore (.removeFile (slots.stateTmp call.pid))
      match ← restore slots call previous with
      | .ok () => .throw ("activation state update failed (" ++ stateError.text ++
          "); restored the previous active plugin")
      | .error rollbackError => .throw ("activation state update failed (" ++ stateError.text ++
          ") and active-link rollback failed (" ++ rollbackError.text ++ "); inspect " ++
          display slots.active)

/-- What comes between the lock and its release. -/
def switch (checked : Checked) : Command String := do
  let target ← attempt (.canonicalize call.package.pluginDir)
  let previous ← readPrevious slots
  stageLink slots call target
  stageState slots call checked target
  switchLink slots call
  switchState slots call previous
  return checked.envType

end Command

/-! ### Several calls -/

/-- The files, and whether the last `read_link` failed where a link is. -/
structure Disk where
  files : Files Path Contents
  unread : Bool := false

/-- An operation of a call. -/
def Disk.exec (disk : Disk) (o : Op Path Contents) (fault : Fault Contents) : o.Answer × Disk :=
  let after := o.exec fault disk.files
  (after.1, {
    files := after.2
    unread := match o with
      | .readLink path => !after.1.isOk && (disk.files path).any Node.isLink
      | _ => disk.unread })

/-- Where a call is. `entry` are the files at the time when it took the lock; no step reads them. -/
inductive Phase
  | idle
  | preparing (call : ActivateCall) (rest : Command Checked)
  | locking (call : ActivateCall) (checked : Checked)
  | switching (call : ActivateCall) (checked : Checked) (entry : Files Path Contents)
      (rest : Command String)
  | releasing (call : ActivateCall) (checked : Checked) (entry : Files Path Contents)
      (result : Except String String)
  | returned (result : Except String String)

namespace Phase

/-- The call once `prepare` has come this far. -/
def prepared (call : ActivateCall) : Command Checked → Phase
  | .pure checked => locking call checked
  | .throw e => returned (.error e)
  | rest => preparing call rest

/-- The call once `switch` has come this far. -/
def switched (call : ActivateCall) (checked : Checked) (entry : Files Path Contents) :
    Command String → Phase
  | .pure envType => releasing call checked entry (.ok envType)
  | .throw e => releasing call checked entry (.error e)
  | rest => switching call checked entry rest

/-- The call is in the critical section. -/
def isSwitching : Phase → Bool
  | switching .. => true
  | _ => false

/-- The call has the lock. -/
def hasLock : Phase → Bool
  | switching .. | releasing .. => true
  | _ => false

/-- The call has begun and has not returned. -/
def isRunning : Phase → Bool
  | idle | returned _ => false
  | _ => true

end Phase

structure Host where
  disk : Disk
  callers : Nat → Phase := fun _ => .idle

inductive Label
  | start (i : Nat) (call : ActivateCall)
  | exec (i : Nat) (fault : Fault Contents)

/-- The calls of one `env_type`. -/
def Slots.takes (slots : Slots) (call : ActivateCall) : Bool :=
  call.package.check.toOption.all fun checked => checked.envType == slots.envType

/-- A step of the host: a call begins or performs its next operation. -/
def Host.step (slots : Slots) (host : Host) : Label → Option Host
  | .start i call =>
    match host.callers i with
    | .idle =>
      if slots.takes call then some { host with
        callers := Function.update host.callers i (.prepared call (prepare slots call)) }
      else none
    | _ => none
  | .exec i fault =>
    match host.callers i with
    | .preparing call (.op o next) =>
      let after := host.disk.exec o fault
      some {
        disk := after.2
        callers := Function.update host.callers i (.prepared call (next after.1)) }
    | .locking call checked =>
      let after := host.disk.exec (.createDir slots.lock) fault
      some {
        disk := after.2
        callers := Function.update host.callers i (match after.1 with
          | .ok () => .switching call checked after.2.files (switch slots call checked)
          | .error e => .returned (.error (lockError slots e))) }
    | .switching call checked entry (.op o next) =>
      let after := host.disk.exec o fault
      some {
        disk := after.2
        callers := Function.update host.callers i (.switched call checked entry (next after.1)) }
    | .releasing _ _ _ result =>
      -- the lock is dropped
      some {
        disk := (host.disk.exec (.removeDir slots.lock) fault).2
        callers := Function.update host.callers i (.returned result) }
    | _ => none

/-- Any number of calls over a plugin root. -/
def activations (slots : Slots) (initial : Files Path Contents) : System Host Label where
  init host := host = { disk := { files := initial } }
  step host a := host.step slots a

end UEnv.Hub.Activation
