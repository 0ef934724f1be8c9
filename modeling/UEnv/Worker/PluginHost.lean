import UEnv.Lib.Paths
import UEnv.Lib.Runs
import UEnv.Lib.Text
import UEnv.Service.Request

/-!
# The plugin host

`plugin/host.rs`. A manifest becomes spawnable in three ways, and each finds the directory of its
environment by itself: from the type that the manifest declares, from the argument, or as it was.
The entry is checked in one of them. Instances, sockets and timeouts are left out.
-/

namespace UEnv.Worker

open Paths Runs Tables Fallible

/-- host.rs, 30-37. -/
structure PluginManifest where
  envType : String
  version : Option String := none
  supportedBackends : Option (List String) := none
  ipc : String
  entry : String
  description : Option String := none

/-- An entry of a plugin root. -/
structure DirEntry where
  name : String
  /-- A directory, or a link to one. -/
  isDir : Bool := true
  /-- `manifest.yaml`, read and parsed; `none` when there is none. -/
  manifest : Option (Except String PluginManifest)

/-- A plugin root as the host finds it. -/
structure PluginRoot where
  path : PathText
  isDir : Bool := true
  present : Bool := true
  entries : Except String (List DirEntry)

/-- A manifest with the root and the directory that it lies in, which the host does not keep. -/
structure Found where
  root : PathText
  name : String
  manifest : PluginManifest

def Found.dir (found : Found) : PathText := join found.root found.name.toList

/-- `HostState`, with the directory in which each manifest was found beside the one it is run in. -/
structure PluginHost where
  manifests : Map String PluginManifest := ∅
  manifestDirs : Map String PathText := ∅
  foundIn : Map String PathText := ∅

/-- The questions to the file system. -/
structure FileSystem where
  isDir : PathText → Bool
  isFile : PathText → Bool
  canonicalize : PathText → Except String PathText

/-- One entry of `scan_manifests`. -/
def scanEntry (root : PathText) (manifests : Map String Found) (entry : DirEntry) :
    Except String (Map String Found) :=
  if !entry.isDir then .ok manifests
  else
    match entry.manifest with
    | none => .ok manifests
    | some (.error err) => .error err
    | some (.ok manifest) =>
      .ok (manifests.insert manifest.envType { root, name := entry.name, manifest })

def scanManifests (root : PluginRoot) : Except String (Map String Found) := do
  let entries ← root.entries
  entries.foldlM (scanEntry root.path) ∅

/-- The path that is made of the names of an entry. -/
def cleanPath (clean : List Component) : PathText :=
  clean.foldl (fun path c =>
    match c with
    | .normal name => join path name
    | .parentDir => path) []

def validateManifestEntry (fs : FileSystem) (envDir : PathText) (manifest : PluginManifest) :
    Except String PathText :=
  let envType := manifest.envType
  let entry := manifest.entry
  let clean := components entry.toList
  let resolved := join envDir (cleanPath clean)
  if (Service.trim envType).isEmpty || envType.toList.contains '/' ||
      envType.toList.contains '\\' || Text.has ['.', '.'] envType.toList then
    .error s!"invalid plugin env_type: {envType}"
  else if !fs.isDir envDir then
    .error s!"plugin directory not found for env_type={envType}: {String.ofList envDir}"
  else if fileName envDir ≠ some envType.toList then
    .error s!"plugin directory name must match env_type={envType}: {String.ofList envDir}"
  else if entry.isEmpty || isAbsolute entry.toList then
    .error <| "plugin entry must be a non-empty relative path for " ++
      s!"env_type={envType}: {entry}"
  else if clean.contains .parentDir then
    .error <| "plugin entry may not escape its environment directory for " ++
      s!"env_type={envType}: {entry}"
  else if clean.isEmpty then .error s!"plugin entry is empty for env_type={envType}"
  else if !fs.isFile resolved then
    .error s!"plugin entry not found for env_type={envType}: {String.ofList resolved}"
  else do
    let canonicalDir ← fs.canonicalize envDir
    let canonicalEntry ← fs.canonicalize resolved
    if startsWith canonicalEntry canonicalDir then .ok resolved
    else
      .error <| "plugin entry resolves outside its environment directory for " ++
        s!"env_type={envType}: {String.ofList resolved}"

namespace PluginHost

variable (host : PluginHost)

/-- A manifest is inserted together with its directory. -/
def insert (envType : String) (manifest : PluginManifest) (dir found : PathText) : PluginHost where
  manifests := host.manifests.insert envType manifest
  manifestDirs := host.manifestDirs.insert envType dir
  foundIn := host.foundIn.insert envType found

/-- The manifests of a root; the directory is named by the type that the manifest declares. -/
def loadRoot (root : PluginRoot) : Except String PluginHost := do
  let scanned ← scanManifests root
  .ok (scanned.foldl (fun host envType found =>
    host.insert envType found.manifest (join root.path envType.toList) found.dir) host)

/-- `load_from_dirs` (host.rs, 69-115). -/
def loadFromDirs : List PluginRoot → Except String PluginHost
  | [] => .error "at least one plugin directory is required"
  | primary :: roots =>
    if !primary.isDir then
      .error <| "primary plugin directory is missing or not a directory: " ++
        String.ofList primary.path
    else do
      let host ← loadRoot {} primary
      roots.foldlM (fun host root => if root.present then host.loadRoot root else .ok host) host

/-- `register_manifest`; the directory stays the one that was installed. -/
def registerManifest (manifest : PluginManifest) : Except String PluginHost :=
  if host.manifestDirs.contains manifest.envType then
    .ok { host with manifests := host.manifests.insert manifest.envType manifest }
  else
    .error <| s!"cannot register env_type={manifest.envType} without an installed plugin " ++
      "directory"

/-- `register_manifest_from_dir` (host.rs, 153-166). -/
def registerManifestFromDir (fs : FileSystem) (manifest : PluginManifest) (envDir : PathText) :
    Except String PluginHost := do
  let _ ← validateManifestEntry fs envDir manifest
  .ok (host.insert manifest.envType manifest envDir envDir)

/-- `spawn`, up to the path that `ProcessBackend::create` executes. -/
def spawn (envType : String) : Except String PathText :=
  match host.manifests[envType]? with
  | none => .error s!"manifest not found for env_type={envType}"
  | some manifest =>
    match host.manifestDirs[envType]? with
    | none => .error s!"plugin directory not found for env_type={envType}"
    | some envDir =>
      if manifest.ipc ≠ "proto-uds" then .error s!"unsupported plugin ipc: {manifest.ipc}"
      else if !(manifest.supportedBackends.getD []).contains "process" then
        .error "manifest does not support process backend"
      else .ok (join envDir manifest.entry.toList)

end PluginHost

/-! ### Runs -/

/-- What is asked of the host. -/
inductive HostCall
  | load (roots : List PluginRoot)
  | register (manifest : PluginManifest)
  | registerFromDir (manifest : PluginManifest) (envDir : PathText) (fs : FileSystem)

/-- A call that fails leaves the host as it is; before the first load there is none. -/
def hostStep (host : Option PluginHost) : HostCall → Option (Option PluginHost)
  | .load roots => some ((PluginHost.loadFromDirs roots).toOption.or host)
  | .register manifest =>
    host.map fun host => some ((host.registerManifest manifest).toOption.getD host)
  | .registerFromDir manifest envDir fs =>
    host.map fun host => some ((host.registerManifestFromDir fs manifest envDir).toOption.getD host)

/-- Hosts that are loaded and given manifests in any order. -/
def hosts : System (Option PluginHost) HostCall where
  init host := host = none
  step := hostStep

/-- The manifest of an entry of a root. -/
def DirEntry.found (root : PathText) (entry : DirEntry) : Option Found :=
  if entry.isDir then
    match entry.manifest with
    | some (.ok manifest) => some { root, name := entry.name, manifest }
    | _ => none
  else none

/-- The manifests below a root. -/
def PluginRoot.found (root : PluginRoot) : List Found :=
  (root.entries.toOption.getD []).filterMap (DirEntry.found root.path)

/-- The manifests below the roots that a load goes through. -/
def allFound : List PluginRoot → List Found
  | [] => []
  | primary :: roots => primary.found ++ (roots.filter (·.present)).flatMap PluginRoot.found

/-- The last manifest that declares a type; it replaces those before it. -/
def lastFor (envType : String) (found : List Found) : Option Found :=
  found.reverse.find? fun f => f.manifest.envType = envType

/-- A manifest that declares the name of its directory, and an entry below it. -/
def Found.AtHome (found : Found) : Prop :=
  found.manifest.envType = found.name ∧ Descends found.manifest.entry.toList

/-- The manifests that a load leaves in force lie where they say, with an entry below, and so does
the entry of one that is registered for an installed directory. -/
def Homely (host : Option PluginHost) : HostCall → Prop
  | .load roots => ∀ envType, ∀ found ∈ lastFor envType (allFound roots), found.AtHome
  | .register manifest => ∀ h ∈ host, manifest.envType ∈ h.manifestDirs →
      Descends manifest.entry.toList
  | .registerFromDir _ _ _ => True

/-! ### What a load leaves in force -/

/-- What the host holds for a type. -/
def PluginHost.holds (host : PluginHost) (envType : String) :
    Option PluginManifest × Option PathText × Option PathText :=
  (host.manifests[envType]?, host.manifestDirs[envType]?, host.foundIn[envType]?)

/-- What a load puts in for a manifest. -/
def Found.held (found : Found) : Option PluginManifest × Option PathText × Option PathText :=
  (some found.manifest, some (join found.root found.manifest.envType.toList), some found.dir)

theorem lastFor_append (envType : String) (a b : List Found) :
    lastFor envType (a ++ b) = (lastFor envType b).or (lastFor envType a) := by
  unfold lastFor
  rw [List.reverse_append, List.find?_append]

variable {f : Found} {start scanned : Map String Found} {loaded : PluginHost}

theorem envType_of_lastFor {envType : String} {found : List Found}
    (last : lastFor envType found = some f) : f.manifest.envType = envType := by
  simpa using List.find?_some last

theorem mem_of_lastFor {envType : String} {found : List Found}
    (last : lastFor envType found = some f) : f ∈ found :=
  List.mem_reverse.mp (List.mem_of_find?_eq_some last)

theorem holds_insert (host : PluginHost) (envType : String) (manifest : PluginManifest)
    (dir found : PathText) (other : String) :
    (host.insert envType manifest dir found).holds other =
      if envType = other then (some manifest, some dir, some found) else host.holds other := by
  unfold PluginHost.holds PluginHost.insert
  simp only [lookup_insert]
  split
  · rfl
  · rfl

theorem holds_foldl (root : PathText) (scanned : Map String Found) (host : PluginHost)
    (envType : String) :
    (scanned.foldl (fun host envType found =>
      host.insert envType found.manifest (join root envType.toList) found.dir) host).holds envType =
      match scanned[envType]? with
      | some found => (some found.manifest, some (join root envType.toList), some found.dir)
      | none => host.holds envType := by
  rw [Std.ExtTreeMap.foldl_eq_foldl_toList]
  have unique := nodup_fst_toList scanned
  have listed : ∀ found, scanned[envType]? = some found ↔ (envType, found) ∈ scanned.toList :=
    fun found => Std.ExtTreeMap.mem_toList_iff_getElem?_eq_some.symm
  generalize scanned.toList = entries at unique listed
  generalize scanned[envType]? = value at listed
  induction entries generalizing host value with
  | nil =>
    cases value with
    | none => rfl
    | some found => exact absurd ((listed found).mp rfl) List.not_mem_nil
  | cons entry rest ih =>
    rw [List.map_cons, List.nodup_cons] at unique
    rw [List.foldl_cons]
    by_cases same : entry.1 = envType
    · -- the key is found here and not again
      obtain rfl := (listed entry.2).mpr (same ▸ List.mem_cons_self)
      have absent : ∀ found, none = some found ↔ (envType, found) ∈ rest := by
        refine fun found => iff_of_false (fun impossible => by cases impossible) fun later => ?_
        exact unique.1 (same ▸ @List.mem_map_of_mem _ _ rest (envType, found) Prod.fst later)
      rw [ih _ unique.2 none absent, holds_insert, if_pos same, same]
    · have elsewhere : ∀ found, value = some found ↔ (envType, found) ∈ rest := by
        intro found
        rw [listed found, List.mem_cons]
        refine or_iff_right fun here => same ?_
        exact (congrArg Prod.fst here).symm
      rw [ih _ unique.2 value elsewhere, holds_insert, if_neg same]

theorem scanEntry_spec {root : PathText} {entry : DirEntry}
    (ran : scanEntry root start entry = .ok scanned) {envType : String} :
    scanned[envType]? = (lastFor envType (entry.found root).toList).or start[envType]? := by
  unfold scanEntry at ran
  unfold DirEntry.found
  cases isDir : entry.isDir with
  | false =>
    rw [isDir] at ran
    cases ran
    rfl
  | true =>
    rw [isDir] at ran
    cases manifest : entry.manifest with
    | none =>
      rw [manifest] at ran
      cases ran
      rfl
    | some read =>
      cases read with
      | error =>
        rw [manifest] at ran
        cases ran
      | ok parsed =>
        rw [manifest] at ran
        cases ran
        rw [lookup_insert]
        by_cases same : parsed.envType = envType
        · simp [lastFor, same]
        · simp [lastFor, same]

theorem scanEntries_spec {root : PathText} {entries : List DirEntry}
    (ran : entries.foldlM (scanEntry root) start = .ok scanned) (envType : String) :
    scanned[envType]? =
      (lastFor envType (entries.filterMap (DirEntry.found root))).or start[envType]? := by
  induction entries generalizing start with
  | nil =>
    obtain rfl : start = scanned := by simpa [pure, Except.pure] using ran
    rfl
  | cons entry rest ih =>
    obtain ⟨middle, first, ran⟩ := foldlM_cons_eq_ok.mp ran
    have later := ih ran
    have split : (entry :: rest).filterMap (DirEntry.found root) =
        (entry.found root).toList ++ rest.filterMap (DirEntry.found root) := by
      rw [List.filterMap_cons]
      cases entry.found root with
      | none => rfl
      | some => rfl
    rw [split, lastFor_append, later, scanEntry_spec first, Option.or_assoc]

theorem root_of_found {root : PathText} {entry : DirEntry} (found : entry.found root = some f) :
    f.root = root := by
  unfold DirEntry.found at found
  split at found
  · split at found
    · cases found
      rfl
    · cases found
  · cases found

theorem loadRoot_holds {host : PluginHost} {root : PluginRoot}
    (ran : host.loadRoot root = .ok loaded) (envType : String) : loaded.holds envType =
      ((lastFor envType root.found).map Found.held).getD (host.holds envType) := by
  obtain ⟨scanned, scan, ran⟩ := bind_eq_ok.mp ran
  cases ran
  obtain ⟨entries, read, scan⟩ := bind_eq_ok.mp scan
  have found : root.found = entries.filterMap (DirEntry.found root.path) := by
    rw [PluginRoot.found, read]
    rfl
  have spec := scanEntries_spec scan envType
  rw [← found, Std.ExtTreeMap.getElem?_empty, Option.or_none] at spec
  rw [holds_foldl, spec]
  cases last : lastFor envType root.found with
  | none => rfl
  | some f =>
    have declared := envType_of_lastFor last
    obtain ⟨entry, _, found⟩ := List.mem_filterMap.mp (mem_of_lastFor last)
    rw [Option.map_some, Option.getD_some, Found.held, declared, root_of_found found]

theorem loadRoots_holds {roots : List PluginRoot} {host : PluginHost}
    (ran : roots.foldlM (fun host root =>
      if root.present then host.loadRoot root else .ok host) host = .ok loaded) (envType : String) :
    loaded.holds envType =
      ((lastFor envType ((roots.filter (·.present)).flatMap PluginRoot.found)).map
        Found.held).getD (host.holds envType) := by
  induction roots generalizing host with
  | nil =>
    obtain rfl : host = loaded := by simpa [pure, Except.pure] using ran
    rfl
  | cons root rest ih =>
    obtain ⟨middle, first, ran⟩ := foldlM_cons_eq_ok.mp ran
    rw [ih ran]
    cases present : root.present with
    | false =>
      rw [present] at first
      cases first
      rw [List.filter_cons_of_neg (by simp [present])]
    | true =>
      rw [present] at first
      rw [List.filter_cons_of_pos present, List.flatMap_cons, lastFor_append, loadRoot_holds first]
      cases lastFor envType ((rest.filter (·.present)).flatMap PluginRoot.found) with
      | none => rfl
      | some => rfl

theorem loadFromDirs_holds {roots : List PluginRoot} {host : PluginHost}
    (ran : PluginHost.loadFromDirs roots = .ok host) (envType : String) :
    host.holds envType =
      ((lastFor envType (allFound roots)).map Found.held).getD (none, none, none) := by
  cases roots with
  | nil => cases ran
  | cons primary roots =>
    rw [PluginHost.loadFromDirs] at ran
    cases isDir : primary.isDir with
    | false =>
      rw [isDir] at ran
      cases ran
    | true =>
      rw [isDir] at ran
      obtain ⟨first, loaded, ran⟩ := bind_eq_ok.mp ran
      rw [loadRoots_holds ran, loadRoot_holds loaded, allFound, lastFor_append]
      cases lastFor envType ((roots.filter (·.present)).flatMap PluginRoot.found) with
      | none => rfl
      | some => rfl

/-! ### The entry that a process is started from -/

theorem descends_of_validate {fs : FileSystem} {envDir resolved : PathText}
    {manifest : PluginManifest}
    (valid : validateManifestEntry fs envDir manifest = .ok resolved) :
    Descends manifest.entry.toList := by
  unfold validateManifestEntry at valid
  simp only at valid
  split at valid
  · cases valid
  split at valid
  · cases valid
  split at valid
  · cases valid
  split at valid
  · cases valid
  next relative =>
  split at valid
  · cases valid
  next normal =>
  split at valid
  · cases valid
  next some =>
  obtain ⟨names, ended, length⟩ := @descend_of_normal (components manifest.entry.toList)
    (fun c member parent => normal (List.contains_iff_mem.mpr (parent ▸ member))) []
  refine ⟨?_, names, ?_, ended⟩
  · cases absolute : isAbsolute manifest.entry.toList with
    | false => rfl
    | true => exact absurd (by rw [absolute, Bool.or_true]) relative
  · rintro rfl
    exact some (List.isEmpty_iff.mpr (List.length_eq_zero_iff.mp length.symm))

/-- Every manifest is run in the directory in which it was found, from an entry below it. -/
structure PluginHost.AtHome (host : PluginHost) : Prop where
  dirs : ∀ envType : String, host.manifestDirs[envType]? = host.foundIn[envType]?
  entries : ∀ envType : String, ∀ manifest ∈ host.manifests[envType]?,
    Descends manifest.entry.toList

theorem atHome_of_load {roots : List PluginRoot} {host : PluginHost}
    (homely : ∀ envType, ∀ found ∈ lastFor envType (allFound roots), found.AtHome)
    (ran : PluginHost.loadFromDirs roots = .ok host) : host.AtHome := by
  have each : ∀ envType : String, host.manifestDirs[envType]? = host.foundIn[envType]? ∧
      ∀ manifest ∈ host.manifests[envType]?, Descends manifest.entry.toList := by
    intro envType
    have held := loadFromDirs_holds ran envType
    cases last : lastFor envType (allFound roots) with
    | none =>
      rw [last] at held
      obtain ⟨manifests, dirs, found⟩ : host.manifests[envType]? = none ∧
          host.manifestDirs[envType]? = none ∧ host.foundIn[envType]? = none := by
        simpa [PluginHost.holds] using held
      rw [manifests, dirs, found]
      exact ⟨rfl, fun _ impossible => by cases impossible⟩
    | some f =>
      rw [last] at held
      obtain ⟨manifests, dirs, found⟩ : host.manifests[envType]? = some f.manifest ∧
          host.manifestDirs[envType]? = some (join f.root f.manifest.envType.toList) ∧
          host.foundIn[envType]? = some f.dir := by
        simpa [PluginHost.holds, Found.held] using held
      obtain ⟨named, descends⟩ := homely envType f last
      rw [manifests, dirs, found, Found.dir, named]
      refine ⟨rfl, fun manifest same => ?_⟩
      cases same
      exact descends
  exact ⟨fun envType => (each envType).1, fun envType => (each envType).2⟩

theorem PluginHost.AtHome.insert {host : PluginHost} (home : host.AtHome)
    {manifest : PluginManifest} (descends : Descends manifest.entry.toList) (envType : String)
    (dir : PathText) : (host.insert envType manifest dir dir).AtHome := by
  refine ⟨fun other => ?_, fun other listed present => ?_⟩
  · show (host.manifestDirs.insert envType dir)[other]? = (host.foundIn.insert envType dir)[other]?
    rw [lookup_insert, lookup_insert, home.dirs]
  · rcases lookup_insert_cases present with ⟨_, rfl⟩ | before
    · exact descends
    · exact home.entries other listed before

theorem atHome_step {host : Option PluginHost} {call : HostCall} {after : Option PluginHost}
    (home : ∀ h ∈ host, h.AtHome) (homely : Homely host call)
    (taken : hostStep host call = some after) : ∀ h ∈ after, h.AtHome := by
  cases call with
  | load roots =>
    cases taken
    cases ran : PluginHost.loadFromDirs roots with
    | error => exact home
    | ok =>
      intro h member
      cases member
      exact atHome_of_load homely ran
  | register manifest =>
    obtain ⟨before, rfl, rfl⟩ := Option.map_eq_some_iff.mp taken
    intro h member
    cases member
    have was := home before rfl
    unfold PluginHost.registerManifest
    split
    · next installed =>
      have descends := homely before rfl (Std.ExtTreeMap.contains_iff_mem.mp installed)
      refine ⟨was.dirs, fun other listed present => ?_⟩
      rcases lookup_insert_cases present with ⟨_, rfl⟩ | kept
      · exact descends
      · exact was.entries other listed kept
    · exact was
  | registerFromDir manifest envDir fs =>
    obtain ⟨before, rfl, rfl⟩ := Option.map_eq_some_iff.mp taken
    intro h member
    cases member
    have was := home before rfl
    unfold PluginHost.registerManifestFromDir
    cases valid : validateManifestEntry fs envDir manifest with
    | error => exact was
    | ok => exact was.insert (descends_of_validate valid) manifest.envType envDir

/-- In every run in which each manifest that a load leaves in force declares the name of its
directory and an entry below it, and so does the entry of each manifest that is registered without
a directory, the path that `spawn` executes lies inside the directory in which the manifest for its
type was found. -/
theorem spawned_inside (cwd : List (List Char)) {host : PluginHost}
    (reached : ReachableWhen hosts Homely (some host)) (envType : String) (path : PathText)
    (spawned : host.spawn envType = .ok path) :
    ∃ dir, host.foundIn[envType]? = some dir ∧ Inside cwd path dir := by
  have home : ∀ h ∈ some host, h.AtHome := by
    refine reached.invariant (motive := fun s => ∀ h ∈ s, h.AtHome) ?_ ?_
    · rintro s rfl h member
      cases member
    · exact fun s call t _ home homely taken => atHome_step home homely taken
  have was := home host rfl
  unfold PluginHost.spawn at spawned
  split at spawned
  · cases spawned
  next manifest found =>
  split at spawned
  · cases spawned
  next envDir dir =>
  split at spawned
  · cases spawned
  split at spawned
  · cases spawned
  cases spawned
  exact ⟨envDir, (was.dirs envType).symm.trans dir,
    inside_join cwd envDir (was.entries envType manifest found)⟩

/-- A root with one plugin. -/
def demoRoot (entry : String) : PluginRoot where
  path := "/plugins".toList
  entries := .ok [{
    name := "demo"
    manifest := some (.ok {
      envType := "demo", supportedBackends := some ["process"], ipc := "proto-uds", entry }) }]

theorem reachable_of_load {root : PluginRoot} {host : PluginHost}
    (homely : ∀ found ∈ root.found, found.AtHome)
    (loaded : PluginHost.loadFromDirs [root] = .ok host) :
    ReachableWhen hosts Homely (some host) := by
  refine .next (.start rfl) (a := .load [root]) (fun envType found last => ?_) ?_
  · have member := mem_of_lastFor last
    rw [allFound, List.filter_nil, List.flatMap_nil, List.append_nil] at member
    exact homely found member
  · show some ((PluginHost.loadFromDirs [root]).toOption.or none) = _
    rw [loaded]
    rfl

theorem demo_inside : ∃ (host : PluginHost) (path dir : PathText), host.spawn "demo" = .ok path ∧
      host.foundIn["demo"]? = some dir ∧ Inside [] path dir := by
  have facts : ((PluginHost.loadFromDirs [demoRoot "./run.sh"]).toOption).any
      (fun host => (host.spawn "demo").isOk) = true := by
    decide +kernel
  obtain ⟨host, loaded, spawns⟩ := (Option.any_eq_true _ _).mp facts
  obtain ⟨path, spawned⟩ := isOk_iff.mp spawns
  have homely : ∀ found ∈ (demoRoot "./run.sh").found, found.AtHome := by
    intro found member
    obtain rfl := List.mem_singleton.mp member
    exact ⟨rfl, rfl, [['r', 'u', 'n', '.', 's', 'h']], List.cons_ne_nil _ _, rfl⟩
  have reached := reachable_of_load homely (toOption_eq_some.mp loaded)
  obtain ⟨dir, found, inside⟩ := spawned_inside [] reached "demo" path spawned
  exact ⟨host, path, dir, spawned, found, inside⟩

/-- A manifest whose entry climbs out of its directory is loaded and run. -/
theorem climbing_entry_spawned :
    ¬ ∀ (cwd : List (List Char)) (host : PluginHost), Reachable hosts (some host) →
      ∀ (envType : String) (path : PathText), host.spawn envType = .ok path →
        ∃ dir, host.foundIn[envType]? = some dir ∧ Inside cwd path dir := by
  intro all
  have facts : ((PluginHost.loadFromDirs [demoRoot "../../bin/sh"]).toOption).any
      (fun host => decide ((host.spawn "demo").toOption =
          some "/plugins/demo/../../bin/sh".toList) &&
        decide (host.foundIn["demo"]? = some "/plugins/demo".toList)) = true := by
    decide +kernel
  obtain ⟨host, loaded, facts⟩ := (Option.any_eq_true _ _).mp facts
  obtain ⟨spawns, found⟩ := Bool.and_eq_true_iff.mp facts
  have ran : hosts.exec none [.load [demoRoot "../../bin/sh"]] = some (some host) := by
    show (some ((PluginHost.loadFromDirs [demoRoot "../../bin/sh"]).toOption.or none)).bind some = _
    rw [loaded]
    rfl
  obtain ⟨dir, found', names, _, leads⟩ := all [] host (Reachable.of_exec rfl _ ran) "demo"
    "/plugins/demo/../../bin/sh".toList (toOption_eq_some.mp (of_decide_eq_true spawns))
  obtain rfl := Option.some.inj (found'.symm.trans (of_decide_eq_true found))
  have first := congrArg List.head? leads
  rw [List.head?_append_of_ne_nil _ (by decide)] at first
  exact absurd first (by decide +kernel)

end UEnv.Worker
