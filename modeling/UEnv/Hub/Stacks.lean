import Mathlib.Data.Char
import Mathlib.Data.List.Infix
import Mathlib.Data.List.Lex
import Mathlib.Data.List.Sort
import UEnv.Hub.Namespaces
import UEnv.Lib.Lines
import UEnv.Service.Request

/-!
# Episode stacks

`resolve_stack` pins the components of a stack to what the tables hold, one read after the other,
and `stack_digest` hashes the pinned components: a line for each, sorted and joined by line feeds.
-/

namespace UEnv.Hub

open Records Runs Lines

/-! ### Resolution -/

/-- `ResolvedComponent`, without the address. -/
structure ResolvedComponent where
  role : String
  id : String
  requested : String
  resolved : String
  digest : Option String
  deriving DecidableEq

/-- A component of a stack as it is declared, with the version it asks for. -/
structure ComponentRef where
  id : String
  version : String
  deriving DecidableEq

/-- `EpisodeStackManifest`, as far as its components are concerned. -/
structure StackManifest where
  taskEnv : ComponentRef
  agentScaffold : Option ComponentRef
  envPackages : List String
  deriving DecidableEq

/-- How the contents of the rows are read. -/
structure StackReader (M V : Type) where
  semver : Semver V
  -- `VersionReq::parse` and `matches`
  parseConstraint : String → Option (V → Bool)
  -- `bundle_digest(&manifest.artifacts)`
  bundleDigest : M → String
  -- the columns of a row of `episode_stack_versions`
  stackManifest : M → StackManifest

variable {M V : Type} [LinearOrder V] (reader : StackReader M V)

/-- `ver::resolve`. -/
def resolveVersion (constraint : String) (candidates : List String) :
    Except HubError (Option String) :=
  match reader.parseConstraint constraint with
  | none => .error (.invalidConstraint constraint)
  | some matchesVersion =>
    let best := candidates.foldl (fun best raw =>
      match reader.semver.parse raw with
      | none => best
      | some v =>
        if matchesVersion v then
          match best with
          | some highest => if v ≤ highest then some highest else some v
          | none => some v
        else best) none
    .ok (best.map reader.semver.render)

/-- `constraint.trim() == "latest"`. -/
def asksLatest (constraint : String) : Bool := Service.trim constraint == "latest"

/-- `resolve_manifest` (repository.rs, 430-442). -/
def HubStore.resolveManifest (hub : HubStore M) (envType constraint : String) :
    Except HubError (FullManifest M) := do
  let env ← hub.requireEnvRow envType
  let unyanked := (env.versions.filter fun v => !v.isYanked).map VersionRow.version
  match ← resolveVersion reader constraint unyanked with
  | some version => hub.getManifest envType version
  | none => .error (.notFound "version" (envType ++ " matching " ++ constraint))

/-- The manifest of `task_env_facts`. -/
def HubStore.taskEnvManifest (hub : HubStore M) (envType constraint : String) :
    Except HubError (FullManifest M) :=
  if asksLatest constraint then hub.latestManifest reader.semver envType
  else hub.resolveManifest reader envType constraint

/-- The version that `scaffold_facts` resolves. -/
def Series.scaffoldVersion (series : Series M) (constraint : String) : Except HubError String :=
  if asksLatest constraint then
    match series.latestVersion with
    | some version => .ok version
    | none => .error (.notFound "package version" (series.id ++ "@latest"))
  else do
    match ← resolveVersion reader constraint series.versionStrings with
    | some version => .ok version
    | none => .error (.notFound "package version" (series.id ++ " matching " ++ constraint))

/-- The manifest of `scaffold_facts`. -/
def HubStore.scaffoldManifest (hub : HubStore M) (id constraint : String) :
    Except HubError (VersionRow M) := do
  let series ← requireSeries "package" id hub.packages
  let version ← series.scaffoldVersion reader constraint
  hub.getPackageManifest id version

/-- `pkg_ref.split_once('@')`. -/
def splitRef (ref : String) : Option (String × String) :=
  let text := ref.toList
  if '@' ∈ text then
    some (String.ofList (text.takeWhile (· ≠ '@')),
      String.ofList ((text.dropWhile (· ≠ '@')).drop 1))
  else none

/-- The component `task_env`. -/
def taskEnvComponent (hub : HubStore M) (ref : ComponentRef) :
    Except HubError ResolvedComponent := do
  let manifest ← hub.taskEnvManifest reader ref.id ref.version
  .ok { role := "task_env", id := ref.id, requested := ref.version
        resolved := manifest.version.version, digest := none }

/-- The component `agent_scaffold` of a stack that has one. -/
def scaffoldComponents (hub : HubStore M) :
    Option ComponentRef → Except HubError (List ResolvedComponent)
  | none => .ok []
  | some ref => do
    let row ← hub.scaffoldManifest reader ref.id ref.version
    .ok [{ role := "agent_scaffold", id := ref.id, requested := ref.version
           resolved := row.version, digest := some (reader.bundleDigest row.content) }]

/-- A component `env_package`. -/
def packageComponent (hub : HubStore M) (ref : String) : Except HubError ResolvedComponent :=
  match splitRef ref with
  | none =>
    .error (.invalidManifest ("env_packages entry '" ++ ref ++ "' is not 'package_id@version'"))
  | some (id, version) => do
    let row ← hub.getPackageManifest id version
    .ok { role := "env_package", id, requested := version
          resolved := row.version, digest := some (reader.bundleDigest row.content) }

/-- The loop over `env_packages`; the first entry is the read number `k`. -/
def packageComponents (reads : Nat → HubStore M) (k : Nat) :
    List String → Except HubError (List ResolvedComponent)
  | [] => .ok []
  | ref :: refs => do
    let component ← packageComponent reader (reads k) ref
    let rest ← packageComponents reads (k + 1) refs
    .ok (component :: rest)

/-- `resolve_stack`, up to the notes. Other calls run between its reads: `reads k` are the tables at
its read number `k`. -/
def resolveStack (reads : Nat → HubStore M) (stackId version : String) :
    Except HubError (List ResolvedComponent) := do
  let row ← (reads 0).getStackManifest stackId version
  if row.isYanked then
    .error (.notFound "episode stack version" (stackId ++ "@" ++ row.version ++ " (yanked: " ++
      row.yankReason.getD "no reason given" ++ ")"))
  else
    let manifest := reader.stackManifest row.content
    let env ← taskEnvComponent reader (reads 1) manifest.taskEnv
    let scaffold ← scaffoldComponents reader (reads 2) manifest.agentScaffold
    let packages ← packageComponents reader reads 3 manifest.envPackages
    .ok (env :: (scaffold ++ packages))

/-! ### The digest -/

/-- U+001F. -/
def unitSeparator : Char := Char.ofNat 0x1f

/-- The line of a component. -/
def componentLine (c : ResolvedComponent) : List Char :=
  c.role.toList ++ unitSeparator :: (c.id.toList ++ unitSeparator ::
    (c.resolved.toList ++ unitSeparator :: (c.digest.getD "").toList))

/-- The order of `sort`: the order of code points is the order of UTF-8 bytes. -/
def lineLe (a b : List Char) : Bool := decide (a ≤ b)

/-- What `stack_digest` feeds to the hash. -/
def digestInput (components : List ResolvedComponent) : List Char :=
  unlines '\n' ((components.map componentLine).mergeSort lineLe)

/-- `stack_digest`, where `sha` is the hash of the UTF-8 bytes of a text. -/
def stackDigest {D : Type} (sha : List Char → D) (components : List ResolvedComponent) : D :=
  sha (digestInput components)

/-- What a component is pinned to. -/
def ResolvedComponent.pin (c : ResolvedComponent) : String × String × String × Option String :=
  (c.role, c.id, c.resolved, c.digest)

/-! ### Accepted publishes -/

section Accepted

variable (semver : Semver V)

/-- The check of `package_id` in `publish_inline_package`. -/
def acceptedPackageId (id : String) : Bool :=
  !id.isEmpty && !id.toList.contains '/' && !decide (['.', '.'] <:+: id.toList)

/-- The calls that get past the service layer. -/
def HubLabel.Accepted : HubLabel M → Prop
  | .start (.createEnv newEnv) => validEnvType newEnv.envType
  | .start (.publishPackage id _ _ _) => acceptedPackageId id
  | _ => True

/-- A version that the parser accepts. -/
def ValidVersion (version : String) : Prop := ∃ v, semver.parse version = some v

/-- What the checks before a write say of it. -/
def Write.Checked : Write M → Prop
  | insertEnv newEnv => validEnvType newEnv.envType
  | publishVersion _ nv _ => ValidVersion semver nv.version
  | publishPackage _ _ _ nv => ValidVersion semver nv.version
  | _ => True

/-- The names and versions of the rows of environments and packages have passed their checks. -/
structure HubStore.Checked (hub : HubStore M) : Prop where
  envType : ∀ env ∈ hub.envs, validEnvType env.envType
  envVersion : ∀ env ∈ hub.envs, ∀ v ∈ env.versions, ValidVersion semver v.version
  packageVersion : ∀ series ∈ hub.packages, ∀ v ∈ series.versions, ValidVersion semver v.version

variable {semver}

theorem versions_of_yankRow {version reason : String} {versions : List (VersionRow M)}
    {v : VersionRow M} (listed : v ∈ yankRow version reason versions) :
    ∃ v' ∈ versions, v'.version = v.version := by
  rcases mem_of_mem_update listed with before | ⟨v', before, rfl⟩
  · exact ⟨v, before, rfl⟩
  · exact ⟨v', before, rfl⟩

omit [LinearOrder V] in
theorem HubStore.Checked.updateRow {hub : HubStore M} (checked : hub.Checked semver)
    {envType : String} {f : Env M → Env M} (name : ∀ env, (f env).envType = env.envType)
    (versions : ∀ env ∈ hub.envs, ∀ v ∈ (f env).versions, ValidVersion semver v.version) :
    (hub.updateRow envType f).Checked semver where
  envType := by
    intro env member
    rcases mem_of_mem_update member with before | ⟨env', before, rfl⟩
    · exact checked.envType env before
    · exact name env' ▸ checked.envType env' before
  envVersion := by
    intro env member
    rcases mem_of_mem_update member with before | ⟨env', before, rfl⟩
    · exact checked.envVersion env before
    · exact versions env' before
  packageVersion := checked.packageVersion

variable {ts : Nat} {write : Write M}

theorem HubStore.Checked.publishSeries {hub : HubStore M} (checked : hub.Checked semver)
    {kind id : String} {publisher description : Option String} {nv : NewVersion M}
    (valid : ValidVersion semver nv.version) {table : List (Series M)}
    (published : Hub.publishSeries semver kind id publisher description nv ts hub.packages =
      .ok table) : ∀ series ∈ table, ∀ v ∈ series.versions, ValidVersion semver v.version := by
  unfold Hub.publishSeries at published
  split at published
  · split at published
    · cases published
    cases published
    intro series member v listed
    rcases mem_of_mem_update member with before | ⟨series', before, rfl⟩
    · exact checked.packageVersion series before v listed
    · rcases List.mem_append.mp listed with old | new
      · exact checked.packageVersion series' before v old
      · obtain rfl := List.mem_singleton.mp new
        exact valid
  · cases published
    intro series member v listed
    rcases List.mem_append.mp member with before | new
    · exact checked.packageVersion series before v listed
    · obtain rfl := List.mem_singleton.mp new
      obtain rfl := List.mem_singleton.mp listed
      exact valid

theorem HubStore.Checked.run {hub hub' : HubStore M} (checked : hub.Checked semver)
    (valid : write.Checked semver) (ran : write.run semver ts hub = .ok hub') :
    hub'.Checked semver := by
  cases write with
  | insertEnv =>
    simp only [Write.run] at ran
    split at ran
    · cases ran
    cases ran
    refine ⟨?_, ?_, checked.packageVersion⟩
    · intro env member
      rcases List.mem_append.mp member with before | new
      · exact checked.envType env before
      · obtain rfl := List.mem_singleton.mp new
        exact valid
    · intro env member v listed
      rcases List.mem_append.mp member with before | new
      · exact checked.envVersion env before v listed
      · obtain rfl := List.mem_singleton.mp new
        exact absurd listed List.not_mem_nil
  | resurrectEnv =>
    cases ran
    exact checked.updateRow (fun _ => rfl) checked.envVersion
  | updateEnv =>
    cases ran
    exact checked.updateRow (fun _ => rfl) checked.envVersion
  | softDeleteEnv =>
    cases ran
    exact checked.updateRow (fun _ => rfl) checked.envVersion
  | publishVersion =>
    simp only [Write.run, HubStore.insertVersion] at ran
    split at ran
    · cases ran
    split at ran
    · cases ran
    cases ran
    refine checked.updateRow (fun _ => rfl) ?_
    intro env member v listed
    rcases List.mem_append.mp listed with old | new
    · exact checked.envVersion env member v old
    · obtain rfl := List.mem_singleton.mp new
      exact valid
  | yankVersion =>
    simp only [Write.run, HubStore.yankVersion] at ran
    split at ran
    · cases ran
    cases ran
    refine checked.updateRow (fun _ => rfl) ?_
    intro env member v listed
    obtain ⟨v', before, same⟩ := versions_of_yankRow listed
    exact same ▸ checked.envVersion env member v' before
  | publishPackage =>
    obtain ⟨table, published, done⟩ := Fallible.bind_eq_ok.mp ran
    cases done
    exact { checked with packageVersion := checked.publishSeries valid published }
  | publishStack =>
    obtain ⟨table, published, done⟩ := Fallible.bind_eq_ok.mp ran
    cases done
    exact { checked with }
  | yankStack =>
    obtain ⟨table, yanked, done⟩ := Fallible.bind_eq_ok.mp ran
    cases done
    exact { checked with }

omit [LinearOrder V] in
theorem Request.check_checked {hub : HubStore M} {request : Request M}
    (accepted : (HubLabel.start request).Accepted) (passed : request.check semver hub = .ok write) :
    write.Checked semver := by
  have valid : ∀ {version : String} {u : Unit},
      normalize semver version = .ok u → ValidVersion semver version := by
    intro version u fine
    unfold normalize at fine
    split at fine
    · next v parsed => exact ⟨v, parsed⟩
    · cases fine
  cases request with
  | createEnv =>
    simp only [Request.check] at passed
    split at passed
    · split at passed
      · cases passed
        trivial
      · cases passed
    · cases passed
      exact accepted
  | publishVersionGated =>
    obtain ⟨env, _, passed⟩ := Fallible.bind_eq_ok.mp passed
    split at passed
    · cases passed
    obtain ⟨_, fine, passed⟩ := Fallible.bind_eq_ok.mp passed
    cases passed
    exact valid fine
  | publishPackage =>
    obtain ⟨_, fine, passed⟩ := Fallible.bind_eq_ok.mp passed
    cases passed
    exact valid fine
  | updateEnv | softDeleteEnv | yankVersion | publishStack | yankStack =>
    obtain ⟨_, _, passed⟩ := Fallible.bind_eq_ok.mp passed
    cases passed
    trivial

/-- The tables and the calls in progress have passed their checks. -/
structure HubWorld.Checked (semver : Semver V) (w : HubWorld M) : Prop where
  hub : w.hub.Checked semver
  calls : ∀ call ∈ w.calls, call.write.Checked semver

theorem HubWorld.Checked.step {w w' : HubWorld M} {a : HubLabel M} (checked : w.Checked semver)
    (accepted : a.Accepted) (taken : w.step semver a = some w') : w'.Checked semver := by
  refine ⟨?_, ?_⟩
  · rcases HubWorld.step_cases taken with same | ⟨i, write, ts, rfl, called, ran⟩
    · exact same ▸ checked.hub
    · exact checked.hub.run (checked.calls _ (List.mem_of_getElem? called)) ran
  · cases a with
    | tick =>
      cases taken
      exact checked.calls
    | start request =>
      simp only [HubWorld.step] at taken
      split at taken
      · next write passed =>
        cases taken
        intro call member
        rcases List.mem_append.mp member with before | new
        · exact checked.calls call before
        · obtain rfl := List.mem_singleton.mp new
          exact Request.check_checked accepted passed
      · cases taken
        exact checked.calls
    | stamp i =>
      simp only [HubWorld.step] at taken
      split at taken
      · next write called =>
        cases taken
        intro call member
        rcases List.mem_or_eq_of_mem_set member with before | rfl
        · exact checked.calls call before
        · have before := checked.calls _ (List.mem_of_getElem? called)
          exact before
      · cases taken
    | commit i =>
      simp only [HubWorld.step, HubWorld.commit] at taken
      split at taken
      · split at taken <;>
        · cases taken
          exact fun call member => checked.calls call (List.mem_of_mem_eraseIdx member)
      · cases taken
    | rollback i =>
      cases taken
      exact fun call member => checked.calls call (List.mem_of_mem_eraseIdx member)

theorem HubStore.Checked.reachable {w : HubWorld M}
    (reached : ReachableWhen (hubSystem semver) (fun _ a => a.Accepted) w) :
    w.hub.Checked semver := by
  have whole : w.Checked semver := by
    apply ReachableWhen.invariant (motive := fun w => w.Checked semver) ?_ ?_ reached
    · rintro w ⟨empty, idle⟩
      refine ⟨?_, fun call member => absurd (idle ▸ member) List.not_mem_nil⟩
      rw [empty]
      exact ⟨fun _ member => absurd member List.not_mem_nil,
        fun _ member => absurd member List.not_mem_nil,
        fun _ member => absurd member List.not_mem_nil⟩
    · intro w a w' _ checked accepted taken
      exact checked.step accepted taken
  exact whole.hub

end Accepted

/-! ### What is resolved -/

section Pinned

/-- The role, the version and the digest of a component that `resolve_stack` has pinned. -/
structure ResolvedComponent.Pinned (c : ResolvedComponent) : Prop where
  resolved : ValidVersion reader.semver c.resolved
  digest : c.role = "task_env" ∧ c.digest = none ∧ validEnvType c.id ∨
    (c.role = "agent_scaffold" ∨ c.role = "env_package") ∧
      ∃ content, c.digest = some (reader.bundleDigest content)

variable {reader}

omit [LinearOrder V] in
theorem getManifest_valid {hub : HubStore M} (checked : hub.Checked reader.semver)
    {envType version : String} {manifest : FullManifest M}
    (found : hub.getManifest envType version = .ok manifest) :
    ValidVersion reader.semver manifest.version.version := by
  obtain ⟨env, required, found⟩ := Fallible.bind_eq_ok.mp found
  split at found
  · next v stored =>
    cases found
    unfold HubStore.requireEnvRow at required
    split at required
    · next env' row =>
      cases required
      exact checked.envVersion _ (mem_of_lookup (findEnvRow_eq_some row).1) v (mem_of_lookup stored)
    · cases required
  · cases found

omit [LinearOrder V] in
theorem getPackageManifest_valid {hub : HubStore M} (checked : hub.Checked reader.semver)
    {id version : String} {row : VersionRow M}
    (found : hub.getPackageManifest id version = .ok row) :
    ValidVersion reader.semver row.version := by
  obtain ⟨series, required, found⟩ := Fallible.bind_eq_ok.mp found
  have stored : row ∈ series.versions := by
    dsimp only at found
    split at found
    · split at found
      · rw [Fallible.ok_bind] at found
        split at found
        · next stored =>
          cases found
          exact mem_of_lookup stored
        · cases found
      · cases found
    · rw [Fallible.ok_bind] at found
      split at found
      · next stored =>
        cases found
        exact mem_of_lookup stored
      · cases found
  unfold requireSeries at required
  split at required
  · next series' member =>
    cases required
    exact checked.packageVersion _ (mem_of_lookup member) row stored
  · cases required

omit [LinearOrder V] in
theorem requireEnvRow_valid {hub : HubStore M} (checked : hub.Checked reader.semver)
    {envType : String} {env : Env M} (required : hub.requireEnvRow envType = .ok env) :
    validEnvType envType := by
  unfold HubStore.requireEnvRow at required
  split at required
  · next env' row =>
    have found := (findEnvRow_eq_some row).1
    exact key_of_lookup found ▸ checked.envType env' (mem_of_lookup found)
  · cases required

theorem taskEnvComponent_pinned {hub : HubStore M} (checked : hub.Checked reader.semver)
    {ref : ComponentRef} {c : ResolvedComponent}
    (pinned : taskEnvComponent reader hub ref = .ok c) : c.Pinned reader := by
  obtain ⟨manifest, found, pinned⟩ := Fallible.bind_eq_ok.mp pinned
  cases pinned
  have both : ValidVersion reader.semver manifest.version.version ∧ validEnvType ref.id := by
    unfold HubStore.taskEnvManifest at found
    split at found
    · obtain ⟨_, required, found⟩ := Fallible.bind_eq_ok.mp found
      split at found
      · exact ⟨getManifest_valid checked found, requireEnvRow_valid checked required⟩
      · cases found
    · obtain ⟨_, required, found⟩ := Fallible.bind_eq_ok.mp found
      obtain ⟨_, _, found⟩ := Fallible.bind_eq_ok.mp found
      split at found
      · exact ⟨getManifest_valid checked found, requireEnvRow_valid checked required⟩
      · cases found
  exact ⟨both.1, .inl ⟨rfl, rfl, both.2⟩⟩

variable {components : List ResolvedComponent} {reads : Nat → HubStore M}

theorem scaffoldComponents_pinned {hub : HubStore M} (checked : hub.Checked reader.semver)
    {ref : Option ComponentRef} (pinned : scaffoldComponents reader hub ref = .ok components) :
    ∀ c ∈ components, c.Pinned reader := by
  cases ref with
  | none =>
    cases pinned
    exact fun _ listed => absurd listed List.not_mem_nil
  | some =>
    obtain ⟨row, found, pinned⟩ := Fallible.bind_eq_ok.mp pinned
    cases pinned
    intro c listed
    obtain rfl := List.mem_singleton.mp listed
    refine ⟨?_, .inr ⟨.inl rfl, row.content, rfl⟩⟩
    obtain ⟨_, _, found⟩ := Fallible.bind_eq_ok.mp found
    obtain ⟨_, _, found⟩ := Fallible.bind_eq_ok.mp found
    exact getPackageManifest_valid checked found

omit [LinearOrder V] in
theorem packageComponent_pinned {hub : HubStore M} (checked : hub.Checked reader.semver)
    {ref : String} {c : ResolvedComponent} (pinned : packageComponent reader hub ref = .ok c) :
    c.Pinned reader := by
  unfold packageComponent at pinned
  split at pinned
  · cases pinned
  · obtain ⟨row, found, pinned⟩ := Fallible.bind_eq_ok.mp pinned
    cases pinned
    exact ⟨getPackageManifest_valid checked found, .inr ⟨.inr rfl, row.content, rfl⟩⟩

omit [LinearOrder V] in
theorem packageComponents_pinned (checked : ∀ k, (reads k).Checked reader.semver)
    {refs : List String} {k : Nat}
    (pinned : packageComponents reader reads k refs = .ok components) :
    ∀ c ∈ components, c.Pinned reader := by
  induction refs generalizing k components with
  | nil =>
    cases pinned
    exact fun _ listed => absurd listed List.not_mem_nil
  | cons ref refs ih =>
    obtain ⟨first, here, pinned⟩ := Fallible.bind_eq_ok.mp pinned
    obtain ⟨rest, later, pinned⟩ := Fallible.bind_eq_ok.mp pinned
    cases pinned
    intro c listed
    rcases List.mem_cons.mp listed with rfl | listed
    · exact packageComponent_pinned (checked k) here
    · exact ih later c listed

theorem resolveStack_pinned (checked : ∀ k, (reads k).Checked reader.semver)
    {stackId version : String}
    (resolved : resolveStack reader reads stackId version = .ok components) :
    ∀ c ∈ components, c.Pinned reader := by
  obtain ⟨row, _, resolved⟩ := Fallible.bind_eq_ok.mp resolved
  split at resolved
  · cases resolved
  obtain ⟨env, envPinned, resolved⟩ := Fallible.bind_eq_ok.mp resolved
  obtain ⟨scaffold, scaffoldPinned, resolved⟩ := Fallible.bind_eq_ok.mp resolved
  obtain ⟨packages, packagesPinned, resolved⟩ := Fallible.bind_eq_ok.mp resolved
  cases resolved
  intro c listed
  rcases List.mem_cons.mp listed with rfl | listed
  · exact taskEnvComponent_pinned (checked 1) envPinned
  rcases List.mem_append.mp listed with inScaffold | inPackages
  · exact scaffoldComponents_pinned (checked 2) scaffoldPinned c inScaffold
  · exact packageComponents_pinned checked packagesPinned c inPackages

end Pinned

/-! ### Lines -/

section Text

/-- No line feed and no separator. -/
def Clean (text : List Char) : Prop := '\n' ∉ text ∧ unitSeparator ∉ text

/-- Versions and digests are written without control characters. -/
structure StackReader.Plain : Prop where
  version : ∀ raw, ValidVersion reader.semver raw → Clean raw.toList
  digest : ∀ content, Clean (reader.bundleDigest content).toList

def stackRoles : List String := ["task_env", "agent_scaffold", "env_package"]

/-- An id that holds, after an id `p`, a version and a digest, the start of another line. -/
def Forged (id : String) : Prop :=
  ∃ p version content role rest, ValidVersion reader.semver version ∧ role ∈ stackRoles ∧
    id.toList = p ++ unitSeparator :: (version.toList ++ unitSeparator ::
      ((reader.bundleDigest content).toList ++ '\n' :: (role.toList ++ rest))) ∧
    (rest = [] ∨ ∃ q, rest = unitSeparator :: q)

variable {reader} {c c' next : ResolvedComponent}

omit [LinearOrder V]

theorem clean_role : ∀ role ∈ stackRoles, '\n' ∉ role.toList ∧ unitSeparator ∉ role.toList := by
  decide

theorem clean_envType {envType : String} (valid : validEnvType envType) : Clean envType.toList := by
  simp only [validEnvType, Bool.and_eq_true] at valid
  have chars := List.all_eq_true.mp valid.2
  refine ⟨fun held => ?_, fun held => ?_⟩
  · exact absurd (chars _ held) (by decide)
  · exact absurd (chars _ held) (by decide)

namespace ResolvedComponent.Pinned

section

variable (pinned : c.Pinned reader)
include pinned

theorem role : c.role ∈ stackRoles := by
  rcases pinned.digest with ⟨same, _⟩ | ⟨same | same, _⟩ <;> simp [same, stackRoles]

theorem cleanDigest (plain : reader.Plain) : Clean (c.digest.getD "").toList := by
  rcases pinned.digest with ⟨_, none, _⟩ | ⟨_, content, same⟩
  · rw [none]
    exact ⟨List.not_mem_nil, List.not_mem_nil⟩
  · rw [same]
    exact plain.digest content

theorem pin_eq (pinned' : c'.Pinned reader) (plain : reader.Plain)
    (same : componentLine c = componentLine c') : c.pin = c'.pin := by
  obtain ⟨role, rest⟩ := first_inj (clean_role _ pinned.role).2 (clean_role _ pinned'.role).2 same
  have role : c.role = c'.role := String.toList_inj.mp role
  have rest : (c.id.toList ++ unitSeparator :: c.resolved.toList) ++ unitSeparator ::
      (c.digest.getD "").toList = (c'.id.toList ++ unitSeparator :: c'.resolved.toList) ++
        unitSeparator :: (c'.digest.getD "").toList := by simpa using rest
  obtain ⟨front, digest⟩ :=
    last_inj (pinned.cleanDigest plain).2 (pinned'.cleanDigest plain).2 rest
  obtain ⟨id, resolved⟩ := last_inj (plain.version _ pinned.resolved).2
    (plain.version _ pinned'.resolved).2 front
  have digest : c.digest = c'.digest := by
    have text : c.digest.getD "" = c'.digest.getD "" := String.toList_inj.mp digest
    rcases pinned.digest with ⟨env, none, _⟩ | ⟨package, content, some⟩ <;>
      rcases pinned'.digest with ⟨env', none', _⟩ | ⟨package', content', some'⟩
    · rw [none, none']
    · rw [← role, env] at package'
      exact absurd package' (by decide)
    · rw [role, env'] at package
      exact absurd package (by decide)
    · rw [some, some'] at text ⊢
      exact congrArg Option.some text
  rw [pin, pin, role, String.toList_inj.mp id, String.toList_inj.mp resolved, digest]

/-- A line that cuts another one and runs on with a third is forged by the id of the other. -/
theorem forged_of_cuts (pinned' : c'.Pinned reader) (pinnedNext : next.Pinned reader)
    (plain : reader.Plain)
    (cuts : Cuts '\n' (componentLine c) (componentLine next) (componentLine c')) :
    c'.role ≠ "task_env" ∧ Forged reader c'.id := by
  obtain ⟨tail, split, r, r', start⟩ := cuts
  have apart : unitSeparator ≠ '\n' := by decide
  rw [componentLine, componentLine, List.append_assoc, List.cons_append] at split
  obtain ⟨role, fields⟩ :=
    first_inj (clean_role _ pinned'.role).2 (clean_role _ pinned.role).2 split
  have role : c'.role = c.role := String.toList_inj.mp role
  -- the fields after the id hold no line feed, so the cut is inside the id
  have late : '\n' ∉ unitSeparator :: (c'.resolved.toList ++ unitSeparator ::
      (c'.digest.getD "").toList) := by
    have version := (plain.version _ pinned'.resolved).1
    have digest := (pinned'.cleanDigest plain).1
    simp only [List.mem_cons, List.mem_append, not_or]
    exact ⟨apart.symm, version, apart.symm, digest⟩
  have fields : c'.id.toList ++ unitSeparator :: (c'.resolved.toList ++ unitSeparator ::
      (c'.digest.getD "").toList) = (c.id.toList ++ unitSeparator :: (c.resolved.toList ++
        unitSeparator :: (c.digest.getD "").toList)) ++ '\n' :: tail := by
    simpa using fields
  rcases List.append_eq_append_iff.mp fields with ⟨more, _, ends⟩ | ⟨more, held, ends⟩
  · exact absurd (ends ▸ List.mem_append_right _ List.mem_cons_self) late
  cases more with
  | nil => exact absurd (List.cons.inj ends).1.symm apart
  | cons a more =>
    obtain ⟨rfl, rest⟩ := List.cons.inj ends
    have tailEq : tail = more ++ unitSeparator :: (c'.resolved.toList ++ unitSeparator ::
      (c'.digest.getD "").toList) := rest
    have notEnv : c'.role ≠ "task_env" := by
      intro env
      rcases pinned'.digest with ⟨_, _, valid⟩ | ⟨package, _⟩
      · have inside : '\n' ∈ c'.id.toList := by
          rw [held]
          exact List.mem_append_right _ List.mem_cons_self
        exact (clean_envType valid).1 inside
      · rw [env] at package
        exact absurd package (by decide)
    obtain ⟨content, digest⟩ : ∃ content, c.digest = some (reader.bundleDigest content) := by
      rcases pinned.digest with ⟨env, _⟩ | ⟨_, package⟩
      · exact absurd (role.trans env) notEnv
      · exact package
    -- the rest of the id is the start of the next line
    rw [componentLine, tailEq, List.append_assoc, List.append_assoc, List.cons_append,
      List.cons_append] at start
    obtain ⟨start, more, ends⟩ := starts_with (clean_role _ pinnedNext.role).2 start
    refine ⟨notEnv, c.id.toList, c.resolved, content, next.role, start, pinned.resolved,
      pinnedNext.role, ?_, ends⟩
    rw [held, digest, more]
    simp

end

end ResolvedComponent.Pinned

/-- No package id among the components holds the start of another line. -/
def Honest (reader : StackReader M V) (components : List ResolvedComponent) : Prop :=
  ∀ c ∈ components, c.role ≠ "task_env" → ¬Forged reader c.id

variable {components components' : List ResolvedComponent}

theorem digestInput_congr
    (same : (components.map componentLine).Perm (components'.map componentLine)) :
    digestInput components = digestInput components' := by
  have trans : ∀ a b c, lineLe a b → lineLe b c → lineLe a c := fun a b c ab bc =>
    decide_eq_true (le_trans (of_decide_eq_true ab) (of_decide_eq_true bc))
  have total : ∀ a b, lineLe a b || lineLe b a := fun a b => by simpa [lineLe] using le_total a b
  have sorted := List.pairwise_mergeSort trans total
  rw [digestInput, digestInput]
  congr 1
  exact (((List.mergeSort_perm ..).trans same).trans (List.mergeSort_perm ..).symm).eq_of_pairwise
    (fun a b _ _ ab ba => le_antisymm (of_decide_eq_true ab) (of_decide_eq_true ba))
    (sorted _) (sorted _)

theorem lines_of_digestInput (plain : reader.Plain) (pinned : ∀ c ∈ components, c.Pinned reader)
    (pinned' : ∀ c ∈ components', c.Pinned reader) (honest : Honest reader components)
    (honest' : Honest reader components')
    (same : digestInput components = digestInput components') :
    (components.map componentLine).Perm (components'.map componentLine) := by
  have line : ∀ {cs : List ResolvedComponent} {l : List Char},
      l ∈ (cs.map componentLine).mergeSort lineLe →
        ∃ c ∈ cs, componentLine c = l := fun listed =>
    List.mem_map.mp (List.mem_mergeSort.mp listed)
  have whole : ∀ {cs cs' : List ResolvedComponent}, (∀ c ∈ cs, c.Pinned reader) →
      (∀ c ∈ cs', c.Pinned reader) → Honest reader cs' →
      ∀ l ∈ (cs.map componentLine).mergeSort lineLe,
      ∀ next ∈ (cs.map componentLine).mergeSort lineLe,
      ∀ longer ∈ (cs'.map componentLine).mergeSort lineLe,
        ¬Cuts '\n' l next longer := by
    intro cs cs' pinned pinned' honest l listed next listedNext longer listed' cuts
    obtain ⟨c, member, rfl⟩ := line listed
    obtain ⟨d, memberNext, rfl⟩ := line listedNext
    obtain ⟨e, member', rfl⟩ := line listed'
    obtain ⟨package, forged⟩ := (pinned c member).forged_of_cuts (pinned' e member')
      (pinned d memberNext) plain cuts
    exact honest e member' package forged
  have sorted := unlines_inj (whole pinned pinned' honest') (whole pinned' pinned honest) same
  have back := List.mergeSort_perm (components'.map componentLine) lineLe
  rw [← sorted] at back
  exact (List.mergeSort_perm ..).symm.trans back

theorem exists_pin_of_line (plain : reader.Plain) :
    ∃ f : List Char → String × String × String × Option String,
      ∀ c : ResolvedComponent, c.Pinned reader → f (componentLine c) = c.pin := by
  classical
  refine ⟨fun l => if known : ∃ c : ResolvedComponent, c.Pinned reader ∧ componentLine c = l then
    known.choose.pin else default, ?_⟩
  intro c pinned
  have known : ∃ c' : ResolvedComponent, c'.Pinned reader ∧ componentLine c' = componentLine c :=
    ⟨c, pinned, rfl⟩
  dsimp only
  rw [dif_pos known]
  exact known.choose_spec.1.pin_eq pinned plain known.choose_spec.2

theorem stackDigest_iff {D : Type} {sha : List Char → D} (collisionFree : Function.Injective sha)
    (plain : reader.Plain) (pinned : ∀ c ∈ components, c.Pinned reader)
    (pinned' : ∀ c ∈ components', c.Pinned reader) (honest : Honest reader components)
    (honest' : Honest reader components') :
    stackDigest sha components = stackDigest sha components' ↔
      (components.map ResolvedComponent.pin).Perm (components'.map ResolvedComponent.pin) := by
  constructor
  · intro same
    have lines := lines_of_digestInput plain pinned pinned' honest honest' (collisionFree same)
    obtain ⟨f, pin⟩ := exists_pin_of_line plain
    have pins : ∀ cs : List ResolvedComponent, (∀ c ∈ cs, c.Pinned reader) →
        (cs.map componentLine).map f = cs.map ResolvedComponent.pin := by
      intro cs pinned
      rw [List.map_map]
      exact List.map_congr_left fun c member => pin c (pinned c member)
    rw [← pins components pinned, ← pins components' pinned']
    exact lines.map f
  · intro same
    let line := fun pin : String × String × String × Option String =>
      componentLine ⟨pin.1, pin.2.1, "", pin.2.2.1, pin.2.2.2⟩
    have lines : ∀ cs : List ResolvedComponent,
        (cs.map ResolvedComponent.pin).map line = cs.map componentLine := by
      intro cs
      rw [List.map_map]
      rfl
    have perm := same.map line
    rw [lines, lines] at perm
    exact congrArg sha (digestInput_congr perm)

end Text

section Runs

variable {reader}

/-- Two stacks that are resolved in runs of accepted calls have one digest if and only if they are
pinned to the same components, as long as no package id holds the start of another line. -/
theorem stackDigest_identifies {D : Type} {sha : List Char → D}
    (collisionFree : Function.Injective sha) (plain : reader.Plain)
    {reads reads' : Nat → HubWorld M}
    (reached : ∀ k, ReachableWhen (hubSystem reader.semver) (fun _ a => a.Accepted) (reads k))
    (reached' : ∀ k, ReachableWhen (hubSystem reader.semver) (fun _ a => a.Accepted) (reads' k))
    {stackId version stackId' version' : String} {components components' : List ResolvedComponent}
    (resolved : resolveStack reader (fun k => (reads k).hub) stackId version = .ok components)
    (resolved' : resolveStack reader (fun k => (reads' k).hub) stackId' version' = .ok components')
    (honest : Honest reader components) (honest' : Honest reader components') :
    stackDigest sha components = stackDigest sha components' ↔
      (components.map ResolvedComponent.pin).Perm (components'.map ResolvedComponent.pin) :=
  stackDigest_iff collisionFree plain
    (resolveStack_pinned (fun k => HubStore.Checked.reachable (reached k)) resolved)
    (resolveStack_pinned (fun k => HubStore.Checked.reachable (reached' k)) resolved')
    honest honest'

end Runs

/-! ### Three stacks -/

/-- What the rows of the example hold. -/
inductive Stored
  | env
  | packageA
  | packageB
  | stack (envPackages : List String)
  deriving DecidableEq

/-- The version `1.0.0` and the digests of the two packages. -/
def storedReader : StackReader Stored Nat where
  semver :=
    { parse := fun raw => if raw = "1.0.0" then some 0 else none
      render := fun _ => "1.0.0"
      isRelease := fun _ => true }
  parseConstraint := fun _ => some fun _ => true
  bundleDigest
    | .packageA => "sha256:aa"
    | _ => "sha256:bb"
  stackManifest
    | .stack envPackages => ⟨⟨"qa", "1.0.0"⟩, none, envPackages⟩
    | _ => ⟨⟨"", ""⟩, none, []⟩

/-- The id that holds the line of `a` and the start of the line of `b`. -/
def forgedId : String := "a\x1f1.0.0\x1fsha256:aa\nenv_package\x1fb"

def publishOnce (request : Request Stored) : List (HubLabel Stored) :=
  [.start request, .stamp 0, .commit 0]

/-- The packages `a`, `b` and the forged one, and stacks of `a` and `b`, of `b` and `a`, and of the
forged one. -/
def stackRequests : List (Request Stored) :=
  [.createEnv { envType := "qa", envNamespace := "default" },
    .publishVersionGated "qa" { version := "1.0.0", content := .env } none {},
    .publishPackage "a" none none { version := "1.0.0", content := .packageA },
    .publishPackage "b" none none { version := "1.0.0", content := .packageB },
    .publishPackage forgedId none none { version := "1.0.0", content := .packageB },
    .publishStack "ab" none { version := "1.0.0", content := .stack ["a@1.0.0", "b@1.0.0"] },
    .publishStack "ba" none { version := "1.0.0", content := .stack ["b@1.0.0", "a@1.0.0"] },
    .publishStack "forged" none { version := "1.0.0", content := .stack [forgedId ++ "@1.0.0"] }]

def publishStacks : List (HubLabel Stored) := stackRequests.flatMap publishOnce

def pinnedEnv : ResolvedComponent := ⟨"task_env", "qa", "1.0.0", "1.0.0", none⟩

def pinnedA : ResolvedComponent := ⟨"env_package", "a", "1.0.0", "1.0.0", some "sha256:aa"⟩

def pinnedB : ResolvedComponent := ⟨"env_package", "b", "1.0.0", "1.0.0", some "sha256:bb"⟩

def pinnedForged : ResolvedComponent :=
  ⟨"env_package", forgedId, "1.0.0", "1.0.0", some "sha256:bb"⟩

theorem publishStacks_accepted : ∀ a ∈ publishStacks, a.Accepted := by
  intro a member
  obtain ⟨request, listed, member⟩ := List.mem_flatMap.mp member
  have accepted : (HubLabel.start request).Accepted := by
    simp only [stackRequests, List.mem_cons, List.not_mem_nil, or_false] at listed
    rcases listed with rfl | rfl | rfl | rfl | rfl | rfl | rfl | rfl
    · exact (by decide : validEnvType "qa" = true)
    · trivial
    · exact (by decide : acceptedPackageId "a" = true)
    · exact (by decide : acceptedPackageId "b" = true)
    · exact (by decide +kernel : acceptedPackageId forgedId = true)
    · trivial
    · trivial
    · trivial
  simp only [publishOnce, List.mem_cons, List.not_mem_nil, or_false] at member
  rcases member with rfl | rfl | rfl
  · exact accepted
  · trivial
  · trivial

theorem publishStacks_resolved : ∃ w,
    ReachableWhen (hubSystem storedReader.semver) (fun _ a => a.Accepted) w ∧
    resolveStack storedReader (fun _ => w.hub) "ab" "1.0.0" = .ok [pinnedEnv, pinnedA, pinnedB] ∧
    resolveStack storedReader (fun _ => w.hub) "ba" "1.0.0" = .ok [pinnedEnv, pinnedB, pinnedA] ∧
    resolveStack storedReader (fun _ => w.hub) "forged" "1.0.0" =
      .ok [pinnedEnv, pinnedForged] := by
  have resolved : ((hubSystem storedReader.semver).exec {} publishStacks).map (fun w =>
      (["ab", "ba", "forged"].map fun id =>
        (resolveStack storedReader (fun _ => w.hub) id "1.0.0").toOption)) =
      some [some [pinnedEnv, pinnedA, pinnedB], some [pinnedEnv, pinnedB, pinnedA],
        some [pinnedEnv, pinnedForged]] := by
    decide +kernel
  obtain ⟨w, ran, resolved⟩ := Option.map_eq_some_iff.mp resolved
  have reached := (ReachableWhen.start (⟨rfl, rfl⟩ : (hubSystem storedReader.semver).init
    ({} : HubWorld Stored))).of_exec publishStacks
    (System.along_of_forall publishStacks_accepted _) ran
  have value : ∀ {x : Except HubError (List ResolvedComponent)} {cs : List ResolvedComponent},
      x.toOption = some cs → x = .ok cs := by
    intro x cs same
    cases x with
    | error e => cases same
    | ok a => exact congrArg Except.ok (Option.some.inj same)
  simp only [List.map_cons, List.map_nil, List.cons.injEq, and_true] at resolved
  exact ⟨w, reached, value resolved.1, value resolved.2.1, value resolved.2.2⟩

theorem storedReader_plain : storedReader.Plain where
  version := by
    rintro raw ⟨v, parsed⟩
    simp only [storedReader] at parsed
    split at parsed
    · next same =>
      rw [same]
      exact ⟨by decide, by decide⟩
    · cases parsed
  digest content := by
    have both : '\n' ∉ "sha256:aa".toList ∧ unitSeparator ∉ "sha256:aa".toList ∧
        '\n' ∉ "sha256:bb".toList ∧ unitSeparator ∉ "sha256:bb".toList := by decide
    cases content with
    | packageA => exact ⟨both.1, both.2.1⟩
    | env | packageB | stack => exact ⟨both.2.2.1, both.2.2.2⟩

/-- The order of the packages is no part of the digest. -/
theorem stackDigest_identifies_reordered : ∃ (w : HubWorld Stored)
    (components components' : List ResolvedComponent),
    resolveStack storedReader (fun _ => w.hub) "ab" "1.0.0" = .ok components ∧
    resolveStack storedReader (fun _ => w.hub) "ba" "1.0.0" = .ok components' ∧
    components ≠ components' ∧ stackDigest id components = stackDigest id components' := by
  obtain ⟨w, reached, resolved, resolved', _⟩ := publishStacks_resolved
  have honest : ∀ c ∈ [pinnedEnv, pinnedA, pinnedB], '\n' ∉ c.id.toList := by decide
  have unforged : ∀ c : ResolvedComponent, '\n' ∉ c.id.toList → ¬Forged storedReader c.id := by
    rintro c clean ⟨p, version, content, role, rest, _, _, held, _⟩
    refine clean ?_
    rw [held]
    simp
  refine ⟨w, _, _, resolved, resolved', by decide, ?_⟩
  refine (stackDigest_identifies Function.injective_id storedReader_plain (fun _ => reached)
    (fun _ => reached) resolved resolved' (fun c member _ => unforged c (honest c member))
    (fun c member _ => unforged c (honest c ?_))).mpr (by decide)
  have perm : [pinnedEnv, pinnedB, pinnedA].Perm [pinnedEnv, pinnedA, pinnedB] := by decide
  exact perm.subset member

/-- Two packages and one with the forged id have one digest, whatever the hash. -/
theorem digest_forged : ∃ w components components',
    ReachableWhen (hubSystem storedReader.semver) (fun _ a => a.Accepted) w ∧
    resolveStack storedReader (fun _ => w.hub) "ab" "1.0.0" = .ok components ∧
    resolveStack storedReader (fun _ => w.hub) "forged" "1.0.0" = .ok components' ∧
    ¬(components.map ResolvedComponent.pin).Perm (components'.map ResolvedComponent.pin) ∧
    ∀ sha : List Char → List Char, stackDigest sha components = stackDigest sha components' := by
  obtain ⟨w, reached, resolved, _, resolved'⟩ := publishStacks_resolved
  refine ⟨w, _, _, reached, resolved, resolved', by decide, fun sha => congrArg sha ?_⟩
  have order : [pinnedA, pinnedB, pinnedEnv].Perm [pinnedEnv, pinnedA, pinnedB] := by decide
  have order' : [pinnedForged, pinnedEnv].Perm [pinnedEnv, pinnedForged] := by decide
  rw [← digestInput_congr (order.map componentLine), ← digestInput_congr (order'.map componentLine),
    digestInput, digestInput, List.mergeSort_of_pairwise (by decide),
    List.mergeSort_of_pairwise (by decide)]
  decide

end UEnv.Hub
