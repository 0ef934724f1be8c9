import UEnv.Hub.Latest

/-!
# Namespaces

The service layer of the environments: every request names a principal and is checked before the
store is called. `create_env` checks the namespace that the request asks for, the others the
namespace of the stored row. The rules of a request that can only refuse it are parameters.
-/

namespace UEnv.Hub

open Records Runs

inductive Role
  | admin
  | publisher
  | reader
  deriving DecidableEq

structure TokenInfo where
  id : Int
  role : Role
  namespaces : List String
  deriving DecidableEq

def canWriteNamespace (principal : TokenInfo) (envNamespace : String) : Bool :=
  match principal.role with
  | .admin => true
  | .publisher =>
    if principal.namespaces.isEmpty then envNamespace == "default"
    else principal.namespaces.any fun n => n == envNamespace || n == "*"
  | .reader => false

def ensureNamespace (principal : TokenInfo) (envNamespace : String) : Except HubError Unit :=
  if canWriteNamespace principal envNamespace then .ok ()
  else .error (.forbidden ("not allowed to modify namespace '" ++ envNamespace ++ "'"))

/-- `validate_env_type`. -/
def validEnvType (envType : String) : Bool :=
  !envType.isEmpty && envType.utf8ByteSize ≤ 128 &&
    envType.toList.all fun ch => ch.isLower || ch.isDigit || ch == '-' || ch == '_' || ch == '.'

/-- `CreateEnvRequest`; what it holds beside the namespace is in `newEnv`. -/
structure CreateEnvRequest where
  envNamespace : Option String
  newEnv : NewEnv

/-- `req.namespace.unwrap_or_else(|| "default".into())`. -/
def CreateEnvRequest.namespaceOrDefault (req : CreateEnvRequest) : String :=
  req.envNamespace.getD "default"

/-- `From<CreateEnvRequest> for NewEnv`. -/
def CreateEnvRequest.toNewEnv (req : CreateEnvRequest) : NewEnv :=
  { req.newEnv with envNamespace := req.namespaceOrDefault }

variable {M V : Type} [LinearOrder V]

/-- The rules that a request has to meet beside the namespace. -/
structure Rules (M : Type) where
  validatePublish : NewVersion M → Option RubricSpec → Bool
  checkDependencies : HubStore M → String → NewVersion M → Bool
  validateYankReason : String → Bool

/-- A request to the service layer. -/
inductive ServiceRequest (M : Type)
  | createEnv (req : CreateEnvRequest)
  | updateEnv (envType : String) (patch : EnvPatch)
  | publishVersion (envType : String) (nv : NewVersion M) (rubric : Option RubricSpec)
  | yankVersion (envType version reason : String)
  | deleteEnv (envType : String)

/-- `find_env_row` and `ensure_namespace` of its namespace. -/
def HubStore.ensureRow (hub : HubStore M) (principal : TokenInfo) (envType : String) :
    Except HubError Unit :=
  match hub.findEnvRow envType with
  | none => .error (.notFound "env" envType)
  | some env => ensureNamespace principal env.envNamespace

/-- What the service layer checks, and the call of the store it goes on with. -/
def ServiceRequest.authorize (rules : Rules M) (hub : HubStore M) (principal : TokenInfo) :
    ServiceRequest M → Except HubError (Request M)
  | createEnv req => do
    ensureNamespace principal req.namespaceOrDefault
    if validEnvType req.newEnv.envType then .ok (.createEnv req.toNewEnv)
    else .error .schemaValidation
  | updateEnv envType patch => do
    hub.ensureRow principal envType
    .ok (.updateEnv envType patch)
  | publishVersion envType nv rubric => do
    hub.ensureRow principal envType
    if rules.validatePublish nv rubric && rules.checkDependencies hub envType nv then
      let publishedBy := if principal.id ≠ 0 then some principal.id else none
      .ok (.publishVersionGated envType { nv with publishedBy } rubric {})
    else .error .schemaValidation
  | yankVersion envType version reason => do
    hub.ensureRow principal envType
    if rules.validateYankReason reason then .ok (.yankVersion envType version reason)
    else .error .schemaValidation
  | deleteEnv envType => do
    hub.ensureRow principal envType
    .ok (.softDeleteEnv envType)

/-- A request that comes in at the second `ts`; `fails` if the database fails before the commit. -/
structure Submission (M : Type) where
  principal : TokenInfo
  request : ServiceRequest M
  ts : Nat := 0
  fails : Bool := false

/-- The request from its checks to the commit. -/
def Submission.serve (semver : Semver V) (rules : Rules M) (hub : HubStore M)
    (s : Submission M) : Except HubError (HubStore M) := do
  let request ← s.request.authorize rules hub s.principal
  let write ← request.check semver hub
  if s.fails then .error .database else write.run semver s.ts hub

/-- The tables after a request. -/
def Submission.apply (semver : Semver V) (rules : Rules M) (hub : HubStore M)
    (s : Submission M) : HubStore M :=
  match s.serve semver rules hub with
  | .ok hub' => hub'
  | .error _ => hub

/-- Requests one after the other. -/
def service (semver : Semver V) (rules : Rules M) : System (HubStore M) (Submission M) where
  init hub := hub = {}
  step hub s := some (s.apply semver rules hub)

/-! ### What a write leaves alone -/

/-- The environment that a write is about. -/
def Write.target : Write M → Option String
  | insertEnv newEnv | resurrectEnv newEnv => some newEnv.envType
  | updateEnv envType _ | softDeleteEnv envType | publishVersion envType _ _
  | yankVersion envType _ _ => some envType
  | publishPackage _ _ _ _ | publishStack _ _ _ | yankStack _ _ _ => none

variable {envType' : String} {f : Env M → Env M} {u : Unit}

theorem findEnvRowAny_updateRow {hub : HubStore M} {envType : String}
    (keeps : ∀ env, (f env).envType = env.envType) :
    (hub.updateRow envType f).findEnvRowAny envType' =
      if envType' = envType then (hub.findEnvRowAny envType').map f
      else hub.findEnvRowAny envType' :=
  lookup_update keeps

theorem findEnvRowAny_updateRow_of_ne {hub : HubStore M} {envType : String}
    (keeps : ∀ env, (f env).envType = env.envType) (other : envType' ≠ envType) :
    (hub.updateRow envType f).findEnvRowAny envType' = hub.findEnvRowAny envType' := by
  rw [findEnvRowAny_updateRow keeps, if_neg other]

theorem Write.frame {semver : Semver V} {hub hub' : HubStore M} {write : Write M} {ts : Nat}
    {envType : String} (ran : write.run semver ts hub = .ok hub')
    (other : write.target ≠ some envType) :
    hub'.findEnvRowAny envType = hub.findEnvRowAny envType := by
  have differ : ∀ target, write.target = some target → envType ≠ target := by
    rintro target about rfl
    exact other about
  cases write with
  | insertEnv newEnv =>
    unfold Write.run at ran
    cases found : hub.findEnvRowAny newEnv.envType with
    | some =>
      simp only [found] at ran
      cases ran
    | none =>
      simp only [found] at ran
      cases ran
      have fresh : lookup Env.envType envType [newEnv.insert (M := M) ts] = none := by
        rw [lookup_cons, lookup_nil]
        exact if_neg (Ne.symm (differ _ rfl))
      simp only [HubStore.findEnvRowAny, lookup_append, fresh, Option.or_none]
  | resurrectEnv =>
    cases ran
    exact findEnvRowAny_updateRow_of_ne (fun _ => rfl) (differ _ rfl)
  | updateEnv =>
    cases ran
    exact findEnvRowAny_updateRow_of_ne (fun _ => rfl) (differ _ rfl)
  | softDeleteEnv =>
    cases ran
    exact findEnvRowAny_updateRow_of_ne (fun _ => rfl) (differ _ rfl)
  | publishVersion =>
    simp only [Write.run, HubStore.insertVersion] at ran
    split at ran
    · cases ran
    · split at ran
      · cases ran
      · cases ran
        exact findEnvRowAny_updateRow_of_ne (fun _ => rfl) (differ _ rfl)
  | yankVersion =>
    simp only [Write.run, HubStore.yankVersion] at ran
    split at ran
    · cases ran
    · cases ran
      exact findEnvRowAny_updateRow_of_ne (fun _ => rfl) (differ _ rfl)
  | publishPackage =>
    obtain ⟨packages, _, done⟩ := Fallible.bind_eq_ok.mp ran
    cases done
    rfl
  | publishStack =>
    obtain ⟨table, _, done⟩ := Fallible.bind_eq_ok.mp ran
    cases done
    rfl
  | yankStack =>
    obtain ⟨table, _, done⟩ := Fallible.bind_eq_ok.mp ran
    cases done
    rfl

/-! ### Isolation -/

variable {semver : Semver V} {rules : Rules M} {hub hub' : HubStore M}

/-- `publish_version` and `yank_version` of the environment pass the check of the namespace. -/
def MayPublish (hub : HubStore M) (principal : TokenInfo) (envType : String) : Prop :=
  ∃ env, hub.findEnvRow envType = some env ∧
    canWriteNamespace principal env.envNamespace = true

/-- A request leaves the environments, live or soft-deleted, of the namespaces that its principal
may not write as they are, and the principal may not publish to them afterwards. -/
def Submission.Isolated (semver : Semver V) (rules : Rules M) (hub : HubStore M)
    (s : Submission M) : Prop :=
  ∀ envType env, hub.findEnvRowAny envType = some env →
    canWriteNamespace s.principal env.envNamespace = false →
    (s.apply semver rules hub).findEnvRowAny envType = some env ∧
      ¬MayPublish (s.apply semver rules hub) s.principal envType

/-- The request creates an environment whose `env_type` a soft-deleted row of a foreign namespace
has. -/
def Submission.TakesOver (hub : HubStore M) (s : Submission M) : Prop :=
  s.fails = false ∧ ∃ req, s.request = .createEnv req ∧
    canWriteNamespace s.principal req.namespaceOrDefault = true ∧
    validEnvType req.newEnv.envType = true ∧
    ∃ env, hub.findEnvRowAny req.newEnv.envType = some env ∧ env.isDeleted = true ∧
      canWriteNamespace s.principal env.envNamespace = false

theorem findEnvRow_eq_some {envType : String} {env : Env M}
    (found : hub.findEnvRow envType = some env) :
    hub.findEnvRowAny envType = some env ∧ env.isDeleted = false := by
  obtain ⟨found, live⟩ := Option.filter_eq_some_iff.mp found
  exact ⟨found, by simpa using live⟩

theorem ensureNamespace_eq_ok {principal : TokenInfo} {envNamespace : String}
    (ensured : ensureNamespace principal envNamespace = .ok u) :
    canWriteNamespace principal envNamespace = true := by
  unfold ensureNamespace at ensured
  split at ensured
  · assumption
  · cases ensured

theorem ensureRow_eq_ok {principal : TokenInfo} {envType : String}
    (ensured : hub.ensureRow principal envType = .ok u) : MayPublish hub principal envType := by
  unfold HubStore.ensureRow at ensured
  split at ensured
  · cases ensured
  · exact ⟨_, ‹_›, ensureNamespace_eq_ok ensured⟩

/-- What a request writes that goes through: the row of an environment its principal may publish
to, a new row, or the soft-deleted row of the `env_type` that is created. -/
inductive Submission.Writes (hub : HubStore M) (s : Submission M) : Write M → Prop
  | own {write : Write M} {envType : String} :
      write.target = some envType → MayPublish hub s.principal envType → s.Writes hub write
  | fresh {write : Write M} {envType : String} :
      write.target = some envType → hub.findEnvRowAny envType = none → s.Writes hub write
  | resurrect {req : CreateEnvRequest} {env : Env M} :
      s.request = .createEnv req →
      canWriteNamespace s.principal req.namespaceOrDefault = true →
      validEnvType req.newEnv.envType = true →
      hub.findEnvRowAny req.newEnv.envType = some env → env.isDeleted = true →
      s.Writes hub (.resurrectEnv req.toNewEnv)

theorem Submission.writes_of_serve {s : Submission M}
    (served : s.serve semver rules hub = .ok hub') :
    s.fails = false ∧ ∃ write, s.Writes hub write ∧ write.run semver s.ts hub = .ok hub' := by
  obtain ⟨request, authorized, served⟩ := Fallible.bind_eq_ok.mp served
  obtain ⟨write, checked, served⟩ := Fallible.bind_eq_ok.mp served
  split at served
  · cases served
  · rename_i commits
    refine ⟨by simpa using commits, write, ?_, served⟩
    cases kind : s.request with
    | createEnv req =>
      rw [kind] at authorized
      obtain ⟨_, ensured, authorized⟩ := Fallible.bind_eq_ok.mp authorized
      split at authorized
      · rename_i valid
        cases authorized
        simp only [Request.check] at checked
        split at checked
        · rename_i env found
          split at checked
          · rename_i deleted
            cases checked
            exact .resurrect kind (ensureNamespace_eq_ok ensured) valid found deleted
          · cases checked
        · rename_i absent
          cases checked
          exact .fresh rfl absent
      · cases authorized
    | updateEnv =>
      rw [kind] at authorized
      obtain ⟨_, ensured, authorized⟩ := Fallible.bind_eq_ok.mp authorized
      cases authorized
      obtain ⟨_, _, checked⟩ := Fallible.bind_eq_ok.mp checked
      cases checked
      exact .own rfl (ensureRow_eq_ok ensured)
    | publishVersion =>
      rw [kind] at authorized
      obtain ⟨_, ensured, authorized⟩ := Fallible.bind_eq_ok.mp authorized
      split at authorized
      · cases authorized
        obtain ⟨env, _, checked⟩ := Fallible.bind_eq_ok.mp checked
        split at checked
        · cases checked
        · obtain ⟨_, _, checked⟩ := Fallible.bind_eq_ok.mp checked
          cases checked
          exact .own rfl (ensureRow_eq_ok ensured)
      · cases authorized
    | yankVersion =>
      rw [kind] at authorized
      obtain ⟨_, ensured, authorized⟩ := Fallible.bind_eq_ok.mp authorized
      split at authorized
      · cases authorized
        obtain ⟨_, _, checked⟩ := Fallible.bind_eq_ok.mp checked
        cases checked
        exact .own rfl (ensureRow_eq_ok ensured)
      · cases authorized
    | deleteEnv =>
      rw [kind] at authorized
      obtain ⟨_, ensured, authorized⟩ := Fallible.bind_eq_ok.mp authorized
      cases authorized
      obtain ⟨_, _, checked⟩ := Fallible.bind_eq_ok.mp checked
      cases checked
      exact .own rfl (ensureRow_eq_ok ensured)

theorem Submission.unchanged (semver : Semver V) (rules : Rules M) {s : Submission M}
    (keeps : ¬s.TakesOver hub) {envType : String}
    {env : Env M} (found : hub.findEnvRowAny envType = some env)
    (foreign : canWriteNamespace s.principal env.envNamespace = false) :
    (s.apply semver rules hub).findEnvRowAny envType = some env := by
  unfold Submission.apply
  cases served : s.serve semver rules hub with
  | error e => exact found
  | ok =>
    obtain ⟨commits, write, writes, ran⟩ := writes_of_serve served
    refine (Write.frame ran ?_).trans found
    intro about
    cases writes with
    | own about' mayPublish =>
      obtain rfl := Option.some.inj (about.symm.trans about')
      obtain ⟨env', found', writable⟩ := mayPublish
      obtain rfl := Option.some.inj (found.symm.trans (findEnvRow_eq_some found').1)
      exact absurd writable (foreign ▸ Bool.false_ne_true)
    | fresh about' absent =>
      obtain rfl := Option.some.inj (about.symm.trans about')
      rw [found] at absent
      cases absent
    | resurrect kind writable valid found' deleted =>
      cases about
      obtain rfl := Option.some.inj (found.symm.trans found')
      exact keeps ⟨commits, _, kind, writable, valid, _, found', deleted, foreign⟩

theorem Submission.TakesOver.changes {s : Submission M} (takesOver : s.TakesOver hub) :
    ¬s.Isolated semver rules hub := by
  obtain ⟨commits, req, kind, writable, valid, env, found, deleted, foreign⟩ := takesOver
  intro isolated
  have served : s.serve semver rules hub =
      .ok (hub.updateRow req.toNewEnv.envType (req.toNewEnv.resurrect s.ts)) := by
    have known : hub.findEnvRowAny req.toNewEnv.envType = some env := found
    simp [Submission.serve, kind, ServiceRequest.authorize, ensureNamespace, writable, valid,
      Request.check, known, deleted, commits, Write.run]
  have unchanged := (isolated _ env found foreign).1
  rw [Submission.apply, served] at unchanged
  simp only [findEnvRowAny_updateRow (f := req.toNewEnv.resurrect s.ts) fun _ => rfl] at unchanged
  have same : req.newEnv.envType = req.toNewEnv.envType := rfl
  rw [if_pos same, found] at unchanged
  have revived := congrArg Env.isDeleted (Option.some.inj unchanged)
  rw [deleted] at revived
  cases revived

theorem Submission.isolated_iff_keeps {s : Submission M} :
    s.Isolated semver rules hub ↔ ¬s.TakesOver hub := by
  refine ⟨fun isolated takesOver => takesOver.changes isolated, ?_⟩
  intro keeps envType env found foreign
  have unchanged := Submission.unchanged semver rules keeps found foreign
  refine ⟨unchanged, ?_⟩
  rintro ⟨env', found', writable⟩
  obtain rfl := Option.some.inj (unchanged.symm.trans (findEnvRow_eq_some found').1)
  exact absurd writable (foreign ▸ Bool.false_ne_true)

/-- Every request of a run is isolated if and only if none of them takes a row over. -/
theorem isolated_iff (semver : Semver V) (rules : Rules M) (hub : HubStore M)
    (schedule : List (Submission M)) :
    (service semver rules).Along (fun hub s => s.Isolated semver rules hub) hub schedule ↔
      (service semver rules).Along (fun hub s => ¬s.TakesOver hub) hub schedule :=
  System.along_congr (motive := fun _ => True) (fun _ _ _ _ _ _ => trivial)
    (fun _ _ _ => Submission.isolated_iff_keeps) trivial schedule

/-! ### A takeover -/

/-- A publisher of one namespace. -/
def publisher (id : Int) (envNamespace : String) : TokenInfo :=
  { id, role := .publisher, namespaces := [envNamespace] }

/-- Rules that accept everything. -/
def noRules : Rules Unit where
  validatePublish _ _ := true
  checkDependencies _ _ _ := true
  validateYankReason _ := true

/-- A publisher of `math` creates an environment, publishes a version and deletes the environment;
a publisher of `code` creates it again. -/
def recreate : List (Submission Unit) :=
  [{ principal := publisher 1 "math"
     request := .createEnv ⟨some "math", { envType := "qa", envNamespace := "math" }⟩ },
   { principal := publisher 1 "math"
     request := .publishVersion "qa" { version := "1.0.0", content := () } none },
   { principal := publisher 1 "math", request := .deleteEnv "qa" },
   { principal := publisher 2 "code"
     request := .createEnv ⟨some "code", { envType := "qa", envNamespace := "code" }⟩ }]

theorem not_isolated : ¬∀ schedule : List (Submission Unit), (service twoVersions noRules).Along
      (fun hub s => s.Isolated twoVersions noRules hub) {} schedule := by
  intro isolated
  have along := (isolated_iff twoVersions noRules {} _).mp (isolated recreate)
  have ran : ((service twoVersions noRules).exec {} (recreate.take 3)).map
      (fun hub => (hub.findEnvRowAny "qa").map fun env =>
        (env.isDeleted, env.envNamespace)) = some (some (true, "math")) := by
    decide +kernel
  obtain ⟨hub, ran, row⟩ := Option.map_eq_some_iff.mp ran
  obtain ⟨env, found, row⟩ := Option.map_eq_some_iff.mp row
  obtain ⟨deleted, owner⟩ := Prod.mk.inj row
  refine (System.Along.last along ran) ⟨rfl, _, rfl, by decide, by decide, env, found, deleted, ?_⟩
  rw [owner]
  decide

end UEnv.Hub
