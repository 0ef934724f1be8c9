import UEnv.Hub.Namespaces

/-!
# Incremental sync

A consumer repeats `GET /envs?since=T`, where `T` is the `server_time` of the answer before. The
handler queries the tables and reads the clock after that, so a write may commit between the two,
and its timestamp is older than its commit.
-/

namespace UEnv.Hub

open Records Runs

variable {M V : Type}

/-- What the consumer files a manifest under. -/
def FullManifest.key (m : FullManifest M) : String × String :=
  (m.envType, m.version.version)

/-- The current manifest of a version of a live environment. -/
def HubStore.manifest (hub : HubStore M) (envType version : String) : Option (FullManifest M) :=
  (hub.findEnvRow envType).bind fun env =>
    (lookup VersionRow.version version env.versions).map env.assembleManifest

/-- The Hub and a consumer. `answer` is the result of a query whose `server_time` is not read yet;
`held` are the manifests of all answers so far, the newest first. -/
structure SyncWorld (M : Type) where
  world : HubWorld M := {}
  since : Nat := 0
  answer : Option (List (FullManifest M)) := none
  held : List (FullManifest M) := []

/-- The newest manifest that the consumer has of a version. -/
def SyncWorld.manifest (w : SyncWorld M) (envType version : String) : Option (FullManifest M) :=
  lookup FullManifest.key (envType, version) w.held

/-- A step of the Hub or of the consumer. -/
inductive SyncLabel (M : Type)
  | hub (a : HubLabel M)
  | query
  | serverTime
  -- the request fails and the consumer asks again
  | drop

section System

variable [LinearOrder V]

/-- One step. -/
def SyncWorld.step (semver : Semver V) (w : SyncWorld M) : SyncLabel M → Option (SyncWorld M)
  | .hub a => (w.world.step semver a).map fun world => { w with world }
  | .query =>
    match w.answer with
    | none => some { w with answer := some (w.world.hub.changedSince w.since) }
    | some _ => none
  | .serverTime =>
    match w.answer with
    | some manifests =>
      some { w with since := w.world.clock, answer := none, held := manifests ++ w.held }
    | none => none
  | .drop => some { w with answer := none }

/-- An empty Hub and a consumer that has asked nothing. -/
def syncSystem (semver : Semver V) : System (SyncWorld M) (SyncLabel M) where
  init w := w.world.hub = {} ∧ w.world.calls = [] ∧ w.since = 0 ∧ w.answer = none ∧ w.held = []
  step w a := w.step semver a

end System

/-- The step commits no write. -/
def SyncLabel.Still : SyncLabel M → Prop
  | hub (.commit _) => False
  | _ => True

/-- The step ends an answer. -/
def SyncLabel.isServerTime : SyncLabel M → Bool
  | serverTime => true
  | _ => false

/-! ### Writes in time -/

/-- What the consumer has once the answer on its way arrives. -/
def SyncWorld.view (w : SyncWorld M) (envType version : String) : Option (FullManifest M) :=
  lookup FullManifest.key (envType, version) (w.answer.getD [] ++ w.held)

/-- The consumer has no manifest of the environment, and none is on its way. -/
def SyncWorld.Unaware (w : SyncWorld M) (envType : String) : Prop :=
  ∀ m ∈ w.answer.getD [] ++ w.held, m.envType ≠ envType

/-- The environment has no version yet. -/
def HubStore.Empty (hub : HubStore M) (envType : String) : Prop :=
  ((hub.findEnvRowAny envType).all fun env => env.versions.isEmpty) = true

/-- No answer is between its query and its `server_time`, and the timestamp of the write is later
than the `server_time` that the next query starts from. -/
def SyncWorld.InTime (w : SyncWorld M) (ts : Nat) : Prop :=
  w.answer.isNone = true ∧ w.since < ts

/-- The consumer can learn of the write: it deletes an environment that the consumer has not seen,
it is in time, or the environment has no version for it to show in. -/
def SyncWorld.Seen (w : SyncWorld M) (ts : Nat) : Write M → Prop
  | .softDeleteEnv envType => w.Unaware envType
  | .insertEnv _ | .publishPackage _ _ _ _ | .publishStack _ _ _ | .yankStack _ _ _ => True
  | .resurrectEnv newEnv => w.InTime ts ∨ w.world.hub.Empty newEnv.envType
  | .updateEnv envType _ => w.InTime ts ∨ w.world.hub.Empty envType
  | .publishVersion _ _ _ | .yankVersion _ _ _ => w.InTime ts

/-- The write that the step commits can be learnt of. -/
def SyncWorld.Commits (w : SyncWorld M) : SyncLabel M → Prop
  | .hub (.commit i) =>
    match w.world.calls[i]? with
    | some { write, stamp := some ts } => w.Seen ts write
    | _ => True
  | _ => True

instance (w : SyncWorld M) (envType : String) : Decidable (w.Unaware envType) :=
  List.decidableBAll _ _

instance (hub : HubStore M) (envType : String) : Decidable (hub.Empty envType) :=
  inferInstanceAs (Decidable (_ = true))

instance (w : SyncWorld M) (ts : Nat) : Decidable (w.InTime ts) :=
  inferInstanceAs (Decidable (_ ∧ _))

instance (w : SyncWorld M) (ts : Nat) : ∀ write : Write M, Decidable (w.Seen ts write)
  | .softDeleteEnv envType => inferInstanceAs (Decidable (w.Unaware envType))
  | .insertEnv _ | .publishPackage _ _ _ _ | .publishStack _ _ _ | .yankStack _ _ _ =>
    .isTrue trivial
  | .resurrectEnv newEnv =>
    inferInstanceAs (Decidable (w.InTime ts ∨ w.world.hub.Empty newEnv.envType))
  | .updateEnv envType _ => inferInstanceAs (Decidable (w.InTime ts ∨ w.world.hub.Empty envType))
  | .publishVersion _ _ _ | .yankVersion _ _ _ => inferInstanceAs (Decidable (w.InTime ts))

instance (w : SyncWorld M) : ∀ a : SyncLabel M, Decidable (w.Commits a)
  | .hub (.commit i) =>
    match called : w.world.calls[i]? with
    | some { write, stamp := some ts } =>
      decidable_of_iff (w.Seen ts write) (by simp [SyncWorld.Commits, called])
    | some { write, stamp := none } => .isTrue (by simp [SyncWorld.Commits, called])
    | none => .isTrue (by simp [SyncWorld.Commits, called])
  | .hub .tick | .hub (.start _) | .hub (.stamp _) | .hub (.rollback _) | .query | .serverTime
  | .drop => .isTrue trivial

variable {envType : String}

theorem HubStore.Empty.versions {hub : HubStore M} {env : Env M} (empty : hub.Empty envType)
    (found : hub.findEnvRowAny envType = some env) : env.versions = [] := by
  rw [HubStore.Empty, found] at empty
  exact List.isEmpty_iff.mp empty

theorem HubStore.empty_of {hub : HubStore M}
    (empty : ∀ env, hub.findEnvRowAny envType = some env → env.versions = []) :
    hub.Empty envType := by
  unfold HubStore.Empty
  cases found : hub.findEnvRowAny envType with
  | none => rfl
  | some env => exact List.isEmpty_iff.mpr (empty env found)

/-! ### The answer of a query -/

/-- `changed_since` selects the version. -/
def HubStore.Due (hub : HubStore M) (since : Nat) (envType version : String) : Prop :=
  ∃ env v, hub.findEnvRow envType = some env ∧
    lookup VersionRow.version version env.versions = some v ∧
    (since < v.publishedAt ∨ since < env.updatedAt)

section Invariant

variable [LinearOrder V] {semver : Semver V} {hub hub' : HubStore M}

theorem findEnvRow_of_mem (unique : Unique Env.envType hub.envs) {env : Env M}
    (member : env ∈ hub.envs) (live : env.isDeleted = false) :
    hub.findEnvRow env.envType = some env := by
  rw [HubStore.findEnvRow, HubStore.findEnvRowAny, lookup_of_mem unique member]
  simp [Option.filter, live]

/-- What `changed_since` returns is current. -/
theorem manifest_of_changedSince (pointed : hub.Pointed semver) {since : Nat}
    {m : FullManifest M} (member : m ∈ hub.changedSince since) :
    hub.manifest m.envType m.version.version = some m := by
  obtain ⟨env, known, member⟩ := List.mem_flatMap.mp member
  obtain ⟨v, selected, rfl⟩ := List.mem_map.mp member
  obtain ⟨row, selected⟩ := List.mem_filter.mp selected
  have live : env.isDeleted = false := by
    simp only [Bool.and_eq_true, Bool.not_eq_true'] at selected
    exact selected.1
  have found := findEnvRow_of_mem pointed.uniqueEnvs known live
  change (hub.findEnvRow env.envType).bind _ = _
  rw [found, Option.bind_some]
  change (lookup VersionRow.version v.version env.versions).map _ = _
  rw [lookup_of_mem (pointed.envs env known).unique row, Option.map_some]

variable {envType version : String} {write : Write M} {ts : Nat} {quiet : List (SyncLabel M)}

/-- `changed_since` returns every version that it selects. -/
theorem changedSince_of_due {since : Nat} (due : hub.Due since envType version) :
    ∃ m ∈ hub.changedSince since, m.key = (envType, version) := by
  obtain ⟨env, v, found, row, later⟩ := due
  obtain ⟨found, live⟩ := findEnvRow_eq_some found
  refine ⟨env.assembleManifest v, ?_, ?_⟩
  · refine List.mem_flatMap.mpr ⟨env, mem_of_lookup found, List.mem_map_of_mem ?_⟩
    refine List.mem_filter.mpr ⟨mem_of_lookup row, ?_⟩
    simpa [live] using later
  · have sameEnv : env.envType = envType := key_of_lookup found
    have sameVersion : v.version = version := key_of_lookup row
    exact Prod.ext sameEnv sameVersion

/-- A live environment has the version. -/
def HubStore.Listed (hub : HubStore M) (envType version : String) : Prop :=
  ∃ env v, hub.findEnvRow envType = some env ∧
    lookup VersionRow.version version env.versions = some v

theorem HubStore.Due.listed {since : Nat} (due : hub.Due since envType version) :
    hub.Listed envType version := by
  obtain ⟨env, v, found, row, _⟩ := due
  exact ⟨env, v, found, row⟩

theorem manifest_eq_none (unlisted : ¬hub.Listed envType version) :
    hub.manifest envType version = none := by
  unfold HubStore.manifest
  cases found : hub.findEnvRow envType with
  | none => rfl
  | some env =>
    rw [Option.bind_some, Option.map_eq_none_iff]
    cases row : lookup VersionRow.version version env.versions with
    | none => rfl
    | some v => exact absurd ⟨env, v, found, row⟩ unlisted

theorem HubStore.Empty.unlisted (empty : hub.Empty envType) (version : String) :
    ¬hub.Listed envType version := by
  rintro ⟨env, v, found, row⟩
  rw [empty.versions (findEnvRow_eq_some found).1] at row
  cases row

/-! ### What a write does to its row -/

/-- What a write does to the row that it is about. -/
def Write.onRow (semver : Semver V) (ts : Nat) (env : Env M) : Write M → Env M
  | resurrectEnv newEnv => newEnv.resurrect ts env
  | updateEnv _ patch => patch.apply ts env
  | softDeleteEnv _ => env.softDelete ts
  | publishVersion _ nv latestEligible =>
    env.setLatest semver ts (env.versions ++ [nv.row ts latestEligible])
  | yankVersion _ version reason => env.setLatest semver ts (yankRow version reason env.versions)
  | _ => env

/-- The write deletes its environment. -/
def Write.deletes : Write M → Bool
  | softDeleteEnv _ => true
  | _ => false

theorem Write.row (ran : write.run semver ts hub = .ok hub') (about : write.target = some envType) :
    (∃ newEnv, write = .insertEnv newEnv ∧ hub.findEnvRowAny envType = none ∧
      hub'.findEnvRowAny envType = some (newEnv.insert ts)) ∨
    hub'.findEnvRowAny envType = (hub.findEnvRowAny envType).map fun env =>
      write.onRow semver ts env := by
  have updated (f : Env M → Env M) (keeps : ∀ env, (f env).envType = env.envType)
      (run : hub.updateRow envType f = hub') :
      hub'.findEnvRowAny envType = (hub.findEnvRowAny envType).map f := by
    rw [← run, findEnvRowAny_updateRow keeps, if_pos rfl]
  cases write with
  | insertEnv newEnv =>
    cases about
    unfold Write.run at ran
    cases found : hub.findEnvRowAny newEnv.envType with
    | some =>
      simp only [found] at ran
      cases ran
    | none =>
      simp only [found] at ran
      cases ran
      refine Or.inl ⟨newEnv, rfl, rfl, ?_⟩
      simp only [HubStore.findEnvRowAny] at found ⊢
      rw [lookup_append, found, Option.none_or, lookup_cons]
      exact if_pos rfl
  | resurrectEnv =>
    cases about
    exact Or.inr (updated _ (fun _ => rfl) (Except.ok.inj ran))
  | updateEnv =>
    cases about
    exact Or.inr (updated _ (fun _ => rfl) (Except.ok.inj ran))
  | softDeleteEnv =>
    cases about
    exact Or.inr (updated _ (fun _ => rfl) (Except.ok.inj ran))
  | publishVersion =>
    cases about
    simp only [Write.run, HubStore.insertVersion] at ran
    split at ran
    · cases ran
    · split at ran
      · cases ran
      · exact Or.inr (updated _ (fun _ => rfl) (Except.ok.inj ran))
  | yankVersion =>
    cases about
    simp only [Write.run, HubStore.yankVersion] at ran
    split at ran
    · cases ran
    · exact Or.inr (updated _ (fun _ => rfl) (Except.ok.inj ran))
  | publishPackage | publishStack | yankStack => cases about

theorem lookup_yankRow {version' reason : String} {versions : List (VersionRow M)} :
    (lookup VersionRow.version version' (yankRow version reason versions)).isSome =
      (lookup VersionRow.version version' versions).isSome := by
  rw [yankRow, lookup_update (by intro v; rfl)]
  split
  · exact Option.isSome_map
  · rfl

/-- A write about a row keeps its versions, sets its timestamp, and keeps it live unless it is a
delete. -/
theorem Write.onRow_spec (semver : Semver V) (ts : Nat) (env : Env M)
    (about : write.target = some envType) (old : ∀ newEnv, write ≠ .insertEnv newEnv) :
    (write.onRow semver ts env).updatedAt = ts ∧
      (write.deletes = true → (write.onRow semver ts env).isDeleted = true) ∧
      (write.deletes = false → env.isDeleted = false →
        (write.onRow semver ts env).isDeleted = false) ∧
      ∀ version, (lookup VersionRow.version version env.versions).isSome →
        (lookup VersionRow.version version (write.onRow semver ts env).versions).isSome := by
  cases write with
  | insertEnv newEnv => exact absurd rfl (old newEnv)
  | resurrectEnv => exact ⟨rfl, nofun, fun _ _ => rfl, fun _ => id⟩
  | updateEnv => exact ⟨rfl, nofun, fun _ => id, fun _ => id⟩
  | softDeleteEnv => exact ⟨rfl, fun _ => rfl, nofun, fun _ => id⟩
  | publishVersion =>
    refine ⟨rfl, nofun, fun _ => id, fun version present => ?_⟩
    change (lookup _ _ (env.versions ++ _)).isSome
    rw [lookup_append, Option.isSome_or, present, Bool.true_or]
  | yankVersion target version reason =>
    refine ⟨rfl, nofun, fun _ => id, fun version' present => ?_⟩
    change (lookup _ _ (yankRow version reason env.versions)).isSome
    rw [lookup_yankRow, present]
  | publishPackage | publishStack | yankStack => cases about

section

variable (ran : write.run semver ts hub = .ok hub')
include ran

theorem Write.listed (kept : write.deletes = false) (listed : hub.Listed envType version) :
    hub'.Listed envType version := by
  obtain ⟨env, v, found, row⟩ := listed
  obtain ⟨found, live⟩ := findEnvRow_eq_some found
  by_cases about : write.target = some envType
  · rcases write.row ran about with ⟨_, _, absent, _⟩ | after
    · rw [found] at absent
      cases absent
    · have old : ∀ newEnv, write ≠ .insertEnv newEnv := by
        rintro newEnv rfl
        cases about
        simp only [Write.run, found] at ran
        cases ran
      obtain ⟨_, _, live', rows⟩ := Write.onRow_spec semver ts env about old
      obtain ⟨v', row'⟩ := Option.isSome_iff_exists.mp (rows version (row ▸ rfl))
      refine ⟨_, v', ?_, row'⟩
      rw [HubStore.findEnvRow, after, found, Option.map_some, Option.filter, live' kept live]
      rfl
  · refine ⟨env, v, ?_, row⟩
    rw [HubStore.findEnvRow, Write.frame ran about, found, Option.filter, live]
    rfl

/-- After a write that is in time its environment has no version that the next query misses. -/
theorem Write.due {since : Nat} (about : write.target = some envType) (later : since < ts)
    (listed : hub'.Listed envType version) : hub'.Due since envType version := by
  obtain ⟨env', v, found, row⟩ := listed
  refine ⟨env', v, found, row, Or.inr ?_⟩
  obtain ⟨found, _⟩ := findEnvRow_eq_some found
  rcases write.row ran about with ⟨newEnv, _, _, inserted⟩ | after
  · obtain rfl := Option.some.inj (found.symm.trans inserted)
    exact later
  · obtain ⟨env, known, rfl⟩ := Option.map_eq_some_iff.mp (after.symm.trans found)
    have old : ∀ newEnv, write ≠ .insertEnv newEnv := by
      rintro newEnv rfl
      cases about
      simp only [Write.run, known] at ran
      cases ran
    rw [(Write.onRow_spec semver ts env about old).1]
    exact later

theorem Write.deleted (about : write.target = some envType) (deletes : write.deletes = true) :
    ¬hub'.Listed envType version := by
  rintro ⟨env', v, found, _⟩
  obtain ⟨found, live⟩ := findEnvRow_eq_some found
  rcases write.row ran about with ⟨newEnv, rfl, _, _⟩ | after
  · cases deletes
  · obtain ⟨env, _, rfl⟩ := Option.map_eq_some_iff.mp (after.symm.trans found)
    have old : ∀ newEnv, write ≠ .insertEnv newEnv := by
      rintro newEnv rfl
      cases deletes
    rw [(Write.onRow_spec semver ts env about old).2.1 deletes] at live
    cases live

theorem Write.empty (about : write.target = some envType) (none : hub.Empty envType)
    (kind : (∃ newEnv, write = .insertEnv newEnv) ∨ (∃ newEnv, write = .resurrectEnv newEnv) ∨
      ∃ patch, write = .updateEnv envType patch) : hub'.Empty envType := by
  refine HubStore.empty_of fun env' found => ?_
  rcases write.row ran about with ⟨newEnv, _, _, inserted⟩ | after
  · obtain rfl := Option.some.inj (found.symm.trans inserted)
    rfl
  · obtain ⟨env, known, rfl⟩ := Option.map_eq_some_iff.mp (after.symm.trans found)
    have before := none.versions known
    rcases kind with ⟨newEnv, rfl⟩ | ⟨newEnv, rfl⟩ | ⟨patch, rfl⟩
    · exact before
    · exact before
    · exact before

end

/-! ### What the consumer knows -/

/-- What the consumer does not have right is due, and an answer on its way settles everything. -/
structure SyncWorld.Synced (semver : Semver V) (w : SyncWorld M) : Prop where
  pointed : w.world.hub.Pointed semver
  held : ∀ envType version, w.manifest envType version = w.world.hub.manifest envType version ∨
    w.world.hub.Due w.since envType version
  view : w.answer.isSome → ∀ envType version,
    w.view envType version = w.world.hub.manifest envType version

/-- The consumer has everything right. -/
structure SyncWorld.Settled (semver : Semver V) (w : SyncWorld M) : Prop where
  pointed : w.world.hub.Pointed semver
  held : ∀ envType version, w.manifest envType version = w.world.hub.manifest envType version
  view : ∀ envType version, w.view envType version = w.world.hub.manifest envType version

variable {w w' : SyncWorld M}

theorem lookup_changedSince (pointed : hub.Pointed semver) (since : Nat)
    (held : List (FullManifest M)) (envType version : String) :
    lookup FullManifest.key (envType, version) (hub.changedSince since ++ held) =
        hub.manifest envType version ∨
      ¬hub.Due since envType version ∧
        lookup FullManifest.key (envType, version) (hub.changedSince since ++ held) =
          lookup FullManifest.key (envType, version) held := by
  rw [lookup_append]
  cases found : lookup FullManifest.key (envType, version) (hub.changedSince since) with
  | some m =>
    have current := manifest_of_changedSince pointed (mem_of_lookup found)
    have filed : m.key = (envType, version) := key_of_lookup found
    obtain ⟨rfl, rfl⟩ := Prod.mk.inj filed
    exact Or.inl current.symm
  | none =>
    refine Or.inr ⟨fun due => ?_, Option.none_or⟩
    obtain ⟨m, member, filed⟩ := changedSince_of_due due
    exact lookup_eq_none.mp found m member filed

theorem SyncWorld.Synced.query (synced : w.Synced semver) :
    ({ w with answer := some (w.world.hub.changedSince w.since) } : SyncWorld M).Synced semver where
  pointed := synced.pointed
  held := synced.held
  view := fun _ envType version => by
    rcases lookup_changedSince synced.pointed w.since w.held envType version with now | ⟨due, same⟩
    · exact now
    · exact same.trans ((synced.held envType version).resolve_right due)

theorem SyncWorld.Synced.serverTime {manifests : List (FullManifest M)} {clock : Nat}
    (synced : w.Synced semver) (answered : w.answer = some manifests) :
    ({ w with since := clock, answer := none, held := manifests ++ w.held } :
      SyncWorld M).Settled semver := by
  have view := synced.view (answered ▸ rfl)
  simp only [SyncWorld.view, answered, Option.getD_some] at view
  exact ⟨synced.pointed, view, view⟩

theorem Write.elsewhere (since : Nat) (ran : write.run semver ts hub = .ok hub')
    (other : write.target ≠ some envType) (version : String) :
    hub'.manifest envType version = hub.manifest envType version ∧
      (hub'.Due since envType version ↔ hub.Due since envType version) := by
  have same : hub'.findEnvRow envType = hub.findEnvRow envType := by
    rw [HubStore.findEnvRow, HubStore.findEnvRow, write.frame ran other]
  unfold HubStore.manifest HubStore.Due
  rw [same]
  exact ⟨rfl, Iff.rfl⟩

theorem SyncWorld.Synced.commit {world : HubWorld M} (synced : w.Synced semver)
    (seen : w.Seen ts write) (ran : write.run semver ts w.world.hub = .ok world.hub) :
    ({ w with world } : SyncWorld M).Synced semver := by
  have pointed := synced.pointed.run ran
  -- what the consumer has of a version that was not listed
  have absent (envType version : String) (unlisted : ¬w.world.hub.Listed envType version) :
      w.manifest envType version = none := by
    rcases synced.held envType version with same | due
    · exact same.trans (manifest_eq_none unlisted)
    · exact absurd due.listed unlisted
  have each : ∀ envType version, (w.manifest envType version = world.hub.manifest envType version ∨
        world.hub.Due w.since envType version) ∧
      (w.answer.isSome → w.view envType version = world.hub.manifest envType version) := by
    intro envType version
    by_cases about : write.target = some envType
    · -- the row of the write: deleted, without versions, or due
      have gone (unlisted : ¬w.world.hub.Listed envType version)
          (unlisted' : ¬world.hub.Listed envType version) :
          (w.manifest envType version = world.hub.manifest envType version ∨
            world.hub.Due w.since envType version) ∧
          (w.answer.isSome → w.view envType version = world.hub.manifest envType version) := by
        rw [manifest_eq_none unlisted']
        exact ⟨Or.inl (absent _ _ unlisted), fun answered =>
          (synced.view answered _ _).trans (manifest_eq_none unlisted)⟩
      have inTime (kept : write.deletes = false) (inTime : w.InTime ts) :
          (w.manifest envType version = world.hub.manifest envType version ∨
            world.hub.Due w.since envType version) ∧
          (w.answer.isSome → w.view envType version = world.hub.manifest envType version) := by
        refine ⟨?_, fun answered => ?_⟩
        · by_cases listed : world.hub.Listed envType version
          · exact Or.inr (Write.due ran about inTime.2 listed)
          · have unlisted : ¬w.world.hub.Listed envType version := fun before =>
              listed (Write.listed ran kept before)
            exact Or.inl ((absent _ _ unlisted).trans (manifest_eq_none listed).symm)
        · have idle := Option.isNone_iff_eq_none.mp inTime.1
          exact absurd idle (Option.isSome_iff_ne_none.mp answered)
      have empty (none : w.world.hub.Empty envType) (kind : (∃ newEnv, write = .insertEnv newEnv) ∨
            (∃ newEnv, write = .resurrectEnv newEnv) ∨ ∃ patch, write = .updateEnv envType patch) :=
        gone (none.unlisted version) ((Write.empty ran about none kind).unlisted version)
      cases write with
      | insertEnv newEnv =>
        rcases Write.row ran about with ⟨_, _, fresh, _⟩ | after
        · refine empty (HubStore.empty_of fun env found => ?_) (Or.inl ⟨newEnv, rfl⟩)
          rw [fresh] at found
          cases found
        · refine empty (HubStore.empty_of fun env found => ?_) (Or.inl ⟨newEnv, rfl⟩)
          cases about
          simp only [Write.run, found] at ran
          cases ran
      | resurrectEnv newEnv =>
        cases about
        rcases seen with now | none
        · exact inTime rfl now
        · exact empty none (Or.inr (Or.inl ⟨newEnv, rfl⟩))
      | updateEnv target patch =>
        cases about
        rcases seen with now | none
        · exact inTime rfl now
        · exact empty none (Or.inr (Or.inr ⟨patch, rfl⟩))
      | softDeleteEnv target =>
        obtain rfl := Option.some.inj about
        have unaware (manifests : List (FullManifest M))
            (part : ∀ m ∈ manifests, m.envType ≠ target) :
            lookup FullManifest.key (target, version) manifests = none :=
          lookup_eq_none.mpr fun m member filed => part m member (congrArg Prod.fst filed)
        rw [manifest_eq_none (Write.deleted ran rfl rfl)]
        exact ⟨Or.inl (unaware _ fun m member => seen m (List.mem_append_right _ member)),
          fun _ => unaware _ seen⟩
      | publishVersion => exact inTime rfl seen
      | yankVersion => exact inTime rfl seen
      | publishPackage | publishStack | yankStack => cases about
    · obtain ⟨same, due⟩ := Write.elsewhere w.since ran about version
      rw [same, due]
      exact ⟨synced.held envType version, fun answered => synced.view answered envType version⟩
  exact ⟨pointed, fun envType version => (each envType version).1,
    fun answered envType version => (each envType version).2 answered⟩

theorem SyncWorld.Settled.synced (settled : w.Settled semver) : w.Synced semver where
  pointed := settled.pointed
  held := fun envType version => Or.inl (settled.held envType version)
  view := fun _ => settled.view

theorem SyncWorld.Synced.step {a : SyncLabel M} (synced : w.Synced semver) (seen : w.Commits a)
    (taken : w.step semver a = some w') : w'.Synced semver := by
  cases a with
  | hub a =>
    obtain ⟨world, stepped, rfl⟩ := Option.map_eq_some_iff.mp taken
    rcases HubWorld.step_cases stepped with same | ⟨i, write, ts, rfl, called, ran⟩
    · refine ⟨same ▸ synced.pointed, ?_, ?_⟩
      · exact same ▸ synced.held
      · exact same ▸ synced.view
    · simp only [SyncWorld.Commits, called] at seen
      exact synced.commit seen ran
  | query =>
    simp only [SyncWorld.step] at taken
    split at taken
    · cases taken
      exact synced.query
    · cases taken
  | serverTime =>
    simp only [SyncWorld.step] at taken
    split at taken
    · cases taken
      exact (synced.serverTime ‹_›).synced
    · cases taken
  | drop =>
    cases taken
    exact ⟨synced.pointed, synced.held, nofun⟩

theorem SyncWorld.Settled.still {a : SyncLabel M} (settled : w.Settled semver) (still : a.Still)
    (taken : w.step semver a = some w') : w'.Settled semver := by
  cases a with
  | hub a =>
    obtain ⟨world, stepped, rfl⟩ := Option.map_eq_some_iff.mp taken
    rcases HubWorld.step_cases stepped with same | ⟨i, write, ts, rfl, _, _⟩
    · refine ⟨same ▸ settled.pointed, ?_, ?_⟩
      · exact same ▸ settled.held
      · exact same ▸ settled.view
    · exact still.elim
  | query =>
    simp only [SyncWorld.step] at taken
    split at taken
    · cases taken
      refine ⟨settled.pointed, settled.held, fun envType version => ?_⟩
      rcases lookup_changedSince settled.pointed w.since w.held envType version with now | ⟨_, same⟩
      · exact now
      · exact same.trans (settled.held envType version)
    · cases taken
  | serverTime =>
    simp only [SyncWorld.step] at taken
    split at taken
    · cases taken
      exact settled.synced.serverTime ‹_›
    · cases taken
  | drop =>
    cases taken
    exact ⟨settled.pointed, settled.held, settled.held⟩

theorem SyncLabel.Still.commits {a : SyncLabel M} (still : a.Still) : w.Commits a := by
  cases a with
  | hub a =>
    cases a with
    | commit i => exact still.elim
    | tick | start | stamp | rollback => trivial
  | query | serverTime | drop => trivial

theorem SyncWorld.Settled.run (settled : w.Settled semver) (still : ∀ a ∈ quiet, a.Still)
    (ran : (syncSystem semver).exec w quiet = some w') : w'.Settled semver := by
  induction quiet generalizing w with
  | nil =>
    cases ran
    exact settled
  | cons a rest ih =>
    obtain ⟨middle, taken, onward⟩ := Option.bind_eq_some_iff.mp ran
    exact ih (settled.still (still a List.mem_cons_self) taken)
      (fun b member => still b (List.mem_cons_of_mem _ member)) onward

/-- Once an answer has ended without a commit since the last write, everything is right. -/
theorem SyncWorld.Synced.run (synced : w.Synced semver) (still : ∀ a ∈ quiet, a.Still)
    (answered : 0 < quiet.countP SyncLabel.isServerTime)
    (ran : (syncSystem semver).exec w quiet = some w') : w'.Settled semver := by
  induction quiet generalizing w with
  | nil => cases answered
  | cons a rest ih =>
    obtain ⟨middle, taken, onward⟩ := Option.bind_eq_some_iff.mp ran
    have still' : ∀ b ∈ rest, b.Still := fun b member => still b (List.mem_cons_of_mem _ member)
    cases a with
    | serverTime =>
      simp only [syncSystem, SyncWorld.step] at taken
      split at taken
      · cases taken
        exact (synced.serverTime ‹_›).run still' onward
      · cases taken
    | hub | query | drop =>
      rw [List.countP_cons_of_neg (by exact Bool.false_ne_true)] at answered
      exact ih (synced.step (still _ List.mem_cons_self).commits taken) still' answered onward

theorem SyncWorld.Synced.reachable
    (reached : ReachableWhen (syncSystem semver) SyncWorld.Commits w) : w.Synced semver := by
  apply ReachableWhen.invariant (motive := fun w => w.Synced semver) ?_ ?_ reached
  · rintro w ⟨empty, _, _, answer, held⟩
    refine ⟨?_, fun envType version => Or.inl ?_, fun answered => ?_⟩
    · rw [empty]
      exact HubStore.pointed_empty
    · rw [SyncWorld.manifest, held, empty]
      rfl
    · rw [answer] at answered
      cases answered
  · intro w a w' _ synced seen taken
    exact synced.step seen taken

/-- After a run all of whose writes could be learnt of, and two answers without a further commit,
the consumer has exactly the current manifests. -/
theorem sync_complete {quiet : List (SyncLabel M)}
    (reached : ReachableWhen (syncSystem semver) SyncWorld.Commits w)
    (still : ∀ a ∈ quiet, a.Still) (twice : 2 ≤ quiet.countP SyncLabel.isServerTime)
    (ran : (syncSystem semver).exec w quiet = some w') (envType version : String) :
    w'.manifest envType version = w'.world.hub.manifest envType version :=
  ((SyncWorld.Synced.reachable reached).run still (Nat.lt_of_lt_of_le Nat.zero_lt_two twice)
    ran).held envType version

/-! ### Published versions -/

/-- The rows of an environment, deleted or not. -/
def HubStore.versionsOf (hub : HubStore M) (envType : String) : List (VersionRow M) :=
  ((hub.findEnvRowAny envType).map Env.versions).getD []

/-- Each version among the rows is among the later ones, as it was or yanked. -/
def Stay (rows rows' : List (VersionRow M)) : Prop :=
  ∀ version v, lookup VersionRow.version version rows = some v →
    ∃ v', lookup VersionRow.version version rows' = some v' ∧
      (v' = v ∨ ∃ reason, v' = { v with isYanked := true, yankReason := some reason })

theorem Stay.refl (rows : List (VersionRow M)) : Stay rows rows :=
  fun _ v found => ⟨v, found, Or.inl rfl⟩

theorem Stay.trans {rows rows' rows'' : List (VersionRow M)} (first : Stay rows rows')
    (second : Stay rows' rows'') : Stay rows rows'' := by
  intro version v found
  obtain ⟨v', found', rfl | ⟨reason, rfl⟩⟩ := first version v found
  · exact second version v' found'
  · obtain ⟨v'', found'', rfl | ⟨reason', rfl⟩⟩ := second version _ found'
    · exact ⟨_, found'', Or.inr ⟨reason, rfl⟩⟩
    · exact ⟨_, found'', Or.inr ⟨reason', rfl⟩⟩

theorem stay_yankRow (version reason : String) (rows : List (VersionRow M)) :
    Stay rows (yankRow version reason rows) := by
  intro version' v found
  have written : lookup VersionRow.version version' (yankRow version reason rows) = _ :=
    lookup_update fun _ => rfl
  rw [found] at written
  split at written
  · exact ⟨_, written, Or.inr ⟨reason, rfl⟩⟩
  · exact ⟨v, written, Or.inl rfl⟩

theorem Write.stay (ran : write.run semver ts hub = .ok hub') (envType : String) :
    Stay (hub.versionsOf envType) (hub'.versionsOf envType) := by
  unfold HubStore.versionsOf
  by_cases about : write.target = some envType
  · rcases write.row ran about with ⟨newEnv, rfl, absent, _⟩ | after
    · rw [absent]
      exact fun version v found => nomatch found
    · rw [after]
      cases hub.findEnvRowAny envType with
      | none => exact Stay.refl _
      | some =>
        cases write with
        | publishVersion =>
          intro version v found
          exact ⟨v, (lookup_append ..).trans (congrArg (Option.or · _) found), Or.inl rfl⟩
        | yankVersion => exact stay_yankRow _ _ _
        | insertEnv | resurrectEnv | updateEnv | softDeleteEnv | publishPackage | publishStack
        | yankStack => exact Stay.refl _
  · rw [Write.frame ran about]
    exact Stay.refl _

/-- A published version of an environment is never removed and its content never changes, whichever
calls are made and however they overlap; a yank only marks it. -/
theorem published_stays {w w' : HubWorld M} (schedule : List (HubLabel M))
    (ran : (hubSystem semver).exec w schedule = some w') (envType : String) :
    Stay (w.hub.versionsOf envType) (w'.hub.versionsOf envType) := by
  induction schedule generalizing w with
  | nil =>
    cases ran
    exact .refl _
  | cons label rest ih =>
    obtain ⟨middle, taken, ran⟩ := Option.bind_eq_some_iff.mp ran
    refine Stay.trans ?_ (ih ran)
    rcases HubWorld.step_cases taken with same | ⟨i, write, ts, -, -, wrote⟩
    · rw [same]
      exact .refl _
    · exact Write.stay wrote envType

theorem published_stays_yanked : ∃ w w', (hubSystem twoVersions).exec {} publishBoth = some w ∧
    (hubSystem twoVersions).exec w (alone (.yankVersion "qa" "1.0.0" "broken")) = some w' ∧
      Stay (w.hub.versionsOf "qa") (w'.hub.versionsOf "qa") := by
  have ran : (((hubSystem twoVersions).exec {} publishBoth).bind fun w =>
      (hubSystem twoVersions).exec w (alone (.yankVersion "qa" "1.0.0" "broken"))).isSome := by
    decide +kernel
  obtain ⟨w', ran⟩ := Option.isSome_iff_exists.mp ran
  obtain ⟨w, before, ran⟩ := Option.bind_eq_some_iff.mp ran
  exact ⟨w, w', before, ran, published_stays _ ran "qa"⟩

end Invariant

/-! ### Runs -/

/-- One answer. -/
def sync : List (SyncLabel Unit) := [.query, .serverTime]

/-- The Hub at the second 1, with an environment, and a consumer that has asked once. -/
def created : List (SyncLabel Unit) :=
  (alone (.createEnv { envType := "qa", envNamespace := "default" })).map .hub ++ sync

/-- A publish that gets its timestamp and commits at the same second. -/
def published : List (SyncLabel Unit) :=
  (alone (.publishVersionGated "qa" { version := "1.0.0", content := () } none {})).map .hub

/-- The environment is created, and the version is published one second after an answer. -/
def publishedLater : List (SyncLabel Unit) :=
  created ++ .hub .tick :: published

theorem sync_complete_publishedLater :
    ∃ w w', (syncSystem twoVersions).exec { world := { clock := 1 } } publishedLater = some w ∧
      (syncSystem twoVersions).exec w (sync ++ sync) = some w' ∧
      w'.held.map (fun m => (m.envType, m.version.version)) = [("qa", "1.0.0")] ∧
      ∀ envType version, w'.manifest envType version = w'.world.hub.manifest envType version := by
  have ran : (((syncSystem twoVersions).exec { world := { clock := 1 } } publishedLater).bind
      fun w => ((syncSystem twoVersions).exec w (sync ++ sync)).map fun w' =>
        w'.held.map fun m => (m.envType, m.version.version)) = some [("qa", "1.0.0")] := by
    decide +kernel
  obtain ⟨w, reached, ran⟩ := Option.bind_eq_some_iff.mp ran
  obtain ⟨w', ran, held⟩ := Option.map_eq_some_iff.mp ran
  refine ⟨w, w', reached, ran, held, ?_⟩
  have along : (syncSystem twoVersions).Along SyncWorld.Commits { world := { clock := 1 } }
      publishedLater := by
    decide +kernel
  have initial : (syncSystem twoVersions).init ({ world := { clock := 1 } } : SyncWorld Unit) :=
    ⟨rfl, rfl, rfl, rfl, rfl⟩
  have reached' := ReachableWhen.of_exec (.start initial) publishedLater along reached
  refine sync_complete reached' ?_ (by decide) ran
  intro a member
  simp only [sync, List.cons_append, List.nil_append, List.mem_cons, List.not_mem_nil,
    or_false] at member
  rcases member with rfl | rfl | rfl | rfl <;> trivial

/-- The version is published in the second of an answer, after its clock was read. -/
def publishedAtOnce : List (SyncLabel Unit) :=
  created ++ published

theorem sync_misses : ¬∀ (w w' : SyncWorld Unit) (quiet : List (SyncLabel Unit)),
      Reachable (syncSystem twoVersions) w → (∀ a ∈ quiet, a.Still) →
      2 ≤ quiet.countP SyncLabel.isServerTime →
      (syncSystem twoVersions).exec w quiet = some w' →
      ∀ envType version, w'.manifest envType version = w'.world.hub.manifest envType version := by
  intro complete
  have ran : (((syncSystem twoVersions).exec { world := { clock := 1 } } publishedAtOnce).bind
      fun w => ((syncSystem twoVersions).exec w (.hub .tick :: (sync ++ sync))).map fun w' =>
        (w'.manifest "qa" "1.0.0", (w'.world.hub.manifest "qa" "1.0.0").isSome)) =
      some (none, true) := by
    decide +kernel
  obtain ⟨w, reached, ran⟩ := Option.bind_eq_some_iff.mp ran
  obtain ⟨w', ran, missed⟩ := Option.map_eq_some_iff.mp ran
  obtain ⟨held, current⟩ := Prod.mk.inj missed
  have initial : (syncSystem twoVersions).init ({ world := { clock := 1 } } : SyncWorld Unit) :=
    ⟨rfl, rfl, rfl, rfl, rfl⟩
  have reached' := Reachable.of_exec initial publishedAtOnce reached
  have still : ∀ a ∈ SyncLabel.hub HubLabel.tick :: (sync ++ sync), a.Still := by
    intro a member
    simp only [sync, List.cons_append, List.nil_append, List.mem_cons, List.not_mem_nil,
      or_false] at member
    rcases member with rfl | rfl | rfl | rfl | rfl <;> trivial
  have equal := complete w w' _ reached' still (by decide) ran "qa" "1.0.0"
  rw [← equal, held] at current
  cases current

end UEnv.Hub
