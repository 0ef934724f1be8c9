import UEnv.Hub.Store

/-!
# The `latest` pointer

`latest_version` is a cache of `ver::latest` over the rows that may resolve as `latest`. Every
transaction that changes these rows computes it again, and the others leave both alone.
-/

namespace UEnv.Hub

open Records Runs

/-! ### The highest candidate -/

section Highest

variable {V : Type} [LinearOrder V]

/-- `best` is the highest value with the property, if there is one. -/
def Highest (p : V → Prop) : Option V → Prop
  | none => ∀ v, ¬p v
  | some best => p best ∧ ∀ v, p v → v ≤ best

variable {p : V → Prop} {best : Option V}

theorem Highest.unique {best' : Option V} (highest : Highest p best) (highest' : Highest p best') :
    best = best' := by
  cases best with
  | none =>
    cases best' with
    | none => rfl
    | some v => exact absurd highest'.1 (highest v)
  | some v =>
    cases best' with
    | none => exact absurd highest.1 (highest' v)
    | some v' =>
      exact congrArg some (le_antisymm (highest'.2 v highest.1) (highest.2 v' highest'.1))

theorem Highest.congr {q : V → Prop} (same : ∀ v, p v ↔ q v) (highest : Highest p best) :
    Highest q best := by
  have equal : p = q := funext fun v => propext (same v)
  exact equal ▸ highest

theorem Highest.keep (highest : Highest p best) (v : V) :
    Highest (fun w => p w ∨ w = v) (keepHighest best v) := by
  cases best with
  | none =>
    refine ⟨Or.inr rfl, fun w found => ?_⟩
    rcases found with found | rfl
    · exact absurd found (highest w)
    · exact le_rfl
  | some top =>
    unfold keepHighest
    by_cases above : top < v
    · simp only [if_pos above]
      refine ⟨Or.inr rfl, fun w found => ?_⟩
      rcases found with found | rfl
      · exact (highest.2 w found).trans (le_of_lt above)
      · exact le_rfl
    · simp only [if_neg above]
      refine ⟨Or.inl highest.1, fun w found => ?_⟩
      rcases found with found | rfl
      · exact highest.2 w found
      · exact not_lt.mp above

end Highest

/-! ### `ver::latest` -/

section VersionStrings

variable {V : Type} [LinearOrder V] {semver : Semver V}

/-- `v` is the version that one of the strings spells. -/
def Spelled (semver : Semver V) (candidates : List String) (v : V) : Prop :=
  ∃ raw ∈ candidates, semver.parse raw = some v

/-- `v` is a release that one of them spells. -/
def Released (semver : Semver V) (candidates : List String) (v : V) : Prop :=
  Spelled semver candidates v ∧ semver.isRelease v = true

/-- What `latest` chooses from: the releases, or everything if there is no release. -/
def Candidate (semver : Semver V) (candidates : List String) (v : V) : Prop :=
  Spelled semver candidates v ∧
    ((∃ w, Released semver candidates w) → semver.isRelease v = true)

omit [LinearOrder V] in
theorem spelled_cons {raw : String} {rest : List String} {v : V} :
    Spelled semver (raw :: rest) v ↔ semver.parse raw = some v ∨ Spelled semver rest v := by
  simp [Spelled]

omit [LinearOrder V] in
theorem released_cons {raw : String} {rest : List String} {v : V} :
    Released semver (raw :: rest) v ↔
      semver.parse raw = some v ∧ semver.isRelease v = true ∨ Released semver rest v := by
  rw [Released, spelled_cons, or_and_right, Released]

variable {p q : V → Prop} {candidates : List String}

theorem highest_latestStep (semver : Semver V) {best : Option V × Option V} (raw : String)
    (stable : Highest p best.1) (any : Highest q best.2) :
    Highest (fun v => p v ∨ semver.parse raw = some v ∧ semver.isRelease v = true)
        (latestStep semver best raw).1 ∧
      Highest (fun v => q v ∨ semver.parse raw = some v) (latestStep semver best raw).2 := by
  unfold latestStep
  cases parsed : semver.parse raw with
  | none => exact ⟨stable.congr (by simp), any.congr (by simp)⟩
  | some v =>
    refine ⟨?_, (any.keep v).congr fun w => by simp [eq_comm]⟩
    by_cases release : semver.isRelease v = true
    · simp only [if_pos release]
      refine (stable.keep v).congr fun w => or_congr_right ⟨?_, ?_⟩
      · rintro rfl
        exact ⟨rfl, release⟩
      · rintro ⟨same, _⟩
        exact (Option.some.inj same).symm
    · simp only [if_neg release]
      refine stable.congr fun w => ⟨Or.inl, ?_⟩
      rintro (found | ⟨same, released⟩)
      · exact found
      · cases same
        exact absurd released release

theorem highest_foldl (semver : Semver V) (candidates : List String) (best : Option V × Option V)
    (stable : Highest p best.1) (any : Highest q best.2) :
    Highest (fun v => p v ∨ Released semver candidates v)
        (candidates.foldl (latestStep semver) best).1 ∧
      Highest (fun v => q v ∨ Spelled semver candidates v)
        (candidates.foldl (latestStep semver) best).2 := by
  induction candidates generalizing best p q with
  | nil => exact ⟨stable.congr (by simp [Released, Spelled]), any.congr (by simp [Spelled])⟩
  | cons raw rest ih =>
    obtain ⟨stable, any⟩ := highest_latestStep semver raw stable any
    obtain ⟨stable, any⟩ := ih _ stable any
    refine ⟨stable.congr fun v => ?_, any.congr fun v => ?_⟩
    · rw [released_cons, or_assoc]
    · rw [spelled_cons, or_assoc]

/-- `latest` spells the highest candidate. -/
theorem latest_highest (semver : Semver V) (candidates : List String) :
    ∃ best, Highest (Candidate semver candidates) best ∧
      latest semver candidates = best.map semver.render := by
  obtain ⟨stable, any⟩ := highest_foldl semver candidates
    (p := fun _ => False) (q := fun _ => False) (none, none) (fun _ => id) fun _ => id
  simp only [false_or] at stable any
  refine ⟨_, ?_, rfl⟩
  cases found : (candidates.foldl (latestStep semver) (none, none)).1 with
  | none =>
    rw [found] at stable
    refine any.congr fun v => ⟨fun spelled => ⟨spelled, ?_⟩, And.left⟩
    rintro ⟨w, released⟩
    exact absurd released (stable w)
  | some v =>
    rw [found] at stable
    refine stable.congr fun w => ⟨fun released => ⟨released.1, fun _ => released.2⟩, ?_⟩
    rintro ⟨spelled, release⟩
    exact ⟨spelled, release ⟨v, stable.1⟩⟩

theorem latest_perm {candidates' : List String} (same : candidates.Perm candidates') :
    latest semver candidates = latest semver candidates' := by
  obtain ⟨best, highest, chosen⟩ := latest_highest semver candidates
  obtain ⟨best', highest', chosen'⟩ := latest_highest semver candidates'
  have spelled : ∀ v, Spelled semver candidates v ↔ Spelled semver candidates' v := fun v =>
    exists_congr fun raw => and_congr_left' same.mem_iff
  have equal : best = best' := by
    refine highest.unique (highest'.congr fun v => ?_)
    simp only [Candidate, Released, spelled]
  rw [chosen, chosen', equal]

theorem latest_eq_some {version : String} (roundTrips : semver.RoundTrips)
    (chosen : latest semver candidates = some version) :
    version ∈ candidates ∧ ∃ v, semver.parse version = some v ∧
      ((∃ w, Released semver candidates w) → semver.isRelease v = true) := by
  obtain ⟨best, highest, chosen'⟩ := latest_highest semver candidates
  rw [chosen] at chosen'
  obtain ⟨v, rfl, rendered⟩ := Option.map_eq_some_iff.mp chosen'.symm
  obtain ⟨⟨⟨raw, member, parsed⟩, release⟩, _⟩ := highest
  obtain rfl : raw = version := (roundTrips raw v parsed).symm.trans rendered
  exact ⟨member, v, parsed, release⟩

end VersionStrings

/-! ### Pointers -/

section Pointers

variable {M V : Type} [LinearOrder V] {semver : Semver V}

/-- The pointer of an environment is what `latest` chooses now. -/
structure Env.Pointed (semver : Semver V) (env : Env M) : Prop where
  latestVersion : env.latestVersion = latest semver env.latestEligibleVersions
  unique : Unique VersionRow.version env.versions

/-- The same for a package and for a stack. -/
structure Series.Pointed (semver : Semver V) (series : Series M) : Prop where
  latestVersion : series.latestVersion = latest semver series.versionStrings
  unique : Unique VersionRow.version series.versions

/-- Every pointer of the Hub is exact. -/
structure HubStore.Pointed (semver : Semver V) (hub : HubStore M) : Prop where
  envs : ∀ env ∈ hub.envs, env.Pointed semver
  packages : ∀ series ∈ hub.packages, series.Pointed semver
  episodeStacks : ∀ series ∈ hub.episodeStacks, series.Pointed semver
  uniqueEnvs : Unique Env.envType hub.envs
  uniquePackages : Unique Series.id hub.packages
  uniqueStacks : Unique Series.id hub.episodeStacks

theorem unique_yankRow {versions : List (VersionRow M)} (version reason : String)
    (unique : Unique VersionRow.version versions) :
    Unique VersionRow.version (yankRow version reason versions) :=
  unique.update fun _ => rfl

variable {envType id kind : String} {table' : List (Series M)} {ts : Nat} {w : HubWorld M}

theorem HubStore.Pointed.updateRow {hub : HubStore M} (pointed : hub.Pointed semver)
    {f : Env M → Env M} (keeps : ∀ env, (f env).envType = env.envType)
    (kept : ∀ env, hub.findEnvRowAny envType = some env → (f env).Pointed semver) :
    (hub.updateRow envType f).Pointed semver := by
  refine { pointed with
    envs := fun env member => ?_, uniqueEnvs := pointed.uniqueEnvs.update keeps }
  rcases (mem_update pointed.uniqueEnvs keeps).mp member with ⟨member, _⟩ | ⟨env, found, rfl⟩
  · exact pointed.envs env member
  · exact kept env found

theorem HubStore.Pointed.found {hub : HubStore M} (pointed : hub.Pointed semver) {env : Env M}
    (found : hub.findEnvRowAny envType = some env) : env.Pointed semver :=
  pointed.envs env (mem_of_lookup found)

/-- The tables of packages and of stacks. -/
structure SeriesPointed (semver : Semver V) (table : List (Series M)) : Prop where
  each : ∀ series ∈ table, series.Pointed semver
  unique : Unique Series.id table

theorem SeriesPointed.update {table : List (Series M)} (pointed : SeriesPointed semver table)
    {f : Series M → Series M} (keeps : ∀ series, (f series).id = series.id)
    (kept : ∀ series, lookup Series.id id table = some series → (f series).Pointed semver) :
    SeriesPointed semver (Records.update Series.id id f table) := by
  refine ⟨fun series member => ?_, pointed.unique.update keeps⟩
  rcases (mem_update pointed.unique keeps).mp member with ⟨member, _⟩ | ⟨series, found, rfl⟩
  · exact pointed.each series member
  · exact kept series found

theorem SeriesPointed.publish {table : List (Series M)} (pointed : SeriesPointed semver table)
    {publisher description : Option String} {nv : NewVersion M}
    (published : publishSeries semver kind id publisher description nv ts table = .ok table') :
    SeriesPointed semver table' := by
  unfold publishSeries at published
  cases found : lookup Series.id id table with
  | none =>
    rw [found] at published
    cases published
    refine ⟨fun series member => ?_, pointed.unique.append found⟩
    rcases List.mem_append.mp member with member | new
    · exact pointed.each series member
    · obtain rfl := List.mem_singleton.mp new
      exact ⟨rfl, List.nodup_singleton _⟩
  | some series =>
    rw [found] at published
    cases present : lookup VersionRow.version nv.version series.versions with
    | some v =>
      simp only [present] at published
      cases published
    | none =>
      simp only [present] at published
      cases published
      refine pointed.update (fun _ => rfl) fun series' found' => ⟨rfl, ?_⟩
      obtain rfl := Option.some.inj (found.symm.trans found')
      exact (pointed.each series (mem_of_lookup found)).unique.append present

theorem SeriesPointed.yank {table : List (Series M)} (pointed : SeriesPointed semver table)
    {version reason : String}
    (yanked : yankSeries semver kind id version reason ts table = .ok table') :
    SeriesPointed semver table' := by
  unfold yankSeries at yanked
  cases known : (lookup Series.id id table).bind fun series =>
      lookup VersionRow.version version series.versions with
  | none =>
    rw [known] at yanked
    cases yanked
  | some v =>
    rw [known] at yanked
    cases yanked
    refine pointed.update (fun _ => rfl) fun series found => ⟨rfl, ?_⟩
    exact unique_yankRow _ _ (pointed.each series (mem_of_lookup found)).unique

theorem HubStore.Pointed.run {hub hub' : HubStore M} (pointed : hub.Pointed semver)
    {write : Write M} (ran : write.run semver ts hub = .ok hub') : hub'.Pointed semver := by
  cases write with
  | insertEnv newEnv =>
    unfold Write.run at ran
    cases found : hub.findEnvRowAny newEnv.envType with
    | some =>
      simp only [found] at ran
      cases ran
    | none =>
      simp only [found] at ran
      cases ran
      refine { pointed with
        envs := fun env member => ?_, uniqueEnvs := pointed.uniqueEnvs.append found }
      rcases List.mem_append.mp member with member | new
      · exact pointed.envs env member
      · obtain rfl := List.mem_singleton.mp new
        exact ⟨rfl, List.nodup_nil⟩
  | resurrectEnv =>
    cases ran
    refine pointed.updateRow (fun _ => rfl) fun env found => ?_
    exact ⟨(pointed.found found).latestVersion, (pointed.found found).unique⟩
  | updateEnv =>
    cases ran
    refine pointed.updateRow (fun _ => rfl) fun env found => ?_
    exact ⟨(pointed.found found).latestVersion, (pointed.found found).unique⟩
  | softDeleteEnv =>
    cases ran
    refine pointed.updateRow (fun _ => rfl) fun env found => ?_
    exact ⟨(pointed.found found).latestVersion, (pointed.found found).unique⟩
  | publishVersion envType nv latestEligible =>
    unfold Write.run HubStore.insertVersion at ran
    cases found : hub.findEnvRowAny envType with
    | none =>
      simp only [found] at ran
      cases ran
    | some env =>
      cases present : lookup VersionRow.version (nv.row ts latestEligible).version env.versions with
      | some v =>
        simp only [found, present] at ran
        cases ran
      | none =>
        simp only [found, present] at ran
        cases ran
        refine pointed.updateRow (fun _ => rfl) fun env' found' => ⟨rfl, ?_⟩
        obtain rfl := Option.some.inj (found.symm.trans found')
        exact (pointed.found found).unique.append present
  | yankVersion envType version =>
    unfold Write.run HubStore.yankVersion at ran
    cases known : (hub.findEnvRowAny envType).bind fun env =>
        lookup VersionRow.version version env.versions with
    | none =>
      simp only [known] at ran
      cases ran
    | some v =>
      simp only [known] at ran
      cases ran
      refine pointed.updateRow (fun _ => rfl) fun env found => ⟨rfl, ?_⟩
      exact unique_yankRow _ _ (pointed.found found).unique
  | publishPackage =>
    obtain ⟨packages, published, done⟩ := Fallible.bind_eq_ok.mp ran
    cases done
    have now := SeriesPointed.publish ⟨pointed.packages, pointed.uniquePackages⟩ published
    exact { pointed with packages := now.each, uniquePackages := now.unique }
  | publishStack =>
    obtain ⟨table, published, done⟩ := Fallible.bind_eq_ok.mp ran
    cases done
    have now := SeriesPointed.publish ⟨pointed.episodeStacks, pointed.uniqueStacks⟩ published
    exact { pointed with episodeStacks := now.each, uniqueStacks := now.unique }
  | yankStack =>
    obtain ⟨table, yanked, done⟩ := Fallible.bind_eq_ok.mp ran
    cases done
    have now := SeriesPointed.yank ⟨pointed.episodeStacks, pointed.uniqueStacks⟩ yanked
    exact { pointed with episodeStacks := now.each, uniqueStacks := now.unique }

theorem HubStore.Pointed.step {w' : HubWorld M} {a : HubLabel M} (pointed : w.hub.Pointed semver)
    (taken : w.step semver a = some w') : w'.hub.Pointed semver := by
  rcases HubWorld.step_cases taken with same | ⟨i, write, ts, rfl, called, ran⟩
  · exact same ▸ pointed
  · exact pointed.run ran

theorem HubStore.pointed_empty : ({} : HubStore M).Pointed semver where
  envs := fun _ member => absurd member List.not_mem_nil
  packages := fun _ member => absurd member List.not_mem_nil
  episodeStacks := fun _ member => absurd member List.not_mem_nil
  uniqueEnvs := List.nodup_nil
  uniquePackages := List.nodup_nil
  uniqueStacks := List.nodup_nil

theorem HubStore.Pointed.reachable (reached : Reachable (hubSystem semver) w) :
    w.hub.Pointed semver := by
  apply ReachableWhen.invariant (motive := fun w => w.hub.Pointed semver) ?_ ?_ reached
  · rintro w ⟨empty, _⟩
    rw [empty]
    exact HubStore.pointed_empty
  · intro w a w' _ pointed _ taken
    exact pointed.step taken

/-! ### What a reader of `latest` gets -/

/-- A pointer is what `latest` chooses from the rows in any order. It names one of them, and not a
pre-release while one of them is a release. -/
structure PointsToLatest (semver : Semver V) (pointer : Option String) (rows : List String) :
    Prop where
  latest : ∀ rows' : List String, rows'.Perm rows → pointer = latest semver rows'
  release : ∀ version, pointer = some version → version ∈ rows ∧
    ∃ v, semver.parse version = some v ∧
      ((∃ w, Released semver rows w) → semver.isRelease v = true)

/-- The pointer of a live environment, and `latest_manifest`. -/
structure Env.ServesLatest (semver : Semver V) (hub : HubStore M) (env : Env M) : Prop where
  pointer : PointsToLatest semver env.latestVersion env.latestEligibleVersions
  none : env.latestVersion = none → hub.latestManifest semver env.envType =
    .error (.notFound "version" (env.envType ++ "@latest"))
  some : ∀ version, env.latestVersion = some version →
    ∃ v ∈ env.versions, v.version = version ∧ v.eligible = true ∧
      hub.latestManifest semver env.envType = .ok (env.assembleManifest v)

/-- The pointer of a package or of a stack, and its manifest. -/
structure Series.ServesLatest (semver : Semver V) (kindOfVersion : String)
    (manifest : String → String → Except HubError (VersionRow M)) (series : Series M) : Prop where
  pointer : PointsToLatest semver series.latestVersion series.versionStrings
  none : series.latestVersion = none → manifest series.id "latest" =
    .error (.notFound kindOfVersion (series.id ++ "@latest"))
  some : ∀ version, series.latestVersion = some version →
    ∃ v ∈ series.versions, v.version = version ∧ v.isYanked = false ∧
      manifest series.id "latest" = .ok v

theorem pointsToLatest {pointer : Option String} {rows : List String}
    (roundTrips : semver.RoundTrips) (exact : pointer = latest semver rows) :
    PointsToLatest semver pointer rows where
  latest := fun _ same => exact.trans (latest_perm same.symm)
  release := fun _ chosen => latest_eq_some roundTrips (exact.symm.trans chosen)

theorem Env.Pointed.serves {hub : HubStore M} {env : Env M} (roundTrips : semver.RoundTrips)
    (pointed : env.Pointed semver) (found : hub.findEnvRow env.envType = some env) :
    env.ServesLatest semver hub := by
  have required : hub.requireEnvRow env.envType = .ok env := by
    rw [HubStore.requireEnvRow, found]
  have manifest : hub.latestManifest semver env.envType = env.latestVersion.elim
      (.error (.notFound "version" (env.envType ++ "@latest"))) (hub.getManifest env.envType) := by
    rw [HubStore.latestManifest, required, Fallible.ok_bind, pointed.latestVersion]
    cases latest semver env.latestEligibleVersions <;> rfl
  refine ⟨pointsToLatest roundTrips pointed.latestVersion, fun empty => ?_, fun version named => ?_⟩
  · rw [manifest, empty, Option.elim_none]
  · have chosen := pointed.latestVersion.symm.trans named
    obtain ⟨member, _⟩ := latest_eq_some roundTrips chosen
    obtain ⟨v, selected, rfl⟩ := List.mem_map.mp member
    obtain ⟨member, eligible⟩ := List.mem_filter.mp selected
    refine ⟨v, member, rfl, eligible, ?_⟩
    rw [manifest, named]
    change hub.getManifest env.envType v.version = _
    rw [HubStore.getManifest, required, Fallible.ok_bind, lookup_of_mem pointed.unique member]

theorem Series.Pointed.serves {table : List (Series M)} {series : Series M} {kindOfVersion : String}
    (roundTrips : semver.RoundTrips) (pointed : series.Pointed semver)
    (found : lookup Series.id series.id table = some series) :
    series.ServesLatest semver kindOfVersion
      fun id version => getSeriesManifest kind kindOfVersion id version table := by
  have required : requireSeries kind series.id table = .ok series := by
    rw [requireSeries, found]
  refine ⟨pointsToLatest roundTrips pointed.latestVersion, fun empty => ?_, fun version named => ?_⟩
  · simp only [getSeriesManifest, required, Fallible.ok_bind, if_pos, empty]
    rfl
  · have chosen := pointed.latestVersion.symm.trans named
    obtain ⟨member, _⟩ := latest_eq_some roundTrips chosen
    obtain ⟨v, selected, rfl⟩ := List.mem_map.mp member
    obtain ⟨member, unyanked⟩ := List.mem_filter.mp selected
    refine ⟨v, member, rfl, by simpa using unyanked, ?_⟩
    simp only [getSeriesManifest, required, Fallible.ok_bind, if_pos, named]
    rw [lookup_of_mem pointed.unique member]

/-- In every reachable state the pointers are exact and `latest` resolves to them. -/
theorem latest_exact {w : HubWorld M} (roundTrips : semver.RoundTrips)
    (reached : Reachable (hubSystem semver) w) :
    (∀ env ∈ w.hub.envs, env.isDeleted = false → env.ServesLatest semver w.hub) ∧
      (∀ series ∈ w.hub.packages,
        series.ServesLatest semver "package version" w.hub.getPackageManifest) ∧
      ∀ series ∈ w.hub.episodeStacks,
        series.ServesLatest semver "episode stack version" w.hub.getStackManifest := by
  have pointed := HubStore.Pointed.reachable reached
  refine ⟨fun env member live => ?_, fun series member => ?_, fun series member => ?_⟩
  · refine (pointed.envs env member).serves roundTrips ?_
    rw [HubStore.findEnvRow, HubStore.findEnvRowAny, lookup_of_mem pointed.uniqueEnvs member]
    simp [Option.filter, live]
  · exact (pointed.packages series member).serves roundTrips
      (lookup_of_mem pointed.uniquePackages member)
  · exact (pointed.episodeStacks series member).serves roundTrips
      (lookup_of_mem pointed.uniqueStacks member)

end Pointers

/-! ### A run -/

/-- The versions `1.0.0 < 1.1.0-rc.1`. -/
def twoVersions : Semver Nat where
  parse raw := if raw = "1.0.0" then some 0 else if raw = "1.1.0-rc.1" then some 1 else none
  render v := if v = 0 then "1.0.0" else "1.1.0-rc.1"
  isRelease v := v = 0

theorem twoVersions_roundTrips : twoVersions.RoundTrips := by
  intro raw v parsed
  simp only [twoVersions] at parsed ⊢
  split at parsed
  · cases parsed
    rw [if_pos rfl]
    exact Eq.symm ‹_›
  · split at parsed
    · cases parsed
      rw [if_neg Nat.one_ne_zero]
      exact Eq.symm ‹_›
    · cases parsed

/-- A call that runs alone. -/
def alone (request : Request Unit) : List (HubLabel Unit) :=
  [.start request, .stamp 0, .commit 0]

/-- The pre-release comes first and the release takes the pointer from it. -/
def publishBoth : List (HubLabel Unit) :=
  alone (.createEnv { envType := "qa", envNamespace := "default" }) ++
    alone (.publishVersionGated "qa" { version := "1.1.0-rc.1", content := () } none {}) ++
    alone (.publishVersionGated "qa" { version := "1.0.0", content := () } none {})

theorem latest_exact_publishBoth : ∃ w, (hubSystem twoVersions).exec {} publishBoth = some w ∧
      w.hub.envs.map Env.latestVersion = [some "1.0.0"] ∧
      ∀ env ∈ w.hub.envs, env.isDeleted = false → env.ServesLatest twoVersions w.hub := by
  have pointers : ((hubSystem twoVersions).exec {} publishBoth).map
      (fun w => w.hub.envs.map Env.latestVersion) = some [some "1.0.0"] := by
    decide +kernel
  obtain ⟨w, ran, pointers⟩ := Option.map_eq_some_iff.mp pointers
  have initial : (hubSystem twoVersions).init ({} : HubWorld Unit) := ⟨rfl, rfl⟩
  have reached := Reachable.of_exec initial publishBoth ran
  exact ⟨w, ran, pointers, (latest_exact twoVersions_roundTrips reached).1⟩

end UEnv.Hub
