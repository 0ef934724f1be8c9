import UEnv.Obs.Events
import UEnv.Worker.Evaluation

/-!
# The runtime contract of a package

`BenchmarkRuntimeContract`, as `EnvPackageDir::load` reads it from the worker overlay of a package
and `apply_default_runtime_contract` merges it into the instances that have none. Against it stands
what an overlay declares: every field that it has, and no other.
-/

namespace UEnv.Worker.RuntimeContract

open Obs (Json)
open Evaluation (RewardAdapterKind)

/-! ### Contracts -/

inductive PatchSemantics
  | alreadyBuggy
  | bugToFix
  | cleanToBuggy
  deriving DecidableEq

inductive ModelPatchBase
  | imageState
  | provisionedState
  deriving DecidableEq

inductive ModelPatchCollect
  | gitDiff
  deriving DecidableEq

structure InitialState where
  source : String
  patchSemantics : PatchSemantics
  provisionPatch : PatchMode
  commitAfterProvision : Bool
  deriving DecidableEq

structure ModelPatch where
  base : ModelPatchBase
  collect : ModelPatchCollect
  deriving DecidableEq

structure Gold where
  patchMode : PatchMode
  deriving DecidableEq

structure Reward where
  adapter : RewardAdapterKind
  commandEnv : Option String
  authority : String
  fallback : String
  deriving DecidableEq

/-- `BenchmarkRuntimeContract`. -/
structure Contract where
  kind : String
  workspaceDir : Option String
  initialState : InitialState
  modelPatch : ModelPatch
  gold : Gold
  reward : Reward
  deriving DecidableEq

/-! `Default` of the parts. -/

/-- `default` (runtime_contract.rs, 91-98). -/
def InitialState.default : InitialState where
  source := "image"
  patchSemantics := .alreadyBuggy
  provisionPatch := .none
  commitAfterProvision := false

/-- `default` (runtime_contract.rs, 110-115). -/
def ModelPatch.default : ModelPatch where
  base := .provisionedState
  collect := .gitDiff

/-- `default` (runtime_contract.rs, 125-129). -/
def Gold.default : Gold where
  patchMode := .applyDatasetPatch

/-- `default` (runtime_contract.rs, 145-152). -/
def Reward.default : Reward where
  adapter := .internalPytest
  commandEnv := none
  authority := "internal_pytest"
  fallback := ""

def Contract.forVariant : BenchmarkVariant → Contract
  | .pro =>
    { kind := "swe"
      workspaceDir := some "/app"
      initialState :=
        { source := "image"
          patchSemantics := .bugToFix
          provisionPatch := .none
          commitAfterProvision := false }
      modelPatch := .default
      gold := { patchMode := .applyDatasetPatch }
      reward :=
        { adapter := .internalWithExternalOverride
          commandEnv := some "UENV_SWE_PRO_EVAL_CMD"
          authority := "swebench_pro"
          fallback := "internal_pytest_parser" } }
  | .smith =>
    { kind := "swe"
      workspaceDir := some "/testbed"
      initialState :=
        { source := "image"
          patchSemantics := .cleanToBuggy
          provisionPatch := .applyDatasetPatch
          commitAfterProvision := true }
      modelPatch := .default
      gold := { patchMode := .reverseDatasetPatch }
      reward :=
        { adapter := .internalWithExternalOverride
          commandEnv := some "UENV_SWE_SMITH_EVAL_CMD"
          authority := "official_swesmith"
          fallback := "internal_pytest_parser_diagnostic" } }
  | .verified | .lite =>
    { kind := "swe"
      workspaceDir := some "/testbed"
      initialState :=
        { source := "image"
          patchSemantics := .bugToFix
          provisionPatch := .none
          commitAfterProvision := false }
      modelPatch := .default
      gold := { patchMode := .applyDatasetPatch }
      reward := .default }

/-- `merge_overlay` (runtime_contract.rs, 232-244). -/
def Contract.mergeOverlay (base overlay : Contract) : Contract where
  kind := if isBlank overlay.kind then base.kind else overlay.kind
  workspaceDir := if overlay.workspaceDir.isSome then overlay.workspaceDir else base.workspaceDir
  initialState := overlay.initialState
  modelPatch := overlay.modelPatch
  gold := overlay.gold
  reward := overlay.reward

/-! ### Reading -/

/-- The members of a record that has the fields `names`: by name in an object, by place in an
array. -/
def members (names : List String) : Json → Option (String → Option Json)
  | .obj fields => some fun name => fields.lookup name
  | .arr items =>
    if items.length ≤ names.length then some fun name => (names.zip items).lookup name else none
  | _ => none

/-- The name of a variant without data. -/
def variantName : Json → Option String
  | .str name => some name
  | .obj [(name, .null)] => some name
  | _ => none

def readPatchMode (json : Json) : Option PatchMode :=
  match variantName json with
  | some "none" => some .none
  | some "apply_dataset_patch" => some .applyDatasetPatch
  | some "reverse_dataset_patch" => some .reverseDatasetPatch
  | _ => none

def readPatchSemantics (json : Json) : Option PatchSemantics :=
  match variantName json with
  | some "already_buggy" => some .alreadyBuggy
  | some "bug_to_fix" => some .bugToFix
  | some "clean_to_buggy" => some .cleanToBuggy
  | _ => none

def readModelPatchBase (json : Json) : Option ModelPatchBase :=
  match variantName json with
  | some "image_state" => some .imageState
  | some "provisioned_state" => some .provisionedState
  | _ => none

def readModelPatchCollect (json : Json) : Option ModelPatchCollect :=
  match variantName json with
  | some "git_diff" => some .gitDiff
  | _ => none

def readRewardAdapterKind (json : Json) : Option RewardAdapterKind :=
  match variantName json with
  | some "internal_pytest" => some .internalPytest
  | some "external_command" => some .externalCommand
  | some "internal_with_external_override" => some .internalWithExternalOverride
  | _ => none

/-- An `Option<String>`. -/
def readOptional : Json → Option (Option String)
  | .null => some none
  | .str s => some (some s)
  | _ => none

/-- A field with `#[serde(default)]`. -/
def readField {α : Type} (field : Option Json) (read : Json → Option α) (default : α) : Option α :=
  match field with
  | some json => read json
  | none => some default

def InitialState.read (json : Json) : Option InitialState := do
  let get ← members
    ["source", "patch_semantics", "provision_patch", "commit_after_provision"] json
  some
    { source := ← readField (get "source") Json.asStr ""
      patchSemantics := ← readField (get "patch_semantics") readPatchSemantics .alreadyBuggy
      provisionPatch := ← readField (get "provision_patch") readPatchMode .none
      commitAfterProvision := ← readField (get "commit_after_provision") Json.asBool false }

def ModelPatch.read (json : Json) : Option ModelPatch := do
  let get ← members ["base", "collect"] json
  some
    { base := ← readField (get "base") readModelPatchBase .provisionedState
      collect := ← readField (get "collect") readModelPatchCollect .gitDiff }

def Gold.read (json : Json) : Option Gold := do
  let get ← members ["patch_mode"] json
  some { patchMode := ← readField (get "patch_mode") readPatchMode .none }

def Reward.read (json : Json) : Option Reward := do
  let get ← members ["adapter", "command_env", "authority", "fallback"] json
  some
    { adapter := ← readField (get "adapter") readRewardAdapterKind .internalPytest
      commandEnv := ← readField (get "command_env") readOptional none
      authority := ← readField (get "authority") Json.asStr ""
      fallback := ← readField (get "fallback") Json.asStr "" }

/-- `serde_json::from_value`. -/
def Contract.read (json : Json) : Option Contract := do
  let get ← members
    ["kind", "workspace_dir", "initial_state", "model_patch", "gold", "reward"] json
  some
    { kind := ← readField (get "kind") Json.asStr ""
      workspaceDir := ← readField (get "workspace_dir") readOptional none
      initialState := ← readField (get "initial_state") InitialState.read .default
      modelPatch := ← readField (get "model_patch") ModelPatch.read .default
      gold := ← readField (get "gold") Gold.read .default
      reward := ← readField (get "reward") Reward.read .default }

/-- The overlay of a manifest: `/swe/benchmark_runtime`, or else `/swe/runtime_contract`. -/
def overlayOf (manifest : Json) : Option Json := do
  let swe ← (← manifest.get "worker_overlay").get "swe"
  (swe.get "benchmark_runtime").or (swe.get "runtime_contract")

/-- `runtime_contract` of `EnvPackageDir::load`. -/
def loadContract (manifest : Json) : Option Contract :=
  (overlayOf manifest).bind Contract.read

/-! ### Instances -/

/-- `SweInstance`, as far as its contract is concerned. -/
structure Instance where
  variant : BenchmarkVariant
  runtimeContract : Option Contract := none
  deriving DecidableEq

/-- `runtime_contract()`. -/
def Instance.contract (inst : Instance) : Contract :=
  inst.runtimeContract.getD (.forVariant inst.variant)

/-- `apply_default_runtime_contract`. -/
def Instance.applyDefault (inst : Instance) (contract : Contract) : Instance :=
  if inst.runtimeContract.isNone then
    { inst with runtimeContract := some ((Contract.forVariant inst.variant).mergeOverlay contract) }
  else inst

/-- The instance of a store that is loaded with a package. -/
def Instance.withPackage (inst : Instance) (manifest : Json) : Instance :=
  match loadContract manifest with
  | some contract => inst.applyDefault contract
  | none => inst

/-! ### Declarations -/

/-- The fields that an overlay has. -/
structure InitialState.Declared where
  source : Option String
  patchSemantics : Option PatchSemantics
  provisionPatch : Option PatchMode
  commitAfterProvision : Option Bool

structure ModelPatch.Declared where
  base : Option ModelPatchBase
  collect : Option ModelPatchCollect

structure Gold.Declared where
  patchMode : Option PatchMode

structure Reward.Declared where
  adapter : Option RewardAdapterKind
  commandEnv : Option (Option String)
  authority : Option String
  fallback : Option String

structure Declared where
  kind : Option String
  workspaceDir : Option (Option String)
  initialState : Option InitialState.Declared
  modelPatch : Option ModelPatch.Declared
  gold : Option Gold.Declared
  reward : Option Reward.Declared

/-- A field that may be absent. -/
def declaredField {α : Type} (field : Option Json) (read : Json → Option α) : Option (Option α) :=
  match field with
  | some json => (read json).map some
  | none => some none

def InitialState.declared (json : Json) : Option InitialState.Declared := do
  let get ← members
    ["source", "patch_semantics", "provision_patch", "commit_after_provision"] json
  some
    { source := ← declaredField (get "source") Json.asStr
      patchSemantics := ← declaredField (get "patch_semantics") readPatchSemantics
      provisionPatch := ← declaredField (get "provision_patch") readPatchMode
      commitAfterProvision := ← declaredField (get "commit_after_provision") Json.asBool }

def ModelPatch.declared (json : Json) : Option ModelPatch.Declared := do
  let get ← members ["base", "collect"] json
  some
    { base := ← declaredField (get "base") readModelPatchBase
      collect := ← declaredField (get "collect") readModelPatchCollect }

def Gold.declared (json : Json) : Option Gold.Declared := do
  let get ← members ["patch_mode"] json
  some { patchMode := ← declaredField (get "patch_mode") readPatchMode }

def Reward.declared (json : Json) : Option Reward.Declared := do
  let get ← members ["adapter", "command_env", "authority", "fallback"] json
  some
    { adapter := ← declaredField (get "adapter") readRewardAdapterKind
      commandEnv := ← declaredField (get "command_env") readOptional
      authority := ← declaredField (get "authority") Json.asStr
      fallback := ← declaredField (get "fallback") Json.asStr }

/-- What an overlay declares, if every field that it has is well typed. -/
def declared (json : Json) : Option Declared := do
  let get ← members
    ["kind", "workspace_dir", "initial_state", "model_patch", "gold", "reward"] json
  some
    { kind := ← declaredField (get "kind") Json.asStr
      workspaceDir := ← declaredField (get "workspace_dir") readOptional
      initialState := ← declaredField (get "initial_state") InitialState.declared
      modelPatch := ← declaredField (get "model_patch") ModelPatch.declared
      gold := ← declaredField (get "gold") Gold.declared
      reward := ← declaredField (get "reward") Reward.declared }

/-- The declared fields, and for the others those of a base. -/
def InitialState.Declared.fill (d : InitialState.Declared) (base : InitialState) :
    InitialState where
  source := d.source.getD base.source
  patchSemantics := d.patchSemantics.getD base.patchSemantics
  provisionPatch := d.provisionPatch.getD base.provisionPatch
  commitAfterProvision := d.commitAfterProvision.getD base.commitAfterProvision

def ModelPatch.Declared.fill (d : ModelPatch.Declared) (base : ModelPatch) : ModelPatch where
  base := d.base.getD base.base
  collect := d.collect.getD base.collect

def Gold.Declared.fill (d : Gold.Declared) (base : Gold) : Gold where
  patchMode := d.patchMode.getD base.patchMode

def Reward.Declared.fill (d : Reward.Declared) (base : Reward) : Reward where
  adapter := d.adapter.getD base.adapter
  commandEnv := d.commandEnv.getD base.commandEnv
  authority := d.authority.getD base.authority
  fallback := d.fallback.getD base.fallback

def Declared.fill (d : Declared) (base : Contract) : Contract where
  kind := d.kind.getD base.kind
  workspaceDir := d.workspaceDir.getD base.workspaceDir
  initialState := d.initialState.elim base.initialState fun part => part.fill base.initialState
  modelPatch := d.modelPatch.elim base.modelPatch fun part => part.fill base.modelPatch
  gold := d.gold.elim base.gold fun part => part.fill base.gold
  reward := d.reward.elim base.reward fun part => part.fill base.reward

/-! ### What a declaration becomes -/

theorem readField_eq_declaredField {α : Type} (field : Option Json) (read : Json → Option α)
    (default : α) :
    readField field read default = (declaredField field read).map (·.getD default) := by
  cases field with
  | none => rfl
  | some json => cases found : read json <;> simp [readField, declaredField, found]

/-- The fields of an overlay, where those that it does not have take the defaults of `serde`. -/
def InitialState.serde : InitialState where
  source := ""
  patchSemantics := .alreadyBuggy
  provisionPatch := .none
  commitAfterProvision := false

def Gold.serde : Gold where
  patchMode := .none

def Reward.serde : Reward where
  adapter := .internalPytest
  commandEnv := none
  authority := ""
  fallback := ""

/-- The contract that a declaration is read as. -/
def Declared.asRead (d : Declared) : Contract where
  kind := d.kind.getD ""
  workspaceDir := d.workspaceDir.getD none
  initialState := (d.initialState.map fun part => part.fill .serde).getD .default
  modelPatch := (d.modelPatch.map fun part => part.fill .default).getD .default
  gold := (d.gold.map fun part => part.fill .serde).getD .default
  reward := (d.reward.map fun part => part.fill .serde).getD .default

theorem InitialState.read_eq (json : Json) :
    InitialState.read json = (InitialState.declared json).map (·.fill .serde) := by
  unfold InitialState.read InitialState.declared
  simp only [readField_eq_declaredField, Option.bind_eq_bind, Option.map_bind, Option.bind_map,
    Function.comp_def, Option.map_some, InitialState.Declared.fill, InitialState.serde]

theorem ModelPatch.read_eq (json : Json) :
    ModelPatch.read json = (ModelPatch.declared json).map (·.fill .default) := by
  unfold ModelPatch.read ModelPatch.declared
  simp only [readField_eq_declaredField, Option.bind_eq_bind, Option.map_bind, Option.bind_map,
    Function.comp_def, Option.map_some, ModelPatch.Declared.fill, ModelPatch.default]

theorem Gold.read_eq (json : Json) : Gold.read json = (Gold.declared json).map (·.fill .serde) := by
  unfold Gold.read Gold.declared
  simp only [readField_eq_declaredField, Option.bind_eq_bind, Option.map_bind, Option.bind_map,
    Function.comp_def, Option.map_some, Gold.Declared.fill, Gold.serde]

theorem Reward.read_eq (json : Json) :
    Reward.read json = (Reward.declared json).map (·.fill .serde) := by
  unfold Reward.read Reward.declared
  simp only [readField_eq_declaredField, Option.bind_eq_bind, Option.map_bind, Option.bind_map,
    Function.comp_def, Option.map_some, Reward.Declared.fill, Reward.serde]

theorem declaredField_map {α β : Type} {read : Json → Option β} {declared : Json → Option α}
    {fill : α → β} (read_eq : ∀ json, read json = (declared json).map fill)
    (field : Option Json) :
    declaredField field read = (declaredField field declared).map (·.map fill) := by
  cases field with
  | none => rfl
  | some => simp [declaredField, read_eq, Function.comp_def]

theorem Contract.read_eq (json : Json) :
    Contract.read json = (declared json).map Declared.asRead := by
  unfold Contract.read declared
  simp only [readField_eq_declaredField, declaredField_map InitialState.read_eq,
    declaredField_map ModelPatch.read_eq, declaredField_map Gold.read_eq,
    declaredField_map Reward.read_eq, Option.bind_eq_bind, Option.map_bind, Option.bind_map,
    Function.comp_def, Option.map_some, Declared.asRead]

/-! ### Overriding -/

/-- Every field that is declared has the declared value, every other one the value that the
variant has, and a second application changes nothing. -/
structure OverridesOnly (inst : Instance) (manifest : Json) (d : Declared) : Prop where
  fields : (inst.withPackage manifest).contract = d.fill (.forVariant inst.variant)
  again : (inst.withPackage manifest).withPackage manifest = inst.withPackage manifest

/-- The variants that have a command for their official evaluation. -/
def hasOfficialEval (variant : BenchmarkVariant) : Prop :=
  variant = .pro ∨ variant = .smith

/-- What has to be declared for a variant: the kind and the working directory, if at all, with a
value; the initial state with all that differs from an empty one; the other parts in full, or not
at all where the variant has the default. -/
structure Declared.Covers (d : Declared) (variant : BenchmarkVariant) : Prop where
  kind : ∀ kind, d.kind = some kind → isBlank kind = false
  workspaceDir : d.workspaceDir ≠ some none
  initialState : ∃ part, d.initialState = some part ∧ part.source.isSome ∧
    part.patchSemantics.isSome ∧
    (variant = .smith → part.provisionPatch.isSome ∧ part.commitAfterProvision.isSome)
  gold : d.gold.elim (variant ≠ .smith) fun part => part.patchMode.isSome
  reward : d.reward.elim (¬ hasOfficialEval variant) fun part => part.authority.isSome ∧
    (hasOfficialEval variant →
      part.adapter.isSome ∧ part.commandEnv.isSome ∧ part.fallback.isSome)

section Exactness

variable (variant : BenchmarkVariant)

theorem kind_kept_iff (declared : Option String) :
    (if isBlank (declared.getD "") then (Contract.forVariant variant).kind
      else declared.getD "") = declared.getD (Contract.forVariant variant).kind ↔
      ∀ kind, declared = some kind → isBlank kind = false := by
  have named : (Contract.forVariant variant).kind = "swe" := by cases variant <;> rfl
  rw [named]
  cases declared with
  | none => simp [show isBlank "" = true by decide]
  | some kind =>
    cases blank : isBlank kind with
    | false => simp [blank]
    | true =>
      have other : "swe" ≠ kind := by
        rintro rfl
        exact absurd blank (by decide)
      simp [blank, other]

theorem workspaceDir_kept_iff (declared : Option (Option String)) :
    (if (declared.getD none).isSome then declared.getD none
      else (Contract.forVariant variant).workspaceDir) =
        declared.getD (Contract.forVariant variant).workspaceDir ↔ declared ≠ some none := by
  have present : (Contract.forVariant variant).workspaceDir ≠ none := by
    cases variant <;> simp [Contract.forVariant]
  rcases declared with _ | _ | dir <;> simp [present]

theorem initialState_kept_iff (declared : Option InitialState.Declared) :
    (declared.map fun part => part.fill .serde).getD .default =
        declared.elim (Contract.forVariant variant).initialState
          (fun part => part.fill (Contract.forVariant variant).initialState) ↔
      ∃ part, declared = some part ∧ part.source.isSome ∧ part.patchSemantics.isSome ∧
        (variant = .smith → part.provisionPatch.isSome ∧ part.commitAfterProvision.isSome) := by
  cases declared with
  | none => cases variant <;> simp [Contract.forVariant, InitialState.default]
  | some part =>
    obtain ⟨source, semantics, provision, commit⟩ := part
    cases source <;> cases semantics <;> cases provision <;> cases commit <;> cases variant <;>
      simp [Contract.forVariant, InitialState.serde, InitialState.Declared.fill]

theorem gold_kept_iff (declared : Option Gold.Declared) :
    (declared.map fun part => part.fill .serde).getD .default =
        declared.elim (Contract.forVariant variant).gold
          (fun part => part.fill (Contract.forVariant variant).gold) ↔
      declared.elim (variant ≠ .smith) fun part => part.patchMode.isSome := by
  cases declared with
  | none => cases variant <;> simp [Contract.forVariant, Gold.default]
  | some part =>
    obtain ⟨mode⟩ := part
    cases mode <;> cases variant <;>
      simp [Contract.forVariant, Gold.serde, Gold.Declared.fill]

theorem reward_kept_iff (declared : Option Reward.Declared) :
    (declared.map fun part => part.fill .serde).getD .default =
        declared.elim (Contract.forVariant variant).reward
          (fun part => part.fill (Contract.forVariant variant).reward) ↔
      declared.elim (¬ hasOfficialEval variant) fun part => part.authority.isSome ∧
        (hasOfficialEval variant →
          part.adapter.isSome ∧ part.commandEnv.isSome ∧ part.fallback.isSome) := by
  cases declared with
  | none => cases variant <;> simp [Contract.forVariant, Reward.default, hasOfficialEval]
  | some part =>
    obtain ⟨adapter, commandEnv, authority, fallback⟩ := part
    cases adapter <;> cases commandEnv <;> cases authority <;> cases fallback <;>
      cases variant <;>
      simp [Contract.forVariant, Reward.serde, Reward.default, Reward.Declared.fill,
        hasOfficialEval]

theorem modelPatch_kept (declared : Option ModelPatch.Declared) :
    (declared.map fun part => part.fill .default).getD .default =
      declared.elim (Contract.forVariant variant).modelPatch
        (fun part => part.fill (Contract.forVariant variant).modelPatch) := by
  cases declared <;> cases variant <;> rfl

theorem merged_iff (d : Declared) :
    (Contract.forVariant variant).mergeOverlay d.asRead = d.fill (.forVariant variant) ↔
      d.Covers variant := by
  unfold Contract.mergeOverlay Declared.asRead Declared.fill
  rw [Contract.mk.injEq, kind_kept_iff, workspaceDir_kept_iff, initialState_kept_iff,
    gold_kept_iff, reward_kept_iff]
  constructor
  · rintro ⟨kind, dir, initial, -, gold, reward⟩
    exact ⟨kind, dir, initial, gold, reward⟩
  · rintro ⟨kind, dir, initial, gold, reward⟩
    exact ⟨kind, dir, initial, modelPatch_kept variant d.modelPatch, gold, reward⟩

end Exactness

theorem applyDefault_applyDefault (inst : Instance) (contract : Contract) :
    (inst.applyDefault contract).applyDefault contract = inst.applyDefault contract := by
  cases own : inst.runtimeContract <;> simp [Instance.applyDefault, own]

theorem withPackage_withPackage (inst : Instance) (manifest : Json) :
    (inst.withPackage manifest).withPackage manifest = inst.withPackage manifest := by
  unfold Instance.withPackage
  cases loadContract manifest with
  | none => rfl
  | some contract => exact applyDefault_applyDefault inst contract

theorem withPackage_contract {inst : Instance} {manifest overlay : Json} {d : Declared}
    (bare : inst.runtimeContract = none) (found : overlayOf manifest = some overlay)
    (declares : declared overlay = some d) :
    (inst.withPackage manifest).contract =
      (Contract.forVariant inst.variant).mergeOverlay d.asRead := by
  have loaded : loadContract manifest = some d.asRead := by
    rw [loadContract, found, Option.bind_some, Contract.read_eq, declares, Option.map_some]
  simp [Instance.withPackage, loaded, Instance.applyDefault, bare, Instance.contract]

/-- A package overrides only what it declares exactly if it covers what the variant has apart from
the defaults of `serde`. -/
theorem overrides_only_iff (inst : Instance) (manifest overlay : Json) (d : Declared)
    (bare : inst.runtimeContract = none) (found : overlayOf manifest = some overlay)
    (declares : declared overlay = some d) :
    OverridesOnly inst manifest d ↔ d.Covers inst.variant := by
  rw [← merged_iff]
  constructor
  · rintro ⟨fields, -⟩
    rwa [← withPackage_contract bare found declares]
  · intro kept
    exact ⟨(withPackage_contract bare found declares).trans kept,
      withPackage_withPackage inst manifest⟩

/-- A manifest with a contract. -/
def manifestWith (overlay : Json) : Json :=
  .obj [("worker_overlay", .obj [("swe", .obj [("benchmark_runtime", overlay)])])]

/-- A package that declares its working directory. -/
def relocated : Json :=
  .obj [("workspace_dir", .str "/work")]

def relocatedFields : Declared where
  kind := none
  workspaceDir := some (some "/work")
  initialState := none
  modelPatch := none
  gold := none
  reward := none

/-- A package that declares the initial state as far as it differs from an empty one. -/
def stated : Json :=
  .obj [("initial_state", .obj [("source", .str "image"),
    ("patch_semantics", .str "bug_to_fix")])]

def statedFields : Declared where
  kind := none
  workspaceDir := none
  initialState := some {
    source := some "image", patchSemantics := some .bugToFix
    provisionPatch := none, commitAfterProvision := none }
  modelPatch := none
  gold := none
  reward := none

theorem overrides_only_relocated :
    ¬ OverridesOnly { variant := .smith } (manifestWith relocated) relocatedFields ∧
      OverridesOnly { variant := .lite } (manifestWith stated) statedFields := by
  constructor
  · have covered := overrides_only_iff { variant := .smith } (manifestWith relocated) relocated
      relocatedFields rfl rfl rfl
    rw [covered]
    rintro ⟨-, -, ⟨part, declares, -⟩, -, -⟩
    cases declares
  · refine (overrides_only_iff { variant := .lite } (manifestWith stated) stated statedFields rfl
      rfl rfl).mpr ⟨nofun, nofun, ⟨_, rfl, rfl, rfl, nofun⟩, nofun, ?_⟩
    rintro (pro | smith)
    · cases pro
    · cases smith

/-- A Smith package that declares its working directory alone: nothing is provisioned and the
internal tests decide. -/
theorem relocated_loses_baseline : declared relocated = some relocatedFields ∧
      (({ variant := .smith } : Instance).withPackage (manifestWith relocated)).contract =
        { Contract.forVariant .smith with
          workspaceDir := some "/work"
          initialState := .default
          gold := .default
          reward := .default } ∧
      ¬ OverridesOnly { variant := .smith } (manifestWith relocated) relocatedFields := by
  refine ⟨rfl, rfl, ?_⟩
  rintro ⟨fields, -⟩
  exact absurd fields (by decide)

end UEnv.Worker.RuntimeContract
