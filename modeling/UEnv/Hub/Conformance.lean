import UEnv.Hub.PythonModels

/-!
# The conformance gate on an imported environment

The checks C02 and C04 of `conformance.rs`: the contract is complete, and its properties are those
of the classes in `models.py`. The importer of `openenv.rs` takes the class that `openenv.yaml`
names, the gate the first one that has the base.
-/

namespace UEnv.Hub

open Obs

/-! ### Checks -/

inductive CheckStatus
  | pass
  | warn
  | fail
  | skip
  deriving DecidableEq

/-- The properties of one side that only `models.py` has and those that only the manifest has. -/
structure Drift where
  side : Kind
  onlyImpl : List String
  onlyManifest : List String
  deriving DecidableEq

/-- What a check found: the sides without a schema, or the drift. -/
inductive Detail
  | text (detail : String)
  | missing (sides : List Kind)
  | drift (sides : List Drift)
  deriving DecidableEq

structure Check where
  id : String
  title : String
  status : CheckStatus
  detail : Detail
  deriving DecidableEq

def Kind.sides : List Kind := [.action, .observation, .state]

/-- The check C02. -/
def contractComplete (interface : InterfaceSchema) : Check :=
  let missing := Kind.sides.filter fun kind => (interface.side kind).isNone
  { id := "C02"
    title := "OpenEnv contract completeness (action/observation/state)"
    status := if missing.isEmpty then .pass else .fail
    detail := if missing.isEmpty then .text "all three JSON Schemas declared"
      else .missing missing }

/-- `schema_property_names` (conformance.rs, 122-128). -/
def schemaPropertyNames (schema : Option Json) : List String :=
  match schema.bind (Json.get "properties") with
  | some (.obj fields) => fields.map Prod.fst
  | _ => []

/-- The drift of one side; none if `models.py` has no class for it. -/
def sideDrift (classes : List PyClass) (interface : InterfaceSchema) (kind : Kind) :
    Option Drift :=
  match schemaFor classes none kind with
  | none => none
  | some impl =>
    let fromImpl := schemaPropertyNames (some impl)
    let fromManifest := schemaPropertyNames (interface.side kind)
    let onlyImpl := fromImpl.filter (· ∉ fromManifest)
    let onlyManifest := fromManifest.filter (· ∉ fromImpl)
    if onlyImpl.isEmpty && onlyManifest.isEmpty then none
    else some { side := kind, onlyImpl, onlyManifest }

/-- The check C04; `none` panics. -/
def contractMatches (interface : InterfaceSchema) (modelsSrc : Option (List Char)) :
    Option Check :=
  let check (status : CheckStatus) (detail : Detail) : Check :=
    { id := "C04", title := "contract matches implementation (models.py)", status, detail }
  match modelsSrc with
  | none => some (check .skip (.text "models.py not supplied; drift cannot be checked"))
  | some src => (parsePythonModels src).map fun classes =>
      if classes.isEmpty then
        check .warn (.text "no Action/Observation/State classes found in models.py")
      else
        match Kind.sides.filterMap (sideDrift classes interface) with
        | [] => check .pass
            (.text "declared properties match the pydantic models field-for-field")
        | drift => check .fail (.drift drift)

/-! ### Agreement -/

/-- The two classes declare the same fields, up to those of the base. -/
def SameFields (kind : Kind) (c c' : PyClass) : Prop :=
  ∀ name, (name ∈ (baseFields kind).map Prod.fst ∨ name ∈ c.fields.map PyField.name) ↔
    (name ∈ (baseFields kind).map Prod.fst ∨ name ∈ c'.fields.map PyField.name)

/-- The class that `openenv.yaml` names for a side, if `models.py` has it, declares the same fields
as the first class with the base of the side, if there is one. -/
def SideAgrees (classes : List PyClass) (declared : Option ClassRef) (kind : Kind) : Prop :=
  ∀ named ∈ declaredClass classes declared, ∀ first ∈ firstSubclass classes kind,
    SameFields kind named first

theorem mem_schemaPropertyNames {kind : Kind} {c : PyClass} {name : String} :
    name ∈ schemaPropertyNames (some (classSchema kind c)) ↔
      name ∈ (baseFields kind).map Prod.fst ∨ name ∈ c.fields.map PyField.name := by
  rw [schemaPropertyNames, Option.bind_some, properties_classSchema]
  exact mem_classProperties

theorem drift_isEmpty {names names' : List String} :
    ((names.filter (· ∉ names')).isEmpty && (names'.filter (· ∉ names)).isEmpty) = true ↔
      ∀ name, name ∈ names ↔ name ∈ names' := by
  simp only [Bool.and_eq_true, List.isEmpty_iff, List.filter_eq_nil_iff, decide_eq_true_eq, not_not]
  exact ⟨fun ⟨left, right⟩ name => ⟨left name, right name⟩,
    fun same => ⟨fun name => (same name).mp, fun name => (same name).mpr⟩⟩

section Imported

variable {spec : OpenEnvSpec} {src : List Char} {classes : List PyClass}
  {interface : InterfaceSchema}

/-- A side of an imported contract drifts exactly if the two ways to choose its class disagree. -/
theorem sideDrift_eq_none (parsed : parsePythonModels src = some classes)
    (derived : contract spec (some src) = some interface) (kind : Kind) :
    sideDrift classes interface kind = none ↔ SideAgrees classes (spec.declared kind) kind := by
  have side := contract_side parsed derived kind
  unfold sideDrift SideAgrees
  cases found : firstSubclass classes kind with
  | none => simp [schemaFor, declaredClass, found]
  | some first =>
    have impl : schemaFor classes none kind = some (classSchema kind first) := by
      simp [schemaFor, declaredClass, found]
    simp only [impl, ite_eq_left_iff, reduceCtorEq, imp_false, not_not, drift_isEmpty, side]
    cases named : declaredClass classes (spec.declared kind) with
    | none => simp [schemaFor, named, found]
    | some c =>
      simp only [schemaFor, named, Option.some_or, Option.map_some, mem_schemaPropertyNames,
        Option.mem_some_iff, forall_eq', SameFields]
      exact forall_congr' fun name => Iff.comm

theorem contractMatches_pass (parsed : parsePythonModels src = some classes)
    (declares : classes ≠ []) :
    (∃ check, contractMatches interface (some src) = some check ∧ check.status = .pass) ↔
      ∀ kind, sideDrift classes interface kind = none := by
  have sides : (∀ kind, sideDrift classes interface kind = none) ↔
      Kind.sides.filterMap (sideDrift classes interface) = [] := by
    rw [List.filterMap_eq_nil_iff]
    refine ⟨fun none kind _ => none kind, fun none kind => none kind ?_⟩
    cases kind <;> simp [Kind.sides]
  rw [sides]
  simp only [contractMatches, parsed, Option.map_some, List.isEmpty_iff, if_neg declares,
    Option.some.injEq, exists_eq_left']
  cases Kind.sides.filterMap (sideDrift classes interface) <;> simp

theorem parsed_of_derived (derived : contract spec (some src) = some interface)
    (complete : ∀ kind, (interface.side kind).isSome) :
    ∃ classes, parsePythonModels src = some classes ∧ classes ≠ [] := by
  cases parsed : parsePythonModels src with
  | none => simp [contract, parsed] at derived
  | some classes =>
    refine ⟨classes, rfl, ?_⟩
    rintro rfl
    have side := complete .action
    rw [contract_side parsed derived] at side
    have none : schemaFor [] (spec.declared .action) .action = none := by
      cases spec.declared .action <;> rfl
    simp [none] at side

/-- A freshly imported contract passes the gate with the source that it was derived from exactly if
the class of each side has the fields of the first class that has the base of the side. -/
theorem imported_passes_iff (derived : contract spec (some src) = some interface)
    (complete : ∀ kind, (interface.side kind).isSome) :
    ((contractComplete interface).status = .pass ∧
      ∃ check, contractMatches interface (some src) = some check ∧ check.status = .pass) ↔
    ∀ classes, parsePythonModels src = some classes →
      ∀ kind, SideAgrees classes (spec.declared kind) kind := by
  obtain ⟨classes, parsed, declares⟩ := parsed_of_derived derived complete
  have passes : (contractComplete interface).status = .pass := by
    have none : Kind.sides.filter (fun kind => (interface.side kind).isNone) = [] := by
      rw [List.filter_eq_nil_iff]
      intro kind _
      rw [Option.isNone_eq_false_iff.mpr (complete kind)]
      exact Bool.false_ne_true
    simp [contractComplete, none]
  simp only [passes, true_and, contractMatches_pass parsed declares,
    sideDrift_eq_none parsed derived, parsed, Option.some.injEq, forall_eq']

end Imported

/-! ### Two action classes -/

/-- A `models.py` with two subclasses of `Action`, and the specification that names the second. -/
def twoActions : List Char :=
  ("class Base(Action):\n  x: int\nclass Move(Action):\n  y: int\n" ++
    "class Obs(Observation):\n  z: str\nclass Now(State):\n  w: str\n").toList

def intField (name : String) : PyField where
  name := name
  schema := .obj [("type", .str "integer")]
  required := true
  description := none

def strField (name : String) : PyField where
  name := name
  schema := .obj [("type", .str "string")]
  required := true
  description := none

def twoActionClasses : List PyClass := [
  ⟨"Base".toList, ["Action".toList], [intField "x"]⟩,
  ⟨"Move".toList, ["Action".toList], [intField "y"]⟩,
  ⟨"Obs".toList, ["Observation".toList], [strField "z"]⟩,
  ⟨"Now".toList, ["State".toList], [strField "w"]⟩]

set_option maxRecDepth 20000 in
theorem twoActions_parsed : parsePythonModels twoActions = some twoActionClasses := by
  rfl

/-- The specification that names an action class. -/
def namesAction (name : String) : OpenEnvSpec := { action := some { className := name.toList } }

def twoActionsInterface (spec : OpenEnvSpec) : InterfaceSchema where
  action := schemaFor twoActionClasses spec.action .action
  observation := schemaFor twoActionClasses spec.observation .observation
  state := schemaFor twoActionClasses spec.state .state

theorem twoActions_derived (spec : OpenEnvSpec) :
    contract spec (some twoActions) = some (twoActionsInterface spec) := by
  rw [contract, Option.map_some, Option.getD_some, twoActions_parsed]
  rfl

theorem twoActions_complete {spec : OpenEnvSpec} (kind : Kind)
    (action : (schemaFor twoActionClasses spec.action .action).isSome)
    (others : spec.observation = none ∧ spec.state = none) :
    ((twoActionsInterface spec).side kind).isSome := by
  cases kind with
  | action => exact action
  | observation =>
    simp only [InterfaceSchema.side, twoActionsInterface, others.1]
    rfl
  | state =>
    simp only [InterfaceSchema.side, twoActionsInterface, others.2]
    rfl

theorem imported_passes_base :
    ∃ check, contractMatches (twoActionsInterface (namesAction "Base")) (some twoActions) =
      some check ∧ check.status = .pass := by
  refine ((imported_passes_iff (twoActions_derived (namesAction "Base")) ?_).mpr ?_).2
  · exact fun kind => twoActions_complete kind rfl ⟨rfl, rfl⟩
  · intro classes parsed kind named declared first found
    obtain rfl := Option.some.inj (twoActions_parsed.symm.trans parsed)
    cases kind with
    | action =>
      obtain rfl : _ = named := Option.some.inj declared
      obtain rfl : _ = first := Option.some.inj found
      exact fun _ => Iff.rfl
    | observation => cases declared
    | state => cases declared

/-- The class that the specification names has its own field, the gate looks for the field of the
other one. -/
theorem named_class_drifts : contract (namesAction "Move") (some twoActions) =
        some (twoActionsInterface (namesAction "Move")) ∧
      (∀ kind, ((twoActionsInterface (namesAction "Move")).side kind).isSome) ∧
      ¬∃ check, contractMatches (twoActionsInterface (namesAction "Move")) (some twoActions) =
        some check ∧ check.status = .pass := by
  refine ⟨twoActions_derived _, fun kind => twoActions_complete kind rfl ⟨rfl, rfl⟩, fun pass => ?_⟩
  have none := (contractMatches_pass twoActions_parsed (List.cons_ne_nil _ _)).mp pass .action
  have agrees := (sideDrift_eq_none twoActions_parsed (twoActions_derived _) .action).mp none
  have same := agrees _ rfl _ rfl "y"
  revert same
  decide

end UEnv.Hub
