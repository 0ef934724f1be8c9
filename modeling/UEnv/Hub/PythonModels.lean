import UEnv.Lib.Text
import UEnv.Obs.Events

/-!
# Contract classes of a `models.py`

`parse_python_models` of `openenv.rs` reads the classes with their annotated fields out of a Python
source, and `schema_for` makes a JSON Schema of one of them. A text is the list of its characters.
-/

namespace UEnv.Hub

open Obs Text
open Service (isWhiteSpace)

/-! ### Schemas of annotations -/

/-- `Map::insert`; the order of the keys is not part of an object. -/
def insertField (key : String) (value : Json) : List (String × Json) → List (String × Json)
  | [] => [(key, value)]
  | (k, v) :: rest =>
    if k = key then (key, value) :: rest else (k, v) :: insertField key value rest

/-- `nullable` (openenv.rs, 434-446). -/
def nullable : Json → Json
  | .obj fields =>
    match fields.lookup "type" with
    | some (.str s) => .obj (insertField "type" (.arr [.str s, .str "null"]) fields)
    | _ => .obj fields
  | base => base

/-- `split_top_level`, with the depth, the part so far in reverse and the parts before it. -/
def splitTopLevelFrom (depth : Int) (cur : List Char) : List Char → List (List Char)
  | [] =>
    let part := trimBy isWhiteSpace cur.reverse
    if part.isEmpty then [] else [part]
  | ch :: rest =>
    if ch = '[' ∨ ch = '(' then splitTopLevelFrom (depth + 1) (ch :: cur) rest
    else if ch = ']' ∨ ch = ')' then splitTopLevelFrom (depth - 1) (ch :: cur) rest
    else if ch = ',' ∧ depth = 0 then
      trimBy isWhiteSpace cur.reverse :: splitTopLevelFrom depth [] rest
    else splitTopLevelFrom depth (ch :: cur) rest

/-- `split_top_level` (openenv.rs, 449-474). -/
def splitTopLevel (s : List Char) : List (List Char) := splitTopLevelFrom 0 [] s

/-- What an annotation like `list[…]` has in its brackets; `lower` is the annotation in lower
case. -/
def bracketed (head : String) (lower t : List Char) : Option (List Char) :=
  if head.toList.isPrefixOf lower ∧ t.getLast? = some ']' then
    some (t.drop head.length).dropLast
  else none

/-- The inner annotation of `Optional[X]` and of `X | None`. -/
def optionalInner (lower t : List Char) : Option (List Char) :=
  match bracketed "optional[" lower t with
  | some inner => some inner
  | none =>
    if "| None".toList.isSuffixOf t then some (trimBy isWhiteSpace (t.take (t.length - 6)))
    else none

/-- The loop over the parts of a union, on the schemas of the parts. -/
def unionTypes (types : List Json) : List (List Char × Json) → List Json
  | [] => types
  | (part, schema) :: rest =>
    match schema.get "type" with
    | some (.str s) =>
      if types.any (fun v => v.asStr == some s) then unionTypes types rest
      else unionTypes (types ++ [.str s]) rest
    | _ =>
      if trimBy isWhiteSpace part = "None".toList then unionTypes (types ++ [.str "null"]) rest
      else unionTypes types rest

def typeSchema (type : Json) : Json := .obj [("type", type)]

/-- `py_type_to_schema`. An inner annotation is shorter than the outer one, so that its length is
fuel enough. -/
def pyTypeToSchemaFrom : Nat → List Char → Json
  | 0, _ => .obj []
  | fuel + 1, ty =>
    let t := trimBy isWhiteSpace ty
    let lower := t.map Char.toLower
    match optionalInner lower t with
    | some inner => nullable (pyTypeToSchemaFrom fuel inner)
    | none =>
      match bracketed "list[" lower t with
      | some inner =>
        .obj [("items", pyTypeToSchemaFrom fuel inner), ("type", .str "array")]
      | none =>
        if "dict[".toList.isPrefixOf lower ∨ lower = "dict".toList then typeSchema (.str "object")
        else match bracketed "union[" lower t with
          | some inner =>
            match unionTypes []
              ((splitTopLevel inner).map fun part => (part, pyTypeToSchemaFrom fuel part)) with
            | [] => .obj []
            | [type] => typeSchema type
            | types => typeSchema (.arr types)
          | none =>
            if lower = "str".toList then typeSchema (.str "string")
            else if lower = "int".toList then typeSchema (.str "integer")
            else if lower = "float".toList then typeSchema (.str "number")
            else if lower = "bool".toList then typeSchema (.str "boolean")
            else if lower = "list".toList then typeSchema (.str "array")
            else .obj []

/-- `py_type_to_schema` (openenv.rs, 382-432). -/
def pyTypeToSchema (ty : List Char) : Json := pyTypeToSchemaFrom (ty.length + 1) ty

/-! ### Fields -/

structure PyField where
  name : String
  schema : Json
  required : Bool
  description : Option String

structure PyClass where
  name : List Char
  bases : List (List Char)
  fields : List PyField

/-- `extract_kwarg`; the key comes with its `=`. -/
def extractKwarg (call : List Char) (key : String) : Option (List Char) :=
  match splitAt key.toList call with
  | none => none
  | some (_, rest) =>
    match rest.dropWhile isWhiteSpace with
    | [] => none
    | first :: rest =>
      if first = '"' ∨ first = '\'' then (splitFirst (· = first) rest).map Prod.fst
      else
        some (trimBy isWhiteSpace ((first :: rest).takeWhile fun c => !(c = ',' || c = ')')))

/-- The default `Field(…)`: the schema, whether the field is required, and its description. The
slice up to the last byte panics (`none`) if there is no byte after the parenthesis or if the last
character has more than one. -/
def fieldCall (schema : Json) (call : List Char) : Option (Json × Bool × Option String) :=
  match (call.drop 6).getLast? with
  | none => none
  | some last =>
    if last.utf8Size ≠ 1 then none
    else
      let first := (splitTopLevel (call.drop 6).dropLast).headD []
      some (if extractKwarg call "default=" = some "None".toList then nullable schema else schema,
        trimBy isWhiteSpace first = "...".toList,
        (extractKwarg call "description=").map String.ofList)

/-- What the default of a field makes of its schema. -/
def fieldDefault (schema : Json) (default : Option (List Char)) :
    Option (Json × Bool × Option String) :=
  match default with
  | none => some (schema, true, none)
  | some call =>
    if "Field(".toList.isPrefixOf call then fieldCall schema call
    else some (if call = "None".toList then nullable schema else schema, false, none)

/-- The schema with the description of its field. -/
def describe (description : Option String) : Json → Json
  | .obj fields =>
    match description with
    | some text => .obj (insertField "description" (.str text) fields)
    | none => .obj fields
  | schema => schema

/-- `is_identifier` (openenv.rs, 629-634). -/
def isIdentifier (s : List Char) : Bool :=
  !s.isEmpty && s.all (fun c => c.isAlphanum || c == '_') && !(s.headD ' ').isDigit

/-- The annotation of a field, and its default after the `=`. -/
def annotated (after : List Char) : List Char × Option (List Char) :=
  match splitFirst (· = '=') after with
  | some (ty, default) => (trimBy isWhiteSpace ty, some (trimBy isWhiteSpace default))
  | none => (after, none)

/-- A statement of a class body: the field that it declares, if it declares one; `none` panics. -/
def fieldStatement (stmt : List Char) : Option (Option PyField) :=
  match splitFirst (· = ':') stmt with
  | none => some none
  | some (before, after) =>
    let name := trimBy isWhiteSpace before
    let (ty, default) := annotated (trimBy isWhiteSpace after)
    if !isIdentifier name || ty.isEmpty then some none
    else (fieldDefault (pyTypeToSchema ty) default).map fun (schema, required, description) =>
      some { name := String.ofList name, schema := describe description schema, required
             description }

/-! ### Classes -/

/-- The bytes of the white space at the start of a line. -/
def indentOf (line : List Char) : Nat := byteLength (line.takeWhile isWhiteSpace)

/-- The text starts with one of the words. -/
def startsWithAny (words : List String) (text : List Char) : Bool :=
  words.any fun word => word.toList.isPrefixOf text

/-- The lines after a docstring, whose first line is `body`. -/
def afterDocstring (body : List Char) (rest : List (List Char)) : List (List Char) :=
  let quote := body.take 3
  if has quote (body.drop 3) then rest
  else (rest.dropWhile fun line => !has quote line).drop 1

/-- A statement with the lines that its open parentheses go on for. -/
def joinLines (stmt : List Char) : List (List Char) → List Char × List (List Char)
  | [] => (stmt, [])
  | line :: rest =>
    if stmt.count ')' < stmt.count '(' then
      joinLines (stmt ++ ' ' :: trimBy isWhiteSpace line) rest
    else (stmt, line :: rest)

/-- The body of a class and the lines after it. A turn drops a line at least, so that the number of
the lines is fuel enough. -/
def classBody (classIndent : Nat) : Nat → List (List Char) →
    Option (List PyField × List (List Char))
  | 0, rest => some ([], rest)
  | _ + 1, [] => some ([], [])
  | fuel + 1, line :: rest =>
    let body := line.dropWhile isWhiteSpace
    if body.isEmpty then classBody classIndent fuel rest
    else if indentOf line ≤ classIndent then some ([], line :: rest)
    else if startsWithAny ["\"\"\"", "'''"] body then
      classBody classIndent fuel (afterDocstring body rest)
    else if startsWithAny ["#", "@", "def ", "class ", "pass", "return"] body then
      classBody classIndent fuel rest
    else
      let (stmt, rest) := joinLines body rest
      match fieldStatement stmt with
      | none => none
      | some field => (classBody classIndent fuel rest).map fun (fields, after) =>
          (field.toList ++ fields, after)

/-- The name and the bases in the header of a class. -/
def classHeader (header : List Char) : List Char × List (List Char) :=
  match splitFirst (· = '(') header with
  | some (name, rest) =>
    let inside := match splitLast (· = ')') rest with
      | some (inside, _) => inside
      -- without a closing parenthesis after it the list goes on to the end, unless there is one
      -- before it
      | none => if ')' ∈ name then [] else rest
    (trimBy isWhiteSpace name,
      ((splitTopLevel inside).map fun base => trimEndBy (· = ':')
        (trimBy isWhiteSpace (base.takeWhile (· ≠ '[')))).filter fun base => !base.isEmpty)
  | none => (trimBy isWhiteSpace (trimEndBy (· = ':') header), [])

/-- The loop over the lines, with the same fuel. -/
def parseClasses : Nat → List (List Char) → Option (List PyClass)
  | 0, _ => some []
  | _ + 1, [] => some []
  | fuel + 1, line :: rest =>
    let trimmed := line.dropWhile isWhiteSpace
    if "class ".toList.isPrefixOf trimmed then do
      let (name, bases) := classHeader (trimBy isWhiteSpace (trimmed.drop 6))
      let (fields, after) ← classBody (indentOf line) rest.length rest
      let classes ← parseClasses fuel after
      return { name, bases, fields } :: classes
    else parseClasses fuel rest

/-- `parse_python_models`; `none` panics. -/
def parsePythonModels (src : List Char) : Option (List PyClass) :=
  parseClasses (lines src).length (lines src)

/-! ### Contracts -/

inductive Kind
  | action
  | observation
  | state
  deriving DecidableEq

/-- `base_name` (openenv.rs, 684-690). -/
def Kind.baseName : Kind → List Char
  | action => "Action".toList
  | observation => "Observation".toList
  | state => "State".toList

def describedSchema (type : Json) (description : String) : Json :=
  .obj [("description", .str description), ("type", type)]

/-- `base_fields`; none of them is required. -/
def baseFields : Kind → List (String × Json)
  | .observation => [
      ("done", describedSchema (.str "boolean") "episode terminated (OpenEnv Observation base)"),
      ("reward", describedSchema (.arr [.str "number", .str "boolean", .str "null"])
        "environment-computed reward (OpenEnv Observation base)"),
      ("metadata", describedSchema (.str "object") "free-form metadata (OpenEnv Observation base)")]
  | .state => [
      ("episode_id", describedSchema (.str "string") "current episode id (OpenEnv State base)"),
      ("step_count",
        describedSchema (.str "integer") "steps taken in this episode (OpenEnv State base)")]
  | .action => []

structure ClassRef where
  className : List Char
  module : Option (List Char) := none

/-- The class of the parsed ones that a reference names. -/
def declaredClass (classes : List PyClass) (declared : Option ClassRef) : Option PyClass :=
  declared.bind fun r => classes.find? fun c => c.name = r.className

/-- The first class whose bases contain the base of a side. -/
def firstSubclass (classes : List PyClass) (kind : Kind) : Option PyClass :=
  classes.find? fun c => kind.baseName ∈ c.bases

/-- The `properties` of a schema, after those of the base. -/
def classProperties (kind : Kind) (fields : List PyField) : List (String × Json) :=
  fields.foldl (fun props f => insertField f.name f.schema props)
    ((baseFields kind).foldl (fun props f => insertField f.1 f.2 props) [])

/-- The schema of a class. -/
def classSchema (kind : Kind) (c : PyClass) : Json :=
  let required := (c.fields.filter PyField.required).map fun f => Json.str f.name
  .obj ((("properties", .obj (classProperties kind c.fields)) ::
    if required.isEmpty then [] else [("required", .arr required)]) ++ [("type", .str "object")])

/-- `schema_for` (openenv.rs, 697-727). -/
def schemaFor (classes : List PyClass) (declared : Option ClassRef) (kind : Kind) : Option Json :=
  ((declaredClass classes declared).or (firstSubclass classes kind)).map (classSchema kind)

/-- `OpenEnvSpec`, the contract classes. -/
structure OpenEnvSpec where
  action : Option ClassRef := none
  observation : Option ClassRef := none
  state : Option ClassRef := none

def OpenEnvSpec.declared (spec : OpenEnvSpec) : Kind → Option ClassRef
  | .action => spec.action
  | .observation => spec.observation
  | .state => spec.state

structure InterfaceSchema where
  action : Option Json := none
  observation : Option Json := none
  state : Option Json := none

def InterfaceSchema.side (interface : InterfaceSchema) : Kind → Option Json
  | .action => interface.action
  | .observation => interface.observation
  | .state => interface.state

/-- The contract in `convert`, without a `models.py` an empty one; `none` panics. -/
def contract (spec : OpenEnvSpec) (modelsSrc : Option (List Char)) : Option InterfaceSchema :=
  ((modelsSrc.map parsePythonModels).getD (some [])).map fun classes =>
    { action := schemaFor classes spec.action .action
      observation := schemaFor classes spec.observation .observation
      state := schemaFor classes spec.state .state }

theorem contract_side {spec : OpenEnvSpec} {modelsSrc : List Char} {classes : List PyClass}
    {interface : InterfaceSchema} (parsed : parsePythonModels modelsSrc = some classes)
    (derived : contract spec (some modelsSrc) = some interface) (kind : Kind) :
    interface.side kind = schemaFor classes (spec.declared kind) kind := by
  simp only [contract, Option.map_some, Option.getD_some, parsed, Option.some.injEq] at derived
  subst derived
  cases kind <;> rfl

/-! ### Names of properties -/

@[simp] theorem mem_insertField {key name : String} {value : Json} {fields : List (String × Json)} :
    name ∈ (insertField key value fields).map Prod.fst ↔
      name = key ∨ name ∈ fields.map Prod.fst := by
  induction fields with
  | nil => simp [insertField]
  | cons field rest ih =>
    by_cases same : field.1 = key
    · simp [insertField, same]
    · simp only [insertField, same, ↓reduceIte, List.map_cons, List.mem_cons, ih]
      exact or_left_comm

theorem mem_foldl_insertField {α : Type} (key : α → String) (value : α → Json) (items : List α)
    {name : String} {fields : List (String × Json)} :
    name ∈ (items.foldl (fun props a => insertField (key a) (value a) props) fields).map Prod.fst ↔
      name ∈ items.map key ∨ name ∈ fields.map Prod.fst := by
  induction items generalizing fields with
  | nil => simp
  | cons a rest ih =>
    simp only [List.foldl_cons, ih, mem_insertField, List.map_cons, List.mem_cons]
    tauto

theorem mem_classProperties {kind : Kind} {fields : List PyField} {name : String} :
    name ∈ (classProperties kind fields).map Prod.fst ↔
      name ∈ (baseFields kind).map Prod.fst ∨ name ∈ fields.map PyField.name := by
  unfold classProperties
  rw [mem_foldl_insertField, mem_foldl_insertField]
  simp [or_comm]

theorem properties_classSchema (kind : Kind) (c : PyClass) :
    (classSchema kind c).get "properties" = some (.obj (classProperties kind c.fields)) := by
  rfl

end UEnv.Hub
