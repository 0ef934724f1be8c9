import UEnv.Hub.PythonModels
import UEnv.Lib.Panics

/-!
# The scan of a `models.py`

`parse_python_models` with the byte offsets that it slices at, the index into the lines that its
loops share, and the depth of `split_top_level`, which is an `i32`. What can panic answers in `Run`,
and so does a loop that runs out of the fuel of the model.
-/

namespace UEnv.Hub.Scan

open Obs Text Panics
open Service (isWhiteSpace)

/-! ### Annotations -/

/-- `split_top_level`, with the depth and the part so far in reverse. -/
def splitTopLevelFrom (depth : Int) (cur : List Char) : List Char → Run (List (List Char))
  | [] =>
    let part := trimBy isWhiteSpace cur.reverse
    return if part.isEmpty then [] else [part]
  | ch :: rest => do
    if ch = '[' ∨ ch = '(' then splitTopLevelFrom (← addI32 depth 1) (ch :: cur) rest
    else if ch = ']' ∨ ch = ')' then splitTopLevelFrom (← addI32 depth (-1)) (ch :: cur) rest
    else if ch = ',' ∧ depth = 0 then
      return trimBy isWhiteSpace cur.reverse :: (← splitTopLevelFrom depth [] rest)
    else splitTopLevelFrom depth (ch :: cur) rest

def splitTopLevel (s : List Char) : Run (List (List Char)) := splitTopLevelFrom 0 [] s

/-- `t[head.len()..t.len() - 1]`, if `t` is an annotation like `list[…]`. -/
def bracketed (head : String) (lower t : List Char) : Run (Option (List Char)) := do
  if head.toList.isPrefixOf lower ∧ t.getLast? = some ']' then
    return some (← orPanic (slice (byteLength head.toList) (byteLength t - 1) t))
  else return none

/-- `inner_opt`. -/
def optionalInner (lower t : List Char) : Run (Option (List Char)) := do
  match ← bracketed "optional[" lower t with
  | some inner => return some inner
  | none =>
    if "| None".toList.isSuffixOf t then
      return some (trimBy isWhiteSpace (t.take (t.length - 6)))
    else return none

def pyTypeToSchema : Nat → List Char → Run Json
  | 0, _ => .error .fuel
  | fuel + 1, ty => do
    let t := trimBy isWhiteSpace ty
    let lower := t.map Char.toLower
    match ← optionalInner lower t with
    | some inner => return nullable (← pyTypeToSchema fuel inner)
    | none =>
      match ← bracketed "list[" lower t with
      | some inner =>
        return .obj [("items", ← pyTypeToSchema fuel inner), ("type", .str "array")]
      | none =>
        if "dict[".toList.isPrefixOf lower ∨ lower = "dict".toList then
          return typeSchema (.str "object")
        else match ← bracketed "union[" lower t with
          | some inner => do
            let parts ← splitTopLevel inner
            let schemas ← parts.mapM fun part => do return (part, ← pyTypeToSchema fuel part)
            return match unionTypes [] schemas with
              | [] => .obj []
              | [type] => typeSchema type
              | types => typeSchema (.arr types)
          | none =>
            if lower = "str".toList then return typeSchema (.str "string")
            else if lower = "int".toList then return typeSchema (.str "integer")
            else if lower = "float".toList then return typeSchema (.str "number")
            else if lower = "bool".toList then return typeSchema (.str "boolean")
            else if lower = "list".toList then return typeSchema (.str "array")
            else return .obj []

/-! ### Fields -/

/-- `extract_kwarg`; the key comes with its `=`. -/
def extractKwarg (call : List Char) (key : String) : Run (Option (List Char)) := do
  match findText key.toList call with
  | none => return none
  | some idx =>
    let after ← orPanic (sliceFrom (idx + byteLength key.toList) call)
    let rest := after.dropWhile isWhiteSpace
    match rest.head? with
    | none => return none
    | some first =>
      if first = '"' ∨ first = '\'' then
        match findBy (· = first) (← orPanic (sliceFrom 1 rest)) with
        | none => return none
        | some found => return some (← orPanic (slice 1 (found + 1) rest))
      else
        let stop := (findBy (fun c => c = ',' || c = ')') rest).getD (byteLength rest)
        return some (trimBy isWhiteSpace (← orPanic (slice 0 stop rest)))

/-- The default `Field(…)`: the schema, whether the field is required, and its description. -/
def fieldCall (schema : Json) (call : List Char) : Run (Json × Bool × Option String) := do
  let inner ← orPanic (slice 6 (byteLength call - 1) call)
  let first := (← splitTopLevel inner).headD []
  let description ← extractKwarg call "description="
  let default ← extractKwarg call "default="
  return (if default = some "None".toList then nullable schema else schema,
    trimBy isWhiteSpace first = "...".toList, description.map String.ofList)

/-- What the default of a field makes of its schema. -/
def fieldDefault (schema : Json) (default : Option (List Char)) :
    Run (Json × Bool × Option String) :=
  match default with
  | none => return (schema, true, none)
  | some call =>
    if "Field(".toList.isPrefixOf call then fieldCall schema call
    else return (if call = "None".toList then nullable schema else schema, false, none)

/-- The annotation of a field, and its default after the `=`. -/
def annotated (after : List Char) : Run (List Char × Option (List Char)) := do
  match findBy (· = '=') after with
  | some eq =>
    let ty ← orPanic (sliceTo eq after)
    let default ← orPanic (sliceFrom (eq + 1) after)
    return (trimBy isWhiteSpace ty, some (trimBy isWhiteSpace default))
  | none => return (after, none)

/-- A statement of a class body: the field that it declares, if it declares one. -/
def fieldStatement (stmt : List Char) : Run (Option PyField) := do
  match findBy (· = ':') stmt with
  | none => return none
  | some colon =>
    let name := trimBy isWhiteSpace (← orPanic (sliceTo colon stmt))
    if !isIdentifier name then return none
    else
      let after ← orPanic (sliceFrom (colon + 1) stmt)
      let (ty, default) ← annotated (trimBy isWhiteSpace after)
      if ty.isEmpty then return none
      else
        let schema ← pyTypeToSchema (ty.length + 1) ty
        let (schema, required, description) ← fieldDefault schema default
        return some { name := String.ofList name, schema := describe description schema, required
                      description }

/-! ### Lines -/

section Lines

variable (lines : List (List Char))

/-- `lines[i]`. -/
def line (i : Nat) : Run (List Char) := orPanic lines[i]?

/-- The loop to the line that ends a docstring. -/
def endOfDocstring (quote : List Char) : Nat → Nat → Run Nat
  | 0, _ => .error .fuel
  | fuel + 1, i => do
    if i < lines.length then
      if has quote (← line lines i) then return i else endOfDocstring quote fuel (i + 1)
    else return i

def singleLine (quote body : List Char) : Run Bool := do
  if 6 ≤ byteLength body then return has quote (← orPanic (sliceFrom 3 body)) else return false

/-- The index after a docstring whose first line, at `i`, is `body`. -/
def afterDocstring (body : List Char) (i : Nat) : Run Nat := do
  let quote ← orPanic (sliceTo 3 body)
  if ← singleLine quote body then return i + 1
  else return (← endOfDocstring lines quote (lines.length + 1) (i + 1)) + 1

/-- A statement with the lines that its open parentheses go on for, and the index of the last. -/
def joinLines : Nat → Nat → List Char → Run (Nat × List Char)
  | 0, _, _ => .error .fuel
  | fuel + 1, i, stmt => do
    if stmt.count ')' < stmt.count '(' ∧ i + 1 < lines.length then
      joinLines fuel (i + 1) (stmt ++ ' ' :: trimBy isWhiteSpace (← line lines (i + 1)))
    else return (i, stmt)

/-- The loop over the body of a class: its fields and the index after it. -/
def classBody (classIndent : Nat) : Nat → Nat → Run (List PyField × Nat)
  | 0, _ => .error .fuel
  | fuel + 1, i => do
    if i < lines.length then
      let raw ← line lines i
      let body := raw.dropWhile isWhiteSpace
      if body.isEmpty then classBody classIndent fuel (i + 1)
      else if byteLength raw - byteLength body ≤ classIndent then return ([], i)
      else if startsWithAny ["\"\"\"", "'''"] body then
        classBody classIndent fuel (← afterDocstring lines body i)
      else if startsWithAny ["#", "@", "def ", "class ", "pass", "return"] body then
        classBody classIndent fuel (i + 1)
      else
        let (last, stmt) ← joinLines lines (lines.length + 1) i body
        let field ← fieldStatement stmt
        let (fields, after) ← classBody classIndent fuel (last + 1)
        return (field.toList ++ fields, after)
    else return ([], i)

/-- The name and the bases in the header of a class. -/
def classHeader (header : List Char) : Run (List Char × List (List Char)) := do
  match findBy (· = '(') header with
  | some p =>
    let name ← orPanic (sliceTo p header)
    let close := (rfindBy (· = ')') header).getD (byteLength header)
    let bases ← splitTopLevel (← orPanic (slice (p + 1) (max close (p + 1)) header))
    return (trimBy isWhiteSpace name,
      (bases.map fun base => trimEndBy (· = ':')
        (trimBy isWhiteSpace (base.takeWhile (· ≠ '[')))).filter fun base => !base.isEmpty)
  | none => return (trimBy isWhiteSpace (trimEndBy (· = ':') header), [])

/-- The loop over the lines. -/
def parseClasses : Nat → Nat → Run (List PyClass)
  | 0, _ => .error .fuel
  | fuel + 1, i => do
    if i < lines.length then
      let raw ← line lines i
      let trimmed := raw.dropWhile isWhiteSpace
      if "class ".toList.isPrefixOf trimmed then
        let header ← orPanic (sliceFrom 6 trimmed)
        let (name, bases) ← classHeader (trimBy isWhiteSpace header)
        let (fields, after) ←
          classBody lines (byteLength raw - byteLength trimmed) (lines.length + 1) (i + 1)
        return { name, bases, fields } :: (← parseClasses fuel after)
      else parseClasses fuel (i + 1)
    else return []

end Lines

def parsePythonModels (src : List Char) : Run (List PyClass) :=
  parseClasses (lines src) ((lines src).length + 1) 0

end UEnv.Hub.Scan
