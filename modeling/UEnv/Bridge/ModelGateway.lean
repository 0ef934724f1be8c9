import UEnv.Worker.RolloutMeta

/-!
# The model gateway

`model_gateway.py`, between the policy servers and the workers: it looks for a model version in a
response, writes it into the body and sends it as headers. Bodies are documents of `json`, headers
the items of a dict. What the worker receives goes by `model_client.rs` and `serde_json`.
-/

namespace UEnv.Bridge.ModelGateway

open Obs Proto

/-- A JSON document, as `json.loads` reads it; integers have no bound. -/
inductive Document
  | null
  | bool (b : Bool)
  | int (n : Int)
  | float (x : F64)
  | str (s : String)
  | arr (items : List Document)
  | obj (fields : List (String × Document))

abbrev Fields := List (String × Document)

/-- Header names and values, in the order of the dict. -/
abbrev Headers := List (String × String)

/-- `dict.__setitem__` -/
def setField (key : String) (value : Document) : Fields → Fields
  | [] => [(key, value)]
  | field :: rest =>
    if field.1 = key then (key, value) :: rest else field :: setField key value rest

/-- `dict.setdefault` -/
def setDefault (fields : Fields) (field : String × Document) : Fields :=
  if (fields.lookup field.1).isSome then fields else fields ++ [field]

/-- `value in (None, "")` -/
def Document.blank : Document → Bool
  | .null => true
  | .str s => s.isEmpty
  | _ => false

/-- `isinstance(value, dict)` -/
def Document.isObject : Document → Bool
  | .obj _ => true
  | _ => false

/-- `_first_value` (model_gateway.py, 555-560). -/
def firstValue (get : String → Option Document) (keys : List String) : Option Document :=
  (keys.filterMap get).find? fun value => !value.blank

/-- `str` of a document that is neither a string, an integer nor a boolean; it is never empty. -/
structure PyText where
  text : Document → String
  text_ne : ∀ document, text document ≠ ""

/-- `str(value)`, and the value in an f-string -/
def PyText.str (python : PyText) : Document → String
  | .str s => s
  | .int n => toString n
  | .bool true => "True"
  | .bool false => "False"
  | document => python.text document

/-! ### Reasoning -/

structure ModelGatewayConfig where
  preserveThinking : Bool
  stripReasoning : Bool

def withThinking (message : Fields) : Fields :=
  match firstValue (fun key => message.lookup key) ["reasoning", "reasoning_content"] with
  | some (.str reasoning) =>
    let think := "<think>\n" ++ reasoning ++ "\n</think>"
    let content := match message.lookup "content" with
      | some (.str content) => if content = "" then think else think ++ "\n" ++ content
      | _ => think
    setField "content" (.str content) message
  | _ => message

def choiceWithoutReasoning (config : ModelGatewayConfig) : Document → Document
  | .obj choice =>
    match choice.lookup "message" with
    | some (.obj message) =>
      let message := if config.preserveThinking then withThinking message else message
      let message := if config.stripReasoning then
          message.filter fun field =>
            field.1 ∉ ["reasoning", "reasoning_content", "reasoning_details"]
        else message
      .obj (setField "message" (.obj message) choice)
    | _ => .obj choice
  | choice => choice

/-- `_response_without_reasoning`; choices that cannot be iterated raise. -/
def responseWithoutReasoning (config : ModelGatewayConfig) (body : Document) :
    Except String Document :=
  match body with
  | .obj data =>
    if config.stripReasoning || config.preserveThinking then
      match data.lookup "choices" with
      | some (.arr choices) => .ok (.obj
          (setField "choices" (.arr (choices.map (choiceWithoutReasoning config))) data))
      | some (.int n) => if n = 0 then .ok body else .error "'int' object is not iterable"
      | some (.float x) => if x.isZero then .ok body else .error "'float' object is not iterable"
      | some (.bool true) => .error "'bool' object is not iterable"
      | _ => .ok body
    else .ok body
  | _ => .ok body

/-! ### The version -/

/-- The version that `_normalize_model_version` finds. -/
structure ModelVersion where
  modelUpstream : String
  modelVersionSource : String
  rolloutParamVersion : Option Document
  rolloutPolicyVersion : Option String
  parameterSyncId : Option String

def paramAliases : List String :=
  ["rollout_param_version", "X-UEnv-Rollout-Param-Version", "x-uenv-rollout-param-version",
   "param_version", "current_param_version", "global_step", "global_steps"]

def policyAliases : List String :=
  ["rollout_policy_version", "X-UEnv-Rollout-Policy-Version", "x-uenv-rollout-policy-version",
   "policy_version"]

def syncAliases : List String :=
  ["parameter_sync_id", "X-UEnv-Parameter-Sync-Id", "x-uenv-parameter-sync-id"]

def upstreamAliases : List String :=
  ["model_upstream", "X-UEnv-Model-Upstream", "x-uenv-model-upstream"]

variable (python : PyText) (upstream : String)

/-- `_normalize_model_version`, without the raw data -/
def normalizeModelVersion (get : String → Option Document) (source : String) : ModelVersion :=
  let paramVersion := firstValue get paramAliases
  let policyVersion := firstValue get policyAliases
  { modelUpstream := ((firstValue get upstreamAliases).map python.str).getD upstream
    modelVersionSource := source
    rolloutParamVersion := paramVersion
    rolloutPolicyVersion := (policyVersion.map python.str).orElse fun _ =>
      paramVersion.map fun param => "actor-step-" ++ python.str param
    parameterSyncId := (firstValue get syncAliases).map python.str }

/-- `_has_bound_model_version` -/
def ModelVersion.bound (version : ModelVersion) : Bool :=
  version.rolloutParamVersion.any (!·.blank) || version.rolloutPolicyVersion.any (· != "")

/-- Header names are ASCII. -/
def lower (name : String) : String := name.map Char.toLower

/-- The value that a header has last, by its name in lower case. -/
def header (headers : Headers) (key : String) : Option String :=
  headers.foldl (fun value field => if lower field.1 = key then some field.2 else value) none

/-- `uenv_model_version` of a body, if it is an object. -/
def nestedVersion : Document → Option Fields
  | .obj data =>
    match data.lookup "uenv_model_version" with
    | some (.obj nested) => some nested
    | _ => none
  | _ => none

/-- `_extract_response_model_version`, if the version is bound -/
def extractResponseModelVersion (body : Document) (headers : Headers) : Option ModelVersion :=
  let ofBody := (nestedVersion body).map fun nested =>
    normalizeModelVersion python upstream (fun key => nested.lookup key) "generation_response_body"
  let ofHeaders := normalizeModelVersion python upstream
    (fun key => (header headers key).map .str) "generation_response_header"
  (ofBody.filter (·.bound)).orElse fun _ => (some ofHeaders).filter (·.bound)

/-- `version_payload` -/
def ModelVersion.payload (version : ModelVersion) : Fields :=
  [("model_upstream", .str version.modelUpstream),
   ("model_version_source", .str version.modelVersionSource),
   ("model_version_source_kind", .str version.modelVersionSource)] ++
  (version.rolloutParamVersion.map fun param => ("rollout_param_version", param)).toList ++
  (version.rolloutPolicyVersion.map fun policy => ("rollout_policy_version", .str policy)).toList ++
  (version.parameterSyncId.map fun sync => ("parameter_sync_id", .str sync)).toList

/-- `_attach_model_version` (model_gateway.py, 520-539). -/
def attachModelVersion (body : Document) (version : ModelVersion) : Document :=
  match body with
  | .obj data =>
    let nested := match nestedVersion body with
      | some existing => version.payload.foldl setDefault existing
      | none => version.payload
    .obj (setField "uenv_model_version" (.obj nested) data)
  | _ => body

/-- `_send_model_version_headers` -/
def versionHeaders (version : ModelVersion) : Headers :=
  [("X-UEnv-Model-Upstream", version.modelUpstream)] ++
  (version.rolloutParamVersion.map fun param =>
    ("X-UEnv-Rollout-Param-Version", python.str param)).toList ++
  (version.rolloutPolicyVersion.map fun policy =>
    ("X-UEnv-Rollout-Policy-Version", policy)).toList ++
  (version.parameterSyncId.map fun sync => ("X-UEnv-Parameter-Sync-Id", sync)).toList

/-! ### The reply -/

structure Reply where
  body : Document
  headers : Headers
  modelVersion : Option ModelVersion

/-- `send_header` encodes a value in Latin-1. -/
def encodable (value : String) : Bool := value.toList.all fun c => c.toNat < 256

def forwardedHeaders (headers : Headers) : Headers :=
  headers.filter fun field =>
    lower field.1 ∉ ["connection", "content-length", "transfer-encoding", "content-encoding"]

/-- The answer of `_handle_proxy` to a response of the upstream; an exception is answered with an
error document. -/
def handleProxy (config : ModelGatewayConfig) (body : Document) (headers : Headers) :
    Except String Reply := do
  let body ← responseWithoutReasoning config body
  let modelVersion := extractResponseModelVersion python upstream body headers
  let reply : Reply :=
    { body := modelVersion.elim body (attachModelVersion body)
      headers := forwardedHeaders headers ++ modelVersion.elim [] (versionHeaders python)
      modelVersion }
  if reply.headers.all fun field => encodable field.2 then return reply
  else throw "'latin-1' codec can't encode characters: ordinal not in range(256)"

/-! ### What the worker receives -/

/-- How `serde_json` reads floats and the integers beyond those of 64 bits, as far as it does. -/
structure SerdeNumbers where
  float : F64 → Option F64
  integer : Int → Option F64

mutual

/-- The value that the worker parses the text of a document to. -/
def Document.read (numbers : SerdeNumbers) : Document → Option Json
  | .null => some .null
  | .bool b => some (.bool b)
  | .int n =>
    if 0 ≤ n ∧ n < 2 ^ 64 then some (.posInt (UInt64.ofNat n.toNat))
    else if -2 ^ 63 ≤ n ∧ n < 0 then some (.negInt n)
    else (numbers.integer n).map fun x => .float x.bits
  | .float x => (numbers.float x).map fun x => .float x.bits
  | .str s => some (.str s)
  | .arr items => (Document.readItems numbers items).map .arr
  | .obj fields => (Document.readFields numbers fields).map .obj

def Document.readItems (numbers : SerdeNumbers) : List Document → Option (List Json)
  | [] => some []
  | item :: rest => do
    let item ← item.read numbers
    let rest ← Document.readItems numbers rest
    return item :: rest

def Document.readFields (numbers : SerdeNumbers) :
    List (String × Document) → Option (List (String × Json))
  | [] => some []
  | (key, value) :: rest => do
    let value ← value.read numbers
    let rest ← Document.readFields numbers rest
    return (key, value) :: rest

end

/-- A header value at the worker: without the white space around it, and empty unless it is visible
ASCII. -/
def receivedValue (value : String) : String :=
  let blank := fun c : Char => c = ' ' ∨ c = '\t'
  let trimmed := ((value.toList.dropWhile blank).reverse.dropWhile blank).reverse
  if trimmed.all fun c => 32 ≤ c.toNat ∧ c.toNat < 127 ∨ c = '\t' then String.ofList trimmed else ""

def responseHeaders (headers : Headers) : StringMap :=
  headers.foldl (fun map field => map.insert (lower field.1) (receivedValue field.2)) ∅

end UEnv.Bridge.ModelGateway
