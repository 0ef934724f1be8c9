import UEnv.Lib.Fallible

/-!
# The rollout trace of an agent

`RolloutTraceCollector` of `llm_rollout.py`: what `record` keeps of the answers of the provider, and
the trace that `finalize` makes of it. The tokenizers and the text functions of Python are
parameters.
-/

namespace UEnv.OpenHands.RolloutTrace

open Fallible

section Model

/-! ### The answers of the provider -/

/-- A field of a token record that may hold its id. -/
inductive IdField
  | int (value : Int)
  /-- A float, with its value when it is an integer. -/
  | float (integer : Option Int)
  | text (value : String)
  /-- Missing, a boolean or of another type. -/
  | other
  deriving DecidableEq

inductive Number (F : Type)
  | int (value : Int)
  | float (value : F)
  | other
  deriving DecidableEq

/-- An entry of `logprobs.content`. -/
structure Record (F : Type) where
  token : Option String
  logprob : Number F
  tokenId : IdField
  id : IdField
  deriving DecidableEq

/-- The elements of a list of ids, by what `int` makes of each. -/
abbrev IdList := List (Except String Int)

/-- A field that may hold a list of ids. -/
inductive ListField
  | list (ids : IdList)
  | other (truthy : Bool)

inductive Content
  | text (text : String)
  /-- The texts of the parts that have one. -/
  | parts (texts : List (Option String))
  | other
  deriving DecidableEq

structure Choice (F : Type) where
  finishReason : String
  tokenIds : ListField
  outputTokenIds : ListField
  records : List (Record F)
  content : Content

structure Response (F : Type) where
  id : String
  uenvResponseIds : ListField
  choices : List (Choice F)

/-- What is used of Python: `float` of an int, `int` of a text that `isdigit` accepts, and `int` of
the digits of a text that is `token_id:` and digits once stripped. -/
structure Python (F : Type) where
  float : Int → Except String F
  digits : String → Option (Except String Int)
  tokenId : String → Option (Except String Int)

/-! ### `record` -/

variable {F : Type} (py : Python F)

def Python.number : Number F → Option (Except String F)
  | .int value => some (py.float value)
  | .float value => some (.ok value)
  | .other => none

def Python.fieldId : IdField → Except String (Option Int)
  | .int value => .ok (some value)
  | .float integer => .ok integer
  | .text value =>
    match py.digits value with
    | some id => id.map some
    | none => .ok none
  | .other => .ok none

/-- `_parse_token_id` (llm_rollout.py, 69-85). -/
def parseTokenId (token : String) (record : Record F) : Except String (Option Int) := do
  match ← py.fieldId record.tokenId with
  | some id => return some id
  | none =>
    match ← py.fieldId record.id with
    | some id => return some id
    | none =>
      match py.tokenId token with
      | some id => return some (← id)
      | none => return none

/-- What the loop takes from a record. -/
structure Reading (F : Type) where
  token : String
  logprob : F
  id : Option Int
  deriving DecidableEq

/-- One turn of the loop over the records; a record without a token or a log-probability is passed
over. -/
def readRecord (record : Record F) : Except String (Option (Reading F)) :=
  match record.token, py.number record.logprob with
  | some token, some value => do
    let logprob ← value
    let id ← parseTokenId py token record
    return some { token, logprob, id }
  | _, _ => .ok none

def readRecords : List (Record F) → Except String (List (Reading F))
  | [] => .ok []
  | record :: rest => do
    let reading ← readRecord py record
    let readings ← readRecords rest
    return reading.toList ++ readings

def ListField.truthy : ListField → Bool
  | .list ids => !ids.isEmpty
  | .other truthy => truthy

/-- `token_ids` or `output_token_ids` -/
def Choice.choiceIds (choice : Choice F) : ListField :=
  if choice.tokenIds.truthy then choice.tokenIds else choice.outputTokenIds

/-- `explicit_ids` in the turn of a choice: a list stays in force for the choices that follow. -/
def Choice.explicitIds (choice : Choice F) : Option IdList → Option IdList
  | some ids => some ids
  | none =>
    match choice.choiceIds with
    | .list (id :: ids) => some (id :: ids)
    | _ => none

def ListField.toOption : ListField → Option IdList
  | .list ids => some ids
  | .other _ => none

/-- An entry of `_responses`. -/
structure Item (F : Type) where
  responseId : String
  text : String
  tokens : List String
  logprobs : List F
  tokenIds : Option (List Int)
  finishReason : String
  deriving DecidableEq

def Content.joined : Content → String
  | text content => content
  | .parts texts => String.join (texts.filterMap id)
  | .other => ""

/-- The text of a choice: its tokens, or the message if these are ids. -/
def choiceText (tokens : List String) (content : Content) : String :=
  let text := String.join (tokens.map fun token => if (py.tokenId token).isSome then "" else token)
  if text = "" then content.joined else text

def resolvedIds (explicit : Option IdList) (readings : List (Reading F)) :
    Except String (Option (List Int)) :=
  match explicit with
  | some (id :: ids) => ((id :: ids).mapM fun id => id).map some
  | _ =>
    let tokenIds := readings.filterMap (·.id)
    if (readings.all (·.id.isSome)) ∧ tokenIds.length = readings.length ∧ tokenIds ≠ [] then
      .ok (some tokenIds)
    else .ok none

/-- One turn of the loop over the choices. -/
def recordChoice (responseId finishReason : String) (explicit : Option IdList)
    (choice : Choice F) : Except String (Option (Item F)) := do
  let readings ← readRecords py choice.records
  if readings = [] ∧ explicit.getD [] = [] then
    return none
  let tokenIds ← resolvedIds explicit readings
  let tokens := readings.map (·.token)
  return some
    { responseId
      text := choiceText py tokens choice.content
      tokens
      logprobs := readings.map (·.logprob)
      tokenIds
      finishReason }

/-- The loop over the choices: what it appends, and what it raises. -/
def recordChoices (responseId : String) :
    String → Option IdList → List (Choice F) → List (Item F) × Option String
  | _, _, [] => ([], none)
  | finishReason, explicit, choice :: choices =>
    let finishReason := if choice.finishReason = "" then finishReason else choice.finishReason
    let explicit := choice.explicitIds explicit
    match recordChoice py responseId finishReason explicit choice with
    | .error e => ([], some e)
    | .ok item =>
      let (items, raised) := recordChoices responseId finishReason explicit choices
      (item.toList ++ items, raised)

/-- `RolloutTraceCollector.record` -/
def record (items : List (Item F)) (response : Response F) : List (Item F) × Option String :=
  let (new, raised) :=
    recordChoices py response.id "" response.uenvResponseIds.toOption response.choices
  (items ++ new, raised)

/-- The calls of `record` in a run; an exception does not take back what the call has appended. -/
def recordAll (responses : List (Response F)) : List (Item F) :=
  responses.foldl (fun items response => (record py items response).1) []

/-! ### `finalize` -/

inductive Provider
  | ark
  | openai
  deriving DecidableEq

/-- The answers of the tokenizers for the text of an entry, by its index. -/
structure Tokenizers where
  ark : Nat → String → Except String (List Int)
  openai : Nat → String → Except String (Option (List Int))
  hf : Nat → String → Except String (List Int)

structure Collector where
  model : String
  provider : Provider
  tokenizers : Tokenizers

structure Turn (F : Type) where
  turnIndex : Nat
  assistantOutput : String
  responseIds : List Int
  logprobs : List F
  finishReason : String
  providerResponseId : String
  deriving DecidableEq

/-- The document that `finalize` returns. -/
structure Trace (F : Type) where
  sourceModel : String
  turns : List (Turn F)
  responseIds : List Int
  responseMask : List Int
  rolloutLogProbs : List F
  rolloutPolicyVersion : String
  rolloutParamVersion : Int
  source : String
  provider : Provider
  responseCount : Nat
  tokenCount : Nat
  turnIdSources : List String
  providerResponseIdsPresent : Bool
  deriving DecidableEq

variable (collector : Collector)

def Collector.tokenize (index : Nat) (text : String) : Except String (List Int) :=
  match collector.provider with
  | .ark => collector.tokenizers.ark index text
  | .openai => do
    match ← collector.tokenizers.openai index text with
    | some ids => return ids
    | none => collector.tokenizers.hf index text

def Provider.name : Provider → String
  | .ark => "ark"
  | .openai => "openai"

/-- The text that is tokenized. -/
def tokenizedText (text : String) (tokens : List String) : String :=
  if text = "" then String.join tokens else text

/-- `_resolve_token_ids` (llm_rollout.py, 360-389). -/
def Collector.resolveTokenIds (index : Nat) (item : Item F) : Except String (List Int) :=
  match item.tokenIds with
  | some (id :: ids) =>
    if item.logprobs ≠ [] ∧ (id :: ids).length ≠ item.logprobs.length then
      .error (s!"provider token_id/logprob alignment mismatch ids={(id :: ids).length} "
        ++ s!"logprobs={item.logprobs.length}")
    else .ok (id :: ids)
  | _ => do
    let tokenIds ← collector.tokenize index (tokenizedText item.text item.tokens)
    if item.logprobs ≠ [] ∧ tokenIds.length ≠ item.logprobs.length then
      throw (s!"token/logprob alignment mismatch after tokenize ids={tokenIds.length} "
        ++ s!"logprobs={item.logprobs.length} provider={collector.provider.name}")
    else return tokenIds

/-- One turn of the loop of `finalize`. -/
def Collector.turn (index : Nat) (item : Item F) : Except String (Turn F) := do
  let tokenIds ← collector.resolveTokenIds index item
  if item.logprobs = [] then
    throw s!"response={index} has token ids but no content logprobs"
  else if tokenIds.length ≠ item.logprobs.length then
    throw (s!"token/logprob alignment mismatch response={index} ids={tokenIds.length} "
      ++ s!"logprobs={item.logprobs.length}")
  else return {
    turnIndex := index
    assistantOutput := item.text
    responseIds := tokenIds
    logprobs := item.logprobs
    finishReason := item.finishReason
    providerResponseId := item.responseId }

def Collector.source (item : Item F) : String :=
  if item.tokenIds.getD [] ≠ [] then "provider_token_ids"
  else match collector.provider with
    | .ark => "ark_tokenization"
    | .openai => "openai_tokenize_or_hf"

def Collector.turns : Nat → List (Item F) → Except String (List (Turn F))
  | _, [] => .ok []
  | index, item :: items => do
    let turn ← collector.turn index item
    let turns ← Collector.turns (index + 1) items
    return turn :: turns

/-- `RolloutTraceCollector.finalize` -/
def Collector.finalize (items : List (Item F)) : Except String (Trace F) := do
  if items = [] then throw "real LLM calls produced no content token logprobs"
  else
    let turns ← collector.turns 0 items
    let responseIds := turns.flatMap (·.responseIds)
    if responseIds = [] then throw "rollout tokenization returned no response ids"
    else return {
      sourceModel := collector.model
      turns
      responseIds
      responseMask := List.replicate responseIds.length 1
      rolloutLogProbs := turns.flatMap (·.logprobs)
      rolloutPolicyVersion := collector.model
      rolloutParamVersion := 0
      source := match collector.provider with
        | .ark => "ark_chat_logprobs+ark_tokenization"
        | .openai => "openai_chat_logprobs+token_ids"
      provider := collector.provider
      responseCount := items.length
      tokenCount := responseIds.length
      turnIdSources := items.map collector.source
      providerResponseIdsPresent := items.all (·.responseId ≠ "") }

end Model

/-! ### What has been generated -/

section Generated

variable {F : Type}

/-- A token that the model has generated, with its record if the provider sends one. -/
structure Generated (F : Type) where
  id : Int
  record : Option (Record F)

/-- A choice with the tokens that have been generated for it. -/
structure Generation (F : Type) extends Choice F where
  generated : List (Generated F)
  records_eq : records = generated.filterMap (·.record)

/-- A response with the tokens of its choices. -/
structure Completion (F : Type) where
  id : String
  uenvResponseIds : ListField
  generations : List (Generation F)

def Completion.response (completion : Completion F) : Response F :=
  { id := completion.id
    uenvResponseIds := completion.uenvResponseIds
    choices := completion.generations.map (·.toChoice) }

variable (py : Python F)

def Generated.logprob (token : Generated F) : Option F :=
  match token.record.bind fun record => py.number record.logprob with
  | some (.ok logprob) => some logprob
  | _ => none

/-- The ids of the tokens of a choice and their log-probabilities. -/
def Generation.pairs (generation : Generation F) : List (Int × Option F) :=
  generation.generated.map fun token => (token.id, token.logprob py)

/-- The lists of the trace have one length, and their positions are the generated tokens, in order,
each with its id and its log-probability. -/
structure Trace.Aligned (completions : List (Completion F)) (trace : Trace F) : Prop where
  mask : trace.responseMask.length = trace.responseIds.length
  logprobs : trace.rolloutLogProbs.length = trace.responseIds.length
  tokens : trace.responseIds.zip (trace.rolloutLogProbs.map some) =
    completions.flatMap fun completion => completion.generations.flatMap (·.pairs py)

/-- The choices of a response, each with the explicit list that is in force at it: the one of the
response, or the first one of a choice up to it. -/
def inForce : Option IdList → List (Generation F) → List (Option IdList × Generation F)
  | _, [] => []
  | explicit, generation :: rest =>
    (generation.explicitIds explicit, generation) :: inForce (generation.explicitIds explicit) rest

/-- The choices of a run that tokens have been generated for. -/
def generating (choices : List (Option IdList × Generation F)) :
    List (Option IdList × Generation F) :=
  choices.filter fun choice => !choice.2.generated.isEmpty

def Completion.inForce (completion : Completion F) : List (Option IdList × Generation F) :=
  RolloutTrace.inForce completion.uenvResponseIds.toOption completion.generations

/-- The record of a token can be read and holds a token and a log-probability. -/
def Generated.Recorded (token : Generated F) : Prop :=
  ∃ record reading, token.record = some record ∧ readRecord py record = .ok (some reading)

/-- Every record of a choice has an id. -/
def Generation.Complete (generation : Generation F) : Prop :=
  ∀ record ∈ generation.records, ∃ reading id,
    readRecord py record = .ok (some reading) ∧ reading.id = some id

/-- The place that the ids of a choice are taken from has those of its tokens: the explicit list in
force unless it is empty, else the records if all have an id, else the tokenizer. -/
def Generation.Identified (collector : Collector) (index : Nat) (explicit : Option IdList)
    (generation : Generation F) : Prop :=
  match explicit with
  | some (id :: ids) => id :: ids = (generation.generated.map (·.id)).map .ok
  | _ =>
    (generation.Complete py → ∀ token ∈ generation.generated, ∀ record reading,
      token.record = some record → readRecord py record = .ok (some reading) →
        reading.id = some token.id) ∧
    (¬generation.Complete py →
      let tokens := generation.records.filterMap (·.token)
      collector.tokenize index
          (tokenizedText (choiceText py tokens generation.content) tokens) =
        .ok (generation.generated.map (·.id)))

/-- What keeps a choice aligned, when it is the one of number `index` that tokens have been
generated for. -/
def Generation.Kept (collector : Collector) (index : Nat) (explicit : Option IdList)
    (generation : Generation F) : Prop :=
  (∀ token ∈ generation.generated, token.Recorded py) ∧
    generation.Identified py collector index explicit

end Generated

end UEnv.OpenHands.RolloutTrace
