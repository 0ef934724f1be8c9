import Mathlib.Data.List.ReduceOption
import UEnv.Obs.Events
import UEnv.Lib.Rounding

/-!
# Rollout tokens of an asynchronous episode

`rollout_meta.rs` and what `infer` and the executor make of it. The log-probabilities and the ids of
a response are read from different places, items that do not parse are skipped in some of them, and
only the two lengths are compared; the turns are concatenated under the version of the first.
-/

namespace UEnv

/-! ### Numbers -/

/-- `str::parse::<i64>`. -/
def parseI64 (text : String) : Option Int64 :=
  let (negative, digits) := match text.toList with
    | '+' :: rest => (false, rest)
    | '-' :: rest => (true, rest)
    | chars => (false, chars)
  if digits.isEmpty || !digits.all Char.isDigit then none
  else
    let magnitude : Int := digits.foldl (fun n c => 10 * n + (c.toNat - 48)) 0
    let value := if negative then -magnitude else magnitude
    if -2 ^ 63 ≤ value ∧ value < 2 ^ 63 then some (Int64.ofInt value) else none

namespace Obs.Json

def asArray : Json → Option (List Json)
  | arr items => some items
  | _ => none

/-- `Value::as_f64`. -/
def asF64 : Json → Option F64
  | posInt n => some (F64.ofInt n.toNat)
  | negInt n => some (F64.ofInt n)
  | float bits => some ⟨bits⟩
  | _ => none

/-- `Value::as_i64`. -/
def asI64 : Json → Option Int64
  | posInt n => if n.toNat < 2 ^ 63 then some (Int64.ofInt n.toNat) else none
  | negInt n => some (Int64.ofInt n)
  | _ => none

/-- The index that a token of a pointer stands for in an array. -/
def parseIndex (token : String) : Option UInt64 :=
  if token.startsWith "+" || (token.startsWith "0" && token.length != 1) then none
  else parseU64 token

/-- `Value::pointer`, with the tokens of the path. -/
def pointer : List String → Json → Option Json
  | [], target => some target
  | token :: path, obj fields => (fields.lookup token).bind (pointer path)
  | token :: path, arr items =>
    (parseIndex token).bind fun index => (items[index.toNat]?).bind (pointer path)
  | _ :: _, _ => none

end Obs.Json

end UEnv

namespace UEnv.Worker

open Proto Obs Fallible Tables

/-! ### Data -/

structure RolloutModelMeta where
  rolloutParamVersion : Option Int64 := none
  rolloutPolicyVersion : Option String := none
  rolloutLogProbs : List F32 := []
  responseIds : List Int64 := []
  responseMask : List Int32 := []
  modelLatencyMs : Int64 := 0

inductive AsyncRolloutError
  | unsupportedMode (mode : String)
  | modelVersionMissing
  | rolloutLogprobsMissing
  | modelLogprobsUnsupported
  | logprobsLengthMismatch (expected actual : Nat)
  | other (message : String)
  deriving DecidableEq

/-- `message` (rollout_meta.rs, 40-55). -/
def AsyncRolloutError.message : AsyncRolloutError → String
  | unsupportedMode mode => s!"unsupported parallel_mode: {mode}"
  | modelVersionMissing => "missing rollout_param_version or rollout_policy_version"
  | rolloutLogprobsMissing => "missing rollout_log_probs"
  | modelLogprobsUnsupported => "model endpoint does not support logprobs"
  | logprobsLengthMismatch expected actual =>
    s!"rollout_log_probs length mismatch: expected={expected}, actual={actual}"
  | other message => message

inductive ModelInferError
  | rollout (error : AsyncRolloutError)
  | other (message : String)
  deriving DecidableEq

/-- `ModelInferOutput`; the action is the text of the response. -/
structure ModelInferOutput where
  action : String
  rolloutMeta : Option RolloutModelMeta

/-- What the model endpoint answered to a request that succeeded. -/
structure ChatResponse where
  body : Json
  headers : StringMap := ∅
  modelMs : Int64 := 0

/-! ### Parsing a response -/

/-- `parse_i64_value` (rollout_meta.rs, 343-349). -/
def parseI64Value (value : Json) : Option Int64 :=
  (value.asI64.orElse fun _ => value.asStr.bind parseI64).orElse fun _ => value.asF64.map F64.toI64

/-- `parse_string_value` (rollout_meta.rs, 351-356). -/
def parseStringValue (value : Json) : Option String :=
  value.asStr.orElse fun _ => value.asI64.map toString

/-- `parse_model_version_from_response` (rollout_meta.rs, 128-152). -/
def parseModelVersionFromResponse (body : Json) (headers : StringMap) :
    Option Int64 × Option String :=
  let nested := (body.get "uenv_model_version").bind fun
    | .obj fields =>
      let param := (fields.lookup "rollout_param_version").bind parseI64Value
      let policy := (fields.lookup "rollout_policy_version").bind parseStringValue
      if param.isSome || policy.isSome then some (param, policy) else none
    | _ => none
  nested.getD
    (((headers["x-uenv-rollout-param-version"]?).orElse fun _ =>
        headers["X-UEnv-Rollout-Param-Version"]?).bind parseI64,
      (headers["x-uenv-rollout-policy-version"]?).orElse fun _ =>
        headers["X-UEnv-Rollout-Policy-Version"]?)

/-- An array below `choices[0].logprobs`. -/
def logprobsArray (body : Json) (key : String) : Option (List Json) :=
  (body.pointer ["choices", "0", "logprobs", key]).bind Json.asArray

/-- The log-probability of an item of `content`. -/
def itemLogprob (item : Json) : Option F32 :=
  ((item.get "logprob").bind Json.asF64).map F64.toF32

/-- The log-probability of an item of `token_logprobs`. -/
def tokenLogprob (value : Json) : Option F32 := value.asF64.map F64.toF32

/-- `parse_logprobs_from_chat_response` (rollout_meta.rs, 154-190). -/
def parseLogprobsFromChatResponse (body : Json) : Except AsyncRolloutError (List F32) :=
  let content := (logprobsArray body "content").getD []
  if content ≠ [] then
    content.mapM fun item => (itemLogprob item).elim (.error .rolloutLogprobsMissing) .ok
  else
    let logprobs := ((logprobsArray body "token_logprobs").getD []).filterMap tokenLogprob
    if logprobs ≠ [] then .ok logprobs
    else if (body.pointer ["choices", "0", "logprobs"]).isSome then
      .error .rolloutLogprobsMissing
    else .error .modelLogprobsUnsupported

/-- The items of the list that `parse_json_list` reads; `fromStr` is `serde_json::from_str`. -/
def jsonListItems (fromStr : String → Option Json) (raw : Json) : List Json :=
  (match raw.asStr with
    | some text => (fromStr text).bind Json.asArray
    | none => raw.asArray).getD []

/-- The items of the ids that a response carries next to its choices. -/
def listedIds (fromStr : String → Option Json) (body : Json) : List Json :=
  ((body.get "uenv_response_ids").orElse fun _ => body.get "response_ids").elim []
    (jsonListItems fromStr)

/-- The id of an item of `content`. -/
def itemId (item : Json) : Option Int64 :=
  ((item.get "token_id").bind parseI64Value).orElse fun _ =>
    match (item.get "bytes").bind Json.asArray with
    | some [byte] => byte.asI64
    | _ => none

/-- `parse_response_ids_from_chat_response` (rollout_meta.rs, 192-226). -/
def parseResponseIdsFromChatResponse (fromStr : String → Option Json) (body : Json) : List Int64 :=
  let parsed := (listedIds fromStr body).filterMap Json.asI64
  if parsed ≠ [] then parsed
  else ((logprobsArray body "content").getD []).filterMap itemId

/-! ### The rollout of an episode -/

namespace RolloutModelMeta

variable (rollout : RolloutModelMeta)

/-- `validate_for_async` (rollout_meta.rs, 81-108). -/
def validateForAsync : Except AsyncRolloutError Unit :=
  if rollout.rolloutParamVersion.isNone then .error .modelVersionMissing
  else if rollout.rolloutPolicyVersion.all fun v => (Service.trim v).isEmpty then
    .error .modelVersionMissing
  else if rollout.rolloutLogProbs = [] then .error .rolloutLogprobsMissing
  else if rollout.responseIds = [] then
    .error (.logprobsLengthMismatch rollout.rolloutLogProbs.length 0)
  else if rollout.rolloutLogProbs.length ≠ rollout.responseIds.length then
    .error (.logprobsLengthMismatch rollout.responseIds.length rollout.rolloutLogProbs.length)
  else .ok ()

/-- `absorb` (rollout_meta.rs, 110-125). -/
def absorb (other : RolloutModelMeta) : RolloutModelMeta where
  rolloutParamVersion :=
    if rollout.rolloutParamVersion.isNone then other.rolloutParamVersion
    else rollout.rolloutParamVersion
  rolloutPolicyVersion :=
    if rollout.rolloutPolicyVersion.all String.isEmpty then other.rolloutPolicyVersion
    else rollout.rolloutPolicyVersion
  rolloutLogProbs := rollout.rolloutLogProbs ++ other.rolloutLogProbs
  responseIds := rollout.responseIds ++ other.responseIds
  responseMask := rollout.responseMask ++ other.responseMask
  modelLatencyMs := rollout.modelLatencyMs + other.modelLatencyMs

end RolloutModelMeta

/-- The metadata that `infer_with_rollout_context` reads off a response. -/
def rolloutMeta (fromStr : String → Option Json) (response : ChatResponse) :
    Except AsyncRolloutError RolloutModelMeta := do
  let (param, policy) := parseModelVersionFromResponse response.body response.headers
  let logprobs ← parseLogprobsFromChatResponse response.body
  let ids := parseResponseIdsFromChatResponse fromStr response.body
  let rollout : RolloutModelMeta :=
    { rolloutParamVersion := param
      rolloutPolicyVersion := policy.orElse fun _ => param.map fun v => s!"actor-step-{v}"
      rolloutLogProbs := logprobs
      responseIds := ids
      responseMask := if ids = [] then [] else List.replicate ids.length 1
      modelLatencyMs := response.modelMs }
  rollout.validateForAsync
  .ok rollout

/-- What `infer_with_rollout_context` makes of a successful response. -/
def inferOutput (fromStr : String → Option Json) (requireRolloutMeta : Bool)
    (response : ChatResponse) : Except ModelInferError ModelInferOutput :=
  match (response.body.pointer ["choices", "0", "message", "content"]).bind Json.asStr with
  | none => .error (.other "model client: response missing choices[0].message.content")
  | some content =>
    if requireRolloutMeta then
      match rolloutMeta fromStr response with
      | .error error => .error (.rollout error)
      | .ok rollout => .ok { action := content, rolloutMeta := some rollout }
    else .ok { action := content, rolloutMeta := none }

/-- `is_async_mode` (async_context.rs, 26-28). -/
def isAsyncMode (parallelMode : String) : Bool :=
  parallelMode == "one_step_off_policy" || parallelMode == "fully_async"

/-- `validate_async_completed` (rollout_meta.rs, 312-320). -/
def validateAsyncCompleted (parallelMode : String) (rollout : RolloutModelMeta) :
    Except AsyncRolloutError Unit :=
  if isAsyncMode parallelMode then rollout.validateForAsync else .ok ()

/-- The trace goes to the last step. -/
def traceLast (rollout : RolloutModelMeta) (trajectory : Trajectory) : Trajectory :=
  if rollout.responseIds = [] ∧ rollout.responseMask = [] then trajectory
  else { trajectory with
    steps := trajectory.steps.modify (trajectory.steps.length - 1) fun step =>
      { step with rolloutTrace := some ⟨rollout.responseIds, rollout.responseMask⟩ } }

/-- The times that are written to a result. -/
structure RolloutTimes where
  workerStartTs : F64
  workerFinishTs : F64
  workerLatencyMs : Int64
  modelLatencyMs : Int64

/-- `apply_async_to_result` (rollout_meta.rs, 245-285). -/
def applyAsyncToResult (result : EpisodeResult) (episode : EpisodeRequest) (parallelMode : String)
    (rollout : Option RolloutModelMeta) (times : RolloutTimes) : EpisodeResult :=
  let result := { result with
    parallelMode
    workerStartTs := some times.workerStartTs
    workerFinishTs := some times.workerFinishTs
    workerLatencyMs := some times.workerLatencyMs
    modelLatencyMs := some times.modelLatencyMs }
  let result := match rollout with
    | none => result
    | some rollout => { result with
        rolloutParamVersion := rollout.rolloutParamVersion
        rolloutPolicyVersion := rollout.rolloutPolicyVersion
        rolloutLogProbs := rollout.rolloutLogProbs
        trajectory := result.trajectory.map (traceLast rollout) }
  { result with metadata := episode.metadata.foldl (fun metadata key value =>
      if Service.isProtocolMetadataKey key then metadata
      else metadata.insertIfNew key value) result.metadata }

/-- The metadata of the turns of an episode. -/
def episodeRolloutMeta (turns : List ModelInferOutput) : RolloutModelMeta :=
  turns.foldl (fun rollout output => output.rolloutMeta.elim rollout rollout.absorb) {}

/-- The trajectory of an episode; `totalReward` is the sum of the rewards. -/
def episodeTrajectory (steps : List StepRecord) (totalReward : F64) : Trajectory where
  steps
  totalReward
  totalSteps := Int32.ofNat steps.length

/-- The end of `execute_episode` in an asynchronous mode, for an episode whose turns were all
answered and stepped; `result` has the other fields of the completed result. -/
def completedAsync (episode : EpisodeRequest) (parallelMode : String)
    (turns : List (ModelInferOutput × StepRecord)) (totalReward : F64) (result : EpisodeResult)
    (times : RolloutTimes) : Except AsyncRolloutError EpisodeResult :=
  let rollout := episodeRolloutMeta (turns.map Prod.fst)
  match validateAsyncCompleted parallelMode rollout with
  | .error error => .error error
  | .ok () => .ok (applyAsyncToResult
      { result with trajectory := some (episodeTrajectory (turns.map Prod.snd) totalReward) }
      episode parallelMode (some rollout) { times with modelLatencyMs := rollout.modelLatencyMs })

/-! ### The tokens of a response -/

/-- The generated tokens of a response with their log-probabilities, where they parse. -/
def tokenLogprobs (body : Json) : List (Option F32) :=
  let content := (logprobsArray body "content").getD []
  if content ≠ [] then content.map itemLogprob
  else ((logprobsArray body "token_logprobs").getD []).map tokenLogprob

/-- The generated tokens with their ids, where they parse. -/
def tokenIds (fromStr : String → Option Json) (body : Json) : List (Option Int64) :=
  if (listedIds fromStr body).filterMap Json.asI64 ≠ [] then
    (listedIds fromStr body).map Json.asI64
  else ((logprobsArray body "content").getD []).map itemId

/-- The versions that a response names. -/
def responseVersions (response : ChatResponse) : Option Int64 × Option String :=
  let (param, policy) := parseModelVersionFromResponse response.body response.headers
  (param, policy.orElse fun _ => param.map fun v => s!"actor-step-{v}")

/-- `response_ids` of a result. -/
def responseIds (result : EpisodeResult) : List Int64 :=
  ((result.trajectory.bind fun trajectory => trajectory.steps.getLast?).bind
    StepRecord.rolloutTrace).elim [] RolloutTrace.responseIds

/-- The tokens of a result are the tokens of its responses, each with its log-probability and its
id at one place, and the versions of the result are those of every response. -/
structure TokensAligned (fromStr : String → Option Json) (responses : List ChatResponse)
    (result : EpisodeResult) : Prop where
  logProbs : result.rolloutLogProbs.map some = responses.flatMap fun r => tokenLogprobs r.body
  ids : (responseIds result).map some = responses.flatMap fun r => tokenIds fromStr r.body
  lengths : ∀ r ∈ responses, (tokenLogprobs r.body).length = (tokenIds fromStr r.body).length
  versions : ∀ r ∈ responses,
    responseVersions r = (result.rolloutParamVersion, result.rolloutPolicyVersion)

/-- Every token of a response has a log-probability and an id that parse. -/
def Parsed (fromStr : String → Option Json) (response : ChatResponse) : Prop :=
  (∀ logprob ∈ tokenLogprobs response.body, logprob.isSome = true) ∧
    ∀ id ∈ tokenIds fromStr response.body, id.isSome = true

instance (fromStr : String → Option Json) (response : ChatResponse) :
    Decidable (Parsed fromStr response) :=
  inferInstanceAs (Decidable (_ ∧ _))

section Parsing

variable {fromStr : String → Option Json} {body : Json} {response : ChatResponse}
  {rollout : RolloutModelMeta}

theorem reduceOption_map_eq {α β : Type} (f : α → Option β) (items : List α) :
    (items.map f).reduceOption = items.filterMap f := by
  rw [List.reduceOption, List.filterMap_map]
  rfl

theorem map_eq_of_mapM {α β ε : Type} {f : α → Option β} {error : ε} {items : List α}
    {values : List β}
    (ran : (items.mapM fun a => (f a).elim (.error error) Except.ok) = .ok values) :
    items.map f = values.map some := by
  have answers := forall₂_of_mapM ran
  clear ran
  induction answers with
  | nil => rfl
  | @cons a b _ _ first _ ih =>
    cases found : f a with
    | none =>
      rw [found] at first
      cases first
    | some =>
      rw [found] at first
      cases first
      rw [List.map_cons, List.map_cons, ih, found]

theorem parseLogprobs_ok {logprobs : List F32}
    (parsed : parseLogprobsFromChatResponse body = .ok logprobs) :
    logprobs = (tokenLogprobs body).reduceOption := by
  unfold parseLogprobsFromChatResponse at parsed
  unfold tokenLogprobs
  dsimp only at parsed ⊢
  split at parsed
  · next some =>
    rw [if_pos some, map_eq_of_mapM parsed]
    simp [List.reduceOption]
  · next empty =>
    rw [if_neg empty, reduceOption_map_eq]
    split at parsed
    · exact (Except.ok.inj parsed).symm
    · split at parsed <;> cases parsed

theorem parseResponseIds_eq (fromStr : String → Option Json) (body : Json) :
    parseResponseIdsFromChatResponse fromStr body = (tokenIds fromStr body).reduceOption := by
  unfold parseResponseIdsFromChatResponse tokenIds
  dsimp only
  split
  · exact (reduceOption_map_eq _ _).symm
  · exact (reduceOption_map_eq _ _).symm

theorem validateForAsync_ok (valid : rollout.validateForAsync = .ok ()) :
    rollout.rolloutParamVersion ≠ none ∧
      (rollout.rolloutPolicyVersion.all fun v => (Service.trim v).isEmpty) = false ∧
      rollout.responseIds ≠ [] ∧
      rollout.rolloutLogProbs.length = rollout.responseIds.length := by
  unfold RolloutModelMeta.validateForAsync at valid
  split at valid
  · cases valid
  · next param =>
    split at valid
    · cases valid
    · next policy =>
      split at valid
      · cases valid
      · split at valid
        · cases valid
        · next ids =>
          split at valid
          · cases valid
          · next same =>
            exact ⟨by simpa using param, by simpa using policy, ids, by simpa using same⟩

/-- What an accepted response contributes. -/
structure Accepted (fromStr : String → Option Json) (response : ChatResponse)
    (rollout : RolloutModelMeta) : Prop where
  logProbs : rollout.rolloutLogProbs = (tokenLogprobs response.body).reduceOption
  ids : rollout.responseIds = (tokenIds fromStr response.body).reduceOption
  versions : responseVersions response =
    (rollout.rolloutParamVersion, rollout.rolloutPolicyVersion)
  valid : rollout.validateForAsync = .ok ()

theorem accepted_of_infer {output : ModelInferOutput}
    (answered : inferOutput fromStr true response = .ok output) :
    ∃ rollout, output.rolloutMeta = some rollout ∧ Accepted fromStr response rollout := by
  unfold inferOutput at answered
  split at answered
  · cases answered
  · rw [if_pos rfl] at answered
    split at answered
    · cases answered
    · next rollout accepted =>
      cases answered
      refine ⟨rollout, rfl, ?_⟩
      unfold rolloutMeta at accepted
      obtain ⟨logprobs, parsed, accepted⟩ := bind_eq_ok.mp accepted
      obtain ⟨_, valid, accepted⟩ := bind_eq_ok.mp accepted
      cases accepted
      exact ⟨parseLogprobs_ok parsed, parseResponseIds_eq _ _, rfl, valid⟩

end Parsing

/-! ### The turns of an episode -/

attribute [local simp] RolloutModelMeta.absorb

section Turns

variable {fromStr : String → Option Json} {responses : List ChatResponse}
  {rollouts : List RolloutModelMeta}

variable {outputs : List ModelInferOutput}

theorem episodeRolloutMeta_eq
    (each : outputs.map ModelInferOutput.rolloutMeta = rollouts.map some) :
    episodeRolloutMeta outputs = rollouts.foldl RolloutModelMeta.absorb {} := by
  unfold episodeRolloutMeta
  generalize ({} : RolloutModelMeta) = start
  induction rollouts generalizing outputs start with
  | nil =>
    rw [List.map_nil, List.map_eq_nil_iff] at each
    rw [each]
    rfl
  | cons rollout rest ih =>
    obtain ⟨output, others, rfl, first, tail⟩ := List.map_eq_cons_iff.mp each
    rw [List.foldl_cons, List.foldl_cons, first]
    exact ih tail _

theorem absorbed_tokens (rollouts : List RolloutModelMeta) (start : RolloutModelMeta) :
    (rollouts.foldl RolloutModelMeta.absorb start).rolloutLogProbs =
        start.rolloutLogProbs ++ rollouts.flatMap RolloutModelMeta.rolloutLogProbs ∧
      (rollouts.foldl RolloutModelMeta.absorb start).responseIds =
        start.responseIds ++ rollouts.flatMap RolloutModelMeta.responseIds := by
  induction rollouts generalizing start with
  | nil => simp
  | cons rollout rest ih =>
    obtain ⟨logProbs, ids⟩ := ih (start.absorb rollout)
    rw [List.foldl_cons, logProbs, ids]
    simp

theorem absorbed_versions (rollouts : List RolloutModelMeta) (start : RolloutModelMeta)
    (param : start.rolloutParamVersion ≠ none)
    (policy : start.rolloutPolicyVersion.all String.isEmpty = false) :
    (rollouts.foldl RolloutModelMeta.absorb start).rolloutParamVersion = start.rolloutParamVersion ∧
      (rollouts.foldl RolloutModelMeta.absorb start).rolloutPolicyVersion =
        start.rolloutPolicyVersion := by
  induction rollouts generalizing start with
  | nil => exact ⟨rfl, rfl⟩
  | cons rollout rest ih =>
    have keptParam : (start.absorb rollout).rolloutParamVersion = start.rolloutParamVersion := by
      simp [param]
    have keptPolicy : (start.absorb rollout).rolloutPolicyVersion = start.rolloutPolicyVersion := by
      simp [policy]
    rw [List.foldl_cons, ← keptParam, ← keptPolicy]
    exact ih _ (keptParam ▸ param) (keptPolicy ▸ policy)

theorem isEmpty_of_trim {policy : Option String}
    (named : (policy.all fun v => (Service.trim v).isEmpty) = false) :
    policy.all String.isEmpty = false := by
  cases policy with
  | none => cases named
  | some v =>
    by_contra empty
    have blank : v.isEmpty = true := by simpa using empty
    obtain rfl := String.isEmpty_iff.mp blank
    simp [Service.trim] at named

theorem episode_versions {response : ChatResponse} {rollout : RolloutModelMeta}
    (accepted : Accepted fromStr response rollout) (rest : List RolloutModelMeta) :
    responseVersions response =
      (((rollout :: rest).foldl RolloutModelMeta.absorb {}).rolloutParamVersion,
        ((rollout :: rest).foldl RolloutModelMeta.absorb {}).rolloutPolicyVersion) := by
  obtain ⟨param, policy, _, _⟩ := validateForAsync_ok accepted.valid
  obtain ⟨sameParam, samePolicy⟩ := absorbed_versions rest (RolloutModelMeta.absorb {} rollout)
    param (isEmpty_of_trim policy)
  rw [List.foldl_cons, sameParam, samePolicy, accepted.versions]
  rfl

theorem accepted_tokens (accepted : List.Forall₂ (Accepted fromStr) responses rollouts) :
    rollouts.flatMap RolloutModelMeta.rolloutLogProbs =
        (responses.flatMap fun r => tokenLogprobs r.body).reduceOption ∧
      rollouts.flatMap RolloutModelMeta.responseIds =
        (responses.flatMap fun r => tokenIds fromStr r.body).reduceOption := by
  induction accepted with
  | nil => exact ⟨rfl, rfl⟩
  | cons first _ ih =>
    obtain ⟨logProbs, ids⟩ := ih
    simp only [List.flatMap_cons, List.reduceOption_append]
    rw [logProbs, ids, first.logProbs, first.ids]
    exact ⟨rfl, rfl⟩

theorem accepted_turns (answered : responses.mapM (inferOutput fromStr true) = .ok outputs) :
    ∃ rollouts, outputs.map ModelInferOutput.rolloutMeta = rollouts.map some ∧
      List.Forall₂ (Accepted fromStr) responses rollouts := by
  have answers := forall₂_of_mapM answered
  clear answered
  induction answers with
  | nil => exact ⟨[], rfl, .nil⟩
  | cons first _ ih =>
    obtain ⟨rollout, named, accepted⟩ := accepted_of_infer first
    obtain ⟨rest, others, tail⟩ := ih
    refine ⟨rollout :: rest, ?_, .cons accepted tail⟩
    rw [List.map_cons, List.map_cons, named, others]

/-- A turn that was accepted with every token parsed has as many log-probabilities as ids. -/
theorem Accepted.lengths {response : ChatResponse} {rollout : RolloutModelMeta}
    (accepted : Accepted fromStr response rollout) (parsed : Parsed fromStr response) :
    (tokenLogprobs response.body).length = (tokenIds fromStr response.body).length := by
  obtain ⟨_, _, _, same⟩ := validateForAsync_ok accepted.valid
  rw [accepted.logProbs, accepted.ids] at same
  rw [← List.reduceOption_length_eq_iff.mpr parsed.1, same,
    List.reduceOption_length_eq_iff.mpr parsed.2]

theorem accepted_lengths (accepted : List.Forall₂ (Accepted fromStr) responses rollouts) :
    (rollouts.flatMap RolloutModelMeta.rolloutLogProbs).length =
      (rollouts.flatMap RolloutModelMeta.responseIds).length := by
  induction accepted with
  | nil => rfl
  | cons first _ ih =>
    obtain ⟨_, _, _, same⟩ := validateForAsync_ok first.valid
    simp only [List.flatMap_cons, List.length_append, same, ih]

theorem map_some_reduceOption {α : Type} {items : List (Option α)} :
    items.reduceOption.map some = items ↔ ∀ item ∈ items, item.isSome = true := by
  refine ⟨fun same => ?_, fun all => ?_⟩
  · intro item member
    rw [← same] at member
    obtain ⟨value, _, rfl⟩ := List.mem_map.mp member
    rfl
  · induction items with
    | nil => rfl
    | cons item rest ih =>
      obtain ⟨value, rfl⟩ := Option.isSome_iff_exists.mp (all item List.mem_cons_self)
      rw [List.reduceOption_cons_of_some, List.map_cons,
        ih fun item member => all item (List.mem_cons_of_mem _ member)]

theorem responseIds_traced {rollout : RolloutModelMeta} {trajectory : Trajectory}
    (steps : trajectory.steps ≠ []) (ids : rollout.responseIds ≠ []) (result : EpisodeResult)
    (traced : result.trajectory = some (traceLast rollout trajectory)) :
    responseIds result = rollout.responseIds := by
  have last : (trajectory.steps.modify (trajectory.steps.length - 1) fun step =>
      { step with rolloutTrace := some ⟨rollout.responseIds, rollout.responseMask⟩ }).getLast? =
      trajectory.steps.getLast?.map fun step =>
        { step with rolloutTrace := some ⟨rollout.responseIds, rollout.responseMask⟩ } := by
    rw [List.getLast?_eq_getElem?, List.getLast?_eq_getElem?, List.length_modify,
      List.getElem?_modify_eq]
    rfl
  obtain ⟨step, found⟩ := Option.ne_none_iff_exists'.mp (mt List.getLast?_eq_none_iff.mp steps)
  rw [responseIds, traced, traceLast, if_neg fun none => ids none.1, Option.bind_some, last, found]
  rfl

end Turns

/-! ### The result of an episode -/

section Episode

variable {fromStr : String → Option Json} {responses : List ChatResponse} {parallelMode : String}
  {episode : EpisodeRequest} {turns : List (ModelInferOutput × StepRecord)} {totalReward : F64}
  {result final : EpisodeResult} {times : RolloutTimes}

theorem completed_result (mode : isAsyncMode parallelMode = true)
    (completed : completedAsync episode parallelMode turns totalReward result times = .ok final) :
    (episodeRolloutMeta (turns.map Prod.fst)).validateForAsync = .ok () ∧
      final.rolloutParamVersion = (episodeRolloutMeta (turns.map Prod.fst)).rolloutParamVersion ∧
      final.rolloutPolicyVersion = (episodeRolloutMeta (turns.map Prod.fst)).rolloutPolicyVersion ∧
      final.rolloutLogProbs = (episodeRolloutMeta (turns.map Prod.fst)).rolloutLogProbs ∧
      final.trajectory = some (traceLast (episodeRolloutMeta (turns.map Prod.fst))
        (episodeTrajectory (turns.map Prod.snd) totalReward)) := by
  unfold completedAsync at completed
  dsimp only at completed
  split at completed
  · cases completed
  · next valid =>
    rw [validateAsyncCompleted, if_pos mode] at valid
    cases completed
    exact ⟨valid, rfl, rfl, rfl, rfl⟩

theorem completedAsync_succeeds (some : responses ≠ [])
    (answered : responses.mapM (inferOutput fromStr true) = .ok (turns.map Prod.fst)) :
    ∃ final, completedAsync episode parallelMode turns totalReward result times = .ok final := by
  obtain ⟨rollouts, named, accepted⟩ := accepted_turns answered
  cases accepted with
  | nil => exact absurd rfl some
  | @cons first rollout rest rollouts acceptedFirst acceptedRest =>
    obtain ⟨param, policy, ids, _⟩ := validateForAsync_ok acceptedFirst.valid
    obtain ⟨sameParam, samePolicy⟩ := absorbed_versions rollouts
      (RolloutModelMeta.absorb {} rollout) param (isEmpty_of_trim policy)
    obtain ⟨absorbedProbs, absorbedIds⟩ := absorbed_tokens (rollout :: rollouts) {}
    have same : ((rollout :: rollouts).flatMap RolloutModelMeta.rolloutLogProbs).length =
        ((rollout :: rollouts).flatMap RolloutModelMeta.responseIds).length :=
      accepted_lengths (.cons acceptedFirst acceptedRest)
    have valid : (episodeRolloutMeta (turns.map Prod.fst)).validateForAsync = .ok () := by
      rw [episodeRolloutMeta_eq named, RolloutModelMeta.validateForAsync, absorbedProbs,
        absorbedIds, List.foldl_cons, sameParam, samePolicy]
      have filled : (rollout :: rollouts).flatMap RolloutModelMeta.responseIds ≠ [] := by
        simp [ids]
      have probs : (rollout :: rollouts).flatMap RolloutModelMeta.rolloutLogProbs ≠ [] := by
        intro none
        rw [none] at same
        exact filled (List.length_eq_zero_iff.mp same.symm)
      have version : (RolloutModelMeta.absorb {} rollout).rolloutParamVersion.isNone = false := by
        cases h : rollout.rolloutParamVersion with
        | none => exact absurd h param
        | some _ => simp [h]
      have named : ((RolloutModelMeta.absorb {} rollout).rolloutPolicyVersion.all fun v =>
          (Service.trim v).isEmpty) = false := policy
      simp only [List.nil_append, version, named, probs, filled, same, Bool.false_eq_true,
        if_false, ne_eq, not_true_eq_false]
    have checked : validateAsyncCompleted parallelMode (episodeRolloutMeta (turns.map Prod.fst)) =
        .ok () := by
      unfold validateAsyncCompleted
      split
      · exact valid
      · rfl
    unfold completedAsync
    dsimp only
    rw [checked]
    exact ⟨_, rfl⟩

/-- The tokens of an episode are aligned exactly if every token of every response was parsed and
all responses name the same versions. -/
theorem tokens_aligned_iff (mode : isAsyncMode parallelMode = true)
    (answered : responses.mapM (inferOutput fromStr true) = .ok (turns.map Prod.fst))
    (completed : completedAsync episode parallelMode turns totalReward result times = .ok final) :
    TokensAligned fromStr responses final ↔ (∀ r ∈ responses, Parsed fromStr r) ∧
        ∀ r ∈ responses, ∀ r' ∈ responses, responseVersions r = responseVersions r' := by
  obtain ⟨rollouts, named, accepted⟩ := accepted_turns answered
  obtain ⟨valid, param, policy, logProbs, trajectory⟩ := completed_result mode completed
  rw [episodeRolloutMeta_eq named] at valid param policy logProbs trajectory
  obtain ⟨absorbedProbs, absorbedIds⟩ := absorbed_tokens rollouts {}
  obtain ⟨tokenProbs, tokenIds⟩ := accepted_tokens accepted
  obtain ⟨_, _, someIds, _⟩ := validateForAsync_ok valid
  -- an episode without a turn has no version
  cases accepted with
  | nil => cases valid
  | @cons first rollout rest rollouts acceptedFirst acceptedRest =>
    have steps : (episodeTrajectory (turns.map Prod.snd) totalReward).steps ≠ [] := by
      intro none
      rw [episodeTrajectory, List.map_eq_nil_iff] at none
      rw [none] at named
      cases named
    have ids := responseIds_traced steps someIds final trajectory
    rw [absorbedProbs, List.nil_append, tokenProbs] at logProbs
    rw [absorbedIds, List.nil_append, tokenIds] at ids
    have versions := episode_versions acceptedFirst rollouts
    rw [← param, ← policy] at versions
    constructor
    · intro aligned
      have probs := aligned.logProbs
      have listed := aligned.ids
      rw [logProbs, map_some_reduceOption] at probs
      rw [ids, map_some_reduceOption] at listed
      refine ⟨fun r member => ⟨fun x found => ?_, fun x found => ?_⟩, fun r member r' member' => ?_⟩
      · exact probs x (List.mem_flatMap.mpr ⟨r, member, found⟩)
      · exact listed x (List.mem_flatMap.mpr ⟨r, member, found⟩)
      · rw [aligned.versions r member, aligned.versions r' member']
    · rintro ⟨parsed, same⟩
      have all := List.Forall₂.cons acceptedFirst acceptedRest
      constructor
      · rw [logProbs, map_some_reduceOption]
        intro x found
        obtain ⟨r, member, found⟩ := List.mem_flatMap.mp found
        exact (parsed r member).1 x found
      · rw [ids, map_some_reduceOption]
        intro x found
        obtain ⟨r, member, found⟩ := List.mem_flatMap.mp found
        exact (parsed r member).2 x found
      · intro r member
        obtain ⟨rollout', accepted⟩ : ∃ rollout', Accepted fromStr r rollout' := by
          obtain ⟨i, _, rfl⟩ := List.getElem_of_mem member
          exact ⟨_, all.get (by assumption) (all.length_eq ▸ by assumption)⟩
        exact accepted.lengths (parsed r member)
      · intro r member
        rw [same r member first List.mem_cons_self, versions]

/-- A response of policy version `version` with these log-probabilities and ids. -/
def chat (logprobs ids : List Json) (version : UInt64) : ChatResponse where
  body := .obj
    [("choices", .arr [.obj [("message", .obj [("content", .str "answer")]),
        ("logprobs", .obj [("token_logprobs", .arr logprobs)])]]),
      ("response_ids", .arr ids),
      ("uenv_model_version", .obj [("rollout_param_version", .posInt version)])]

/-- `-0.5`. -/
def minusHalf : Json := .float 0xBFE0000000000000

/-- The turns of an episode that the responses answer. -/
def answeredTurns (responses : List ChatResponse) : List (ModelInferOutput × StepRecord) :=
  match responses.mapM (inferOutput (fun _ => none) true) with
  | .ok outputs => outputs.map fun output => (output, {})
  | .error _ => []

/-- Two turns of one version. -/
def twoTurns : List ChatResponse :=
  [chat [minusHalf] [.posInt 11] 1, chat [minusHalf, minusHalf] [.posInt 12, .posInt 13] 1]

/-- The log-probability of the first token and the id of the second do not parse. -/
def skipped : List ChatResponse :=
  [chat [.null, minusHalf, minusHalf] [.posInt 11, .null, .posInt 13] 1]

theorem answered_of_isOk {responses : List ChatResponse}
    (accepted : (responses.mapM (inferOutput (fun _ => none) true)).isOk = true) :
    responses.mapM (inferOutput (fun _ => none) true) =
      .ok ((answeredTurns responses).map Prod.fst) := by
  unfold answeredTurns
  cases ran : responses.mapM (inferOutput (fun _ => none) true) with
  | error e =>
    rw [ran] at accepted
    cases accepted
  | ok =>
    rw [List.map_map]
    exact congrArg Except.ok (List.map_id _).symm

/-- Two turns of one version whose tokens all parse. -/
theorem tokens_aligned_twoTurns :
    ∃ final, completedAsync {} "fully_async" (answeredTurns twoTurns) .zero {}
        ⟨.zero, .zero, 0, 0⟩ = .ok final ∧ TokensAligned (fun _ => none) twoTurns final := by
  have answered := answered_of_isOk (show (twoTurns.mapM (inferOutput (fun _ => none) true)).isOk =
    true by decide +kernel)
  obtain ⟨final, completed⟩ := completedAsync_succeeds (by decide) answered
  have logprobs : (twoTurns.all fun r => (tokenLogprobs r.body).all Option.isSome) = true := by
    decide +kernel
  have ids : (twoTurns.all fun r => (tokenIds (fun _ => none) r.body).all Option.isSome) =
      true := by
    decide +kernel
  have same : (twoTurns.all fun r => twoTurns.all fun r' =>
      responseVersions r == responseVersions r') = true := by
    decide +kernel
  simp only [List.all_eq_true, beq_iff_eq] at logprobs ids same
  exact ⟨final, completed, (tokens_aligned_iff rfl answered completed).mpr
    ⟨fun r member => ⟨logprobs r member, ids r member⟩, same⟩⟩

/-- The log-probability of the second token is paired with the id of the first. -/
theorem tokens_not_aligned :
    ¬ ∀ (fromStr : String → Option Json) (responses : List ChatResponse) (parallelMode : String)
      (episode : EpisodeRequest) (turns : List (ModelInferOutput × StepRecord)) (totalReward : F64)
      (result final : EpisodeResult) (times : RolloutTimes), isAsyncMode parallelMode = true →
      responses.mapM (inferOutput fromStr true) = .ok (turns.map Prod.fst) →
      completedAsync episode parallelMode turns totalReward result times = .ok final →
      TokensAligned fromStr responses final := by
  intro all
  have answered := answered_of_isOk (show (skipped.mapM (inferOutput (fun _ => none) true)).isOk =
    true by decide +kernel)
  obtain ⟨final, completed⟩ := completedAsync_succeeds (by decide) answered
  have aligned := all _ _ "fully_async" {} _ .zero {} final ⟨.zero, .zero, 0, 0⟩ rfl answered
    completed
  have dropped : (skipped.flatMap fun r => tokenLogprobs r.body).any Option.isNone = true := by
    decide +kernel
  rw [← aligned.logProbs] at dropped
  simp at dropped

end Episode

end UEnv.Worker
