import Mathlib.Algebra.Ring.Int.Defs
import Mathlib.Data.List.Flatten
import Mathlib.Data.List.Forall2
import UEnv.Lib.Fallible

/-!
# Training outputs

`_output_from_result` and `run` of `verl_agent_loop.py`: what the trainer gets of an episode. The
ids and the masks of the steps are joined by two loops with different skip rules, cut to the
response length and padded; only the log-probabilities are compared with the ids in length.
-/

namespace UEnv.Bridge

open Fallible

/-- `StepRecord`: `action` stands for the action's bytes after `decode("utf-8", "replace")`. -/
structure StepRecord where
  action : String
  /-- `info["response_text"]`. -/
  responseText : Option String
  responseIds : List Int
  responseMask : List Int
  deriving DecidableEq

/-- `EpisodeResult`, with the reward and the log-probabilities in a type of floats. -/
structure EpisodeResult (F : Type) where
  requestId : String
  status : String
  errorMessage : String
  steps : List StepRecord
  totalSteps : Int
  totalReward : F
  rolloutLogProbs : List F
  deriving DecidableEq

/-- What the loop reads of the `EpisodeRequest`: `promptIds` are those of its payload. -/
structure EpisodeRequest where
  requestId : String
  envType : String
  promptIds : List Int
  deriving DecidableEq

structure Config where
  failedEpisodePolicy : String := "raise"
  requireSweResponseTrace : Bool := true
  missingLogprobsAsZero : Bool := false
  batchSize : Int := 0
  /-- `_rollout_response_length()`: 0 when the rollout configuration names no length. -/
  rolloutResponseLength : Int := 0
  deriving DecidableEq

/-- The tokenizer of the trainer: no `encode` also when there is no tokenizer at all. -/
structure Tokenizer where
  encode : Option (String → List Int)
  padTokenId : Option Int

structure AgentLoopOutput (F : Type) where
  promptIds : List Int
  responseIds : List Int
  responseMask : List Int
  responseLogprobs : Option (List F)
  rewardScore : F
  numTurns : Int
  deriving DecidableEq

/-- The `RuntimeError`s of the loop, and what the client raises. -/
inductive LoopError where
  | episodeFailed (requestId status errorMessage : String)
  | missingTrace (requestId : String)
  | inconsistentTrace (responseIds rolloutLogProbs : Nat) (requestId : String)
  | resultCount (results requests : Nat)
  | duplicateResult (requestId : String)
  | noResult (requestId : String)
  | client (message : String)
  deriving DecidableEq

section Loops

variable {F : Type}

/-- `result.status in {"completed", "recorded"}`. -/
def EpisodeResult.Finished (result : EpisodeResult F) : Prop :=
  result.status = "completed" ∨ result.status = "recorded"

instance (result : EpisodeResult F) : Decidable result.Finished :=
  inferInstanceAs (Decidable (_ ∨ _))

/-- `_raise_if_failed` (verl_agent_loop.py, 661-669). -/
def raiseIfFailed (config : Config) (results : List (EpisodeResult F)) : Except LoopError Unit :=
  if config.failedEpisodePolicy = "zero_reward" then .ok ()
  else match results.find? fun result => ¬result.Finished with
    | some result => .error (.episodeFailed result.requestId result.status result.errorMessage)
    | none => .ok ()

/-- `_encode_response_text` (verl_agent_loop.py, 1210-1218). -/
def Tokenizer.encodeResponseText (tokenizer : Tokenizer) (text : String) : List Int :=
  match tokenizer.encode with
  | some encode => encode text
  | none => if text = "" then [0] else text.toList.map fun char => (char.toNat : Int)

def Tokenizer.padId (tokenizer : Tokenizer) : Int := tokenizer.padTokenId.getD 0

/-- `step.info.get("response_text") or step.action.decode(...)`. -/
def StepRecord.text (step : StepRecord) : String :=
  match step.responseText with
  | some text => if text = "" then step.action else text
  | none => step.action

def joinedIds (steps : List StepRecord) : List Int := steps.flatMap StepRecord.responseIds

/-- `_response_ids_from_result` (verl_agent_loop.py, 1178-1199). -/
def responseIdsFromResult (tokenizer : Tokenizer) (steps : List StepRecord) : List Int :=
  let ids := joinedIds steps
  let fallbackText := String.join ((steps.filter (·.responseIds = [])).map StepRecord.text)
  let lastResort := fun (step : StepRecord) =>
    if step.responseIds ≠ [] then some step.responseIds
    else if tokenizer.encodeResponseText step.text ≠ [] then
      some (tokenizer.encodeResponseText step.text)
    else none
  if ids ≠ [] then ids
  else if fallbackText ≠ "" then tokenizer.encodeResponseText fallbackText
  else (steps.reverse.findSome? lastResort).getD (tokenizer.encodeResponseText "")

/-- `1 if item else 0`. -/
def flag (item : Int) : Int := if item ≠ 0 then 1 else 0

def joinedMask (steps : List StepRecord) : List Int :=
  steps.flatMap fun step => step.responseMask.map flag

/-- `_response_mask_from_result` (verl_agent_loop.py, 1201-1208). -/
def responseMaskFromResult (steps : List StepRecord) (fallbackLen : Nat) : List Int :=
  if joinedMask steps ≠ [] then joinedMask steps else List.replicate fallbackLen 1

/-- `_raise_if_missing_required_response_trace` (verl_agent_loop.py, 1091-1107). -/
def raiseIfMissingRequiredResponseTrace (config : Config) (request : EpisodeRequest)
    (result : EpisodeResult F) : Except LoopError Unit :=
  if ¬config.requireSweResponseTrace ∨ request.envType ≠ "swe" then .ok ()
  else if result.steps.any (·.responseIds ≠ []) then .ok ()
  else .error (.missingTrace result.requestId)

/-- `_response_logprobs_from_result` (verl_agent_loop.py, 1615-1631). -/
def responseLogprobsFromResult [Zero F] (config : Config) (tokenizer : Tokenizer)
    (result : EpisodeResult F) (responseLength : Nat) : Except LoopError (Option (List F)) :=
  let sourceResponseLength := (responseIdsFromResult tokenizer result.steps).length
  match result.rolloutLogProbs with
  | [] =>
    if config.missingLogprobsAsZero ∧ 0 < responseLength then
      .ok (some (List.replicate responseLength 0))
    else .ok none
  | logProbs =>
    if logProbs.length ≠ sourceResponseLength then
      .error (.inconsistentTrace sourceResponseLength logProbs.length result.requestId)
    else .ok (some (logProbs.take responseLength))

/-- The slice `items[:limit] if limit else items`: a negative limit drops from the end. -/
def cut {α : Type} (limit : Int) (items : List α) : List α :=
  if limit = 0 then items
  else items.take (if limit < 0 then (items.length + limit).toNat else limit.toNat)

/-- The ids after the cut, or the pad token when none is left. -/
def outputIds (config : Config) (tokenizer : Tokenizer) (steps : List StepRecord) : List Int :=
  let ids := cut config.rolloutResponseLength (responseIdsFromResult tokenizer steps)
  if ids = [] then [tokenizer.padId] else ids

/-- The mask of a response of `length` ids: too long it is cut, too short it is extended by ones. -/
def outputMask (steps : List StepRecord) (length : Nat) : List Int :=
  let mask := (responseMaskFromResult steps length).take length
  mask ++ List.replicate (length - mask.length) 1

/-- `_failed_output_from_result` (verl_agent_loop.py, 715-753). -/
def failedOutputFromResult [Zero F] (tokenizer : Tokenizer) (promptIds : List Int)
    (result : EpisodeResult F) : AgentLoopOutput F :=
  { promptIds
    responseIds := [tokenizer.padId]
    responseMask := [0]
    responseLogprobs := some [0]
    rewardScore := 0
    numTurns := max (result.totalSteps + 1) 1 }

/-- The output of a result, with the prompt ids that the caller has. -/
def output [Zero F] (config : Config) (tokenizer : Tokenizer) (request : EpisodeRequest)
    (promptIds : List Int) (result : EpisodeResult F) : Except LoopError (AgentLoopOutput F) :=
  if ¬result.Finished then do
    raiseIfFailed config [result]
    return failedOutputFromResult tokenizer promptIds result
  else do
    raiseIfMissingRequiredResponseTrace config request result
    let responseIds := outputIds config tokenizer result.steps
    let responseLogprobs ←
      responseLogprobsFromResult config tokenizer result responseIds.length
    return {
      promptIds
      responseIds
      responseMask := outputMask result.steps responseIds.length
      responseLogprobs
      rewardScore := result.totalReward
      numTurns := max (result.totalSteps + 1) 2 }

/-- `_output_from_result` (verl_agent_loop.py, 677-713). -/
def outputFromResult [Zero F] (config : Config) (tokenizer : Tokenizer) (request : EpisodeRequest)
    (result : EpisodeResult F) : Except LoopError (AgentLoopOutput F) :=
  output config tokenizer request request.promptIds result

/-- `run` with the prompt ids it has built, the request it has built from them and the client's
answer to it. -/
def run [Zero F] (config : Config) (tokenizer : Tokenizer) (request : EpisodeRequest)
    (promptIds : List Int) (submitEpisode : EpisodeRequest → EpisodeResult F) :
    Except LoopError (AgentLoopOutput F) :=
  output config tokenizer request promptIds (submitEpisode request)

end Loops

/-! ### Where a position of the output comes from -/

section Origins

variable {F : Type}

/-- The tokens of the steps in the order of the output, each as its step and its index there. -/
def origins (steps : List StepRecord) : List (StepRecord × Nat) :=
  steps.flatMap fun step => (List.range step.responseIds.length).map (step, ·)

/-- The tokens that the output keeps: position `i` of the output comes from the `i`-th of them. A
failed result, an encoded text and the pad token come from no step's token. -/
def EpisodeResult.kept (config : Config) (result : EpisodeResult F) : List (StepRecord × Nat) :=
  if result.Finished then cut config.rolloutResponseLength (origins result.steps) else []

/-- Entry `k` of the step's own mask, 1 if the step has no mask. -/
def StepRecord.ownMask (step : StepRecord) (k : Nat) : Option Int :=
  if step.responseMask = [] then some 1 else step.responseMask[k]?.map flag

/-- The mask of every position is the one of the token that the position comes from. -/
def TokenAligned (config : Config) (result : EpisodeResult F) (output : AgentLoopOutput F) : Prop :=
  ∀ (i : Nat) (step : StepRecord) (k : Nat), (result.kept config)[i]? = some (step, k) →
    output.responseMask[i]? = step.ownMask k

/-- Every sequence of the output has the length of the ids, and there is an id. -/
structure AgentLoopOutput.Even (output : AgentLoopOutput F) : Prop where
  ids : output.responseIds ≠ []
  mask : output.responseMask.length = output.responseIds.length
  logprobs : ∀ logprobs, output.responseLogprobs = some logprobs →
    logprobs.length = output.responseIds.length

def idCount (steps : List StepRecord) : Nat := (joinedIds steps).length

def maskCount (steps : List StepRecord) : Nat := (joinedMask steps).length

/-- The masks of the steps fit their ids as far as the output reaches. A step with a mask has masks
before it for just the ids before it, and an entry for each of its own ids that is kept; a step
without one has all masks of the episode before it. -/
def EpisodeResult.Fits (config : Config) (result : EpisodeResult F) : Prop :=
  ∀ before step after, result.steps = before ++ step :: after → step.responseIds ≠ [] →
    idCount before < (result.kept config).length →
    if step.responseMask = [] then maskCount result.steps ≤ idCount before
    else maskCount before = idCount before ∧
      min step.responseIds.length ((result.kept config).length - idCount before) ≤
        step.responseMask.length

/-- The same step, up to the values of its mask entries. -/
structure StepRecord.SameShape (step step' : StepRecord) : Prop where
  action : step'.action = step.action
  responseText : step'.responseText = step.responseText
  responseIds : step'.responseIds = step.responseIds
  responseMask : step'.responseMask.length = step.responseMask.length

/-- The same result, up to the values of the mask entries. -/
def EpisodeResult.SameShape (result result' : EpisodeResult F) : Prop :=
  { result' with steps := result.steps } = result ∧
    List.Forall₂ StepRecord.SameShape result.steps result'.steps

end Origins

/-! ### Lengths -/

section Lengths

variable {F : Type}

variable {limit : Int}

theorem cut_length {α β : Type} {xs : List α} {ys : List β} (same : xs.length = ys.length) :
    (cut limit xs).length = (cut limit ys).length := by
  unfold cut
  split <;> simp [same]

theorem cut_length_le {α : Type} (limit : Int) (xs : List α) :
    (cut limit xs).length ≤ xs.length := by
  unfold cut
  split
  · exact Nat.le_refl _
  · exact List.length_take_le' ..

theorem cut_getElem? {α : Type} {xs : List α} {i : Nat} (bound : i < (cut limit xs).length) :
    (cut limit xs)[i]? = xs[i]? := by
  unfold cut at bound ⊢
  split at bound
  · simp only [if_pos, *]
  · next nonzero =>
    rw [if_neg nonzero, List.getElem?_take, if_pos]
    rw [List.length_take] at bound
    exact Nat.lt_of_lt_of_le bound (Nat.min_le_left ..)

theorem outputIds_ne_nil (config : Config) (tokenizer : Tokenizer) (steps : List StepRecord) :
    outputIds config tokenizer steps ≠ [] := by
  unfold outputIds
  dsimp only
  split <;> simp [*]

@[simp] theorem outputMask_length (steps : List StepRecord) (length : Nat) :
    (outputMask steps length).length = length := by
  simp only [outputMask, List.length_append, List.length_take, List.length_replicate]
  omega

theorem logprobs_length [Zero F] {config : Config} {tokenizer : Tokenizer}
    {result : EpisodeResult F} {logprobs : List F}
    (read : responseLogprobsFromResult config tokenizer result
      (outputIds config tokenizer result.steps).length = .ok (some logprobs)) :
    logprobs.length = (outputIds config tokenizer result.steps).length := by
  unfold responseLogprobsFromResult at read
  cases source : result.rolloutLogProbs with
  | nil =>
    rw [source] at read
    dsimp only at read
    split at read
    · obtain rfl : List.replicate _ 0 = logprobs := by simpa using read
      simp
    · cases read
  | cons first rest =>
    rw [source] at read
    dsimp only at read
    split at read
    · cases read
    next same =>
    obtain rfl : (first :: rest).take _ = logprobs := by simpa using read
    rw [List.length_take, not_ne_iff.mp same]
    refine Nat.min_eq_left ?_
    have some : 0 < (responseIdsFromResult tokenizer result.steps).length := by
      rw [← not_ne_iff.mp same]
      simp
    unfold outputIds
    dsimp only
    split
    · exact some
    · exact cut_length_le ..

end Lengths

/-! ### Origins and masks, step by step -/

section Positions

variable {F : Type}

@[simp] theorem origins_nil : origins [] = [] := rfl

@[simp] theorem idCount_nil : idCount [] = 0 := rfl

@[simp] theorem maskCount_nil : maskCount [] = 0 := rfl

@[simp] theorem idCount_cons (step : StepRecord) (rest : List StepRecord) :
    idCount (step :: rest) = step.responseIds.length + idCount rest := by
  simp [idCount, joinedIds]

@[simp] theorem maskCount_cons (step : StepRecord) (rest : List StepRecord) :
    maskCount (step :: rest) = step.responseMask.length + maskCount rest := by
  simp [maskCount, joinedMask]

@[simp] theorem origins_length (steps : List StepRecord) :
    (origins steps).length = idCount steps := by
  induction steps with
  | nil => rfl
  | cons step rest ih => simpa [origins] using ih

variable {i k : Nat} {before after : List StepRecord} {config : Config} {result : EpisodeResult F}

/-- A position that comes from token `k` of a step lies `k` after the ids of the steps before. -/
theorem origins_getElem? {steps : List StepRecord} {step : StepRecord}
    (comes : (origins steps)[i]? = some (step, k)) :
    ∃ before after, steps = before ++ step :: after ∧ i = idCount before + k ∧
      k < step.responseIds.length := by
  induction steps generalizing i with
  | nil => simp at comes
  | cons first rest ih =>
    have split : origins (first :: rest) =
        (List.range first.responseIds.length).map (first, ·) ++ origins rest := rfl
    rw [split, List.getElem?_append] at comes
    simp only [List.length_map, List.length_range] at comes
    split at comes
    · next bound =>
      rw [List.getElem?_map, List.getElem?_range bound] at comes
      obtain ⟨rfl, rfl⟩ : first = step ∧ i = k := by simpa using comes
      exact ⟨[], rest, rfl, by simp, bound⟩
    · next beyond =>
      obtain ⟨before, after, rfl, place, bound⟩ := ih comes
      exact ⟨first :: before, after, rfl, by rw [idCount_cons]; omega, bound⟩

theorem getElem?_origins {step : StepRecord} (bound : k < step.responseIds.length) :
    (origins (before ++ step :: after))[idCount before + k]? = some (step, k) := by
  have split : origins (before ++ step :: after) =
      origins before ++ ((List.range step.responseIds.length).map (step, ·) ++ origins after) := by
    simp [origins]
  rw [split, ← origins_length before, List.getElem?_append_right (Nat.le_add_right ..),
    Nat.add_sub_cancel_left, List.getElem?_append_left (by simpa using bound)]
  simp [List.getElem?_range bound]

theorem getElem?_joinedMask {step : StepRecord} (bound : k < step.responseMask.length) :
    (joinedMask (before ++ step :: after))[maskCount before + k]? =
      step.responseMask[k]?.map flag := by
  have split : joinedMask (before ++ step :: after) =
      joinedMask before ++ (step.responseMask.map flag ++ joinedMask after) := by
    simp [joinedMask]
  rw [split, maskCount, List.getElem?_append_right (Nat.le_add_right ..),
    Nat.add_sub_cancel_left, List.getElem?_append_left (by simpa using bound), List.getElem?_map]

theorem outputMask_getElem? (steps : List StepRecord) {length : Nat} (bound : i < length) :
    (outputMask steps length)[i]? = some ((joinedMask steps)[i]?.getD 1) := by
  unfold outputMask responseMaskFromResult
  split
  · by_cases reaches : i < (joinedMask steps).length
    · rw [List.getElem?_append_left (by rw [List.length_take]; omega), List.getElem?_take,
        if_pos bound]
      simp [List.getElem?_eq_getElem reaches]
    · have short : ((joinedMask steps).take length).length ≤ i := by
        rw [List.length_take]
        omega
      rw [List.getElem?_append_right short, List.getElem?_replicate, if_pos (by omega),
        List.getElem?_eq_none (by omega)]
      rfl
  · next empty => simp [not_ne_iff.mp empty, bound]

theorem EpisodeResult.kept_getElem? (bound : i < (result.kept config).length) :
    (result.kept config)[i]? = (origins result.steps)[i]? := by
  unfold EpisodeResult.kept at bound ⊢
  split at bound
  · next finished => rw [if_pos finished, cut_getElem? bound]
  · cases bound

/-- Token `k` of a step is kept when it lies before the end of the kept tokens. -/
theorem EpisodeResult.kept_iff {step : StepRecord} (split : result.steps = before ++ step :: after)
    (bound : k < step.responseIds.length)
    (within : idCount before + k < (result.kept config).length) :
    (result.kept config)[idCount before + k]? = some (step, k) := by
  rw [EpisodeResult.kept_getElem? within, split, getElem?_origins bound]

end Positions

/-! ### Other values in the masks -/

section Refill

variable {F : Type}

/-- The steps with the entry at place `q` of the joined mask set to `f q`. -/
def refill (f : Nat → Int) : Nat → List StepRecord → List StepRecord
  | _, [] => []
  | q, step :: rest =>
    { step with responseMask := (List.range step.responseMask.length).map fun k => f (q + k) } ::
      refill f (q + step.responseMask.length) rest

/-- The result with its steps refilled. -/
def EpisodeResult.refill (f : Nat → Int) (result : EpisodeResult F) : EpisodeResult F :=
  { result with steps := Bridge.refill f 0 result.steps }

theorem sameShape_refill (f : Nat → Int) (q : Nat) (steps : List StepRecord) :
    List.Forall₂ StepRecord.SameShape steps (refill f q steps) := by
  induction steps generalizing q with
  | nil => exact .nil
  | cons step rest ih => exact .cons ⟨rfl, rfl, rfl, by simp⟩ (ih _)

theorem EpisodeResult.sameShape_refill (f : Nat → Int) (result : EpisodeResult F) :
    result.SameShape (result.refill f) :=
  ⟨rfl, Bridge.sameShape_refill f 0 result.steps⟩

@[simp] theorem joinedMask_refill (f : Nat → Int) (q : Nat) (steps : List StepRecord) :
    joinedMask (refill f q steps) =
      (List.range (maskCount steps)).map fun k => flag (f (q + k)) := by
  induction steps generalizing q with
  | nil => rfl
  | cons step rest ih =>
    have first : joinedMask (refill f q (step :: rest)) =
        ((List.range step.responseMask.length).map fun k => flag (f (q + k))) ++
          joinedMask (refill f (q + step.responseMask.length) rest) := by
      simp [joinedMask, refill, Function.comp_def]
    rw [first, ih, maskCount_cons, List.range_add, List.map_append, List.map_map]
    simp [Function.comp_def, Nat.add_assoc]

theorem refill_append (f : Nat → Int) (q : Nat) (before after : List StepRecord) :
    refill f q (before ++ after) = refill f q before ++ refill f (q + maskCount before) after := by
  induction before generalizing q with
  | nil => rfl
  | cons step rest ih =>
    rw [List.cons_append, refill, ih, maskCount_cons, Nat.add_assoc]
    rfl

/-- Where a step stands, the ids and the length of its mask are those before the refilling. -/
theorem SameShape.idCount_eq {steps steps' : List StepRecord}
    (shape : List.Forall₂ StepRecord.SameShape steps steps') :
    joinedIds steps' = joinedIds steps ∧ maskCount steps' = maskCount steps := by
  induction shape with
  | nil => exact ⟨rfl, rfl⟩
  | cons same _ ih =>
    refine ⟨?_, by rw [maskCount_cons, maskCount_cons, same.responseMask, ih.2]⟩
    simpa [joinedIds, same.responseIds] using ih.1

end Refill

/-! ### Outputs -/

section Results

variable {F : Type} [Zero F] {config : Config} {tokenizer : Tokenizer} {request : EpisodeRequest}
  {promptIds : List Int}

/-- The output of a finished result with these log-probabilities. -/
def finishedOutput (config : Config) (tokenizer : Tokenizer) (promptIds : List Int)
    (result : EpisodeResult F) (responseLogprobs : Option (List F)) : AgentLoopOutput F :=
  { promptIds
    responseIds := outputIds config tokenizer result.steps
    responseMask := outputMask result.steps (outputIds config tokenizer result.steps).length
    responseLogprobs
    rewardScore := result.totalReward
    numTurns := max (result.totalSteps + 1) 2 }

variable {result result' : EpisodeResult F} {out : AgentLoopOutput F}

theorem output_eq_ok (finished : result.Finished) :
    output config tokenizer request promptIds result = .ok out ↔
      raiseIfMissingRequiredResponseTrace config request result = .ok () ∧
        ∃ logprobs, responseLogprobsFromResult config tokenizer result
          (outputIds config tokenizer result.steps).length = .ok logprobs ∧
          finishedOutput config tokenizer promptIds result logprobs = out := by
  have branch : output config tokenizer request promptIds result =
      (raiseIfMissingRequiredResponseTrace config request result >>= fun _ =>
        responseLogprobsFromResult config tokenizer result
          (outputIds config tokenizer result.steps).length >>= fun logprobs =>
            .ok (finishedOutput config tokenizer promptIds result logprobs)) := by
    rw [output, if_neg (not_not_intro finished)]
    rfl
  rw [branch]
  simp only [bind_eq_ok, Except.ok.injEq]
  exact ⟨fun ⟨_, traced, rest⟩ => ⟨traced, rest⟩, fun ⟨traced, rest⟩ => ⟨(), traced, rest⟩⟩

theorem output_failed (failed : ¬result.Finished)
    (ran : output config tokenizer request promptIds result = .ok out) :
    out = failedOutputFromResult tokenizer promptIds result := by
  rw [output, if_pos failed] at ran
  obtain ⟨_, _, returned⟩ := bind_eq_ok.mp ran
  exact (Except.ok.inj returned).symm

theorem output_even (ran : output config tokenizer request promptIds result = .ok out) :
    out.Even := by
  by_cases finished : result.Finished
  · obtain ⟨_, logprobs, read, rfl⟩ := (output_eq_ok finished).mp ran
    refine ⟨outputIds_ne_nil config tokenizer _, outputMask_length .., ?_⟩
    intro present same
    obtain rfl : logprobs = some present := same
    exact logprobs_length read
  · obtain rfl := output_failed finished ran
    refine ⟨List.cons_ne_nil _ _, rfl, ?_⟩
    intro logprobs same
    obtain rfl : [0] = logprobs := Option.some.inj same
    rfl

theorem responseIds_of_joined {steps : List StepRecord} (some : joinedIds steps ≠ []) :
    responseIdsFromResult tokenizer steps = joinedIds steps := by
  rw [responseIdsFromResult, if_pos some]

omit [Zero F] in
theorem kept_length_le (config : Config) (tokenizer : Tokenizer) (result : EpisodeResult F) :
    (result.kept config).length ≤ (outputIds config tokenizer result.steps).length := by
  unfold EpisodeResult.kept
  split
  · by_cases some : joinedIds result.steps = []
    · have none : (origins result.steps).length = 0 := by simp [idCount, some]
      exact Nat.le_trans (cut_length_le ..) (none ▸ Nat.zero_le _)
    · have same : (origins result.steps).length = (joinedIds result.steps).length :=
        origins_length _
      simp only [outputIds, responseIds_of_joined some]
      rw [cut_length same]
      split
      · next empty => simp [empty]
      · exact Nat.le_refl _
  · exact Nat.zero_le _

theorem EpisodeResult.Fits.aligned (fits : result.Fits config)
    (ran : output config tokenizer request promptIds result = .ok out) :
    TokenAligned config result out := by
  intro i step k comes
  have bound := (List.getElem?_eq_some_iff.mp comes).1
  by_cases finished : result.Finished
  swap
  · rw [EpisodeResult.kept, if_neg finished] at bound
    cases bound
  obtain ⟨_, logprobs, _, rfl⟩ := (output_eq_ok finished).mp ran
  rw [EpisodeResult.kept_getElem? bound] at comes
  obtain ⟨before, after, split, rfl, token⟩ := origins_getElem? comes
  have condition := fits before step after split (List.ne_nil_of_length_pos (by omega)) (by omega)
  have place := outputMask_getElem? result.steps
    (Nat.lt_of_lt_of_le bound (kept_length_le config tokenizer result))
  refine place.trans ?_
  unfold StepRecord.ownMask
  split at condition
  · next maskless =>
    have past : (joinedMask result.steps).length ≤ idCount before + k :=
      Nat.le_trans condition (Nat.le_add_right ..)
    rw [if_pos maskless, List.getElem?_eq_none past]
    rfl
  · next masked =>
    rw [if_neg masked, split, ← condition.1, getElem?_joinedMask (by omega)]
    simp [List.getElem?_eq_getElem (show k < step.responseMask.length by omega)]

omit [Zero F] in
theorem EpisodeResult.SameShape.kept_length (shape : result.SameShape result') :
    (result'.kept config).length = (result.kept config).length := by
  have status : result'.status = result.status := by rw [← shape.1]
  have ids : (origins result'.steps).length = (origins result.steps).length := by
    rw [origins_length, origins_length, idCount, (SameShape.idCount_eq shape.2).1, idCount]
  by_cases finished : result.Finished
  · have finished' : result'.Finished := by simpa [EpisodeResult.Finished, status] using finished
    rw [EpisodeResult.kept, EpisodeResult.kept, if_pos finished, if_pos finished', cut_length ids]
  · have failed' : ¬result'.Finished := by simpa [EpisodeResult.Finished, status] using finished
    rw [EpisodeResult.kept, EpisodeResult.kept, if_neg finished, if_neg failed']

theorem forall₂_split {R : StepRecord → StepRecord → Prop} {steps before' after' : List StepRecord}
    {step' : StepRecord} (all : List.Forall₂ R steps (before' ++ step' :: after')) :
    ∃ before step after, steps = before ++ step :: after ∧ List.Forall₂ R before before' ∧
      R step step' := by
  induction before' generalizing steps with
  | nil =>
    obtain ⟨step, after, here, _, rfl⟩ := List.forall₂_cons_right_iff.mp all
    exact ⟨[], step, after, rfl, .nil, here⟩
  | cons first' before' ih =>
    obtain ⟨first, rest, here, others, rfl⟩ := List.forall₂_cons_right_iff.mp all
    obtain ⟨before, step, after, rfl, earlier, found⟩ := ih others
    exact ⟨first :: before, step, after, rfl, .cons here earlier, found⟩

omit [Zero F] in
theorem EpisodeResult.Fits.transport (shape : result.SameShape result')
    (fits : result.Fits config) :
    result'.Fits config := by
  intro before' step' after' split' some' reached
  obtain ⟨before, step, after, split, earlier, same⟩ := forall₂_split (split' ▸ shape.2)
  have ids : idCount before' = idCount before := by
    rw [idCount, (SameShape.idCount_eq earlier).1, idCount]
  rw [shape.kept_length, ids] at reached ⊢
  rw [(SameShape.idCount_eq earlier).2, (SameShape.idCount_eq shape.2).2, same.responseMask,
    same.responseIds]
  have condition := fits before step after split (same.responseIds ▸ some') reached
  have maskless : step'.responseMask = [] ↔ step.responseMask = [] := by
    rw [← List.length_eq_zero_iff, same.responseMask, List.length_eq_zero_iff]
  simpa only [maskless] using condition

/-- With other values in the masks a result still has an output, and the same ids in it. -/
theorem output_refill (f : Nat → Int) (finished : result.Finished)
    (some : joinedIds result.steps ≠ [])
    (ran : output config tokenizer request promptIds result = .ok out) :
    ∃ logprobs, output config tokenizer request promptIds (result.refill f) =
      .ok (finishedOutput config tokenizer promptIds (result.refill f) logprobs) := by
  obtain ⟨_, logprobs, read, _⟩ := (output_eq_ok finished).mp ran
  have ids : joinedIds (result.refill f).steps = joinedIds result.steps :=
    (SameShape.idCount_eq (result.sameShape_refill f).2).1
  have source : responseIdsFromResult tokenizer (result.refill f).steps =
      responseIdsFromResult tokenizer result.steps := by
    rw [responseIds_of_joined some, responseIds_of_joined (ids ▸ some), ids]
  have traced : (result.refill f).steps.any (·.responseIds ≠ []) := by
    rw [List.any_eq_true]
    rw [← ids] at some
    obtain ⟨step, listed, nonempty⟩ : ∃ step ∈ (result.refill f).steps, step.responseIds ≠ [] := by
      by_contra none
      push Not at none
      exact some (List.flatMap_eq_nil_iff.mpr none)
    exact ⟨step, listed, decide_eq_true nonempty⟩
  have finished' : (result.refill f).Finished := finished
  refine ⟨logprobs, (output_eq_ok finished').mpr ⟨?_, logprobs, ?_, rfl⟩⟩
  · rw [raiseIfMissingRequiredResponseTrace, if_pos traced]
    exact ite_self _
  · have same : outputIds config tokenizer (result.refill f).steps =
        outputIds config tokenizer result.steps := by
      rw [outputIds, outputIds, source]
    rw [same, ← read]
    simp only [responseLogprobsFromResult, source]
    rfl

/-- If the masks of a result cannot be read wrongly, then each kept token of a step has this entry
of the joined mask for its own. -/
theorem own_of_aligned {before after : List StepRecord} {step : StepRecord} {k : Nat}
    (aligned : ∀ result' out', result.SameShape result' →
      output config tokenizer request promptIds result' = .ok out' →
      TokenAligned config result' out')
    (ran : output config tokenizer request promptIds result = .ok out)
    (split : result.steps = before ++ step :: after) (token : k < step.responseIds.length)
    (within : idCount before + k < (result.kept config).length) (f : Nat → Int) :
    some (((List.range (maskCount result.steps)).map fun j => flag (f j))[idCount before + k]?.getD
        1) =
      { step with responseMask :=
          (List.range step.responseMask.length).map fun j => f (maskCount before + j) :
        StepRecord }.ownMask k := by
  have finished : result.Finished := by
    by_contra failed
    rw [EpisodeResult.kept, if_neg failed] at within
    cases within
  have some : joinedIds result.steps ≠ [] := by
    rw [split]
    intro none
    have here := (List.flatMap_eq_nil_iff.mp none) step (by simp)
    simp [here] at token
  obtain ⟨logprobs, ran'⟩ := output_refill f finished some ran
  have shape := result.sameShape_refill f
  rw [← shape.kept_length] at within
  have split' : (result.refill f).steps = refill f 0 before ++
      { step with responseMask :=
          (List.range step.responseMask.length).map fun j => f (maskCount before + j) } ::
        refill f (maskCount before + step.responseMask.length) after := by
    simp [EpisodeResult.refill, split, refill_append, refill]
  have ids : idCount (refill f 0 before) = idCount before := by
    rw [idCount, (SameShape.idCount_eq (sameShape_refill f 0 before)).1, idCount]
  have comes := EpisodeResult.kept_iff split' token (ids ▸ within)
  rw [ids] at comes
  have entry := aligned _ _ shape ran' _ _ _ comes
  rw [← entry, finishedOutput, outputMask_getElem? _
    (Nat.lt_of_lt_of_le within (kept_length_le config tokenizer _))]
  simp [EpisodeResult.refill]

theorem EpisodeResult.fits_of_aligned (aligned : ∀ result' out', result.SameShape result' →
      output config tokenizer request promptIds result' = .ok out' →
      TokenAligned config result' out')
    (ran : output config tokenizer request promptIds result = .ok out) : result.Fits config := by
  intro before step after split some reached
  have token : 0 < step.responseIds.length := List.length_pos_iff.mpr some
  have within : idCount before + 0 < (result.kept config).length := reached
  split
  · next maskless =>
    -- zeros in all masks would mask out the step's first token
    have zero := own_of_aligned aligned ran split token within fun _ => 0
    by_contra later
    rw [Nat.add_zero, List.getElem?_map, List.getElem?_range (by omega)] at zero
    simp [StepRecord.ownMask, maskless, flag] at zero
  · next masked =>
    have entry : 0 < step.responseMask.length := List.length_pos_iff.mpr masked
    refine ⟨?_, ?_⟩
    · -- a zero in the step's own first entry alone
      have first := own_of_aligned aligned ran split token within fun j =>
        if j = maskCount before then 0 else 1
      by_contra shifted
      have elsewhere : idCount before ≠ maskCount before := fun same => shifted same.symm
      have head : (List.range step.responseMask.length)[0]? = .some 0 := List.getElem?_range entry
      by_cases inside : idCount before < maskCount result.steps
      · rw [Nat.add_zero, List.getElem?_map, List.getElem?_range inside] at first
        simp [StepRecord.ownMask, masked, head, flag, elsewhere] at first
      · rw [Nat.add_zero, List.getElem?_eq_none (by simpa using inside)] at first
        simp [StepRecord.ownMask, masked, head, flag] at first
    · -- the first token past the end of the step's mask
      by_contra short
      have past := own_of_aligned (k := step.responseMask.length) aligned ran split (by omega)
        (by omega) fun _ => 1
      simp [StepRecord.ownMask, masked] at past

/-- Outputs never differ in length, and the masks of a result are read rightly whatever their values
if and only if they fit the ids. -/
theorem output_aligned_iff (ran : output config tokenizer request promptIds result = .ok out) :
    out.Even ∧ ((∀ result' out', result.SameShape result' →
      output config tokenizer request promptIds result' = .ok out' →
      TokenAligned config result' out') ↔ result.Fits config) := by
  refine ⟨output_even ran, fun aligned => EpisodeResult.fits_of_aligned aligned ran, ?_⟩
  intro fits result' out' shape ran'
  exact (fits.transport shape).aligned ran'

/-- Both ways to an output, from a batch and from a single episode. -/
theorem outputs_aligned_iff (config : Config) (tokenizer : Tokenizer) (request : EpisodeRequest)
    (result : EpisodeResult F) :
    (∀ out, outputFromResult config tokenizer request result = .ok out →
      out.Even ∧ ((∀ result' out', result.SameShape result' →
        outputFromResult config tokenizer request result' = .ok out' →
        TokenAligned config result' out') ↔ result.Fits config)) ∧
    ∀ promptIds out, run config tokenizer request promptIds (fun _ => result) = .ok out →
      out.Even ∧ ((∀ result' out', result.SameShape result' →
        run config tokenizer request promptIds (fun _ => result') = .ok out' →
        TokenAligned config result' out') ↔ result.Fits config) :=
  ⟨fun _ ran => output_aligned_iff ran, fun _ _ ran => output_aligned_iff ran⟩

end Results

/-! ### Two episodes -/

def answerStep (ids mask : List Int) : StepRecord :=
  { action := "", responseText := none, responseIds := ids, responseMask := mask }

/-- A finished episode with these steps. -/
def answered (steps : List StepRecord) : EpisodeResult Int :=
  { requestId := "r", status := "completed", errorMessage := "", steps
    totalSteps := steps.length, totalReward := 1, rolloutLogProbs := [] }

def question : EpisodeRequest := { requestId := "r", envType := "qa", promptIds := [10] }

def noTokenizer : Tokenizer := { encode := none, padTokenId := none }

/-- Two steps with a mask each. -/
def bothMasked : EpisodeResult Int := answered [answerStep [11, 12] [1, 0], answerStep [21] [0]]

theorem bothMasked_fits : bothMasked.Fits {} := by
  intro before step after split
  rcases before with _ | ⟨first, _ | ⟨second, rest⟩⟩
  · obtain ⟨rfl, rfl⟩ : answerStep [11, 12] [1, 0] = step ∧ [answerStep [21] [0]] = after := by
      simpa [bothMasked, answered] using split
    decide
  · obtain ⟨rfl, rfl, rfl⟩ : answerStep [11, 12] [1, 0] = first ∧ answerStep [21] [0] = step ∧
        [] = after := by
      simpa [bothMasked, answered] using split
    decide
  · simp [bothMasked, answered] at split

theorem outputs_aligned_bothMasked :
    ∃ out, outputFromResult {} noTokenizer question bothMasked = .ok out ∧
      out.responseMask = [1, 0, 0] ∧ out.Even ∧ TokenAligned {} bothMasked out := by
  have read := (outputs_aligned_iff {} noTokenizer question bothMasked).1 _ rfl
  have shape : bothMasked.SameShape bothMasked := by
    refine ⟨rfl, List.forall₂_same.mpr fun step _ => ⟨rfl, rfl, rfl, rfl⟩⟩
  exact ⟨_, rfl, rfl, read.1, read.2.mpr bothMasked_fits bothMasked _ shape rfl⟩

/-- A step without a mask before a step whose two tokens are masked out. -/
def maskedLater : EpisodeResult Int := answered [answerStep [11, 12] [], answerStep [21, 22] [0, 0]]

/-- The mask of the second step lands on the tokens of the first. -/
theorem mask_shifts : ∃ out, outputFromResult {} noTokenizer question maskedLater = .ok out ∧
    out.responseIds = [11, 12, 21, 22] ∧ out.responseMask = [0, 0, 1, 1] ∧
    ¬TokenAligned {} maskedLater out := by
  refine ⟨_, rfl, rfl, rfl, ?_⟩
  intro aligned
  have first := aligned 0 (answerStep [11, 12] []) 0 (by decide)
  revert first
  decide

end UEnv.Bridge
