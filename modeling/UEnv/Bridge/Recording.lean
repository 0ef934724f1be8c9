import UEnv.Bridge.Batch

/-!
# Batches with a record of their results

`_record_episode_results` of `verl_agent_loop.py` writes what the client has answered to a file,
before the chunk looks at its results. On the way it computes the ids, the mask and the
log-probabilities of each result, also of those that failed.
-/

namespace UEnv.Bridge

open Fallible

section Recording

variable {F : Type}

/-- What a batch with a record raises: an exception of the loop or one of the record file. -/
inductive BatchError
  | loop (e : LoopError)
  | file (message : String)
  deriving DecidableEq

/-- A line of the record, the fields that come from the result and from the loop. -/
structure EpisodeRecord (F : Type) where
  requestId : String
  status : String
  errorMessage : String
  rolloutLogProbsLen : Nat
  verlRolloutLogProbsLen : Nat
  reward : F
  usedPadFallback : Bool
  failedEpisodePolicy : String
  responseIds : List Int
  verlResponseIds : List Int
  verlResponseMask : List Int
  trajectory : List StepRecord

/-- The file at `result_record_path`: how the opening ends, call by call, and the writing of a
line. -/
structure RecordFile (F : Type) where
  openFile : Nat → Except String Unit
  write : Nat → EpisodeRecord F → Except String Unit

/-- The line of a result, with the log-probabilities that have been computed for it. -/
def episodeRecord (config : Config) (tokenizer : Tokenizer) (result : EpisodeResult F)
    (logprobs : Option (List F)) : EpisodeRecord F :=
  let responseIds := responseIdsFromResult tokenizer result.steps
  let verlResponseIds := outputIds config tokenizer result.steps
  { requestId := result.requestId
    status := result.status
    errorMessage := result.errorMessage
    rolloutLogProbsLen := result.rolloutLogProbs.length
    verlRolloutLogProbsLen := (logprobs.getD []).length
    reward := result.totalReward
    usedPadFallback := responseIds.isEmpty
    failedEpisodePolicy := config.failedEpisodePolicy
    responseIds
    verlResponseIds
    verlResponseMask :=
      if ¬result.Finished ∧ config.failedEpisodePolicy = "zero_reward" then
        List.replicate verlResponseIds.length 0
      else outputMask result.steps verlResponseIds.length
    trajectory := result.steps }

variable [Zero F] (config : Config) (tokenizer : Tokenizer) (file : RecordFile F) (call : Nat)

/-- One turn of the loop of `_record_episode_results`. -/
def recordResult (result : EpisodeResult F) : Except BatchError Unit := do
  let logprobs ← (responseLogprobsFromResult config tokenizer result
    (outputIds config tokenizer result.steps).length).mapError .loop
  (file.write call (episodeRecord config tokenizer result logprobs)).mapError .file

/-- `_record_episode_results`; there is no file when `result_record_path` is empty. -/
def recordEpisodeResults (record : Option (RecordFile F)) (results : List (EpisodeResult F)) :
    Except BatchError Unit :=
  match record with
  | none => .ok ()
  | some file => do
    (file.openFile call).mapError .file
    results.forM (recordResult config tokenizer file call)

/-- `_submit_episode_chunk`, with the record. -/
def recordedAnswer (record : Option (RecordFile F)) (requests : List EpisodeRequest)
    (answer : Except String (List (EpisodeResult F))) :
    Except BatchError (List (EpisodeResult F)) :=
  match answer with
  | .error message => .error (.loop (.client message))
  | .ok results => do
    let results ← (resultsInRequestOrder requests results).mapError .loop
    recordEpisodeResults config tokenizer call record results
    if results.length ≠ requests.length then
      throw (.loop (.resultCount results.length requests.length))
    return results

/-- `_submit_episode_chunk_with_retry`, with the record. -/
def submitRecorded (record : Option (RecordFile F)) (answers : Answers F) (log : Log)
    (requests : List EpisodeRequest) : Except BatchError (List (EpisodeResult F)) × Log :=
  match recordedAnswer config tokenizer log.length record requests (answers log.length) with
  | .error e => (.error e, log ++ [requests])
  | .ok results =>
    if _split : shouldSplitRetry requests results then
      let midpoint := max 1 (requests.length / 2)
      match submitRecorded record answers (log ++ [requests]) (requests.take midpoint) with
      | (.error e, log) => (.error e, log)
      | (.ok left, log) =>
        let (right, log) := submitRecorded record answers log (requests.drop midpoint)
        (right.map (left ++ ·), log)
    else (((raiseIfFailed config results).mapError .loop) >>= fun _ => .ok results,
      log ++ [requests])
termination_by requests.length
decreasing_by
  all_goals
    have several : 1 < requests.length := (shouldSplitRetry_iff.mp ‹_›).1
    simp only [List.length_take, List.length_drop]
    omega

/-- The loop over the chunks, with the record. -/
def runChunksRecorded (record : Option (RecordFile F)) (answers : Answers F) (log : Log)
    (outputs : List (AgentLoopOutput F)) :
    List (List EpisodeRequest) → Except BatchError (List (AgentLoopOutput F)) × Log
  | [] => (.ok outputs, log)
  | chunk :: chunks =>
    match submitRecorded config tokenizer record answers log chunk with
    | (.error e, log) => (.error e, log)
    | (.ok results, log) =>
      match (chunk.zip results).mapM fun pair =>
        outputFromResult config tokenizer pair.1 pair.2 with
      | .error e => (.error (.loop e), log)
      | .ok more => runChunksRecorded record answers log (outputs ++ more) chunks

/-- `run_batch`, with the record if there is one. -/
def runBatchRecorded (record : Option (RecordFile F)) (answers : Answers F)
    (requests : List EpisodeRequest) : Except BatchError (List (AgentLoopOutput F)) × Log :=
  runChunksRecorded config tokenizer record answers [] [] (requestChunks config requests)

end Recording

/-! ### What is said of a call -/

section Conditions

variable {F : Type} [Zero F] (config : Config) (tokenizer : Tokenizer)

/-- As many log-probabilities as ids, or none. -/
def EpisodeResult.Consistent (result : EpisodeResult F) : Prop :=
  result.rolloutLogProbs = [] ∨
    result.rolloutLogProbs.length = (responseIdsFromResult tokenizer result.steps).length

/-- The results of a call can be recorded. -/
def Recordable (record : Option (RecordFile F)) (call : Nat) (results : List (EpisodeResult F)) :
    Prop :=
  ∀ file ∈ record, file.openFile call = .ok () ∧ ∀ result ∈ results,
    result.Consistent tokenizer ∧ ∀ logprobs,
      responseLogprobsFromResult config tokenizer result
        (outputIds config tokenizer result.steps).length = .ok logprobs →
      file.write call (episodeRecord config tokenizer result logprobs) = .ok ()

/-- The trace that a finished result has to have is missing. -/
def MissingTrace (request : EpisodeRequest) (result : EpisodeResult F) : Prop :=
  config.requireSweResponseTrace = true ∧ request.envType = "swe" ∧
    ∀ step ∈ result.steps, step.responseIds = []

/-- A result that the batch raises for: a finished one without its trace or with log-probabilities
in another number, or a failed one if the policy says so. -/
def Rejected (request : EpisodeRequest) (result : EpisodeResult F) : Prop :=
  if result.Finished then MissingTrace config request result ∨ ¬result.Consistent tokenizer
  else config.failedEpisodePolicy ≠ "zero_reward"

/-- The answer to a call makes the batch raise, with a record or without. -/
def Failing (requests : List EpisodeRequest) (answer : Except String (List (EpisodeResult F))) :
    Prop :=
  match checkedAnswer requests answer with
  | .error _ => True
  | .ok results => shouldSplitRetry requests results = false ∧
      ∃ pair ∈ requests.zip results, Rejected config tokenizer pair.1 pair.2

/-- What an answer is made of can be recorded. -/
def Recorded (record : Option (RecordFile F)) (call : Nat) (requests : List EpisodeRequest)
    (answer : Except String (List (EpisodeResult F))) : Prop :=
  ∀ raw results, answer = .ok raw → resultsInRequestOrder requests raw = .ok results →
    Recordable config tokenizer record call results

end Conditions

/-! ### One call -/

section Call

variable {F : Type} [Zero F] {config : Config} {tokenizer : Tokenizer}

variable (config) in
theorem logprobs_ok_iff (result : EpisodeResult F) (length : Nat) :
    (∃ logprobs, responseLogprobsFromResult config tokenizer result length = .ok logprobs) ↔
      result.Consistent tokenizer := by
  unfold responseLogprobsFromResult EpisodeResult.Consistent
  cases result.rolloutLogProbs with
  | nil =>
    refine iff_of_true ?_ (.inl rfl)
    dsimp only
    split
    · exact ⟨_, rfl⟩
    · exact ⟨_, rfl⟩
  | cons first rest =>
    dsimp only
    split
    · next differ => exact iff_of_false (fun ⟨_, read⟩ => by cases read) (by simpa using differ)
    · next same => exact iff_of_true ⟨_, rfl⟩ (.inr (not_ne_iff.mp same))

theorem recordResult_ok_iff (file : RecordFile F) (call : Nat) (result : EpisodeResult F) :
    recordResult config tokenizer file call result = .ok () ↔
      result.Consistent tokenizer ∧ ∀ logprobs, responseLogprobsFromResult config tokenizer result
          (outputIds config tokenizer result.steps).length = .ok logprobs →
        file.write call (episodeRecord config tokenizer result logprobs) = .ok () := by
  rw [recordResult, bind_eq_ok, ← logprobs_ok_iff config result
    (outputIds config tokenizer result.steps).length]
  simp only [mapError_ok]
  refine ⟨fun ⟨logprobs, read, written⟩ => ⟨⟨logprobs, read⟩, fun other read' => ?_⟩,
    fun ⟨⟨logprobs, read⟩, written⟩ => ⟨logprobs, read, written logprobs read⟩⟩
  obtain rfl := Except.ok.inj (read.symm.trans read')
  exact written

theorem recordEpisodeResults_ok_iff (record : Option (RecordFile F)) (call : Nat)
    (results : List (EpisodeResult F)) :
    recordEpisodeResults config tokenizer call record results = .ok () ↔
      Recordable config tokenizer record call results := by
  cases record with
  | none => exact iff_of_true rfl fun file absent => by cases absent
  | some =>
    rw [recordEpisodeResults, bind_eq_ok]
    simp only [mapError_ok, forM_ok_iff, recordResult_ok_iff, Recordable, Option.mem_some_iff,
      forall_eq']
    exact ⟨fun ⟨_, opened, lines⟩ => ⟨opened, lines⟩, fun ⟨opened, lines⟩ => ⟨(), opened, lines⟩⟩

omit [Zero F] in
theorem missingTrace_iff (request : EpisodeRequest) (result : EpisodeResult F) :
    raiseIfMissingRequiredResponseTrace config request result = .ok () ↔
      ¬MissingTrace config request result := by
  unfold raiseIfMissingRequiredResponseTrace MissingTrace
  split
  · next exempt => exact iff_of_true rfl fun missing => by simp_all
  · next required =>
    split
    · next traced =>
      refine iff_of_true rfl fun missing => ?_
      obtain ⟨step, listed, some⟩ := List.any_eq_true.mp traced
      exact of_decide_eq_true some (missing.2.2 step listed)
    · next traceless =>
      refine iff_of_false (fun ok => by cases ok) (not_not_intro ?_)
      rw [not_or, Bool.not_eq_true, Bool.not_eq_false, ne_eq, not_not] at required
      refine ⟨required.1, required.2, fun step listed => ?_⟩
      by_contra some
      exact traceless (List.any_eq_true.mpr ⟨step, listed, decide_eq_true some⟩)

theorem output_ok_iff (request : EpisodeRequest) (result : EpisodeResult F) :
    (∃ out, outputFromResult config tokenizer request result = .ok out) ↔
      ¬Rejected config tokenizer request result := by
  unfold Rejected outputFromResult
  by_cases finished : result.Finished
  · rw [if_pos finished, not_or, ← missingTrace_iff, not_not,
      ← logprobs_ok_iff config result (outputIds config tokenizer result.steps).length]
    constructor
    · rintro ⟨out, ran⟩
      obtain ⟨traced, logprobs, read, _⟩ := (output_eq_ok finished).mp ran
      exact ⟨traced, logprobs, read⟩
    · rintro ⟨traced, logprobs, read⟩
      exact ⟨_, (output_eq_ok finished).mpr ⟨traced, logprobs, read, rfl⟩⟩
  · rw [if_neg finished, ne_eq, not_not, output, if_pos finished, raiseIfFailed]
    split
    · next zero => exact iff_of_true ⟨_, rfl⟩ zero
    · next other =>
      have found : ([result].find? fun result => ¬result.Finished) = some result := by
        simp [finished]
      rw [found]
      refine iff_of_false ?_ other
      rintro ⟨_, ran⟩
      cases ran

/-- With a record an answer is checked in the same way, if it can be recorded; otherwise the call
raises. -/
theorem recordedAnswer_of_recorded {record : Option (RecordFile F)} {call : Nat}
    {requests : List EpisodeRequest} {answer : Except String (List (EpisodeResult F))}
    (recorded : Recorded config tokenizer record call requests answer) :
    recordedAnswer config tokenizer call record requests answer =
      (checkedAnswer requests answer).mapError .loop := by
  cases answer with
  | error => rfl
  | ok raw =>
    rw [recordedAnswer, checkedAnswer]
    cases ordered : resultsInRequestOrder requests raw with
    | error e => rfl
    | ok results =>
      have written := (recordEpisodeResults_ok_iff record call results).mpr
        (recorded raw results rfl ordered)
      show (recordEpisodeResults config tokenizer call record results >>= fun _ => _) = _
      rw [written]
      show (if results.length ≠ requests.length then _ else _) =
        Except.mapError _ (if results.length ≠ requests.length then _ else _)
      split
      · rfl
      · rfl

theorem recordedAnswer_of_not {record : Option (RecordFile F)} {call : Nat}
    {requests : List EpisodeRequest} {answer : Except String (List (EpisodeResult F))}
    (broken : ¬Recorded config tokenizer record call requests answer) :
    ∃ e, recordedAnswer config tokenizer call record requests answer = .error e := by
  unfold Recorded at broken
  push Not at broken
  obtain ⟨raw, results, rfl, ordered, broken⟩ := broken
  rw [recordedAnswer, ordered]
  rw [← recordEpisodeResults_ok_iff] at broken
  cases written : recordEpisodeResults config tokenizer call record results with
  | ok _ => exact absurd written broken
  | error e =>
    refine ⟨e, ?_⟩
    show (recordEpisodeResults config tokenizer call record results >>= fun _ => _) = _
    rw [written]
    rfl

end Call

/-! ### The calls of a batch -/

section Calls

variable {F : Type} [Zero F] {config : Config} {tokenizer : Tokenizer} {answers : Answers F}
variable {P : Nat → List EpisodeRequest → Prop}

/-- What holds of every call since `start`. -/
def Calls (P : Nat → List EpisodeRequest → Prop) (start : Nat) (log : Log) : Prop :=
  ∀ i chunk, start ≤ i → log[i]? = some chunk → P i chunk

theorem calls_self (log : Log) : Calls P log.length log := by
  intro i chunk from_ called
  exact absurd (List.getElem?_eq_some_iff.mp called).1 (by omega)

theorem calls_single (log : Log) (requests : List EpisodeRequest) :
    Calls P log.length (log ++ [requests]) ↔ P log.length requests := by
  refine ⟨fun all => all log.length requests le_rfl (by simp), fun holds i chunk from_ called => ?_⟩
  have bound := (List.getElem?_eq_some_iff.mp called).1
  rw [List.length_append, List.length_singleton] at bound
  obtain rfl : i = log.length := by omega
  obtain rfl : requests = chunk := by simpa using called
  exact holds

theorem calls_grow {log log' : Log} {start : Nat} (grows : log <+: log')
    (from_ : start ≤ log.length) :
    Calls P start log' ↔ Calls P start log ∧ Calls P log.length log' := by
  refine ⟨fun all => ⟨fun i chunk later called => ?_, fun i chunk later called => ?_⟩,
    fun ⟨first, second⟩ i chunk later called => ?_⟩
  · exact all i chunk later (getElem?_grows grows called)
  · exact all i chunk (from_.trans later) called
  · by_cases early : i < log.length
    · obtain ⟨more, rfl⟩ := grows
      rw [List.getElem?_append_left early] at called
      exact first i chunk later called
    · exact second i chunk (by omega) called

omit [Zero F] in
theorem submit_grows (config : Config) (answers : Answers F) (requests : List EpisodeRequest)
    (log : Log) :
    log ++ [requests] <+: (submitEpisodeChunkWithRetry config answers log requests).2 := by
  induction size : requests.length using Nat.strong_induction_on generalizing requests log with
  | _ n ih =>
  subst size
  rcases submit_cases config answers log requests with ⟨e, _, ran⟩ | ⟨results, _, _, ran⟩ |
    ⟨results, left, middle, _, split, first, rest⟩
  · rw [ran]
  · rw [ran]
  · have several := (shouldSplitRetry_iff.mp split).1
    have left' := ih _ (by rw [List.length_take]; omega)
      (requests.take (max 1 (requests.length / 2))) (log ++ [requests]) rfl
    have right' := ih (requests.drop (max 1 (requests.length / 2))).length
      (by rw [List.length_drop]; omega) _ middle rfl
    rw [first] at left'
    have grown := (List.prefix_append _ _).trans left'
    rcases rest with ⟨e, _, ran⟩ | ⟨results', second, _, rfl, ran⟩
    · rw [ran]
      exact grown
    · rw [ran]
      exact grown.trans ((List.prefix_append _ _).trans right')

/-- With a record a chunk is submitted in the same way if all its calls can be recorded. -/
theorem submitRecorded_of_calls {record : Option (RecordFile F)} {requests : List EpisodeRequest}
    {log : Log} (recorded : Calls (fun i chunk =>
        Recorded config tokenizer record i chunk (answers i)) log.length
      (submitEpisodeChunkWithRetry config answers log requests).2) :
    submitRecorded config tokenizer record answers log requests =
      ((submitEpisodeChunkWithRetry config answers log requests).1.mapError .loop,
        (submitEpisodeChunkWithRetry config answers log requests).2) := by
  induction size : requests.length using Nat.strong_induction_on generalizing requests log with
  | _ n ih =>
  subst size
  have own := (calls_single log requests).mp
    ((calls_grow (submit_grows config answers requests log) (by simp)).mp recorded).1
  have later := ((calls_grow (submit_grows config answers requests log) (by simp)).mp recorded).2
  rw [submitRecorded, recordedAnswer_of_recorded own]
  rcases submit_cases config answers log requests with ⟨e, failed, ran⟩ |
    ⟨results, checked, whole, ran⟩ | ⟨results, left, middle, checked, split, first, rest⟩
  · rw [ran, failed]
    rfl
  · rw [ran, checked]
    show dite _ _ _ = _
    rw [dif_neg whole]
    cases raiseIfFailed config results with
    | error e => rfl
    | ok _ => rfl
  · have several := (shouldSplitRetry_iff.mp split).1
    have grown := submit_grows config answers (requests.take (max 1 (requests.length / 2)))
      (log ++ [requests])
    rw [checked]
    show dite _ _ _ = _
    rw [dif_pos split]
    rw [first] at grown
    rcases rest with ⟨e, rfl, ran⟩ | ⟨results', second, rfl, rfl, ran⟩
    · rw [ran] at later
      have left' := ih _ (by rw [List.length_take]; omega) (first ▸ later) rfl
      rw [first] at left'
      simp only [left', ran]
      rfl
    · rw [ran] at later
      have reached : (log ++ [requests]).length ≤ middle.length :=
        ((List.prefix_append _ _).trans grown).length_le
      have ends := (List.prefix_append _ _).trans (submit_grows config answers
        (requests.drop (max 1 (requests.length / 2))) middle)
      obtain ⟨earlier, later⟩ := (calls_grow ends reached).mp later
      rw [show middle = (submitEpisodeChunkWithRetry config answers (log ++ [requests])
        (requests.take (max 1 (requests.length / 2)))).2 by rw [first]] at earlier
      have left' := ih _ (by rw [List.length_take]; omega) earlier rfl
      have right' := ih (requests.drop (max 1 (requests.length / 2))).length
        (by rw [List.length_drop]; omega) later rfl
      rw [first] at left'
      simp only [left', ran, Except.mapError, right']
      cases (submitEpisodeChunkWithRetry config answers middle
        (requests.drop (max 1 (requests.length / 2)))).1 with
      | error e => rfl
      | ok second => rfl

/-- If one of the calls cannot be recorded, then the submission raises with a record. -/
theorem submitRecorded_of_not {record : Option (RecordFile F)} {requests : List EpisodeRequest}
    {log : Log} (broken : ¬Calls (fun i chunk =>
        Recorded config tokenizer record i chunk (answers i)) log.length
      (submitEpisodeChunkWithRetry config answers log requests).2) :
    ∃ e, (submitRecorded config tokenizer record answers log requests).1 = .error e := by
  induction size : requests.length using Nat.strong_induction_on generalizing requests log with
  | _ n ih =>
  subst size
  have parts := @calls_grow (fun i chunk => Recorded config tokenizer record i chunk (answers i))
    _ _ log.length (submit_grows config answers requests log) (by simp)
  by_cases own : Recorded config tokenizer record log.length requests (answers log.length)
  swap
  · obtain ⟨e, failed⟩ := recordedAnswer_of_not own
    refine ⟨e, ?_⟩
    rw [submitRecorded, failed]
  rw [parts, not_and] at broken
  have later := broken ((calls_single log requests).mpr own)
  rw [submitRecorded, recordedAnswer_of_recorded own]
  rcases submit_cases config answers log requests with ⟨e, failed, ran⟩ |
    ⟨results, checked, whole, ran⟩ | ⟨results, left, middle, checked, split, first, rest⟩
  · rw [ran] at later
    exact absurd (calls_self _) later
  · rw [ran] at later
    exact absurd (calls_self _) later
  · have several := (shouldSplitRetry_iff.mp split).1
    have grown := submit_grows config answers (requests.take (max 1 (requests.length / 2)))
      (log ++ [requests])
    rw [checked]
    show ∃ e, (dite _ _ _ : Except _ _ × Log).1 = _
    rw [dif_pos split]
    dsimp only
    rw [first] at grown
    rcases rest with ⟨e, rfl, ran⟩ | ⟨results', second, rfl, rfl, ran⟩
    · rw [ran] at later
      obtain ⟨e', failed⟩ := ih _ (by rw [List.length_take]; omega) (first ▸ later) rfl
      generalize submitRecorded config tokenizer record answers (log ++ [requests])
        (requests.take (max 1 (requests.length / 2))) = outcome at failed ⊢
      obtain ⟨outcome, log'⟩ := outcome
      obtain rfl := failed
      exact ⟨e', rfl⟩
    · rw [ran] at later
      have reached : (log ++ [requests]).length ≤ middle.length :=
        ((List.prefix_append _ _).trans grown).length_le
      have ends := (List.prefix_append _ _).trans (submit_grows config answers
        (requests.drop (max 1 (requests.length / 2))) middle)
      rw [calls_grow ends reached] at later
      by_cases earlier : Calls (fun i chunk => Recorded config tokenizer record i chunk
          (answers i)) (log ++ [requests]).length (submitEpisodeChunkWithRetry config answers
            (log ++ [requests]) (requests.take (max 1 (requests.length / 2)))).2
      · have left' := submitRecorded_of_calls earlier
        rw [first] at earlier
        obtain ⟨e', failed⟩ := ih (requests.drop (max 1 (requests.length / 2))).length
          (by rw [List.length_drop]; omega) (fun all => later ⟨earlier, all⟩) rfl
        rw [first] at left'
        refine ⟨e', ?_⟩
        simp only [left', Except.mapError, failed]
        rfl
      · obtain ⟨e', failed⟩ := ih _ (by rw [List.length_take]; omega) earlier rfl
        generalize submitRecorded config tokenizer record answers (log ++ [requests])
          (requests.take (max 1 (requests.length / 2))) = outcome at failed ⊢
        obtain ⟨outcome, log'⟩ := outcome
        obtain rfl := failed
        exact ⟨e', rfl⟩

omit [Zero F] in
theorem checkedAnswer_length {requests : List EpisodeRequest}
    {answer : Except String (List (EpisodeResult F))} {results : List (EpisodeResult F)}
    (passed : checkedAnswer requests answer = .ok results) : results.length = requests.length := by
  cases answer with
  | error => cases passed
  | ok raw =>
    obtain ⟨ordered, _, passed⟩ := bind_eq_ok.mp passed
    split at passed
    · cases passed
    next complete =>
    cases passed
    exact not_ne_iff.mp complete

omit [Zero F] in
theorem submit_length {requests : List EpisodeRequest} {log : Log}
    {results : List (EpisodeResult F)}
    (ran : (submitEpisodeChunkWithRetry config answers log requests).1 = .ok results) :
    results.length = requests.length := by
  induction size : requests.length using Nat.strong_induction_on
    generalizing requests log results with
  | _ n ih =>
  subst size
  rcases submit_cases config answers log requests with ⟨e, _, whole⟩ |
    ⟨results', checked, _, whole⟩ | ⟨results', left, middle, checked, split, first, rest⟩
  · rw [whole] at ran
    cases ran
  · rw [whole] at ran
    obtain ⟨_, _, same⟩ := bind_eq_ok.mp ran
    cases same
    exact checkedAnswer_length checked
  · have several := (shouldSplitRetry_iff.mp split).1
    rcases rest with ⟨e, _, whole⟩ | ⟨earlier, second, rfl, rfl, whole⟩
    · rw [whole] at ran
      cases ran
    · rw [whole] at ran
      cases half : (submitEpisodeChunkWithRetry config answers middle
        (requests.drop (max 1 (requests.length / 2)))).1 with
      | error e =>
        rw [half] at ran
        cases ran
      | ok later =>
        rw [half] at ran
        cases ran
        have left' := ih (requests.take (max 1 (requests.length / 2))).length
          (by rw [List.length_take]; omega) (congrArg Prod.fst first) rfl
        have right' := ih (requests.drop (max 1 (requests.length / 2))).length
          (by rw [List.length_drop]; omega) half rfl
        rw [List.length_append, left', right', List.length_take, List.length_drop]
        omega

omit [Zero F] in
theorem raiseIfFailed_of_accepted {requests : List EpisodeRequest}
    {results : List (EpisodeResult F)} (length : results.length = requests.length)
    (accepted : ∀ pair ∈ requests.zip results, ¬Rejected config tokenizer pair.1 pair.2) :
    raiseIfFailed config results = .ok () := by
  unfold raiseIfFailed
  split
  · rfl
  · next other =>
    have finished : results.find? (fun result => ¬result.Finished) = none := by
      rw [List.find?_eq_none]
      intro result listed
      rw [← List.map_snd_zip length.le] at listed
      obtain ⟨pair, member, rfl⟩ := List.mem_map.mp listed
      have pair := accepted pair member
      by_contra failed
      rw [decide_eq_true_eq] at failed
      rw [Rejected, if_neg failed] at pair
      exact pair other
    rw [finished]

omit [Zero F] in
/-- A chunk is answered, with no result that is rejected, exactly if no call for it fails. -/
theorem submit_ok_iff {requests : List EpisodeRequest} {log : Log} :
    (∃ results, (submitEpisodeChunkWithRetry config answers log requests).1 = .ok results ∧
      ∀ pair ∈ requests.zip results, ¬Rejected config tokenizer pair.1 pair.2) ↔
    Calls (fun i chunk => ¬Failing config tokenizer chunk (answers i)) log.length
      (submitEpisodeChunkWithRetry config answers log requests).2 := by
  induction size : requests.length using Nat.strong_induction_on generalizing requests log with
  | _ n ih =>
  subst size
  rcases submit_cases config answers log requests with ⟨e, failed, ran⟩ |
    ⟨results, checked, whole, ran⟩ | ⟨results, left, middle, checked, split, first, rest⟩
  · rw [ran, calls_single, Failing, failed]
    exact iff_of_false (fun ⟨_, ok, _⟩ => by cases ok) (not_not_intro trivial)
  · rw [ran, calls_single, Failing, checked]
    rw [Bool.not_eq_true] at whole
    simp only [whole, true_and, not_exists, not_and]
    constructor
    · rintro ⟨_, ok, accepted⟩
      obtain ⟨_, _, same⟩ := bind_eq_ok.mp ok
      cases same
      exact accepted
    · intro accepted
      refine ⟨results, ?_, accepted⟩
      rw [raiseIfFailed_of_accepted (checkedAnswer_length checked) accepted]
      rfl
  · have several := (shouldSplitRetry_iff.mp split).1
    have grown := submit_grows config answers (requests.take (max 1 (requests.length / 2)))
      (log ++ [requests])
    have left' := @ih _ (by rw [List.length_take]; omega)
      (requests.take (max 1 (requests.length / 2))) (log ++ [requests]) rfl
    have right' := @ih _ (by rw [List.length_drop]; omega)
      (requests.drop (max 1 (requests.length / 2))) middle rfl
    -- the answer that is split does not count
    have own : ¬Failing config tokenizer requests (answers log.length) := by
      rw [Failing, checked]
      exact fun failing => Bool.false_ne_true (failing.1.symm.trans split)
    rw [first] at left' grown
    rw [calls_grow (submit_grows config answers requests log) (by simp), calls_single,
      and_iff_right own]
    rcases rest with ⟨e, rfl, ran⟩ | ⟨earlier, second, rfl, rfl, ran⟩
    · rw [ran, ← left']
      exact iff_of_false (fun ⟨_, ok, _⟩ => by cases ok) (fun ⟨_, ok, _⟩ => by cases ok)
    · have reached : (log ++ [requests]).length ≤ middle.length :=
        ((List.prefix_append _ _).trans grown).length_le
      have ends := (List.prefix_append _ _).trans (submit_grows config answers
        (requests.drop (max 1 (requests.length / 2))) middle)
      have joined := List.take_append_drop (max 1 (requests.length / 2)) requests
      have length := submit_length (congrArg Prod.fst first)
      rw [ran, calls_grow ends reached, ← left', ← right']
      have zipped : ∀ later : List (EpisodeResult F), requests.zip (earlier ++ later) =
          (requests.take (max 1 (requests.length / 2))).zip earlier ++
            (requests.drop (max 1 (requests.length / 2))).zip later := by
        intro later
        rw [← List.zip_append length.symm, joined]
      constructor
      · rintro ⟨results, ok, accepted⟩
        cases half : (submitEpisodeChunkWithRetry config answers middle
          (requests.drop (max 1 (requests.length / 2)))).1 with
        | error e =>
          rw [half] at ok
          cases ok
        | ok later =>
          rw [half] at ok
          cases ok
          rw [zipped, List.forall_mem_append] at accepted
          exact ⟨⟨earlier, rfl, accepted.1⟩, later, rfl, accepted.2⟩
      · rintro ⟨⟨_, same, first⟩, later, half, second⟩
        cases same
        refine ⟨earlier ++ later, by rw [half]; rfl, ?_⟩
        rw [zipped, List.forall_mem_append]
        exact ⟨first, second⟩

theorem runChunks_grows (chunks : List (List EpisodeRequest)) (log : Log)
    (outputs : List (AgentLoopOutput F)) :
    log <+: (runChunks config tokenizer answers log outputs chunks).2 := by
  induction chunks generalizing log outputs with
  | nil => exact List.prefix_rfl
  | cons chunk chunks ih =>
    have grown := (List.prefix_append log [chunk]).trans (submit_grows config answers chunk log)
    rw [runChunks]
    generalize submitEpisodeChunkWithRetry config answers log chunk = outcome at grown
    obtain ⟨_ | results, middle⟩ := outcome
    · exact grown
    dsimp only
    cases (chunk.zip results).mapM fun pair =>
      outputFromResult config tokenizer pair.1 pair.2 with
    | error e => exact grown
    | ok more => exact grown.trans (ih middle (outputs ++ more))

theorem runChunks_ok_iff (chunks : List (List EpisodeRequest)) (log : Log)
    (outputs : List (AgentLoopOutput F)) :
    (∃ all, (runChunks config tokenizer answers log outputs chunks).1 = .ok all) ↔
      Calls (fun i chunk => ¬Failing config tokenizer chunk (answers i)) log.length
        (runChunks config tokenizer answers log outputs chunks).2 := by
  induction chunks generalizing log outputs with
  | nil => exact iff_of_true ⟨_, rfl⟩ (calls_self log)
  | cons chunk chunks ih =>
    have here := @submit_ok_iff _ config tokenizer answers chunk log
    have reached := (List.prefix_append log [chunk]).trans (submit_grows config answers chunk log)
    rw [runChunks]
    generalize submitEpisodeChunkWithRetry config answers log chunk = outcome at here reached
    obtain ⟨e | results, middle⟩ := outcome
    · rw [← here]
      refine iff_of_false ?_ ?_
      · rintro ⟨_, ok⟩
        cases ok
      · rintro ⟨_, ok, _⟩
        cases ok
    dsimp only at here reached ⊢
    have made := @mapM_ok_iff _ _ _ (fun pair : EpisodeRequest × EpisodeResult F =>
        outputFromResult config tokenizer pair.1 pair.2) (chunk.zip results)
    simp only [output_ok_iff] at made
    cases outs : (chunk.zip results).mapM fun pair =>
      outputFromResult config tokenizer pair.1 pair.2 with
    | error e =>
      rw [outs] at made
      rw [← here]
      refine iff_of_false ?_ ?_
      · rintro ⟨_, ok⟩
        cases ok
      · rintro ⟨_, ok, accepted⟩
        cases ok
        obtain ⟨_, ok⟩ := made.mpr accepted
        cases ok
    | ok more =>
      have accepted := made.mp ⟨more, outs⟩
      rw [ih middle (outputs ++ more),
        calls_grow (runChunks_grows chunks middle (outputs ++ more)) reached.length_le,
        and_iff_right (here.mp ⟨results, rfl, accepted⟩)]

theorem runChunksRecorded_of_calls {record : Option (RecordFile F)}
    {chunks : List (List EpisodeRequest)} {log : Log} {outputs : List (AgentLoopOutput F)}
    (recorded : Calls (fun i chunk => Recorded config tokenizer record i chunk (answers i))
      log.length (runChunks config tokenizer answers log outputs chunks).2) :
    runChunksRecorded config tokenizer record answers log outputs chunks =
      ((runChunks config tokenizer answers log outputs chunks).1.mapError .loop,
        (runChunks config tokenizer answers log outputs chunks).2) := by
  induction chunks generalizing log outputs with
  | nil => rfl
  | cons chunk chunks ih =>
    have here := @submitRecorded_of_calls _ _ config tokenizer answers record chunk log
    have reached := (List.prefix_append log [chunk]).trans (submit_grows config answers chunk log)
    rw [runChunksRecorded, runChunks]
    rw [runChunks] at recorded
    generalize submitEpisodeChunkWithRetry config answers log chunk = outcome at *
    obtain ⟨e | results, middle⟩ := outcome
    · rw [here recorded]
      rfl
    dsimp only at here reached recorded ⊢
    cases outs : (chunk.zip results).mapM fun pair =>
      outputFromResult config tokenizer pair.1 pair.2 with
    | error e =>
      rw [outs] at recorded
      rw [here recorded]
      simp only [Except.mapError, outs]
    | ok more =>
      rw [outs] at recorded
      have parts := (calls_grow (runChunks_grows chunks middle (outputs ++ more))
        reached.length_le).mp recorded
      rw [here parts.1]
      simp only [Except.mapError, outs]
      exact ih parts.2

theorem runChunksRecorded_of_not {record : Option (RecordFile F)}
    {chunks : List (List EpisodeRequest)} {log : Log} {outputs : List (AgentLoopOutput F)}
    (broken : ¬Calls (fun i chunk => Recorded config tokenizer record i chunk (answers i))
      log.length (runChunks config tokenizer answers log outputs chunks).2) :
    ∃ e, (runChunksRecorded config tokenizer record answers log outputs chunks).1 = .error e := by
  induction chunks generalizing log outputs with
  | nil => exact absurd (calls_self log) broken
  | cons chunk chunks ih =>
    have here := @submitRecorded_of_calls _ _ config tokenizer answers record chunk log
    have stuck := @submitRecorded_of_not _ _ config tokenizer answers record chunk log
    have reached := (List.prefix_append log [chunk]).trans (submit_grows config answers chunk log)
    rw [runChunksRecorded]
    rw [runChunks] at broken
    generalize submitEpisodeChunkWithRetry config answers log chunk = outcome at *
    by_cases recorded : Calls (fun i chunk => Recorded config tokenizer record i chunk (answers i))
      log.length outcome.2
    · rw [here recorded]
      obtain ⟨e | results, middle⟩ := outcome
      · exact absurd recorded broken
      dsimp only [Except.mapError] at reached recorded broken ⊢
      cases outs : (chunk.zip results).mapM fun pair =>
        outputFromResult config tokenizer pair.1 pair.2 with
      | error e => exact ⟨_, rfl⟩
      | ok more =>
        rw [outs] at broken
        refine ih fun later => broken ?_
        exact (calls_grow (runChunks_grows chunks middle (outputs ++ more))
          reached.length_le).mpr ⟨recorded, later⟩
    · obtain ⟨e, failed⟩ := stuck recorded
      generalize submitRecorded config tokenizer record answers log chunk = outcome at failed
      obtain ⟨outcome, log'⟩ := outcome
      obtain rfl := failed
      exact ⟨e, rfl⟩

theorem runChunks_produced {chunks : List (List EpisodeRequest)} {log : Log}
    {outputs all : List (AgentLoopOutput F)}
    (ran : (runChunks config tokenizer answers log outputs chunks).1 = .ok all) :
    ∃ results more, results.length = chunks.flatten.length ∧ all = outputs ++ more ∧
      Produced config tokenizer chunks.flatten results more := by
  induction chunks generalizing log outputs with
  | nil =>
    cases ran
    exact ⟨[], [], rfl, (List.append_nil _).symm, .nil⟩
  | cons chunk chunks ih =>
    have length := @submit_length _ config answers chunk log
    rw [runChunks] at ran
    generalize submitEpisodeChunkWithRetry config answers log chunk = outcome at ran length
    obtain ⟨_ | results, middle⟩ := outcome
    · cases ran
    dsimp only at ran
    cases made : (chunk.zip results).mapM fun pair =>
      outputFromResult config tokenizer pair.1 pair.2 with
    | error e =>
      rw [made] at ran
      cases ran
    | ok more =>
      rw [made] at ran
      obtain ⟨others, more', rest, rfl, produced⟩ := ih ran
      have here := length rfl
      refine ⟨results ++ others, more ++ more', ?_, List.append_assoc .., ?_⟩
      · rw [List.length_append, List.flatten_cons, List.length_append, here, rest]
      · rw [Produced, List.flatten_cons, List.zip_append here.symm]
        exact List.rel_append (forall₂_of_mapM made) produced

/-- No failed result is the reason for an exception, and none earns a reward or a token that is not
masked out. -/
def FailuresHarmless (config : Config) (tokenizer : Tokenizer) (answers : Answers F)
    (requests : List EpisodeRequest) :
    Except BatchError (List (AgentLoopOutput F)) → Prop
  | .error _ => ∃ i chunk, (runBatch config tokenizer answers requests).2[i]? = some chunk ∧
      Failing config tokenizer chunk (answers i)
  | .ok outputs => ∃ results, results.length = requests.length ∧
      Produced config tokenizer requests results outputs ∧
      ∀ pair ∈ results.zip outputs, ¬pair.1.Finished →
        pair.2.rewardScore = 0 ∧ ∀ entry ∈ pair.2.responseMask, entry = 0

theorem Produced.failed {requests : List EpisodeRequest} {results : List (EpisodeResult F)}
    {outputs : List (AgentLoopOutput F)} (length : results.length = requests.length)
    (produced : Produced config tokenizer requests results outputs)
    {pair : EpisodeResult F × AgentLoopOutput F} (member : pair ∈ results.zip outputs)
    (failed : ¬pair.1.Finished) :
    pair.2.rewardScore = 0 ∧ ∀ entry ∈ pair.2.responseMask, entry = 0 := by
  induction requests generalizing results outputs with
  | nil =>
    obtain rfl := List.length_eq_zero_iff.mp length
    cases member
  | cons request requests ih =>
    cases results with
    | nil => cases length
    | cons =>
      cases produced with
      | cons made rest =>
        rw [List.zip_cons_cons, List.mem_cons] at member
        obtain rfl | later := member
        · dsimp only
          rw [output_failed failed made]
          exact ⟨rfl, fun entry listed => List.mem_singleton.mp listed⟩
        · exact ih (Nat.succ.inj length) rest later

theorem runBatch_harmless {requests : List EpisodeRequest} {record : Option (RecordFile F)}
    (same : (runBatchRecorded config tokenizer record answers requests).1.toOption =
      (runBatch config tokenizer answers requests).1.toOption) :
    FailuresHarmless config tokenizer answers requests
      (runBatchRecorded config tokenizer record answers requests).1 := by
  have whole := requestChunks_flatten config requests
  have returns := @runChunks_ok_iff _ _ config tokenizer answers
    (requestChunks config requests) [] []
  cases recorded : (runBatchRecorded config tokenizer record answers requests).1 with
  | error e =>
    rw [recorded] at same
    by_contra harmful
    simp only [FailuresHarmless, not_exists, not_and] at harmful
    obtain ⟨all, ok⟩ := returns.mpr fun i chunk _ called => harmful i chunk called
    rw [runBatch, ok] at same
    cases same
  | ok =>
    rw [recorded] at same
    obtain ran := toOption_eq_some.mp same.symm
    obtain ⟨results, more, length, rfl, produced⟩ := runChunks_produced ran
    rw [whole] at length produced
    exact ⟨results, length, produced, fun pair member failed =>
      produced.failed length member failed⟩

/-- With a record a batch has the outputs that it has without one, and a failed result is harmless
if it is to count as a zero, exactly if all results of its calls can be recorded or one of the
calls fails anyway. -/
theorem recording_transparent_iff (config : Config) (tokenizer : Tokenizer) (file : RecordFile F)
    (answers : Answers F) (requests : List EpisodeRequest) :
    ((runBatchRecorded config tokenizer (some file) answers requests).1.toOption =
        (runBatchRecorded config tokenizer none answers requests).1.toOption ∧
      (config.failedEpisodePolicy = "zero_reward" → ∀ record ∈ [none, some file],
        FailuresHarmless config tokenizer answers requests
          (runBatchRecorded config tokenizer record answers requests).1)) ↔
    Calls (fun i chunk => Recorded config tokenizer (some file) i chunk (answers i)) 0
        (runBatch config tokenizer answers requests).2 ∨
      ∃ i chunk, (runBatch config tokenizer answers requests).2[i]? = some chunk ∧
        Failing config tokenizer chunk (answers i) := by
  have returns := @runChunks_ok_iff _ _ config tokenizer answers
    (requestChunks config requests) [] []
  have plain : (runBatchRecorded config tokenizer none answers requests).1.toOption =
      (runBatch config tokenizer answers requests).1.toOption := by
    rw [runBatchRecorded, runChunksRecorded_of_calls fun i chunk _ _ raw results _ _ file absent =>
      by cases absent]
    rw [runBatch]
    cases (runChunks config tokenizer answers [] [] (requestChunks config requests)).1 with
    | error e => rfl
    | ok => rfl
  refine Iff.trans (b := (runBatchRecorded config tokenizer (some file) answers
    requests).1.toOption = (runBatch config tokenizer answers requests).1.toOption) ?_ ?_
  · rw [plain]
    refine and_iff_left_of_imp fun same _ record member => runBatch_harmless ?_
    obtain rfl | rfl : record = none ∨ record = some file := by simpa using member
    · exact plain
    · exact same
  by_cases recorded : Calls (fun i chunk =>
      Recorded config tokenizer (some file) i chunk (answers i)) 0
      (runBatch config tokenizer answers requests).2
  · refine iff_of_true ?_ (.inl recorded)
    rw [runBatchRecorded, runChunksRecorded_of_calls recorded, runBatch]
    cases (runChunks config tokenizer answers [] [] (requestChunks config requests)).1 with
    | error e => rfl
    | ok => rfl
  · rw [or_iff_right recorded]
    have broken : ¬Calls (fun i chunk => Recorded config tokenizer (some file) i chunk (answers i))
        ([] : Log).length
        (runChunks config tokenizer answers [] [] (requestChunks config requests)).2 := recorded
    obtain ⟨e, failed⟩ := runChunksRecorded_of_not broken
    rw [runBatchRecorded, failed, runBatch]
    constructor
    · intro same
      by_contra none
      simp only [not_exists, not_and] at none
      obtain ⟨all, ok⟩ := returns.mpr fun i chunk _ called => none i chunk called
      rw [ok] at same
      cases same
    · rintro ⟨i, chunk, called, failing⟩
      cases ran : (runChunks config tokenizer answers [] []
        (requestChunks config requests)).1 with
      | error e => rfl
      | ok all => exact absurd failing (returns.mp ⟨all, ran⟩ i chunk (Nat.zero_le _) called)

end Calls

/-! ### A failed episode with a torn trace -/

/-- A failed result with one id and two log-probabilities. -/
def tornTrace : EpisodeResult Int :=
  { answered [answerStep [11] [1]] with
    requestId := "a", status := "failed", rolloutLogProbs := [-1, -2] }

def zeroReward : Config := { failedEpisodePolicy := "zero_reward" }

/-- A record file that can be written. -/
def writable : RecordFile Int := { openFile := fun _ => .ok (), write := fun _ _ => .ok () }

/-- The failed result counts as a zero without a record, and stops the batch with one. -/
theorem tornTrace_stops_recorded : ¬∀ (config : Config) (tokenizer : Tokenizer)
    (file : RecordFile Int) (answers : Answers Int) (requests : List EpisodeRequest),
    (runBatchRecorded config tokenizer (some file) answers requests).1.toOption =
      (runBatchRecorded config tokenizer none answers requests).1.toOption := by
  intro transparent
  have recorded : submitRecorded zeroReward noTokenizer (some writable) (fun _ => .ok [tornTrace])
      [] [sample "a"] = (.error (.loop (.inconsistentTrace 1 2 "a")), [[sample "a"]]) := by
    rw [submitRecorded,
      show recordedAnswer zeroReward noTokenizer _ (some writable) [sample "a"] _ =
        .error (.loop (.inconsistentTrace 1 2 "a")) from rfl]
    rfl
  have plain : submitRecorded zeroReward noTokenizer none (fun _ => .ok [tornTrace])
      [] [sample "a"] = (.ok [tornTrace], [[sample "a"]]) := by
    rw [submitRecorded, show recordedAnswer zeroReward noTokenizer _ none [sample "a"] _ =
      .ok [tornTrace] from rfl]
    rfl
  have same := transparent zeroReward noTokenizer writable (fun _ => .ok [tornTrace]) [sample "a"]
  rw [runBatchRecorded, runBatchRecorded, requestChunks, if_pos (by decide), runChunksRecorded,
    runChunksRecorded, recorded, plain] at same
  cases same

end UEnv.Bridge
