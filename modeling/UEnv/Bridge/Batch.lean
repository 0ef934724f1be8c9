import Mathlib.Data.List.Perm.Subperm
import Mathlib.Data.List.Infix
import Mathlib.Data.List.Nodup
import UEnv.Bridge.Outputs

/-!
# Batches of episodes

`run_batch` of `verl_agent_loop.py`: a batch goes to the client in chunks, and a chunk whose answer
has a capacity failure is submitted again in two halves. The client is the sequence of its answers,
one for each call of the batch; the log holds the chunks in the order of their calls.
-/

namespace UEnv.Bridge

open Fallible

section Batches

variable {F : Type}

/-- The answers of `client.submit_episode_stream`, call by call: the results in the order in which
they arrive, or an exception. -/
abbrev Answers (F : Type) := Nat → Except String (List (EpisodeResult F))

/-- The chunks submitted so far; the next call is answered by the answer at the log's length. -/
abbrev Log := List (List EpisodeRequest)

/-- `str.lower()` as far as it yields ASCII: the Kelvin sign is the one other character that becomes
an ASCII letter, and a dotted capital I becomes one with a mark after it. -/
def lowered (char : Char) : List Char :=
  if char.toNat = 0x212A then ['k'] else if char = 'İ' then ['i', '̇'] else [char.toLower]

/-- `token in text.lower()` for one of the tokens. -/
def namesCapacity (text : String) : Bool :=
  ["capacity", "no worker", "busy"].any fun token =>
    token.toList <:+: text.toList.flatMap lowered

/-- A failure that is put down to the load of the workers. -/
def EpisodeResult.CapacityFailure (result : EpisodeResult F) : Prop :=
  ¬result.Finished ∧ namesCapacity (result.status ++ " " ++ result.errorMessage)

instance (result : EpisodeResult F) : Decidable result.CapacityFailure :=
  inferInstanceAs (Decidable (_ ∧ _))

/-- `_should_split_retry` (verl_agent_loop.py, 652-659). -/
def shouldSplitRetry (requests : List EpisodeRequest) (results : List (EpisodeResult F)) : Bool :=
  1 < requests.length ∧ results.length = requests.length ∧
    results.any fun result => decide result.CapacityFailure

theorem shouldSplitRetry_iff {requests : List EpisodeRequest} {results : List (EpisodeResult F)} :
    shouldSplitRetry requests results ↔ 1 < requests.length ∧ results.length = requests.length ∧
      ∃ result ∈ results, result.CapacityFailure := by
  simp [shouldSplitRetry]

/-- The first id that an earlier result already has. -/
def firstDuplicate (results : List (EpisodeResult F)) (seen : List String) : Option String :=
  match results with
  | [] => none
  | result :: rest =>
    if result.requestId ∈ seen then some result.requestId
    else firstDuplicate rest (result.requestId :: seen)

/-- `_results_in_request_order` (verl_agent_loop.py, 630-650). -/
def resultsInRequestOrder (requests : List EpisodeRequest) (results : List (EpisodeResult F)) :
    Except LoopError (List (EpisodeResult F)) :=
  if results.length ≠ requests.length then .ok results
  else match firstDuplicate results [] with
    | some requestId => .error (.duplicateResult requestId)
    | none => requests.mapM fun request =>
      match results.find? (·.requestId = request.requestId) with
      | some result => .ok result
      | none => .error (.noResult request.requestId)

/-- What `_submit_episode_chunk` makes of the client's answer. -/
def checkedAnswer (requests : List EpisodeRequest)
    (answer : Except String (List (EpisodeResult F))) :
    Except LoopError (List (EpisodeResult F)) :=
  match answer with
  | .error message => .error (.client message)
  | .ok results => do
    let results ← resultsInRequestOrder requests results
    if results.length ≠ requests.length then
      throw (.resultCount results.length requests.length)
    return results

def submitEpisodeChunk (answers : Answers F) (log : Log) (requests : List EpisodeRequest) :
    Except LoopError (List (EpisodeResult F)) × Log :=
  (checkedAnswer requests (answers log.length), log ++ [requests])

/-- `_submit_episode_chunk_with_retry` (verl_agent_loop.py, 606-619). -/
def submitEpisodeChunkWithRetry (config : Config) (answers : Answers F) (log : Log)
    (requests : List EpisodeRequest) : Except LoopError (List (EpisodeResult F)) × Log :=
  match submitEpisodeChunk answers log requests with
  | (.error e, log) => (.error e, log)
  | (.ok results, log) =>
    if _split : shouldSplitRetry requests results then
      let midpoint := max 1 (requests.length / 2)
      match submitEpisodeChunkWithRetry config answers log (requests.take midpoint) with
      | (.error e, log) => (.error e, log)
      | (.ok left, log) =>
        let (right, log) :=
          submitEpisodeChunkWithRetry config answers log (requests.drop midpoint)
        (right.map (left ++ ·), log)
    else (raiseIfFailed config results >>= fun _ => .ok results, log)
termination_by requests.length
decreasing_by
  all_goals
    have several : 1 < requests.length := (shouldSplitRetry_iff.mp ‹_›).1
    simp only [List.length_take, List.length_drop]
    omega

/-- `requests[index : index + size]` for each multiple of the size. -/
def chunksOf (size : Nat) (requests : List EpisodeRequest) : List (List EpisodeRequest) :=
  (List.range ((requests.length + size - 1) / size)).map fun index =>
    (requests.drop (index * size)).take size

/-- `_request_chunks` (verl_agent_loop.py, 671-675). -/
def requestChunks (config : Config) (requests : List EpisodeRequest) : List (List EpisodeRequest) :=
  if config.batchSize ≤ 0 then [requests] else chunksOf (max 1 config.batchSize.toNat) requests

/-- The loop over the chunks, with the outputs of the chunks before. -/
def runChunks [Zero F] (config : Config) (tokenizer : Tokenizer) (answers : Answers F) (log : Log)
    (outputs : List (AgentLoopOutput F)) :
    List (List EpisodeRequest) → Except LoopError (List (AgentLoopOutput F)) × Log
  | [] => (.ok outputs, log)
  | chunk :: chunks =>
    match submitEpisodeChunkWithRetry config answers log chunk with
    | (.error e, log) => (.error e, log)
    | (.ok results, log) =>
      match (chunk.zip results).mapM fun pair =>
        outputFromResult config tokenizer pair.1 pair.2 with
      | .error e => (.error e, log)
      | .ok more => runChunks config tokenizer answers log (outputs ++ more) chunks

/-- `run_batch` (verl_agent_loop.py, 465-500). -/
def runBatch [Zero F] (config : Config) (tokenizer : Tokenizer) (answers : Answers F)
    (requests : List EpisodeRequest) : Except LoopError (List (AgentLoopOutput F)) × Log :=
  runChunks config tokenizer answers [] [] (requestChunks config requests)

end Batches

/-! ### One answer -/

section Answer

variable {F : Type}

/-- A result for each request, in their order. -/
def Answered (requests : List EpisodeRequest) (results : List (EpisodeResult F)) : Prop :=
  List.Forall₂ (fun request result => result.requestId = request.requestId) requests results

/-- The requests have distinct ids. -/
def Distinct (requests : List EpisodeRequest) : Prop :=
  (requests.map EpisodeRequest.requestId).Nodup

variable {results : List (EpisodeResult F)}

theorem Answered.ids {requests : List EpisodeRequest} (answered : Answered requests results) :
    results.map EpisodeResult.requestId = requests.map EpisodeRequest.requestId := by
  induction answered with
  | nil => rfl
  | cons same _ ih => rw [List.map_cons, List.map_cons, same, ih]

theorem Answered.request {requests : List EpisodeRequest} {result : EpisodeResult F}
    (answered : Answered requests results) (listed : result ∈ results) :
    ∃ request ∈ requests, request.requestId = result.requestId := by
  have named := List.mem_map_of_mem (f := EpisodeResult.requestId) listed
  rw [answered.ids] at named
  exact List.mem_map.mp named

theorem checkedAnswer_ok {requests : List EpisodeRequest}
    {answer : Except String (List (EpisodeResult F))}
    (passed : checkedAnswer requests answer = .ok results) (distinct : Distinct requests) :
    Answered requests results ∧ ∃ raw, answer = .ok raw ∧ results.Perm raw := by
  cases answer with
  | error => cases passed
  | ok raw =>
    obtain ⟨ordered, sorted, passed⟩ := bind_eq_ok.mp passed
    split at passed
    · cases passed
    next complete =>
    obtain rfl := Except.ok.inj passed
    rw [ne_eq, not_not] at complete
    unfold resultsInRequestOrder at sorted
    split at sorted
    · next incomplete =>
      cases sorted
      exact absurd complete incomplete
    next length =>
    rw [ne_eq, not_not] at length
    split at sorted
    · cases sorted
    have found : List.Forall₂ (fun request result => result ∈ raw ∧
        result.requestId = request.requestId) requests ordered := by
      refine (forall₂_of_mapM sorted).imp fun request result read => ?_
      split at read
      · next hit =>
        cases read
        exact ⟨List.mem_of_find?_eq_some hit, by simpa using List.find?_some hit⟩
      · cases read
    have answered : Answered requests ordered := found.imp fun _ _ both => both.2
    have nodup : ordered.Nodup := by
      have ids : (ordered.map EpisodeResult.requestId).Nodup := answered.ids ▸ distinct
      exact List.Nodup.of_map EpisodeResult.requestId ids
    have listed : ordered ⊆ raw :=
      ((List.forall₂_and_left ordered requests).mp found.flip).1
    exact ⟨answered, raw, rfl,
      (nodup.subperm listed).perm_of_length_le (length.trans complete.symm).le⟩

end Answer

/-! ### Calls of a batch -/

section Calls

variable {F : Type} {answers : Answers F}

/-- Call `j` submits a request that the answer to call `i` has a finished result for. -/
def Again (answers : Answers F) (log : Log) (i j : Nat) : Prop :=
  ∃ raw, answers i = .ok raw ∧ ∃ result ∈ raw, result.Finished ∧
    ∃ chunk, log[j]? = some chunk ∧ ∃ request ∈ chunk, request.requestId = result.requestId

/-- The answer to call `i` is taken, and has a finished result next to a capacity failure. -/
def Mixed (answers : Answers F) (log : Log) (i : Nat) : Prop :=
  ∃ chunk, log[i]? = some chunk ∧ 2 ≤ chunk.length ∧
    ∃ results, checkedAnswer chunk (answers i) = .ok results ∧
      (∃ result ∈ results, result.Finished) ∧ ∃ result ∈ results, result.CapacityFailure

/-- From call `start` on, no finished request is submitted again. -/
def Once (answers : Answers F) (start : Nat) (log : Log) : Prop :=
  ∀ i j, start ≤ i → i < j → ¬Again answers log i j

def Unmixed (answers : Answers F) (start : Nat) (log : Log) : Prop :=
  ∀ i, start ≤ i → i < log.length → ¬Mixed answers log i

/-- Every finished result since call `start` is one of those returned. -/
def Final (answers : Answers F) (start : Nat) (log : Log) (results : List (EpisodeResult F)) :
    Prop :=
  ∀ i raw, start ≤ i → i < log.length → answers i = .ok raw →
    ∀ result ∈ raw, result.Finished → result ∈ results

variable {log' : Log} {i j : Nat}

theorem getElem?_grows {log : Log} (grows : log <+: log') {chunk : List EpisodeRequest}
    (at_ : log[i]? = some chunk) : log'[i]? = some chunk := by
  obtain ⟨more, rfl⟩ := grows
  rw [List.getElem?_append_left (List.getElem?_eq_some_iff.mp at_).1, at_]

theorem Again.mono {log : Log} (grows : log <+: log') (again : Again answers log i j) :
    Again answers log' i j := by
  obtain ⟨raw, answer, result, listed, finished, chunk, called, same⟩ := again
  exact ⟨raw, answer, result, listed, finished, chunk, getElem?_grows grows called, same⟩

theorem Mixed.mono {log : Log} (grows : log <+: log') (mixed : Mixed answers log i) :
    Mixed answers log' i := by
  obtain ⟨chunk, called, rest⟩ := mixed
  exact ⟨chunk, getElem?_grows grows called, rest⟩

theorem Again.bound {log : Log} (again : Again answers log i j) : j < log.length := by
  obtain ⟨_, _, _, _, _, _, called, _⟩ := again
  exact (List.getElem?_eq_some_iff.mp called).1

theorem Unmixed.before {start : Nat} {log : Log} (unmixed : Unmixed answers start log')
    (grows : log <+: log') : Unmixed answers start log := fun i from_ bound mixed =>
  unmixed i from_ (lt_of_lt_of_le bound grows.length_le) (mixed.mono grows)

theorem Unmixed.later {start start' : Nat} {log : Log} (unmixed : Unmixed answers start log)
    (later : start ≤ start') : Unmixed answers start' log := fun i from_ =>
  unmixed i (later.trans from_)

/-- What the calls since `start` have done for these requests; `returned` are the results, if the
submission has not raised. -/
structure Served (answers : Answers F) (start : Log) (requests : List EpisodeRequest) (log : Log)
    (returned : Option (List (EpisodeResult F))) : Prop where
  grows : start <+: log
  within : ∀ j chunk, start.length ≤ j → log[j]? = some chunk → chunk ⊆ requests
  asked : returned.isSome → ∀ request ∈ requests,
    ∃ j chunk, start.length ≤ j ∧ log[j]? = some chunk ∧ request ∈ chunk
  known : ∀ i raw, start.length ≤ i → i < log.length → answers i = .ok raw →
    (i + 1 < log.length ∨ returned.isSome) → ∀ result ∈ raw,
      ∃ request ∈ requests, request.requestId = result.requestId
  once : Unmixed answers start.length log → Once answers start.length log
  answered : ∀ results, returned = some results → Answered requests results
  final : ∀ results, returned = some results → Unmixed answers start.length log →
    Final answers start.length log results
  unmixed : returned.isSome → Once answers start.length log → Unmixed answers start.length log

namespace Served

variable {start middle log : Log} {requests first second : List EpisodeRequest}
  {returned : Option (List (EpisodeResult F))}

theorem raise (served : Served answers start requests log returned) :
    Served answers start requests log none where
  grows := served.grows
  within := served.within
  asked := nofun
  known i raw from_ bound answer more :=
    served.known i raw from_ bound answer (more.imp_right fun raised => nomatch raised)
  once := served.once
  answered := nofun
  final := nofun
  unmixed := nofun

theorem skip (served : Served answers start first log none) (second : List EpisodeRequest) :
    Served answers start (first ++ second) log none where
  grows := served.grows
  within j chunk from_ called :=
    List.Subset.trans (served.within j chunk from_ called) (List.subset_append_left ..)
  asked := nofun
  known i raw from_ bound answer more result listed := by
    obtain ⟨request, member, same⟩ := served.known i raw from_ bound answer more result listed
    exact ⟨request, List.mem_append_left _ member, same⟩
  once := served.once
  answered := nofun
  final := nofun
  unmixed := nofun

theorem nil (answers : Answers F) (start : Log) : Served answers start [] start (some []) where
  grows := List.prefix_refl _
  within j chunk from_ called :=
    absurd (List.getElem?_eq_some_iff.mp called).1 (Nat.not_lt.mpr from_)
  asked _ _ listed := absurd listed List.not_mem_nil
  known i _ from_ bound := absurd bound (Nat.not_lt.mpr from_)
  once _ i j from_ later again := absurd again.bound (by omega)
  answered results same := by
    cases same
    exact .nil
  final _ _ _ i _ from_ bound := absurd bound (Nat.not_lt.mpr from_)
  unmixed _ _ i from_ bound := absurd bound (Nat.not_lt.mpr from_)

variable {results raw : List (EpisodeResult F)}

theorem append (left : Served answers start first middle (some results))
    (right : Served answers middle second log returned) (distinct : Distinct (first ++ second)) :
    Served answers start (first ++ second) log (returned.map (results ++ ·)) := by
  have apart : ∀ a ∈ first, ∀ b ∈ second, a.requestId ≠ b.requestId := by
    intro a inFirst b inSecond
    rw [Distinct, List.map_append] at distinct
    exact List.disjoint_iff_ne.mp (List.disjoint_of_nodup_append distinct) _
      (List.mem_map_of_mem inFirst) _ (List.mem_map_of_mem inSecond)
  have early : ∀ {i : Nat} {chunk : List EpisodeRequest}, i < middle.length →
      log[i]? = some chunk → middle[i]? = some chunk := by
    intro i chunk bound called
    rw [← called, List.getElem?_eq_getElem bound]
    exact (getElem?_grows right.grows (List.getElem?_eq_getElem bound)).symm
  have longer := right.grows.length_le
  have known₁ : ∀ i raw, start.length ≤ i → i < middle.length → answers i = .ok raw →
      ∀ result ∈ raw, ∃ request ∈ first, request.requestId = result.requestId :=
    fun i raw from_ bound answer => left.known i raw from_ bound answer (.inr rfl)
  refine ⟨left.grows.trans right.grows, ?_, ?_, ?_, ?_, ?_, ?_, ?_⟩
  · intro j chunk from_ called
    by_cases bound : j < middle.length
    · exact List.Subset.trans (left.within j chunk from_ (early bound called))
        (List.subset_append_left ..)
    · exact List.Subset.trans (right.within j chunk (Nat.not_lt.mp bound) called)
        (List.subset_append_right ..)
  · intro present request listed
    rw [Option.isSome_map] at present
    rcases List.mem_append.mp listed with member | member
    · obtain ⟨j, chunk, from_, called, asked⟩ := left.asked rfl request member
      exact ⟨j, chunk, from_, getElem?_grows right.grows called, asked⟩
    · obtain ⟨j, chunk, from_, called, asked⟩ := right.asked present request member
      exact ⟨j, chunk, left.grows.length_le.trans from_, called, asked⟩
  · intro i raw from_ bound answer more result listed
    rw [Option.isSome_map] at more
    by_cases half : i < middle.length
    · obtain ⟨request, member, same⟩ := known₁ i raw from_ half answer result listed
      exact ⟨request, List.mem_append_left _ member, same⟩
    · obtain ⟨request, member, same⟩ :=
        right.known i raw (Nat.not_lt.mp half) bound answer more result listed
      exact ⟨request, List.mem_append_right _ member, same⟩
  · intro unmixed i j from_ later again
    obtain ⟨raw, answer, result, listed, finished, chunk, called, request, asked, same⟩ := again
    by_cases half : j < middle.length
    · exact left.once (unmixed.before right.grows) i j from_ later
        ⟨raw, answer, result, listed, finished, chunk, early half called, request, asked, same⟩
    by_cases half' : i < middle.length
    · -- an answer to the first requests and a call with the second ones
      obtain ⟨request', member, same'⟩ := known₁ i raw from_ half' answer result listed
      exact apart request' member request
        (right.within j chunk (Nat.not_lt.mp half) called asked) (same'.trans same.symm)
    · exact right.once (unmixed.later left.grows.length_le) i j (Nat.not_lt.mp half') later
        ⟨raw, answer, result, listed, finished, chunk, called, request, asked, same⟩
  · intro all same
    obtain ⟨others, rfl, rfl⟩ := Option.map_eq_some_iff.mp same
    exact List.rel_append (left.answered results rfl) (right.answered others rfl)
  · intro all same unmixed i raw from_ bound answer result listed finished
    obtain ⟨others, rfl, rfl⟩ := Option.map_eq_some_iff.mp same
    by_cases half : i < middle.length
    · exact List.mem_append_left _ (left.final results rfl (unmixed.before right.grows) i raw from_
        half answer result listed finished)
    · exact List.mem_append_right _ (right.final others rfl (unmixed.later left.grows.length_le) i
        raw (Nat.not_lt.mp half) bound answer result listed finished)
  · intro present once i from_ bound mixed
    rw [Option.isSome_map] at present
    by_cases half : i < middle.length
    · have once₁ : Once answers start.length middle := fun i j from_ later again =>
        once i j from_ later (again.mono right.grows)
      obtain ⟨chunk, called, rest⟩ := mixed
      exact left.unmixed rfl once₁ i from_ half ⟨chunk, early half called, rest⟩
    · have once₂ : Once answers middle.length log := fun i j from_ later =>
        once i j (left.grows.length_le.trans from_) later
      exact right.unmixed present once₂ i (Nat.not_lt.mp half) bound mixed

theorem single (answered : Answered requests results)
    (checked : checkedAnswer requests (answers start.length) = .ok results)
    (answer : answers start.length = .ok raw) (same : results.Perm raw)
    (whole : ¬shouldSplitRetry requests results) :
    Served answers start requests (start ++ [requests]) (some results) := by
  have only : ∀ i, start.length ≤ i → i < (start ++ [requests]).length → i = start.length := by
    intro i from_ bound
    rw [List.length_append, List.length_singleton] at bound
    omega
  have called : (start ++ [requests])[start.length]? = some requests := List.getElem?_concat_length
  refine ⟨List.prefix_append .., ?_, ?_, ?_, ?_, ?_, ?_, ?_⟩
  · intro j chunk from_ at_
    obtain rfl := only j from_ (List.getElem?_eq_some_iff.mp at_).1
    obtain rfl := Option.some.inj (called.symm.trans at_)
    exact List.Subset.refl _
  · exact fun _ request listed => ⟨start.length, requests, le_rfl, called, listed⟩
  · intro i raw' from_ bound answer' _ result listed
    obtain rfl := only i from_ bound
    obtain rfl := Except.ok.inj (answer.symm.trans answer')
    exact answered.request (same.mem_iff.mpr listed)
  · intro _ i j from_ later again
    have := only j (from_.trans later.le) again.bound
    omega
  · intro results' same'
    cases same'
    exact answered
  · intro results' same' _ i raw' from_ bound answer' result listed _
    obtain rfl := only i from_ bound
    obtain rfl := Except.ok.inj (answer.symm.trans answer')
    cases same'
    exact same.mem_iff.mpr listed
  · intro _ _ i from_ bound mixed
    obtain rfl := only i from_ bound
    obtain ⟨chunk, called', several, results', checked', _, result, listed, failure⟩ := mixed
    obtain rfl := Option.some.inj (called.symm.trans called')
    obtain rfl := Except.ok.inj (checked.symm.trans checked')
    refine whole (shouldSplitRetry_iff.mpr ⟨several, ?_, result, listed, failure⟩)
    exact (List.Forall₂.length_eq answered).symm

theorem failed (answers : Answers F) (start : Log) (requests : List EpisodeRequest) :
    Served answers start requests (start ++ [requests]) none := by
  have only : ∀ i, start.length ≤ i → i < (start ++ [requests]).length → i = start.length := by
    intro i from_ bound
    rw [List.length_append, List.length_singleton] at bound
    omega
  refine ⟨List.prefix_append .., ?_, nofun, ?_, ?_, nofun, nofun, nofun⟩
  · intro j chunk from_ at_
    obtain rfl := only j from_ (List.getElem?_eq_some_iff.mp at_).1
    obtain rfl := Option.some.inj (List.getElem?_concat_length.symm.trans at_)
    exact List.Subset.refl _
  · intro i raw from_ bound _ more
    obtain rfl := only i from_ bound
    rw [List.length_append, List.length_singleton] at more
    exact absurd more (by simp)
  · intro _ i j from_ later again
    have := only j (from_.trans later.le) again.bound
    omega

/-- A call whose answer has a capacity failure, before its requests are submitted again. -/
theorem again (answered : Answered requests results)
    (checked : checkedAnswer requests (answers start.length) = .ok results)
    (answer : answers start.length = .ok raw) (same : results.Perm raw)
    (split : shouldSplitRetry requests results)
    (halves : Served answers (start ++ [requests]) requests log returned) :
    Served answers start requests log returned := by
  obtain ⟨several, _, failure, failed, capacity⟩ := shouldSplitRetry_iff.mp split
  have called : log[start.length]? = some requests :=
    getElem?_grows halves.grows List.getElem?_concat_length
  have grows : start <+: log := (List.prefix_append start [requests]).trans halves.grows
  have next : ∀ {i : Nat}, start.length ≤ i → i ≠ start.length →
      (start ++ [requests]).length ≤ i := by
    intro i from_ other
    rw [List.length_append, List.length_singleton]
    omega
  have unfinished : Unmixed answers start.length log → ∀ result ∈ raw, ¬result.Finished := by
    intro unmixed result listed finished
    exact unmixed start.length le_rfl (List.getElem?_eq_some_iff.mp called).1
      ⟨requests, called, several, results, checked,
        ⟨result, same.mem_iff.mpr listed, finished⟩, failure, failed, capacity⟩
  have later : Unmixed answers start.length log →
      Unmixed answers (start ++ [requests]).length log :=
    fun unmixed => unmixed.later (List.prefix_append ..).length_le
  refine ⟨grows, ?_, ?_, ?_, ?_, halves.answered, ?_, ?_⟩
  · intro j chunk from_ at_
    by_cases first : j = start.length
    · subst first
      obtain rfl := Option.some.inj (called.symm.trans at_)
      exact List.Subset.refl _
    · exact halves.within j chunk (next from_ first) at_
  · exact fun _ request listed => ⟨start.length, requests, le_rfl, called, listed⟩
  · intro i raw' from_ bound answer' more result listed
    by_cases first : i = start.length
    · subst first
      obtain rfl := Except.ok.inj (answer.symm.trans answer')
      exact answered.request (same.mem_iff.mpr listed)
    · exact halves.known i raw' (next from_ first) bound answer' more result listed
  · intro unmixed i j from_ after again
    by_cases first : i = start.length
    · subst first
      obtain ⟨raw', answer', result, listed, finished, _⟩ := again
      obtain rfl := Except.ok.inj (answer.symm.trans answer')
      exact unfinished unmixed result listed finished
    · exact halves.once (later unmixed) i j (next from_ first) after again
  · intro results' returns unmixed i raw' from_ bound answer' result listed finished
    by_cases first : i = start.length
    · subst first
      obtain rfl := Except.ok.inj (answer.symm.trans answer')
      exact absurd finished (unfinished unmixed result listed)
    · exact halves.final results' returns (later unmixed) i raw' (next from_ first) bound answer'
        result listed finished
  · intro present once i from_ bound mixed
    by_cases first : i = start.length
    · -- the half with the finished request is submitted
      subst first
      obtain ⟨chunk, called', _, results', checked', ⟨result, listed, finished⟩, _⟩ := mixed
      obtain rfl := Option.some.inj (called.symm.trans called')
      obtain rfl := Except.ok.inj (checked.symm.trans checked')
      obtain ⟨request, member, named⟩ := answered.request listed
      obtain ⟨j, chunk, from', called', asked⟩ := halves.asked present request member
      rw [List.length_append, List.length_singleton] at from'
      exact once start.length j le_rfl from'
        ⟨raw, answer, result, same.mem_iff.mp listed, finished, chunk, called', request, asked,
          named⟩
    · refine halves.unmixed present (fun i j from' => once i j ?_) i (next from_ first) bound mixed
      exact (List.prefix_append ..).length_le.trans from'

end Served

end Calls

/-! ### The submission of a chunk -/

section Chunk

variable {F : Type} {config : Config} {answers : Answers F}

theorem Distinct.split {requests : List EpisodeRequest} (distinct : Distinct requests) (n : Nat) :
    Distinct (requests.take n) ∧ Distinct (requests.drop n) := by
  rw [Distinct, ← List.take_append_drop n requests, List.map_append] at distinct
  exact ⟨distinct.of_append_left, distinct.of_append_right⟩

/-- One level of the submission: an answer that raises, one that is taken as it is, and one that
sends both halves. -/
theorem submit_cases (config : Config) (answers : Answers F) (log : Log)
    (requests : List EpisodeRequest) :
    (∃ e, checkedAnswer requests (answers log.length) = .error e ∧
      submitEpisodeChunkWithRetry config answers log requests = (.error e, log ++ [requests])) ∨
    (∃ results, checkedAnswer requests (answers log.length) = .ok results ∧
      ¬shouldSplitRetry requests results ∧
      submitEpisodeChunkWithRetry config answers log requests =
        ((raiseIfFailed config results >>= fun _ => .ok results), log ++ [requests])) ∨
    ∃ results left middle, checkedAnswer requests (answers log.length) = .ok results ∧
      shouldSplitRetry requests results ∧
      submitEpisodeChunkWithRetry config answers (log ++ [requests])
        (requests.take (max 1 (requests.length / 2))) = (left, middle) ∧
      ((∃ e, left = .error e ∧
        submitEpisodeChunkWithRetry config answers log requests = (.error e, middle)) ∨
      ∃ first second, left = .ok first ∧ submitEpisodeChunkWithRetry config answers middle
          (requests.drop (max 1 (requests.length / 2))) = second ∧
        submitEpisodeChunkWithRetry config answers log requests =
          (second.1.map (first ++ ·), second.2)) := by
  rw [submitEpisodeChunkWithRetry]
  cases checked : checkedAnswer requests (answers log.length) with
  | error e => exact .inl ⟨e, rfl, by rw [submitEpisodeChunk, checked]⟩
  | ok results =>
    refine .inr ?_
    simp only [submitEpisodeChunk, checked]
    by_cases split : shouldSplitRetry requests results
    swap
    · exact .inl ⟨results, rfl, split, by rw [dif_neg split]⟩
    refine .inr ⟨results, _, _, rfl, split, rfl, ?_⟩
    rw [dif_pos split]
    cases left : submitEpisodeChunkWithRetry config answers (log ++ [requests])
      (requests.take (max 1 (requests.length / 2))) with
    | mk outcome middle =>
      cases outcome with
      | error e => exact .inl ⟨e, rfl, rfl⟩
      | ok first => exact .inr ⟨first, _, rfl, rfl, rfl⟩

variable {results : List (EpisodeResult F)}

theorem submit_whole {requests : List EpisodeRequest} {log : Log}
    (checked : checkedAnswer requests (answers log.length) = .ok results)
    (whole : shouldSplitRetry requests results = false)
    (fine : raiseIfFailed config results = .ok ()) :
    submitEpisodeChunkWithRetry config answers log requests = (.ok results, log ++ [requests]) := by
  rw [submitEpisodeChunkWithRetry]
  simp [submitEpisodeChunk, checked, whole, fine]

theorem submit_split {requests : List EpisodeRequest} {log middle last : Log}
    {first second : List (EpisodeResult F)}
    (checked : checkedAnswer requests (answers log.length) = .ok results)
    (split : shouldSplitRetry requests results)
    (left : submitEpisodeChunkWithRetry config answers (log ++ [requests])
      (requests.take (max 1 (requests.length / 2))) = (.ok first, middle))
    (right : submitEpisodeChunkWithRetry config answers middle
      (requests.drop (max 1 (requests.length / 2))) = (.ok second, last)) :
    submitEpisodeChunkWithRetry config answers log requests = (.ok (first ++ second), last) := by
  rw [submitEpisodeChunkWithRetry]
  simp [submitEpisodeChunk, checked, split, left, right]

theorem toOption_map {ε α β : Type} (x : Except ε α) (f : α → β) :
    (x.map f).toOption = x.toOption.map f := by
  cases x <;> rfl

theorem served_submit (config : Config) (answers : Answers F) {requests : List EpisodeRequest}
    (distinct : Distinct requests) (log : Log) :
    Served answers log requests (submitEpisodeChunkWithRetry config answers log requests).2
      (submitEpisodeChunkWithRetry config answers log requests).1.toOption := by
  induction size : requests.length using Nat.strong_induction_on generalizing requests log with
  | _ n ih =>
  subst size
  rcases submit_cases config answers log requests with ⟨e, _, ran⟩ |
    ⟨results, checked, whole, ran⟩ | ⟨results, left, middle, checked, split, first, rest⟩
  · rw [ran]
    exact Served.failed answers log requests
  · obtain ⟨answered, raw, answer, same⟩ := checkedAnswer_ok checked distinct
    have served := Served.single answered checked answer same whole
    rw [ran]
    cases raiseIfFailed config results with
    | error e => exact served.raise
    | ok _ => exact served
  · obtain ⟨answered, raw, answer, same⟩ := checkedAnswer_ok checked distinct
    have several := (shouldSplitRetry_iff.mp split).1
    have halves := distinct.split (max 1 (requests.length / 2))
    have left' := ih _ (by rw [List.length_take]; omega) halves.1 (log ++ [requests]) rfl
    have right' := ih (requests.drop (max 1 (requests.length / 2))).length
      (by rw [List.length_drop]; omega) halves.2 middle rfl
    have joined := List.take_append_drop (max 1 (requests.length / 2)) requests
    refine Served.again answered checked answer same split ?_
    rw [first] at left'
    rcases rest with ⟨e, rfl, ran⟩ | ⟨results', second, rfl, rfl, ran⟩
    · have served := left'.skip (requests.drop (max 1 (requests.length / 2)))
      rw [joined] at served
      rw [ran]
      exact served
    · have served := left'.append right' (joined.symm ▸ distinct)
      rw [joined] at served
      rw [ran, toOption_map]
      exact served

theorem submit_count (config : Config) (answers : Answers F) (requests : List EpisodeRequest)
    (log : Log) :
    (submitEpisodeChunkWithRetry config answers log requests).2.length ≤
      log.length + max 1 (2 * requests.length - 1) := by
  induction size : requests.length using Nat.strong_induction_on generalizing requests log with
  | _ n ih =>
  subst size
  rcases submit_cases config answers log requests with ⟨e, _, ran⟩ | ⟨results, _, _, ran⟩ |
    ⟨results, left, middle, _, split, first, rest⟩
  · rw [ran, List.length_append, List.length_singleton]
    omega
  · rw [ran, List.length_append, List.length_singleton]
    omega
  · have several := (shouldSplitRetry_iff.mp split).1
    have half : (requests.take (max 1 (requests.length / 2))).length = requests.length / 2 := by
      rw [List.length_take]
      omega
    have half' : (requests.drop (max 1 (requests.length / 2))).length =
        requests.length - requests.length / 2 := by
      rw [List.length_drop]
      omega
    have left' : middle.length ≤ log.length + 1 + max 1 (2 * (requests.length / 2) - 1) := by
      simpa [first] using ih _ (by omega) _ (log ++ [requests]) half
    rcases rest with ⟨e, _, ran⟩ | ⟨results', second, _, rfl, ran⟩
    · rw [ran]
      exact left'.trans (by omega)
    · have right' := ih _ (by omega) _ middle half'
      rw [ran]
      exact right'.trans (by omega)

end Chunk

/-! ### The chunks of a batch -/

section Chunks

theorem flatten_slices {α : Type} (size n : Nat) (items : List α) :
    ((List.range n).map fun index => (items.drop (index * size)).take size).flatten =
      items.take (n * size) := by
  induction n with
  | zero => simp
  | succ n ih =>
    rw [List.range_succ, List.map_append, List.flatten_append, ih, Nat.succ_mul, List.take_add]
    simp

variable {size : Nat} {chunks : List (List EpisodeRequest)}

theorem chunksOf_flatten (positive : 0 < size) (requests : List EpisodeRequest) :
    (chunksOf size requests).flatten = requests := by
  rw [chunksOf, flatten_slices]
  refine List.take_of_length_le ?_
  have whole := Nat.div_add_mod (requests.length + size - 1) size
  have rest := Nat.mod_lt (requests.length + size - 1) positive
  rw [Nat.mul_comm] at whole
  omega

theorem requestChunks_flatten (config : Config) (requests : List EpisodeRequest) :
    (requestChunks config requests).flatten = requests := by
  unfold requestChunks
  split
  · exact List.flatten_singleton
  · exact chunksOf_flatten (by omega) requests

theorem chunksOf_nonempty (positive : 0 < size) {requests chunk : List EpisodeRequest}
    (listed : chunk ∈ chunksOf size requests) : chunk ≠ [] := by
  obtain ⟨index, bound, rfl⟩ := List.mem_map.mp listed
  have place : (index + 1) * size ≤ requests.length + size - 1 :=
    (Nat.le_div_iff_mul_le positive).mp (List.mem_range.mp bound)
  rw [Nat.succ_mul] at place
  refine List.ne_nil_of_length_pos ?_
  rw [List.length_take, List.length_drop]
  omega

variable {F : Type} [Zero F] {config : Config} {tokenizer : Tokenizer} {answers : Answers F}

/-- The outputs are made of these results, request by request. -/
def Produced (config : Config) (tokenizer : Tokenizer) (requests : List EpisodeRequest)
    (results : List (EpisodeResult F)) (outputs : List (AgentLoopOutput F)) : Prop :=
  List.Forall₂ (fun pair output => outputFromResult config tokenizer pair.1 pair.2 = .ok output)
    (requests.zip results) outputs

theorem served_chunks (config : Config) (tokenizer : Tokenizer) (answers : Answers F)
    (distinct : Distinct chunks.flatten) (log : Log) (outputs : List (AgentLoopOutput F)) :
    ∃ returned, Served answers log chunks.flatten
        (runChunks config tokenizer answers log outputs chunks).2 returned ∧
      ∀ all, (runChunks config tokenizer answers log outputs chunks).1 = .ok all →
        ∃ results more, returned = some results ∧ all = outputs ++ more ∧
          Produced config tokenizer chunks.flatten results more := by
  induction chunks generalizing log outputs with
  | nil =>
    refine ⟨some [], Served.nil answers log, ?_⟩
    intro all same
    cases same
    exact ⟨[], [], rfl, (List.append_nil _).symm, .nil⟩
  | cons chunk chunks ih =>
    rw [List.flatten_cons] at distinct ⊢
    have apart := distinct
    rw [Distinct, List.map_append] at apart
    have here := served_submit config answers apart.of_append_left log
    rw [runChunks]
    generalize submitEpisodeChunkWithRetry config answers log chunk = outcome at here
    obtain ⟨_ | results, middle⟩ := outcome
    · exact ⟨none, here.skip _, nofun⟩
    dsimp only
    cases made : (chunk.zip results).mapM fun pair =>
      outputFromResult config tokenizer pair.1 pair.2 with
    | error e => exact ⟨none, here.raise.skip _, nofun⟩
    | ok more =>
      obtain ⟨returned, served, rest⟩ := ih apart.of_append_right middle (outputs ++ more)
      refine ⟨_, here.append served distinct, ?_⟩
      intro all same
      obtain ⟨others, more', rfl, rfl, produced⟩ := rest all same
      refine ⟨results ++ others, more ++ more', rfl, List.append_assoc .., ?_⟩
      have lengths : chunk.length = results.length :=
        List.Forall₂.length_eq (here.answered results rfl)
      rw [Produced, List.zip_append lengths]
      exact List.rel_append (forall₂_of_mapM made) produced

/-- One call for a chunk, and two for each time it is split. -/
def mostCalls : List (List EpisodeRequest) → Nat
  | [] => 0
  | chunk :: chunks => max 1 (2 * chunk.length - 1) + mostCalls chunks

theorem chunks_count (config : Config) (tokenizer : Tokenizer) (answers : Answers F)
    (chunks : List (List EpisodeRequest)) (log : Log) (outputs : List (AgentLoopOutput F)) :
    (runChunks config tokenizer answers log outputs chunks).2.length ≤
      log.length + mostCalls chunks := by
  induction chunks generalizing log outputs with
  | nil => exact Nat.le_add_right ..
  | cons chunk chunks ih =>
    have here := submit_count config answers chunk log
    rw [mostCalls, runChunks]
    generalize submitEpisodeChunkWithRetry config answers log chunk = outcome at here
    obtain ⟨_ | results, middle⟩ := outcome
    · exact here.trans (by omega)
    dsimp only at here ⊢
    cases (chunk.zip results).mapM fun pair =>
      outputFromResult config tokenizer pair.1 pair.2 with
    | error e => exact here.trans (by omega)
    | ok more => exact (ih middle (outputs ++ more)).trans (by omega)

theorem count_nonempty (nonempty : ∀ chunk ∈ chunks, chunk ≠ []) :
    mostCalls chunks ≤ 2 * chunks.flatten.length := by
  induction chunks with
  | nil => exact Nat.zero_le _
  | cons chunk chunks ih =>
    have first := List.length_pos_iff.mpr (nonempty chunk List.mem_cons_self)
    have rest := ih fun chunk' listed => nonempty chunk' (List.mem_cons_of_mem _ listed)
    rw [mostCalls, List.flatten_cons, List.length_append]
    omega

theorem requestChunks_count (config : Config) (requests : List EpisodeRequest) :
    mostCalls (requestChunks config requests) ≤
      2 * requests.length + 1 := by
  by_cases one : config.batchSize ≤ 0
  · simp only [requestChunks, if_pos one, mostCalls]
    omega
  · have nonempty : ∀ chunk ∈ requestChunks config requests, chunk ≠ [] := by
      rw [requestChunks, if_neg one]
      exact fun chunk listed => chunksOf_nonempty (by omega) listed
    have count := count_nonempty nonempty
    rw [requestChunks_flatten] at count
    exact count.trans (Nat.le_succ _)

/-- A batch is answered in its order, in at most two calls for each request and one. Its finished
requests are submitted once, and their results returned, if no answer that is taken mixes a finished
result with a capacity failure; and if a batch that returns had such an answer, they are not. -/
theorem runBatch_once {requests : List EpisodeRequest} (distinct : Distinct requests)
    {outcome : Except LoopError (List (AgentLoopOutput F))} {log : Log}
    (ran : runBatch config tokenizer answers requests = (outcome, log)) :
    log.length ≤ 2 * requests.length + 1 ∧
    (Unmixed answers 0 log → Once answers 0 log) ∧
    ∀ outputs, outcome = .ok outputs → ∃ results, Answered requests results ∧
      Produced config tokenizer requests results outputs ∧
      (Once answers 0 log ∧ Final answers 0 log results ↔ Unmixed answers 0 log) := by
  have whole := requestChunks_flatten config requests
  obtain ⟨returned, served, rest⟩ :=
    served_chunks config tokenizer answers (whole.symm ▸ distinct) [] []
  rw [runBatch] at ran
  rw [ran, whole] at served
  rw [ran, whole] at rest
  refine ⟨?_, served.once, ?_⟩
  · have count := chunks_count config tokenizer answers (requestChunks config requests) [] []
    rw [ran, List.length_nil, Nat.zero_add] at count
    exact count.trans (requestChunks_count config requests)
  · intro outputs returns
    obtain ⟨results, more, rfl, same, produced⟩ := rest outputs returns
    obtain rfl : outputs = more := same
    refine ⟨results, served.answered results rfl, produced, ?_, ?_⟩
    · exact fun both => served.unmixed rfl both.1
    · exact fun unmixed => ⟨served.once unmixed, served.final results rfl unmixed⟩

end Chunks

/-! ### A batch of two -/

def sample (requestId : String) : EpisodeRequest :=
  { requestId, envType := "qa", promptIds := [10] }

/-- A finished result with the token 42 and this reward. -/
def done (requestId : String) (reward : Int) : EpisodeResult Int :=
  { answered [answerStep [42] [1]] with requestId, totalReward := reward }

def atCapacity (requestId : String) : EpisodeResult Int :=
  { answered [] with
    requestId, status := "failed", errorMessage := "no worker available: all workers at capacity" }

/-- The first call finds no place at all, or a place for `early`; the episodes alone finish. -/
def busyFirst (early : EpisodeResult Int) : Answers Int
  | 0 => .ok [early, atCapacity "b"]
  | 1 => .ok [done "a" 0]
  | _ => .ok [done "b" 1]

theorem busyFirst_run {early : EpisodeResult Int} (named : early.requestId = "a") :
    runBatch {} noTokenizer (busyFirst early) [sample "a", sample "b"] =
      (.ok [finishedOutput {} noTokenizer [10] (done "a" 0) none,
        finishedOutput {} noTokenizer [10] (done "b" 1) none],
        [[sample "a", sample "b"], [sample "a"], [sample "b"]]) := by
  have left : submitEpisodeChunkWithRetry {} (busyFirst early) [[sample "a", sample "b"]]
      [sample "a"] = (.ok [done "a" 0], [[sample "a", sample "b"], [sample "a"]]) :=
    submit_whole rfl (by decide) rfl
  have right : submitEpisodeChunkWithRetry {} (busyFirst early)
      [[sample "a", sample "b"], [sample "a"]] [sample "b"] =
        (.ok [done "b" 1], [[sample "a", sample "b"], [sample "a"], [sample "b"]]) :=
    submit_whole rfl (by decide) rfl
  have first : checkedAnswer [sample "a", sample "b"] (.ok [early, atCapacity "b"]) =
      .ok [early, atCapacity "b"] := by
    simp [checkedAnswer, resultsInRequestOrder, firstDuplicate, named, sample, atCapacity]
    rfl
  have full : shouldSplitRetry [sample "a", sample "b"] [early, atCapacity "b"] :=
    shouldSplitRetry_iff.mpr ⟨by decide, rfl, atCapacity "b", by simp, by decide⟩
  rw [runBatch, requestChunks, if_pos (by decide), runChunks, submit_split first full left right]
  rfl

theorem runBatch_once_busyFirst :
    Once (busyFirst (atCapacity "a")) 0 [[sample "a", sample "b"], [sample "a"], [sample "b"]] := by
  refine (runBatch_once (by simp [Distinct, sample]) (busyFirst_run rfl)).2.1 ?_
  rintro i _ bound ⟨chunk, called, several, results, checked, ⟨result, listed, finished⟩, _⟩
  rcases i with _ | _ | _ | i
  · cases called
    obtain ⟨_, raw, answer, same⟩ := checkedAnswer_ok checked (by simp [Distinct, sample])
    cases answer
    replace listed := same.mem_iff.mp listed
    have both : result = atCapacity "a" ∨ result = atCapacity "b" := by simpa using listed
    rcases both with rfl | rfl <;> exact absurd finished (by decide)
  · obtain rfl : [sample "a"] = chunk := Option.some.inj called
    exact absurd several (by decide)
  · obtain rfl : [sample "b"] = chunk := Option.some.inj called
    exact absurd several (by decide)
  · exact absurd bound (by simp)

/-- An episode that finished next to a capacity failure runs again, and what is returned for it is
the second result. -/
theorem submits_again : ∃ outputs,
    runBatch {} noTokenizer (busyFirst (done "a" 1)) [sample "a", sample "b"] =
      (.ok outputs, [[sample "a", sample "b"], [sample "a"], [sample "b"]]) ∧
    outputs.map AgentLoopOutput.rewardScore = [0, 1] ∧
    ¬Once (busyFirst (done "a" 1)) 0
      [[sample "a", sample "b"], [sample "a"], [sample "b"]] := by
  refine ⟨_, busyFirst_run rfl, rfl, ?_⟩
  intro once
  exact once 0 1 le_rfl Nat.one_pos ⟨_, rfl, done "a" 1, by decide, by decide, _, rfl, sample "a",
    by decide, rfl⟩

end UEnv.Bridge
