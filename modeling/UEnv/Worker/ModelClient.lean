import UEnv.Lib.Text
import UEnv.Worker.RolloutMeta

/-!
# The model call loop

`episode/model_client.rs`, from the request that is built to its result. What comes before it sends
nothing. The text of an error holds the first 200 bytes of the body, and the slice panics when a
character goes across its end.
-/

namespace UEnv.Worker

open Obs Proto Text

/-- What the client gets back for a request. -/
inductive HttpOutcome
  | connectionError (error : String)
  | answered (status : Nat) (headers : StringMap) (body : String) (modelMs : Int64)

/-- `StatusCode::is_success`. -/
def isSuccess (status : Nat) : Bool := 200 ≤ status && status < 300

/-- The request was answered with success. -/
def HttpOutcome.Succeeds : HttpOutcome → Prop
  | connectionError _ => False
  | answered status _ _ _ => isSuccess status = true

/-- What the loop takes from other crates: the display of a status, `HeaderValue::from_str` on the
bearer token, `Response::json` and `serde_json::from_str`. -/
structure ClientLibrary where
  statusText : Nat → String
  headerValue : String → Except String Unit
  json : String → Except String Json
  fromStr : String → Option Json

section Loop

variable (lib : ClientLibrary) (apiKey : String) (requireRolloutMeta : Bool)
variable (outcomes : Nat → HttpOutcome)

/-- `apply_llm_headers` (model_client.rs, 275-289). -/
def applyLlmHeaders : Except ModelInferError Unit :=
  if (Service.trim apiKey).isEmpty then .ok ()
  else
    match lib.headerValue s!"Bearer {Service.trim apiKey}" with
    | .ok () => .ok ()
    | .error err => .error (.other s!"model client: invalid Authorization header: {err}")

/-- A successful answer is read. -/
def readAnswer (headers : StringMap) (body : String) (modelMs : Int64) :
    Except ModelInferError ModelInferOutput :=
  match lib.json body with
  | .error err => .error (.other s!"model client: invalid response json: {err}")
  | .ok json => inferOutput lib.fromStr requireRolloutMeta { body := json, headers, modelMs }

/-- An attempt returns, panics, or leaves an error text for the next one. -/
inductive AttemptResult
  | returned (result : Except ModelInferError ModelInferOutput)
  | panicked
  | failed (lastErr : String)

/-- One pass of the loop, with the answer to its request. -/
def attemptOnce (attempt : Nat) : HttpOutcome → AttemptResult
  | .connectionError error =>
    .failed s!"model client connection error (attempt {attempt + 1}): {error}"
  | .answered status headers body modelMs =>
    if isSuccess status then .returned (readAnswer lib requireRolloutMeta headers body modelMs)
    else
      match sliceTo (min (byteLength body.toList) 200) body.toList with
      | none => .panicked
      | some kept =>
        .failed <| s!"model client HTTP {lib.statusText status} (attempt {attempt + 1}): " ++
          String.ofList kept

/-- What `infer` did: the requests it sent, and its result unless it panicked. -/
structure InferRun where
  requests : Nat
  result : Option (Except ModelInferError ModelInferOutput)

/-- The loop with so many attempts left. -/
def retryLoop : Nat → Nat → String → InferRun
  | 0, attempt, lastErr => { requests := attempt, result := some (.error (.other lastErr)) }
  | left + 1, attempt, _ =>
    match applyLlmHeaders lib apiKey with
    | .error err => { requests := attempt, result := some (.error err) }
    | .ok () =>
      match attemptOnce lib requireRolloutMeta attempt (outcomes attempt) with
      | .returned result => { requests := attempt + 1, result := some result }
      | .panicked => { requests := attempt + 1, result := none }
      | .failed message => retryLoop left (attempt + 1) message

/-- The loop of `infer_with_rollout_context`. -/
def infer (maxRetries : Nat) : InferRun :=
  retryLoop lib apiKey requireRolloutMeta outcomes (max maxRetries 1) 0 ""

/-- The attempts that the client may make; without a header it makes none. -/
def budget (maxRetries : Nat) : Nat :=
  match applyLlmHeaders lib apiKey with
  | .ok () => max maxRetries 1
  | .error _ => 0

/-- An answer whose body has a text for the first choice and, in asynchronous mode, valid rollout
metadata. -/
def HttpOutcome.Carries : HttpOutcome → Prop
  | connectionError _ => False
  | answered _ headers body modelMs => ∃ json, lib.json body = .ok json ∧
      (∃ content, json.pointer ["choices", "0", "message", "content"] = some (.str content)) ∧
      (requireRolloutMeta = true →
        ∃ rollout, rolloutMeta lib.fromStr { body := json, headers, modelMs } = .ok rollout)

/-- The loop is total and exact. -/
structure InferExact (maxRetries : Nat) (run : InferRun) : Prop where
  total : run.result ≠ none
  bounded : run.requests ≤ max maxRetries 1
  settled : ∀ i, (outcomes i).Succeeds → run.requests ≤ i + 1
  exact : (∃ output, run.result = some (.ok output)) ↔
    ∃ i < budget lib apiKey maxRetries, (outcomes i).Succeeds ∧
      (∀ j < i, ¬ (outcomes j).Succeeds) ∧ (outcomes i).Carries lib requireRolloutMeta

/-- The first 200 bytes of a longer text end with a character. -/
def CutsBetween (body : List Char) : Prop :=
  200 < byteLength body → ∃ kept, kept <+: body ∧ byteLength kept = 200

/-- The body of a refusal can be cut. -/
def HttpOutcome.Printable : HttpOutcome → Prop
  | connectionError _ => True
  | answered _ _ body _ => CutsBetween body.toList

variable {lib apiKey requireRolloutMeta outcomes}

theorem sliceTo_isSome_iff (body : List Char) :
    (∃ kept, sliceTo (min (byteLength body) 200) body = some kept) ↔ CutsBetween body := by
  unfold CutsBetween
  by_cases long : 200 < byteLength body
  · rw [Nat.min_eq_right (Nat.le_of_lt long)]
    constructor
    · rintro ⟨kept, cut⟩ _
      exact ⟨kept, sliceTo_eq_some_iff.mp cut⟩
    · intro between
      obtain ⟨kept, cut⟩ := between long
      exact ⟨kept, sliceTo_eq_some_iff.mpr cut⟩
  · rw [Nat.min_eq_left (Nat.le_of_not_lt long)]
    refine iff_of_true ⟨body, sliceTo_eq_some_iff.mpr ⟨List.prefix_refl body, rfl⟩⟩ ?_
    exact fun longer => absurd longer long

theorem asStr_eq_some {value : Json} {text : String} :
    value.asStr = some text ↔ value = .str text := by
  cases value <;> simp [Json.asStr]

/-- A response gives a result exactly when it has a text and, if it is needed, its metadata. -/
theorem inferOutput_ok_iff (response : ChatResponse) :
    (∃ output, inferOutput lib.fromStr requireRolloutMeta response = .ok output) ↔ (∃ content,
        response.body.pointer ["choices", "0", "message", "content"] = some (.str content)) ∧
      (requireRolloutMeta = true → ∃ rollout, rolloutMeta lib.fromStr response = .ok rollout) := by
  unfold inferOutput
  have text : (∃ content,
      response.body.pointer ["choices", "0", "message", "content"] = some (.str content)) ↔
      ∃ content, (response.body.pointer ["choices", "0", "message", "content"]).bind Json.asStr =
        some content := by
    simp only [Option.bind_eq_some_iff, asStr_eq_some, exists_eq_right]
  rw [text]
  cases (response.body.pointer ["choices", "0", "message", "content"]).bind Json.asStr with
  | none => simp
  | some =>
    cases requireRolloutMeta with
    | false => simp
    | true => cases rolloutMeta lib.fromStr response <;> simp

theorem readAnswer_ok_iff {status : Nat} {headers : StringMap} {body : String} {modelMs : Int64} :
    (∃ output, readAnswer lib requireRolloutMeta headers body modelMs = .ok output) ↔
      (HttpOutcome.answered status headers body modelMs).Carries lib requireRolloutMeta := by
  unfold readAnswer HttpOutcome.Carries
  cases parsed : lib.json body with
  | error => simp [parsed]
  | ok json =>
    rw [show (∃ output, inferOutput lib.fromStr requireRolloutMeta
      { body := json, headers, modelMs } = .ok output) ↔ _ from inferOutput_ok_iff _]
    constructor
    · exact fun carries => ⟨json, parsed, carries⟩
    · rintro ⟨json', same, carries⟩
      obtain rfl := Except.ok.inj (parsed.symm.trans same)
      exact carries

theorem attemptOnce_cases (attempt : Nat) (outcome : HttpOutcome) :
    (∃ result, attemptOnce lib requireRolloutMeta attempt outcome = .returned result ∧
      outcome.Succeeds ∧
      ((∃ output, result = .ok output) ↔ outcome.Carries lib requireRolloutMeta)) ∨
    (attemptOnce lib requireRolloutMeta attempt outcome = .panicked ∧ ¬ outcome.Succeeds ∧
      ¬ outcome.Printable) ∨
    (∃ lastErr, attemptOnce lib requireRolloutMeta attempt outcome = .failed lastErr ∧
      ¬ outcome.Succeeds ∧ outcome.Printable) := by
  cases outcome with
  | connectionError => exact Or.inr (Or.inr ⟨_, rfl, id, trivial⟩)
  | answered status headers body =>
    unfold attemptOnce
    by_cases success : isSuccess status = true
    · simp only [success, if_true]
      exact Or.inl ⟨_, rfl, success, readAnswer_ok_iff⟩
    · simp only [success]
      have cuts := sliceTo_isSome_iff body.toList
      cases sliced : sliceTo (min (byteLength body.toList) 200) body.toList with
      | none =>
        refine Or.inr (Or.inl ⟨rfl, success, fun printable => ?_⟩)
        obtain ⟨kept, cut⟩ := cuts.mpr printable
        rw [sliced] at cut
        cases cut
      | some kept => exact Or.inr (Or.inr ⟨_, rfl, success, cuts.mp ⟨kept, sliced⟩⟩)

/-- A refusal or a connection error whose text can be built: the loop goes on. -/
def HttpOutcome.Transient (outcome : HttpOutcome) : Prop :=
  ¬ outcome.Succeeds ∧ outcome.Printable

theorem retryLoop_panicked (authorized : applyLlmHeaders lib apiKey = .ok ()) {attempt : Nat}
    (once : attemptOnce lib requireRolloutMeta attempt (outcomes attempt) = .panicked)
    (left : Nat) (lastErr : String) :
    retryLoop lib apiKey requireRolloutMeta outcomes (left + 1) attempt lastErr =
      { requests := attempt + 1, result := none } := by
  rw [retryLoop, authorized]
  simp only [once]

/-- Run lemma, by induction on the attempts that are left: the loop stops at the first outcome that
is not transient, or after the last attempt. -/
theorem retryLoop_spec (authorized : applyLlmHeaders lib apiKey = .ok ())
    (left attempt : Nat) (lastErr : String) :
    let run := retryLoop lib apiKey requireRolloutMeta outcomes left attempt lastErr
    (∃ i, attempt ≤ i ∧ i < attempt + left ∧
      (∀ j, attempt ≤ j → j < i → (outcomes j).Transient) ∧ run.requests = i + 1 ∧
      ((∃ result, run.result = some result ∧ (outcomes i).Succeeds ∧
          ((∃ output, result = .ok output) ↔ (outcomes i).Carries lib requireRolloutMeta)) ∨
        run.result = none ∧ ¬ (outcomes i).Succeeds ∧ ¬ (outcomes i).Printable)) ∨
    ((∀ j, attempt ≤ j → j < attempt + left → (outcomes j).Transient) ∧
      run.requests = attempt + left ∧ ∃ err, run.result = some (.error err)) := by
  induction left generalizing attempt lastErr with
  | zero =>
    refine Or.inr ⟨fun j ge lt => by omega, rfl, _, rfl⟩
  | succ left ih =>
    intro run
    obtain ⟨result, once, success, reads⟩ | ⟨once, refused, unprintable⟩ |
      ⟨message, once, transient⟩ :=
        @attemptOnce_cases lib requireRolloutMeta attempt (outcomes attempt)
    · have ended : run = { requests := attempt + 1, result := some result } := by
        show retryLoop lib apiKey requireRolloutMeta outcomes (left + 1) attempt lastErr = _
        rw [retryLoop, authorized]
        simp only [once]
      rw [ended]
      exact Or.inl ⟨attempt, Nat.le_refl _, by omega, fun j ge lt => by omega, rfl,
        Or.inl ⟨result, rfl, success, reads⟩⟩
    · have ended : run = { requests := attempt + 1, result := none } :=
        retryLoop_panicked authorized once left lastErr
      rw [ended]
      exact Or.inl ⟨attempt, Nat.le_refl _, by omega, fun j ge lt => by omega, rfl,
        Or.inr ⟨rfl, refused, unprintable⟩⟩
    · have again : run =
          retryLoop lib apiKey requireRolloutMeta outcomes left (attempt + 1) message := by
        show retryLoop lib apiKey requireRolloutMeta outcomes (left + 1) attempt lastErr = _
        rw [retryLoop, authorized]
        simp only [once]
      have earlier : ∀ j, attempt ≤ j → ¬ attempt + 1 ≤ j → (outcomes j).Transient := by
        intro j ge lt
        obtain rfl : j = attempt := by omega
        exact transient
      rw [again]
      obtain ⟨i, ge, lt, before, requests, stops⟩ | ⟨all, requests, failed⟩ :=
        ih (attempt + 1) message
      · refine Or.inl ⟨i, by omega, by omega, fun j low high => ?_, requests, stops⟩
        by_cases later : attempt + 1 ≤ j
        · exact before j later high
        · exact earlier j low later
      · refine Or.inr ⟨fun j low high => ?_, by omega, failed⟩
        by_cases later : attempt + 1 ≤ j
        · exact all j later (by omega)
        · exact earlier j low later

/-- The loop is total and exact if and only if the body of every refusal that comes before a success
can be cut after its first 200 bytes. -/
theorem infer_exact_iff (lib : ClientLibrary) (apiKey : String) (requireRolloutMeta : Bool)
    (outcomes : Nat → HttpOutcome) (maxRetries : Nat) :
    InferExact lib apiKey requireRolloutMeta outcomes maxRetries
        (infer lib apiKey requireRolloutMeta outcomes maxRetries) ↔
      ∀ i < budget lib apiKey maxRetries, (∀ j ≤ i, ¬ (outcomes j).Succeeds) →
        (outcomes i).Printable := by
  cases authorized : applyLlmHeaders lib apiKey with
  | error err =>
    have nothing : budget lib apiKey maxRetries = 0 := by rw [budget, authorized]
    have ended : infer lib apiKey requireRolloutMeta outcomes maxRetries =
        { requests := 0, result := some (.error err) } := by
      obtain ⟨left, count⟩ := Nat.exists_eq_succ_of_ne_zero
        (Nat.ne_of_gt (Nat.le_max_right maxRetries 1))
      rw [infer, count, retryLoop, authorized]
    rw [nothing, ended]
    refine iff_of_true ⟨by simp, Nat.zero_le _, fun _ _ => Nat.zero_le _, ?_⟩ (by simp)
    rw [nothing]
    simp
  | ok =>
    have attempts : budget lib apiKey maxRetries = max maxRetries 1 := by rw [budget, authorized]
    obtain ⟨k, _, inside, before, requests, stops⟩ | ⟨all, requests, err, failed⟩ :=
      @retryLoop_spec lib apiKey requireRolloutMeta outcomes authorized (max maxRetries 1) 0 ""
    · rw [Nat.zero_add] at inside
      obtain ⟨result, ended, success, reads⟩ | ⟨ended, refused, unprintable⟩ := stops
      · -- the loop stops at the first success
        have first : ∀ i, (outcomes i).Succeeds → k ≤ i := by
          intro i succeeds
          by_contra earlier
          exact (before i (Nat.zero_le i) (Nat.lt_of_not_le earlier)).1 succeeds
        refine iff_of_true ⟨?_, ?_, fun i succeeds => ?_, ?_⟩ fun i _ refusedUpTo => ?_
        · exact fun panicked => by cases ended.symm.trans panicked
        · exact le_trans (le_of_eq requests) inside
        · exact le_trans (le_of_eq requests) (Nat.succ_le_succ (first i succeeds))
        · rw [attempts]
          constructor
          · rintro ⟨output, returned⟩
            obtain rfl := Option.some.inj (ended.symm.trans returned)
            refine ⟨k, inside, success, fun j lt => ?_, reads.mp ⟨output, rfl⟩⟩
            exact (before j (Nat.zero_le j) lt).1
          · rintro ⟨i, _, succeeds, firstToo, carries⟩
            obtain rfl : i = k := by
              refine le_antisymm ?_ (first i succeeds)
              by_contra later
              exact firstToo k (Nat.lt_of_not_le later) success
            obtain ⟨output, rfl⟩ := reads.mpr carries
            exact ⟨output, ended⟩
        · have earlier : i < k := by
            by_contra later
            exact refusedUpTo k (Nat.le_of_not_lt later) success
          exact (before i (Nat.zero_le i) earlier).2
      · -- the loop panics at a refusal that it cannot cut
        refine iff_of_false (fun exact => exact.total ended) fun printable => unprintable ?_
        refine printable k (attempts ▸ inside) fun j le => ?_
        rcases Nat.lt_or_eq_of_le le with earlier | rfl
        · exact (before j (Nat.zero_le j) earlier).1
        · exact refused
    · -- no attempt succeeds
      rw [Nat.zero_add] at all requests
      refine iff_of_true ⟨?_, le_of_eq requests, fun i succeeds => ?_, ?_⟩ fun i lt _ => ?_
      · exact fun panicked => by cases failed.symm.trans panicked
      · by_contra earlier
        have lt := lt_of_lt_of_eq (Nat.lt_of_succ_lt (Nat.lt_of_not_le earlier)) requests
        exact (all i (Nat.zero_le i) lt).1 succeeds
      · rw [attempts]
        refine iff_of_false ?_ ?_
        · rintro ⟨output, returned⟩
          cases failed.symm.trans returned
        · rintro ⟨i, lt, succeeds, _⟩
          exact (all i (Nat.zero_le i) lt).1 succeeds
      · exact (all i (Nat.zero_le i) (attempts ▸ lt)).2

end Loop

/-- A library whose answers are all refused as JSON. -/
def plainLibrary : ClientLibrary where
  statusText status := toString status
  headerValue _ := .ok ()
  json _ := .error "expected value at line 1 column 1"
  fromStr _ := none

/-- A refusal whose 200th byte is the first of a character of two bytes. -/
def umlautRefusal : HttpOutcome :=
  .answered 500 ∅ (String.ofList (List.replicate 199 'a' ++ ['ü'])) 3

theorem infer_panics_inside_character :
    ¬ ∀ (lib : ClientLibrary) (apiKey : String) (requireRolloutMeta : Bool)
      (outcomes : Nat → HttpOutcome) (maxRetries : Nat),
      InferExact lib apiKey requireRolloutMeta outcomes maxRetries
        (infer lib apiKey requireRolloutMeta outcomes maxRetries) := by
  intro all
  have cut : ∀ body, body = List.replicate 199 'a' ++ ['ü'] →
      sliceTo (min (byteLength body) 200) body = none := by
    rintro _ rfl
    decide +kernel
  have panics : attemptOnce plainLibrary false 0 umlautRefusal = .panicked := by
    unfold attemptOnce umlautRefusal
    simp only [cut _ String.toList_ofList]
    rfl
  have exact := all plainLibrary "" false (fun _ => umlautRefusal) 1
  have sent : applyLlmHeaders plainLibrary "" = .ok () := rfl
  have run :=
    @retryLoop_panicked plainLibrary "" false (fun _ => umlautRefusal) sent 0 panics 0 ""
  exact exact.total (congrArg InferRun.result run)

end UEnv.Worker
