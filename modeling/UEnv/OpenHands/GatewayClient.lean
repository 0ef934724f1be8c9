import UEnv.Lib.Text
import UEnv.Service.Request
import UEnv.Worker.Gateway

/-!
# The client of the runtime gateway

`UEnvGatewayClient` of `client.py` over the gateway of the worker. One loop sends every request
again after a transient error; a request that was given up may still be on its way, and the worker
cannot tell it from the one that replaces it.
-/

namespace UEnv.Worker

def BenchmarkVariant.parse (value : String) : Option BenchmarkVariant :=
  match (Service.trim value).map Char.toLower with
  | "verified" | "swe-bench_verified" | "swe-bench-verified" => some .verified
  | "lite" | "swe-bench_lite" | "swe-bench-lite" => some .lite
  | "pro" | "swe-bench_pro" | "swe-bench-pro" => some .pro
  | "smith" | "swe-smith" | "swe_smith" | "swe-bench-smith" | "swe_bench_smith" | "swesmith" =>
    some .smith
  | _ => none

inductive CommandPolicy
  | restrictedShell
  | fullShell
  deriving DecidableEq

/-- `parse` (command_policy.rs, 33-44). -/
def CommandPolicy.parse (value : String) : Option CommandPolicy :=
  let letters := ((Service.trim value).map Char.toLower).toList.filter fun c => c ≠ '_' && c ≠ '-'
  match String.ofList letters with
  | "restrictedshell" | "restricted" => some .restrictedShell
  | "fullshell" | "full" => some .fullShell
  | _ => none

end UEnv.Worker

namespace UEnv.OpenHands

open Tables Text Runs Worker

/-! ### The gateway -/

/-- client.py, 46-54. -/
structure ExecResult where
  stdout : String
  stderr : String
  exitCode : Int
  truncated : Bool := false
  deriving DecidableEq

/-- A request of the client. -/
inductive Request
  | createSession (instanceId benchmarkVariant commandMode : String)
  | exec (sessionId command : String)
  | write (sessionId path content : String)
  | submit (sessionId : String)
  | submitStatus (sessionId : String)
  | destroy (sessionId : String)

/-- An answer of the gateway: an error status, or what the client reads of the body. -/
inductive Reply
  | error (status : Nat) (message : String)
  | created (sessionId : String)
  | ran (result : ExecResult)
  | ok
  | submitted (status : String) (result error : Option String)
  | released (removed : Bool)
  deriving DecidableEq

/-- What a request did at the worker. -/
inductive Effect
  | created (sessionId : String)
  | ran (sessionId command : String) (reply : Reply)
  | wrote
  | graded
  | removed
  deriving DecidableEq

/-- What the worker finds when it carries out a request: the session of a container or why there is
none, the end of a command or the status of its error, and the error of a write. -/
structure Findings where
  provision : Except String Nat
  exec : Except (Nat × String) ExecResult
  write : Option String

/-- `GatewayState`, and the files that were written by session and path. -/
structure GatewayState where
  pool : SweInstancePool
  submissions : Map String SubmitState := ∅
  files : String × String → Option String := fun _ => none

/-- The end of a request. -/
structure Handled where
  state : GatewayState
  reply : Reply
  effect : Option Effect := none

/-- `session_error` (runtime_gateway/mod.rs, 764-772). -/
def sessionError (message : String) : Reply :=
  .error (if has "not found".toList message.toList then 404 else 500) message

/-- The error of `create_session`. -/
def createError (message : String) : Reply :=
  .error (if has "not in catalog".toList message.toList then 404
    else if has "at capacity".toList message.toList then 429 else 500) message

/-- `submit_state_response` (runtime_gateway/mod.rs, 594-627). -/
def submitStateResponse : SubmitState → Reply
  | .running => .submitted "running" none none
  | .completed result => .submitted "completed" (some result) none
  | .failed error => .submitted "failed" none (some error)

namespace GatewayState

variable (state : GatewayState)

/-- `create_session` (runtime_gateway/mod.rs, 257-318). -/
def createSession (instanceId benchmarkVariant commandMode : String)
    (provision : Except String Nat) : Handled :=
  match BenchmarkVariant.parse benchmarkVariant, CommandPolicy.parse commandMode with
  | none, _ => ⟨state, .error 400 s!"invalid benchmark_variant `{benchmarkVariant}`", none⟩
  | some _, none => ⟨state, .error 400 s!"invalid command_mode `{commandMode}`", none⟩
  | some variant, some _ =>
    match state.pool.reserve instanceId variant with
    | .error message => ⟨state, createError message, none⟩
    | .ok pool =>
      let sessionId := pool.sessionId instanceId
      let pool := { pool with seq := pool.seq + 1 }
      match provision with
      | .error message => ⟨{ state with pool := pool.release }, createError message, none⟩
      | .ok session =>
        let registered := { pool with sessions := pool.sessions.insert sessionId session }
        ⟨{ state with pool := registered.release }, .created sessionId, some (.created sessionId)⟩

/-- The reply of `exec` to a command that was started; after the timeout it runs on. -/
def execReply : Except (Nat × String) ExecResult → Reply
  | .ok result => .ran result
  | .error (status, message) => .error status message

/-- `exec` (runtime_gateway/mod.rs, 458-484). -/
def exec (sessionId command : String) (found : Except (Nat × String) ExecResult) : Handled :=
  match state.pool.get sessionId with
  | .error message => ⟨state, sessionError message, none⟩
  | .ok _ => ⟨state, execReply found, some (.ran sessionId command (execReply found))⟩

/-- `write` (runtime_gateway/mod.rs, 522-533). -/
def write (sessionId path content : String) (failure : Option String) : Handled :=
  match state.pool.get sessionId, failure with
  | .error message, _ => ⟨state, sessionError message, none⟩
  | .ok _, some message => ⟨state, sessionError message, none⟩
  | .ok _, none =>
    let files key := if key = (sessionId, path) then some content else state.files key
    ⟨{ state with files }, .ok, some .wrote⟩

/-- `submit` (runtime_gateway/mod.rs, 629-676). -/
def submit (sessionId : String) : Handled :=
  match state.submissions[sessionId]? with
  | some known => ⟨state, submitStateResponse known, none⟩
  | none =>
    ⟨{ state with submissions := state.submissions.insert sessionId .running },
      submitStateResponse .running, some .graded⟩

/-- `submit_status` (runtime_gateway/mod.rs, 678-690). -/
def submitStatus (sessionId : String) : Handled :=
  match state.submissions[sessionId]? with
  | some known => ⟨state, submitStateResponse known, none⟩
  | none => ⟨state, .error 404 "submit has not been started for this session", none⟩

/-- `destroy` (runtime_gateway/mod.rs, 741-752). -/
def destroy (sessionId : String) : Handled where
  state := { state with
    submissions := state.submissions.erase sessionId
    pool := { state.pool with sessions := state.pool.sessions.erase sessionId } }
  reply := .released (decide (sessionId ∈ state.pool.sessions))
  effect := if sessionId ∈ state.pool.sessions then some .removed else none

def handle (found : Findings) : Request → Handled
  | .createSession instanceId benchmarkVariant commandMode =>
    state.createSession instanceId benchmarkVariant commandMode found.provision
  | .exec sessionId command => state.exec sessionId command found.exec
  | .write sessionId path content => state.write sessionId path content found.write
  | .submit sessionId => state.submit sessionId
  | .submitStatus sessionId => state.submitStatus sessionId
  | .destroy sessionId => state.destroy sessionId

/-- The background task of `submit` ends, or its time is over and it terminates the session. -/
def settle (sessionId : String) (answer : Option SubmitAnswer) (timeoutSecs : Nat) :
    GatewayState :=
  match answer with
  | some answer =>
    { state with submissions := state.submissions.insert sessionId answer.state }
  | none => { state with
      pool := { state.pool with sessions := state.pool.sessions.erase sessionId }
      submissions := state.submissions.insert sessionId
        (.failed s!"gateway submit timeout after {timeoutSecs}s") }

end GatewayState

/-! ### A call -/

/-- `_TRANSIENT_RETRY_BACKOFF`, in seconds. -/
def transientRetryBackoff : List Nat := [2, 5, 10]

/-- The operations of the client that do something at the worker. -/
inductive Operation
  | createSession (instanceId benchmarkVariant commandMode : String)
  | exec (sessionId command : String)
  | write (sessionId path content : String)
  | submit (sessionId : String)
  | destroy (sessionId : String)
  deriving DecidableEq

/-- The first request of an operation. -/
def Operation.request : Operation → Request
  | createSession instanceId variant mode => .createSession instanceId variant mode
  | exec sessionId command => .exec sessionId command
  | write sessionId path content => .write sessionId path content
  | submit sessionId => .submit sessionId
  | destroy sessionId => .destroy sessionId

/-- The request that `submit` repeats while the evaluation runs. -/
def Operation.poll : Operation → Option Request
  | submit sessionId => some (.submitStatus sessionId)
  | _ => none

/-- How a call ends: the value it returns, or what it raises. -/
inductive Outcome
  | session (sessionId : String)
  | ran (result : ExecResult)
  | wrote (ok : Bool)
  | graded (result : String)
  | destroyed (released : Bool)
  | gatewayError (status : Nat) (message : String)
  -- the transient error of the last attempt
  | transientError
  | timeoutError
  -- an error that is not tried again
  | otherError
  deriving DecidableEq

/-- What the client makes of an answer; `none` is the next round of the loop of `submit`, whose
deadline may be over. -/
def Reply.received (overdue : Bool) : Reply → Option Outcome
  | error status message => some (.gatewayError status message)
  | created sessionId => some (.session sessionId)
  | ran result => some (.ran result)
  | ok => some (.wrote true)
  | released removed => some (.destroyed removed)
  | submitted status result failure =>
    if status = "completed" then some (.graded (result.getD "\x7b\x7d"))
    else if status = "failed" then
      some (.gatewayError 500 ((failure.filter (· ≠ "")).getD "gateway submit failed"))
    else if status ≠ "running" then
      some (.gatewayError 500 s!"invalid gateway submit status: '{status}'")
    else if overdue then some .timeoutError
    else none

/-- One call of the client with the worker, the requests on their way by their number, the answer to
the last one, and what the requests have done, the latest first. -/
structure World where
  operation : Operation
  state : GatewayState
  request : Request
  attempt : Nat := 0
  sent : Nat := 0
  flying : Map Nat Request := ∅
  reply : Option Reply := none
  outcome : Option Outcome := none
  log : List Effect := []

inductive Label
  -- the worker carries out a request
  | handle (number : Nat) (found : Findings)
  -- the answer to the last request arrives
  | receive (overdue : Bool)
  -- an error status from the way arrives
  | refuse (status : Nat) (message : String)
  -- a transient error, or another one
  | fail
  | abort
  -- the evaluation of a submission ends
  | settle (answer : Option SubmitAnswer) (timeoutSecs : Nat)

namespace World

variable (world : World)

def send (request : Request) (attempt : Nat) : World := { world with
  request, attempt
  sent := world.sent + 1
  flying := world.flying.insert (world.sent + 1) request
  reply := none }

def finish (outcome : Outcome) : World := { world with outcome := some outcome }

/-- A request that the worker has carried out. -/
def after (number : Nat) (handled : Handled) : World := { world with
  state := handled.state
  flying := world.flying.erase number
  reply := if number = world.sent then some handled.reply else world.reply
  log := handled.effect.toList ++ world.log }

def step : Label → Option World
  | .handle number found => (world.flying[number]?).map fun request =>
    world.after number (world.state.handle found request)
  | .receive overdue =>
    if world.outcome.isSome then none
    else world.reply.bind fun reply =>
      match reply.received overdue with
      | some outcome => some (world.finish outcome)
      | none => world.operation.poll.map fun request => world.send request 0
  | .refuse status message =>
    if world.outcome.isSome then none else some (world.finish (.gatewayError status message))
  | .fail =>
    if world.outcome.isSome then none
    else if transientRetryBackoff.length ≤ world.attempt then some (world.finish .transientError)
    else some (world.send world.request (world.attempt + 1))
  | .abort => if world.outcome.isSome then none else some (world.finish .otherError)
  | .settle answer timeoutSecs =>
    match world.operation with
    | .submit sessionId =>
      if world.state.submissions[sessionId]? = some .running then
        some { world with state := world.state.settle sessionId answer timeoutSecs }
      else none
    | _ => none

/-- A call that has just sent its first request. -/
def start (operation : Operation) (state : GatewayState) : World where
  operation := operation
  state := state
  request := operation.request
  flying := (∅ : Map Nat Request).insert 0 operation.request

end World

def system : System World Label where
  init world := ∃ operation state, world = .start operation state
  step := World.step

/-! ### Once -/

/-- The sessions that the requests have created. -/
def createdIds (log : List Effect) : List String :=
  log.filterMap fun effect =>
    match effect with
    | .created sessionId => some sessionId
    | _ => none

/-- The ends of the commands that the requests have run. -/
def runs (log : List Effect) : List Reply :=
  log.filterMap fun effect =>
    match effect with
    | .ran _ _ reply => some reply
    | _ => none

namespace World

variable (world : World)

/-- The sessions of the call that are alive. -/
def live : List String :=
  (createdIds world.log).filter fun sessionId => sessionId ∈ world.state.pool.sessions

structure CreatesOnce : Prop where
  one : world.live.length ≤ 1
  known : world.outcome = some .transientError → world.live = []
  value : ∀ sessionId, world.outcome = some (.session sessionId) → world.live = [sessionId]

structure RunsOnce : Prop where
  one : (runs world.log).length ≤ 1
  value : ∀ result, world.outcome = some (.ran result) → runs world.log = [.ran result]

structure WritesOnce (sessionId path content : String) : Prop where
  file : .wrote ∈ world.log → world.state.files (sessionId, path) = some content
  value : ∀ ok, world.outcome = some (.wrote ok) → ok = true ∧ .wrote ∈ world.log

structure GradesOnce (sessionId : String) : Prop where
  one : world.log.count .graded ≤ 1
  value : ∀ result, world.outcome = some (.graded result) →
    world.state.submissions[sessionId]? = some (.completed result)

structure DestroysOnce : Prop where
  value : ∀ released, world.outcome = some (.destroyed released) →
    (released = true ↔ .removed ∈ world.log)

/-- The call has no effect twice, and what it has returned is the value of its execution. -/
def Once : Prop :=
  match world.operation with
  | .createSession _ _ _ => world.CreatesOnce
  | .exec _ _ => world.RunsOnce
  | .write sessionId path content => world.WritesOnce sessionId path content
  | .submit sessionId => world.GradesOnce sessionId
  | .destroy _ => world.DestroysOnce

/-- A request may create a session when no other has and the call was not given up, and run the
command when no other has. -/
def Admits : Effect → Prop
  | .created _ => createdIds world.log = [] ∧ world.outcome ≠ some .transientError
  | .ran _ _ _ => runs world.log = []
  | .wrote | .graded | .removed => True

end World

/-- No request is carried out on top of one that was; a destruction that found no session is
answered only when none was removed; and no creation is given up after a request made a session. -/
def Meets (world : World) : Label → Prop
  | .handle number found => ∀ request ∈ world.flying[number]?,
    ∀ effect ∈ (world.state.handle found request).effect, world.Admits effect
  | .receive _ => world.outcome = none → world.reply = some (.released false) →
    .removed ∉ world.log
  | .fail => world.outcome = none → transientRetryBackoff.length ≤ world.attempt →
    createdIds world.log = []
  | _ => True

/-! ### What holds in every run -/

/-- The effects of an operation. -/
@[simp]
def Operation.makes : Operation → Effect → Bool
  | createSession _ _ _, .created _ | exec _ _, .ran _ _ _ | write _ _ _, .wrote
  | submit _, .graded | destroy _, .removed => true
  | _, _ => false

/-- The requests of an operation. -/
def Operation.Sends (operation : Operation) (request : Request) : Prop :=
  request = operation.request ∨ operation.poll = some request

/-- What the end of a call says of the worker. -/
def Backed (operation : Operation) (state : GatewayState) (log : List Effect) : Outcome → Prop
  | .session sessionId => sessionId ∈ createdIds log
  | .ran result => .ran result ∈ runs log
  | .wrote ok => ok = true ∧ .wrote ∈ log
  | .graded result => ∀ sessionId, operation = .submit sessionId →
    state.submissions[sessionId]? = some (.completed result)
  | .destroyed released => (released = true → .removed ∈ log) ∧
    ∀ sessionId, operation = .destroy sessionId → sessionId ∉ state.pool.sessions
  | _ => True

/-- What the effects of a call say of the worker. -/
structure Kept (operation : Operation) (state : GatewayState) (log : List Effect) : Prop where
  made : ∀ effect ∈ log, operation.makes effect = true
  live : ∀ sessionId ∈ createdIds log, sessionId ∈ state.pool.sessions
  file : ∀ sessionId path content, operation = .write sessionId path content → .wrote ∈ log →
    state.files (sessionId, path) = some content
  graded : log.count .graded ≤ 1
  entered : ∀ sessionId, operation = .submit sessionId → .graded ∈ log →
    sessionId ∈ state.submissions
  gone : ∀ sessionId, operation = .destroy sessionId → .removed ∈ log →
    sessionId ∉ state.pool.sessions

/-- A request is carried out as one of the operation. -/
structure Serves (operation : Operation) (state : GatewayState) (log : List Effect)
    (handled : Handled) : Prop where
  kept : Kept operation state log →
    Kept operation handled.state (handled.effect.toList ++ log)
  grows : ∀ outcome, Backed operation state log outcome →
    Backed operation handled.state (handled.effect.toList ++ log) outcome
  backed : ∀ overdue outcome, handled.reply.received overdue = some outcome →
    Backed operation handled.state (handled.effect.toList ++ log) outcome

section Serving

variable {operation : Operation} {state after : GatewayState} {log : List Effect}

theorem createdIds_append (first second : List Effect) :
    createdIds (first ++ second) = createdIds first ++ createdIds second := List.filterMap_append

theorem runs_append (first second : List Effect) :
    runs (first ++ second) = runs first ++ runs second := List.filterMap_append

theorem createdIds_eq_nil (other : ∀ sessionId, operation.makes (.created sessionId) = false)
    (made : ∀ effect ∈ log, operation.makes effect = true) : createdIds log = [] := by
  refine List.filterMap_eq_nil_iff.mpr fun effect member => ?_
  cases effect with
  | created =>
    have made := made _ member
    rw [other] at made
    cases made
  | _ => rfl

theorem runs_eq_nil
    (other : ∀ sessionId command reply, operation.makes (.ran sessionId command reply) = false)
    (made : ∀ effect ∈ log, operation.makes effect = true) : runs log = [] := by
  refine List.filterMap_eq_nil_iff.mpr fun effect member => ?_
  cases effect with
  | ran =>
    have made := made _ member
    rw [other] at made
    cases made
  | _ => rfl

/-- An end stays backed when the log grows, no completed evaluation changes and no session that is
gone comes back. -/
theorem Backed.grow {outcome : Outcome} (backed : Backed operation state log outcome)
    (effects : List Effect)
    (completed : ∀ sessionId result, operation = .submit sessionId →
      state.submissions[sessionId]? = some (.completed result) →
      after.submissions[sessionId]? = some (.completed result))
    (gone : ∀ sessionId, operation = .destroy sessionId → sessionId ∉ state.pool.sessions →
      sessionId ∉ after.pool.sessions) :
    Backed operation after (effects ++ log) outcome := by
  cases outcome with
  | session =>
    simp only [Backed, createdIds_append, List.mem_append]
    exact .inr backed
  | ran =>
    simp only [Backed, runs_append, List.mem_append]
    exact .inr backed
  | wrote ok => exact ⟨backed.1, List.mem_append_right _ backed.2⟩
  | graded => exact fun sessionId same => completed _ _ same (backed _ same)
  | destroyed =>
    exact ⟨fun removed => List.mem_append_right _ (backed.1 removed),
      fun sessionId same => gone _ same (backed.2 _ same)⟩
  | _ => trivial

theorem Serves.error (status : Nat) (message : String) :
    Serves operation state log ⟨state, .error status message, none⟩ where
  kept kept := kept
  grows _ backed := backed
  backed overdue outcome received := by
    cases received
    trivial

theorem Serves.known (known : SubmitState) (sessionId : String)
    (submitted : operation = .submit sessionId)
    (entry : state.submissions[sessionId]? = some known) :
    Serves operation state log ⟨state, submitStateResponse known, none⟩ where
  kept kept := kept
  grows _ backed := backed
  backed overdue outcome received := by
    cases known with
    | running =>
      cases overdue with
      | false => simp [submitStateResponse, Reply.received] at received
      | true =>
        simp only [submitStateResponse, Reply.received] at received
        cases received
        trivial
    | completed =>
      cases received
      intro other same
      obtain rfl : sessionId = other := by simpa [submitted] using same
      exact entry
    | failed =>
      cases received
      trivial

theorem serves_createSession (instanceId variant mode : String) (provision : Except String Nat) :
    Serves (.createSession instanceId variant mode) state log
      (state.createSession instanceId variant mode provision) := by
  unfold GatewayState.createSession
  split
  · exact .error _ _
  · exact .error _ _
  split
  · exact .error _ _
  rename_i pool reserved
  obtain ⟨-, rfl⟩ := SweInstancePool.reserve_ok reserved
  split
  · exact {
      kept := fun kept => ⟨kept.made, kept.live, kept.file, kept.graded, kept.entered, kept.gone⟩
      grows := fun outcome backed =>
        backed.grow [] (fun _ _ _ entry => entry) (fun _ _ gone => gone)
      backed := by
        intro overdue outcome received
        cases received
        trivial }
  · rename_i session
    exact {
      kept := by
        intro kept
        refine ⟨List.forall_mem_cons.mpr ⟨rfl, kept.made⟩, ?_, by simp, ?_, by simp, by simp⟩
        · intro sessionId created
          refine Std.ExtTreeMap.mem_insert.mpr ?_
          rcases List.mem_cons.mp created with rfl | old
          · exact .inl Std.ReflCmp.compare_self
          · exact .inr (kept.live _ old)
        · simpa using kept.graded
      grows := fun outcome backed => backed.grow _ (by simp) (by simp)
      backed := by
        intro overdue outcome received
        cases received
        exact List.mem_cons_self }

theorem serves_exec (sessionId command : String) (found : Except (Nat × String) ExecResult) :
    Serves (.exec sessionId command) state log (state.exec sessionId command found) := by
  unfold GatewayState.exec
  split
  · exact .error _ _
  exact {
    kept := by
      intro kept
      exact ⟨List.forall_mem_cons.mpr ⟨rfl, kept.made⟩, kept.live, by simp,
        by simpa using kept.graded, by simp, by simp⟩
    grows := fun outcome backed => backed.grow _ (by simp) (by simp)
    backed := by
      intro overdue outcome received
      cases found with
      | ok =>
        cases received
        exact List.mem_cons_self
      | error =>
        cases received
        trivial }

theorem serves_write (sessionId path content : String) (failure : Option String) :
    Serves (.write sessionId path content) state log
      (state.write sessionId path content failure) := by
  unfold GatewayState.write
  split
  · exact .error _ _
  · exact .error _ _
  exact {
    kept := by
      intro kept
      refine ⟨List.forall_mem_cons.mpr ⟨rfl, kept.made⟩, kept.live, ?_, by simpa using kept.graded,
        by simp, by simp⟩
      intro otherId otherPath otherContent same _
      cases same
      simp
    grows := fun outcome backed => backed.grow _ (by simp) (by simp)
    backed := by
      intro overdue outcome received
      cases received
      exact ⟨rfl, List.mem_cons_self⟩ }

theorem serves_submit (sessionId : String) :
    Serves (.submit sessionId) state log (state.submit sessionId) := by
  unfold GatewayState.submit
  split
  · rename_i known entry
    exact .known known sessionId rfl entry
  rename_i entry
  exact {
    kept := by
      intro kept
      have fresh : .graded ∉ log := by
        intro graded
        have entered := kept.entered sessionId rfl graded
        simp [mem_iff_lookup, entry] at entered
      refine ⟨List.forall_mem_cons.mpr ⟨rfl, kept.made⟩, kept.live, by simp, ?_, ?_, by simp⟩
      · simp [List.count_eq_zero.mpr fresh]
      · intro otherId same _
        cases same
        simp
    grows := by
      refine fun outcome backed => backed.grow _ ?_ (by simp)
      intro otherId result same completed
      cases same
      simp [entry] at completed
    backed := by
      intro overdue outcome received
      cases overdue with
      | false => simp [submitStateResponse, Reply.received] at received
      | true =>
        simp only [submitStateResponse, Reply.received] at received
        cases received
        trivial }

theorem serves_submitStatus (sessionId : String) :
    Serves (.submit sessionId) state log (state.submitStatus sessionId) := by
  unfold GatewayState.submitStatus
  split
  · rename_i known entry
    exact .known known sessionId rfl entry
  · exact .error _ _

theorem serves_destroy (sessionId : String) :
    Serves (.destroy sessionId) state log (state.destroy sessionId) := by
  have absent : sessionId ∉ state.pool.sessions.erase sessionId := by
    simp [mem_iff_lookup]
  have stays : ∀ otherId, otherId ∉ state.pool.sessions →
      otherId ∉ state.pool.sessions.erase sessionId :=
    fun otherId gone present => gone (Std.ExtTreeMap.mem_of_mem_erase present)
  exact {
    kept := by
      intro kept
      have made : ∀ effect ∈ (state.destroy sessionId).effect.toList ++ log,
          Operation.makes (.destroy sessionId) effect = true := by
        intro effect member
        rcases List.mem_append.mp member with new | old
        · simp only [GatewayState.destroy] at new
          split at new
          · rw [List.mem_singleton.mp new]
            rfl
          · cases new
        · exact kept.made effect old
      refine ⟨made, ?_, by simp, ?_, by simp, ?_⟩
      · simp [createdIds_eq_nil (fun _ => rfl) made]
      · have ungraded := List.count_eq_zero.mpr fun graded =>
          Bool.false_ne_true (made .graded graded)
        exact ungraded.le.trans (Nat.zero_le 1)
      · intro otherId same _
        cases same
        exact absent
    grows := fun outcome backed => backed.grow _ (by simp) (fun otherId _ => stays otherId)
    backed := by
      intro overdue outcome received
      cases received
      refine ⟨fun released => ?_, fun otherId same => ?_⟩
      · have present := of_decide_eq_true released
        simp [GatewayState.destroy, present]
      · cases same
        exact absent }

theorem serves_handle (found : Findings) {request : Request} (sends : operation.Sends request) :
    Serves operation state log (state.handle found request) := by
  cases operation with
  | createSession instanceId variant mode =>
    obtain rfl | poll := sends
    · exact serves_createSession instanceId variant mode found.provision
    · cases poll
  | exec sessionId command =>
    obtain rfl | poll := sends
    · exact serves_exec sessionId command found.exec
    · cases poll
  | write sessionId path content =>
    obtain rfl | poll := sends
    · exact serves_write sessionId path content found.write
    · cases poll
  | submit sessionId =>
    obtain rfl | poll := sends
    · exact serves_submit sessionId
    · cases poll
      exact serves_submitStatus sessionId
  | destroy sessionId =>
    obtain rfl | poll := sends
    · exact serves_destroy sessionId
    · cases poll

end Serving

/-- What holds in every run of a call. -/
structure Consistent (world : World) : Prop where
  sends : world.operation.Sends world.request
  flying : ∀ (number : Nat) (request : Request), world.flying[number]? = some request →
    world.operation.Sends request
  kept : Kept world.operation world.state world.log
  reply : ∀ overdue outcome, world.reply.bind (Reply.received overdue) = some outcome →
    Backed world.operation world.state world.log outcome
  outcome : ∀ outcome, world.outcome = some outcome →
    Backed world.operation world.state world.log outcome

/-- Nothing was done twice, and what was done is known. -/
structure Single (world : World) : Prop where
  created : (createdIds world.log).length ≤ 1
  ran : (runs world.log).length ≤ 1
  known : world.outcome = some .transientError → createdIds world.log = []
  removed : world.outcome = some (.destroyed false) → .removed ∉ world.log

attribute [local simp] World.start

section Steps

variable {world after : World}

theorem Consistent.start (operation : Operation) (state : GatewayState) :
    Consistent (.start operation state) where
  sends := .inl rfl
  flying number request flying := by
    simp only [World.start, lookup_insert] at flying
    split at flying
    · exact .inl (Option.some.inj flying).symm
    · simp at flying
  kept := ⟨by simp, by simp [createdIds], by simp, by simp, by simp, by simp⟩
  reply overdue outcome received := by simp at received
  outcome outcome ended := by simp at ended

section

variable (holds : Consistent world)
include holds

theorem Consistent.send {request : Request} (sends : world.operation.Sends request)
    (attempt : Nat) :
    Consistent (world.send request attempt) where
  sends := sends
  flying number other flying := by
    rcases lookup_insert_cases flying with ⟨-, rfl⟩ | old
    · exact sends
    · exact holds.flying number other old
  kept := holds.kept
  reply overdue outcome received := by simp [World.send] at received
  outcome := holds.outcome

theorem Consistent.finish {outcome : Outcome}
    (backed : Backed world.operation world.state world.log outcome) :
    Consistent (world.finish outcome) where
  sends := holds.sends
  flying := holds.flying
  kept := holds.kept
  reply := holds.reply
  outcome other ended := by
    cases ended
    exact backed

theorem Consistent.handle {number : Nat} {request : Request} (found : Findings)
    (flying : world.flying[number]? = some request) :
    Consistent (world.after number (world.state.handle found request)) := by
  have serves : Serves world.operation world.state world.log (world.state.handle found request) :=
    serves_handle found (holds.flying number request flying)
  exact {
    sends := holds.sends
    flying := fun other request flying => holds.flying other request (lookup_of_erase flying)
    kept := serves.kept holds.kept
    reply := by
      intro overdue outcome received
      simp only [World.after] at received
      split at received
      · exact serves.backed overdue outcome received
      · exact serves.grows outcome (holds.reply overdue outcome received)
    outcome := fun outcome ended => serves.grows outcome (holds.outcome outcome ended) }

theorem Consistent.settle {sessionId : String} (submitted : world.operation = .submit sessionId)
    (running : world.state.submissions[sessionId]? = some .running) (answer : Option SubmitAnswer)
    (timeoutSecs : Nat) :
    Consistent { world with state := world.state.settle sessionId answer timeoutSecs } := by
  have grows : ∀ outcome, Backed world.operation world.state world.log outcome →
      Backed world.operation (world.state.settle sessionId answer timeoutSecs) world.log
        outcome := by
    intro outcome backed
    refine backed.grow [] ?_ (by simp [submitted])
    intro otherId result same completed
    obtain rfl : sessionId = otherId := by simpa [submitted] using same
    simp [running] at completed
  have none : createdIds world.log = [] :=
    createdIds_eq_nil (by simp [submitted]) holds.kept.made
  exact {
    sends := holds.sends
    flying := holds.flying
    kept := by
      refine ⟨holds.kept.made, by simp [none], by simp [submitted], holds.kept.graded, ?_,
        by simp [submitted]⟩
      intro otherId same graded
      obtain rfl : sessionId = otherId := by simpa [submitted] using same
      cases answer <;> simp [GatewayState.settle]
    reply := fun overdue outcome received => grows outcome (holds.reply overdue outcome received)
    outcome := fun outcome ended => grows outcome (holds.outcome outcome ended) }

theorem Consistent.step {label : Label} (taken : world.step label = some after) :
    Consistent after := by
  cases label with
  | handle number found =>
    obtain ⟨request, flying, rfl⟩ := Option.map_eq_some_iff.mp taken
    exact holds.handle found flying
  | receive overdue =>
    simp only [World.step] at taken
    split at taken
    · cases taken
    obtain ⟨reply, arrived, taken⟩ := Option.bind_eq_some_iff.mp taken
    split at taken
    · rename_i outcome received
      cases taken
      exact holds.finish (holds.reply overdue outcome (by simp [arrived, received]))
    · obtain ⟨request, poll, rfl⟩ := Option.map_eq_some_iff.mp taken
      exact holds.send (.inr poll) 0
  | refuse =>
    simp only [World.step] at taken
    split at taken
    · cases taken
    · cases taken
      exact holds.finish trivial
  | fail =>
    simp only [World.step] at taken
    split at taken
    · cases taken
    split at taken
    · cases taken
      exact holds.finish trivial
    · cases taken
      exact holds.send holds.sends _
  | abort =>
    simp only [World.step] at taken
    split at taken
    · cases taken
    · cases taken
      exact holds.finish trivial
  | settle answer timeoutSecs =>
    simp only [World.step] at taken
    split at taken
    · rename_i sessionId submitted
      split at taken
      · rename_i running
        cases taken
        exact holds.settle submitted running answer timeoutSecs
      · cases taken
    · cases taken

end

theorem Kept.absent {operation : Operation} {state : GatewayState} {log : List Effect}
    (kept : Kept operation state log) {effect : Effect} (other : operation.makes effect = false) :
    effect ∉ log := by
  intro member
  have made := kept.made effect member
  rw [other] at made
  cases made

section

variable (holds : Consistent world)
include holds

theorem Consistent.live_eq : world.live = createdIds world.log :=
  List.filter_eq_self.mpr (by simpa using holds.kept.live)

/-- In every operation, the property asks for what is single, the rest being so anyway. -/
theorem Consistent.once_iff : world.Once ↔ Single world := by
  have made := holds.kept.made
  have value := holds.outcome
  cases operation : world.operation with
  | createSession =>
    rw [operation] at made value
    have none : runs world.log = [] := runs_eq_nil (by simp) made
    have unremoved : .removed ∉ world.log :=
      holds.kept.absent (by simp [operation])
    simp only [World.Once, operation]
    constructor
    · rintro ⟨one, known, -⟩
      rw [holds.live_eq] at one known
      exact ⟨one, by simp [none], known, fun _ => unremoved⟩
    · rintro ⟨one, -, known, -⟩
      rw [← holds.live_eq] at one known
      refine ⟨one, known, fun sessionId ended => ?_⟩
      have created : sessionId ∈ createdIds world.log := value _ ended
      rw [← holds.live_eq] at created
      obtain ⟨only, same⟩ := List.length_eq_one_iff.mp
        (Nat.le_antisymm one (List.length_pos_of_mem created))
      rw [same, List.mem_singleton] at created
      rw [same, created]
  | exec =>
    rw [operation] at made value
    have none : createdIds world.log = [] := createdIds_eq_nil (by simp) made
    have unremoved : .removed ∉ world.log :=
      holds.kept.absent (by simp [operation])
    simp only [World.Once, operation]
    constructor
    · rintro ⟨one, -⟩
      exact ⟨by simp [none], one, fun _ => none, fun _ => unremoved⟩
    · rintro ⟨-, one, -, -⟩
      refine ⟨one, fun result ended => ?_⟩
      have ran : .ran result ∈ runs world.log := value _ ended
      obtain ⟨only, same⟩ := List.length_eq_one_iff.mp
        (Nat.le_antisymm one (List.length_pos_of_mem ran))
      rw [same, List.mem_singleton] at ran
      rw [same, ran]
  | write =>
    rw [operation] at made value
    have none : createdIds world.log = [] := createdIds_eq_nil (by simp) made
    have idle : runs world.log = [] := runs_eq_nil (by simp) made
    have unremoved : .removed ∉ world.log :=
      holds.kept.absent (by simp [operation])
    simp only [World.Once, operation]
    constructor
    · intro once
      exact ⟨by simp [none], by simp [idle], fun _ => none, fun _ => unremoved⟩
    · intro single
      exact ⟨holds.kept.file _ _ _ operation, fun ok ended => value _ ended⟩
  | submit sessionId =>
    rw [operation] at made value
    have none : createdIds world.log = [] := createdIds_eq_nil (by simp) made
    have idle : runs world.log = [] := runs_eq_nil (by simp) made
    have unremoved : .removed ∉ world.log :=
      holds.kept.absent (by simp [operation])
    simp only [World.Once, operation]
    constructor
    · intro once
      exact ⟨by simp [none], by simp [idle], fun _ => none, fun _ => unremoved⟩
    · intro single
      exact ⟨holds.kept.graded, fun result ended => value _ ended sessionId rfl⟩
  | destroy =>
    rw [operation] at made value
    have none : createdIds world.log = [] := createdIds_eq_nil (by simp) made
    have idle : runs world.log = [] := runs_eq_nil (by simp) made
    simp only [World.Once, operation]
    constructor
    · rintro ⟨value⟩
      exact ⟨by simp [none], by simp [idle], fun _ => none,
        fun ended => by simpa using value _ ended⟩
    · rintro ⟨-, -, -, removed⟩
      refine ⟨fun released ended => ?_⟩
      have backed := (value _ ended).1
      cases released with
      | true => simpa using backed
      | false => simpa using removed ended

theorem Consistent.removed_of_handle {number : Nat} {request : Request}
    (flying : world.flying[number]? = some request) (found : Findings)
    (removed : (world.state.handle found request).effect = some .removed) :
    ∃ sessionId, world.operation = .destroy sessionId ∧ sessionId ∈ world.state.pool.sessions := by
  have sends := holds.flying number request flying
  have serves : Serves world.operation world.state world.log (world.state.handle found request) :=
    serves_handle found sends
  have made := (serves.kept holds.kept).made .removed (by simp [removed])
  cases operation : world.operation with
  | destroy sessionId =>
    rw [operation] at sends
    obtain rfl | poll := sends
    · refine ⟨sessionId, rfl, ?_⟩
      simpa [Operation.request, GatewayState.handle, GatewayState.destroy] using removed
    · cases poll
  | createSession => simp [operation] at made
  | exec => simp [operation] at made
  | write => simp [operation] at made
  | submit => simp [operation] at made

theorem Consistent.single_after_iff (single : Single world) {number : Nat} {request : Request}
    (flying : world.flying[number]? = some request) (found : Findings) :
    Single (world.after number (world.state.handle found request)) ↔
      ∀ effect ∈ (world.state.handle found request).effect, world.Admits effect := by
  cases made : (world.state.handle found request).effect with
  | none =>
    have same : (world.after number (world.state.handle found request)).log = world.log := by
      simp [World.after, made]
    refine iff_of_true ⟨?_, ?_, ?_, ?_⟩ (by simp)
    · exact same ▸ single.created
    · exact same ▸ single.ran
    · exact same ▸ single.known
    · exact same ▸ single.removed
  | some effect =>
    have log : (world.after number (world.state.handle found request)).log =
        effect :: world.log := by
      simp [World.after, made]
    have outcome : (world.after number (world.state.handle found request)).outcome =
        world.outcome := rfl
    have rephrase : Single (world.after number (world.state.handle found request)) ↔
        (createdIds (effect :: world.log)).length ≤ 1 ∧ (runs (effect :: world.log)).length ≤ 1 ∧
        (world.outcome = some .transientError → createdIds (effect :: world.log) = []) ∧
        (world.outcome = some (.destroyed false) → .removed ∉ effect :: world.log) := by
      rw [← log, ← outcome]
      constructor
      · intro holds
        exact ⟨holds.created, holds.ran, holds.known, holds.removed⟩
      · rintro ⟨created, ran, known, removed⟩
        exact ⟨created, ran, known, removed⟩
    rw [rephrase]
    obtain ⟨created, ran, known, unremoved⟩ := single
    cases effect with
    | created sessionId =>
      have one : createdIds (.created sessionId :: world.log) =
          sessionId :: createdIds world.log := rfl
      have same : runs (.created sessionId :: world.log) = runs world.log := rfl
      simpa [World.Admits, one, same, ran] using fun _ _ => unremoved
    | ran sessionId command reply =>
      have same : createdIds (.ran sessionId command reply :: world.log) =
          createdIds world.log := rfl
      have one : runs (.ran sessionId command reply :: world.log) = reply :: runs world.log := rfl
      simpa [World.Admits, one, same, created] using fun _ => ⟨known, unremoved⟩
    | wrote =>
      exact iff_of_true ⟨created, ran, known, by simpa using unremoved⟩ (by simp [World.Admits])
    | graded =>
      exact iff_of_true ⟨created, ran, known, by simpa using unremoved⟩ (by simp [World.Admits])
    | removed =>
      obtain ⟨sessionId, operation, present⟩ := holds.removed_of_handle flying found made
      refine iff_of_true ⟨created, ran, known, fun ended => ?_⟩ (by simp [World.Admits])
      exact absurd present ((holds.outcome _ ended).2 sessionId operation)

end

theorem received_cases {overdue : Bool} {reply : Reply} {outcome : Outcome}
    (received : reply.received overdue = some outcome) :
    outcome ≠ .transientError ∧ (outcome = .destroyed false ↔ reply = .released false) := by
  cases reply with
  | submitted =>
    simp only [Reply.received] at received
    split at received
    · cases received
      simp
    split at received
    · cases received
      simp
    split at received
    · cases received
      simp
    split at received
    · cases received
      simp
    · cases received
  | error =>
    cases received
    simp
  | created =>
    cases received
    simp
  | ran =>
    cases received
    simp
  | ok =>
    cases received
    simp
  | released =>
    cases received
    simp

theorem Consistent.meets_iff (holds : Consistent world) (single : Single world) (label : Label) :
    (∀ after ∈ system.step world label, after.Once) ↔ Meets world label := by
  have rephrase : (∀ after ∈ system.step world label, after.Once) ↔
      ∀ after ∈ system.step world label, Single after :=
    forall₂_congr fun after taken => (holds.step taken).once_iff
  rw [rephrase]
  cases label with
  | handle number found =>
    simp only [system, World.step, Meets, Option.mem_def]
    cases flying : world.flying[number]? with
    | none => simp
    | some =>
      simpa using holds.single_after_iff single flying found
  | receive overdue =>
    simp only [system, World.step, Meets, Option.mem_def]
    cases ended : world.outcome with
    | some => simp
    | none =>
      cases arrived : world.reply with
      | none => simp
      | some reply =>
        cases received : reply.received overdue with
        | none =>
          have other : reply ≠ .released false := by
            rintro rfl
            cases received
          have sent : ∀ request, Single (world.send request 0) := fun request =>
            ⟨single.created, single.ran, single.known, single.removed⟩
          simpa [received, other] using fun request _ => sent request
        | some outcome =>
          obtain ⟨others, unreleased⟩ := received_cases received
          have finished : Single (world.finish outcome) ↔
              (outcome = .destroyed false → .removed ∉ world.log) := by
            constructor
            · intro holds same
              exact holds.removed (by rw [← same]; rfl)
            · intro removed
              refine ⟨single.created, single.ran, fun same => ?_, fun same => ?_⟩
              · exact absurd (Option.some.inj same) others
              · exact removed (Option.some.inj same)
          simp [received, finished, unreleased]
  | fail =>
    simp only [system, World.step, Meets, Option.mem_def]
    cases ended : world.outcome with
    | some => simp
    | none =>
      have finished : Single (world.finish .transientError) ↔ createdIds world.log = [] := by
        refine ⟨fun holds => holds.known rfl, fun none => ?_⟩
        refine ⟨single.created, single.ran, fun _ => none, ?_⟩
        intro same
        cases same
      have sent : Single (world.send world.request (world.attempt + 1)) :=
        ⟨single.created, single.ran, single.known, single.removed⟩
      by_cases last : transientRetryBackoff.length ≤ world.attempt
      · simp [last, finished]
      · simp [last, sent]
  | refuse =>
    refine iff_of_true (fun after taken => ?_) trivial
    simp only [system, World.step, Option.mem_def] at taken
    split at taken
    · cases taken
    · cases taken
      exact ⟨single.created, single.ran, by simp [World.finish], by simp [World.finish]⟩
  | abort =>
    refine iff_of_true (fun after taken => ?_) trivial
    simp only [system, World.step, Option.mem_def] at taken
    split at taken
    · cases taken
    · cases taken
      exact ⟨single.created, single.ran, by simp [World.finish], by simp [World.finish]⟩
  | settle =>
    refine iff_of_true (fun after taken => ?_) trivial
    simp only [system, World.step, Option.mem_def] at taken
    split at taken
    · split at taken
      · cases taken
        exact ⟨single.created, single.ran, single.known, single.removed⟩
      · cases taken
    · cases taken

end Steps

/-- A call has no effect twice and returns the value of its execution, along the whole of a run,
exactly if the run meets the condition on the requests that are carried out again. -/
theorem along_once_iff (operation : Operation) (state : GatewayState) (labels : List Label) :
    system.Along (fun world label => ∀ after ∈ system.step world label, after.Once)
        (.start operation state) labels ↔
      system.Along Meets (.start operation state) labels := by
  refine System.along_congr (motive := fun world => Consistent world ∧ Single world) ?_ ?_ ?_ labels
  · rintro world label after ⟨holds, single⟩ once taken
    exact ⟨holds.step taken, (holds.step taken).once_iff.mp (once after taken)⟩
  · rintro world label ⟨holds, single⟩
    exact holds.meets_iff single label
  · exact ⟨.start operation state, by simp [createdIds], by simp [runs], by simp, by simp⟩

/-- A worker with one instance and one session. -/
def oneSession : GatewayState where
  pool :=
    { SweInstancePool.new ((∅ : Map String BenchmarkVariant).insert "astropy-1" .verified) 4 with
      sessions := (∅ : Map String Nat).insert "sess-old" 0 }

def findings : Findings where
  provision := .ok 7
  exec := .ok ⟨"done", "", 0, false⟩
  write := none

def creation : Operation := .createSession "astropy-1" "verified" "FullShell"

/-- The first answer is lost, the second arrives. -/
def answerLost : List Label :=
  [.handle 0 findings, .fail, .handle 1 findings, .receive false]

/-- The first answer is lost, and no other request gets to the worker. -/
def allLost : List Label := [.handle 0 findings, .fail, .fail, .fail, .fail]

/-- After a lost answer the session of the first request stays beside that of the second, a command
has run twice, and a session that was removed is reported as not removed; after four errors the
session is left without an owner. -/
theorem lost_answer : (∃ world, system.exec (.start creation oneSession) answerLost = some world ∧
      world.outcome = some (.session "sess-astropy-1-2") ∧
      world.live = ["sess-astropy-1-2", "sess-astropy-1-1"] ∧ ¬world.Once) ∧
    (∃ world, system.exec (.start (.exec "sess-old" "make") oneSession) answerLost = some world ∧
      (runs world.log).length = 2 ∧ ¬world.Once) ∧
    (∃ world, system.exec (.start (.destroy "sess-old") oneSession) answerLost = some world ∧
      world.outcome = some (.destroyed false) ∧ .removed ∈ world.log ∧ ¬world.Once) ∧
    (∃ world, system.exec (.start creation oneSession) allLost = some world ∧
      world.outcome = some .transientError ∧ world.live = ["sess-astropy-1-1"] ∧ ¬world.Once) := by
  have twice : (system.exec (.start creation oneSession) answerLost).map
      (fun world => (world.operation, world.outcome, world.live)) =
      some (creation, some (.session "sess-astropy-1-2"),
        ["sess-astropy-1-2", "sess-astropy-1-1"]) := by decide +kernel
  have reran : (system.exec (.start (.exec "sess-old" "make") oneSession) answerLost).map
      (fun world => (world.operation, (runs world.log).length)) =
      some (.exec "sess-old" "make", 2) := by decide +kernel
  have destroyed : (system.exec (.start (.destroy "sess-old") oneSession) answerLost).map
      (fun world => (world.operation, world.outcome, decide (.removed ∈ world.log))) =
      some (.destroy "sess-old", some (.destroyed false), true) := by decide +kernel
  have left : (system.exec (.start creation oneSession) allLost).map
      (fun world => (world.operation, world.outcome, world.live)) =
      some (creation, some .transientError, ["sess-astropy-1-1"]) := by decide +kernel
  refine ⟨?_, ?_, ?_, ?_⟩
  · obtain ⟨world, ran, facts⟩ := Option.map_eq_some_iff.mp twice
    simp only [Prod.mk.injEq] at facts
    refine ⟨world, ran, facts.2.1, facts.2.2, fun once => ?_⟩
    simp only [World.Once, facts.1, creation] at once
    simpa [facts.2.2] using once.one
  · obtain ⟨world, ran, facts⟩ := Option.map_eq_some_iff.mp reran
    simp only [Prod.mk.injEq] at facts
    refine ⟨world, ran, facts.2, fun once => ?_⟩
    simp only [World.Once, facts.1] at once
    simpa [facts.2] using once.one
  · obtain ⟨world, ran, facts⟩ := Option.map_eq_some_iff.mp destroyed
    simp only [Prod.mk.injEq, decide_eq_true_eq] at facts
    refine ⟨world, ran, facts.2.1, facts.2.2, fun once => ?_⟩
    simp only [World.Once, facts.1] at once
    simpa [facts.2.2] using once.value _ facts.2.1
  · obtain ⟨world, ran, facts⟩ := Option.map_eq_some_iff.mp left
    simp only [Prod.mk.injEq] at facts
    refine ⟨world, ran, facts.2.1, facts.2.2, fun once => ?_⟩
    simp only [World.Once, facts.1, creation] at once
    simpa [facts.2.2] using once.known facts.2.1

end UEnv.OpenHands
