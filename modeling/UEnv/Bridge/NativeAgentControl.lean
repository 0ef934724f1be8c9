import UEnv.Lib.Runs
import UEnv.Lib.Text
import UEnv.Proto.Agent
import UEnv.Service.Request

/-!
# The agent job server of the bridge

`native_agent_control_server.py`: the loop enqueues a job and waits for its result, agents register,
poll and complete. The sections under the lock and the end of a wait are atomic steps; beside the
server's own tables the state keeps what has been handed out and which waits have ended.
-/

namespace UEnv.Bridge.NativeAgentControl

open Proto Tables Text Runs

/-! ### The server -/

structure NativeAgentJobResult where
  jobId : String
  runId : String
  status : String
  reward : F64
  trajectoryId : String := ""
  errorMessage : String := ""
  agentId : String := ""
  parallelMode : String := ""
  rolloutParamVersion : Option Int := none
  rolloutPolicyVersion : String := ""
  rolloutLogProbs : List F32 := []
  workerStartTs : Option F64 := none
  workerFinishTs : Option F64 := none
  resultReadyTs : Option F64 := none
  workerLatencyMs : Option Int := none
  modelLatencyMs : Option Int := none
  responseIds : List Int := []
  responseMask : List Int := []
  metadata : StringMap := ∅
  deriving DecidableEq

structure PendingJob where
  job : AgentJob
  done : Bool := false
  result : Option NativeAgentJobResult := none

/-- The tables of `NativeAgentControlServicer`; of a registered agent only its id is read. -/
structure Servicer where
  registeredAgents : List String := []
  queue : List String := []
  pending : Map String PendingJob := ∅
  inflight : Map String String := ∅
  seq : Nat := 0

/-- `_result_from_complete_request` (native_agent_control_server.py, 226-256). -/
def resultFromCompleteRequest (request : AgentJobCompleteRequest) : NativeAgentJobResult where
  jobId := request.jobId
  runId := request.runId
  status := request.status
  reward := request.reward
  trajectoryId := request.trajectoryId
  errorMessage := request.errorMessage
  agentId := request.agentId
  parallelMode := request.parallelMode
  rolloutParamVersion := request.rolloutParamVersion.map Int64.toInt
  rolloutPolicyVersion := request.rolloutPolicyVersion.getD ""
  rolloutLogProbs := request.rolloutLogProbs
  workerStartTs := request.workerStartTs
  workerFinishTs := request.workerFinishTs
  resultReadyTs := request.resultReadyTs
  workerLatencyMs := request.workerLatencyMs.map Int64.toInt
  modelLatencyMs := request.modelLatencyMs.map Int64.toInt
  responseIds := (request.rolloutTrace.map (·.responseIds)).getD [] |>.map Int64.toInt
  responseMask := (request.rolloutTrace.map (·.responseMask)).getD [] |>.map Int32.toInt
  metadata := request.metadata

/-- What a caller gets. -/
inductive Reply
  | enqueued
  | valueError (message : String)
  | registered (agentId : String)
  | notFound
  | noJob
  | job (job : AgentJob)
  | completed (ack : Bool) (code message : String)
  | result (result : NativeAgentJobResult)
  | timeoutError (message : String)
  | runtimeError (message : String)

/-- `str.isspace()` of one character: the white space of Unicode and four separators more. -/
def isSpace (c : Char) : Bool :=
  Service.isWhiteSpace c || (28 ≤ c.toNat && c.toNat ≤ 31)

/-- `str.strip()`. -/
def strip (text : String) : String := String.ofList (trimBy isSpace text.toList)

namespace Servicer

variable (servicer : Servicer)

/-- `enqueue` (native_agent_control_server.py, 57-66). -/
def enqueue (job : AgentJob) : Reply × Servicer :=
  if job.jobId.isEmpty then (.valueError "AgentJob.job_id is required", servicer)
  else if job.jobId ∈ servicer.pending then
    (.valueError ("duplicate AgentJob.job_id: " ++ job.jobId), servicer)
  else
    (.enqueued, { servicer with
      pending := servicer.pending.insert job.jobId { job }
      queue := servicer.queue ++ [job.jobId] })

def registerAgent (agentId : String) : Reply × Servicer :=
  let agentId := strip agentId
  let seq := if agentId.isEmpty then servicer.seq + 1 else servicer.seq
  let agentId := if agentId.isEmpty then "native-agent-" ++ toString seq else agentId
  (.registered agentId,
    { servicer with seq, registeredAgents := agentId :: servicer.registeredAgents })

/-- The loop of `PollAgentJob`: the first queued job without a result, and the queue after it. -/
def nextJob (pending : Map String PendingJob) :
    List String → Option (String × PendingJob) × List String
  | [] => (none, [])
  | jobId :: rest =>
    match pending[jobId]? with
    | none => nextJob pending rest
    | some job => if job.result.isSome then nextJob pending rest else (some (jobId, job), rest)

def pollAgentJob (agentId : String) : Reply × Servicer :=
  if agentId ∉ servicer.registeredAgents then (.notFound, servicer)
  else
    let next := nextJob servicer.pending servicer.queue
    match next.1 with
    | none => (.noJob, { servicer with queue := next.2 })
    | some (jobId, job) =>
      (.job job.job, { servicer with
        queue := next.2, inflight := servicer.inflight.insert jobId agentId })

def completeAgentJob (request : AgentJobCompleteRequest) : Reply × Servicer :=
  match servicer.pending[request.jobId]? with
  | none =>
    (.completed false "UNKNOWN_JOB" ("unknown job_id=" ++ request.jobId), servicer)
  | some job =>
    let expectedAgent := servicer.inflight[request.jobId]?.getD ""
    -- an empty id on either side passes
    if expectedAgent ≠ "" ∧ request.agentId ≠ "" ∧ expectedAgent ≠ request.agentId then
      (.completed false "AGENT_MISMATCH"
        ("expected agent_id=" ++ expectedAgent ++ ", got " ++ request.agentId), servicer)
    else
      (.completed true "OK" "ok", { servicer with
        pending := servicer.pending.insert request.jobId
          { job with result := some (resultFromCompleteRequest request), done := true }
        inflight := servicer.inflight.erase request.jobId })

/-- How `wait_result` ends, the event being set or the time over. -/
def waitResult (job : PendingJob) : Reply :=
  if !job.done then .timeoutError ("native AgentJob timed out: " ++ job.job.jobId)
  else match job.result with
    | none => .runtimeError ("native AgentJob completed without result: " ++ job.job.jobId)
    | some result => .result result

end Servicer

/-! ### Runs -/

/-- One section under the lock, or the end of a wait. -/
inductive Call
  | enqueue (job : AgentJob)
  | registerAgent (agentId : String)
  | pollAgentJob (agentId : String)
  | completeAgentJob (request : AgentJobCompleteRequest)
  | waitEnds (jobId : String)

/-- The server with the jobs handed out so far and their agents, and the waits that have ended, each
with whether by timeout. -/
structure World where
  servicer : Servicer := {}
  handed : List (String × String) := []
  ended : List (String × Bool) := []

/-- The job that a poll takes from the queue. -/
def World.handsOut (world : World) (agentId : String) : Option (String × PendingJob) :=
  if agentId ∉ world.servicer.registeredAgents then none
  else (Servicer.nextJob world.servicer.pending world.servicer.queue).1

def World.reply (world : World) : Call → Option Reply
  | .enqueue job => some (world.servicer.enqueue job).1
  | .registerAgent agentId => some (world.servicer.registerAgent agentId).1
  | .pollAgentJob agentId => some (world.servicer.pollAgentJob agentId).1
  | .completeAgentJob request => some (world.servicer.completeAgentJob request).1
  | .waitEnds jobId => (world.servicer.pending[jobId]?).map Servicer.waitResult

/-- A wait is for a job that was enqueued; every other call is always possible. -/
def World.step (world : World) : Call → Option World
  | .enqueue job => some { world with servicer := (world.servicer.enqueue job).2 }
  | .registerAgent agentId =>
    some { world with servicer := (world.servicer.registerAgent agentId).2 }
  | .pollAgentJob agentId => some { world with
      servicer := (world.servicer.pollAgentJob agentId).2
      handed := match world.handsOut agentId with
        | none => world.handed
        | some (jobId, _) => (jobId, agentId) :: world.handed }
  | .completeAgentJob request =>
    some { world with servicer := (world.servicer.completeAgentJob request).2 }
  | .waitEnds jobId =>
    (world.servicer.pending[jobId]?).map fun job =>
      { world with ended := (jobId, !job.done) :: world.ended }

def system : System World Call where
  init world := world = {}
  step := World.step

/-! ### Once -/

def World.resultOf (world : World) (jobId : String) : Option NativeAgentJobResult :=
  (world.servicer.pending[jobId]?).bind (·.result)

/-- No table has an entry for the job. -/
structure World.Cleared (world : World) (jobId : String) : Prop where
  queue : jobId ∉ world.servicer.queue
  pending : jobId ∉ world.servicer.pending
  inflight : jobId ∉ world.servicer.inflight

/-- A step that keeps to one hand-out and one completion of each job. -/
structure SoundStep (before : World) (call : Call) (after : World) : Prop where
  handed : ∀ jobId agent other, (jobId, agent) ∈ after.handed → (jobId, other) ∈ after.handed →
    agent = other
  acked : ∀ request code message, call = .completeAgentJob request →
    before.reply call = some (.completed true code message) →
    before.servicer.inflight[request.jobId]? = some request.agentId
  kept : ∀ jobId result, before.resultOf jobId = some result →
    after.resultOf jobId = some result
  givenUp : ∀ agentId jobId job, call = .pollAgentJob agentId →
    before.handsOut agentId = some (jobId, job) → (jobId, true) ∉ before.ended
  cleared : ∀ jobId timedOut, (jobId, timedOut) ∈ after.ended → after.Cleared jobId

def Sound (world : World) (call : Call) : Prop :=
  ∀ after ∈ system.step world call, SoundStep world call after

/-- No wait ends, and a completion of a known job names an agent and comes while the job is with
one. -/
def Meets (world : World) : Call → Prop
  | .waitEnds jobId => jobId ∉ world.servicer.pending
  | .completeAgentJob request =>
    request.jobId ∈ world.servicer.pending →
      request.jobId ∈ world.servicer.inflight ∧ request.agentId ≠ ""
  | _ => True

/-- What the tables say of each other in every run. -/
structure Consistent (world : World) : Prop where
  agents : ∀ agentId ∈ world.servicer.registeredAgents, agentId ≠ ""
  queueNodup : world.servicer.queue.Nodup
  queued : ∀ jobId ∈ world.servicer.queue, jobId ∈ world.servicer.pending
  waiting : ∀ jobId ∈ world.servicer.queue, jobId ∉ world.handed.map Prod.fst
  once : (world.handed.map Prod.fst).Nodup
  known : ∀ jobId ∈ world.handed.map Prod.fst, jobId ∈ world.servicer.pending
  holder : ∀ jobId agentId, world.servicer.inflight[jobId]? = some agentId →
    agentId ≠ "" ∧ jobId ∈ world.handed.map Prod.fst ∧ world.resultOf jobId = none

theorem nextJob_spec (pending : Map String PendingJob) (queue : List String) :
    (∃ skipped jobId job rest, Servicer.nextJob pending queue = (some (jobId, job), rest) ∧
        queue = skipped ++ jobId :: rest ∧ pending[jobId]? = some job ∧ job.result = none) ∨
      Servicer.nextJob pending queue = (none, []) := by
  induction queue with
  | nil => exact .inr rfl
  | cons jobId rest ih =>
    have skip : Servicer.nextJob pending (jobId :: rest) = Servicer.nextJob pending rest →
        (∃ skipped found job rest', Servicer.nextJob pending (jobId :: rest) =
            (some (found, job), rest') ∧ jobId :: rest = skipped ++ found :: rest' ∧
            pending[found]? = some job ∧ job.result = none) ∨
          Servicer.nextJob pending (jobId :: rest) = (none, []) := by
      intro same
      rw [same]
      rcases ih with ⟨skipped, found, job, rest', eq, split, known, unanswered⟩ | none
      · exact .inl ⟨jobId :: skipped, found, job, rest', eq, by simp [split], known, unanswered⟩
      · exact .inr none
    cases entry : pending[jobId]? with
    | none => exact skip (by simp [Servicer.nextJob, entry])
    | some job =>
      cases result : job.result with
      | some _ => exact skip (by simp [Servicer.nextJob, entry, result])
      | none =>
        exact .inl ⟨[], jobId, job, rest, by simp [Servicer.nextJob, entry, result], rfl, entry,
          result⟩

theorem ne_empty_registered (servicer : Servicer) (requested : String)
    (agents : ∀ agentId ∈ servicer.registeredAgents, agentId ≠ "") :
    ∀ agentId ∈ (servicer.registerAgent requested).2.registeredAgents, agentId ≠ "" := by
  refine List.forall_mem_cons.mpr ⟨?_, agents⟩
  split
  · intro empty
    have length := congrArg (·.toList.length) empty
    simp at length
  · rename_i named
    simpa using named

namespace Consistent

variable {world after : World}

theorem start : Consistent {} where
  agents := by simp
  queueNodup := by simp
  queued := by simp
  waiting := by simp
  once := by simp
  known := by simp
  holder := by simp

section

variable (holds : Consistent world)
include holds

theorem enqueue (job : AgentJob) :
    Consistent { world with servicer := (world.servicer.enqueue job).2 } := by
  unfold Servicer.enqueue
  split
  · exact holds
  split
  · exact holds
  rename_i fresh
  have notQueued : job.jobId ∉ world.servicer.queue := fun queued => fresh (holds.queued _ queued)
  have notHanded : job.jobId ∉ world.handed.map Prod.fst :=
    fun handed => fresh (holds.known _ handed)
  exact {
    agents := holds.agents
    queueNodup := by
      simp only [List.nodup_append, List.nodup_singleton, List.mem_singleton]
      exact ⟨holds.queueNodup, trivial, fun a queued b same => by
        subst same
        exact fun eq => notQueued (eq ▸ queued)⟩
    queued := by
      intro jobId queued
      rw [List.mem_append, List.mem_singleton] at queued
      rw [Std.ExtTreeMap.mem_insert, Std.compare_eq_iff_eq]
      rcases queued with old | rfl
      · exact .inr (holds.queued _ old)
      · exact .inl rfl
    waiting := by
      intro jobId queued
      rw [List.mem_append, List.mem_singleton] at queued
      rcases queued with old | rfl
      · exact holds.waiting _ old
      · exact notHanded
    once := holds.once
    known := by
      intro jobId handed
      rw [Std.ExtTreeMap.mem_insert]
      exact .inr (holds.known _ handed)
    holder := by
      intro jobId agentId held
      obtain ⟨named, handed, unanswered⟩ := holds.holder _ _ held
      refine ⟨named, handed, ?_⟩
      have other : job.jobId ≠ jobId := fun same => notHanded (same ▸ handed)
      simpa [World.resultOf, other] using unanswered }

theorem registerAgent (agentId : String) :
    Consistent { world with servicer := (world.servicer.registerAgent agentId).2 } where
  agents := ne_empty_registered world.servicer agentId holds.agents
  queueNodup := holds.queueNodup
  queued := holds.queued
  waiting := holds.waiting
  once := holds.once
  known := holds.known
  holder := holds.holder

theorem pollAgentJob (agentId : String) (polled : world.step (.pollAgentJob agentId) = some after) :
    Consistent after := by
  simp only [World.step, Option.some.injEq, World.handsOut, Servicer.pollAgentJob] at polled
  subst polled
  split
  · exact holds
  rename_i registered
  rw [not_not] at registered
  rcases nextJob_spec world.servicer.pending world.servicer.queue with
    ⟨skipped, jobId, job, rest, eq, split, known, unanswered⟩ | none
  · have queued : jobId ∈ world.servicer.queue := by simp [split]
    have nodup := holds.queueNodup
    rw [split, List.nodup_append, List.nodup_cons] at nodup
    have old : ∀ other ∈ rest, other ∈ world.servicer.queue := by simp +contextual [split]
    simp only [eq]
    exact {
      agents := holds.agents
      queueNodup := nodup.2.1.2
      queued := fun other held => holds.queued other (old other held)
      waiting := by
        intro other held
        rw [List.map_cons, List.mem_cons, not_or]
        refine ⟨?_, holds.waiting other (old other held)⟩
        rintro rfl
        exact nodup.2.1.1 held
      once := List.nodup_cons.mpr ⟨holds.waiting jobId queued, holds.once⟩
      known := List.forall_mem_cons.mpr ⟨holds.queued jobId queued, holds.known⟩
      holder := by
        intro other agent held
        rw [lookup_insert] at held
        split at held
        · rename_i same
          subst same
          cases held
          exact ⟨holds.agents _ registered, by simp, by simp [World.resultOf, known, unanswered]⟩
        · obtain ⟨named, handed, none⟩ := holds.holder _ _ held
          exact ⟨named, List.mem_cons_of_mem _ handed, none⟩ }
  · simp only [none]
    exact {
      agents := holds.agents
      queueNodup := List.nodup_nil
      queued := by simp
      waiting := by simp
      once := holds.once
      known := holds.known
      holder := holds.holder }

theorem complete (request : AgentJobCompleteRequest) (job : PendingJob)
    (result : NativeAgentJobResult) : Consistent { world with servicer := { world.servicer with
      pending := world.servicer.pending.insert request.jobId
        { job with result := some result, done := true }
      inflight := world.servicer.inflight.erase request.jobId } } where
  agents := holds.agents
  queueNodup := holds.queueNodup
  queued jobId queued := by
    rw [Std.ExtTreeMap.mem_insert]
    exact .inr (holds.queued _ queued)
  waiting := holds.waiting
  once := holds.once
  known jobId handed := by
    rw [Std.ExtTreeMap.mem_insert]
    exact .inr (holds.known _ handed)
  holder jobId agentId held := by
    rw [lookup_erase] at held
    split at held
    · cases held
    · rename_i other
      obtain ⟨named, handed, unanswered⟩ := holds.holder _ _ held
      exact ⟨named, handed, by simpa [World.resultOf, other] using unanswered⟩

theorem completeAgentJob (request : AgentJobCompleteRequest) :
    Consistent { world with servicer := (world.servicer.completeAgentJob request).2 } := by
  unfold Servicer.completeAgentJob
  cases known : world.servicer.pending[request.jobId]? with
  | none => exact holds
  | some job =>
    simp only
    split
    · exact holds
    · exact holds.complete request job _

theorem step {call : Call} (taken : world.step call = some after) : Consistent after := by
  cases call with
  | enqueue job =>
    cases taken
    exact holds.enqueue job
  | registerAgent agentId =>
    cases taken
    exact holds.registerAgent agentId
  | pollAgentJob agentId => exact holds.pollAgentJob agentId taken
  | completeAgentJob request =>
    cases taken
    exact holds.completeAgentJob request
  | waitEnds =>
    obtain ⟨job, -, rfl⟩ := Option.map_eq_some_iff.mp taken
    exact ⟨holds.agents, holds.queueNodup, holds.queued, holds.waiting, holds.once, holds.known,
      holds.holder⟩

theorem handed_once {jobId agent other : String} (first : (jobId, agent) ∈ world.handed)
    (second : (jobId, other) ∈ world.handed) : agent = other :=
  congrArg Prod.snd (List.inj_on_of_nodup_map holds.once first second rfl)

end

end Consistent

/-- No wait has ended before the step. -/
structure Quiet (world : World) : Prop extends Consistent world where
  ended : world.ended = []

section Steps

variable {world after : World}

theorem Quiet.step (holds : Quiet world) {call : Call} (meets : Meets world call)
    (taken : world.step call = some after) : Quiet after where
  toConsistent := holds.toConsistent.step taken
  ended := by
    cases call with
    | waitEnds =>
      obtain ⟨job, entry, -⟩ := Option.map_eq_some_iff.mp taken
      exact absurd ((mem_iff_lookup _ _).mpr ⟨job, entry⟩) meets
    | enqueue =>
      cases taken
      exact holds.ended
    | registerAgent =>
      cases taken
      exact holds.ended
    | pollAgentJob =>
      cases taken
      exact holds.ended
    | completeAgentJob =>
      cases taken
      exact holds.ended

/-- An accepted completion of a job that is with an agent is that agent's, or names none. -/
theorem holder_of_ack {request : AgentJobCompleteRequest} {holder code message : String}
    (held : world.servicer.inflight[request.jobId]? = some holder) (named : holder ≠ "")
    (agent : request.agentId ≠ "")
    (acked : (world.servicer.completeAgentJob request).1 = .completed true code message) :
    holder = request.agentId := by
  unfold Servicer.completeAgentJob at acked
  cases known : world.servicer.pending[request.jobId]? with
  | none => simp [known] at acked
  | some job =>
    simp only [known, held, Option.getD_some] at acked
    split at acked
    · simp at acked
    · rename_i passed
      by_contra other
      exact passed ⟨named, agent, other⟩

theorem Quiet.resultOf_complete (holds : Quiet world) {request : AgentJobCompleteRequest}
    (flying : request.jobId ∈ world.servicer.pending →
      request.jobId ∈ world.servicer.inflight) {jobId : String} {result : NativeAgentJobResult}
    (answered : world.resultOf jobId = some result) :
    World.resultOf { world with servicer := (world.servicer.completeAgentJob request).2 } jobId =
      some result := by
  unfold Servicer.completeAgentJob
  cases known : world.servicer.pending[request.jobId]? with
  | none => exact answered
  | some job =>
    obtain ⟨holder, held⟩ :=
      (mem_iff_lookup _ _).mp (flying ((mem_iff_lookup _ _).mpr ⟨job, known⟩))
    have other : request.jobId ≠ jobId := by
      rintro rfl
      rw [(holds.holder _ _ held).2.2] at answered
      cases answered
    simp only
    split
    · exact answered
    · simpa [World.resultOf, other] using answered

theorem resultOf_enqueue (job : AgentJob) {jobId : String} {result : NativeAgentJobResult}
    (answered : world.resultOf jobId = some result) :
    World.resultOf { world with servicer := (world.servicer.enqueue job).2 } jobId =
      some result := by
  unfold Servicer.enqueue
  split
  · exact answered
  split
  · exact answered
  rename_i fresh
  have other : job.jobId ≠ jobId := by
    rintro rfl
    simp only [World.resultOf, Option.bind_eq_some_iff] at answered
    obtain ⟨old, entry, -⟩ := answered
    exact fresh ((mem_iff_lookup _ _).mpr ⟨old, entry⟩)
  simpa [World.resultOf, other] using answered

theorem pending_pollAgentJob (servicer : Servicer) (agentId : String) :
    (servicer.pollAgentJob agentId).2.pending = servicer.pending := by
  unfold Servicer.pollAgentJob
  split
  · rfl
  · simp only
    split <;> rfl

theorem Quiet.sound (holds : Quiet world) {call : Call} (meets : Meets world call) :
    Sound world call := by
  intro after taken
  have next : Quiet after := holds.step meets taken
  have cleared : ∀ jobId timedOut, (jobId, timedOut) ∈ after.ended → after.Cleared jobId := by
    simp [next.ended]
  have givenUp : ∀ agentId jobId job, call = .pollAgentJob agentId →
      world.handsOut agentId = some (jobId, job) → (jobId, true) ∉ world.ended := by
    simp [holds.ended]
  have handed : ∀ jobId agent other, (jobId, agent) ∈ after.handed →
      (jobId, other) ∈ after.handed → agent = other :=
    fun _ _ _ => next.toConsistent.handed_once
  cases call with
  | enqueue job =>
    cases taken
    exact ⟨handed, by simp, fun _ _ => resultOf_enqueue job, givenUp, cleared⟩
  | registerAgent =>
    cases taken
    exact ⟨handed, by simp, fun _ _ answered => answered, givenUp, cleared⟩
  | pollAgentJob =>
    cases taken
    refine ⟨handed, by simp, fun _ _ answered => ?_, givenUp, cleared⟩
    simpa [World.resultOf, pending_pollAgentJob] using answered
  | completeAgentJob request =>
    cases taken
    refine ⟨handed, ?_, fun _ _ => holds.resultOf_complete fun known => (meets known).1, givenUp,
      cleared⟩
    rintro _ code message ⟨⟩ reply
    have acked := Option.some.inj reply
    have known : request.jobId ∈ world.servicer.pending := by
      by_contra unknown
      have entry : world.servicer.pending[request.jobId]? = none := by simpa using unknown
      simp [Servicer.completeAgentJob, entry] at acked
    obtain ⟨holder, held⟩ := (mem_iff_lookup _ _).mp (meets known).1
    rw [held, holder_of_ack held (holds.holder _ _ held).1 (meets known).2 acked]
  | waitEnds =>
    obtain ⟨job, entry, -⟩ := Option.map_eq_some_iff.mp taken
    exact absurd ((mem_iff_lookup _ _).mpr ⟨job, entry⟩) meets

theorem Quiet.meets (holds : Quiet world) {call : Call} (sound : Sound world call) :
    Meets world call := by
  cases call with
  | enqueue => trivial
  | registerAgent => trivial
  | pollAgentJob => trivial
  | completeAgentJob request =>
    intro known
    obtain ⟨job, entry⟩ := (mem_iff_lookup _ _).mp known
    have step := sound _ rfl
    have accepted : world.servicer.inflight[request.jobId]?.getD "" = "" ∨ request.agentId = "" →
        world.reply (.completeAgentJob request) = some (.completed true "OK" "ok") := by
      intro passes
      have none : ¬(world.servicer.inflight[request.jobId]?.getD "" ≠ "" ∧ request.agentId ≠ "" ∧
          world.servicer.inflight[request.jobId]?.getD "" ≠ request.agentId) := by tauto
      simp only [World.reply, Servicer.completeAgentJob, entry, if_neg none]
    cases held : world.servicer.inflight[request.jobId]? with
    | none =>
      have acked := step.acked request _ _ rfl (accepted (.inl (by simp [held])))
      simp [held] at acked
    | some holder =>
      refine ⟨(mem_iff_lookup _ _).mpr ⟨holder, held⟩, fun anonymous => ?_⟩
      have acked := step.acked request _ _ rfl (accepted (.inr anonymous))
      exact (holds.holder _ _ acked).1 anonymous
  | waitEnds jobId =>
    intro known
    obtain ⟨job, entry⟩ := (mem_iff_lookup _ _).mp known
    have step := sound { world with ended := (jobId, !job.done) :: world.ended }
      (by simp [system, World.step, entry])
    exact (step.cleared jobId _ List.mem_cons_self).pending known

end Steps

/-- A run hands out and completes every job once exactly if no wait ends in it and every completion
of a known job names an agent and comes while the job is with one. -/
theorem along_sound_iff (calls : List Call) :
    system.Along Sound {} calls ↔ system.Along Meets {} calls :=
  (System.along_congr (motive := Quiet) (fun _ _ _ holds meets taken => holds.step meets taken)
    (fun _ _ holds => ⟨holds.sound, holds.meets⟩) ⟨Consistent.start, rfl⟩ calls).symm

def firstJob : AgentJob := { jobId := "job-1", episodeId := "episode-1" }

def completionBy (agentId status : String) : AgentJobCompleteRequest :=
  { jobId := "job-1", agentId, status }

/-- The waiter gives up before an agent polls. -/
def lateCalls : List Call := [.enqueue firstJob, .registerAgent "agent-a", .waitEnds "job-1"]

def completedCalls : List Call :=
  [.enqueue firstJob, .registerAgent "agent-a", .pollAgentJob "agent-a",
    .completeAgentJob (completionBy "agent-a" "completed")]

/-- A job whose waiter has given up goes out to an agent; a completion by another agent is accepted
after the first and takes its place. -/
theorem late_and_double :
    (∃ world, system.exec {} lateCalls = some world ∧ ("job-1", true) ∈ world.ended ∧
      (world.handsOut "agent-a").map Prod.fst = some "job-1") ∧
    (∃ world after, system.exec {} completedCalls = some world ∧
      world.reply (.completeAgentJob (completionBy "agent-b" "failed")) =
        some (.completed true "OK" "ok") ∧
      world.step (.completeAgentJob (completionBy "agent-b" "failed")) = some after ∧
      (world.resultOf "job-1").map (·.agentId) = some "agent-a" ∧
      (after.resultOf "job-1").map (·.agentId) = some "agent-b") ∧
    ¬system.Along Sound {} (lateCalls ++ [.pollAgentJob "agent-a"]) ∧
    ¬system.Along Sound {}
      (completedCalls ++ [.completeAgentJob (completionBy "agent-b" "failed")]) := by
  refine ⟨⟨_, rfl, ?_, ?_⟩, ⟨_, _, rfl, ?_, rfl, ?_, ?_⟩, ?_, ?_⟩
  · decide
  · rfl
  · rfl
  · rfl
  · rfl
  · intro along
    have step := along.last (rfl : system.exec {} lateCalls = some _) _ rfl
    exact step.givenUp "agent-a" "job-1" _ rfl rfl (by decide)
  · intro along
    have step := along.last (rfl : system.exec {} completedCalls = some _) _ rfl
    have holder := step.acked (completionBy "agent-b" "failed") _ _ rfl rfl
    exact absurd holder (by decide)

end UEnv.Bridge.NativeAgentControl
