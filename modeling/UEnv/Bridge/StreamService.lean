import Mathlib.Data.List.TakeWhile
import UEnv.Bridge.Results
import UEnv.Lib.Runs

/-!
# Streamed execution

`execute_batch_stream` of `service.rs`: one task receives samples and joins their executions, and
sends the answers through a bounded channel to the client. The answers that the task has handed to
the channel are kept in their order beside what the client has got.
-/

namespace UEnv.Bridge.StreamService

open Fallible Obs Proto Tables Runs

/-! ### One sample -/

inductive Code
  | invalidArgument
  | resourceExhausted
  | internal
  | other (code : Int)
  deriving DecidableEq

structure Status where
  code : Code
  message : String
  deriving DecidableEq

/-- The `Display` of `CoreError`. -/
def coreErrorText : CoreError → String
  | .invalidEnvelope message => "invalid envelope: " ++ message
  | .invalidEpisodeResult message => "invalid episode result: " ++ message
  | .episodeService message => "episode service failed: " ++ message

/-- `core_error_to_status` (service.rs, 22-29). -/
def coreErrorToStatus : CoreError → Status
  | .invalidEnvelope message => ⟨.invalidArgument, "invalid envelope: " ++ message⟩
  | other => ⟨.internal, coreErrorText other⟩

/-- `execute_sample` of `core.rs`. -/
def executeSample (texts : Texts) (submitEpisodeBatch : SubmitEpisodeBatch)
    (sample : SampleEnvelope) : Except CoreError SampleResult := do
  validateBatch [sample]
  let episodeRequest ← sampleToEpisodeRequest texts "" sample
  let episodeResults ← submitEpisodeBatch [episodeRequest]
  let context := sampleContextByRequestId [sample]
  validateEpisodeResults episodeResults context
  let results ← episodeResults.mapM (episodeResultToSampleResult texts context)
  match results.getLast? with
  | some result => .ok result
  | none => .error (.invalidEpisodeResult "EpisodeService returned no result")

/-- A spawned sample with its number in the order of arrival; its execution meets the service as it
then is, or it panics. -/
structure Task where
  index : Nat
  sample : SampleEnvelope
  execution : Except String SubmitEpisodeBatch

/-- What joining the task gives. -/
def Task.outcome (texts : Texts) (task : Task) : Except Status SampleResult :=
  match task.execution with
  | .error err => .error ⟨.internal, "stream worker task failed: " ++ err⟩
  | .ok submitEpisodeBatch =>
    match executeSample texts submitEpisodeBatch task.sample with
    | .ok result => .ok result
    | .error err => .error (coreErrorToStatus err)

/-- An answer on its way to the client, of a task or of the input. -/
structure Item where
  origin : Option Nat
  answer : Except Status SampleResult

def Item.isOk (item : Item) : Bool := item.answer.isOk

/-! ### The call -/

inductive Phase
  | idle
  | refused (status : Status)
  | select
  | sending (item : Item) (fromInput : Bool)
  | exited

structure Call where
  pendingBatches : Nat
  input : List (Except Status SampleEnvelope)
  phase : Phase := .idle
  inputDone : Bool := false
  started : List Task := []
  handles : List Task := []
  resultCount : Nat := 0
  /-- What was handed to the channel so far. -/
  offered : List Item := []
  channel : List Item := []
  /-- The receiver is not dropped. -/
  receiving : Bool := true
  delivered : List Item := []
  /-- The client has seen the end of the response stream. -/
  ended : Bool := false

structure Setup where
  texts : Texts
  /-- The execution of the sample with this number. -/
  execution : Nat → Except String SubmitEpisodeBatch
  maxPendingBatches : Nat
  maxStreamSamples : Nat

inductive Label
  | call
  | message
  | join (index : Nat)
  | send
  | read
  | finish
  | stop
  deriving DecidableEq

namespace Call

/-- `mpsc::channel(32)`. -/
def capacity : Nat := 32

/-- The task ends: its tasks are aborted and its guard is dropped. -/
def exit (call : Call) : Call :=
  { call with phase := .exited, handles := [], pendingBatches := call.pendingBatches - 1 }

/-- The end of an iteration. -/
def next (call : Call) : Call :=
  if call.inputDone && call.handles.isEmpty then call.exit else { call with phase := .select }

/-- `tx.send(item)` begins. -/
def offer (call : Call) (item : Item) (fromInput : Bool) : Call :=
  { call with phase := .sending item fromInput, offered := call.offered ++ [item] }

variable (setup : Setup) (call : Call)

def start : Call :=
  let pending := call.pendingBatches + 1
  if pending > setup.maxPendingBatches then
    -- the guard is dropped with the answer
    { call with phase := .refused ⟨.resourceExhausted, "too many pending batches: " ++
        toString pending ++ "/" ++ toString setup.maxPendingBatches⟩ }
  else { call with phase := .select, pendingBatches := pending }

def newTask (sample : SampleEnvelope) : Task :=
  ⟨call.started.length, sample, setup.execution call.started.length⟩

/-- `execute_batch_stream` takes a sample (service.rs, 120-224). -/
def message : Call :=
  match call.input with
  | [] => { call with inputDone := true }.next
  | .ok sample :: rest =>
    let task := call.newTask setup sample
    { call with
      input := rest, started := call.started ++ [task], handles := call.handles ++ [task] }.next
  | .error status :: rest => { call with input := rest }.offer ⟨none, .error status⟩ true

def join (task : Task) : Call :=
  { call with
    handles := call.handles.filter (·.index ≠ task.index)
    resultCount := call.resultCount + 1 }.offer ⟨some task.index, task.outcome setup.texts⟩ false

/-- The end of the send, with room in the channel or without a receiver. -/
def sent (item : Item) (fromInput : Bool) : Call :=
  if call.receiving then
    { call with
      channel := call.channel ++ [item], inputDone := call.inputDone || fromInput }.next
  else if fromInput then { call with inputDone := true }.next
  else call.exit

/-- The client takes an answer; the response stream ends with the first error. -/
def read (item : Item) (rest : List Item) : Call :=
  if item.isOk then { call with channel := rest, delivered := call.delivered ++ [item] }
  else { call with channel := [], receiving := false, ended := true }

/-- One step of `execute_batch_stream` (service.rs, 120-224). -/
def step : Label → Option Call
  | .call =>
    match call.phase with
    | .idle => some (call.start setup)
    | _ => none
  | .message =>
    match call.phase with
    | .select =>
      if !call.inputDone ∧ call.handles.length < setup.maxStreamSamples then
        some (call.message setup)
      else none
    | _ => none
  | .join index =>
    match call.phase with
    | .select => (call.handles.find? (·.index = index)).map (call.join setup)
    | _ => none
  | .send =>
    match call.phase with
    | .sending item fromInput =>
      if call.receiving ∧ capacity ≤ call.channel.length then none
      else some (call.sent item fromInput)
    | _ => none
  | .read =>
    match call.channel with
    | [] => none
    | item :: rest => if call.receiving then some (call.read item rest) else none
  | .finish =>
    match call.phase, call.channel with
    | .exited, [] =>
      if call.receiving then some { call with receiving := false, ended := true } else none
    | _, _ => none
  | .stop =>
    if call.receiving then some { call with receiving := false, channel := [] } else none

end Call

/-- A call with its input, on a server with this number of pending batches. -/
def initial (samples : List (Except Status SampleEnvelope)) (pendingBatches : Nat) : Call :=
  { pendingBatches, input := samples }

def system (setup : Setup) (samples : List (Except Status SampleEnvelope)) (pending : Nat) :
    System Call Label where
  init call := call = initial samples pending
  step := Call.step setup

/-! ### What one step does -/

namespace Call

/-- The item whose send is going on. -/
def inFlight (call : Call) : List Item :=
  match call.phase with
  | .sending item _ => [item]
  | _ => []

section Next

variable (call : Call)

@[simp] theorem next_started : call.next.started = call.started := by
  unfold next
  split <;> rfl

@[simp] theorem next_handles : call.next.handles = call.handles := by
  unfold next
  split
  · rename_i atEnd
    rw [Bool.and_eq_true, List.isEmpty_iff] at atEnd
    exact atEnd.2.symm
  · rfl

@[simp] theorem next_offered : call.next.offered = call.offered := by
  unfold next
  split <;> rfl

@[simp] theorem next_channel : call.next.channel = call.channel := by
  unfold next
  split <;> rfl

@[simp] theorem next_receiving : call.next.receiving = call.receiving := by
  unfold next
  split <;> rfl

@[simp] theorem next_delivered : call.next.delivered = call.delivered := by
  unfold next
  split <;> rfl

@[simp] theorem next_ended : call.next.ended = call.ended := by
  unfold next
  split <;> rfl

@[simp] theorem next_input : call.next.input = call.input := by
  unfold next
  split <;> rfl

@[simp] theorem next_inFlight : call.next.inFlight = [] := by
  unfold next
  split <;> rfl

theorem next_phase : call.next.phase = .select ∨
    call.next.phase = .exited ∧ call.next.handles = [] ∧
      call.next.pendingBatches = call.pendingBatches - 1 := by
  unfold next
  split
  · exact .inr ⟨rfl, rfl, rfl⟩
  · exact .inl rfl

theorem next_pending (selects : call.next.phase = .select) :
    call.next.pendingBatches = call.pendingBatches := by
  unfold next at selects ⊢
  split at selects
  · cases selects
  · rename_i goesOn
    rw [if_neg goesOn]

end Next

/-- The steps by their labels. -/
inductive Steps (setup : Setup) (call : Call) : Label → Call → Prop
  | call : call.phase = .idle → Steps setup call .call (call.start setup)
  | message : call.phase = .select → call.inputDone = false →
      call.handles.length < setup.maxStreamSamples →
      Steps setup call .message (call.message setup)
  | join (task : Task) : call.phase = .select → task ∈ call.handles →
      Steps setup call (.join task.index) (call.join setup task)
  | send (item : Item) (fromInput : Bool) : call.phase = .sending item fromInput →
      Steps setup call .send (call.sent item fromInput)
  | read (item : Item) (rest : List Item) : call.channel = item :: rest → call.receiving = true →
      Steps setup call .read (call.read item rest)
  | finish : call.phase = .exited → call.channel = [] → call.receiving = true →
      Steps setup call .finish { call with receiving := false, ended := true }
  | stop : call.receiving = true →
      Steps setup call .stop { call with receiving := false, channel := [] }

theorem steps {setup : Setup} {call after : Call} {label : Label}
    (taken : call.step setup label = some after) : Steps setup call label after := by
  cases label with
  | call =>
    simp only [step] at taken
    split at taken <;> cases taken
    exact .call ‹_›
  | message =>
    simp only [step] at taken
    split at taken
    · split at taken <;> cases taken
      rename_i guard
      exact .message ‹_› (by simpa using guard.1) guard.2
    · cases taken
  | join index =>
    simp only [step] at taken
    split at taken
    · obtain ⟨task, found, rfl⟩ := Option.map_eq_some_iff.mp taken
      have same : task.index = index := by simpa using List.find?_some found
      subst same
      exact .join task ‹_› (List.mem_of_find?_eq_some found)
    · cases taken
  | send =>
    simp only [step] at taken
    split at taken
    · split at taken <;> cases taken
      exact .send _ _ ‹_›
    · cases taken
  | read =>
    simp only [step] at taken
    split at taken
    · cases taken
    · split at taken <;> cases taken
      exact .read _ _ ‹_› ‹_›
  | finish =>
    simp only [step] at taken
    split at taken
    · split at taken <;> cases taken
      exact .finish ‹_› ‹_› ‹_›
    · cases taken
  | stop =>
    simp only [step] at taken
    split at taken <;> cases taken
    exact .stop ‹_›

end Call

/-! ### Accounts -/

/-- The answers before the first error: those that the client gets as results. -/
def clear (items : List Item) : List Item := items.takeWhile Item.isOk

variable {items : List Item}

theorem clear_of_all (all : ∀ item ∈ items, item.isOk) : clear items = items :=
  List.takeWhile_eq_self_iff.mpr all

theorem clear_append_of_failed (failed : ∃ item ∈ items, ¬item.isOk) (more : List Item) :
    clear (items ++ more) = clear items := by
  obtain ⟨item, held, error⟩ := failed
  rw [clear, List.takeWhile_append, if_neg]
  · rfl
  · intro same
    have all := List.takeWhile_eq_self_iff.mp ((List.takeWhile_prefix Item.isOk).eq_of_length same)
    exact error (all item held)

theorem clear_append_of_all (all : ∀ item ∈ items, item.isOk) (more : List Item) :
    clear (items ++ more) = items ++ clear more :=
  List.takeWhile_append_of_pos all

def origins (items : List Item) : List Nat := items.filterMap (·.origin)

theorem origins_append (front back : List Item) :
    origins (front ++ back) = origins front ++ origins back :=
  List.filterMap_append

theorem mem_origins {index : Nat} :
    index ∈ origins items ↔ ∃ item ∈ items, item.origin = some index :=
  List.mem_filterMap

theorem origins_clear_subset {index : Nat} (held : index ∈ origins (clear items)) :
    index ∈ origins items := by
  obtain ⟨item, held, own⟩ := mem_origins.mp held
  exact mem_origins.mpr ⟨item, List.takeWhile_subset _ held, own⟩

/-- An error is on its way, or has arrived. -/
def Call.Failed (call : Call) : Prop := ∃ item ∈ call.offered, ¬item.isOk

theorem Call.not_failed {call : Call} : ¬call.Failed ↔ ∀ item ∈ call.offered, item.isOk := by
  simp [Call.Failed]

/-- Each started task runs or has its one answer among those offered. -/
structure Accounted (setup : Setup) (call : Call) : Prop where
  indices : call.started.map (·.index) = List.range call.started.length
  running : ∀ task ∈ call.handles, task ∈ call.started
  nodup : (call.handles.map (·.index) ++ origins call.offered).Nodup
  own : ∀ item ∈ call.offered, ∀ index, item.origin = some index →
    ∃ task ∈ call.started, task.index = index ∧ item.answer = task.outcome setup.texts
  input : ∀ item ∈ call.offered, item.origin = none → ¬item.isOk

namespace Accounted

variable {setup : Setup} {call after : Call}

section

variable (holds : Accounted setup call)
include holds

theorem of_same (started : after.started = call.started)
    (handles : after.handles = call.handles ∨ after.handles = [])
    (offered : after.offered = call.offered) : Accounted setup after where
  indices := by rw [started, holds.indices]
  running task running := by
    rcases handles with same | none
    · exact started ▸ holds.running task (same ▸ running)
    · simp [none] at running
  nodup := by
    rw [offered]
    rcases handles with same | none
    · exact same ▸ holds.nodup
    · rw [none]
      exact (List.nodup_append.mp holds.nodup).2.1
  own := by
    rw [offered, started]
    exact holds.own
  input := by
    rw [offered]
    exact holds.input

theorem task_inj {task other : Task} (started : task ∈ call.started)
    (otherStarted : other ∈ call.started) (same : task.index = other.index) : task = other :=
  List.inj_on_of_nodup_map (holds.indices ▸ List.nodup_range) started otherStarted same

theorem index_lt {task : Task} (started : task ∈ call.started) :
    task.index < call.started.length := by
  have numbered : task.index ∈ call.started.map (·.index) := List.mem_map_of_mem started
  rwa [holds.indices, List.mem_range] at numbered

theorem origin_lt {index : Nat} (offered : index ∈ origins call.offered) :
    index < call.started.length := by
  obtain ⟨item, held, own⟩ := mem_origins.mp offered
  obtain ⟨task, started, rfl, -⟩ := holds.own item held index own
  exact holds.index_lt started

theorem notOffered {task : Task} (running : task ∈ call.handles) :
    task.index ∉ origins call.offered := fun offered =>
  (List.nodup_append.mp holds.nodup).2.2 _ (List.mem_map_of_mem running) _ offered rfl

theorem spawn (sample : SampleEnvelope)
    (started : after.started = call.started ++ [call.newTask setup sample])
    (handles : after.handles = call.handles ++ [call.newTask setup sample])
    (offered : after.offered = call.offered) : Accounted setup after where
  indices := by
    rw [started, List.map_append, holds.indices, List.length_append, List.length_singleton,
      List.range_succ]
    rfl
  running task running := by
    rw [handles, List.mem_append] at running
    rw [started, List.mem_append]
    exact running.imp (holds.running task) id
  nodup := by
    have fresh : ∀ index ∈ call.handles.map (·.index) ++ origins call.offered,
        index < call.started.length := by
      intro index held
      rcases List.mem_append.mp held with running | offered
      · obtain ⟨task, runs, rfl⟩ := List.mem_map.mp running
        exact holds.index_lt (holds.running task runs)
      · exact holds.origin_lt offered
    have perm : (after.handles.map (·.index) ++ origins after.offered).Perm
        (call.started.length :: (call.handles.map (·.index) ++ origins call.offered)) := by
      rw [handles, offered, List.map_append, List.append_assoc]
      exact List.perm_middle
    rw [perm.nodup_iff, List.nodup_cons]
    exact ⟨fun held => absurd (fresh _ held) (lt_irrefl _), holds.nodup⟩
  own item held index own := by
    rw [offered] at held
    obtain ⟨task, old, same⟩ := holds.own item held index own
    exact ⟨task, started ▸ List.mem_append_left _ old, same⟩
  input := offered ▸ holds.input

theorem offerInput (status : Status) (rest : List (Except Status SampleEnvelope)) :
    Accounted setup ({ call with input := rest }.offer ⟨none, .error status⟩ true) where
  indices := holds.indices
  running := holds.running
  nodup := by
    simp only [Call.offer, origins_append]
    simpa [origins] using holds.nodup
  own item held index own := by
    rcases List.mem_append.mp held with old | new
    · exact holds.own item old index own
    · obtain rfl := List.mem_singleton.mp new
      cases own
  input item held none := by
    rcases List.mem_append.mp held with old | new
    · exact holds.input item old none
    · obtain rfl := List.mem_singleton.mp new
      simp [Item.isOk, Except.isOk, Except.toBool]

theorem join {task : Task} (running : task ∈ call.handles) :
    Accounted setup (call.join setup task) where
  indices := holds.indices
  running other held := holds.running other (List.mem_of_mem_filter held)
  nodup := by
    simp only [Call.join, Call.offer, origins_append]
    rw [← List.append_assoc, List.nodup_append_comm]
    have rest : ((call.handles.filter (·.index ≠ task.index)).map (·.index) ++
        origins call.offered).Nodup :=
      holds.nodup.sublist ((List.filter_sublist.map _).append_right _)
    have gone : task.index ∉ (call.handles.filter (·.index ≠ task.index)).map (·.index) := by
      simp
    have absent : task.index ∉ (call.handles.filter (·.index ≠ task.index)).map (·.index) ++
        origins call.offered := fun held =>
      (List.mem_append.mp held).elim gone (holds.notOffered running)
    exact List.nodup_cons.mpr ⟨absent, rest⟩
  own item held index own := by
    rcases List.mem_append.mp held with old | new
    · exact holds.own item old index own
    · obtain rfl := List.mem_singleton.mp new
      cases own
      exact ⟨task, holds.running task running, rfl, rfl⟩
  input item held none := by
    rcases List.mem_append.mp held with old | new
    · exact holds.input item old none
    · obtain rfl := List.mem_singleton.mp new
      cases none

end

end Accounted

theorem Call.start_same (setup : Setup) (call : Call) :
    (call.start setup).started = call.started ∧ (call.start setup).handles = call.handles ∧
      (call.start setup).offered = call.offered := by
  simp only [Call.start]
  split <;> exact ⟨rfl, rfl, rfl⟩

/-- A send that has ended leaves the tasks and what was offered, or it ends the loop. -/
theorem Call.sent_same (call : Call) (item : Item) (fromInput : Bool) :
    (call.sent item fromInput).started = call.started ∧
      (call.sent item fromInput).offered = call.offered ∧
      ((call.sent item fromInput).handles = call.handles ∨
        call.receiving = false ∧ (call.sent item fromInput).handles = []) := by
  unfold Call.sent
  split
  · simp
  · rename_i closed
    split
    · simp
    · exact ⟨rfl, rfl, .inr ⟨by simpa using closed, rfl⟩⟩

theorem Call.read_same (call : Call) (item : Item) (rest : List Item) :
    (call.read item rest).started = call.started ∧ (call.read item rest).handles = call.handles ∧
      (call.read item rest).offered = call.offered ∧
      (call.read item rest).phase = call.phase := by
  unfold Call.read
  split <;> exact ⟨rfl, rfl, rfl, rfl⟩

theorem Accounted.step {setup : Setup} {call after : Call} (holds : Accounted setup call)
    {label : Label} (taken : call.step setup label = some after) : Accounted setup after := by
  cases Call.steps taken with
  | call =>
    have same := call.start_same setup
    exact holds.of_same same.1 (.inl same.2.1) same.2.2
  | message =>
    unfold Call.message
    split
    · exact holds.of_same (by simp) (by simp) (by simp)
    · rename_i sample _ _
      exact holds.spawn sample (by simp) (by simp) (by simp)
    · exact holds.offerInput _ _
  | join task _ running => exact holds.join running
  | send item fromInput =>
    obtain ⟨started, offered, handles⟩ := call.sent_same item fromInput
    exact holds.of_same started (handles.imp_right (·.2)) offered
  | read item rest =>
    have same := call.read_same item rest
    exact holds.of_same same.1 (.inl same.2.1) same.2.2.1
  | finish => exact holds.of_same rfl (.inl rfl) rfl
  | stop => exact holds.of_same rfl (.inl rfl) rfl

theorem accounted_initial (setup : Setup) (samples : List (Except Status SampleEnvelope))
    (pending : Nat) : Accounted setup (initial samples pending) where
  indices := rfl
  running := by simp [initial]
  nodup := by simp [initial, origins]
  own := by simp [initial]
  input := by simp [initial]

/-! ### The channel -/

/-- What the client has got, while it keeps reading: everything offered is on its way in order, and
at the end it has the answers before the first error. -/
structure Piped (call : Call) : Prop where
  line : call.receiving = true → call.offered = call.delivered ++ call.channel ++ call.inFlight
  okay : ∀ item ∈ call.delivered, item.isOk
  closed : call.receiving = false →
    call.ended = true ∧ call.delivered = clear call.offered ∧
      (call.Failed ∨ call.phase = .exited)
  ended : call.ended = true → call.receiving = false
  exited : call.phase = .exited → call.handles = []
  kept : ¬call.Failed → ∀ task ∈ call.started,
    task ∈ call.handles ∨ task.index ∈ origins call.offered

namespace Piped

variable {setup : Setup} {call after : Call}

theorem of_same (holds : Piped call) (receiving : after.receiving = call.receiving)
    (line : call.receiving = true → after.channel ++ after.inFlight = call.channel ++ call.inFlight)
    (delivered : after.delivered = call.delivered) (ended : after.ended = call.ended)
    (offered : after.offered = call.offered)
    (exited : after.phase = .exited → after.handles = [])
    (closed : call.receiving = false → call.phase = .exited → after.phase = .exited)
    (kept : ¬call.Failed → ∀ task ∈ after.started,
      task ∈ after.handles ∨ task.index ∈ origins call.offered) : Piped after where
  line open_ := by
    rw [offered, delivered, List.append_assoc, line (receiving ▸ open_), ← List.append_assoc]
    exact holds.line (receiving ▸ open_)
  okay := delivered ▸ holds.okay
  closed shut := by
    obtain ⟨atEnd, got, why⟩ := holds.closed (receiving ▸ shut)
    simp only [Call.Failed] at why ⊢
    rw [offered, delivered, ended]
    exact ⟨atEnd, got, why.imp_right (closed (receiving ▸ shut))⟩
  ended atEnd := receiving ▸ holds.ended (ended ▸ atEnd)
  exited := exited
  kept notFailed := by
    simp only [Call.Failed, offered] at notFailed
    rw [offered]
    exact kept notFailed

theorem offer (holds : Piped call) (item : Item) (fromInput : Bool) (selects : call.phase = .select)
    {handles : List Task} {started : List Task}
    (kept : ¬call.Failed → ∀ task ∈ started, task ∈ handles ∨
      task.index ∈ origins call.offered ∨ item.origin = some task.index)
    (same : after = { (call.offer item fromInput) with
      handles, started, input := after.input, resultCount := after.resultCount }) :
    Piped after := by
  have idle : call.inFlight = [] := by simp [Call.inFlight, selects]
  have failed : call.Failed → ∀ more, clear (call.offered ++ more) = clear call.offered :=
    fun failed => clear_append_of_failed failed
  rw [same]
  exact {
    line := fun open_ => by
      have line := holds.line open_
      rw [idle, List.append_nil] at line
      simp [Call.offer, Call.inFlight, line]
    okay := holds.okay
    closed := fun shut => by
      obtain ⟨atEnd, got, why⟩ := holds.closed shut
      rcases why with error | exited
      · refine ⟨atEnd, by simp [Call.offer, failed error, got], .inl ?_⟩
        obtain ⟨wrong, held, isError⟩ := error
        exact ⟨wrong, List.mem_append_left _ held, isError⟩
      · simp [selects] at exited
    ended := holds.ended
    exited := fun exited => by simp [Call.offer] at exited
    kept := fun notFailed task running => by
      have before : ¬call.Failed := fun ⟨wrong, held, isError⟩ =>
        notFailed ⟨wrong, List.mem_append_left _ held, isError⟩
      simp only [Call.offer, origins_append, List.mem_append]
      rcases kept before task running with still | old | new
      · exact .inl still
      · exact .inr (.inl old)
      · exact .inr (.inr (by simp [origins, new])) }

theorem start (holds : Piped call) (idle : call.phase = .idle) : Piped (call.start setup) := by
  simp only [Call.start]
  split
  · exact holds.of_same rfl (fun _ => by simp [Call.inFlight, idle]) rfl rfl rfl (by simp)
      (by simp [idle]) holds.kept
  · exact holds.of_same rfl (fun _ => by simp [Call.inFlight, idle]) rfl rfl rfl (by simp)
      (by simp [idle]) holds.kept

theorem next_exited (call : Call) : call.next.phase = .exited → call.next.handles = [] := by
  intro exited
  rcases call.next_phase with goesOn | atEnd
  · simp [goesOn] at exited
  · exact atEnd.2.1

section

variable (holds : Piped call)
include holds

theorem message (selects : call.phase = .select) : Piped (call.message setup) := by
  have idle : call.inFlight = [] := by simp [Call.inFlight, selects]
  unfold Call.message
  split
  · exact holds.of_same (by simp) (fun _ => by simp [idle]) (by simp) (by simp) (by simp)
      (next_exited _) (by simp [selects]) (by simpa using holds.kept)
  · rename_i sample rest _
    refine holds.of_same (by simp) (fun _ => by simp [idle]) (by simp) (by simp) (by simp)
      (next_exited _) (by simp [selects]) ?_
    intro notFailed task started
    simp only [Call.next_started, List.mem_append, List.mem_singleton] at started
    simp only [Call.next_handles, List.mem_append, List.mem_singleton]
    rcases started with old | rfl
    · exact (holds.kept notFailed task old).imp_left .inl
    · exact .inl (.inr rfl)
  · rename_i status rest _
    exact holds.offer ⟨none, .error status⟩ true selects
      (fun notFailed task started => (holds.kept notFailed task started).imp_right .inl) rfl

theorem join (selects : call.phase = .select) (task : Task) : Piped (call.join setup task) := by
  refine holds.offer ⟨some task.index, task.outcome setup.texts⟩ false selects ?_ rfl
  intro notFailed other started
  rcases holds.kept notFailed other started with running | offered
  · by_cases same : other.index = task.index
    · exact .inr (.inr (by simp [same]))
    · exact .inl (List.mem_filter.mpr ⟨running, by simpa using same⟩)
  · exact .inr (.inl offered)

theorem sent {item : Item} {fromInput : Bool} (sending : call.phase = .sending item fromInput) :
    Piped (call.sent item fromInput) := by
  have flying : call.inFlight = [item] := by simp [Call.inFlight, sending]
  unfold Call.sent
  split
  · exact holds.of_same (by simp) (fun _ => by simp [flying]) (by simp) (by simp) (by simp)
      (next_exited _) (by simp [sending]) (by simpa using holds.kept)
  · rename_i closed
    have shut : call.receiving = false := by simpa using closed
    split
    · exact holds.of_same (by simp) (fun open_ => by simp [shut] at open_) (by simp) (by simp)
        (by simp) (next_exited _) (by simp [sending]) (by simpa using holds.kept)
    · -- the loop breaks, and it does so only after an error
      have failed : call.Failed := by
        rcases (holds.closed shut).2.2 with failed | exited
        · exact failed
        · simp [sending] at exited
      exact holds.of_same rfl (fun open_ => by simp [shut] at open_) rfl rfl rfl (fun _ => rfl)
        (fun _ _ => rfl) (fun notFailed => absurd failed notFailed)

theorem read {item : Item} {rest : List Item} (channel : call.channel = item :: rest)
    (open_ : call.receiving = true) : Piped (call.read item rest) := by
  have line := holds.line open_
  rw [channel] at line
  have okay := holds.okay
  unfold Call.read
  split
  · rename_i ok
    exact {
      line := fun _ => by
        rw [line]
        simp [Call.inFlight]
      okay := by
        intro got held
        rcases List.mem_append.mp held with old | new
        · exact okay got old
        · rw [List.mem_singleton.mp new]
          exact ok
      closed := fun shut => by simp [open_] at shut
      ended := holds.ended
      exited := holds.exited
      kept := holds.kept }
  · rename_i error
    exact {
      line := fun open_ => by simp at open_
      okay := okay
      closed := fun _ => by
        refine ⟨rfl, ?_, .inl ⟨item, by simp [line], error⟩⟩
        simp only [line, List.append_assoc]
        rw [clear_append_of_all okay, clear, List.cons_append, List.takeWhile_cons, if_neg error,
          List.append_nil]
      ended := fun _ => rfl
      exited := holds.exited
      kept := holds.kept }

theorem finish (exited : call.phase = .exited) (channel : call.channel = [])
    (open_ : call.receiving = true) : Piped { call with receiving := false, ended := true } where
  line open_ := by simp at open_
  okay := holds.okay
  closed _ := by
    have line := holds.line open_
    have nothing : call.inFlight = [] := by simp [Call.inFlight, exited]
    rw [channel, nothing, List.append_nil, List.append_nil] at line
    refine ⟨rfl, ?_, .inr exited⟩
    simp only [line]
    exact (clear_of_all holds.okay).symm
  ended _ := rfl
  exited := holds.exited
  kept := holds.kept

theorem step {label : Label} (reads : label ≠ .stop) (taken : call.step setup label = some after) :
    Piped after := by
  cases Call.steps taken with
  | call idle => exact holds.start idle
  | message selects => exact holds.message selects
  | join task selects => exact holds.join selects task
  | send item fromInput sending => exact holds.sent sending
  | read item rest channel open_ => exact holds.read channel open_
  | finish exited channel open_ => exact holds.finish exited channel open_
  | stop => exact absurd rfl reads

end

attribute [local simp] StreamService.initial

theorem initial (samples : List (Except Status SampleEnvelope)) (pending : Nat) :
    Piped (StreamService.initial samples pending) where
  line _ := rfl
  okay := by simp
  closed shut := by simp at shut
  ended atEnd := by simp at atEnd
  exited exited := by simp at exited
  kept := by simp

end Piped

/-! ### Nothing behind an error -/

/-- The execution of the sample gives a result. -/
def Task.Succeeds (setup : Setup) (task : Task) : Prop := (task.outcome setup.texts).isOk = true

instance (setup : Setup) (task : Task) : Decidable (task.Succeeds setup) :=
  inferInstanceAs (Decidable (_ = true))

/-- Every sample that succeeds has its result before the first error, or can still have it there. -/
def Fine (setup : Setup) (call : Call) : Prop :=
  ∀ task ∈ call.started, task.Succeeds setup →
    task.index ∈ origins (clear call.offered) ∨ ¬call.Failed ∧ task ∈ call.handles

/-- No error goes to the client while a sample runs that succeeds, and none that succeeds is taken
up after an error. -/
def Meets (setup : Setup) (call : Call) : Label → Prop
  | .message =>
    match call.input with
    | [] => True
    | .ok sample :: _ => (call.newTask setup sample).Succeeds setup → ¬call.Failed
    | .error _ :: _ => ∀ task ∈ call.handles, ¬task.Succeeds setup
  | .join index =>
    (∃ task ∈ call.handles, task.index = index ∧ ¬task.Succeeds setup) →
      ∀ task ∈ call.handles, ¬task.Succeeds setup
  | _ => True

section Fine

variable {setup : Setup} {call after : Call}

theorem fine_of_same (started : after.started = call.started)
    (offered : after.offered = call.offered)
    (handles : after.handles = call.handles ∨ call.Failed) :
    Fine setup after ↔ Fine setup call := by
  unfold Fine
  rw [started]
  have failed : after.Failed ↔ call.Failed := by rw [Call.Failed, Call.Failed, offered]
  rw [offered, failed]
  rcases handles with same | error
  · rw [same]
  · simp [error]

theorem fine_of_failed (failed : call.Failed) :
    Fine setup call ↔ ∀ task ∈ call.started, task.Succeeds setup →
      task.index ∈ origins (clear call.offered) := by
  simp [Fine, failed]

variable {items : List Item}

theorem clear_append_error {item : Item} (error : ¬item.isOk) :
    clear (items ++ [item]) = clear items := by
  by_cases failed : ∃ wrong ∈ items, ¬wrong.isOk
  · exact clear_append_of_failed failed _
  · have all : ∀ item ∈ items, item.isOk := by simpa using failed
    rw [clear_append_of_all all, clear_of_all all, clear, List.takeWhile_cons, if_neg error,
      List.append_nil]

section

variable (accounted : Accounted setup call)
include accounted

theorem fine_offer_error {item : Item} (error : ¬item.isOk) (started : after.started = call.started)
    (offered : after.offered = call.offered ++ [item]) :
    Fine setup after ↔ Fine setup call ∧ ∀ task ∈ call.handles, ¬task.Succeeds setup := by
  have failed : after.Failed := ⟨item, by simp [offered], error⟩
  rw [fine_of_failed failed, started, offered, clear_append_error error]
  constructor
  · intro all
    refine ⟨fun task old succeeds => .inl (all task old succeeds), fun task running succeeds => ?_⟩
    exact accounted.notOffered running
      (origins_clear_subset (all task (accounted.running task running) succeeds))
  · rintro ⟨fine, none⟩ task old succeeds
    exact (fine task old succeeds).resolve_right fun open_ => none task open_.2 succeeds

theorem fine_spawn {sample : SampleEnvelope}
    (started : after.started = call.started ++ [call.newTask setup sample])
    (handles : after.handles = call.handles ++ [call.newTask setup sample])
    (offered : after.offered = call.offered) : Fine setup after ↔
      Fine setup call ∧ ((call.newTask setup sample).Succeeds setup → ¬call.Failed) := by
  have failed : after.Failed ↔ call.Failed := by rw [Call.Failed, Call.Failed, offered]
  have fresh : (call.newTask setup sample).index ∉ origins (clear call.offered) := fun held =>
    lt_irrefl _ (accounted.origin_lt (origins_clear_subset held))
  unfold Fine
  rw [started, handles, offered, failed]
  simp only [List.mem_append, List.mem_singleton]
  constructor
  · intro fine
    refine ⟨fun task old succeeds => ?_, fun succeeds => ?_⟩
    · rcases fine task (.inl old) succeeds with early | ⟨notFailed, running | rfl⟩
      · exact .inl early
      · exact .inr ⟨notFailed, running⟩
      · exact absurd (accounted.index_lt old) (lt_irrefl _)
    · exact ((fine _ (.inr rfl) succeeds).resolve_left fresh).1
  · rintro ⟨fine, open_⟩ task (old | rfl) succeeds
    · exact (fine task old succeeds).imp_right fun running => ⟨running.1, .inl running.2⟩
    · exact .inr ⟨open_ succeeds, .inr rfl⟩

theorem fine_join_ok {task : Task} (running : task ∈ call.handles)
    (succeeds : task.Succeeds setup) :
    Fine setup (call.join setup task) ↔ Fine setup call := by
  have ok : (⟨some task.index, task.outcome setup.texts⟩ : Item).isOk = true := succeeds
  by_cases failed : call.Failed
  · have still : (call.join setup task).Failed := by
      obtain ⟨wrong, held, error⟩ := failed
      exact ⟨wrong, List.mem_append_left _ held, error⟩
    rw [fine_of_failed failed, fine_of_failed still]
    simp only [Call.join, Call.offer, clear_append_of_failed failed]
  · have all := Call.not_failed.mp failed
    have all' : ∀ item ∈ (call.join setup task).offered, item.isOk := by
      intro item held
      rcases List.mem_append.mp held with old | new
      · exact all item old
      · rw [List.mem_singleton.mp new]
        exact ok
    have still := Call.not_failed.mpr all'
    have own : origins (call.join setup task).offered = origins call.offered ++ [task.index] := by
      simp only [Call.join, Call.offer, origins_append]
      rfl
    unfold Fine
    rw [clear_of_all all, clear_of_all all', own]
    have one : ∀ other ∈ call.started, (other.index ∈ origins call.offered ++ [task.index] ∨
            ¬(call.join setup task).Failed ∧ other ∈ (call.join setup task).handles) ↔
          (other.index ∈ origins call.offered ∨ ¬call.Failed ∧ other ∈ call.handles) := by
      intro other old
      have rest : other ∈ (call.join setup task).handles ↔
          other ∈ call.handles ∧ other.index ≠ task.index := by
        simp [Call.join, Call.offer]
      simp only [rest, List.mem_append, List.mem_singleton, failed, still, not_false_eq_true,
        true_and]
      by_cases same : other.index = task.index
      · rw [accounted.task_inj old (accounted.running task running) same]
        simp [running]
      · simp [same]
    exact forall₃_congr fun other old _ => one other old

theorem fine_step (piped : Piped call) {label : Label}
    (taken : call.step setup label = some after) :
    Fine setup after ↔ Fine setup call ∧ Meets setup call label := by
  cases Call.steps taken with
  | call =>
    have same := call.start_same setup
    simp [Meets, fine_of_same same.1 same.2.2 (.inl same.2.1)]
  | message =>
    unfold Call.message Meets
    split
    · rw [and_true]
      exact fine_of_same (by simp) (by simp) (.inl (by simp))
    · exact fine_spawn accounted (by simp) (by simp) (by simp)
    · exact fine_offer_error accounted (by simp [Item.isOk, Except.isOk, Except.toBool]) rfl rfl
  | join task _ running =>
    have alone : ∀ other ∈ call.handles, other.index = task.index → other = task :=
      fun other held =>
        accounted.task_inj (accounted.running other held) (accounted.running task running)
    by_cases succeeds : task.Succeeds setup
    · rw [fine_join_ok accounted running succeeds]
      refine ⟨fun fine => ⟨fine, ?_⟩, fun fine => fine.1⟩
      rintro ⟨other, held, same, fails⟩
      exact absurd (alone other held same ▸ succeeds) fails
    · have error : ¬(⟨some task.index, task.outcome setup.texts⟩ : Item).isOk := succeeds
      have step : Fine setup (call.join setup task) ↔ _ := fine_offer_error accounted error rfl rfl
      rw [step]
      refine and_congr_right fun _ => ⟨fun none _ => none, fun none => ?_⟩
      exact none ⟨task, running, rfl, succeeds⟩
  | send item fromInput sending =>
    obtain ⟨started, offered, handles⟩ := call.sent_same item fromInput
    have same : Fine setup (call.sent item fromInput) ↔ Fine setup call := by
      refine fine_of_same started offered (handles.imp_right fun closed => ?_)
      rcases (piped.closed closed.1).2.2 with failed | exited
      · exact failed
      · simp [sending] at exited
    simp [Meets, same]
  | read item rest =>
    have same := call.read_same item rest
    simp [Meets, fine_of_same same.1 same.2.2.1 (.inl same.2.1)]
  | finish =>
    have same : Fine setup { call with receiving := false, ended := true } ↔ Fine setup call :=
      fine_of_same rfl rfl (.inl rfl)
    simp [Meets, same]
  | stop =>
    have same : Fine setup { call with receiving := false, channel := [] } ↔ Fine setup call :=
      fine_of_same rfl rfl (.inl rfl)
    simp [Meets, same]

end

/-! ### Sample by sample -/

/-- Each sample that succeeds has its result delivered once. -/
def EachDelivered (setup : Setup) (call : Call) : Prop :=
  ∀ task ∈ call.started, ∀ result, task.outcome setup.texts = .ok result →
    call.delivered.filter (·.origin = some task.index) = [⟨some task.index, .ok result⟩]

theorem filter_origin {index : Nat} (nodup : (origins items).Nodup) {item : Item}
    (held : item ∈ items) (own : item.origin = some index) :
    items.filter (·.origin = some index) = [item] := by
  induction items with
  | nil => simp at held
  | cons first rest ih =>
    rcases List.mem_cons.mp held with rfl | later
    · have none : rest.filter (·.origin = some index) = [] := by
        rw [List.filter_eq_nil_iff]
        intro other old same
        have again : index ∈ origins rest := mem_origins.mpr ⟨other, old, by simpa using same⟩
        simp only [origins, List.filterMap_cons, own, List.nodup_cons] at nodup
        exact nodup.1 again
      simp [own, none]
    · have rest_ : (origins rest).Nodup :=
        nodup.sublist ((List.sublist_cons_self first rest).filterMap _)
      have other : first.origin ≠ some index := by
        intro same
        have again : index ∈ origins rest := mem_origins.mpr ⟨item, later, own⟩
        simp only [origins, List.filterMap_cons, same, List.nodup_cons] at nodup
        exact nodup.1 again
      simp [other, ih rest_ later]

/-- When the client has seen the end, the results delivered are the ones before the first error. -/
theorem eachDelivered_iff (accounted : Accounted setup call) (piped : Piped call)
    (atEnd : call.ended = true) : EachDelivered setup call ↔ Fine setup call := by
  obtain ⟨-, got, why⟩ := piped.closed (piped.ended atEnd)
  have nodup : (origins call.delivered).Nodup := by
    rw [got]
    exact (List.nodup_append.mp accounted.nodup).2.1.sublist
      ((List.takeWhile_sublist _).filterMap _)
  have idle : ¬call.Failed → call.handles = [] := fun notFailed =>
    piped.exited (why.resolve_left notFailed)
  constructor
  · intro each task started succeeds
    obtain ⟨result, outcome⟩ := isOk_iff.mp succeeds
    have mine : (⟨some task.index, .ok result⟩ : Item) ∈ call.delivered := by
      have one := each task started result outcome
      exact List.mem_of_mem_filter (one ▸ List.mem_singleton_self _)
    rw [← got]
    exact .inl (mem_origins.mpr ⟨_, mine, rfl⟩)
  · intro fine task started result outcome
    have succeeds : task.Succeeds setup := isOk_iff.mpr ⟨result, outcome⟩
    rcases fine task started succeeds with early | ⟨notFailed, running⟩
    · rw [← got] at early
      obtain ⟨item, held, own⟩ := mem_origins.mp early
      have offered : item ∈ call.offered := by
        rw [got] at held
        exact List.takeWhile_subset _ held
      obtain ⟨other, old, same, answer⟩ := accounted.own item offered _ own
      obtain rfl := accounted.task_inj old started same
      have eq : item = ⟨some other.index, .ok result⟩ := by
        rw [← own, ← outcome, ← answer]
      rw [filter_origin nodup held own, eq]
    · simp [idle notFailed] at running

end Fine

/-! ### The server's side -/

/-- The pending batches, with the call's own while its guard lives. -/
def pendingAt (pending : Nat) : Phase → Nat
  | .select => pending + 1
  | .sending _ _ => pending + 1
  | _ => pending

/-- The samples taken from the input so far. -/
def Call.taken (call : Call) : List (Except Status SampleEnvelope) :=
  call.started.map fun task => .ok task.sample

/-- The input is read on. -/
def Call.Reading (call : Call) : Prop :=
  call.inputDone = false ∧ ∀ item, call.phase ≠ .sending item true

/-- Whatever the client does: the samples are taken in order, at most so many run at a time, and
the guard counts while the task runs. -/
structure Served (setup : Setup) (samples : List (Except Status SampleEnvelope)) (pending : Nat)
    (call : Call) : Prop where
  bounded : call.handles.length ≤ setup.maxStreamSamples
  taken : call.taken <+: samples
  rest : call.Reading → call.taken ++ call.input = samples
  pending : call.pendingBatches = pendingAt pending call.phase

namespace Served

variable {setup : Setup} {samples : List (Except Status SampleEnvelope)} {pending : Nat}
  {call after : Call}

theorem pending_next {call : Call} (counted : call.pendingBatches = pending + 1) :
    call.next.pendingBatches = pendingAt pending call.next.phase := by
  rcases call.next_phase with goesOn | ⟨exited, -, dropped⟩
  · rw [goesOn, Call.next_pending call goesOn, counted]
    rfl
  · rw [exited, dropped, counted]
    rfl

@[simp] theorem taken_next (call : Call) : call.next.taken = call.taken := by
  simp [Call.taken]

@[simp] theorem inputDone_next (call : Call) : call.next.inputDone = call.inputDone := by
  unfold Call.next
  split <;> rfl

section

variable (holds : Served setup samples pending call)
include holds

theorem message (selects : call.phase = .select) (open_ : call.inputDone = false)
    (room : call.handles.length < setup.maxStreamSamples) :
    Served setup samples pending (call.message setup) := by
  have rest := holds.rest ⟨open_, by simp [selects]⟩
  have counted : call.pendingBatches = pending + 1 := by rw [holds.pending, selects]; rfl
  unfold Call.message
  split
  · exact {
      bounded := by simpa using holds.bounded
      taken := by
        rw [taken_next]
        exact holds.taken
      rest := fun reading => by simp [Call.Reading] at reading
      pending := pending_next counted }
  · rename_i sample input read
    have line : (call.taken ++ [.ok sample]) ++ input = samples := by
      rw [← rest, read, List.append_assoc, List.singleton_append]
    exact {
      bounded := by simpa [Nat.succ_le_iff] using room
      taken := ⟨input, by simpa [Call.taken, Call.newTask] using line⟩
      rest := fun _ => by simpa [Call.taken, Call.newTask] using line
      pending := pending_next counted }
  · exact {
      bounded := holds.bounded
      taken := holds.taken
      rest := fun reading => absurd rfl (reading.2 _)
      pending := counted }

theorem join (selects : call.phase = .select) (task : Task) :
    Served setup samples pending (call.join setup task) where
  bounded := (List.length_filter_le _ _).trans holds.bounded
  taken := holds.taken
  rest reading := holds.rest ⟨reading.1, by simp [selects]⟩
  pending := by
    have counted := holds.pending
    rw [selects] at counted
    exact counted

theorem sent {item : Item} {fromInput : Bool} (sending : call.phase = .sending item fromInput) :
    Served setup samples pending (call.sent item fromInput) := by
  have counted : call.pendingBatches = pending + 1 := by rw [holds.pending, sending]; rfl
  unfold Call.sent
  split
  · exact {
      bounded := by simpa using holds.bounded
      taken := by
        rw [taken_next]
        exact holds.taken
      rest := fun reading => by
        have open_ : call.inputDone = false ∧ fromInput = false := by
          simpa [Call.Reading] using reading.1
        rw [taken_next, Call.next_input]
        exact holds.rest ⟨open_.1, by simp [sending, open_.2]⟩
      pending := pending_next counted }
  · split
    · exact {
        bounded := by simpa using holds.bounded
        taken := by
          rw [taken_next]
          exact holds.taken
        rest := fun reading => by simp [Call.Reading] at reading
        pending := pending_next counted }
    · rename_i fromTask
      exact {
        bounded := Nat.zero_le _
        taken := holds.taken
        rest := fun reading => holds.rest ⟨reading.1, by simp_all⟩
        pending := by simp [Call.exit, counted, pendingAt] }

theorem step {label : Label} (taken : call.step setup label = some after) :
    Served setup samples pending after := by
  cases Call.steps taken with
  | call idle =>
    have counted := holds.pending
    simp only [idle, pendingAt] at counted
    have reading : call.inputDone = false → call.taken ++ call.input = samples := fun open_ =>
      holds.rest ⟨open_, by simp [idle]⟩
    simp only [Call.start]
    split
    · exact ⟨holds.bounded, holds.taken, fun open_ => reading open_.1, counted⟩
    · exact ⟨holds.bounded, holds.taken, fun open_ => reading open_.1, by simp [counted, pendingAt]⟩
  | message selects open_ room => exact holds.message selects open_ room
  | join task selects => exact holds.join selects task
  | send item fromInput sending => exact holds.sent sending
  | read =>
    unfold Call.read
    split <;> exact ⟨holds.bounded, holds.taken, holds.rest, holds.pending⟩
  | finish => exact ⟨holds.bounded, holds.taken, holds.rest, holds.pending⟩
  | stop => exact ⟨holds.bounded, holds.taken, holds.rest, holds.pending⟩

end

theorem initial : Served setup samples pending (StreamService.initial samples pending) where
  bounded := Nat.zero_le _
  taken := ⟨samples, rfl⟩
  rest _ := rfl
  pending := rfl

end Served

/-! ### The call as a whole -/

/-- Streamed execution, sample by sample, in a state of the call. -/
structure BySample (setup : Setup) (samples : List (Except Status SampleEnvelope)) (pending : Nat)
    (keepsReading : Prop) (call : Call) : Prop where
  executed : call.taken <+: samples ∧
    call.started.map (·.index) = List.range call.started.length
  bounded : call.handles.length ≤ setup.maxStreamSamples
  delivered : keepsReading → call.ended = true → EachDelivered setup call
  restored : call.phase = .exited ∨ (∃ status, call.phase = .refused status) →
    call.pendingBatches = pending

section Runs

variable {setup : Setup} {samples : List (Except Status SampleEnvelope)} {pending : Nat}
  {call after : Call}

variable {schedule : List Label}

theorem served_exec (accounted : Accounted setup call) (served : Served setup samples pending call)
    (ran : (system setup samples pending).exec call schedule = some after) :
    Accounted setup after ∧ Served setup samples pending after := by
  induction schedule generalizing call with
  | nil =>
    cases ran
    exact ⟨accounted, served⟩
  | cons label rest ih =>
    obtain ⟨middle, taken, ran⟩ := Option.bind_eq_some_iff.mp ran
    exact ih (accounted.step taken) (served.step taken) ran

theorem fine_exec (accounted : Accounted setup call) (piped : Piped call) (reads : .stop ∉ schedule)
    (ran : (system setup samples pending).exec call schedule = some after) :
    Piped after ∧ (Fine setup after ↔
      Fine setup call ∧ (system setup samples pending).Along (Meets setup) call schedule) := by
  induction schedule generalizing call with
  | nil =>
    cases ran
    exact ⟨piped, by simp [System.Along]⟩
  | cons label rest ih =>
    rw [List.mem_cons, not_or] at reads
    obtain ⟨middle, taken, ran⟩ := Option.bind_eq_some_iff.mp ran
    obtain ⟨pipedAfter, fine⟩ :=
      ih (accounted.step taken) (piped.step (fun same => reads.1 same.symm) taken) reads.2 ran
    have along : (system setup samples pending).Along (Meets setup) call (label :: rest) ↔
        Meets setup call label ∧
          (system setup samples pending).Along (Meets setup) middle rest := by
      simp only [System.Along, taken, Option.mem_def, Option.some.injEq, forall_eq']
    refine ⟨pipedAfter, ?_⟩
    rw [fine, fine_step accounted piped taken, along, and_assoc]

/-- A call is served sample by sample if the client stops reading, and as long as the stream goes
on; when a client that keeps reading has seen the end, exactly if no error came before a result. -/
theorem bySample_iff (setup : Setup) (samples : List (Except Status SampleEnvelope))
    (pending : Nat) {schedule : List Label}
    (ran : (system setup samples pending).exec (initial samples pending) schedule = some call) :
    BySample setup samples pending (.stop ∉ schedule) call ↔ (.stop ∉ schedule → call.ended = true →
        (system setup samples pending).Along (Meets setup) (initial samples pending) schedule) := by
  have start := accounted_initial setup samples pending
  obtain ⟨accounted, served⟩ := served_exec start Served.initial ran
  have fine : Fine setup (initial samples pending) := by simp [Fine, initial]
  have ends : .stop ∉ schedule → call.ended = true → (EachDelivered setup call ↔
      (system setup samples pending).Along (Meets setup) (initial samples pending) schedule) := by
    intro reads atEnd
    obtain ⟨piped, along⟩ := fine_exec start (Piped.initial samples pending) reads ran
    rw [eachDelivered_iff accounted piped atEnd, along]
    exact ⟨fun both => both.2, fun along => ⟨fine, along⟩⟩
  constructor
  · exact fun bySample reads atEnd => (ends reads atEnd).mp (bySample.delivered reads atEnd)
  · intro along
    exact {
      executed := ⟨served.taken, accounted.indices⟩
      bounded := served.bounded
      delivered := fun reads atEnd => (ends reads atEnd).mpr (along reads atEnd)
      restored := by
        rw [served.pending]
        rintro (exited | ⟨status, refused⟩)
        · rw [exited]
          rfl
        · rw [refused]
          rfl }

end Runs

/-! ### Two runs -/

/-- A server whose episode service answers every sample with the rollout. -/
def rolloutSetup : Setup where
  texts := rolloutTexts
  execution _ := .ok fun _ => .ok [rolloutResult 11]
  maxPendingBatches := 64
  maxStreamSamples := 64

def rolloutSample : SampleEnvelope :=
  { requestId := "episode-1", batchId := "batch-1", sampleIndex := 0, framework := "verl" }

/-- A sample without a request id, which its own check refuses. -/
def namelessSample : SampleEnvelope := { rolloutSample with requestId := "" }

def secondSample : SampleEnvelope := { rolloutSample with sampleIndex := 1 }

/-- Both samples run at once, and the second is there first. -/
def rolloutSchedule : List Label :=
  [.call, .message, .message, .join 1, .send, .join 0, .send, .read, .message, .read, .finish]

theorem bySample_rollout :
    ∃ call, (system rolloutSetup [.ok rolloutSample, .ok secondSample] 0).exec
        (initial [.ok rolloutSample, .ok secondSample] 0) rolloutSchedule = some call ∧
      call.ended = true ∧ BySample rolloutSetup [.ok rolloutSample, .ok secondSample] 0
        (.stop ∉ rolloutSchedule) call := by
  refine ⟨_, rfl, rfl, (bySample_iff _ _ 0 rfl).mpr fun _ _ => ?_⟩
  refine ⟨trivial, fun _ taken => ?_⟩
  cases taken
  refine ⟨fun _ failed => ?_, fun _ taken => ?_⟩
  · obtain ⟨_, held, -⟩ := failed
    cases held
  cases taken
  refine ⟨fun _ failed => ?_, fun _ taken => ?_⟩
  · obtain ⟨_, held, -⟩ := failed
    cases held
  cases taken
  refine ⟨?_, fun _ taken => ?_⟩
  · rintro ⟨task, held, at_, fails⟩
    rcases List.mem_cons.mp held with rfl | held
    · cases at_
    · obtain rfl := List.mem_singleton.mp held
      exact absurd rfl fails
  cases taken
  refine ⟨trivial, fun _ taken => ?_⟩
  cases taken
  refine ⟨?_, fun _ taken => ?_⟩
  · rintro ⟨task, held, -, fails⟩
    obtain rfl := List.mem_singleton.mp held
    exact absurd rfl fails
  cases taken
  refine ⟨trivial, fun _ taken => ?_⟩
  cases taken
  refine ⟨trivial, fun _ taken => ?_⟩
  cases taken
  refine ⟨trivial, fun _ taken => ?_⟩
  cases taken
  refine ⟨trivial, fun _ taken => ?_⟩
  cases taken
  exact ⟨trivial, fun _ _ => trivial⟩

/-- The nameless sample fails first: the stream ends with its error, and the result of the other
sample is never delivered. -/
theorem error_before_result :
    ∃ call, (system rolloutSetup [.ok namelessSample, .ok rolloutSample] 0).exec
        (initial [.ok namelessSample, .ok rolloutSample] 0)
        [.call, .message, .message, .join 0, .send, .read, .join 1, .send] = some call ∧
      call.ended = true ∧ call.delivered = [] ∧
      ((executeSample rolloutTexts (fun _ => .ok [rolloutResult 11]) rolloutSample).isOk = true) ∧
      ¬BySample rolloutSetup [.ok namelessSample, .ok rolloutSample] 0 True call := by
  refine ⟨_, rfl, rfl, rfl, rfl, fun bySample => ?_⟩
  have each := bySample.delivered trivial rfl ⟨1, rolloutSample, _⟩
    (List.mem_cons_of_mem _ List.mem_cons_self) _ rfl
  cases each

end UEnv.Bridge.StreamService
