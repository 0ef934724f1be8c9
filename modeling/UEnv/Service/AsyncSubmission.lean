import UEnv.Lib.Runs
import UEnv.Service.ResultFinalizer
import Mathlib.Data.List.Sort

/-!
# Asynchronous submission without a store

`submit_episode_async`, the task that it spawns, and `get_result` (`service/episode.rs`), with
`completed_async` and the two tables of active episodes. Of an execution only its entry check, what
it does to `active_episodes` while it runs (a failed attempt removes the entry and the next dispatch
puts it back) and its outcome are modelled; the outcome is in the label.
-/

namespace UEnv.Service

open Proto Tables Scheduler Runs

/-- state.rs, 213-216. -/
structure CompletedAsyncResult where
  result : EpisodeResult
  completedAt : Instant

/-- Where a spawned task stands. -/
inductive TaskStage
  | spawned
  | running
  | returned (outcome : Except String EpisodeResult)
  | stored (result : EpisodeResult)

/-- A task of `submit_episode_async`. `ran` is history: the task passed the entry check. -/
structure AsyncTask where
  request : EpisodeRequest
  stage : TaskStage
  ran : Bool

/-- What a submission uses of `ServerState` (state.rs, 21-91). -/
structure AsyncServer where
  completedAsyncTtlSecs : Nat
  completedAsyncMaxEntries : Nat
  -- the keys of `active_episodes` and of `active_episode_handles`
  activeEpisodes : Map String Unit := ∅
  activeEpisodeHandles : Map String Unit := ∅
  completedAsync : Map String CompletedAsyncResult := ∅
  tasks : Map Nat AsyncTask := ∅

namespace AsyncServer

inductive Label
  | submit (t : Nat) (now : Instant) (uuid : Uuid) (request : EpisodeRequest)
  | start (t : Nat) (uuid : Uuid) (clock : Clock)
  | lapse (t : Nat)
  | renew (t : Nat)
  | finish (t : Nat) (outcome : Except String EpisodeResult)
  | store (t : Nat) (clock : Clock)
  | sweep (now : Instant)
  | getResult (now : Instant) (episodeId : String)

variable (s : AsyncServer)

/-- The entries that are younger than the time to live, which is off when it is zero. -/
def retainFresh (now : Instant) : AsyncServer :=
  if 0 < s.completedAsyncTtlSecs then
    { s with completedAsync := s.completedAsync.filter fun _ entry =>
        decide (now - entry.completedAt ≤ s.completedAsyncTtlSecs * 1000000000) }
  else s

/-- The entries by age. -/
def byAge : List (String × CompletedAsyncResult) :=
  s.completedAsync.toList.insertionSort fun a b => a.2.completedAt ≤ b.2.completedAt

/-- `sweep_completed_async`: the expired entries go, then the oldest beyond the limit. -/
def sweepCompletedAsync (now : Instant) : AsyncServer :=
  let s := s.retainFresh now
  if 0 < s.completedAsyncMaxEntries ∧ s.completedAsyncMaxEntries < s.completedAsync.size then
    let overflow := s.completedAsync.size - s.completedAsyncMaxEntries
    { s with completedAsync :=
        (s.byAge.take overflow).foldl (fun table entry => table.erase entry.1) s.completedAsync }
  else s

/-- `store_completed_async` (prelude_and_guards.rs, 439-454). -/
def storeCompletedAsync (now : Instant) (result : EpisodeResult) : AsyncServer :=
  let s := s.sweepCompletedAsync now
  if s.completedAsyncMaxEntries = 0 then s
  else
    let entry : CompletedAsyncResult := { result, completedAt := now }
    let s := { s with completedAsync := s.completedAsync.insert result.episodeId entry }
    s.sweepCompletedAsync now

/-- `get_result` (episode.rs, 1480-1487). -/
def getResult (now : Instant) (episodeId : String) : AsyncServer × Option EpisodeResult :=
  let s := s.sweepCompletedAsync now
  (s, (s.completedAsync[episodeId]?).map CompletedAsyncResult.result)

/-- `submit_episode_async`: a known episode is answered with its id, else a task is spawned. -/
def submitEpisodeAsync (t : Nat) (now : Instant) (uuid : Uuid) (request : EpisodeRequest) :
    AsyncServer :=
  let request := normalizeEpisodeRequest uuid request
  let s := s.retainFresh now
  if s.completedAsync.contains request.episodeId ||
      s.activeEpisodeHandles.contains request.episodeId then s
  else { s with tasks := s.tasks.insert t { request, stage := .spawned, ran := false } }

/-- The spawned task enters `submit_episode` and `execute_episode_inner`, up to the entry check. -/
def start (task : AsyncTask) (uuid : Uuid) (clock : Clock) : AsyncServer × AsyncTask :=
  match prepare uuid clock.unixSeconds task.request with
  | .error error => (s, { task with stage := .returned (.error error) })
  | .ok request =>
    if s.activeEpisodes.contains request.episodeId then
      let error := s!"episode {request.episodeId} is already active"
      (s, { task with stage := .returned (.error error) })
    else
      ({ s with
          activeEpisodes := s.activeEpisodes.insert request.episodeId ()
          activeEpisodeHandles := s.activeEpisodeHandles.insert request.episodeId () },
        { request, stage := .running, ran := true })

/-- The result that the task stores for an error of `submit_episode`. -/
def asyncFailure (clock : Clock) (episodeId error : String) : EpisodeResult :=
  let request : EpisodeRequest := { episodeId }
  let request :=
    match ensureAsyncRequestContext clock.unixSeconds request with
    | .ok request => request
    | .error _ => request
  failedResultFromRequest clock request "failed" error .errInternal none

/-- What the task stores for the outcome of `submit_episode`. -/
def asyncResult (clock : Clock) (episodeId : String) : Except String EpisodeResult → EpisodeResult
  | .ok result => result
  | .error error => asyncFailure clock episodeId error

/-- A step of the task `t`. -/
def ofTask (t : Nat) (step : AsyncTask → Option (AsyncServer × AsyncTask)) : Option AsyncServer :=
  match s.tasks[t]? with
  | none => none
  | some task =>
    match step task with
    | none => none
    | some (s, task) => some { s with tasks := s.tasks.insert t task }

/-- The execution ends: the admission guard removes both entries. Every result is one of the
request. -/
def finish (task : AsyncTask) (outcome : Except String EpisodeResult) :
    Option (AsyncServer × AsyncTask) :=
  match task.stage with
  | .running =>
    if outcome.toOption.all fun result => result.episodeId == task.request.episodeId then
      some ({ s with
          activeEpisodes := s.activeEpisodes.erase task.request.episodeId
          activeEpisodeHandles := s.activeEpisodeHandles.erase task.request.episodeId },
        { task with stage := .returned outcome })
    else none
  | _ => none

/-- A running execution changes its entry of `active_episodes`. -/
def reenter (task : AsyncTask) (change : Map String Unit → String → Map String Unit) :
    Option (AsyncServer × AsyncTask) :=
  match task.stage with
  | .running =>
    some ({ s with activeEpisodes := change s.activeEpisodes task.request.episodeId }, task)
  | _ => none

def step (s : AsyncServer) : Label → Option AsyncServer
  | .submit t now uuid request =>
    if s.tasks.contains t then none else some (s.submitEpisodeAsync t now uuid request)
  | .start t uuid clock =>
    s.ofTask t fun task =>
      match task.stage with
      | .spawned => some (s.start task uuid clock)
      | _ => none
  | .lapse t => s.ofTask t fun task => s.reenter task fun table id => table.erase id
  | .renew t => s.ofTask t fun task => s.reenter task fun table id => table.insert id ()
  | .finish t outcome => s.ofTask t fun task => s.finish task outcome
  | .store t clock =>
    s.ofTask t fun task =>
      match task.stage with
      | .returned outcome =>
        let result := asyncResult clock task.request.episodeId outcome
        some (s.storeCompletedAsync clock.instant result, { task with stage := .stored result })
      | _ => none
  | .sweep now => some (s.retainFresh now)
  | .getResult now episodeId => some (s.getResult now episodeId).1

/-- The runs of a server that starts. -/
def system : System AsyncServer Label where
  init := fun s => s.activeEpisodes = ∅ ∧ s.activeEpisodeHandles = ∅ ∧ s.completedAsync = ∅ ∧
    s.tasks = ∅
  step := step

/-- The result is the one that a task stored whose execution of the episode ran. -/
def Genuine (episodeId : String) (result : EpisodeResult) : Prop :=
  ∃ (t : Nat) (task : AsyncTask), s.tasks[t]? = some task ∧ task.ran = true ∧
    task.request.episodeId = episodeId ∧ task.stage = .stored result

/-- A task that starts has a request with a supported mode, and no other execution of the episode
is registered. -/
def Unopposed : Label → Prop
  | .start t uuid clock => ∀ task ∈ s.tasks[t]?,
    ∃ request ∈ (prepare uuid clock.unixSeconds task.request).toOption,
      s.activeEpisodes.contains request.episodeId = false
  | _ => True

instance decidableUnopposed : ∀ label : Label, Decidable (s.Unopposed label)
  | .start t uuid clock => inferInstanceAs (Decidable (∀ task ∈ s.tasks[t]?,
      ∃ request ∈ (prepare uuid clock.unixSeconds task.request).toOption,
        s.activeEpisodes.contains request.episodeId = false))
  | .submit .. | .lapse .. | .renew .. | .finish .. | .store .. | .sweep .. | .getResult .. =>
    .isTrue trivial

variable {s} {s' : AsyncServer}

/-! ### What sweeping leaves -/

/-- The tasks are the same and every completed result was there before. -/
def Thins (s s' : AsyncServer) : Prop :=
  s'.tasks = s.tasks ∧ ∀ (id : String) (entry : CompletedAsyncResult),
    s'.completedAsync[id]? = some entry → s.completedAsync[id]? = some entry

theorem retainFresh_thins (now : Instant) : Thins s (s.retainFresh now) := by
  unfold retainFresh
  split
  · exact ⟨rfl, fun _ _ present => (lookup_of_filter present).1⟩
  · exact ⟨rfl, fun _ _ present => present⟩

theorem lookup_foldl_erase_iff {doomed : List (String × CompletedAsyncResult)}
    {table : Map String CompletedAsyncResult} {id : String} {entry : CompletedAsyncResult} :
    (doomed.foldl (fun table entry => table.erase entry.1) table)[id]? = some entry ↔
      table[id]? = some entry ∧ id ∉ doomed.map Prod.fst := by
  induction doomed generalizing table with
  | nil => simp
  | cons head tail ih =>
    rw [List.foldl_cons, ih, lookup_erase, List.map_cons, List.mem_cons, not_or]
    by_cases same : head.1 = id
    · simp [same]
    · simp [same, Ne.symm same]

theorem sweepCompletedAsync_thins (now : Instant) : Thins s (s.sweepCompletedAsync now) := by
  have fresh := retainFresh_thins (s := s) now
  unfold sweepCompletedAsync
  simp only
  split
  · exact ⟨fresh.1, fun id entry present =>
      fresh.2 id entry (lookup_foldl_erase_iff.mp present).1⟩
  · exact fresh

theorem storeCompletedAsync_cases (now : Instant) (result : EpisodeResult) :
    (s.storeCompletedAsync now result).tasks = s.tasks ∧
      ∀ (id : String) (entry : CompletedAsyncResult),
        (s.storeCompletedAsync now result).completedAsync[id]? = some entry →
          (id = result.episodeId ∧ entry.result = result) ∨ s.completedAsync[id]? = some entry := by
  have before := sweepCompletedAsync_thins (s := s) now
  unfold storeCompletedAsync
  simp only
  split
  · exact ⟨before.1, fun id entry present => Or.inr (before.2 id entry present)⟩
  · refine ⟨(sweepCompletedAsync_thins now).1.trans before.1, ?_⟩
    intro id entry present
    rcases lookup_insert_cases ((sweepCompletedAsync_thins now).2 id entry present) with
      ⟨same, rfl⟩ | kept
    · exact Or.inl ⟨same, rfl⟩
    · exact Or.inr (before.2 id entry kept)

/-! ### The results name their episode -/

theorem asyncFailure_episodeId (clock : Clock) (episodeId error : String) :
    (asyncFailure clock episodeId error).episodeId = episodeId := by
  unfold asyncFailure failedResultFromRequest
  simp only [finalizeEpisodeResult_episodeId]
  split
  · next request prepared =>
    unfold ensureAsyncRequestContext at prepared
    obtain ⟨mode, _, built⟩ := Fallible.bind_eq_ok.mp prepared
    cases built
    rfl
  · rfl

theorem asyncResult_episodeId {clock : Clock} {episodeId : String}
    {outcome : Except String EpisodeResult}
    (named : ∀ result, outcome = .ok result → result.episodeId = episodeId) :
    (asyncResult clock episodeId outcome).episodeId = episodeId := by
  cases outcome with
  | ok result => exact named result rfl
  | error error => exact asyncFailure_episodeId clock episodeId error

/-! ### The invariant -/

/-- Every completed result is genuine, every task that has started ran, and what it returns is a
result of its episode. -/
structure Sincere (s : AsyncServer) : Prop where
  completed : ∀ (id : String) (entry : CompletedAsyncResult),
    s.completedAsync[id]? = some entry → s.Genuine id entry.result
  started : ∀ (t : Nat) (task : AsyncTask), s.tasks[t]? = some task →
    task.stage = .spawned ∨ task.ran = true
  named : ∀ (t : Nat) (task : AsyncTask) (result : EpisodeResult), s.tasks[t]? = some task →
    task.stage = .returned (.ok result) → result.episodeId = task.request.episodeId

/-- A step of a task that has not stored its result keeps the genuine results genuine. -/
theorem Genuine.insert {t : Nat} {task : AsyncTask} {id : String} {result : EpisodeResult}
    (genuine : s.Genuine id result) (task' : AsyncTask) (present : s.tasks[t]? = some task)
    (unstored : ∀ stored, task.stage ≠ .stored stored)
    (tasks : s'.tasks = s.tasks.insert t task') : s'.Genuine id result := by
  obtain ⟨t', owner, found, ran, named, stored⟩ := genuine
  refine ⟨t', owner, ?_, ran, named, stored⟩
  rw [tasks, lookup_insert, if_neg]
  · exact found
  · rintro rfl
    obtain rfl := Option.some.inj (present.symm.trans found)
    exact unstored result stored

theorem Sincere.insert (sincere : s.Sincere) {t : Nat} {task task' : AsyncTask}
    (present : s.tasks[t]? = some task) (unstored : ∀ stored, task.stage ≠ .stored stored)
    (tasks : s'.tasks = s.tasks.insert t task') (completed : s'.completedAsync = s.completedAsync)
    (ran : task'.stage = .spawned ∨ task'.ran = true)
    (named : ∀ result, task'.stage = .returned (.ok result) →
      result.episodeId = task'.request.episodeId) : s'.Sincere where
  completed := by
    intro id entry found
    rw [completed] at found
    exact (sincere.completed id entry found).insert task' present unstored tasks
  started := by
    intro t' other found
    rw [tasks] at found
    rcases lookup_insert_cases found with ⟨_, rfl⟩ | found
    · exact ran
    · exact sincere.started t' other found
  named := by
    intro t' other result found stage
    rw [tasks] at found
    rcases lookup_insert_cases found with ⟨_, rfl⟩ | found
    · exact named result stage
    · exact sincere.named t' other result found stage

theorem Sincere.thins (sincere : s.Sincere) (thins : Thins s s') : s'.Sincere where
  completed := by
    intro id entry found
    obtain ⟨t, task, present, rest⟩ := sincere.completed id entry (thins.2 id entry found)
    refine ⟨t, task, ?_, rest⟩
    rw [thins.1]
    exact present
  started := by
    rw [thins.1]
    exact sincere.started
  named := by
    rw [thins.1]
    exact sincere.named

theorem ofTask_cases {t : Nat} {step : AsyncTask → Option (AsyncServer × AsyncTask)}
    (taken : s.ofTask t step = some s') :
    ∃ (task task' : AsyncTask) (after : AsyncServer), s.tasks[t]? = some task ∧
      step task = some (after, task') ∧
        s' = { after with tasks := after.tasks.insert t task' } := by
  unfold ofTask at taken
  split at taken
  · cases taken
  · next task present =>
    split at taken
    · cases taken
    · next after task' stepped =>
      exact ⟨task, task', after, present, stepped, (Option.some.inj taken).symm⟩

theorem Sincere.ran (sincere : s.Sincere) {t : Nat} {task : AsyncTask}
    (present : s.tasks[t]? = some task) (started : task.stage ≠ .spawned) : task.ran = true := by
  rcases sincere.started t task present with spawned | ran
  · exact absurd spawned started
  · exact ran

theorem Sincere.spawn (sincere : s.Sincere) {t : Nat} {request : EpisodeRequest}
    (vacant : s.tasks[t]? = none) :
    { s with tasks := s.tasks.insert t { request, stage := .spawned, ran := false } }.Sincere where
  completed := by
    intro id entry found
    obtain ⟨t', owner, present, rest⟩ := sincere.completed id entry found
    refine ⟨t', owner, ?_, rest⟩
    rw [lookup_insert, if_neg]
    · exact present
    · rintro rfl
      cases vacant.symm.trans present
  started := by
    intro t' task found
    rcases lookup_insert_cases found with ⟨_, rfl⟩ | found
    · exact Or.inl rfl
    · exact sincere.started t' task found
  named := by
    intro t' task result found stage
    rcases lookup_insert_cases found with ⟨_, rfl⟩ | found
    · cases stage
    · exact sincere.named t' task result found stage

theorem Sincere.reenter (sincere : s.Sincere) {t : Nat} {task task' : AsyncTask}
    {after : AsyncServer} {change : Map String Unit → String → Map String Unit}
    (present : s.tasks[t]? = some task) (stepped : s.reenter task change = some (after, task')) :
    { after with tasks := after.tasks.insert t task' }.Sincere := by
  unfold AsyncServer.reenter at stepped
  split at stepped
  · next stage =>
    cases stepped
    refine sincere.insert present ?_ rfl rfl (sincere.started t task present)
      (sincere.named t task · present)
    intro stored same
    cases stage.symm.trans same
  · cases stepped

/-- The result of a task goes into `completed_async`. -/
theorem Sincere.store (sincere : s.Sincere) {t : Nat} {task : AsyncTask}
    {outcome : Except String EpisodeResult} (present : s.tasks[t]? = some task)
    (stage : task.stage = .returned outcome) (clock : Clock) :
    let result := asyncResult clock task.request.episodeId outcome
    { s.storeCompletedAsync clock.instant result with
      tasks := (s.storeCompletedAsync clock.instant result).tasks.insert t
        { task with stage := .stored result } }.Sincere := by
  intro result
  obtain ⟨tasks, cases⟩ := storeCompletedAsync_cases (s := s) clock.instant result
  have ran : task.ran = true := sincere.ran present (by
    rw [stage]
    exact TaskStage.noConfusion)
  have episode : result.episodeId = task.request.episodeId := by
    apply asyncResult_episodeId
    intro returned same
    rw [same] at stage
    exact sincere.named t task returned present stage
  have unstored : ∀ stored, task.stage ≠ .stored stored := by
    intro stored same
    cases stage.symm.trans same
  refine ⟨?_, ?_, ?_⟩
  · intro id entry found
    rcases cases id entry found with ⟨rfl, same⟩ | before
    · refine ⟨t, { task with stage := .stored result }, ?_, ran, episode.symm, ?_⟩
      · rw [lookup_insert, if_pos rfl]
      · rw [same]
    · refine (sincere.completed id entry before).insert { task with stage := .stored result }
        present unstored ?_
      rw [tasks]
  · intro t' other found
    rw [tasks] at found
    rcases lookup_insert_cases found with ⟨_, rfl⟩ | found
    · exact Or.inr ran
    · exact sincere.started t' other found
  · intro t' other returned found stage'
    rw [tasks] at found
    rcases lookup_insert_cases found with ⟨_, rfl⟩ | found
    · cases stage'
    · exact sincere.named t' other returned found stage'

variable {label : Label}

theorem sincere_step (sincere : s.Sincere) (unopposed : s.Unopposed label)
    (taken : s.step label = some s') : s'.Sincere := by
  cases label with
  | submit t now uuid request =>
    change (if s.tasks.contains t then none else some (s.submitEpisodeAsync t now uuid request)) =
      some s' at taken
    split at taken
    · cases taken
    · next absent =>
      cases taken
      have fresh := sincere.thins (retainFresh_thins now)
      unfold submitEpisodeAsync
      simp only
      split
      · exact fresh
      · have vacant : (s.retainFresh now).tasks[t]? = none := by
          rw [(retainFresh_thins now).1]
          rw [Bool.not_eq_true, Std.ExtTreeMap.contains_eq_isSome_getElem?,
            Option.isSome_eq_false_iff, Option.isNone_iff_eq_none] at absent
          exact absent
        exact fresh.spawn vacant
  | start t uuid clock =>
    obtain ⟨task, task', after, present, stepped, rfl⟩ := ofTask_cases taken
    obtain ⟨request, ready, free⟩ := unopposed task present
    have prepared : prepare uuid clock.unixSeconds task.request = .ok request := by
      cases answer : prepare uuid clock.unixSeconds task.request with
      | ok =>
        rw [answer] at ready
        rw [Option.some.inj ready]
      | error =>
        rw [answer] at ready
        cases ready
    split at stepped
    · next stage =>
      unfold AsyncServer.start at stepped
      rw [prepared] at stepped
      simp only [free, Bool.false_eq_true, if_false, Option.some.injEq, Prod.mk.injEq] at stepped
      obtain ⟨rfl, rfl⟩ := stepped
      refine sincere.insert present ?_ rfl rfl (Or.inr rfl) ?_
      · intro stored same
        cases stage.symm.trans same
      · intro result same
        cases same
    · cases stepped
  | lapse t =>
    obtain ⟨task, task', after, present, stepped, rfl⟩ := ofTask_cases taken
    exact sincere.reenter present stepped
  | renew t =>
    obtain ⟨task, task', after, present, stepped, rfl⟩ := ofTask_cases taken
    exact sincere.reenter present stepped
  | finish t outcome =>
    obtain ⟨task, task', after, present, stepped, rfl⟩ := ofTask_cases taken
    unfold AsyncServer.finish at stepped
    split at stepped
    · next stage =>
      split at stepped
      · next named =>
        cases stepped
        have ran : task.ran = true := by
          apply sincere.ran present
          intro same
          cases stage.symm.trans same
        refine sincere.insert present ?_ rfl rfl (Or.inr ran) ?_
        · intro stored same
          cases stage.symm.trans same
        · intro result same
          obtain rfl := TaskStage.returned.inj same
          exact beq_iff_eq.mp named
      · cases stepped
    · cases stepped
  | store t clock =>
    obtain ⟨task, task', after, present, stepped, rfl⟩ := ofTask_cases taken
    split at stepped
    · next outcome stage =>
      cases stepped
      exact sincere.store present stage clock
    · cases stepped
  | sweep now =>
    cases taken
    exact sincere.thins (retainFresh_thins now)
  | getResult now =>
    cases taken
    exact sincere.thins (sweepCompletedAsync_thins now)

/-- In every run in which each spawned task finds no other execution of its episode registered,
`get_result` answers nothing or the result of an execution of that episode that ran. -/
theorem results_genuine_along_unopposed_runs
    (reached : ReachableWhen system AsyncServer.Unopposed s) (now : Instant) (episodeId : String)
    {result : EpisodeResult} (answered : (s.getResult now episodeId).2 = some result) :
    s.Genuine episodeId result := by
  have sincere : s.Sincere := by
    refine reached.invariant (motive := Sincere) ?_ fun s label t _ sincere unopposed taken =>
      sincere_step sincere unopposed taken
    rintro s ⟨_, _, completed, tasks⟩
    refine ⟨?_, ?_, ?_⟩
    · intro id entry found
      rw [completed] at found
      cases found
    · intro t task found
      rw [tasks] at found
      cases found
    · intro t task result found
      rw [tasks] at found
      cases found
  obtain ⟨entry, found, rfl⟩ := Option.map_eq_some_iff.mp answered
  exact sincere.completed episodeId entry ((sweepCompletedAsync_thins now).2 episodeId entry found)

/-- A server that starts, with room for one completed result. -/
def idle : AsyncServer := { completedAsyncTtlSecs := 0, completedAsyncMaxEntries := 1 }

/-- A submission of `ep-1`, and the clocks of its task. -/
def submission (t : Nat) : Label :=
  .submit t 0 { text := "u", nonempty := by decide } { episodeId := "ep-1", attemptId := 1 }

def clockZero : Clock := { instant := 0, unixSeconds := .zero }

def starts (t : Nat) : Label := .start t { text := "u", nonempty := by decide } clockZero

/-- A second submission is ignored, and one after the first result has expired is executed. -/
theorem results_genuine_of_one_submission :
    ∃ s : AsyncServer, ReachableWhen system AsyncServer.Unopposed s ∧
      s.Genuine "ep-1" { episodeId := "ep-1", status := "completed" } := by
  let start : AsyncServer := { idle with completedAsyncTtlSecs := 1 }
  let schedule : List Label :=
    [submission 0, starts 0, submission 1, .finish 0 (.ok { episodeId := "ep-1" }),
      .store 0 clockZero, .sweep 2000000000, submission 2, starts 2,
      .finish 2 (.ok { episodeId := "ep-1", status := "completed" }), .store 2 clockZero]
  have facts : (system.exec start schedule).any (fun s => decide ((s.getResult 0 "ep-1").2 =
      some { episodeId := "ep-1", status := "completed" })) = true := by decide +kernel
  have along : system.Along AsyncServer.Unopposed start schedule := by decide +kernel
  obtain ⟨s, ran, answered⟩ := (Option.any_eq_true _ _).mp facts
  have reached : ReachableWhen system AsyncServer.Unopposed s :=
    ReachableWhen.of_exec (.start ⟨rfl, rfl, rfl, rfl⟩) schedule along ran
  exact ⟨s, reached, results_genuine_along_unopposed_runs reached 0 "ep-1"
    (of_decide_eq_true answered)⟩

/-- Two submissions of `ep-1` are accepted before the first task registers; the second task is
refused, and its refusal is the result of the episode while the first execution runs. -/
theorem refusal_reported_while_running :
    ∃ (s : AsyncServer) (result : EpisodeResult), Reachable system s ∧
      (s.tasks[0]?).any (fun task => task.stage matches .running) = true ∧
      (s.getResult 0 "ep-1").2 = some result ∧ result.status = "failed" ∧
      result.errorMessage = "episode ep-1 is already active" := by
  let schedule : List Label :=
    [submission 0, submission 1, starts 0, starts 1, .store 1 clockZero]
  have facts : (system.exec idle schedule).any (fun s =>
      (s.tasks[0]?).any (fun task => task.stage matches .running) &&
        ((s.getResult 0 "ep-1").2).any fun result => result.status == "failed" &&
          result.errorMessage == "episode ep-1 is already active") = true := by decide +kernel
  obtain ⟨s, ran, facts⟩ := (Option.any_eq_true _ _).mp facts
  rw [Bool.and_eq_true] at facts
  obtain ⟨running, answered⟩ := facts
  obtain ⟨result, found, texts⟩ := (Option.any_eq_true _ _).mp answered
  rw [Bool.and_eq_true, beq_iff_eq, beq_iff_eq] at texts
  exact ⟨s, result, Reachable.of_exec ⟨rfl, rfl, rfl, rfl⟩ schedule ran, running, found, texts⟩

/-! ### How many results are kept -/

/-- The stored results are no more than the limit. -/
def Bounded (s : AsyncServer) : Prop := s.completedAsync.size ≤ s.completedAsyncMaxEntries

theorem retainFresh_spec (now : Instant) :
    (s.retainFresh now).completedAsyncMaxEntries = s.completedAsyncMaxEntries ∧
      (s.retainFresh now).completedAsync.size ≤ s.completedAsync.size := by
  unfold retainFresh
  split
  · exact ⟨rfl, Std.ExtTreeMap.size_filter_le_size⟩
  · exact ⟨rfl, Nat.le_refl _⟩

theorem byAge_perm : s.byAge.Perm s.completedAsync.toList := List.perm_insertionSort _ _

theorem mem_byAge {id : String} {entry : CompletedAsyncResult} :
    (id, entry) ∈ s.byAge ↔ s.completedAsync[id]? = some entry :=
  byAge_perm.mem_iff.trans Std.ExtTreeMap.mem_toList_iff_getElem?_eq_some

/-- What is left without the oldest entries is among the others. -/
theorem mem_drop_of_left {overflow : Nat} {id : String} {entry : CompletedAsyncResult}
    (left : ((s.byAge.take overflow).foldl (fun table entry => table.erase entry.1)
      s.completedAsync)[id]? = some entry) : (id, entry) ∈ s.byAge.drop overflow := by
  obtain ⟨present, kept⟩ := lookup_foldl_erase_iff.mp left
  have listed := mem_byAge.mpr present
  rw [← List.take_append_drop overflow s.byAge, List.mem_append] at listed
  exact listed.resolve_left fun early => kept (List.mem_map_of_mem early)

theorem size_left (overflow : Nat) :
    ((s.byAge.take overflow).foldl (fun table entry => table.erase entry.1) s.completedAsync).size ≤
      s.completedAsync.size - overflow := by
  have length : s.completedAsync.size - overflow =
      ((s.byAge.drop overflow).map Prod.fst).length := by
    rw [List.length_map, List.length_drop, byAge_perm.length_eq, Std.ExtTreeMap.length_toList]
  rw [length]
  refine size_le_length fun id member => ?_
  obtain ⟨entry, left⟩ := (mem_iff_lookup _ _).mp member
  exact List.mem_map_of_mem (mem_drop_of_left left)

theorem sweepCompletedAsync_spec (now : Instant) :
    (s.sweepCompletedAsync now).completedAsyncMaxEntries = s.completedAsyncMaxEntries ∧
      (s.Bounded ∨ 0 < s.completedAsyncMaxEntries → (s.sweepCompletedAsync now).Bounded) := by
  obtain ⟨limit, fewer⟩ := retainFresh_spec (s := s) now
  unfold sweepCompletedAsync Bounded
  generalize s.retainFresh now = fresh at limit fewer ⊢
  simp only
  split
  · refine ⟨limit, fun _ => (size_left _).trans ?_⟩
    simp only
    omega
  · refine ⟨limit, fun either => ?_⟩
    omega

theorem Bounded.store (bounded : s.Bounded) (now : Instant) (result : EpisodeResult) :
    (s.storeCompletedAsync now result).Bounded := by
  obtain ⟨limit, swept⟩ := sweepCompletedAsync_spec (s := s) now
  unfold storeCompletedAsync
  simp only
  split
  · exact swept (Or.inl bounded)
  · next some_ => exact (sweepCompletedAsync_spec now).2 (Or.inr (Nat.pos_of_ne_zero some_))

theorem Bounded.step (bounded : s.Bounded) (taken : s.step label = some s') : s'.Bounded := by
  have fresh (now : Instant) : (s.retainFresh now).Bounded := by
    obtain ⟨limit, fewer⟩ := retainFresh_spec (s := s) now
    unfold Bounded at *
    omega
  cases label with
  | submit t now uuid request =>
    change (if s.tasks.contains t then none else some (s.submitEpisodeAsync t now uuid request)) =
      some s' at taken
    split at taken
    · cases taken
    · cases taken
      unfold submitEpisodeAsync
      simp only
      split
      · exact fresh now
      · exact fresh now
  | start =>
    obtain ⟨task, task', after, -, stepped, rfl⟩ := ofTask_cases taken
    split at stepped
    · unfold AsyncServer.start at stepped
      split at stepped
      · cases stepped
        exact bounded
      · split at stepped <;> cases stepped <;> exact bounded
    · cases stepped
  | lapse | renew =>
    obtain ⟨task, task', after, -, stepped, rfl⟩ := ofTask_cases taken
    unfold reenter at stepped
    split at stepped <;> cases stepped
    exact bounded
  | finish =>
    obtain ⟨task, task', after, -, stepped, rfl⟩ := ofTask_cases taken
    unfold AsyncServer.finish at stepped
    split at stepped
    · split at stepped <;> cases stepped
      exact bounded
    · cases stepped
  | store t clock =>
    obtain ⟨task, task', after, -, stepped, rfl⟩ := ofTask_cases taken
    split at stepped <;> cases stepped
    exact bounded.store clock.instant _
  | sweep now =>
    cases taken
    exact fresh now
  | getResult now =>
    cases taken
    exact (sweepCompletedAsync_spec now).2 (Or.inl bounded)

/-- However many episodes are submitted, the server keeps no more results than its limit. -/
theorem results_bounded (reached : Reachable system s) :
    s.completedAsync.size ≤ s.completedAsyncMaxEntries := by
  apply ReachableWhen.invariant (motive := Bounded) ?_ ?_ reached
  · rintro s ⟨-, -, empty, -⟩
    unfold Bounded
    rw [empty]
    exact Nat.zero_le _
  · intro s label t _ bounded _ taken
    exact bounded.step taken

theorem results_bounded_of_two : ∃ s : AsyncServer, s.completedAsync.contains "ep-2" = true ∧
    s.completedAsync.size ≤ s.completedAsyncMaxEntries := by
  let schedule : List Label :=
    [submission 0, starts 0, .finish 0 (.error "lost"), .store 0 clockZero,
    .submit 1 0 { text := "u", nonempty := by decide } { episodeId := "ep-2", attemptId := 1 },
    starts 1, .finish 1 (.error "lost"), .store 1 clockZero]
  have ran : (system.exec idle schedule).any (·.completedAsync.contains "ep-2") = true := by
    decide +kernel
  obtain ⟨s, ran, kept⟩ := (Option.any_eq_true _ _).mp ran
  exact ⟨s, kept, results_bounded (Reachable.of_exec ⟨rfl, rfl, rfl, rfl⟩ schedule ran)⟩

/-- Where a sweep takes away a result that is not expired, those that stay are at least as young. -/
theorem sweep_takes_oldest {now : Instant} {id id' : String} {entry entry' : CompletedAsyncResult}
    (fresh : (s.retainFresh now).completedAsync[id]? = some entry)
    (gone : (s.sweepCompletedAsync now).completedAsync[id]? = none)
    (stays : (s.sweepCompletedAsync now).completedAsync[id']? = some entry') :
    entry.completedAt ≤ entry'.completedAt := by
  unfold sweepCompletedAsync at gone stays
  generalize s.retainFresh now = s at fresh gone stays
  simp only at gone stays
  split at gone
  · next full =>
    rw [if_pos full] at stays
    generalize s.completedAsync.size - s.completedAsyncMaxEntries = overflow at gone stays
    have ages : s.byAge.Pairwise fun a b => a.2.completedAt ≤ b.2.completedAt :=
      List.pairwise_insertionSort _ _
    rw [← List.take_append_drop overflow s.byAge] at ages
    have taken : id ∈ (s.byAge.take overflow).map Prod.fst := by
      by_contra kept
      cases gone.symm.trans (lookup_foldl_erase_iff.mpr ⟨fresh, kept⟩)
    obtain ⟨⟨_, e⟩, early, rfl⟩ := List.mem_map.mp taken
    obtain rfl := Option.some.inj (fresh.symm.trans (mem_byAge.mp (List.mem_of_mem_take early)))
    exact (List.pairwise_append.mp ages).2.2 _ early _ (mem_drop_of_left stays)
  · rw [fresh] at gone
    cases gone

theorem sweep_takes_oldest_of_two : ∃ (s : AsyncServer) (entry entry' : CompletedAsyncResult),
    s.completedAsync["ep-1"]? = some entry ∧
      (s.sweepCompletedAsync 5).completedAsync["ep-2"]? = some entry' ∧
      entry.completedAt ≤ entry'.completedAt := by
  let s : AsyncServer := { idle with completedAsync :=
    ((∅ : Map String CompletedAsyncResult).insert "ep-1" ⟨{}, 3⟩).insert "ep-2" ⟨{}, 4⟩ }
  obtain ⟨entry, fresh⟩ := Option.isSome_iff_exists.mp
    (show (s.completedAsync["ep-1"]?).isSome by decide +kernel)
  obtain ⟨entry', stays⟩ := Option.isSome_iff_exists.mp
    (show ((s.sweepCompletedAsync 5).completedAsync["ep-2"]?).isSome by decide +kernel)
  have gone := Option.isNone_iff_eq_none.mp
    (show ((s.sweepCompletedAsync 5).completedAsync["ep-1"]?).isNone by decide +kernel)
  exact ⟨s, entry, entry', fresh, stays, sweep_takes_oldest fresh gone stays⟩

end AsyncServer

end UEnv.Service
