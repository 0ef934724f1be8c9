import UEnv.Worker.InstancePool

/-!
# The submissions of the runtime gateway

`submit`, `submit_status` and `destroy` of the gateway over the session pool. A submission enters
itself into the table and is graded in the background, and the background task writes the outcome
into the table without looking whether its entry is still there.
-/

namespace UEnv.Worker

open Tables Runs

/-! ### Data -/

/-- `SubmitState`; a result is given by its JSON text. -/
inductive SubmitState
  | running
  | completed (result : String)
  | failed (error : String)
  deriving DecidableEq

/-- Whether a status is the last one of its submission. -/
def SubmitState.terminal : SubmitState → Bool
  | running => false
  | completed _ | failed _ => true

/-- How `pool.submit` ends on its blocking thread. -/
inductive SubmitAnswer
  | ok (result : String)
  | error (message : String)
  | panic (message : String)

/-- The status that `submit` makes of the answer of its evaluation. -/
def SubmitAnswer.state : SubmitAnswer → SubmitState
  | ok result => .completed result
  | error message => .failed message
  | panic message => .failed s!"submit worker task failed: {message}"

/-- The handlers and the background tasks of the gateway. -/
inductive GatewayTask
  -- `submit` has found no entry
  | submitting (id : String)
  -- the background task waits for the evaluation
  | waiting (id : String)
  -- the evaluation took too long, and call `u` terminates the session
  | timedOut (id : String) (u : Nat) (timeoutSecs : Nat)
  | settling (id : String) (state : SubmitState)
  -- `destroy` has removed the entry
  | destroying (id : String)
  deriving DecidableEq

/-- The session whose outcome a background task will write. -/
def GatewayTask.grades : GatewayTask → Option String
  | waiting id | timedOut id _ _ | settling id _ => some id
  | submitting _ | destroying _ => none

/-- The session that a submission is about to enter. -/
def GatewayTask.claims : GatewayTask → Option String
  | submitting id => some id
  | waiting _ | timedOut _ _ _ | settling _ _ | destroying _ => none

/-- `pool.submit` on its blocking thread, which a timeout does not stop. -/
inductive Evaluation
  | queued (id : String)
  | running (id : String)
  | finished (id : String) (state : SubmitState)
  deriving DecidableEq

def Evaluation.id : Evaluation → String
  | queued id | running id | finished id _ => id

/-- What is seen of the gateway: an evaluation starts, `submit_status` answers, `destroy` removes
the entry and returns. -/
inductive GatewayEvent
  | started (id : String)
  | shown (id : String) (state : Option SubmitState)
  | removed (id : String)
  | deleted (id : String)
  deriving DecidableEq

/-- The gateway; the latest event comes first in its history. -/
structure Gateway where
  pool : SweWorld
  submissions : Map String SubmitState := ∅
  tasks : Map Nat GatewayTask := ∅
  evaluations : Map Nat Evaluation := ∅
  history : List GatewayEvent := []

/-! ### Runs -/

/-- A request, or the next step of a task. Task `t` evaluates as call `t` of the pool. -/
inductive GatewayLabel
  -- the two sections of `submit`
  | submit (t : Nat) (id : String)
  | claim (t : Nat)
  -- `pool.submit` starts and ends
  | start (t : Nat)
  | finish (t : Nat) (answer : SubmitAnswer)
  -- the background task
  | collect (t : Nat)
  | timeout (t u : Nat) (timeoutSecs : Nat)
  | settle (t : Nat)
  | write (t : Nat)
  | status (id : String)
  -- the two sections of `destroy`
  | delete (t : Nat) (id : String)
  | release (t : Nat)
  -- any other use of the pool
  | pool (label : SweLabel)

/-- The call that a step of the pool takes further. -/
def SweLabel.call? : SweLabel → Option Nat
  | createSession t _ _ | name t | provision t _ | abandon t | release t | register t | get t _
  | done t | terminate t _ | destroyTerminated t => some t
  | destroy _ => none

namespace Gateway

variable (s : Gateway)

/-- A task goes on. -/
def goto (t : Nat) (task : GatewayTask) : Gateway := { s with tasks := s.tasks.insert t task }

/-- An event is seen. -/
def record (event : GatewayEvent) : Gateway := { s with history := event :: s.history }

/-- Whether call `t` of the pool belongs to an evaluation that runs. -/
def evaluates (t : Nat) : Bool :=
  match s.evaluations[t]? with
  | some (.running _) => true
  | _ => false

/-- One step. -/
def step : GatewayLabel → Option Gateway
  | .submit t id =>
    if t ∈ s.tasks ∨ t ∈ s.evaluations ∨ t ∈ s.pool.calls then none
    else match s.submissions[id]? with
      | some _ => some s
      | none => some (s.goto t (.submitting id))
  | .claim t =>
    match s.tasks[t]? with
    | some (.submitting id) =>
      match s.submissions[id]? with
      | some _ => some { s with tasks := s.tasks.erase t }
      | none => some { s.goto t (.waiting id) with
          submissions := s.submissions.insert id .running
          evaluations := s.evaluations.insert t (.queued id) }
    | _ => none
  | .start t =>
    match s.evaluations[t]? with
    | some (.queued id) =>
      let seen := s.record (.started id)
      match s.pool.pool.get id with
      | .error message =>
        some { seen with evaluations := s.evaluations.insert t (.finished id (.failed message)) }
      | .ok _ => (s.pool.step (.get t id)).map fun pool =>
          { seen with pool, evaluations := s.evaluations.insert t (.running id) }
    | _ => none
  | .finish t answer =>
    match s.evaluations[t]? with
    | some (.running id) => (s.pool.step (.done t)).map fun pool =>
        { s with pool, evaluations := s.evaluations.insert t (.finished id answer.state) }
    | _ => none
  | .collect t =>
    match s.tasks[t]?, s.evaluations[t]? with
    | some (.waiting id), some (.finished _ state) => some (s.goto t (.settling id state))
    | _, _ => none
  | .timeout t u timeoutSecs =>
    match s.tasks[t]?, s.evaluations[t]? with
    | some (.waiting _), some (.finished _ _) => none
    | some (.waiting id), _ => (s.pool.step (.terminate u id)).map fun pool =>
        { s.goto t (.timedOut id u timeoutSecs) with pool }
    | _, _ => none
  | .settle t =>
    match s.tasks[t]? with
    | some (.timedOut id u timeoutSecs) =>
      if u ∈ s.pool.calls then none
      else some (s.goto t (.settling id (.failed s!"gateway submit timeout after {timeoutSecs}s")))
    | _ => none
  | .write t =>
    match s.tasks[t]? with
    | some (.settling id state) => some { s with
        submissions := s.submissions.insert id state
        tasks := s.tasks.erase t }
    | _ => none
  | .status id => some (s.record (.shown id s.submissions[id]?))
  | .delete t id =>
    if t ∈ s.tasks then none
    else some ({ s with submissions := s.submissions.erase id }.goto t (.destroying id) |>.record
      (.removed id))
  | .release t =>
    match s.tasks[t]? with
    | some (.destroying id) => (s.pool.step (.destroy id)).map fun pool =>
        { s with pool, tasks := s.tasks.erase t }.record (.deleted id)
    | _ => none
  | .pool label =>
    if (label.call?).any s.evaluates then none
    else (s.pool.step label).map fun pool => { s with pool }

end Gateway

/-- The gateway over a pool, from its start on. -/
def gateway : System Gateway GatewayLabel where
  init s := ∃ pool, swePool.init pool ∧ s = { pool }
  step := Gateway.step

/-- Submissions are graded once, their last status stays until a deletion, and nothing is left of
them after it. -/
structure Gateway.GradedOnce (s : Gateway) : Prop where
  once : ∀ id, s.history.count (.started id) ≤ 1
  stays : ∀ (id : String) (state : SubmitState) (last : Option SubmitState)
    (newer between older : List GatewayEvent),
    s.history = newer ++ .shown id last :: (between ++ .shown id (some state) :: older) →
    state.terminal = true → .removed id ∉ between → last = some state
  forgotten : ∀ id : String, .deleted id ∈ s.history → s.submissions[id]? = none

/-- No entry is made for a session whose entry was removed, and no entry is removed while its
submission is graded. -/
def Gateway.Orderly (s : Gateway) : GatewayLabel → Prop
  | .claim t => ∀ id ∈ (s.tasks[t]?).bind GatewayTask.claims, s.submissions[id]? = none →
      .removed id ∉ s.history
  | .delete _ id => ∀ (u : Nat) (task : GatewayTask), s.tasks[u]? = some task →
      task.grades ≠ some id
  | _ => True

instance Gateway.decidableOrderly (s : Gateway) : ∀ label, Decidable (s.Orderly label)
  | .claim t => inferInstanceAs (Decidable (∀ id ∈ (s.tasks[t]?).bind GatewayTask.claims,
      s.submissions[id]? = none → .removed id ∉ s.history))
  | .delete _ id => inferInstanceAs (Decidable (∀ (u : Nat) (task : GatewayTask),
      s.tasks[u]? = some task → task.grades ≠ some id))
  | .submit _ _ | .start _ | .finish _ _ | .collect _ | .timeout _ _ _ | .settle _ | .write _
  | .status _ | .release _ | .pool _ => .isTrue trivial

/-! ### What a step does -/

/-- What a step did to the table, the tasks, the evaluations and the history. -/
inductive Gateway.Went (s : Gateway) : GatewayLabel → Gateway → Prop
  | stayed (label : GatewayLabel) (pool : SweWorld) : Went s label { s with pool }
  | looked (t : Nat) (id : String) : s.tasks[t]? = none →
      Went s (.submit t id) (s.goto t (.submitting id))
  | answered (t : Nat) (id : String) : s.tasks[t]? = some (.submitting id) →
      Went s (.claim t) { s with tasks := s.tasks.erase t }
  | claimed (t : Nat) (id : String) : s.tasks[t]? = some (.submitting id) →
      s.submissions[id]? = none →
      Went s (.claim t) { s.goto t (.waiting id) with
        submissions := s.submissions.insert id .running
        evaluations := s.evaluations.insert t (.queued id) }
  | started (t : Nat) (id : String) (next : Evaluation) (pool : SweWorld) :
      s.evaluations[t]? = some (.queued id) → next.id = id → (∀ id', next ≠ .queued id') →
      Went s (.start t) { s.record (.started id) with
        pool, evaluations := s.evaluations.insert t next }
  | finished (t : Nat) (id : String) (answer : SubmitAnswer) (pool : SweWorld) :
      s.evaluations[t]? = some (.running id) →
      Went s (.finish t answer) { s with
        pool, evaluations := s.evaluations.insert t (.finished id answer.state) }
  | moved (label : GatewayLabel) (t : Nat) (id : String) (task next : GatewayTask)
      (pool : SweWorld) : s.tasks[t]? = some task → task.grades = some id →
      next.grades = some id → Went s label { s.goto t next with pool }
  | wrote (t : Nat) (id : String) (state : SubmitState) :
      s.tasks[t]? = some (.settling id state) →
      Went s (.write t) { s with
        submissions := s.submissions.insert id state, tasks := s.tasks.erase t }
  | asked (id : String) : Went s (.status id) (s.record (.shown id s.submissions[id]?))
  | removed (t : Nat) (id : String) : s.tasks[t]? = none →
      Went s (.delete t id) ({ s with submissions := s.submissions.erase id }.goto t
        (.destroying id) |>.record (.removed id))
  | deleted (t : Nat) (id : String) (pool : SweWorld) : s.tasks[t]? = some (.destroying id) →
      Went s (.release t) ({ s with pool, tasks := s.tasks.erase t }.record (.deleted id))

section Steps

variable {s s' : Gateway} {label : GatewayLabel}

theorem went_of_step (taken : s.step label = some s') : s.Went label s' := by
  cases label with
  | submit t id =>
    simp only [Gateway.step] at taken
    split at taken
    · cases taken
    · next free =>
      split at taken
      · cases taken
        exact .stayed _ s.pool
      · cases taken
        exact .looked t id (Std.ExtTreeMap.getElem?_eq_none fun present => free (.inl present))
  | claim t =>
    simp only [Gateway.step] at taken
    split at taken
    · next id known =>
      split at taken
      · cases taken
        exact .answered t id known
      · next vacant =>
        cases taken
        exact .claimed t id known vacant
    · cases taken
  | start t =>
    simp only [Gateway.step] at taken
    split at taken
    · next id known =>
      split at taken
      · next message got =>
        cases taken
        exact .started t id (.finished id (.failed message)) s.pool known rfl (by simp)
      · next session got =>
        obtain ⟨pool, -, rfl⟩ := Option.map_eq_some_iff.mp taken
        exact .started t id (.running id) pool known rfl (by simp)
    · cases taken
  | finish t answer =>
    simp only [Gateway.step] at taken
    split at taken
    · next id known =>
      obtain ⟨pool, -, rfl⟩ := Option.map_eq_some_iff.mp taken
      exact .finished t id answer pool known
    · cases taken
  | collect t =>
    simp only [Gateway.step] at taken
    split at taken
    · next id _ state known _ =>
      cases taken
      exact .moved _ t id (.waiting id) (.settling id state) s.pool known rfl rfl
    · cases taken
  | timeout t u timeoutSecs =>
    simp only [Gateway.step] at taken
    split at taken
    · cases taken
    · next id known _ =>
      obtain ⟨pool, -, rfl⟩ := Option.map_eq_some_iff.mp taken
      exact .moved _ t id (.waiting id) (.timedOut id u timeoutSecs) pool known rfl rfl
    · cases taken
  | settle t =>
    simp only [Gateway.step] at taken
    split at taken
    · next id u timeoutSecs known =>
      split at taken
      · cases taken
      · cases taken
        exact .moved _ t id (.timedOut id u timeoutSecs) (.settling id _) s.pool known rfl rfl
    · cases taken
  | write t =>
    simp only [Gateway.step] at taken
    split at taken
    · next id state known =>
      cases taken
      exact .wrote t id state known
    · cases taken
  | status id =>
    cases taken
    exact .asked id
  | delete t id =>
    simp only [Gateway.step] at taken
    split at taken
    · cases taken
    · next free =>
      cases taken
      exact .removed t id (Std.ExtTreeMap.getElem?_eq_none free)
  | release t =>
    simp only [Gateway.step] at taken
    split at taken
    · next id known =>
      obtain ⟨pool, -, rfl⟩ := Option.map_eq_some_iff.mp taken
      exact .deleted t id pool known
    · cases taken
  | pool =>
    simp only [Gateway.step] at taken
    split at taken
    · cases taken
    · obtain ⟨pool, -, rfl⟩ := Option.map_eq_some_iff.mp taken
      exact .stayed _ pool

/-! ### Who writes an entry -/

/-- Task `t` will write the outcome of `id`. -/
def Gateway.Grades (s : Gateway) (t : Nat) (id : String) : Prop :=
  ∃ task, s.tasks[t]? = some task ∧ task.grades = some id

/-- An entry that will be written is running, and one task will write it. -/
structure Gateway.Grading (s : Gateway) : Prop where
  running : ∀ t id, s.Grades t id → s.submissions[id]? = some .running
  sole : ∀ t u id, s.Grades t id → s.Grades u id → t = u

theorem Gateway.grades_goto {t u : Nat} {next : GatewayTask} {id : String}
    (grades : (s.goto t next).Grades u id) : (u = t ∧ next.grades = some id) ∨ s.Grades u id := by
  obtain ⟨task, known, graded⟩ := grades
  rcases lookup_insert_cases known with ⟨rfl, rfl⟩ | before
  · exact Or.inl ⟨rfl, graded⟩
  · exact Or.inr ⟨task, before, graded⟩

theorem Gateway.grades_erase {tasks : Map Nat GatewayTask} {t u : Nat} {task : GatewayTask}
    (known : (tasks.erase t)[u]? = some task) : u ≠ t ∧ tasks[u]? = some task := by
  refine ⟨?_, lookup_of_erase known⟩
  rintro rfl
  rw [lookup_erase, if_pos rfl] at known
  cases known

theorem Gateway.Grading.frame (grading : s.Grading) (fewer : ∀ t id, s'.Grades t id → s.Grades t id)
    (table : s'.submissions = s.submissions) : s'.Grading := by
  constructor
  · intro t id grades
    rw [table]
    exact grading.running t id (fewer t id grades)
  · intro t u id grades grades'
    exact grading.sole t u id (fewer t id grades) (fewer u id grades')

theorem Gateway.Grading.step (grading : s.Grading) (orderly : s.Orderly label)
    (went : s.Went label s') : s'.Grading := by
  cases went with
  | stayed => exact grading.frame (fun _ _ grades => grades) rfl
  | looked =>
    refine grading.frame (fun u i grades => ?_) rfl
    rcases Gateway.grades_goto grades with ⟨_, none⟩ | before
    · cases none
    · exact before
  | answered =>
    refine grading.frame (fun u i ⟨task, still, graded⟩ => ?_) rfl
    exact ⟨task, lookup_of_erase still, graded⟩
  | claimed t id known vacant =>
    -- no other task grades a session without an entry
    have alone : ∀ u, ¬ s.Grades u id := fun u grades => by
      cases vacant.symm.trans (grading.running u id grades)
    constructor
    · intro u i grades
      show (s.submissions.insert id .running)[i]? = some .running
      rw [lookup_insert]
      split
      · rfl
      · next other =>
        rcases Gateway.grades_goto grades with ⟨_, same⟩ | before
        · exact absurd (Option.some.inj same) other
        · exact grading.running u i before
    · intro u v i first second
      rcases Gateway.grades_goto first with ⟨rfl, same⟩ | before <;>
        rcases Gateway.grades_goto second with ⟨rfl, same'⟩ | before'
      · rfl
      · cases same
        exact absurd before' (alone v)
      · cases same'
        exact absurd before (alone u)
      · exact grading.sole u v i before before'
  | started => exact grading.frame (fun _ _ grades => grades) rfl
  | finished => exact grading.frame (fun _ _ grades => grades) rfl
  | moved _ t id task next pool known graded graded' =>
    refine grading.frame (fun u i grades => ?_) rfl
    rcases Gateway.grades_goto grades with ⟨rfl, same⟩ | before
    · exact ⟨task, known, graded.trans (graded'.symm.trans same)⟩
    · exact before
  | wrote t id state known =>
    constructor
    · rintro u i ⟨task, still, graded⟩
      obtain ⟨other, before⟩ := Gateway.grades_erase still
      show (s.submissions.insert id state)[i]? = some .running
      rw [lookup_insert]
      split
      · next same =>
        exact absurd (grading.sole u t i ⟨task, before, graded⟩ ⟨_, known, congrArg some same⟩)
          other
      · exact grading.running u i ⟨task, before, graded⟩
    · rintro u v i ⟨task, still, graded⟩ ⟨task', still', graded'⟩
      exact grading.sole u v i ⟨task, lookup_of_erase still, graded⟩
        ⟨task', lookup_of_erase still', graded'⟩
  | asked id => exact grading.frame (fun _ _ grades => grades) rfl
  | removed t id free =>
    have fewer : ∀ u i, Gateway.Grades (s.goto t (.destroying id)) u i → s.Grades u i := by
      intro u i grades
      rcases Gateway.grades_goto grades with ⟨_, none⟩ | before
      · cases none
      · exact before
    constructor
    · intro u i grades
      obtain ⟨task, known, graded⟩ := fewer u i grades
      show (s.submissions.erase id)[i]? = some .running
      rw [lookup_erase]
      split
      · next same => exact absurd graded (same ▸ orderly u task known)
      · exact grading.running u i ⟨task, known, graded⟩
    · intro u v i grades grades'
      exact grading.sole u v i (fewer u i grades) (fewer v i grades')
  | deleted =>
    refine grading.frame (fun u i ⟨task, still, graded⟩ => ?_) rfl
    exact ⟨task, lookup_of_erase still, graded⟩

/-! ### How often a session is evaluated -/

/-- A session that was submitted has its entry or lost it to a deletion. -/
def Gateway.Noted (s : Gateway) (id : String) : Prop :=
  s.submissions[id]? ≠ none ∨ .removed id ∈ s.history

/-- Evaluations and their starts belong to sessions that were submitted, and a session has one. -/
structure Gateway.Evaluated (s : Gateway) : Prop where
  queued : ∀ (t : Nat) (e : Evaluation), s.evaluations[t]? = some e → s.Noted e.id
  noted : ∀ id : String, .started id ∈ s.history → s.Noted id
  fresh : ∀ (t : Nat) (id : String), s.evaluations[t]? = some (.queued id) →
    .started id ∉ s.history
  sole : ∀ (t u : Nat) (id : String), s.evaluations[t]? = some (.queued id) →
    s.evaluations[u]? = some (.queued id) → t = u
  once : ∀ id : String, s.history.count (.started id) ≤ 1

theorem Gateway.Noted.step {id : String} (noted : s.Noted id) (went : s.Went label s') :
    s'.Noted id := by
  have inserted : ∀ (i : String) (state : SubmitState), s.submissions[id]? ≠ none →
      (s.submissions.insert i state)[id]? ≠ none := by
    intro i state present
    rw [lookup_insert]
    split
    · simp
    · exact present
  cases went with
  | stayed | looked | answered | finished | moved => exact noted
  | claimed t i => exact noted.imp_left (inserted i .running)
  | wrote t i state => exact noted.imp_left (inserted i state)
  | started | asked | deleted => exact noted.imp_right (List.mem_cons_of_mem _)
  | removed t i =>
    rcases noted with present | gone
    · by_cases same : i = id
      · exact Or.inr (same ▸ List.mem_cons_self)
      · refine Or.inl ?_
        show (s.submissions.erase i)[id]? ≠ none
        rw [lookup_erase, if_neg same]
        exact present
    · exact Or.inr (List.mem_cons_of_mem _ gone)

theorem Gateway.Evaluated.frame (evaluated : s.Evaluated) (went : s.Went label s')
    (evaluations : ∀ (t : Nat) (e : Evaluation), s'.evaluations[t]? = some e →
      (∃ e', s.evaluations[t]? = some e' ∧ e'.id = e.id) ∧
        (∀ id, e = .queued id → s.evaluations[t]? = some e))
    (starts : ∀ id, s'.history.count (.started id) = s.history.count (.started id)) :
    s'.Evaluated := by
  have same : ∀ id : String, .started id ∈ s'.history ↔ .started id ∈ s.history := by
    intro id
    rw [← List.count_pos_iff, ← List.count_pos_iff, starts]
  constructor
  · intro t e found
    obtain ⟨⟨e', before, id⟩, -⟩ := evaluations t e found
    exact id ▸ (evaluated.queued t e' before).step went
  · exact fun id member => (evaluated.noted id ((same id).mp member)).step went
  · intro t id found member
    exact evaluated.fresh t id ((evaluations t _ found).2 id rfl) ((same id).mp member)
  · intro t u id found found'
    exact evaluated.sole t u id ((evaluations t _ found).2 id rfl)
      ((evaluations u _ found').2 id rfl)
  · exact fun id => starts id ▸ evaluated.once id

theorem Gateway.Evaluated.step (evaluated : s.Evaluated) (orderly : s.Orderly label)
    (went : s.Went label s') : s'.Evaluated := by
  have still : ∀ (t : Nat) (e : Evaluation), s.evaluations[t]? = some e →
      (∃ e', s.evaluations[t]? = some e' ∧ e'.id = e.id) ∧
        (∀ id, e = .queued id → s.evaluations[t]? = some e) :=
    fun t e found => ⟨⟨e, found, rfl⟩, fun _ _ => found⟩
  have went' := went
  cases went with
  | stayed | looked | answered | moved | wrote => exact evaluated.frame went' still fun _ => rfl
  | asked | removed | deleted =>
    exact evaluated.frame went' still fun id => List.count_cons_of_ne (by simp)
  | claimed t id known vacant =>
    -- the session was not submitted before
    have new : ¬ s.Noted id := fun noted =>
      noted.elim (· vacant) (orderly id (by rw [known]; rfl) vacant)
    constructor
    · intro u e found
      rcases lookup_insert_cases found with ⟨rfl, rfl⟩ | before
      · refine Or.inl ?_
        show (s.submissions.insert id .running)[id]? ≠ none
        rw [lookup_insert, if_pos rfl]
        simp
      · exact (evaluated.queued u e before).step went'
    · exact fun i member => (evaluated.noted i member).step went'
    · intro u i found member
      rcases lookup_insert_cases found with ⟨rfl, same⟩ | before
      · cases same
        exact new (evaluated.noted _ member)
      · exact evaluated.fresh u i before member
    · intro u v i first second
      rcases lookup_insert_cases first with ⟨rfl, same⟩ | before <;>
        rcases lookup_insert_cases second with ⟨rfl, same'⟩ | before'
      · rfl
      · cases same
        exact absurd (evaluated.queued v _ before') new
      · cases same'
        exact absurd (evaluated.queued u _ before) new
      · exact evaluated.sole u v i before before'
    · exact evaluated.once
  | started t id next pool known nextId notQueued =>
    have noted := evaluated.queued t _ known
    constructor
    · intro u e found
      rcases lookup_insert_cases found with ⟨rfl, rfl⟩ | before
      · exact nextId ▸ noted.step went'
      · exact (evaluated.queued u e before).step went'
    · intro i member
      rcases List.mem_cons.mp member with same | before
      · cases same
        exact noted.step went'
      · exact (evaluated.noted i before).step went'
    · intro u i found member
      have found : (s.evaluations.insert t next)[u]? = some (.queued i) := found
      rw [lookup_insert] at found
      split at found
      · exact notQueued i (Option.some.inj found)
      · next other =>
        rcases List.mem_cons.mp member with same | before
        · cases same
          exact other (evaluated.sole t u id known found)
        · exact evaluated.fresh u i found before
    · intro u v i first second
      rcases lookup_insert_cases first with ⟨rfl, same⟩ | before
      · exact absurd same.symm (notQueued i)
      · rcases lookup_insert_cases second with ⟨rfl, same⟩ | before'
        · exact absurd same.symm (notQueued i)
        · exact evaluated.sole u v i before before'
    · intro i
      show (GatewayEvent.started id :: s.history).count (.started i) ≤ 1
      by_cases same : id = i
      · subst same
        rw [List.count_cons_self, List.count_eq_zero_of_not_mem (evaluated.fresh t id known)]
      · rw [List.count_cons_of_ne (by simpa using same)]
        exact evaluated.once i
  | finished t id answer pool known =>
    refine evaluated.frame went' (fun u e found => ?_) fun _ => rfl
    rcases lookup_insert_cases found with ⟨rfl, rfl⟩ | before
    · exact ⟨⟨_, known, rfl⟩, fun i queued => by cases queued⟩
    · exact still u e before

/-! ### What was shown -/

/-- A final status that was shown stands in the table until its entry is removed, and an entry that
was removed does not come back. -/
structure Gateway.Shown (s : Gateway) : Prop where
  settled : ∀ (id : String) (state : SubmitState) (newer older : List GatewayEvent),
    s.history = newer ++ .shown id (some state) :: older → state.terminal = true →
    .removed id ∉ newer → s.submissions[id]? = some state
  stays : ∀ (id : String) (state : SubmitState) (last : Option SubmitState)
    (newer between older : List GatewayEvent),
    s.history = newer ++ .shown id last :: (between ++ .shown id (some state) :: older) →
    state.terminal = true → .removed id ∉ between → last = some state
  gone : ∀ id : String, .removed id ∈ s.history → s.submissions[id]? = none
  deleted : ∀ id : String, .deleted id ∈ s.history → .removed id ∈ s.history
  removing : ∀ (t : Nat) (id : String), s.tasks[t]? = some (.destroying id) →
    .removed id ∈ s.history

variable {event : GatewayEvent}

/-- The first event of a history is the one looked for, or that one is further down. -/
theorem cons_eq_append_cons {x : GatewayEvent} {history newer older : List GatewayEvent}
    (same : event :: history = newer ++ x :: older) : (newer = [] ∧ event = x ∧ history = older) ∨
      ∃ rest, newer = event :: rest ∧ history = rest ++ x :: older := by
  cases newer with
  | nil =>
    obtain ⟨rfl, rfl⟩ := List.cons.inj same
    exact Or.inl ⟨rfl, rfl, rfl⟩
  | cons first rest =>
    obtain ⟨rfl, rfl⟩ := List.cons.inj same
    exact Or.inr ⟨rest, rfl, rfl⟩

theorem Gateway.Shown.frame (shown : s.Shown) (history : s'.history = s.history)
    (settled : ∀ (id : String) (state : SubmitState), state.terminal = true →
      s.submissions[id]? = some state → s'.submissions[id]? = some state)
    (gone : ∀ id : String, .removed id ∈ s.history → s.submissions[id]? = none →
      s'.submissions[id]? = none)
    (removing : ∀ (t : Nat) (id : String), s'.tasks[t]? = some (.destroying id) →
      s.tasks[t]? = some (.destroying id)) : s'.Shown := by
  obtain ⟨settled', stays, gone', deleted, removing'⟩ := shown
  constructor
  · intro id state newer older same final kept
    exact settled id state final (settled' id state newer older (history ▸ same) final kept)
  · intro id state last newer between older same
    exact stays id state last newer between older (history ▸ same)
  · intro id member
    rw [history] at member
    exact gone id member (gone' id member)
  · intro id member
    rw [history] at member ⊢
    exact deleted id member
  · intro t id known
    rw [history]
    exact removing' t id (removing t id known)

theorem Gateway.Shown.record (shown : s.Shown) (other : ∀ id last, event ≠ .shown id last)
    (removed : ∀ id, event = .removed id → s.submissions[id]? = none)
    (deleted : ∀ id, event = .deleted id → .removed id ∈ s.history) : (s.record event).Shown := by
  constructor
  · intro id state newer older same final kept
    rcases cons_eq_append_cons same with ⟨_, head, _⟩ | ⟨rest, rfl, tail⟩
    · exact absurd head (other _ _)
    · exact shown.settled id state rest older tail final fun member =>
        kept (List.mem_cons_of_mem _ member)
  · intro id state last newer between older same
    rcases cons_eq_append_cons same with ⟨_, head, _⟩ | ⟨rest, rfl, tail⟩
    · exact absurd head (other _ _)
    · exact shown.stays id state last rest between older tail
  · intro id member
    rcases List.mem_cons.mp member with same | before
    · exact removed id same.symm
    · exact shown.gone id before
  · intro id member
    rcases List.mem_cons.mp member with same | before
    · exact List.mem_cons_of_mem _ (deleted id same.symm)
    · exact List.mem_cons_of_mem _ (shown.deleted id before)
  · exact fun t id known => List.mem_cons_of_mem _ (shown.removing t id known)

theorem Gateway.Shown.step (shown : s.Shown) (grading : s.Grading) (orderly : s.Orderly label)
    (went : s.Went label s') : s'.Shown := by
  have inserted : ∀ {t : Nat} {next : GatewayTask} {u : Nat} {id : String},
      (∀ id, next ≠ .destroying id) → (s.tasks.insert t next)[u]? = some (.destroying id) →
      s.tasks[u]? = some (.destroying id) := by
    intro t next u id other known
    rcases lookup_insert_cases known with ⟨_, same⟩ | before
    · exact absurd same.symm (other id)
    · exact before
  cases went with
  | stayed | finished =>
    exact shown.frame rfl (fun _ _ _ present => present) (fun _ _ absent => absent)
      fun _ _ known => known
  | looked =>
    exact shown.frame rfl (fun _ _ _ present => present) (fun _ _ absent => absent)
      fun _ _ => inserted (by simp)
  | answered =>
    exact shown.frame rfl (fun _ _ _ present => present) (fun _ _ absent => absent)
      fun _ _ => lookup_of_erase
  | moved _ t id task next pool known graded graded' =>
    refine shown.frame rfl (fun _ _ _ present => present) (fun _ _ absent => absent)
      fun _ _ => inserted ?_
    rintro i rfl
    cases graded'
  | claimed t id known vacant =>
    refine shown.frame rfl (fun i state final present => ?_) (fun i removed absent => ?_)
      fun _ _ => inserted (by simp)
    · show (s.submissions.insert id .running)[i]? = some state
      rw [lookup_insert, if_neg]
      · exact present
      · rintro rfl
        cases vacant.symm.trans present
    · show (s.submissions.insert id .running)[i]? = none
      rw [lookup_insert, if_neg]
      · exact absent
      · rintro rfl
        exact orderly id (by rw [known]; rfl) vacant removed
  | wrote t id state known =>
    have running := grading.running t id ⟨_, known, rfl⟩
    refine shown.frame rfl (fun i last final present => ?_) (fun i removed absent => ?_)
      fun _ _ => lookup_of_erase
    · show (s.submissions.insert id state)[i]? = some last
      rw [lookup_insert, if_neg]
      · exact present
      · rintro rfl
        cases running.symm.trans present
        cases final
    · show (s.submissions.insert id state)[i]? = none
      rw [lookup_insert, if_neg]
      · exact absent
      · rintro rfl
        cases running.symm.trans absent
  | started t id =>
    have seen : (s.record (.started id)).Shown :=
      shown.record (by simp) (by simp) (by simp)
    exact ⟨seen.settled, seen.stays, seen.gone, seen.deleted, seen.removing⟩
  | asked id =>
    constructor
    · intro i state newer older same final kept
      rcases cons_eq_append_cons same with ⟨rfl, head, _⟩ | ⟨rest, rfl, tail⟩
      · injection head with here status
        exact here ▸ status
      · exact shown.settled i state rest older tail final fun member =>
          kept (List.mem_cons_of_mem _ member)
    · intro i state last newer between older same final kept
      rcases cons_eq_append_cons same with ⟨rfl, head, rest⟩ | ⟨rest, rfl, tail⟩
      · injection head with here status
        exact status ▸ here ▸ shown.settled i state between older rest final kept
      · exact shown.stays i state last rest between older tail final kept
    · intro i member
      rcases List.mem_cons.mp member with same | before
      · cases same
      · exact shown.gone i before
    · intro i member
      rcases List.mem_cons.mp member with same | before
      · cases same
      · exact List.mem_cons_of_mem _ (shown.deleted i before)
    · exact fun u i known => List.mem_cons_of_mem _ (shown.removing u i known)
  | removed t id free =>
    constructor
    · intro i state newer older same final kept
      rcases cons_eq_append_cons same with ⟨_, head, _⟩ | ⟨rest, rfl, tail⟩
      · cases head
      · have other : id ≠ i := fun same => kept (same ▸ List.mem_cons_self)
        show (s.submissions.erase id)[i]? = some state
        rw [lookup_erase, if_neg other]
        exact shown.settled i state rest older tail final fun member =>
          kept (List.mem_cons_of_mem _ member)
    · intro i state last newer between older same
      rcases cons_eq_append_cons same with ⟨_, head, _⟩ | ⟨rest, rfl, tail⟩
      · cases head
      · exact shown.stays i state last rest between older tail
    · intro i member
      show (s.submissions.erase id)[i]? = none
      rw [lookup_erase]
      split
      · rfl
      · next other =>
        rcases List.mem_cons.mp member with same | before
        · cases same
          exact absurd rfl other
        · exact shown.gone i before
    · intro i member
      rcases List.mem_cons.mp member with same | before
      · cases same
      · exact List.mem_cons_of_mem _ (shown.deleted i before)
    · intro u i known
      rcases lookup_insert_cases known with ⟨_, same⟩ | before
      · cases same
        exact List.mem_cons_self
      · exact List.mem_cons_of_mem _ (shown.removing u i before)
  | deleted t id pool known =>
    have removed := shown.removing t id known
    have left : Gateway.Shown { s with pool, tasks := s.tasks.erase t } :=
      shown.frame rfl (fun _ _ _ present => present) (fun _ _ absent => absent)
        fun _ _ => lookup_of_erase
    exact left.record (by simp) (by simp) (by rintro i same; cases same; exact removed)

end Steps

/-! ### Every run -/

/-- Where no session is submitted again after its deletion began and none is deleted while it is
graded, sessions are graded once, keep their last status and are forgotten. -/
theorem graded_once {s : Gateway} (reached : ReachableWhen gateway Gateway.Orderly s) :
    s.GradedOnce := by
  have kept : s.Grading ∧ s.Evaluated ∧ s.Shown := by
    apply ReachableWhen.invariant (motive := fun s => s.Grading ∧ s.Evaluated ∧ s.Shown) ?_ ?_
      reached
    · rintro s ⟨pool, _, rfl⟩
      refine ⟨⟨?_, ?_⟩, ⟨?_, ?_, ?_, ?_, ?_⟩, ⟨?_, ?_, ?_, ?_, ?_⟩⟩ <;>
        simp [Gateway.Grades]
    · rintro s label s' _ ⟨grading, evaluated, shown⟩ orderly taken
      have went := went_of_step taken
      exact ⟨grading.step orderly went, evaluated.step orderly went,
        shown.step grading orderly went⟩
  obtain ⟨_, evaluated, shown⟩ := kept
  exact ⟨evaluated.once, shown.stays, fun id member => shown.gone id (shown.deleted id member)⟩

/-- A pool with the session `sess-i-1`. -/
def oneSession : List GatewayLabel := (creates 1 10).map .pool

/-- The submission of `sess-i-1` is evaluated. -/
def evaluated : List GatewayLabel := [.submit 2 "sess-i-1", .claim 2, .start 2]

/-- Its outcome is written. -/
def written : List GatewayLabel := [.finish 2 (.ok "resolved"), .collect 2, .write 2]

def deletion : List GatewayLabel := [.delete 3 "sess-i-1", .release 3]

theorem graded_once_of_deleted :
    ∃ s, gateway.exec { pool := oneInstance } (oneSession ++ evaluated ++ written ++
        [.status "sess-i-1"] ++ deletion ++ [.status "sess-i-1"]) = some s ∧ s.GradedOnce := by
  have along : gateway.Along Gateway.Orderly { pool := oneInstance } (oneSession ++ evaluated ++
      written ++ [.status "sess-i-1"] ++ deletion ++ [.status "sess-i-1"]) := by
    decide +kernel
  obtain ⟨s, ran⟩ := Option.isSome_iff_exists.mp
    (show (gateway.exec { pool := oneInstance } (oneSession ++ evaluated ++ written ++
      [.status "sess-i-1"] ++ deletion ++ [.status "sess-i-1"])).isSome = true by decide +kernel)
  exact ⟨s, ran, graded_once (ReachableWhen.of_exec (.start ⟨_, ⟨_, 1, rfl⟩, rfl⟩) _ along ran)⟩

/-- The session is deleted while it is evaluated: its entry comes back with the outcome. -/
theorem entry_after_deletion : ¬ ∀ s, Reachable gateway s → s.GradedOnce := by
  intro all
  have ran : ∃ s ∈ gateway.exec { pool := oneInstance } (oneSession ++ evaluated ++ deletion ++
      written), .deleted "sess-i-1" ∈ s.history ∧ s.submissions["sess-i-1"]? ≠ none := by
    decide +kernel
  obtain ⟨s, ran, deleted, present⟩ := ran
  exact present ((all s (Reachable.of_exec ⟨_, ⟨_, 1, rfl⟩, rfl⟩ _ ran)).forgotten _ deleted)

end UEnv.Worker
