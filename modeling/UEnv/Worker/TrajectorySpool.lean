import UEnv.Lib.Runs
import UEnv.Lib.Tables

/-!
# The spool of trajectories to upload

`TrajectoryStore::seal` and `TrajectoryUploader` over the files that they keep: the bodies, the
index, and the markers in `spool/pending` and `spool/failed`. Every file operation is a step, and a
crash may come between any two of them; it leaves the files and nothing else. What happens to one
trajectory is a machine of its own, which the spool runs once for each id.
-/

namespace UEnv.Worker

open Tables Runs

/-! ### Data -/

/-- `UPLOAD_MAX_RETRIES`. -/
def uploadMaxRetries : Nat := 10

structure SpoolMarker where
  attempts : Nat := 0
  lastError : String := ""
  deriving DecidableEq

/-- How far a call of `seal` and of `enqueue` after it came; the bundle's text is in memory. -/
inductive SealStage
  | indexing (body : String)
  | sealed (body : String)
  deriving DecidableEq

/-- The text that is sealed. -/
def SealStage.body : SealStage → String
  | indexing body | sealed body => body

/-- What comes next in `try_upload_one`. -/
inductive VisitStage
  -- the body is missing, the marker goes
  | discard
  | post (body : String)
  -- after a 2xx: the marker, the body and the index go
  | acked
  | unmarked
  | bodiless
  -- after a failure: the marker is read, and written again or moved
  | refused (error : String)
  | retry (marker : SpoolMarker)
  | giveUp (marker : SpoolMarker)
  | gaveUp
  deriving DecidableEq

/-- The upload has failed and the markers do not show it yet, or show it twice. -/
def VisitStage.counting : VisitStage → Bool
  | refused _ | retry _ | giveUp _ | gaveUp => true
  | discard | post _ | acked | unmarked | bodiless => false

/-- A call of `drain_once`: the ids that `read_dir` gave so far, the uploads it counts as acked, and
the id being tried. -/
structure Drain where
  seen : List String := []
  acked : Nat := 0
  visit : Option (String × VisitStage) := none
  deriving DecidableEq

/-- The answer to a request of `post`: a response, or an error of the compression or the client. -/
inductive UploadAnswer
  | response (status : Nat) (reason text : String)
  | failed (message : String)
  deriving DecidableEq

/-- The result of `post`. -/
def UploadAnswer.result : UploadAnswer → Except String Unit
  | response status reason text =>
    if 200 ≤ status ∧ status < 300 then .ok ()
    else .error s!"server {status} {reason}: {text}"
  | failed message => .error message

/-- An upload that was answered. -/
structure Upload where
  body : String
  ok : Bool
  deriving DecidableEq

/-- The files of the artifact directory and the calls in progress, with the history of the ids that
were sealed, of those enqueued and their bodies, and of the uploads answered. -/
structure SpoolWorld where
  bodies : Map String String := ∅
  index : Map String Unit := ∅
  pending : Map String SpoolMarker := ∅
  failed : Map String SpoolMarker := ∅
  seals : Map String SealStage := ∅
  drain : Option Drain := none
  known : Map String Unit := ∅
  enqueued : Map String String := ∅
  uploads : List (String × Upload) := []

/-! ### Operations -/

/-- The marker after one more failure. -/
def SpoolMarker.fail (marker : SpoolMarker) (error : String) : SpoolMarker :=
  { attempts := marker.attempts + 1, lastError := error }

/-- The choice between another attempt and giving up. -/
def SpoolMarker.next (marker : SpoolMarker) : VisitStage :=
  if uploadMaxRetries ≤ marker.attempts then .giveUp marker else .retry marker

namespace SpoolWorld

variable (s : SpoolWorld)

/-- `fs::write` of the body in `seal`. -/
def writeBody (id body : String) : SpoolWorld :=
  { s with
    bodies := s.bodies.insert id body
    seals := s.seals.insert id (.indexing body)
    known := s.known.insert id () }

/-- `fs::write` of the index in `seal`. -/
def writeIndex (id body : String) : SpoolWorld :=
  { s with index := s.index.insert id (), seals := s.seals.insert id (.sealed body) }

/-- `enqueue`, called with the id of a sealed trajectory. -/
def enqueue (id body : String) : SpoolWorld :=
  { s with
    pending := s.pending.insert id {}
    seals := s.seals.erase id
    enqueued := s.enqueued.insert id body }

/-- `try_upload_one` goes on with an id. -/
def goto (drain : Drain) (id : String) (stage : VisitStage) : SpoolWorld :=
  { s with drain := some { drain with visit := some (id, stage) } }

/-- `try_upload_one` returns. -/
def leave (drain : Drain) (acked : Nat) : SpoolWorld :=
  { s with drain := some { drain with visit := none, acked } }

/-- `try_upload_one` up to the request. -/
def visit (drain : Drain) (id : String) : SpoolWorld :=
  let drain := { drain with seen := id :: drain.seen }
  match s.bodies[id]? with
  | none => s.goto drain id .discard
  | some body => s.goto drain id (.post body)

/-- The upload is answered. -/
def answer (drain : Drain) (id body : String) (answer : UploadAnswer) : SpoolWorld :=
  match answer.result with
  | .ok () =>
    { s with uploads := s.uploads ++ [(id, Upload.mk body true)] }.goto drain id .acked
  | .error error =>
    { s with uploads := s.uploads ++ [(id, Upload.mk body false)] }.goto drain id (.refused error)

/-- The next file operation of `try_upload_one` after the answer. -/
def proceed (drain : Drain) (id : String) : VisitStage → Option SpoolWorld
  | .post _ => none
  | .discard => some ({ s with pending := s.pending.erase id }.leave drain drain.acked)
  | .acked => some ({ s with pending := s.pending.erase id }.goto drain id .unmarked)
  | .unmarked => some ({ s with bodies := s.bodies.erase id }.goto drain id .bodiless)
  | .bodiless => some ({ s with index := s.index.erase id }.leave drain (drain.acked + 1))
  | .refused error =>
    some (s.goto drain id (((s.pending[id]?).getD {}).fail error).next)
  | .retry marker =>
    some ({ s with pending := s.pending.insert id marker }.leave drain drain.acked)
  | .giveUp marker => some ({ s with failed := s.failed.insert id marker }.goto drain id .gaveUp)
  | .gaveUp => some ({ s with pending := s.pending.erase id }.leave drain drain.acked)

/-- The process dies. -/
def crash : SpoolWorld := { s with seals := ∅, drain := none }

end SpoolWorld

/-! ### Runs -/

/-- The next file operation of a call, the next entry of a directory, an answer, or a crash. -/
inductive SpoolLabel
  | writeBody (id body : String)
  | writeIndex (id : String)
  | enqueue (id : String)
  | drain
  | visit (id : String)
  | answer (answer : UploadAnswer)
  | proceed
  | done
  | crash
  deriving DecidableEq

/-- One step. Ids of new trajectories are fresh, and an id is enqueued by the call that sealed it;
`read_dir` gives entries that are there, and none twice. -/
def SpoolWorld.step (s : SpoolWorld) : SpoolLabel → Option SpoolWorld
  | .writeBody id body => if id ∈ s.known then none else some (s.writeBody id body)
  | .writeIndex id =>
    match s.seals[id]? with
    | some (.indexing body) => some (s.writeIndex id body)
    | _ => none
  | .enqueue id =>
    match s.seals[id]? with
    | some (.sealed body) => some (s.enqueue id body)
    | _ => none
  | .drain =>
    match s.drain with
    | none => some { s with drain := some {} }
    | some _ => none
  | .visit id =>
    match s.drain with
    | some { seen, acked, visit := none } =>
      if id ∈ s.pending ∧ id ∉ seen then some (s.visit { seen, acked } id) else none
    | _ => none
  | .answer answer =>
    match s.drain with
    | some { seen, acked, visit := some (id, .post body) } =>
      some (s.answer { seen, acked } id body answer)
    | _ => none
  | .proceed =>
    match s.drain with
    | some { seen, acked, visit := some (id, stage) } => s.proceed { seen, acked } id stage
    | _ => none
  | .done =>
    match s.drain with
    | some { visit := none, .. } => some { s with drain := none }
    | _ => none
  | .crash => some s.crash

/-- The spool from an empty directory on. -/
def trajectorySpool : System SpoolWorld SpoolLabel where
  init s := s = {}
  step := SpoolWorld.step

namespace SpoolWorld

variable (s : SpoolWorld) (id body : String)

/-- A marker in `spool/pending` and the body on disk. -/
def Pending : Prop := id ∈ s.pending ∧ s.bodies[id]? = some body

/-- A marker in `spool/failed` and the body on disk. -/
def Failed : Prop := id ∈ s.failed ∧ s.bodies[id]? = some body

/-- No marker any more. -/
def Acked : Prop := id ∉ s.pending ∧ id ∉ s.failed

/-- The failed uploads of an id. -/
def failures : Nat := s.uploads.countP fun upload => upload.1 = id ∧ upload.2.ok = false

/-- What the spool owes to a trajectory that was enqueued with a body. -/
structure Accounted : Prop where
  one : s.Pending id body ∧ ¬s.Failed id body ∧ ¬s.Acked id ∨
    ¬s.Pending id body ∧ s.Failed id body ∧ ¬s.Acked id ∨
    ¬s.Pending id body ∧ ¬s.Failed id body ∧ s.Acked id
  failed : id ∈ s.failed → s.failures id = uploadMaxRetries
  acked : s.Acked id → (id, ⟨body, true⟩) ∈ s.uploads
  kept : s.bodies[id]? ≠ some body → (id, ⟨body, true⟩) ∈ s.uploads

/-- The id being tried and how far it came. -/
def visiting : Option (String × VisitStage) := s.drain.bind Drain.visit

/-- The id has its marker in `spool/failed` and still the one in `spool/pending`. -/
def Moving : Prop := s.visiting = some (id, .gaveUp)

/-- No crash while a failed upload is being counted. -/
def Counted : SpoolLabel → Prop
  | .crash => s.visiting.all fun visit => !visit.2.counting
  | _ => True

instance decidableCounted : ∀ label, Decidable (s.Counted label)
  | .crash => inferInstanceAs (Decidable (_ = true))
  | .writeBody _ _ | .writeIndex _ | .enqueue _ | .drain | .visit _ | .answer _ | .proceed
  | .done => .isTrue trivial

end SpoolWorld

/-! ### One trajectory -/

/-- What the spool holds of one id. -/
structure SpoolLine where
  body : Option String := none
  pending : Option SpoolMarker := none
  failed : Option SpoolMarker := none
  sealing : Option SealStage := none
  stage : Option VisitStage := none
  known : Bool := false
  enqueued : Option String := none
  uploads : List Upload := []

/-- The line of an id. -/
def SpoolWorld.line (s : SpoolWorld) (id : String) : SpoolLine where
  body := s.bodies[id]?
  pending := s.pending[id]?
  failed := s.failed[id]?
  sealing := s.seals[id]?
  stage := (s.visiting.filter fun visit => visit.1 = id).map Prod.snd
  known := s.known.contains id
  enqueued := s.enqueued[id]?
  uploads := (s.uploads.filter fun upload => upload.1 = id).map Prod.snd

/-- What a step of the spool does to a line. -/
inductive SpoolLine.Moves (e : SpoolLine) : SpoolLabel → SpoolLine → Prop
  | other (label : SpoolLabel) : Moves e label e
  | bodyWritten (id body : String) : e.known = false →
      Moves e (.writeBody id body)
        { e with body := some body, sealing := some (.indexing body), known := true }
  | indexWritten (id body : String) : e.sealing = some (.indexing body) →
      Moves e (.writeIndex id) { e with sealing := some (.sealed body) }
  | enqueued (id body : String) : e.sealing = some (.sealed body) →
      Moves e (.enqueue id)
        { e with pending := some {}, sealing := none, enqueued := some body }
  | bodyMissing (id : String) (marker : SpoolMarker) : e.stage = none → e.pending = some marker →
      e.body = none → Moves e (.visit id) { e with stage := some .discard }
  | posted (id body : String) (marker : SpoolMarker) : e.stage = none → e.pending = some marker →
      e.body = some body → Moves e (.visit id) { e with stage := some (.post body) }
  | accepted (answer : UploadAnswer) (body : String) : e.stage = some (.post body) →
      answer.result = .ok () →
      Moves e (.answer answer)
        { e with stage := some .acked, uploads := e.uploads ++ [⟨body, true⟩] }
  | refused (answer : UploadAnswer) (body error : String) : e.stage = some (.post body) →
      answer.result = .error error →
      Moves e (.answer answer)
        { e with stage := some (.refused error), uploads := e.uploads ++ [⟨body, false⟩] }
  | discarded : e.stage = some .discard → Moves e .proceed { e with pending := none, stage := none }
  | unmarked : e.stage = some .acked →
      Moves e .proceed { e with pending := none, stage := some .unmarked }
  | deleted : e.stage = some .unmarked →
      Moves e .proceed { e with body := none, stage := some .bodiless }
  | unindexed : e.stage = some .bodiless → Moves e .proceed { e with stage := none }
  | counted (error : String) : e.stage = some (.refused error) →
      Moves e .proceed { e with stage := some (((e.pending).getD {}).fail error).next }
  | kept (marker : SpoolMarker) : e.stage = some (.retry marker) →
      Moves e .proceed { e with pending := some marker, stage := none }
  | failed (marker : SpoolMarker) : e.stage = some (.giveUp marker) →
      Moves e .proceed { e with failed := some marker, stage := some .gaveUp }
  | moved : e.stage = some .gaveUp → Moves e .proceed { e with pending := none, stage := none }
  | crashed : Moves e .crash { e with sealing := none, stage := none }

attribute [local simp] SpoolWorld.line

section Lines

variable {s s' : SpoolWorld} {label : SpoolLabel}

theorem line_writeBody (id body other : String) : (s.writeBody id body).line other =
    if id = other then
      { s.line other with
        body := some body, sealing := some (.indexing body), known := true }
    else s.line other := by
  simp only [SpoolWorld.line, SpoolWorld.writeBody, SpoolWorld.visiting, lookup_insert]
  split
  · next same => subst same; simp
  · next differ => simp [differ]

theorem line_writeIndex (id body other : String) : (s.writeIndex id body).line other =
    if id = other then { s.line other with sealing := some (.sealed body) } else s.line other := by
  simp only [SpoolWorld.line, SpoolWorld.writeIndex, SpoolWorld.visiting, lookup_insert]
  split <;> rfl

theorem line_enqueue (id body other : String) : (s.enqueue id body).line other =
    if id = other then
      { s.line other with pending := some {}, sealing := none, enqueued := some body }
    else s.line other := by
  simp only [SpoolWorld.line, SpoolWorld.enqueue, SpoolWorld.visiting, lookup_insert, lookup_erase]
  split <;> rfl

theorem line_goto (drain : Drain) (id other : String) (stage : VisitStage) :
    (s.goto drain id stage).line other =
      { s.line other with stage := if id = other then some stage else none } := by
  simp only [SpoolWorld.line, SpoolWorld.goto, SpoolWorld.visiting, Option.bind_some,
    Option.filter_some]
  split <;> split <;> simp_all

theorem line_leave (drain : Drain) (acked : Nat) (other : String) :
    (s.leave drain acked).line other = { s.line other with stage := none } := rfl

theorem stage_of_visiting {id : String} {stage : VisitStage}
    (visiting : s.visiting = some (id, stage)) (other : String) :
    (s.line other).stage = if id = other then some stage else none := by
  simp only [SpoolWorld.line, visiting, Option.filter_some]
  split <;> split <;> simp_all

theorem line_answer (drain : Drain) (id body other : String) (answer : UploadAnswer) :
    (s.answer drain id body answer).line other =
      if id = other then
        match answer.result with
        | .ok () =>
          { s.line other with
            stage := some .acked, uploads := (s.line other).uploads ++ [⟨body, true⟩] }
        | .error error =>
          { s.line other with
            stage := some (.refused error)
            uploads := (s.line other).uploads ++ [⟨body, false⟩] }
      else { s.line other with stage := none } := by
  unfold SpoolWorld.answer
  split <;> rw [line_goto]
  all_goals
    split
    · next same => subst same; simp [SpoolWorld.visiting, *]
    · next differ => simp [SpoolWorld.visiting, differ]

theorem moves_of_visited {id : String} {stage : VisitStage} {e' : SpoolLine}
    (visiting : s.visiting = some (id, stage)) (other : String)
    (moves : (s.line other).stage = some stage → (s.line other).Moves label e')
    (line : s'.line other = if id = other then e' else { s.line other with stage := none }) :
    (s.line other).Moves label (s'.line other) := by
  have stages := stage_of_visiting visiting other
  rw [line]
  split
  · next same =>
    rw [if_pos same] at stages
    exact moves stages
  · next differ =>
    rw [if_neg differ] at stages
    rw [← stages]
    exact .other label

theorem line_unmark (id other : String) :
    ({ s with pending := s.pending.erase id } : SpoolWorld).line other =
      if id = other then { s.line other with pending := none } else s.line other := by
  simp only [SpoolWorld.line, SpoolWorld.visiting, lookup_erase]
  split <;> rfl

theorem line_mark (id other : String) (marker : SpoolMarker) :
    ({ s with pending := s.pending.insert id marker } : SpoolWorld).line other =
      if id = other then { s.line other with pending := some marker } else s.line other := by
  simp only [SpoolWorld.line, SpoolWorld.visiting, lookup_insert]
  split <;> rfl

theorem line_fail (id other : String) (marker : SpoolMarker) :
    ({ s with failed := s.failed.insert id marker } : SpoolWorld).line other =
      if id = other then { s.line other with failed := some marker } else s.line other := by
  simp only [SpoolWorld.line, SpoolWorld.visiting, lookup_insert]
  split <;> rfl

theorem line_delete (id other : String) :
    ({ s with bodies := s.bodies.erase id } : SpoolWorld).line other =
      if id = other then { s.line other with body := none } else s.line other := by
  simp only [SpoolWorld.line, SpoolWorld.visiting, lookup_erase]
  split <;> rfl

theorem moves_of_proceed {drain : Drain} {id : String} {stage : VisitStage}
    (visiting : s.visiting = some (id, stage)) (taken : s.proceed drain id stage = some s')
    (other : String) : (s.line other).Moves .proceed (s'.line other) := by
  cases stage with
  | post _ => cases taken
  | discard =>
    cases taken
    refine moves_of_visited visiting other .discarded ?_
    rw [line_leave, line_unmark]
    split <;> rfl
  | acked =>
    cases taken
    refine moves_of_visited visiting other .unmarked ?_
    rw [line_goto, line_unmark]
    split <;> rfl
  | unmarked =>
    cases taken
    refine moves_of_visited visiting other .deleted ?_
    rw [line_goto, line_delete]
    split <;> rfl
  | bodiless =>
    cases taken
    refine moves_of_visited visiting other .unindexed ?_
    rw [line_leave]
    split <;> rfl
  | refused error =>
    cases taken
    refine moves_of_visited visiting other (.counted error) ?_
    rw [line_goto]
    split
    · next same => rw [same]; rfl
    · rfl
  | retry marker =>
    cases taken
    refine moves_of_visited visiting other (.kept marker) ?_
    rw [line_leave, line_mark]
    split <;> rfl
  | giveUp marker =>
    cases taken
    refine moves_of_visited visiting other (.failed marker) ?_
    rw [line_goto, line_fail]
    split <;> rfl
  | gaveUp =>
    cases taken
    refine moves_of_visited visiting other .moved ?_
    rw [line_leave, line_unmark]
    split <;> rfl

theorem moves_of_answer {drain : Drain} {id body : String}
    (visiting : s.visiting = some (id, .post body)) (answer : UploadAnswer) (other : String) :
    (s.line other).Moves (.answer answer) ((s.answer drain id body answer).line other) := by
  cases result : answer.result with
  | ok =>
    refine moves_of_visited visiting other (fun stage => .accepted answer body stage result) ?_
    rw [line_answer, result]
  | error error =>
    refine moves_of_visited visiting other (fun stage => .refused answer body error stage result) ?_
    rw [line_answer, result]

theorem moves_of_visit {drain : Drain} {id : String} (idle : s.visiting = none)
    (present : id ∈ s.pending) (other : String) :
    (s.line other).Moves (.visit id) ((s.visit drain id).line other) := by
  have stage : (s.line other).stage = none := by simp [idle]
  obtain ⟨marker, marked⟩ := (mem_iff_lookup _ id).mp present
  unfold SpoolWorld.visit
  split
  · next missing =>
    rw [line_goto]
    split
    · next same => subst same; exact .bodyMissing id marker stage marked missing
    · rw [← stage]; exact .other _
  · next body found =>
    rw [line_goto]
    split
    · next same => subst same; exact .posted id body marker stage marked found
    · rw [← stage]; exact .other _

theorem moves_of_step (taken : s.step label = some s') (id : String) :
    (s.line id).Moves label (s'.line id) := by
  cases label with
  | writeBody other body =>
    simp only [SpoolWorld.step] at taken
    split at taken
    · cases taken
    · next fresh =>
      cases taken
      rw [line_writeBody]
      split
      · next same =>
        subst same
        exact .bodyWritten other body (Bool.eq_false_iff.mpr fresh)
      · exact .other _
  | writeIndex other =>
    simp only [SpoolWorld.step] at taken
    split at taken
    · next body sealing =>
      cases taken
      rw [line_writeIndex]
      split
      · next same => subst same; exact .indexWritten other body sealing
      · exact .other _
    · cases taken
  | enqueue other =>
    simp only [SpoolWorld.step] at taken
    split at taken
    · next body sealing =>
      cases taken
      rw [line_enqueue]
      split
      · next same => subst same; exact .enqueued other body sealing
      · exact .other _
    · cases taken
  | drain =>
    simp only [SpoolWorld.step] at taken
    split at taken
    · next idle =>
      cases taken
      have same : ({ s with drain := some {} } : SpoolWorld).line id = s.line id := by
        simp [SpoolWorld.visiting, idle]
      rw [same]
      exact .other _
    · cases taken
  | visit other =>
    simp only [SpoolWorld.step] at taken
    split at taken
    · next seen acked draining =>
      split at taken
      · next listed =>
        cases taken
        exact moves_of_visit (by simp [SpoolWorld.visiting, draining]) listed.1 id
      · cases taken
    · cases taken
  | answer answer =>
    simp only [SpoolWorld.step] at taken
    split at taken
    · next draining =>
      cases taken
      exact moves_of_answer (by simp [SpoolWorld.visiting, draining]) answer id
    · cases taken
  | proceed =>
    simp only [SpoolWorld.step] at taken
    split at taken
    · next draining =>
      exact moves_of_proceed (by simp [SpoolWorld.visiting, draining]) taken id
    · cases taken
  | done =>
    simp only [SpoolWorld.step] at taken
    split at taken
    · next draining =>
      cases taken
      have same : ({ s with drain := none } : SpoolWorld).line id = s.line id := by
        simp [SpoolWorld.visiting, draining]
      rw [same]
      exact .other _
    · cases taken
  | crash =>
    cases taken
    exact .crashed

end Lines

/-! ### The markers and the uploads -/

namespace SpoolLine

variable (e : SpoolLine)

/-- The failed uploads of a line. -/
def failures : Nat := e.uploads.countP fun upload => upload.ok = false

/-- The body had a 2xx. -/
def Posted (body : String) : Prop := ⟨body, true⟩ ∈ e.uploads

/-- The marker is in `spool/pending` and counts so many failed uploads. -/
def Waits (body : String) (attempts : Nat) : Prop :=
  ∃ marker, e.pending = some marker ∧ marker.attempts = attempts ∧ attempts < uploadMaxRetries ∧
    e.failed = none ∧ e.body = some body

/-- The marker is in `spool/failed`. -/
def Failed (body : String) : Prop :=
  ∃ marker, e.failed = some marker ∧ e.failures = uploadMaxRetries ∧ e.body = some body

/-- There is no marker any more. -/
def Gone (body : String) : Prop := e.pending = none ∧ e.failed = none ∧ e.Posted body

/-- Where an enqueued trajectory stands, by what comes next in its visit. -/
def Stands (body : String) : Option VisitStage → Prop
  | none => e.Waits body e.failures ∨ e.pending = none ∧ e.Failed body ∨ e.Gone body
  | some .discard => False
  | some (.post read) => read = body ∧ e.Waits body e.failures
  | some .acked => e.Posted body ∧ e.Waits body e.failures
  | some .unmarked | some .bodiless => e.Gone body
  | some (.refused _) => ∃ attempts, e.Waits body attempts ∧ e.failures = attempts + 1
  | some (.retry marker) => (∃ attempts, e.Waits body attempts) ∧
      marker.attempts = e.failures ∧ e.failures < uploadMaxRetries
  | some (.giveUp _) => (∃ attempts, e.Waits body attempts) ∧ e.failures = uploadMaxRetries
  | some .gaveUp => e.pending.isSome ∧ e.Failed body

/-- The markers of a line agree with its uploads. -/
structure Sound : Prop where
  fresh : e.known = false → e.sealing = none ∧ e.enqueued = none
  sealing : ∀ stage, e.sealing = some stage → e.body = some stage.body ∧ e.enqueued = none
  unqueued : e.enqueued = none →
    e.pending = none ∧ e.failed = none ∧ e.uploads = [] ∧ e.stage = none
  queued : ∀ body, e.enqueued = some body → e.Stands body e.stage

section Moves

variable {e e' : SpoolLine} {label : SpoolLabel} {body : String}

theorem Sound.start : ({} : SpoolLine).Sound where
  fresh _ := ⟨rfl, rfl⟩
  sealing := nofun
  unqueued _ := ⟨rfl, rfl, rfl, rfl⟩
  queued := nofun

theorem Sound.unsealed (sound : e.Sound) (queued : e.enqueued = some body) : e.sealing = none := by
  cases sealing : e.sealing with
  | none => rfl
  | some stage =>
    have unqueued := (sound.sealing stage sealing).2
    rw [queued] at unqueued
    cases unqueued

theorem Sound.visited (sound : e.Sound) {stage : VisitStage} (visiting : e.stage = some stage) :
    ∃ body, e.enqueued = some body ∧ e.Stands body (some stage) := by
  cases queued : e.enqueued with
  | none =>
    have idle := (sound.unqueued queued).2.2.2
    rw [visiting] at idle
    cases idle
  | some body => exact ⟨body, rfl, visiting ▸ sound.queued body queued⟩

/-- A trajectory that is not visited waits while its marker is in `spool/pending`. -/
theorem Sound.marked (sound : e.Sound) {marker : SpoolMarker} (idle : e.stage = none)
    (marked : e.pending = some marker) :
    ∃ body, e.enqueued = some body ∧ e.Waits body e.failures := by
  cases queued : e.enqueued with
  | none => cases (sound.unqueued queued).1.symm.trans marked
  | some body =>
    have stands := sound.queued body queued
    rw [idle] at stands
    rcases stands with waits | ⟨unmarked, -⟩ | ⟨unmarked, -⟩
    · exact ⟨body, rfl, waits⟩
    · cases unmarked.symm.trans marked
    · cases unmarked.symm.trans marked

theorem Stands.idle {stage : VisitStage} (stands : e.Stands body (some stage))
    (calm : stage.counting = false) : e.Stands body none := by
  cases stage with
  | discard => exact stands.elim
  | post => exact .inl stands.2
  | acked => exact .inl stands.2
  | unmarked => exact .inr (.inr stands)
  | bodiless => exact .inr (.inr stands)
  | refused | retry | giveUp | gaveUp => cases calm

/-- A visit changes where the trajectory stands, and the rest of the invariant stays. -/
theorem Sound.stands (sound : e.Sound) (queued : e.enqueued = some body)
    (known : e'.known = e.known) (sealing : e'.sealing = e.sealing)
    (enqueued : e'.enqueued = e.enqueued) (stands : e'.Stands body e'.stage) : e'.Sound where
  fresh unknown := by
    rw [known] at unknown
    have unqueued := (sound.fresh unknown).2
    rw [queued] at unqueued
    cases unqueued
  sealing stage := by
    rw [sealing, sound.unsealed queued]
    exact nofun
  unqueued unqueued := by
    rw [enqueued, queued] at unqueued
    cases unqueued
  queued body' queued' := by
    rw [enqueued, queued] at queued'
    cases queued'
    exact stands

theorem Sound.move (sound : e.Sound) (moves : e.Moves label e')
    (counted : label = .crash → ∀ stage ∈ e.stage, stage.counting = false) : e'.Sound := by
  cases moves with
  | other => exact sound
  | bodyWritten id text fresh =>
    have unqueued := (sound.fresh fresh).2
    refine ⟨nofun, ?_, sound.unqueued, fun body queued => ?_⟩
    · rintro stage ⟨⟩
      exact ⟨rfl, unqueued⟩
    · cases unqueued.symm.trans queued
  | indexWritten id text sealing =>
    obtain ⟨written, unqueued⟩ := sound.sealing _ sealing
    refine ⟨fun fresh => ?_, ?_, sound.unqueued, fun body queued => ?_⟩
    · cases (sound.fresh fresh).1.symm.trans sealing
    · rintro stage ⟨⟩
      exact ⟨written, unqueued⟩
    · cases unqueued.symm.trans queued
  | enqueued id text sealing =>
    obtain ⟨written, unqueued⟩ := sound.sealing _ sealing
    obtain ⟨unmarked, unfailed, untried, idle⟩ := sound.unqueued unqueued
    refine ⟨fun fresh => ?_, nofun, nofun, ?_⟩
    · cases (sound.fresh fresh).1.symm.trans sealing
    · rintro body ⟨⟩
      simp only [idle]
      refine .inl ⟨{}, rfl, ?_, ?_, unfailed, written⟩
      · simp [failures, untried]
      · simp [failures, untried, uploadMaxRetries]
  | bodyMissing id marker idle marked missing =>
    obtain ⟨body, -, _, -, -, -, -, written⟩ := sound.marked idle marked
    cases missing.symm.trans written
  | posted id read marker idle marked found =>
    obtain ⟨body, queued, waits⟩ := sound.marked idle marked
    have ⟨_, _, _, _, _, written⟩ := waits
    exact sound.stands queued rfl rfl rfl ⟨Option.some.inj (found.symm.trans written), waits⟩
  | accepted answer read stage =>
    obtain ⟨body, queued, rfl, waits⟩ := sound.visited stage
    refine sound.stands queued rfl rfl rfl ⟨?_, ?_⟩
    · simp [Posted]
    · simpa [Waits, failures] using waits
  | refused answer read error stage =>
    obtain ⟨body, queued, rfl, waits⟩ := sound.visited stage
    refine sound.stands queued rfl rfl rfl ⟨e.failures, waits, ?_⟩
    simp [failures]
  | discarded stage => exact (sound.visited stage).elim fun _ stands => stands.2.elim
  | unmarked stage =>
    obtain ⟨body, queued, posted, _, -, -, -, unfailed, -⟩ := sound.visited stage
    exact sound.stands queued rfl rfl rfl ⟨rfl, unfailed, posted⟩
  | deleted stage =>
    obtain ⟨body, queued, gone⟩ := sound.visited stage
    exact sound.stands queued rfl rfl rfl gone
  | unindexed stage =>
    obtain ⟨body, queued, gone⟩ := sound.visited stage
    exact sound.stands queued rfl rfl rfl (.inr (.inr gone))
  | counted error stage =>
    obtain ⟨body, queued, attempts, waits, failures⟩ := sound.visited stage
    refine sound.stands queued rfl rfl rfl ?_
    have ⟨marker, marked, counts, few, _, _⟩ := waits
    have read : e.pending.getD {} = marker := by rw [marked, Option.getD_some]
    simp only [read, SpoolMarker.next, SpoolMarker.fail, counts]
    split
    · next many =>
      have last : e.failures = uploadMaxRetries := by omega
      exact ⟨⟨_, waits⟩, last⟩
    · next more =>
      have few : e.failures < uploadMaxRetries := by omega
      exact ⟨⟨_, waits⟩, failures.symm, few⟩
  | kept marker stage =>
    obtain ⟨body, queued, ⟨_, _, -, -, -, unfailed, written⟩, attempts, few⟩ := sound.visited stage
    exact sound.stands queued rfl rfl rfl (.inl ⟨marker, rfl, attempts, few, unfailed, written⟩)
  | failed marker stage =>
    obtain ⟨body, queued, ⟨_, _, marked, -, -, -, written⟩, failures⟩ := sound.visited stage
    exact sound.stands queued rfl rfl rfl ⟨by simp [marked], marker, rfl, failures, written⟩
  | moved stage =>
    obtain ⟨body, queued, -, failed⟩ := sound.visited stage
    exact sound.stands queued rfl rfl rfl (.inr (.inl ⟨rfl, failed⟩))
  | crashed =>
    refine ⟨fun fresh => ⟨rfl, (sound.fresh fresh).2⟩, nofun, fun unqueued => ?_, ?_⟩
    · exact ⟨(sound.unqueued unqueued).1, (sound.unqueued unqueued).2.1,
        (sound.unqueued unqueued).2.2.1, rfl⟩
    · intro body queued
      have stands := sound.queued body queued
      cases stage : e.stage with
      | none => rwa [stage] at stands
      | some reached =>
        rw [stage] at stands
        exact stands.idle (counted rfl reached stage)

end Moves

end SpoolLine

/-! ### The spool as a whole -/

section Spool

variable {s : SpoolWorld} {id body : String}

theorem mem_line_stage {stage : VisitStage} :
    (s.line id).stage = some stage ↔ s.visiting = some (id, stage) := by
  simp [Option.filter_eq_some_iff]

theorem mem_line_uploads {upload : Upload} :
    upload ∈ (s.line id).uploads ↔ (id, upload) ∈ s.uploads := by
  simp

theorem failures_line : (s.line id).failures = s.failures id := by
  simp [SpoolLine.failures, SpoolWorld.failures, List.countP_map,
    List.countP_filter, Function.comp_def, and_comm]

theorem sound_of_counted (reached : ReachableWhen trajectorySpool SpoolWorld.Counted s)
    (id : String) : (s.line id).Sound := by
  apply ReachableWhen.invariant (motive := fun s => (s.line id).Sound) ?_ ?_ reached
  · rintro s rfl
    exact SpoolLine.Sound.start
  · intro s label s' _ sound counted taken
    refine sound.move (moves_of_step taken id) ?_
    rintro rfl stage visited
    have visiting := mem_line_stage.mp visited
    simpa [SpoolWorld.Counted, visiting] using counted

theorem accounted_of_waits {attempts : Nat} (waits : (s.line id).Waits body attempts) :
    s.Accounted id body := by
  obtain ⟨marker, marked, -, -, unfailed, written⟩ := waits
  have pending : id ∈ s.pending := (mem_iff_lookup _ id).mpr ⟨marker, marked⟩
  have unfailed : id ∉ s.failed := fun member => by
    obtain ⟨_, failed⟩ := (mem_iff_lookup _ id).mp member
    cases unfailed.symm.trans failed
  exact {
    one := .inl ⟨⟨pending, written⟩, fun failed => unfailed failed.1, fun acked => acked.1 pending⟩
    failed := fun failed => absurd failed unfailed
    acked := fun acked => absurd pending acked.1
    kept := fun deleted => absurd written deleted }

theorem accounted_of_failed (unmarked : (s.line id).pending = none)
    (failed : (s.line id).Failed body) : s.Accounted id body := by
  obtain ⟨marker, failed, failures, written⟩ := failed
  have failed : id ∈ s.failed := (mem_iff_lookup _ id).mpr ⟨marker, failed⟩
  have unmarked : id ∉ s.pending := fun member => by
    obtain ⟨_, pending⟩ := (mem_iff_lookup _ id).mp member
    cases unmarked.symm.trans pending
  exact {
    one := .inr (.inl ⟨fun pending => unmarked pending.1, ⟨failed, written⟩,
      fun acked => acked.2 failed⟩)
    failed := fun _ => failures_line.symm.trans failures
    acked := fun acked => absurd failed acked.2
    kept := fun deleted => absurd written deleted }

theorem accounted_of_gone (gone : (s.line id).Gone body) : s.Accounted id body := by
  obtain ⟨unmarked, unfailed, posted⟩ := gone
  have unmarked : id ∉ s.pending := fun member => by
    obtain ⟨_, pending⟩ := (mem_iff_lookup _ id).mp member
    cases unmarked.symm.trans pending
  have unfailed : id ∉ s.failed := fun member => by
    obtain ⟨_, failed⟩ := (mem_iff_lookup _ id).mp member
    cases unfailed.symm.trans failed
  have posted := mem_line_uploads.mp posted
  exact {
    one := .inr (.inr ⟨fun pending => unmarked pending.1, fun failed => unfailed failed.1,
      unmarked, unfailed⟩)
    failed := fun failed => absurd failed unfailed
    acked := fun _ => posted
    kept := fun _ => posted }

theorem not_accounted_of_both (pending : (s.line id).pending.isSome)
    (failed : (s.line id).Failed body) : ¬s.Accounted id body := by
  obtain ⟨marker, failed, -, written⟩ := failed
  obtain ⟨marker', pending⟩ := Option.isSome_iff_exists.mp pending
  have pending : s.Pending id body := ⟨(mem_iff_lookup _ id).mpr ⟨marker', pending⟩, written⟩
  have failed : s.Failed id body := ⟨(mem_iff_lookup _ id).mpr ⟨marker, failed⟩, written⟩
  intro accounted
  rcases accounted.one with ⟨-, unfailed, -⟩ | ⟨unmarked, -⟩ | ⟨unmarked, -⟩
  · exact unfailed failed
  · exact unmarked pending
  · exact unmarked pending

theorem accounted_of_stands {stage : Option VisitStage} (stands : (s.line id).Stands body stage)
    (still : stage ≠ some .gaveUp) : s.Accounted id body := by
  cases stage with
  | none =>
    rcases stands with waits | ⟨unmarked, failed⟩ | gone
    · exact accounted_of_waits waits
    · exact accounted_of_failed unmarked failed
    · exact accounted_of_gone gone
  | some stage =>
    cases stage with
    | discard => exact stands.elim
    | post | acked => exact accounted_of_waits stands.2
    | unmarked | bodiless => exact accounted_of_gone stands
    | refused =>
      obtain ⟨attempts, waits, -⟩ := stands
      exact accounted_of_waits waits
    | retry | giveUp =>
      obtain ⟨⟨attempts, waits⟩, -⟩ := stands
      exact accounted_of_waits waits
    | gaveUp => exact absurd rfl still

/-- Along every run in which no crash loses a failure, an enqueued trajectory is pending, failed or
acked as it should, except while its marker is being moved. -/
theorem trajectory_accounted (reached : ReachableWhen trajectorySpool SpoolWorld.Counted s)
    (queued : s.enqueued[id]? = some body) : s.Accounted id body ↔ ¬s.Moving id := by
  have stands := (sound_of_counted reached id).queued body queued
  constructor
  · intro accounted moving
    rw [mem_line_stage.mpr moving] at stands
    exact not_accounted_of_both stands.1 stands.2 accounted
  · intro still
    exact accounted_of_stands stands fun moving => still (mem_line_stage.mp moving)

/-- A trajectory is sealed and enqueued. -/
def seals (id body : String) : List SpoolLabel := [.writeBody id body, .writeIndex id, .enqueue id]

/-- The only marker is tried, and the answer comes. -/
def tries (id : String) (answer : UploadAnswer) : List SpoolLabel :=
  [.drain, .visit id, .answer answer]

/-- A failed upload is counted. -/
def retries (id : String) : List SpoolLabel :=
  tries id (.failed "connection refused") ++ [.proceed, .proceed, .done]

/-- A 2xx is handled. -/
def acks (id : String) : List SpoolLabel :=
  tries id (.response 200 "OK" "") ++ [.proceed, .proceed, .proceed, .done]

theorem trajectory_accounted_of_crash :
    ∃ s, trajectorySpool.exec {} (seals "t" "b" ++ retries "t" ++ [.drain, .visit "t", .crash] ++
      acks "t") = some s ∧ (s.Accounted "t" "b" ↔ ¬s.Moving "t") := by
  have along : trajectorySpool.Along SpoolWorld.Counted {} (seals "t" "b" ++ retries "t" ++
      [.drain, .visit "t", .crash] ++ acks "t") := by
    decide +kernel
  have ran : ∃ s ∈ trajectorySpool.exec {} (seals "t" "b" ++ retries "t" ++
      [.drain, .visit "t", .crash] ++ acks "t"), s.enqueued["t"]? = some "b" := by
    decide +kernel
  obtain ⟨s, ran, queued⟩ := ran
  exact ⟨s, ran, trajectory_accounted (ReachableWhen.of_exec (.start rfl) _ along ran) queued⟩

/-- The process dies after the tenth failure between the write of the marker in `spool/failed` and
the removal of the one in `spool/pending`, and the next upload has a 2xx: the trajectory has a
marker in `spool/failed` and no body. -/
theorem failed_without_body :
    ¬∀ s, Reachable trajectorySpool s →
      ∀ id body, s.enqueued[id]? = some body → s.Accounted id body := by
  intro all
  have ran : ∃ s ∈ trajectorySpool.exec {} (seals "t" "b" ++
      (List.replicate 9 (retries "t")).flatten ++ tries "t" (.failed "connection refused") ++
      [.proceed, .proceed, .crash] ++ acks "t"),
      s.enqueued["t"]? = some "b" ∧ "t" ∈ s.failed ∧ s.bodies["t"]? = none ∧ "t" ∉ s.pending := by
    decide +kernel
  obtain ⟨s, ran, queued, failed, deleted, unmarked⟩ := ran
  have accounted := all s (Reachable.of_exec rfl _ ran) "t" "b" queued
  rcases accounted.one with ⟨pending, -⟩ | ⟨-, kept, -⟩ | ⟨-, -, acked⟩
  · exact unmarked pending.1
  · cases deleted.symm.trans kept.2
  · exact acked.2 failed

end Spool

end UEnv.Worker
