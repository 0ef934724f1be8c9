import UEnv.Native.Episodes

/-!
# What a step of an episode server can do

One constructor for each branch of a segment, with the guards that lead to it; the invariants of
the calls are proved by cases on these.
-/

namespace UEnv.Native

open Proto Wire Persistence Tables Scheduler Service ControlPlane Runs

namespace NativeServer

/-- The segments of call `t`, which is `call` before. -/
inductive Segment (s : NativeServer) (t : Nat) (call : Call) : Label → NativeServer → Prop
  -- the admission
  | started {clock : Clock} (stage : Stage) (at_stage : call.stage = .queued)
      (backend : stage = .scheduling ∨ stage = .agent) :
      Segment s t call (.admission t clock .permit) (s.resume t { call with stage })
  | queueCancelled {clock : Clock} (at_stage : call.stage = .queued)
      (cancelled : call.cancelled = true) :
      Segment s t call (.admission t clock .cancelled) (s.exitCancelled t call clock)
  | queueTimedOut {clock : Clock} (message : String) (timing : Option ResultTiming)
      (at_stage : call.stage = .queued) (late : call.deadline ≤ clock.instant) :
      Segment s t call (.admission t clock .timedOut) (s.exitTimedOut t call clock message timing)
  | queueClosed {clock : Clock} (error : String) (at_stage : call.stage = .queued) :
      Segment s t call (.admission t clock .closed) (s.exit t call (.error error))
  -- the scheduling loop
  | exhausted {clock : Clock} {stamp : DispatchStamp} (error : String)
      (at_stage : call.stage = .scheduling) (exhausted : s.maxAttempts < call.req.attemptId) :
      Segment s t call (.schedule t clock stamp) (s.exit t call (.error error))
  | begun {clock : Clock} {stamp : DispatchStamp} (assignment : WorkerAssignment)
      (scheduler : RoundRobinScheduler) (at_stage : call.stage = .scheduling)
      (within : ¬ s.maxAttempts < call.req.attemptId)
      (reserved : s.leased.scheduler.reserve clock.instant call.req = .ok (assignment, scheduler)) :
      Segment s t call (.schedule t clock stamp)
        ({ s with
          leased := (s.leased.step (.reserve clock.instant call.req)).getD s.leased }.beginAttempt
            t call clock stamp assignment)
  | unmatched {clock : Clock} {stamp : DispatchStamp} (error : ScheduleError)
      (at_stage : call.stage = .scheduling) :
      Segment s t call (.schedule t clock stamp)
        (s.resume t { call with stage := .preparing error })
  | unscheduled {clock : Clock} {stamp : DispatchStamp} (error : ScheduleError)
      (at_stage : call.stage = .scheduling) :
      Segment s t call (.schedule t clock stamp) (s.scheduleFailed t call clock.instant error)
  | prepareFailed {now : Instant} (awaited : ScheduleError) (error : String)
      (at_stage : call.stage = .preparing awaited) :
      Segment s t call (.prepared t now (.error error)) (s.exit t call (.error error))
  | prepareDone {now : Instant} (awaited : ScheduleError)
      (at_stage : call.stage = .preparing awaited) :
      Segment s t call (.prepared t now (.ok true)) (s.resume t { call with stage := .scheduling })
  | prepareUseless {now : Instant} (awaited : ScheduleError)
      (at_stage : call.stage = .preparing awaited) :
      Segment s t call (.prepared t now (.ok false)) (s.scheduleFailed t call now awaited)
  -- an attempt
  | intentFailed {nowMs : Millis} {fault : Option String} (attempt : Attempt)
      (record : DispatchRecord) (db : Db) (error : String)
      (at_stage : call.stage = .puttingIntent attempt record none)
      (store : s.plane.reports.store = some db)
      (failed : fault.elim (db.putDispatchIntent nowMs record) Except.error = .error error) :
      Segment s t call (.executeIntent t nowMs fault)
        ({ s with
          plane := { s.plane with reports := { s.plane.reports with healthy := false } } }.resume t
            { call with stage := .puttingIntent attempt record (some (.error error)) })
  | intentStored {nowMs : Millis} {fault : Option String} (attempt : Attempt)
      (record : DispatchRecord) (db db' : Db)
      (at_stage : call.stage = .puttingIntent attempt record none)
      (store : s.plane.reports.store = some db)
      (stored : fault.elim (db.putDispatchIntent nowMs record) Except.error = .ok db') :
      Segment s t call (.executeIntent t nowMs fault)
        ({ s with
          plane := { s.plane with reports := { s.plane.reports with store := some db' } } }.resume t
            { call with stage := .puttingIntent attempt record (some (.ok ())) })
  | intentDone (attempt : Attempt) (record : DispatchRecord)
      (at_stage : call.stage = .puttingIntent attempt record (some (.ok ()))) :
      Segment s t call (.intentDone t) (s.resume t { call with stage := .dispatching attempt })
  | intentRefused (attempt : Attempt) (record : DispatchRecord) (error : String)
      (at_stage : call.stage = .puttingIntent attempt record (some (.error error))) :
      Segment s t call (.intentDone t) (s.intentDone t call attempt (.error error))
  | timedOut {clock : Clock} (attempt : Attempt)
      (at_stage : call.stage = .dispatching attempt ∨ call.stage = .waiting attempt)
      (late : call.deadline ≤ clock.instant) :
      Segment s t call (.timeOut t clock) (s.timeOut t call attempt clock)
  | noticed (attempt : Attempt)
      (at_stage : call.stage = .dispatching attempt ∨ call.stage = .waiting attempt)
      (cancelled : call.cancelled = true) :
      Segment s t call (.notice t) (s.resume t { call with stage := .notifying attempt })
  | notified {clock : Clock} (attempt : Attempt) (at_stage : call.stage = .notifying attempt) :
      Segment s t call (.notified t clock) (s.notified t call attempt clock)
  | received {clock : Clock} (attempt : Attempt) (result : EpisodeResult)
      (at_stage : call.stage = .dispatching attempt ∨ call.stage = .waiting attempt)
      (sent : s.plane.reports.channels.getD attempt.rx .pending = .sent result) :
      Segment s t call (.receive t clock)
        (((s.endAttempt call attempt).broadcast result).exit t call (.ok result))
  | receiverClosed {clock : Clock} (attempt : Attempt)
      (at_stage : call.stage = .dispatching attempt ∨ call.stage = .waiting attempt)
      (closed : s.plane.reports.channels.getD attempt.rx .pending = .closed)
      (cancelled : call.cancelled = true) :
      Segment s t call (.receive t clock)
        (((s.removePending attempt.key).endAttempt call attempt).exitCancelled t call clock)
  | channelLost {clock : Clock} (attempt : Attempt)
      (at_stage : call.stage = .dispatching attempt ∨ call.stage = .waiting attempt)
      (closed : s.plane.reports.channels.getD attempt.rx .pending = .closed)
      (uncancelled : call.cancelled = false) :
      Segment s t call (.receive t clock)
        (((s.removePending attempt.key).endAttempt call attempt).retry t call
          "worker_channel_closed")
  | dispatched (attempt : Attempt) (at_stage : call.stage = .dispatching attempt) :
      Segment s t call (.dispatched t) (s.resume t { call with stage := .waiting attempt })
  | dispatchBroken {clock : Clock} {error : String} (attempt : Attempt) (result : EpisodeResult)
      (at_stage : call.stage = .dispatching attempt) :
      Segment s t call (.dispatchFailed t clock error)
        ((((s.removePending attempt.key).endAttempt call attempt).broadcast result).exit t call
          (.ok result))
  | dispatchLost {clock : Clock} {error : String} (attempt : Attempt)
      (at_stage : call.stage = .dispatching attempt) :
      Segment s t call (.dispatchFailed t clock error)
        (((s.removePending attempt.key).endAttempt call attempt).retry t call
          s!"dispatch_failed: {error}")
  -- the sleeps
  | woken (at_stage : call.stage = .backingOff ∨ call.stage = .slotFull ∨ call.stage = .retrying) :
      Segment s t call (.wake t) (s.resume t { call with stage := .scheduling })
  | sleepCancelled {clock : Clock}
      (at_stage : call.stage = .backingOff ∨ call.stage = .retrying)
      (cancelled : call.cancelled = true) :
      Segment s t call (.cancelWait t clock) (s.exitCancelled t call clock)
  -- an agent backend
  | agentListed {workerId : String} (at_stage : call.stage = .agent) :
      Segment s t call (.agentList t workerId) (s.agentEntry t call (some workerId))
  | agentCleaned (at_stage : call.stage = .agent) :
      Segment s t call (.agentClean t) (s.agentEntry t call none)
  | agentReturned {outcome : Except String EpisodeResult} (at_stage : call.stage = .agent) :
      Segment s t call (.agentReturn t outcome) (s.exit t call outcome)
  | droppedAt (awaits : Stage.awaits call.stage = true) :
      Segment s t call (.dropCall t) (s.dropCall t call)

/-- The steps of the server. -/
inductive Took (sha256Hex : Bytes → String) (s : NativeServer) : Label → NativeServer → Prop
  | enter {t : Nat} {uuid : Uuid} {clock : Clock} {request : EpisodeRequest}
      (fresh : s.calls[t]? = none) :
      Took sha256Hex s (.enter t uuid clock request) (s.enter t uuid clock request)
  | segment {t : Nat} {call : Call} {label : Label} {s' : NativeServer}
      (found : s.calls[t]? = some call) (segment : s.Segment t call label s') :
      Took sha256Hex s label s'
  | cancelEpisode {now : Instant} {episodeId : String} {attemptId : UInt32} :
      Took sha256Hex s (.cancelEpisode now episodeId attemptId)
        (s.cancelEpisode now episodeId attemptId)
  | plane {label : Plane.Label} (plane : Plane) (fits : external label = true)
      (taken : Plane.step sha256Hex s.plane label = some plane) :
      Took sha256Hex s (.plane label) { s with plane }
  | scheduler {op : SchedulerOp} (leased : LeasedScheduler)
      (fits : ∀ now req, op ≠ .reserve now req) (keeps : ∀ lease, op ≠ .release lease)
      (taken : s.leased.step op = some leased) :
      Took sha256Hex s (.scheduler op) { s with leased }

section Steps

variable {s s' : NativeServer} {t : Nat} {call : Call}

theorem ofCall_cases {segment : Call → Stage → Option NativeServer}
    (taken : s.ofCall t segment = some s') :
    ∃ call : Call, s.calls[t]? = some call ∧ segment call call.stage = some s' := by
  unfold ofCall at taken
  split at taken
  · cases taken
  · next call found => exact ⟨call, found, taken⟩

theorem schedule_segment (at_stage : call.stage = .scheduling) (clock : Clock)
    (stamp : DispatchStamp) :
    s.Segment t call (.schedule t clock stamp) (s.schedule t call clock stamp) := by
  unfold schedule
  by_cases exhausted : s.maxAttempts < call.req.attemptId
  · rw [if_pos exhausted]
    exact .exhausted _ at_stage exhausted
  · rw [if_neg exhausted]
    split
    · next assignment scheduler reserved =>
      exact .begun assignment scheduler at_stage exhausted reserved
    · next error _ =>
      split
      · exact .unmatched error at_stage
      · exact .unscheduled error at_stage

theorem received_sent (attempt : Attempt) (clock : Clock) (result : EpisodeResult) :
    s.received t call attempt clock (.sent result) =
      some (((s.endAttempt call attempt).broadcast result).exit t call (.ok result)) := rfl

theorem received_closed (attempt : Attempt) (clock : Clock) :
    s.received t call attempt clock .closed = some (if call.cancelled then
        ((s.removePending attempt.key).endAttempt call attempt).exitCancelled t call clock
      else
        ((s.removePending attempt.key).endAttempt call attempt).retry t call
          "worker_channel_closed") := rfl

theorem received_segment {attempt : Attempt} {clock : Clock}
    (at_stage : call.stage = .dispatching attempt ∨ call.stage = .waiting attempt)
    (taken : s.received t call attempt clock
      (s.plane.reports.channels.getD attempt.rx .pending) = some s') :
    s.Segment t call (.receive t clock) s' := by
  cases channel : s.plane.reports.channels.getD attempt.rx .pending with
  | pending =>
    rw [channel] at taken
    cases taken
  | sent result =>
    rw [channel, received_sent, Option.some_inj] at taken
    rw [← taken]
    exact .received attempt result at_stage channel
  | closed =>
    rw [channel, received_closed, Option.some_inj] at taken
    rw [← taken]
    by_cases cancelled : call.cancelled = true
    · rw [if_pos cancelled]
      exact .receiverClosed attempt at_stage channel cancelled
    · rw [if_neg cancelled]
      exact .channelLost attempt at_stage channel (eq_false_of_ne_true cancelled)

theorem dispatchFailed_segment {attempt : Attempt} (at_stage : call.stage = .dispatching attempt)
    (clock : Clock) (error : String) :
    s.Segment t call (.dispatchFailed t clock error)
      (s.dispatchFailed t call attempt clock error) := by
  unfold dispatchFailed
  simp only
  split
  · exact .dispatchBroken attempt _ at_stage
  · exact .dispatchLost attempt at_stage

/-- A label of call `t` is a segment of the call that it has. -/
theorem took_of_call {sha256Hex : Bytes → String} {label : Label}
    {segment : Call → Stage → Option NativeServer} (taken : s.ofCall t segment = some s')
    (segments : ∀ call : Call, segment call call.stage = some s' → s.Segment t call label s') :
    s.Took sha256Hex label s' := by
  obtain ⟨call, found, taken⟩ := ofCall_cases taken
  exact .segment found (segments call taken)

theorem took_of_step {specs : AgentSpecs} {sha256Hex : Bytes → String} {label : Label}
    (taken : step specs sha256Hex s label = some s') : s.Took sha256Hex label s' := by
  cases label with
  | enter t uuid clock request =>
    simp only [step] at taken
    split at taken
    · cases taken
    · next fresh =>
      cases taken
      exact .enter (Std.ExtTreeMap.getElem?_eq_none fresh)
  | admission t clock answer =>
    simp only [step] at taken
    refine took_of_call taken fun call taken => ?_
    split at taken
    · next stage =>
      unfold admission at taken
      split at taken
      · split at taken
        · cases taken
          exact .started _ stage (.inl rfl)
        · cases taken
          exact .started _ stage (.inr rfl)
        · cases taken
          exact .started _ stage (.inr rfl)
      · split at taken
        · next cancelled =>
          cases taken
          exact .queueCancelled stage cancelled
        · cases taken
      · split at taken
        · next late =>
          cases taken
          exact .queueTimedOut _ _ stage late
        · cases taken
      · cases taken
        exact .queueClosed _ stage
    · cases taken
  | schedule t clock stamp =>
    simp only [step] at taken
    refine took_of_call taken fun call taken => ?_
    split at taken
    · next stage =>
      cases taken
      exact schedule_segment stage clock stamp
    · cases taken
  | prepared t now answer =>
    simp only [step] at taken
    refine took_of_call taken fun call taken => ?_
    split at taken
    · next error stage =>
      cases taken
      unfold prepared
      split
      · exact .prepareFailed error _ stage
      · exact .prepareDone error stage
      · exact .prepareUseless error stage
    · cases taken
  | executeIntent t nowMs fault =>
    simp only [step] at taken
    refine took_of_call taken fun call taken => ?_
    split at taken
    · next attempt record db stage store =>
      cases taken
      unfold executeIntent
      simp only
      split
      · next error failed => exact .intentFailed attempt record db error stage store failed
      · next db' stored => exact .intentStored attempt record db db' stage store stored
    · cases taken
  | intentDone t =>
    simp only [step] at taken
    refine took_of_call taken fun call taken => ?_
    split at taken
    · next attempt record reply stage =>
      cases taken
      rcases reply with error | _
      · exact .intentRefused attempt record error stage
      · exact .intentDone attempt record stage
    · cases taken
  | timeOut t clock =>
    simp only [step] at taken
    refine took_of_call taken fun call taken => ?_
    split at taken
    · next attempt stage =>
      split at taken
      · next late =>
        cases taken
        exact .timedOut attempt (.inl stage) late
      · cases taken
    · next attempt stage =>
      split at taken
      · next late =>
        cases taken
        exact .timedOut attempt (.inr stage) late
      · cases taken
    · cases taken
  | notice t =>
    simp only [step] at taken
    refine took_of_call taken fun call taken => ?_
    split at taken
    · next attempt stage =>
      split at taken
      · next cancelled =>
        cases taken
        exact .noticed attempt (.inl stage) cancelled
      · cases taken
    · next attempt stage =>
      split at taken
      · next cancelled =>
        cases taken
        exact .noticed attempt (.inr stage) cancelled
      · cases taken
    · cases taken
  | notified t clock =>
    simp only [step] at taken
    refine took_of_call taken fun call taken => ?_
    split at taken
    · next attempt stage =>
      cases taken
      exact .notified attempt stage
    · cases taken
  | receive t clock =>
    simp only [step] at taken
    refine took_of_call taken fun call taken => ?_
    split at taken
    · next attempt stage => exact received_segment (.inl stage) taken
    · next attempt stage => exact received_segment (.inr stage) taken
    · cases taken
  | dispatched t =>
    simp only [step] at taken
    refine took_of_call taken fun call taken => ?_
    split at taken
    · next attempt stage =>
      cases taken
      exact .dispatched attempt stage
    · cases taken
  | dispatchFailed t clock error =>
    simp only [step] at taken
    refine took_of_call taken fun call taken => ?_
    split at taken
    · next attempt stage =>
      cases taken
      exact dispatchFailed_segment stage clock error
    · cases taken
  | wake t =>
    simp only [step] at taken
    refine took_of_call taken fun call taken => ?_
    split at taken
    · next stage =>
      cases taken
      exact .woken (.inl stage)
    · next stage =>
      cases taken
      exact .woken (.inr (.inl stage))
    · next stage =>
      cases taken
      exact .woken (.inr (.inr stage))
    · cases taken
  | cancelWait t clock =>
    simp only [step] at taken
    refine took_of_call taken fun call taken => ?_
    split at taken
    · next stage =>
      split at taken
      · next cancelled =>
        cases taken
        exact .sleepCancelled (.inl stage) cancelled
      · cases taken
    · next stage =>
      split at taken
      · next cancelled =>
        cases taken
        exact .sleepCancelled (.inr stage) cancelled
      · cases taken
    · cases taken
  | agentList t workerId =>
    simp only [step] at taken
    refine took_of_call taken fun call taken => ?_
    split at taken
    · next stage =>
      cases taken
      exact .agentListed stage
    · cases taken
  | agentClean t =>
    simp only [step] at taken
    refine took_of_call taken fun call taken => ?_
    split at taken
    · next stage =>
      cases taken
      exact .agentCleaned stage
    · cases taken
  | agentReturn t outcome =>
    simp only [step] at taken
    refine took_of_call taken fun call taken => ?_
    split at taken
    · next stage =>
      cases taken
      exact .agentReturned stage
    · cases taken
  | dropCall t =>
    simp only [step] at taken
    refine took_of_call taken fun call taken => ?_
    split at taken
    · next awaits =>
      cases taken
      exact .droppedAt awaits
    · cases taken
  | cancelEpisode =>
    simp only [step, Option.some_inj] at taken
    rw [← taken]
    exact .cancelEpisode
  | plane label =>
    simp only [step] at taken
    split at taken
    · next fits =>
      split at taken
      · cases taken
      · next plane moved =>
        cases taken
        exact .plane plane fits moved
    · cases taken
  | scheduler op =>
    simp only [step] at taken
    split at taken
    · cases taken
    · cases taken
    · next fits keeps =>
      split at taken
      · cases taken
      · next leased moved =>
        cases taken
        exact .scheduler leased (fun _ _ same => fits _ _ same) (fun _ same => keeps _ same) moved

end Steps

end NativeServer

end UEnv.Native
