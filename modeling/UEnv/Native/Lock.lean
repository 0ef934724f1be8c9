import UEnv.Native.Segments

/-!
# One execution per episode

`active_episodes` is the lock that refuses a second execution of an episode. A call takes it at its
entry check, but a failed attempt removes the entry and only the next dispatch puts it back, and
the guard of a call removes whatever entry its episode has. The lock holds along the runs in which
no call arrives for an episode whose running call has its entry removed.
-/

namespace UEnv.Native

open Proto Wire Persistence Tables Scheduler Service ControlPlane Runs

/-- What a call has of the lock. -/
structure Hold where
  episodeId : String
  running : Bool
  listed : Bool
  deriving DecidableEq

def Call.hold (call : Call) : Hold :=
  { episodeId := call.req.episodeId, running := decide call.Running, listed := call.listed }

namespace NativeServer

/-- What call `t` has of the lock. -/
def hold (s : NativeServer) (t : Nat) : Option Hold := (s.calls[t]?).map Call.hold

/-- Every running call of the episode has its entry in `active_episodes`. -/
def AllListed (s : NativeServer) (episodeId : String) : Prop :=
  ∀ (t : Nat) (call : Call), s.calls[t]? = some call → call.Running →
    call.req.episodeId = episodeId → call.listed = true

/-- No call arrives for an episode whose running call has its entry removed. -/
def Orderly (s : NativeServer) : Label → Prop
  | .enter _ uuid clock request =>
    ∀ req, prepare uuid clock.unixSeconds request = .ok req → s.AllListed req.episodeId
  | _ => True

instance (s : NativeServer) (episodeId : String) : Decidable (s.AllListed episodeId) :=
  decidableForallEntries s.calls fun _ (call : Call) =>
    call.Running → call.req.episodeId = episodeId → call.listed = true

instance (s : NativeServer) : (label : Label) → Decidable (s.Orderly label)
  | .enter _ uuid clock request =>
    match accepted : prepare uuid clock.unixSeconds request with
    | .ok req =>
      if listed : s.AllListed req.episodeId then
        .isTrue fun req' accepted' => by
          obtain rfl := Except.ok.inj (accepted.symm.trans accepted')
          exact listed
      else .isFalse fun orderly => listed (orderly req accepted)
    | .error _ => .isTrue fun _ accepted' => by cases accepted.symm.trans accepted'
  | .admission .. | .schedule .. | .prepared .. | .executeIntent .. | .intentDone _ | .timeOut ..
  | .notice _ | .notified .. | .receive .. | .dispatched _ | .dispatchFailed .. | .wake _
  | .cancelWait .. | .agentList .. | .agentClean _ | .agentReturn .. | .dropCall _
  | .cancelEpisode .. | .plane _ | .scheduler _ => .isTrue trivial

/-- What a step does to the lock and to what the calls have of it. -/
inductive LockMove (s s' : NativeServer) : Prop
  | quiet (entries : ∀ id, s'.activeEpisodes.contains id = s.activeEpisodes.contains id)
      (holds : ∀ t, s'.hold t = s.hold t)
  | turn (t : Nat) (before after : Hold) (held : s.hold t = some before)
      (running : before.running = true) (episode : after.episodeId = before.episodeId)
      (gone : after.running = false → after.listed = false)
      (holds : ∀ t', s'.hold t' = if t = t' then some after else s.hold t')
      (mine : s'.activeEpisodes.contains before.episodeId = after.listed)
      (others : ∀ id ≠ before.episodeId,
        s'.activeEpisodes.contains id = s.activeEpisodes.contains id)
  | join (t : Nat) (episodeId : String) (fresh : s.hold t = none)
      (free : s.activeEpisodes.contains episodeId = false) (listed : s.AllListed episodeId)
      (holds : ∀ t', s'.hold t' = if t = t' then some ⟨episodeId, true, true⟩ else s.hold t')
      (mine : s'.activeEpisodes.contains episodeId = true)
      (others : ∀ id ≠ episodeId, s'.activeEpisodes.contains id = s.activeEpisodes.contains id)
  | refuse (t : Nat) (after : Hold) (fresh : s.hold t = none) (gone : after.running = false)
      (holds : ∀ t', s'.hold t' = if t = t' then some after else s.hold t')
      (entries : ∀ id, s'.activeEpisodes.contains id = s.activeEpisodes.contains id)

section Moves

variable {s s' s₀ : NativeServer} {t : Nat} {call call' : Call}

theorem hold_of_call (found : s.calls[t]? = some call) : s.hold t = some call.hold := by
  unfold hold
  rw [found]
  rfl

theorem hold_insert (calls : s'.calls = s.calls.insert t call) (t' : Nat) :
    s'.hold t' = if t = t' then some call.hold else s.hold t' := by
  unfold hold
  rw [calls, lookup_insert]
  split <;> rfl

theorem contains_insert_self (table : Map String ActiveEpisode) (id : String)
    (entry : ActiveEpisode) : (table.insert id entry).contains id = true := by
  simp

variable {id id' : String} {clock : Clock} {stage : Stage} {label : Label}

theorem contains_insert_of_ne (table : Map String ActiveEpisode) (entry : ActiveEpisode)
    (other : id' ≠ id) : (table.insert id entry).contains id' = table.contains id' := by
  rw [Std.ExtTreeMap.contains_insert, beq_false_of_ne, Bool.false_or]
  simpa using Ne.symm other

theorem contains_erase_self (table : Map String ActiveEpisode) (id : String) :
    (table.erase id).contains id = false := by
  simp

theorem contains_erase_of_ne (table : Map String ActiveEpisode) (other : id' ≠ id) :
    (table.erase id).contains id' = table.contains id' := by
  rw [Std.ExtTreeMap.contains_erase]
  simp [Ne.symm other]

/-- In the middle of a segment of a call of `episodeId`: the calls are as before it, and so are the
entries of the other episodes. -/
structure Amid (episodeId : String) (s s₀ : NativeServer) : Prop where
  calls : s₀.calls = s.calls
  others : ∀ id ≠ episodeId, s₀.activeEpisodes.contains id = s.activeEpisodes.contains id

theorem Amid.refl (episodeId : String) (s : NativeServer) : Amid episodeId s s :=
  ⟨rfl, fun _ _ => rfl⟩

theorem Amid.erased {episodeId : String} (calls : s₀.calls = s.calls)
    (entries : s₀.activeEpisodes = s.activeEpisodes.erase episodeId) : Amid episodeId s s₀ := by
  refine ⟨calls, ?_⟩
  intro id other
  rw [entries, contains_erase_of_ne _ other]

theorem Amid.inserted {episodeId : String} {entry : ActiveEpisode} (calls : s₀.calls = s.calls)
    (entries : s₀.activeEpisodes = s.activeEpisodes.insert episodeId entry) :
    Amid episodeId s s₀ := by
  refine ⟨calls, ?_⟩
  intro id other
  rw [entries, contains_insert_of_ne _ _ other]

section

variable (found : s.calls[t]? = some call)
include found

theorem resume_move (running : call.Running) (amid : Amid call.req.episodeId s s₀)
    (running' : call'.Running) (episode : call'.req.episodeId = call.req.episodeId)
    (mine : s₀.activeEpisodes.contains call.req.episodeId = call'.listed) :
    LockMove s (s₀.resume t call') := by
  refine .turn t call.hold call'.hold (hold_of_call found) (decide_eq_true running) episode ?_ ?_
    mine amid.others
  · intro gone
    exact absurd running' (of_decide_eq_false gone)
  · apply hold_insert
    rw [← amid.calls]
    rfl

theorem stay_move (calls : s₀.calls = s.calls) (entries : s₀.activeEpisodes = s.activeEpisodes)
    (same : call'.hold = call.hold) : LockMove s (s₀.resume t call') := by
  refine .quiet ?_ ?_
  · intro id
    show s₀.activeEpisodes.contains id = _
    rw [entries]
  · intro t'
    have updated : (s₀.resume t call').calls = s.calls.insert t call' := by
      rw [← calls]
      rfl
    rw [hold_insert updated]
    split
    · next here => rw [← here, hold_of_call found, same]
    · rfl

section

variable (running : call.Running)
include running

theorem exit_move {outcome : Except String EpisodeResult} (amid : Amid call.req.episodeId s s₀)
    (episode : call'.req.episodeId = call.req.episodeId) :
    LockMove s (s₀.exit t call' outcome) := by
  let gone : Call := { call' with stage := .returned outcome, listed := false }
  refine .turn t call.hold gone.hold (hold_of_call found) (decide_eq_true running) episode
    (fun _ => rfl) ?_ ?_ ?_
  · apply hold_insert
    rw [← amid.calls]
    rfl
  · show (s₀.activeEpisodes.erase call'.req.episodeId).contains call.req.episodeId = false
    rw [episode, contains_erase_self]
  · intro id (other : id ≠ call.req.episodeId)
    show (s₀.activeEpisodes.erase call'.req.episodeId).contains id = _
    rw [episode, contains_erase_of_ne _ other, amid.others id other]

theorem exitCancelled_move (amid : Amid call.req.episodeId s s₀) :
    LockMove s (s₀.exitCancelled t call clock) := by
  unfold exitCancelled
  refine exit_move found running ?_ rfl
  exact ⟨amid.calls, amid.others⟩

theorem exitTimedOut_move {message : String} {timing : Option ResultTiming}
    (amid : Amid call.req.episodeId s s₀) :
    LockMove s (s₀.exitTimedOut t call clock message timing) := by
  unfold exitTimedOut
  refine exit_move found running ?_ rfl
  exact ⟨amid.calls, amid.others⟩

theorem scheduleFailed_move {now : Instant} {error : ScheduleError} :
    LockMove s (s.scheduleFailed t call now error) := by
  unfold scheduleFailed
  split
  · exact exit_move found running (.refl _ s) rfl
  · split
    · exact exit_move found running (.refl _ s) rfl
    · refine stay_move found rfl rfl ?_
      show Hold.mk _ _ _ = Hold.mk _ _ _
      rw [decide_eq_true running]
      rfl

theorem retry_move {reason : String} (calls : s₀.calls = s.calls)
    (entries : s₀.activeEpisodes = s.activeEpisodes.erase call.req.episodeId) :
    LockMove s (s₀.retry t call reason) := by
  have free : s₀.activeEpisodes.contains call.req.episodeId = false := by
    rw [entries, contains_erase_self]
  unfold retry
  simp only
  split
  · exact resume_move found running (.erased calls entries) trivial rfl free
  · refine resume_move found running (.erased calls entries) ?_ rfl free
    split <;> trivial

end

end

theorem hold_stage (running : call.Running) (running' : { call with stage }.Running) :
    { call with stage }.hold = call.hold := by
  show Hold.mk _ _ _ = Hold.mk _ _ _
  rw [decide_eq_true running, decide_eq_true running']

theorem running_of (at_stage : call.stage = stage) (live : { call with stage }.Running) :
    call.Running := by
  unfold Call.Running at live ⊢
  rw [at_stage]
  exact live

theorem running_of_awaits (awaits : Stage.awaits call.stage = true) : call.Running := by
  unfold Call.Running
  revert awaits
  unfold Stage.awaits
  split <;> simp

theorem enter_move {uuid : Uuid} {request : EpisodeRequest} (fresh : s.calls[t]? = none)
    (orderly : s.Orderly (.enter t uuid clock request)) :
    LockMove s (s.enter t uuid clock request) := by
  have fresh : s.hold t = none := by
    unfold hold
    rw [fresh]
    rfl
  unfold enter
  simp only
  split
  · exact .refuse t _ fresh rfl (hold_insert rfl) fun _ => rfl
  · next req accepted =>
    by_cases active : s.activeEpisodes.contains req.episodeId = true
    · rw [if_pos active]
      exact .refuse t _ fresh rfl (hold_insert rfl) fun _ => rfl
    · rw [if_neg active]
      refine .join t req.episodeId fresh (eq_false_of_ne_true active) (orderly req accepted)
        ?_ (contains_insert_self _ _ _) ?_
      · intro t'
        exact (hold_insert (s := s) rfl t').trans rfl
      · intro id other
        exact contains_insert_of_ne _ _ other

theorem dropCall_move (found : s.calls[t]? = some call) (running : call.Running) :
    LockMove s (s.dropCall t call) := by
  let s₀ := (call.stage.attempt).elim s fun attempt => s.release attempt.lease
  have calls : s₀.calls = s.calls := by
    cases h : call.stage.attempt <;> simp only [s₀, h] <;> rfl
  have entries : s₀.activeEpisodes = s.activeEpisodes := by
    cases h : call.stage.attempt <;> simp only [s₀, h] <;> rfl
  refine .turn t call.hold ({ call with stage := .dropped, listed := false } : Call).hold
    (hold_of_call found) (decide_eq_true running) rfl (fun _ => rfl) ?_
    (contains_erase_self _ _) ?_
  · apply hold_insert
    rw [← calls]
    rfl
  · intro id (other : id ≠ call.req.episodeId)
    show (s₀.activeEpisodes.erase call.req.episodeId).contains id = _
    rw [contains_erase_of_ne _ other, entries]

theorem foldl_removePending (keys : List PendingKey) :
    ∀ s : NativeServer, (keys.foldl (fun s key => s.removePending key) s).calls = s.calls ∧
      (keys.foldl (fun s key => s.removePending key) s).activeEpisodes = s.activeEpisodes := by
  induction keys with
  | nil => exact fun s => ⟨rfl, rfl⟩
  | cons key keys ih => exact fun s => ih (s.removePending key)

theorem hold_eq_of_calls (calls : s'.calls = s.calls) (t : Nat) : s'.hold t = s.hold t := by
  unfold hold
  rw [calls]

theorem cancelEpisode_move (now : Instant) (episodeId : String) (attemptId : UInt32) :
    LockMove s (s.cancelEpisode now episodeId attemptId) := by
  let s₀ := (s.cancelTarget episodeId attemptId).elim s fun target =>
    s.resume target.1 { target.2 with cancelled := true }
  have holds : ∀ t, s₀.hold t = s.hold t := by
    intro t
    cases target : s.cancelTarget episodeId attemptId with
    | none => simp only [s₀, target]; rfl
    | some target' =>
      have found : s.calls[target'.1]? = some target'.2 := by
        unfold cancelTarget at target
        split at target
        · cases target
        · split at target
          · cases target
          · next call found =>
            split at target
            · cases target
              exact found
            · cases target
      simp only [s₀, target]
      show (s.resume target'.1 { target'.2 with cancelled := true }).hold t = s.hold t
      rw [hold_insert (s := s) rfl]
      split
      · next here =>
        rw [← here, hold_of_call found]
        rfl
      · rfl
  have entries : s₀.activeEpisodes = s.activeEpisodes := by
    cases target : s.cancelTarget episodeId attemptId <;> simp only [s₀, target] <;> rfl
  have removed := foldl_removePending (s.cancelledKeys episodeId attemptId) s₀
  refine .quiet ?_ ?_
  · intro id
    rw [← entries, ← removed.2]
    unfold cancelEpisode
    simp only
    split <;> rfl
  · intro t
    rw [← holds t, ← hold_eq_of_calls removed.1]
    unfold cancelEpisode
    simp only
    split <;> rfl

theorem segment_move (found : s.calls[t]? = some call) (segment : s.Segment t call label s') :
    LockMove s s' := by
  cases segment with
  | started stage at_stage backend =>
    have running := running_of at_stage trivial
    rcases backend with rfl | rfl <;> exact stay_move found rfl rfl (hold_stage running trivial)
  | queueCancelled at_stage _ =>
    exact exitCancelled_move found (running_of at_stage trivial) (.refl _ s)
  | queueTimedOut _ _ at_stage _ =>
    exact exitTimedOut_move found (running_of at_stage trivial) (.refl _ s)
  | queueClosed _ at_stage | exhausted _ at_stage _ | prepareFailed _ _ at_stage
  | agentReturned at_stage =>
    exact exit_move found (running_of at_stage trivial) (.refl _ s) rfl
  | begun assignment scheduler at_stage =>
    unfold beginAttempt
    refine resume_move found (running_of at_stage trivial) (.inserted rfl rfl) ?_ rfl
      (contains_insert_self _ _ _)
    simp only
    split <;> trivial
  | unmatched _ at_stage | prepareDone _ at_stage | intentDone _ _ at_stage
  | dispatched _ at_stage | intentFailed _ _ _ _ at_stage _ _
  | intentStored _ _ _ _ at_stage =>
    exact stay_move found rfl rfl (hold_stage (running_of at_stage trivial) trivial)
  | unscheduled _ at_stage | prepareUseless _ at_stage =>
    exact scheduleFailed_move found (running_of at_stage trivial)
  | intentRefused _ _ _ at_stage =>
    exact exit_move found (running_of at_stage trivial) (.erased rfl rfl) rfl
  | timedOut _ at_stage _ =>
    rcases at_stage with at_stage | at_stage <;>
      exact exitTimedOut_move found (running_of at_stage trivial) (.erased rfl rfl)
  | noticed _ at_stage _ =>
    rcases at_stage with at_stage | at_stage <;>
      exact stay_move found rfl rfl (hold_stage (running_of at_stage trivial) trivial)
  | notified _ at_stage =>
    exact exitCancelled_move found (running_of at_stage trivial) (.erased rfl rfl)
  | received _ _ at_stage _ =>
    rcases at_stage with at_stage | at_stage <;>
      exact exit_move found (running_of at_stage trivial) (.erased rfl rfl) rfl
  | receiverClosed _ at_stage =>
    rcases at_stage with at_stage | at_stage <;>
      exact exitCancelled_move found (running_of at_stage trivial) (.erased rfl rfl)
  | channelLost _ at_stage =>
    rcases at_stage with at_stage | at_stage <;>
      exact retry_move found (running_of at_stage trivial) rfl rfl
  | dispatchBroken _ _ at_stage =>
    exact exit_move found (running_of at_stage trivial) (.erased rfl rfl) rfl
  | dispatchLost _ at_stage =>
    exact retry_move found (running_of at_stage trivial) rfl rfl
  | woken at_stage =>
    rcases at_stage with at_stage | at_stage | at_stage <;>
      exact stay_move found rfl rfl (hold_stage (running_of at_stage trivial) trivial)
  | sleepCancelled at_stage _ =>
    rcases at_stage with at_stage | at_stage <;>
      exact exitCancelled_move found (running_of at_stage trivial) (.refl _ s)
  | agentListed at_stage =>
    have running := running_of at_stage trivial
    exact resume_move found running (.inserted rfl rfl) running rfl (contains_insert_self _ _ _)
  | agentCleaned at_stage =>
    have running := running_of at_stage trivial
    exact resume_move found running (.erased rfl rfl) running rfl (contains_erase_self _ _)
  | droppedAt awaits => exact dropCall_move found (running_of_awaits awaits)

theorem move_step {specs : AgentSpecs} {sha256Hex : Bytes → String} (orderly : s.Orderly label)
    (taken : step specs sha256Hex s label = some s') : LockMove s s' := by
  cases took_of_step taken with
  | enter fresh => exact enter_move fresh orderly
  | segment found segment => exact segment_move found segment
  | cancelEpisode => exact cancelEpisode_move _ _ _
  | plane | scheduler => exact .quiet (fun _ => rfl) fun _ => rfl

end Moves

/-! ### The lock -/

/-- The running calls of an episode are one, and its entry is there while that call is listed. -/
structure Locked (s : NativeServer) : Prop where
  alone : ∀ {t t' : Nat} {h h' : Hold}, s.hold t = some h → s.hold t' = some h' →
    h.running = true → h'.running = true → h.episodeId = h'.episodeId → t = t'
  entered : ∀ {t : Nat} {h : Hold}, s.hold t = some h → h.running = true → h.listed = true →
    s.activeEpisodes.contains h.episodeId = true

theorem hold_cases {s : NativeServer} {t : Nat} {h : Hold} (held : s.hold t = some h) :
    ∃ call : Call, s.calls[t]? = some call ∧ call.hold = h := by
  unfold hold at held
  exact Option.map_eq_some_iff.mp held

theorem AllListed.hold {s : NativeServer} {episodeId : String} (listed : s.AllListed episodeId)
    {t : Nat} {h : Hold} (held : s.hold t = some h) (running : h.running = true)
    (episode : h.episodeId = episodeId) : h.listed = true := by
  obtain ⟨call, found, rfl⟩ := hold_cases held
  exact listed t call found (of_decide_eq_true running) episode

section Invariant

variable {s s' : NativeServer} {specs : AgentSpecs} {sha256Hex : Bytes → String}

theorem locked_move (locked : s.Locked) (move : LockMove s s') : s'.Locked := by
  cases move with
  | quiet entries holds =>
    refine ⟨?_, ?_⟩
    · intro t t' h h' held held'
      rw [holds] at held held'
      exact locked.alone held held'
    · intro t h held
      rw [holds] at held
      rw [entries]
      exact locked.entered held
  | turn t before after held running episode gone holds mine others =>
    -- what any call had of the lock before the step
    have prior : ∀ {t' : Nat} {h : Hold}, s'.hold t' = some h → h.running = true →
        ∃ h₀, s.hold t' = some h₀ ∧ h₀.running = true ∧ h₀.episodeId = h.episodeId ∧
          (t ≠ t' → h₀ = h) := by
      intro t' h held' running'
      rw [holds] at held'
      split at held'
      · next here =>
        cases held'
        exact ⟨before, here ▸ held, running, episode.symm, fun away => absurd here away⟩
      · exact ⟨h, held', running', rfl, fun _ => rfl⟩
    refine ⟨?_, ?_⟩
    · intro t₁ t₂ h₁ h₂ held₁ held₂ running₁ running₂ same
      obtain ⟨g₁, prior₁, up₁, episode₁, _⟩ := prior held₁ running₁
      obtain ⟨g₂, prior₂, up₂, episode₂, _⟩ := prior held₂ running₂
      apply locked.alone prior₁ prior₂ up₁ up₂
      rw [episode₁, episode₂, same]
    · intro t' h held' running' listed
      by_cases here : t = t'
      · rw [holds, if_pos here] at held'
        cases held'
        rw [episode, mine, listed]
      · obtain ⟨h₀, held₀, _, _, kept⟩ := prior held' running'
        obtain rfl := kept here
        have other : h₀.episodeId ≠ before.episodeId := by
          intro same
          exact here (locked.alone held held₀ running running' same.symm)
        rw [others _ other]
        exact locked.entered held₀ running' listed
  | join t episodeId fresh free listed holds mine others =>
    -- a running call of the episode would have its entry in the table
    have noneOf : ∀ {t' : Nat} {h : Hold}, s.hold t' = some h → h.running = true →
        h.episodeId ≠ episodeId := by
      intro t' h held running same
      have entered := locked.entered held running (listed.hold held running same)
      rw [same, free] at entered
      cases entered
    have prior : ∀ {t' : Nat} {h : Hold}, s'.hold t' = some h → h.running = true →
        (t = t' ∧ h = ⟨episodeId, true, true⟩) ∨
          (s.hold t' = some h ∧ h.episodeId ≠ episodeId) := by
      intro t' h held running
      rw [holds] at held
      split at held
      · next here =>
        cases held
        exact .inl ⟨here, rfl⟩
      · exact .inr ⟨held, noneOf held running⟩
    refine ⟨?_, ?_⟩
    · intro t₁ t₂ h₁ h₂ held₁ held₂ running₁ running₂ same
      rcases prior held₁ running₁ with ⟨rfl, rfl⟩ | ⟨prior₁, other₁⟩ <;>
        rcases prior held₂ running₂ with ⟨rfl, rfl⟩ | ⟨prior₂, other₂⟩
      · rfl
      · exact absurd same.symm other₂
      · exact absurd same other₁
      · exact locked.alone prior₁ prior₂ running₁ running₂ same
    · intro t' h held running listed'
      rcases prior held running with ⟨rfl, rfl⟩ | ⟨prior, other⟩
      · exact mine
      · rw [others _ other]
        exact locked.entered prior running listed'
  | refuse t after fresh gone holds entries =>
    have prior : ∀ {t' : Nat} {h : Hold}, s'.hold t' = some h → h.running = true →
        s.hold t' = some h := by
      intro t' h held running
      rw [holds] at held
      split at held
      · cases held
        rw [gone] at running
        cases running
      · exact held
    refine ⟨?_, ?_⟩
    · intro t₁ t₂ h₁ h₂ held₁ held₂ running₁ running₂
      exact locked.alone (prior held₁ running₁) (prior held₂ running₂) running₁ running₂
    · intro t' h held running
      rw [entries]
      exact locked.entered (prior held running) running

theorem locked_along_orderly_runs
    (reached : ReachableWhen (system specs sha256Hex) Orderly s) : s.Locked := by
  refine reached.invariant (motive := Locked) ?_ fun s label t _ locked orderly taken =>
    locked_move locked (move_step orderly taken)
  intro s initial
  have nothing : ∀ {t : Nat} {h : Hold}, s.hold t ≠ some h := by
    intro t h held
    obtain ⟨call, found, _⟩ := hold_cases held
    rw [initial.calls] at found
    cases found
  exact ⟨fun held => absurd held nothing, fun held => absurd held nothing⟩

/-- In a run in which no call arrives for an episode whose running call has its entry removed, an
episode has one running call at a time, and a call that arrives while another of its episode
is running is refused. -/
theorem one_execution_along_orderly_runs
    (reached : ReachableWhen (system specs sha256Hex) Orderly s) :
    (∀ (t t' : Nat) (call call' : Call), s.calls[t]? = some call → s.calls[t']? = some call' →
      call.Running → call'.Running → call.req.episodeId = call'.req.episodeId → t = t') ∧
    ∀ (t t' : Nat) (uuid : Uuid) (clock : Clock) (request req : EpisodeRequest) (call : Call),
      s.calls[t]? = none → s.Orderly (.enter t uuid clock request) →
      prepare uuid clock.unixSeconds request = .ok req → s.calls[t']? = some call →
      call.Running → call.req.episodeId = req.episodeId →
      ∃ (s' : NativeServer) (refused : Call),
        step specs sha256Hex s (.enter t uuid clock request) = some s' ∧
          s'.calls[t]? = some refused ∧
            refused.stage = .returned (.error s!"episode {req.episodeId} is already active") := by
  have locked := locked_along_orderly_runs reached
  refine ⟨?_, ?_⟩
  · intro t t' call call' found found' running running' same
    exact locked.alone (hold_of_call found) (hold_of_call found') (decide_eq_true running)
      (decide_eq_true running') same
  · intro t t' uuid clock request req call fresh orderly accepted found running same
    have listed : call.listed = true := orderly req accepted t' call found running same
    have active : s.activeEpisodes.contains req.episodeId = true := by
      rw [← same]
      exact locked.entered (hold_of_call found) (decide_eq_true running) listed
    have absent : s.calls.contains t = false := by
      rw [Std.ExtTreeMap.contains_eq_isSome_getElem?, fresh]
      rfl
    let refused : Call :=
      { req, enqueueAt := clock.instant, deadline := clock.instant, handleAttempt := req.attemptId
        stage := .returned (.error s!"episode {req.episodeId} is already active"), listed := false }
    have entered : s.enter t uuid clock request = s.resume t refused := by
      unfold enter
      simp only [accepted, if_pos active, refused]
    refine ⟨s.resume t refused, refused, ?_, Std.ExtTreeMap.getElem?_insert_self, rfl⟩
    simp only [step]
    rw [absent, entered]
    rfl

end Invariant

/-- A server that starts without a store. -/
def starting : NativeServer :=
  { plane := Plane.inMemory, leased := { scheduler := .new 60 60, leases := [] }
    maxAttempts := 3, defaultEpisodeTimeoutSecs := 3600 }

theorem initial_starting : (system specs Sha256.sha256Hex).init starting :=
  ⟨Plane.initial_inMemory, ⟨60, 60, rfl⟩, rfl, rfl, rfl, rfl⟩

def nativeSpecs : AgentSpecs := { swe := fun _ => false, code := fun _ => false }

def clockZero : Clock := { instant := 0, unixSeconds := .zero }

theorem u_ne_empty : "u" ≠ "" := by decide

/-- A submission of `ep-1`. -/
def arrives (t : Nat) : Label :=
  .enter t { text := "u", nonempty := u_ne_empty } clockZero
    { episodeId := "ep-1", attemptId := 1, envType := "math" }

/-- Worker `w1` registers and call 0 begins its first attempt. -/
def firstAttempt : List Label :=
  [.scheduler (.registerWorker { workerId := "w1", supportedEnvTypes := ["math"], capacity := 2 }),
    arrives 0, .admission 0 clockZero .permit,
    .schedule 0 clockZero { token := [1], expireSeconds := 60, dispatchText := "0"
                            dispatchAtMs := 0 }]


theorem one_execution_of_refused_arrival :
    ∃ s : NativeServer, ReachableWhen (system nativeSpecs Sha256.sha256Hex) Orderly s ∧
      (∃ call : Call, s.calls[0]? = some call ∧ call.Running ∧ call.req.episodeId = "ep-1") ∧
      ∀ (t : Nat) (call : Call), s.calls[t]? = some call → call.Running →
        call.req.episodeId = "ep-1" → t = 0 := by
  let sys := system nativeSpecs Sha256.sha256Hex
  let schedule := firstAttempt ++ [arrives 1]
  have along : sys.Along Orderly starting schedule := by decide +kernel
  have facts : (sys.exec starting schedule).any (fun s => (s.calls[0]?).any fun call =>
      decide (call.Running ∧ call.req.episodeId = "ep-1")) = true := by decide +kernel
  obtain ⟨s, ran, facts⟩ := (Option.any_eq_true _ _).mp facts
  obtain ⟨call, found, facts⟩ := (Option.any_eq_true _ _).mp facts
  obtain ⟨running, episode⟩ := of_decide_eq_true facts
  have reached : ReachableWhen sys Orderly s :=
    ReachableWhen.of_exec (.start initial_starting) schedule along ran
  refine ⟨s, reached, ⟨call, found, running, episode⟩, ?_⟩
  intro t call' found' running' episode'
  exact (one_execution_along_orderly_runs reached).1 t 0 call' call found' found running' running
    (episode'.trans episode.symm)

/-- The dispatch of call 0 fails and removes the entry of `ep-1`; while it waits for its second
attempt, call 1 passes the entry check. -/
theorem two_executions_after_failed_dispatch : ∃ (s : NativeServer) (call call' : Call),
      Reachable (system nativeSpecs Sha256.sha256Hex) s ∧ s.calls[0]? = some call ∧
        s.calls[1]? = some call' ∧ call.Running ∧ call'.Running ∧
          call.req.episodeId = "ep-1" ∧ call'.req.episodeId = "ep-1" := by
  let schedule := firstAttempt ++ [.dispatchFailed 0 clockZero "connection refused", arrives 1]
  have facts : ((system nativeSpecs Sha256.sha256Hex).exec starting schedule).any (fun s =>
      (s.calls[0]?).any fun call => (s.calls[1]?).any fun call' =>
        decide (call.Running ∧ call'.Running ∧
          call.req.episodeId = "ep-1" ∧ call'.req.episodeId = "ep-1")) = true := by decide +kernel
  obtain ⟨s, ran, facts⟩ := (Option.any_eq_true _ _).mp facts
  obtain ⟨call, found, facts⟩ := (Option.any_eq_true _ _).mp facts
  obtain ⟨call', found', facts⟩ := (Option.any_eq_true _ _).mp facts
  obtain ⟨running, running', episode, episode'⟩ := of_decide_eq_true facts
  exact ⟨s, call, call', Reachable.of_exec initial_starting schedule ran, found, found', running,
    running', episode, episode'⟩

end NativeServer

end UEnv.Native
