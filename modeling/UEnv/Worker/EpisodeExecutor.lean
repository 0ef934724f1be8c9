import UEnv.Worker.RolloutMeta
import UEnv.Worker.WarmupPool

/-!
# One execution of an episode

`execute_episode` for an environment of a plugin, and the branches of `dispatch_episode` that drop
it. The answers of the pool, the plugin, the model and the reward engine are arbitrary, and so is
the await at which the execution is dropped or panics. Texts, durations and stream reports are left
out.
-/

namespace UEnv.Worker

open Tables Proto Obs Fallible

/-! ### Data -/

/-- An await of `execute_episode`. -/
inductive AwaitPoint
  | acquire
  | reset
  | infer (stepIndex : Nat)
  | step (stepIndex : Nat)
  | release
  deriving DecidableEq

/-- Why an execution ends at an await: `dispatch_episode` drops it, or what it awaits panics, as
`infer` does at a slice (model_client.rs, 259). -/
inductive DropReason
  | timeout
  | cancel
  | panic
  deriving DecidableEq

/-- A step of the plugin. -/
structure PluginStep where
  observation : List UInt8 := []
  reward : F64 := .zero
  terminated : Bool := false
  truncated : Bool := false

/-- What an execution is answered, and where it is dropped. -/
structure EpisodeAnswers where
  -- `serde_json::from_slice`
  fromSlice : List UInt8 → Except String Json
  acquire : Except String WarmLease
  reset : Except String (List UInt8)
  infer : Nat → Except ModelInferError ModelInferOutput
  step : Nat → Except String PluginStep
  resolveReward : Nat → Except String F64
  release : Except String Unit := .ok ()
  -- the id and the storage url of a trajectory that is sealed
  stored : Option (String × String) := none
  drop : Option (AwaitPoint × DropReason) := none

structure InflightTrajectory where
  instanceId : String := ""
  steps : List PluginStep := []

/-- The executor, with the trajectories it sealed, the lease an execution acquired and the leases
it passed to `release`. -/
structure EpisodeExecutor where
  trajectoryStore : Bool
  inflight : Map String InflightTrajectory := ∅
  sealed : List (InflightTrajectory × Bool) := []
  acquired : Option WarmLease := none
  released : List WarmLease := []

structure ExecuteOutput where
  status : String
  terminateReason : String := ""
  steps : List PluginStep := []
  error : Option AsyncRolloutError := none
  trajectory : Option (String × String) := none
  warmupHit : Bool

/-- How an execution ends. -/
inductive ExecutionEnd
  | returned (result : Except String ExecuteOutput)
  | dropped (reason : DropReason)

/-! ### Operations -/

/-- `inflight_key` (executor.rs, 1025-1027). -/
def inflightKey (episode : EpisodeRequest) : String := s!"{episode.episodeId}:{episode.attemptId}"

/-- `normalize_parallel_mode` (async_context.rs, 16-24). -/
def normalizeParallelMode (raw : String) : Except String String :=
  let mode := Service.trim raw
  if mode = "sync" ∨ mode = "one_step_off_policy" ∨ mode = "fully_async" then .ok mode
  else if mode = "" then .ok "sync"
  else .error mode

/-- The part of `build_reset_config` that can fail. -/
def resetInputs (fromSlice : List UInt8 → Except String Json) (payload rewardConfig : List UInt8) :
    Except String (Json × Json) := do
  let payload ← if payload = [] then .ok .null else fromSlice payload
  let reward ← if rewardConfig = [] then .ok .null else fromSlice rewardConfig
  return (payload, reward)

/-- `failed_output` (executor.rs, 886-919). -/
def failedOutput (error : AsyncRolloutError) (warmupHit : Bool)
    (trajectory : Option (String × String)) : ExecuteOutput :=
  { status := "failed", error := some error, trajectory, warmupHit }

/-- `into_async_rollout` (model_client.rs, 29-34). -/
def ModelInferError.intoAsyncRollout : ModelInferError → AsyncRolloutError
  | rollout error => error
  | other message => .other message

/-- The message of a failed call of the model. -/
def ModelInferError.message : ModelInferError → String
  | rollout error => error.message
  | other message => message

namespace EpisodeExecutor

variable (s : EpisodeExecutor) (episode : EpisodeRequest) (a : EpisodeAnswers)

/-- `inflight_register` (executor.rs, 126-137). -/
def inflightRegister (instanceId : String) : EpisodeExecutor :=
  if s.trajectoryStore then
    { s with inflight := s.inflight.insert (inflightKey episode) { instanceId } }
  else s

/-- `inflight_record_step` (executor.rs, 140-148). -/
def inflightRecordStep (step : PluginStep) : EpisodeExecutor :=
  if s.trajectoryStore then
    { s with inflight := s.inflight.modify (inflightKey episode) fun entry =>
        { entry with steps := entry.steps ++ [step] } }
  else s

/-- `seal_inflight` (executor.rs, 153-186). -/
def sealInflight (resolved : Bool) : EpisodeExecutor × Option (String × String) :=
  match s.inflight[inflightKey episode]? with
  | none => (s, none)
  | some entry =>
    let s := { s with inflight := s.inflight.erase (inflightKey episode) }
    if s.trajectoryStore then ({ s with sealed := s.sealed ++ [(entry, resolved)] }, a.stored)
    else (s, none)

/-- `drop_inflight_trajectory` (executor.rs, 195-200). -/
def dropInflightTrajectory : EpisodeExecutor :=
  { s with inflight := s.inflight.erase (inflightKey episode) }

/-- The lease is passed to `WarmupPool::release`. -/
def passLease (lease : WarmLease) : EpisodeExecutor := { s with released := lease :: s.released }

/-- An await: the execution is dropped there, or goes on. -/
def await (point : AwaitPoint) (next : EpisodeExecutor × ExecutionEnd) :
    EpisodeExecutor × ExecutionEnd :=
  match a.drop with
  | some (at_, reason) => if at_ = point then (s, .dropped reason) else next
  | none => next

/-- A failure of the model after the release of the lease. -/
def inferFailed (mode : String) (lease : WarmLease) (error : ModelInferError) :
    EpisodeExecutor × ExecutionEnd :=
  let (s, trajectory) := s.sealInflight episode a false
  if isAsyncMode mode then
    (s, .returned (.ok (failedOutput error.intoAsyncRollout lease.warmupHit trajectory)))
  else (s, .returned (.error error.message))

/-- The end of the episode, from the release of the lease on. -/
def finish (mode : String) (lease : WarmLease) (rollout : RolloutModelMeta)
    (steps : List PluginStep) (terminateReason : String) : EpisodeExecutor × ExecutionEnd :=
  let s := s.passLease lease
  s.await a .release <|
    match a.release with
    | .error err => ((s.sealInflight episode a false).1, .returned (.error err))
    | .ok () =>
      match validateAsyncCompleted mode rollout with
      | .error error =>
        let (s, trajectory) := s.sealInflight episode a false
        (s, .returned (.ok (failedOutput error lease.warmupHit trajectory)))
      | .ok () =>
        let (s, trajectory) := s.sealInflight episode a (terminateReason == "terminated")
        (s, .returned (.ok
          { status := "completed", terminateReason, steps, trajectory
            warmupHit := lease.warmupHit }))

/-- The loop over the steps, with the number of those that remain. -/
def run (mode : String) (lease : WarmLease) :
    Nat → Nat → EpisodeExecutor → RolloutModelMeta → List PluginStep →
      EpisodeExecutor × ExecutionEnd
  | 0, _, s, rollout, steps => s.finish episode a mode lease rollout steps "max_steps_reached"
  | remaining + 1, stepIndex, s, rollout, steps =>
    s.await a (.infer stepIndex) <|
      match a.infer stepIndex with
      | .error error =>
        let s := s.passLease lease
        s.await a .release (s.inferFailed episode a mode lease error)
      | .ok infer =>
        let rollout := infer.rolloutMeta.elim rollout rollout.absorb
        s.await a (.step stepIndex) <|
          match a.step stepIndex with
          | .error err =>
            let s := s.passLease lease
            s.await a .release ((s.sealInflight episode a false).1, .returned (.error err))
          | .ok step =>
            match a.resolveReward stepIndex with
            -- the lease is not released here
            | .error err => ((s.sealInflight episode a false).1, .returned (.error err))
            | .ok reward =>
              let step := { step with reward }
              let s := s.inflightRecordStep episode step
              let steps := steps ++ [step]
              if step.terminated then s.finish episode a mode lease rollout steps "terminated"
              else if step.truncated then s.finish episode a mode lease rollout steps "truncated"
              else run mode lease remaining (stepIndex + 1) s rollout steps

def maxSteps : Nat := max episode.maxSteps.toInt.toNat 1

/-- `execute_episode` once the lease is acquired. -/
def executeLeased (mode : String) (lease : WarmLease) : EpisodeExecutor × ExecutionEnd :=
  match resetInputs a.fromSlice episode.payload episode.rewardConfig with
  -- the lease is not released here
  | .error err => (s, .returned (.error err))
  | .ok _ =>
    let s := s.inflightRegister episode lease.instanceId
    s.await a .reset <|
      match a.reset with
      -- nor here
      | .error err => ((s.sealInflight episode a false).1, .returned (.error err))
      | .ok _ => run episode a mode lease (maxSteps episode) 1 s {} []

/-- `execute_episode` (executor.rs, 210-573). -/
def executeEpisode : EpisodeExecutor × ExecutionEnd :=
  match normalizeParallelMode episode.parallelMode with
  | .error raw => (s, .returned (.ok (failedOutput (.unsupportedMode raw) false none)))
  | .ok mode =>
    s.await a .acquire <|
      match a.acquire with
      | .error err => (s, .returned (.error err))
      | .ok lease => { s with acquired := some lease }.executeLeased episode a mode lease

/-- The execution within `dispatch_episode`, to the end of the dispatch. -/
def dispatch : EpisodeExecutor × ExecutionEnd :=
  match s.executeEpisode episode a with
  | (s, .returned result) => (s, .returned result)
  | (s, .dropped .timeout) => ((s.sealInflight episode a false).1, .dropped .timeout)
  | (s, .dropped .cancel) => (s.dropInflightTrajectory episode, .dropped .cancel)
  -- the task unwinds, and nothing runs behind its loop
  | (s, .dropped .panic) => (s, .dropped .panic)

end EpisodeExecutor

/-! ### What the answers decide -/

namespace EpisodeAnswers

variable (a : EpisodeAnswers)

/-- The execution is dropped at an await once it gets there. -/
def DropsAt (point : AwaitPoint) : Prop := a.drop.map Prod.fst = some point

/-- The episode goes on after a step. -/
structure Continues (stepIndex : Nat) : Prop where
  infer : (a.infer stepIndex).isOk
  step : ∃ step, a.step stepIndex = .ok step ∧ step.terminated = false ∧ step.truncated = false
  reward : (a.resolveReward stepIndex).isOk

/-- The episode comes to a step. -/
structure Reaches (first last stepIndex : Nat) : Prop where
  least : first ≤ stepIndex
  most : stepIndex < last
  before : ∀ j, first ≤ j → j < stepIndex → a.Continues j

/-- At a step the execution is not dropped, and the reward of a step that was made resolves. -/
structure Keeps (stepIndex : Nat) : Prop where
  infer : ¬a.DropsAt (.infer stepIndex)
  step : (a.infer stepIndex).isOk → ¬a.DropsAt (.step stepIndex)
  reward : (a.infer stepIndex).isOk → (a.step stepIndex).isOk → (a.resolveReward stepIndex).isOk

/-- An execution acquires a lease. -/
structure Leases (episode : EpisodeRequest) : Prop where
  mode : (normalizeParallelMode episode.parallelMode).isOk
  awaited : ¬a.DropsAt .acquire
  acquired : a.acquire.isOk

/-- An execution that holds its lease comes to a release: it is not dropped before, its inputs
parse, its environment resets, and its rewards resolve. -/
structure Returns (episode : EpisodeRequest) : Prop where
  inputs : (resetInputs a.fromSlice episode.payload episode.rewardConfig).isOk
  awaited : ¬a.DropsAt .reset
  reset : a.reset.isOk
  steps : ∀ i, a.Reaches 1 (EpisodeExecutor.maxSteps episode + 1) i → a.Keeps i

variable {a}

theorem reaches_succ {first last stepIndex : Nat} : a.Reaches first (last + 1) stepIndex ↔
      stepIndex = first ∧ first ≤ last ∨
        a.Continues first ∧ a.Reaches (first + 1) (last + 1) stepIndex := by
  constructor
  · rintro ⟨least, most, before⟩
    obtain rfl | later := Nat.eq_or_lt_of_le least
    · exact .inl ⟨rfl, by omega⟩
    · exact .inr ⟨before first (by omega) later, later, most, fun j _ => before j (by omega)⟩
  · rintro (⟨rfl, within⟩ | ⟨continues, least, most, before⟩)
    · exact ⟨le_refl _, by omega, fun j _ _ => by omega⟩
    · refine ⟨by omega, most, fun j from_ below => ?_⟩
      obtain rfl | later := Nat.eq_or_lt_of_le from_
      · exact continues
      · exact before j later below

theorem keeps_succ {first remaining : Nat} :
    (∀ i, a.Reaches first (first + (remaining + 1)) i → a.Keeps i) ↔ a.Keeps first ∧
        (a.Continues first → ∀ i, a.Reaches (first + 1) (first + 1 + remaining) i → a.Keeps i) := by
  have bound : first + 1 + remaining = first + remaining + 1 := by omega
  rw [← Nat.add_assoc, bound]
  constructor
  · intro keeps
    refine ⟨keeps first (reaches_succ.mpr (.inl ⟨rfl, by omega⟩)), fun continues i reaches => ?_⟩
    exact keeps i (reaches_succ.mpr (.inr ⟨continues, reaches⟩))
  · rintro ⟨now, later⟩ i reaches
    rcases reaches_succ.mp reaches with ⟨rfl, -⟩ | ⟨continues, reaches⟩
    · exact now
    · exact later continues i reaches

end EpisodeAnswers

/-! ### Where the lease goes -/

namespace EpisodeExecutor

variable {s : EpisodeExecutor} {episode : EpisodeRequest} {a : EpisodeAnswers}

variable {point : AwaitPoint}

theorem await_of_drops (drops : a.DropsAt point) (next : EpisodeExecutor × ExecutionEnd) :
    ∃ reason, a.drop = some (point, reason) ∧ s.await a point next = (s, .dropped reason) := by
  obtain ⟨⟨_, reason⟩, drop, rfl⟩ := Option.map_eq_some_iff.mp drops
  exact ⟨reason, drop, by simp [await, drop]⟩

theorem await_of_not_drops (stays : ¬a.DropsAt point) (next : EpisodeExecutor × ExecutionEnd) :
    s.await a point next = next := by
  unfold await
  split
  · next at_ reason drop =>
    rw [if_neg]
    rintro rfl
    exact stays (by simp [EpisodeAnswers.DropsAt, drop])
  · rfl

@[simp]
theorem acquired_sealInflight (resolved : Bool) :
    (s.sealInflight episode a resolved).1.acquired = s.acquired := by
  unfold sealInflight
  split
  · rfl
  · dsimp only; split <;> rfl

@[simp]
theorem released_sealInflight (resolved : Bool) :
    (s.sealInflight episode a resolved).1.released = s.released := by
  unfold sealInflight
  split
  · rfl
  · dsimp only; split <;> rfl

@[simp]
theorem absent_sealInflight (resolved : Bool) :
    (s.sealInflight episode a resolved).1.inflight[inflightKey episode]? = none := by
  unfold sealInflight
  split
  · next absent => exact absent
  · dsimp only; split <;> simp

theorem inflightRegister_cases (absent : inflightKey episode ∉ s.inflight) (instanceId : String) :
    (s.inflightRegister episode instanceId).acquired = s.acquired ∧
      (s.inflightRegister episode instanceId).released = s.released ∧
      (inflightKey episode ∈ (s.inflightRegister episode instanceId).inflight ↔
        s.trajectoryStore = true) := by
  unfold inflightRegister
  split
  · next stores => exact ⟨rfl, rfl, iff_of_true Std.ExtTreeMap.mem_insert_self stores⟩
  · next none => exact ⟨rfl, rfl, iff_of_false absent none⟩

theorem inflightRecordStep_cases (s : EpisodeExecutor) (episode : EpisodeRequest)
    (step : PluginStep) :
    (s.inflightRecordStep episode step).acquired = s.acquired ∧
      (s.inflightRecordStep episode step).released = s.released ∧
      (inflightKey episode ∈ (s.inflightRecordStep episode step).inflight ↔
        inflightKey episode ∈ s.inflight) := by
  unfold inflightRecordStep
  split
  · exact ⟨rfl, rfl, Std.ExtTreeMap.mem_modify⟩
  · exact ⟨rfl, rfl, Iff.rfl⟩

/-- What an execution that holds a lease has done in the end; `entry` says whether it has an entry
in `inflight` until then. -/
structure Ended (s : EpisodeExecutor) (episode : EpisodeRequest) (a : EpisodeAnswers)
    (lease : WarmLease) (returns entry : Prop) (r : EpisodeExecutor × ExecutionEnd) : Prop where
  acquired : r.1.acquired = s.acquired
  released : returns → r.1.released = lease :: s.released
  unreleased : ¬returns → r.1.released = s.released
  removed : ∀ result, r.2 = .returned result → r.1.inflight[inflightKey episode]? = none
  kept : r.2 = .dropped .panic → (inflightKey episode ∈ r.1.inflight ↔ entry)
  panics : returns → (r.2 = .dropped .panic ↔ a.drop = some (.release, .panic))

variable {mode : String} {lease : WarmLease} {returns entry : Prop}

theorem Ended.sealed (resolved : Bool) (result : Except String ExecuteOutput) (kept : ¬returns) :
    Ended s episode a lease returns entry
      ((s.sealInflight episode a resolved).1, .returned result) where
  acquired := acquired_sealInflight resolved
  released returns := absurd returns kept
  unreleased _ := released_sealInflight resolved
  removed _ _ := absent_sealInflight resolved
  kept := nofun
  panics returns := absurd returns kept

theorem Ended.await {r : EpisodeExecutor × ExecutionEnd}
    (held : inflightKey episode ∈ s.inflight ↔ entry) (drops : a.DropsAt point → ¬returns)
    (next : ¬a.DropsAt point → Ended s episode a lease returns entry r) :
    Ended s episode a lease returns entry (s.await a point r) := by
  by_cases dropped : a.DropsAt point
  · obtain ⟨reason, -, stopped⟩ := await_of_drops (s := s) dropped r
    rw [stopped]
    exact
      { acquired := rfl, released := fun returns => absurd returns (drops dropped)
        unreleased := fun _ => rfl, removed := nofun, kept := fun _ => held
        panics := fun returns => absurd returns (drops dropped) }
  · rw [await_of_not_drops dropped]
    exact next dropped

/-- The lease is passed on, and behind the await of the release the trajectory is sealed. -/
theorem Ended.release {r : EpisodeExecutor × ExecutionEnd} (returned : returns)
    (held : inflightKey episode ∈ s.inflight ↔ entry)
    (sealed : ∃ resolved result,
      r = (((s.passLease lease).sealInflight episode a resolved).1, .returned result)) :
    Ended s episode a lease returns entry ((s.passLease lease).await a .release r) := by
  by_cases dropped : a.DropsAt .release
  · obtain ⟨reason, drop, stopped⟩ := await_of_drops (s := s.passLease lease) dropped r
    rw [stopped]
    refine
      { acquired := rfl, released := fun _ => rfl, unreleased := fun kept => absurd returned kept
        removed := nofun, kept := fun _ => held, panics := fun _ => ?_ }
    rw [drop]
    simp
  · obtain ⟨resolved, result, rfl⟩ := sealed
    rw [await_of_not_drops dropped]
    exact
      { acquired := acquired_sealInflight resolved
        released := fun _ => released_sealInflight resolved
        unreleased := fun kept => absurd returned kept
        removed := fun _ _ => absent_sealInflight resolved, kept := nofun
        panics := fun _ =>
          ⟨nofun, fun drop => absurd (by simp [EpisodeAnswers.DropsAt, drop]) dropped⟩ }

theorem ended_finish (returned : returns) (held : inflightKey episode ∈ s.inflight ↔ entry)
    (rollout : RolloutModelMeta) (steps : List PluginStep) (terminateReason : String) :
    Ended s episode a lease returns entry
      (s.finish episode a mode lease rollout steps terminateReason) := by
  refine .release returned held ?_
  split
  · exact ⟨false, _, rfl⟩
  · split
    · exact ⟨false, _, rfl⟩
    · exact ⟨_, _, rfl⟩

theorem inferFailed_sealed (error : ModelInferError) :
    ∃ resolved result, s.inferFailed episode a mode lease error =
      ((s.sealInflight episode a resolved).1, .returned result) := by
  unfold inferFailed
  dsimp only
  split
  · exact ⟨false, _, rfl⟩
  · exact ⟨false, _, rfl⟩

theorem Ended.congr {returns' : Prop} {r : EpisodeExecutor × ExecutionEnd}
    (same : returns ↔ returns') (ended : Ended s episode a lease returns entry r) :
    Ended s episode a lease returns' entry r :=
  propext same ▸ ended

theorem Ended.of_same {s' : EpisodeExecutor} {r : EpisodeExecutor × ExecutionEnd}
    (acquired : s'.acquired = s.acquired) (released : s'.released = s.released)
    (ended : Ended s' episode a lease returns entry r) :
    Ended s episode a lease returns entry r where
  acquired := ended.acquired.trans acquired
  released returned := released ▸ ended.released returned
  unreleased kept := released ▸ ended.unreleased kept
  removed := ended.removed
  kept := ended.kept
  panics := ended.panics

/-- The loop comes to a release just when every step that it comes to keeps it going. -/
theorem ended_run (held : inflightKey episode ∈ s.inflight ↔ entry) (remaining stepIndex : Nat)
    (rollout : RolloutModelMeta) (steps : List PluginStep) :
    Ended s episode a lease (∀ i, a.Reaches stepIndex (stepIndex + remaining) i → a.Keeps i) entry
      (run episode a mode lease remaining stepIndex s rollout steps) := by
  induction remaining generalizing s stepIndex rollout steps with
  | zero =>
    refine ended_finish (fun i reaches => ?_) held rollout steps _
    have := reaches.least
    have := reaches.most
    omega
  | succ remaining ih =>
    rw [run]
    refine .congr EpisodeAnswers.keeps_succ.symm ?_
    refine .await held (fun drops keeps => keeps.1.infer drops) fun answered => ?_
    cases inferred : a.infer stepIndex with
    | error error =>
      have failed : ¬(a.infer stepIndex).isOk := not_isOk inferred
      exact .release ⟨⟨answered, fun ok => absurd ok failed, fun ok => absurd ok failed⟩,
        fun continues => absurd continues.infer failed⟩ held (inferFailed_sealed error)
    | ok infer =>
      have answers : (a.infer stepIndex).isOk := isOk_iff.mpr ⟨infer, inferred⟩
      refine .await held (fun drops keeps => keeps.1.step answers drops) fun stepped => ?_
      cases made : a.step stepIndex with
      | error =>
        have failed : ¬(a.step stepIndex).isOk := not_isOk made
        refine .release ⟨⟨answered, fun _ => stepped, fun _ ok => absurd ok failed⟩,
          fun continues => ?_⟩ held ⟨false, _, rfl⟩
        obtain ⟨step, steps, -⟩ := continues.step
        exact absurd (isOk_iff.mpr ⟨step, steps⟩) failed
      | ok step =>
        have makes : (a.step stepIndex).isOk := isOk_iff.mpr ⟨step, made⟩
        cases resolved : a.resolveReward stepIndex with
        | error =>
          exact .sealed false _ fun keeps => not_isOk resolved (keeps.1.reward answers makes)
        | ok reward =>
          have keeps : a.Keeps stepIndex :=
            ⟨answered, fun _ => stepped, fun _ _ => isOk_iff.mpr ⟨reward, resolved⟩⟩
          obtain ⟨acquired, released, same⟩ :=
            inflightRecordStep_cases s episode { step with reward }
          have held := same.trans held
          refine .of_same acquired released ?_
          have stops (last : step.terminated = true ∨ step.truncated = true) :
              ¬a.Continues stepIndex := fun continues => by
            obtain ⟨_, made', more, whole⟩ := continues.step
            cases made.symm.trans made'
            simp [more, whole] at last
          dsimp only
          split
          · next terminated =>
            exact ended_finish
              ⟨keeps, fun continues => (stops (.inl terminated) continues).elim⟩ held ..
          · split
            · next truncated =>
              exact ended_finish
                ⟨keeps, fun continues => (stops (.inr truncated) continues).elim⟩ held ..
            · next more whole =>
              have continues : a.Continues stepIndex :=
                ⟨answers, ⟨step, made, Bool.eq_false_iff.mpr more, Bool.eq_false_iff.mpr whole⟩,
                  isOk_iff.mpr ⟨reward, resolved⟩⟩
              exact .congr ⟨fun later => ⟨keeps, fun _ => later⟩, fun both => both.2 continues⟩
                (ih held ..)

/-- An execution that holds its lease comes to a release just when its answers say so. -/
theorem ended_executeLeased (absent : inflightKey episode ∉ s.inflight) :
    Ended s episode a lease (a.Returns episode) (s.trajectoryStore = true)
      (s.executeLeased episode a mode lease) := by
  unfold executeLeased
  cases parsed : resetInputs a.fromSlice episode.payload episode.rewardConfig with
  | error =>
    have failed : ¬a.Returns episode := fun returns => not_isOk parsed returns.inputs
    exact
      { acquired := rfl, released := fun returns => absurd returns failed
        unreleased := fun _ => rfl
        removed := fun _ _ => Std.ExtTreeMap.getElem?_eq_none absent
        kept := nofun, panics := fun returns => absurd returns failed }
  | ok inputs =>
    obtain ⟨acquired, released, held⟩ := inflightRegister_cases absent lease.instanceId
    refine .of_same acquired released ?_
    refine .await held (fun drops returns => returns.awaited drops) fun awaited => ?_
    cases reset : a.reset with
    | error =>
      exact .sealed false _ fun returns => not_isOk reset returns.reset
    | ok observation =>
      refine .congr ?_ (ended_run held (maxSteps episode) 1 {} [])
      rw [Nat.add_comm]
      exact ⟨fun steps => ⟨isOk_iff.mpr ⟨inputs, parsed⟩, awaited,
        isOk_iff.mpr ⟨observation, reset⟩, steps⟩, fun returns => returns.steps⟩

/-- What a dispatch owes once it is over: the lease it acquired was passed to `release` exactly
once, and its entry in `inflight` is gone. -/
structure Settled (s : EpisodeExecutor) (episode : EpisodeRequest) : Prop where
  lease : ∀ lease, s.acquired = some lease → s.released = [lease]
  inflight : inflightKey episode ∉ s.inflight

/-- The end of the dispatch keeps what became of the lease, and clears `inflight` but after a
panic. -/
theorem dispatch_ends (s : EpisodeExecutor) (episode : EpisodeRequest) (a : EpisodeAnswers)
    (removed : ∀ result, (s.executeEpisode episode a).2 = .returned result →
      (s.executeEpisode episode a).1.inflight[inflightKey episode]? = none) :
    (s.dispatch episode a).1.acquired = (s.executeEpisode episode a).1.acquired ∧
      (s.dispatch episode a).1.released = (s.executeEpisode episode a).1.released ∧
      (inflightKey episode ∈ (s.dispatch episode a).1.inflight ↔
        (s.executeEpisode episode a).2 = .dropped .panic ∧
          inflightKey episode ∈ (s.executeEpisode episode a).1.inflight) := by
  have gone {table : Map String InflightTrajectory} {ending : ExecutionEnd} {before : Prop}
      (absent : table[inflightKey episode]? = none) (other : ending ≠ .dropped .panic) :
      inflightKey episode ∈ table ↔ ending = .dropped .panic ∧ before := by
    rw [mem_iff_lookup, absent]
    simp [other]
  unfold dispatch
  split
  · next s' result ran =>
    rw [ran] at removed ⊢
    exact ⟨rfl, rfl, gone (removed result rfl) nofun⟩
  · next s' ran =>
    rw [ran]
    exact ⟨acquired_sealInflight false, released_sealInflight false,
      gone (absent_sealInflight false) nofun⟩
  · next s' ran =>
    rw [ran]
    exact ⟨rfl, rfl, gone Std.ExtTreeMap.getElem?_erase_self nofun⟩
  · next s' ran =>
    rw [ran]
    exact ⟨rfl, rfl, fun there => ⟨rfl, there⟩, And.right⟩

theorem executeEpisode_leased (parsed : normalizeParallelMode episode.parallelMode = .ok mode)
    (awaited : ¬a.DropsAt .acquire) (acquired : a.acquire = .ok lease) :
    s.executeEpisode episode a =
      { s with acquired := some lease }.executeLeased episode a mode lease := by
  rw [executeEpisode, parsed]
  dsimp only
  rw [await_of_not_drops awaited, acquired]

theorem executeEpisode_unleased (unleased : ¬a.Leases episode) :
    (s.executeEpisode episode a).1 = s := by
  unfold executeEpisode
  split
  · rfl
  · next mode parsed =>
    by_cases dropped : a.DropsAt .acquire
    · obtain ⟨reason, -, stopped⟩ := await_of_drops (s := s) dropped _
      rw [stopped]
    · rw [await_of_not_drops dropped]
      split
      · rfl
      · next lease acquired =>
        exact absurd ⟨isOk_iff.mpr ⟨mode, parsed⟩, dropped, isOk_iff.mpr ⟨lease, acquired⟩⟩ unleased

/-- The lease that an execution acquires is passed to `release` exactly once, and its entry is
removed, just when the execution is not dropped while it holds the lease, does not end with its
inputs, the reset or a reward, and does not panic in the release with an entry in `inflight`. -/
theorem dispatch_settled_iff (trajectoryStore : Bool) (inflight : Map String InflightTrajectory)
    (episode : EpisodeRequest) (a : EpisodeAnswers) (absent : inflightKey episode ∉ inflight) :
    Settled (dispatch { trajectoryStore, inflight } episode a).1 episode ↔
      (a.Leases episode → a.Returns episode ∧
        ¬(trajectoryStore = true ∧ a.drop = some (.release, .panic))) := by
  let s : EpisodeExecutor := { trajectoryStore, inflight }
  change Settled (s.dispatch episode a).1 episode ↔ _
  by_cases leases : a.Leases episode
  · obtain ⟨mode, parsed⟩ := isOk_iff.mp leases.mode
    obtain ⟨lease, acquired⟩ := isOk_iff.mp leases.acquired
    have ended : Ended { s with acquired := some lease } episode a lease (a.Returns episode)
        (trajectoryStore = true) (s.executeEpisode episode a) := by
      rw [executeEpisode_leased parsed leases.awaited acquired]
      exact ended_executeLeased absent
    obtain ⟨same, released, member⟩ := dispatch_ends s episode a ended.removed
    have held : (s.dispatch episode a).1.acquired = some lease := same.trans ended.acquired
    constructor
    · intro settled _
      have returns : a.Returns episode := by
        by_contra kept
        have once := settled.lease lease held
        rw [released, ended.unreleased kept] at once
        cases once
      refine ⟨returns, fun ⟨stores, drop⟩ => settled.inflight (member.mpr ?_)⟩
      have panicked := (ended.panics returns).mpr drop
      exact ⟨panicked, (ended.kept panicked).mpr stores⟩
    · intro meets
      obtain ⟨returns, calm⟩ := meets leases
      refine ⟨fun lease' held' => ?_, fun present => ?_⟩
      · obtain rfl := Option.some.inj (held.symm.trans held')
        rw [released, ended.released returns]
      · obtain ⟨panicked, there⟩ := member.mp present
        exact calm ⟨(ended.kept panicked).mp there, (ended.panics returns).mp panicked⟩
  · have same := executeEpisode_unleased (s := s) leases
    obtain ⟨unheld, -, member⟩ := dispatch_ends s episode a
      fun _ _ => by rw [same]; exact Std.ExtTreeMap.getElem?_eq_none absent
    refine ⟨fun _ leases' => absurd leases' leases, fun _ => ?_⟩
    refine ⟨fun lease held => ?_, fun present => ?_⟩
    · rw [unheld, same] at held
      cases held
    · have there := (member.mp present).2
      rw [same] at there
      exact absent there

/-- The lease of the instance `i`. -/
def oneLease : WarmLease := { instanceId := "i", envType := "math", warmupHit := true }

/-- The environment terminates at the first step. -/
def oneStep : EpisodeAnswers where
  fromSlice _ := .ok .null
  acquire := .ok oneLease
  reset := .ok []
  infer _ := .ok { action := "4", rolloutMeta := none }
  step _ := .ok { terminated := true }
  resolveReward _ := .ok .zero

theorem dispatch_settled_of_oneStep :
    Settled (dispatch { trajectoryStore := true } { envType := "math" } oneStep).1
      { envType := "math" } := by
  refine (dispatch_settled_iff true ∅ { envType := "math" } oneStep (by simp)).mpr fun _ => ?_
  have stays (point : AwaitPoint) : ¬oneStep.DropsAt point := nofun
  exact ⟨⟨rfl, stays _, rfl, fun i _ => ⟨stays _, fun _ => stays _, fun _ _ => rfl⟩⟩, nofun⟩

/-- The episode times out while it waits for the model: its lease is never passed on. -/
theorem lease_lost_at_timeout :
    ¬∀ (trajectoryStore : Bool) (inflight : Map String InflightTrajectory)
      (episode : EpisodeRequest) (a : EpisodeAnswers), inflightKey episode ∉ inflight →
        Settled (dispatch { trajectoryStore, inflight } episode a).1 episode := by
  intro all
  have settled := all true ∅ { envType := "math" }
    { oneStep with drop := some (.infer 1, .timeout) } (by simp)
  have once := settled.lease oneLease (by decide +kernel)
  have never : (dispatch { trajectoryStore := true } { envType := "math" }
      { oneStep with drop := some (.infer 1, .timeout) }).1.released = [] := by
    decide +kernel
  rw [never] at once
  cases once

end EpisodeExecutor

end UEnv.Worker
