import Mathlib.Data.List.Dedup
import Mathlib.Data.String.Basic
import UEnv.AgentJob.Registry
import UEnv.Lib.Iterators

/-!
# Pool routing

`resolve_pool_id` of `agent_pool/registry.rs`. All checks of a call see one instant; `none` is a
panic. Logging is left out.
-/

namespace UEnv.AgentJob.Routing

open Tables Scheduler Iterators

/-- `AgentInfo` with the labels that routing reads. -/
structure RoutedAgent extends AgentInfo where
  labels : Map String String

/-- The parts of `AgentRegistry` that routing reads. -/
structure PoolRouter where
  agents : List RoutedAgent
  heartbeatTimeoutSecs : UInt64
  variantPoolMap : Map String String

/-- The arguments of `resolve_pool_id`. -/
structure RouteRequest where
  specPool : String := ""
  bridgeId : String := ""
  bridgeVersion : String := ""
  benchmarkVariant : String := ""
  selector : Map String String := ∅

inductive AgentSelectError
  | noAgentInPool
  | noMatchingBridge
  | allAgentsAtCapacity
  deriving DecidableEq

def labelsMatch (labels selector : Map String String) : Bool :=
  selector.toList.all fun entry => labels[entry.1]? == some entry.2

namespace PoolRouter

variable (router : PoolRouter) (now : Instant) (request : RouteRequest)

def isStale (a : RoutedAgent) : Bool :=
  decide (router.heartbeatTimeoutSecs.toNat < elapsedSecs now a.lastHeartbeatAt)

def servable (a : RoutedAgent) : Bool :=
  !router.isStale now a && a.bridgeMatches request.bridgeId request.bridgeVersion

/-- The free slots of the live agents of a pool. -/
def freeSlots (pool : String) : List UInt32 :=
  (router.agents.filter fun a => a.agentPoolId == pool && !router.isStale now a).map fun a =>
    saturatingSub a.capacityOf a.effectiveLoad

/-- `pool_free_capacity_locked`. -/
def poolFreeCapacity (checks : Bool) (pool : String) : Option UInt32 :=
  Iterators.sum checks (router.freeSlots now pool)

/-- Whether `cx.cmp(&cy).then_with(|| y.cmp(x))` is `Greater`. -/
def outranks (checks : Bool) (x y : String) : Option Bool := do
  let cx ← router.poolFreeCapacity now checks x
  let cy ← router.poolFreeCapacity now checks y
  return cy < cx || (cx == cy && x < y)

def hasServable (pool : String) : Bool :=
  router.agents.any fun a => a.agentPoolId == pool && router.servable now request a

/-- The candidates of a benchmark variant, if its pool is one of them. -/
def narrowToVariant (candidates : List String) : List String :=
  if request.benchmarkVariant = "" then candidates
  else
    match router.variantPoolMap[request.benchmarkVariant]? with
    | some target =>
      if target ∈ candidates then candidates.filter (· = target) else candidates
    | none => candidates

def hasLabels (pool : String) : Bool :=
  router.agents.any fun a => a.agentPoolId == pool && router.servable now request a &&
    labelsMatch a.labels request.selector

/-- The candidates with the labels of the selector, if there are any. -/
def narrowToLabels (candidates : List String) : List String :=
  if request.selector.isEmpty then candidates
  else
    let matched := candidates.filter (router.hasLabels now request)
    if matched.isEmpty then candidates else matched

/-- The pool of the most free capacity, whose capacity is then logged. -/
def best (checks : Bool) (candidates : List String) : Option String := do
  let found ← maxBy (router.outranks now checks) candidates
  -- `expect("candidates non-empty")`
  let pool ← found
  let _ ← router.poolFreeCapacity now checks pool
  return pool

/-- `resolve_pool_id`, in a build with overflow checks or without, and for the order in which the
set of the live pools yields them. -/
def resolvePoolId (checks : Bool) (livePools : List String) :
    Option (Except AgentSelectError String) :=
  if request.specPool ≠ "" then
    let inPool := fun a : RoutedAgent => a.agentPoolId == request.specPool
    if !router.agents.any fun a => inPool a && !router.isStale now a then
      some (.error .noAgentInPool)
    else if router.agents.any fun a => inPool a && router.servable now request a then
      some (.ok request.specPool)
    else some (.error .noMatchingBridge)
  else if livePools.isEmpty then some (.error .noAgentInPool)
  else
    let candidates := livePools.filter (router.hasServable now request)
    if candidates.isEmpty then some (.error .noMatchingBridge)
    else
      let candidates := router.narrowToVariant request candidates
      let candidates := router.narrowToLabels now request candidates
      (router.best now checks candidates).map .ok

/-! ### What a pool is chosen by -/

/-- A live agent that a request may be routed to. -/
def InScope (a : RoutedAgent) : Prop := request.specPool = "" ∨ a.agentPoolId = request.specPool

def Live (a : RoutedAgent) : Prop := router.isStale now a = false

def Serves (a : RoutedAgent) : Prop := a.bridgeMatches request.bridgeId request.bridgeVersion = true

/-- A pool with a live agent that serves the bridge. -/
def Servable (pool : String) : Prop :=
  ∃ a ∈ router.agents, a.agentPoolId = pool ∧ router.Live now a ∧ Serves request a

/-- A servable pool that the variant leaves: the pool of the variant, if that one is servable. -/
def OfVariant (pool : String) : Prop :=
  router.Servable now request pool ∧
    ∀ target, request.benchmarkVariant ≠ "" →
      router.variantPoolMap[request.benchmarkVariant]? = some target →
      router.Servable now request target → pool = target

/-- A pool one of whose live agents serves the bridge and has the labels of the selector. -/
def Labelled (pool : String) : Prop :=
  ∃ a ∈ router.agents, a.agentPoolId = pool ∧ router.Live now a ∧ Serves request a ∧
    ∀ key value : String, request.selector[key]? = some value → a.labels[key]? = some value

/-- A pool that survives both narrowings: the labels narrow only if some pool has them. -/
def Survives (pool : String) : Prop :=
  router.OfVariant now request pool ∧
    ((∃ other, router.OfVariant now request other ∧ router.Labelled now request other) →
      router.Labelled now request pool)

/-- The free capacity of a pool, without a bound. -/
def freeCapacity (pool : String) : Nat := total (router.freeSlots now pool)

/-- More free capacity, or the same and a smaller id. -/
def Beats (p q : String) : Prop :=
  router.freeCapacity now q < router.freeCapacity now p ∨
    router.freeCapacity now p = router.freeCapacity now q ∧ p ≤ q

structure Sound (answer : Except AgentSelectError String) : Prop where
  served : ∀ pool, answer = .ok pool → router.Servable now request pool
  explicit : ∀ pool, answer = .ok pool → request.specPool ≠ "" → pool = request.specPool
  best : ∀ pool, answer = .ok pool → request.specPool = "" →
    router.Survives now request pool ∧ ∀ q, router.Survives now request q → router.Beats now pool q
  noAgent : answer = .error .noAgentInPool ↔ ¬∃ a ∈ router.agents, InScope request a ∧
    router.Live now a
  noBridge : answer = .error .noMatchingBridge ↔
    (∃ a ∈ router.agents, InScope request a ∧ router.Live now a) ∧
      ¬∃ a ∈ router.agents, InScope request a ∧ router.Live now a ∧ Serves request a
  notFull : answer ≠ .error .allAgentsAtCapacity

/-- An order in which the set of the live pools may yield them. -/
structure LiveOrder (livePools : List String) : Prop where
  nodup : livePools.Nodup
  mem_iff : ∀ pool, pool ∈ livePools ↔ ∃ a ∈ router.agents, a.agentPoolId = pool ∧ router.Live now a

/-- One answer that is sound, in every build, for every order of the agents and the live pools. -/
def Resolves : Prop :=
  ∃ answer, router.Sound now request answer ∧
    ∀ (checks : Bool) (agents : List RoutedAgent) (livePools : List String),
      agents.Perm router.agents → router.LiveOrder now livePools →
      { router with agents := agents }.resolvePoolId now request checks livePools = some answer

variable {router now request}

/-! ### The candidates -/

variable {pool : String} {candidates : List String}

theorem hasServable_iff :
    router.hasServable now request pool = true ↔ router.Servable now request pool := by
  simp only [hasServable, List.any_eq_true, Bool.and_eq_true, beq_iff_eq, servable,
    Bool.not_eq_true', Servable, Live, Serves]

theorem labelsMatch_iff {labels selector : Map String String} : labelsMatch labels selector = true ↔
      ∀ key value : String, selector[key]? = some value → labels[key]? = some value := by
  simp only [labelsMatch, List.all_eq_true, beq_iff_eq, Prod.forall,
    Std.ExtTreeMap.mem_toList_iff_getElem?_eq_some]

theorem hasLabels_iff :
    router.hasLabels now request pool = true ↔ router.Labelled now request pool := by
  simp only [hasLabels, List.any_eq_true, Bool.and_eq_true, beq_iff_eq, servable,
    Bool.not_eq_true', Labelled, Live, Serves, labelsMatch_iff, and_assoc]

theorem mem_candidates_iff {livePools : List String} (order : router.LiveOrder now livePools)
    {pool : String} : pool ∈ livePools.filter (router.hasServable now request) ↔
      router.Servable now request pool := by
  rw [List.mem_filter, hasServable_iff, order.mem_iff]
  refine and_iff_right_of_imp ?_
  rintro ⟨a, member, named, live, _⟩
  exact ⟨a, member, named, live⟩

section Narrowing

variable {candidates : List String}

variable {pool : String}

theorem mem_narrowToVariant_iff
    (exact : ∀ pool, pool ∈ candidates ↔ router.Servable now request pool) :
    pool ∈ router.narrowToVariant request candidates ↔ router.OfVariant now request pool := by
  unfold narrowToVariant OfVariant
  rw [← exact]
  split
  · next none =>
    exact (and_iff_left fun target given => absurd none given).symm
  · next given =>
    split
    · next target found =>
      split
      · next inside =>
        rw [List.mem_filter, decide_eq_true_iff]
        have present := (exact target).mp inside
        refine and_congr_right fun _ => ⟨?_, fun all => all target given found present⟩
        rintro rfl target' _ found' _
        exact Option.some.inj (found.symm.trans found')
      · next outside =>
        refine (and_iff_left fun target' _ found' servable => ?_).symm
        obtain rfl : target = target' := Option.some.inj (found.symm.trans found')
        exact absurd ((exact target).mpr servable) outside
    · next absent =>
      refine (and_iff_left fun target' _ found' _ => ?_).symm
      rw [absent] at found'
      cases found'

variable (router request) in
theorem narrowToVariant_ne_nil (some : candidates ≠ []) :
    router.narrowToVariant request candidates ≠ [] := by
  unfold narrowToVariant
  split
  · exact some
  · split
    · split
      · next target _ inside =>
        exact List.ne_nil_of_mem (List.mem_filter.mpr ⟨inside, decide_eq_true rfl⟩)
      · exact some
    · exact some

theorem labelled_of_isEmpty (none : request.selector.isEmpty)
    (servable : router.Servable now request pool) : router.Labelled now request pool := by
  obtain ⟨a, member, named, live, serves⟩ := servable
  refine ⟨a, member, named, live, serves, fun key value found => ?_⟩
  rw [Std.ExtTreeMap.isEmpty_iff.mp none] at found
  cases found

theorem mem_narrowToLabels_iff
    (exact : ∀ pool, pool ∈ candidates ↔ router.OfVariant now request pool) {pool : String} :
    pool ∈ router.narrowToLabels now request candidates ↔ router.Survives now request pool := by
  unfold narrowToLabels Survives
  rw [← exact]
  have filtered : ∀ pool, pool ∈ candidates.filter (router.hasLabels now request) ↔
      pool ∈ candidates ∧ router.Labelled now request pool := by
    intro pool
    rw [List.mem_filter, hasLabels_iff]
  split
  · next none =>
    exact (and_iff_left_of_imp fun member _ =>
      labelled_of_isEmpty none ((exact pool).mp member).1).symm
  · dsimp only
    split
    · next noMatch =>
      refine (and_iff_left ?_).symm
      rintro ⟨other, ofVariant, labelled⟩
      have inside := (filtered other).mpr ⟨(exact other).mpr ofVariant, labelled⟩
      rw [List.isEmpty_iff.mp noMatch] at inside
      exact absurd inside List.not_mem_nil
    · next match' =>
      obtain ⟨other, inside⟩ := List.exists_mem_of_ne_nil _ (mt List.isEmpty_iff.mpr match')
      obtain ⟨member, labelled⟩ := (filtered other).mp inside
      rw [filtered]
      exact and_congr_right fun _ =>
        ⟨fun has _ => has, fun all => all ⟨other, (exact other).mp member, labelled⟩⟩

variable (router now request) in
theorem narrowToLabels_ne_nil (some : candidates ≠ []) :
    router.narrowToLabels now request candidates ≠ [] := by
  unfold narrowToLabels
  split
  · exact some
  · dsimp only
    split
    · exact some
    · next match' => exact mt List.isEmpty_iff.mpr match'

end Narrowing

/-! ### The choice -/

theorem beats_refl (p : String) : router.Beats now p p := .inr ⟨rfl, le_refl p⟩

theorem beats_trans (p q r : String) (first : router.Beats now p q)
    (second : router.Beats now q r) : router.Beats now p r := by
  unfold Beats at *
  rcases first with more | ⟨same, le⟩
  · rcases second with more' | ⟨same', _⟩
    · exact .inl (by omega)
    · exact .inl (by omega)
  · rcases second with more' | ⟨same', le'⟩
    · exact .inl (by omega)
    · exact .inr ⟨by omega, le_trans le le'⟩

theorem beats_antisymm {p q : String} (first : router.Beats now p q)
    (second : router.Beats now q p) : p = q := by
  unfold Beats at *
  rcases first with more | ⟨same, le⟩
  · rcases second with more' | ⟨same', _⟩
    · omega
    · omega
  · rcases second with more' | ⟨_, le'⟩
    · omega
    · exact le_antisymm le le'

theorem compares_outranks (checks : Bool) {x y : String}
    (fitsX : router.freeCapacity now x < UInt32.size)
    (fitsY : router.freeCapacity now y < UInt32.size) :
    Compares (router.outranks now checks) (router.Beats now) x y := by
  obtain ⟨cx, summedX, exactX⟩ := sum_of_fits checks fitsX
  obtain ⟨cy, summedY, exactY⟩ := sum_of_fits checks fitsY
  refine ⟨decide (cy < cx) || (cx == cy && decide (x < y)), ?_, ?_⟩
  · rw [outranks, poolFreeCapacity, summedX, poolFreeCapacity, summedY]
    rfl
  · have valueX : cx.toNat = router.freeCapacity now x := exactX
    have valueY : cy.toNat = router.freeCapacity now y := exactY
    unfold Beats
    rw [← valueX, ← valueY]
    split
    · next wins =>
      rw [Bool.or_eq_true, decide_eq_true_iff, Bool.and_eq_true, beq_iff_eq, decide_eq_true_iff,
        UInt32.lt_iff_toNat_lt] at wins
      rcases wins with more | ⟨rfl, less⟩
      · exact .inl more
      · exact .inr ⟨rfl, le_of_lt less⟩
    · next loses =>
      rw [Bool.or_eq_true, decide_eq_true_iff, Bool.and_eq_true, beq_iff_eq, decide_eq_true_iff,
        UInt32.lt_iff_toNat_lt, not_or, not_and] at loses
      rcases Nat.lt_or_ge cx.toNat cy.toNat with less | ge
      · exact .inl less
      · have same : cx.toNat = cy.toNat := Nat.le_antisymm (Nat.not_lt.mp loses.1) ge
        exact .inr ⟨same.symm, not_lt.mp (loses.2 (UInt32.toNat_inj.mp same))⟩

theorem best_of_fits (checks : Bool) (visible : candidates ≠ [])
    (fits : ∀ pool ∈ candidates, router.freeCapacity now pool < UInt32.size) :
    ∃ pool ∈ candidates, router.best now checks candidates = some pool ∧
      ∀ q ∈ candidates, router.Beats now pool q := by
  obtain ⟨pool, member, found, most⟩ := maxBy_spec beats_refl beats_trans visible
    fun x inX y inY => compares_outranks checks (fits x inX) (fits y inY)
  obtain ⟨c, summed, _⟩ := sum_of_fits checks (fits pool member)
  refine ⟨pool, member, ?_, most⟩
  rw [best, found]
  change ((router.poolFreeCapacity now checks pool).bind fun _ => some pool) = some pool
  rw [poolFreeCapacity, summed]
  rfl

theorem best_of_overflow (member : pool ∈ candidates)
    (big : UInt32.size ≤ router.freeCapacity now pool) :
    router.best now true candidates = none := by
  have panics : router.poolFreeCapacity now true pool = none := sum_of_overflow big
  by_cases alone : candidates = [pool]
  · rw [alone]
    change ((router.poolFreeCapacity now true pool).bind fun _ => some pool) = none
    rw [panics]
    rfl
  · have none : maxBy (router.outranks now true) candidates = none := by
      refine maxBy_panics member (fun y => ?_) (fun x => ?_) alone
      · rw [outranks, panics]
        rfl
      · rw [outranks, panics]
        cases router.poolFreeCapacity now true x with
        | none => rfl
        | some c => rfl
    rw [best, none]
    rfl

/-! ### The answer -/

theorem Sound.unique {answer answer' : Except AgentSelectError String}
    (sound : router.Sound now request answer) (sound' : router.Sound now request answer') :
    answer = answer' := by
  cases answer with
  | error e =>
    cases e with
    | noAgentInPool => exact (sound'.noAgent.mpr (sound.noAgent.mp rfl)).symm
    | noMatchingBridge => exact (sound'.noBridge.mpr (sound.noBridge.mp rfl)).symm
    | allAgentsAtCapacity => exact absurd rfl sound.notFull
  | ok p =>
    cases answer' with
    | error e =>
      cases e with
      | noAgentInPool => exact sound.noAgent.mpr (sound'.noAgent.mp rfl)
      | noMatchingBridge => exact sound.noBridge.mpr (sound'.noBridge.mp rfl)
      | allAgentsAtCapacity => exact absurd rfl sound'.notFull
    | ok q =>
      by_cases free : request.specPool = ""
      · obtain ⟨survives, most⟩ := sound.best p rfl free
        obtain ⟨survives', most'⟩ := sound'.best q rfl free
        rw [beats_antisymm (most q survives') (most' p survives)]
      · rw [sound.explicit p rfl free, sound'.explicit q rfl free]

section Perm

variable {agents : List RoutedAgent} (perm : agents.Perm router.agents)

include perm

theorem servable_perm (pool : String) : { router with agents := agents }.Servable now request pool ↔
      router.Servable now request pool :=
  exists_congr fun _ => and_congr_left fun _ => perm.mem_iff

theorem ofVariant_perm (pool : String) :
    { router with agents := agents }.OfVariant now request pool ↔
      router.OfVariant now request pool := by
  simp only [OfVariant, servable_perm perm]

theorem labelled_perm (pool : String) : { router with agents := agents }.Labelled now request pool ↔
      router.Labelled now request pool :=
  exists_congr fun _ => and_congr_left fun _ => perm.mem_iff

theorem survives_perm (pool : String) : { router with agents := agents }.Survives now request pool ↔
      router.Survives now request pool := by
  simp only [Survives, ofVariant_perm perm, labelled_perm perm]

theorem freeCapacity_perm (pool : String) :
    { router with agents := agents }.freeCapacity now pool = router.freeCapacity now pool :=
  total_perm ((perm.filter _).map _)

theorem beats_perm (p q : String) :
    { router with agents := agents }.Beats now p q ↔ router.Beats now p q := by
  simp only [Beats, freeCapacity_perm perm]

theorem Sound.reordered {answer : Except AgentSelectError String}
    (sound : { router with agents := agents }.Sound now request answer) :
    router.Sound now request answer where
  served := fun pool ok => (servable_perm perm pool).mp (sound.served pool ok)
  explicit := sound.explicit
  best := by
    intro pool ok free
    obtain ⟨survives, most⟩ := sound.best pool ok free
    refine ⟨(survives_perm perm pool).mp survives, fun q survivesQ => ?_⟩
    exact (beats_perm perm pool q).mp (most q ((survives_perm perm q).mpr survivesQ))
  noAgent := sound.noAgent.trans
    (not_congr (exists_congr fun _ => and_congr_left fun _ => perm.mem_iff))
  noBridge := sound.noBridge.trans
    (and_congr (exists_congr fun _ => and_congr_left fun _ => perm.mem_iff)
      (not_congr (exists_congr fun _ => and_congr_left fun _ => perm.mem_iff)))
  notFull := sound.notFull

theorem LiveOrder.reordered {livePools : List String} (order : router.LiveOrder now livePools) :
    { router with agents := agents }.LiveOrder now livePools where
  nodup := order.nodup
  mem_iff := fun pool =>
    (order.mem_iff pool).trans (exists_congr fun _ => and_congr_left fun _ => perm.mem_iff.symm)

end Perm

theorem sound_noAgent (none : ¬∃ a ∈ router.agents, InScope request a ∧ router.Live now a) :
    router.Sound now request (.error .noAgentInPool) where
  served := fun _ impossible => by cases impossible
  explicit := fun _ impossible => by cases impossible
  best := fun _ impossible => by cases impossible
  noAgent := iff_of_true rfl none
  noBridge := iff_of_false (fun impossible => by cases impossible) fun both => none both.1
  notFull := fun impossible => by cases impossible

theorem sound_noBridge (some : ∃ a ∈ router.agents, InScope request a ∧ router.Live now a)
    (none : ¬∃ a ∈ router.agents, InScope request a ∧ router.Live now a ∧ Serves request a) :
    router.Sound now request (.error .noMatchingBridge) where
  served := fun _ impossible => by cases impossible
  explicit := fun _ impossible => by cases impossible
  best := fun _ impossible => by cases impossible
  noAgent := iff_of_false (fun impossible => by cases impossible) fun none => none some
  noBridge := iff_of_true rfl ⟨some, none⟩
  notFull := fun impossible => by cases impossible

theorem sound_ok (served : router.Servable now request pool)
    (explicit : request.specPool ≠ "" → pool = request.specPool)
    (best : request.specPool = "" → router.Survives now request pool ∧
      ∀ q, router.Survives now request q → router.Beats now pool q) :
    router.Sound now request (.ok pool) := by
  obtain ⟨a, member, named, live, serves⟩ := served
  have scope : InScope request a := by
    by_cases free : request.specPool = ""
    · exact .inl free
    · exact .inr (named.trans (explicit free))
  constructor
  · intro pool' ok
    cases ok
    exact ⟨a, member, named, live, serves⟩
  · intro pool' ok
    cases ok
    exact explicit
  · intro pool' ok
    cases ok
    exact best
  · exact iff_of_false (fun impossible => by cases impossible) fun none =>
      none ⟨a, member, scope, live⟩
  · exact iff_of_false (fun impossible => by cases impossible) fun both =>
      both.2 ⟨a, member, scope, live, serves⟩
  · exact fun impossible => by cases impossible

theorem resolvePoolId_explicit (checks : Bool) (livePools : List String)
    (given : request.specPool ≠ "") :
    ∃ answer, router.resolvePoolId now request checks livePools = some answer ∧
      router.Sound now request answer := by
  have inPool : ∀ a, InScope request a ↔ a.agentPoolId = request.specPool :=
    fun a => or_iff_right given
  rw [resolvePoolId, if_pos given]
  dsimp only
  split
  · next none =>
    refine ⟨_, rfl, sound_noAgent ?_⟩
    rintro ⟨a, member, scope, live⟩
    rw [Bool.not_eq_true'] at none
    refine List.any_eq_false.mp none a member ?_
    rw [Bool.and_eq_true, beq_iff_eq, Bool.not_eq_true']
    exact ⟨(inPool a).mp scope, live⟩
  · next someLive =>
    rw [Bool.not_eq_true', Bool.not_eq_false] at someLive
    obtain ⟨a, member, live⟩ := List.any_eq_true.mp someLive
    rw [Bool.and_eq_true, beq_iff_eq, Bool.not_eq_true'] at live
    split
    · next serves =>
      refine ⟨_, rfl, sound_ok (hasServable_iff.mp serves) (fun _ => rfl) ?_⟩
      exact fun free => absurd free given
    · next noServing =>
      refine ⟨_, rfl, sound_noBridge ⟨a, member, (inPool a).mpr live.1, live.2⟩ ?_⟩
      rintro ⟨b, memberB, scope, liveB, serves⟩
      exact noServing (hasServable_iff.mpr ⟨b, memberB, (inPool b).mp scope, liveB, serves⟩)

theorem resolvePoolId_free (checks : Bool) {livePools : List String}
    (order : router.LiveOrder now livePools) (free : request.specPool = "")
    (fits : ∀ pool, router.Survives now request pool → router.freeCapacity now pool < UInt32.size) :
    ∃ answer, router.resolvePoolId now request checks livePools = some answer ∧
      router.Sound now request answer := by
  rw [resolvePoolId, if_neg (not_not.mpr free)]
  split
  · next none =>
    refine ⟨_, rfl, sound_noAgent ?_⟩
    rintro ⟨a, member, _, live⟩
    have inside := (order.mem_iff a.agentPoolId).mpr ⟨a, member, rfl, live⟩
    rw [List.isEmpty_iff.mp none] at inside
    exact absurd inside List.not_mem_nil
  · next someLive =>
    obtain ⟨pool, inside⟩ := List.exists_mem_of_ne_nil _ (mt List.isEmpty_iff.mpr someLive)
    obtain ⟨a, member, _, live⟩ := (order.mem_iff pool).mp inside
    have candidates := fun pool => @mem_candidates_iff router now request livePools order pool
    dsimp only
    split
    · next none =>
      refine ⟨_, rfl, sound_noBridge ⟨a, member, .inl free, live⟩ ?_⟩
      rintro ⟨b, memberB, _, liveB, serves⟩
      have inside := (candidates b.agentPoolId).mpr ⟨b, memberB, rfl, liveB, serves⟩
      rw [List.isEmpty_iff.mp none] at inside
      exact absurd inside List.not_mem_nil
    · next someServable =>
      have visible := narrowToLabels_ne_nil router now request
        (narrowToVariant_ne_nil router request (mt List.isEmpty_iff.mpr someServable))
      have survivors := fun pool => @mem_narrowToLabels_iff router now request _
        (fun pool => mem_narrowToVariant_iff candidates) pool
      obtain ⟨pool, memberPool, found, most⟩ := best_of_fits checks visible
        fun pool inside => fits pool ((survivors pool).mp inside)
      have survives := (survivors pool).mp memberPool
      refine ⟨.ok pool, by rw [found]; rfl, sound_ok survives.1.1 (absurd free) fun _ => ?_⟩
      exact ⟨survives, fun q survivesQ => most q ((survivors q).mpr survivesQ)⟩

theorem exists_liveOrder (router : PoolRouter) (now : Instant) :
    ∃ livePools, router.LiveOrder now livePools := by
  refine ⟨((router.agents.filter fun a => !router.isStale now a).map (·.agentPoolId)).dedup,
    List.nodup_dedup _, fun pool => ?_⟩
  simp only [List.mem_dedup, List.mem_map, List.mem_filter, Bool.not_eq_true', Live]
  exact exists_congr fun a => by rw [and_assoc, and_comm (a := router.isStale now a = false)]

theorem resolvePoolId_of_overflow {livePools : List String} (order : router.LiveOrder now livePools)
    (free : request.specPool = "") (survives : router.Survives now request pool)
    (big : UInt32.size ≤ router.freeCapacity now pool) :
    router.resolvePoolId now request true livePools = none := by
  have candidates := fun pool => @mem_candidates_iff router now request livePools order pool
  have servable := (candidates pool).mpr survives.1.1
  have inside : pool ∈ router.narrowToLabels now request
      (router.narrowToVariant request (livePools.filter (router.hasServable now request))) :=
    (mem_narrowToLabels_iff fun pool => mem_narrowToVariant_iff candidates).mpr survives
  rw [resolvePoolId, if_neg (not_not.mpr free),
    if_neg (mt List.isEmpty_iff.mp (List.ne_nil_of_mem (List.mem_of_mem_filter servable)))]
  dsimp only
  rw [if_neg (mt List.isEmpty_iff.mp (List.ne_nil_of_mem servable)), best_of_overflow inside big]
  rfl

/-- A request is resolved to one sound answer in every order exactly if it names its pool or no pool
that survives the narrowing has free capacities whose sum overflows. -/
theorem resolves_iff (router : PoolRouter) (now : Instant) (request : RouteRequest) :
    router.Resolves now request ↔
      (request.specPool = "" → ∀ pool, router.Survives now request pool →
        router.freeCapacity now pool < UInt32.size) := by
  obtain ⟨livePools, order⟩ := exists_liveOrder router now
  constructor
  · rintro ⟨answer, _, same⟩ free pool survives
    by_contra big
    have resolved := same true router.agents livePools (.refl _) order
    have panics := resolvePoolId_of_overflow order free survives (Nat.not_lt.mp big)
    exact absurd (resolved.symm.trans panics) (Option.some_ne_none _)
  · intro fits
    have answers : ∀ (checks : Bool) (agents : List RoutedAgent) (livePools : List String),
        agents.Perm router.agents → router.LiveOrder now livePools → ∃ answer,
          { router with agents := agents }.resolvePoolId now request checks livePools =
            some answer ∧ router.Sound now request answer := by
      intro checks agents livePools perm order
      by_cases free : request.specPool = ""
      · obtain ⟨answer, resolved, sound⟩ := resolvePoolId_free checks (order.reordered perm) free
          fun pool survives => by
            rw [freeCapacity_perm perm]
            exact fits free pool ((survives_perm perm pool).mp survives)
        exact ⟨answer, resolved, sound.reordered perm⟩
      · obtain ⟨answer, resolved, sound⟩ :=
          @resolvePoolId_explicit { router with agents := agents } now request checks livePools free
        exact ⟨answer, resolved, sound.reordered perm⟩
    obtain ⟨answer, _, sound⟩ := answers true router.agents livePools (.refl _) order
    refine ⟨answer, sound, fun checks agents livePools perm order => ?_⟩
    obtain ⟨answer', resolved, sound'⟩ := answers checks agents livePools perm order
    rw [resolved, sound.unique sound']

def idle (agentId pool : String) (maxConcurrent : UInt32) : RoutedAgent where
  agentId := agentId
  agentPoolId := pool
  syncedAgentBridges := []
  maxConcurrent := maxConcurrent
  currentLoad := 0
  reservedLoad := 0
  reportedLoad := 0
  lastHeartbeatAt := 0
  labels := ∅

/-- The free capacities of the pool `big` add up to 2 ^ 32. -/
def twoPools : PoolRouter where
  agents := [idle "a" "big" 4294967295, idle "b" "big" 1, idle "c" "small" 4]
  heartbeatTimeoutSecs := 30
  variantPoolMap := ∅

theorem liveOrder_twoPools : twoPools.LiveOrder 0 ["big", "small"] where
  nodup := by decide
  mem_iff := by
    intro pool
    simp [twoPools, idle, Live, isStale, elapsedSecs, eq_comm]

/-- The greater pool is passed over in a build without overflow checks, and with them the call
panics. -/
theorem greater_pool_passed_over :
    twoPools.resolvePoolId 0 {} false ["big", "small"] = some (.ok "small") ∧
      twoPools.freeCapacity 0 "small" < twoPools.freeCapacity 0 "big" ∧
      twoPools.resolvePoolId 0 {} true ["big", "small"] = none ∧ ¬twoPools.Resolves 0 {} := by
  have panics : twoPools.resolvePoolId 0 {} true ["big", "small"] = none := rfl
  refine ⟨rfl, by decide +kernel, panics, ?_⟩
  rintro ⟨answer, _, same⟩
  have resolved := same true twoPools.agents ["big", "small"] (.refl _) liveOrder_twoPools
  exact absurd (resolved.symm.trans panics) (Option.some_ne_none _)

end PoolRouter

end UEnv.AgentJob.Routing
