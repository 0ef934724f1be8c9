import UEnv.Obs.EpisodeStatus

/-!
# The rosters of the workers

A dispatch puts an episode on the roster of its worker, and only the end of the episode takes it
off, from the roster of the worker that the view names at that time.
-/

namespace UEnv.Obs

open Tables Runs

namespace MergeEngine

variable (engine : MergeEngine)

/-- The active episodes of a worker in a run. -/
def roster (runId workerId : String) : List String :=
  ((engine.runs[runId]?).map (·.roster workerId)).getD []

/-- The worker that the view of an episode names, when the episode stands on its roster. -/
def holder (runId id : String) : Option String :=
  (engine.view runId id).bind fun view =>
    if (engine.roster runId view.workerId).contains id then some view.workerId else none

variable {engine}

theorem roster_getD (ingestTs : Int) (runId workerId : String) :
    ((engine.runs[runId]?).getD (.empty ingestTs runId)).roster workerId =
      engine.roster runId workerId := by
  unfold roster
  cases engine.runs[runId]? with
  | none =>
    show (((∅ : Map String WorkerView)[workerId]?).map (·.activeEpisodes)).getD [] = []
    rw [Std.ExtTreeMap.getElem?_empty]
    rfl
  | some => rfl

theorem mem_roster_apply {ev : ObservabilityEvent} (calm : ev.kind ≠ .workerStatusSnapshot)
    (ingestTs : Int) (runId workerId id : String) :
    id ∈ (engine.apply ev ingestTs).1.roster runId workerId ↔
      if engine.Admits ev ∧ ev.runId = runId then
        (id ∈ engine.roster runId workerId ∧ ¬ (ev.kind.ends = true ∧ id = ev.epId ∧
          workerId ≠ "" ∧ ∃ view, engine.view runId ev.epId = some view ∧
            view.workerId = workerId)) ∨
        ev.kind.dispatches = true ∧ id = ev.epId ∧ ev.workerId = some workerId
      else id ∈ engine.roster runId workerId := by
  by_cases admits : engine.Admits ev
  · let state := counted ev ((engine.runs[ev.runId]?).getD (.empty ingestTs ev.runId)) ingestTs
    have projected : (engine.apply ev ingestTs).1.runs[runId]? =
        if ev.runId = runId then some (state.projectEvent ev state.globalEventSeq)
        else engine.runs[runId]? := by
      rw [apply_of_admits admits]
      exact lookup_insert _ _ _ _
    by_cases same : ev.runId = runId
    · subst same
      have rosters : state.roster workerId = engine.roster ev.runId workerId :=
        roster_getD ingestTs ev.runId workerId
      have views : state.episodes[ev.epId]? = engine.view ev.runId ev.epId :=
        view_getD ingestTs ev.runId ev.epId
      rw [if_pos ⟨admits, rfl⟩, ← rosters, ← views,
        ← state.mem_roster_projectEvent ev state.globalEventSeq calm]
      unfold roster
      rw [projected, if_pos rfl, Option.map_some, Option.getD_some]
    · rw [if_neg (fun both => same both.2)]
      unfold roster
      rw [projected, if_neg same]
  · rw [if_neg (fun both => admits both.1), apply_of_refused admits]
    rfl

end MergeEngine

/-- The rosters match the episodes. -/
structure RostersMatch (s : MergeEngine) : Prop where
  sole : ∀ runId id w w', id ∈ s.roster runId w → id ∈ s.roster runId w' → w = w'
  ended : ∀ runId id view, s.view runId id = some view → view.status.Final →
    ∀ w, id ∉ s.roster runId w
  named : ∀ runId id w, id ∈ s.roster runId w →
    ∃ view, s.view runId id = some view ∧ view.workerId = w

/-- An admitted event keeps an episode where it stands: a submission or a dispatch names the
worker that has it, a dispatch knows it, and at its end it stands with a worker that has a name. -/
def Orderly (s : MergeEngine) (ev : ObservabilityEvent) : Prop :=
  s.Admits ev →
    match ev.kind with
    | .episodeSubmitted => ∀ w ∈ s.holder ev.runId ev.epId, w = ev.workerId.getD ""
    | .episodeDispatched | .attemptStarted => ∀ wid ∈ ev.workerId,
      (s.view ev.runId ev.epId).isSome = true ∧ ∀ w ∈ s.holder ev.runId ev.epId, w = wid
    | .episodeCompleted | .episodeFailed | .episodeClosed => s.holder ev.runId ev.epId ≠ some ""
    | _ => True

section step

theorem EventType.dispatches_iff (k : EventType) :
    k.dispatches = true ↔ k = .episodeDispatched ∨ k = .attemptStarted := by
  cases k <;> simp [EventType.dispatches]

variable {s : MergeEngine} {ev : ObservabilityEvent} {ingestTs : Int}

theorem rostersMatch_iff : RostersMatch s ↔ ∀ runId id w, id ∈ s.roster runId w →
      ∃ view, s.view runId id = some view ∧ view.workerId = w ∧ ¬ view.status.Final := by
  constructor
  · intro fits runId id w member
    obtain ⟨view, present, named⟩ := fits.named runId id w member
    exact ⟨view, present, named, fun final => fits.ended runId id view present final w member⟩
  · intro fits
    refine ⟨?_, ?_, ?_⟩
    · intro runId id w w' member member'
      obtain ⟨view, present, named, _⟩ := fits runId id w member
      obtain ⟨view', present', named', _⟩ := fits runId id w' member'
      obtain rfl := Option.some.inj (present.symm.trans present')
      exact named.symm.trans named'
    · intro runId id view present final w member
      obtain ⟨view', present', _, open_⟩ := fits runId id w member
      obtain rfl := Option.some.inj (present.symm.trans present')
      exact open_ final
    · intro runId id w member
      obtain ⟨view, present, named, _⟩ := fits runId id w member
      exact ⟨view, present, named⟩

theorem RostersMatch.holder (fits : RostersMatch s) (runId id w : String) :
    s.holder runId id = some w ↔ id ∈ s.roster runId w := by
  unfold MergeEngine.holder
  constructor
  · intro held
    obtain ⟨view, _, held⟩ := Option.bind_eq_some_iff.mp held
    split at held
    · next member =>
      cases held
      exact List.contains_iff_mem.mp member
    · cases held
  · intro member
    obtain ⟨view, present, rfl⟩ := fits.named runId id w member
    rw [present, Option.bind_some, if_pos (List.contains_iff_mem.mpr member)]

theorem EpisodeView.next_worker {eventSeq : Nat} {before after : EpisodeView}
    (moved : EpisodeView.next ev eventSeq (some before) = some after) :
    (ev.kind = .episodeSubmitted ∧ after.workerId = ev.workerId.getD "" ∧ ¬ after.status.Final) ∨
    (ev.kind.dispatches = true ∧ after.workerId = ev.workerId.getD before.workerId ∧
      ¬ after.status.Final) ∨
    (ev.kind.ends = true ∧ after.status.Final) ∨
    (ev.kind ≠ .episodeSubmitted ∧ ev.kind.dispatches = false ∧ ev.kind.ends = false ∧
      after.workerId = before.workerId ∧ (after.status.Final → before.status.Final)) := by
  have active : ¬ Status.active.Final := by decide
  unfold next at moved
  cases kind : ev.kind with
  | episodeSubmitted =>
    rw [kind] at moved
    cases moved
    exact Or.inl ⟨rfl, rfl, active⟩
  | episodeDispatched | attemptStarted =>
    rw [kind] at moved
    cases moved
    exact Or.inr (Or.inl ⟨rfl, rfl, active⟩)
  | episodeCompleted | episodeFailed | episodeClosed =>
    rw [kind] at moved
    cases moved
    exact Or.inr (Or.inr (Or.inl ⟨rfl, finalStatus_final ev _⟩))
  | episodeScheduling | stepStarted | stepComplete | episodeReporting =>
    rw [kind] at moved
    cases moved
    refine Or.inr (Or.inr (Or.inr ⟨EventType.noConfusion, rfl, rfl, rfl, fun final => ?_⟩))
    exact absurd final active
  | _ =>
    rw [kind] at moved
    cases moved
    exact Or.inr (Or.inr (Or.inr ⟨EventType.noConfusion, rfl, rfl, rfl, fun final => final⟩))

theorem orderly_iff : Orderly s ev ↔ (s.Admits ev →
    (ev.kind = .episodeSubmitted → ∀ w, s.holder ev.runId ev.epId = some w →
      w = ev.workerId.getD "") ∧
    (ev.kind.dispatches = true → ∀ wid, ev.workerId = some wid →
      (s.view ev.runId ev.epId).isSome = true ∧ ∀ w, s.holder ev.runId ev.epId = some w → w = wid) ∧
    (ev.kind.ends = true → s.holder ev.runId ev.epId ≠ some "")) := by
  unfold Orderly
  cases ev.kind <;> simp [EventType.dispatches, EventType.ends]

theorem RostersMatch.apply (fits : RostersMatch s) (calm : ev.kind ≠ .workerStatusSnapshot)
    (orderly : Orderly s ev) : RostersMatch (s.apply ev ingestTs).1 := by
  obtain ⟨eventSeq, views⟩ := s.view_apply ev ingestTs
  have before := rostersMatch_iff.mp fits
  rw [rostersMatch_iff]
  intro runId id w member
  rw [MergeEngine.mem_roster_apply calm] at member
  rw [views]
  by_cases touched : s.Admits ev ∧ ev.runId = runId
  · rw [if_pos touched] at member
    obtain ⟨admits, rfl⟩ := touched
    obtain ⟨submission, dispatch, ending⟩ := orderly_iff.mp orderly admits
    by_cases here : ev.epId = id
    · subst here
      rw [if_pos ⟨admits, rfl, rfl⟩]
      rcases member with ⟨member, stays⟩ | ⟨dispatches, _, named⟩
      · obtain ⟨view, present, named, open_⟩ := before ev.runId ev.epId w member
        have held := (fits.holder ev.runId ev.epId w).mpr member
        obtain ⟨after, moved⟩ := EpisodeView.next_some ev eventSeq view
        rw [present]
        refine ⟨after, moved, ?_⟩
        rcases EpisodeView.next_worker moved with ⟨submitted, worker, going⟩ |
          ⟨dispatches, worker, going⟩ | ⟨ends, _⟩ | ⟨_, _, _, worker, same⟩
        · exact ⟨worker.trans (submission submitted w held).symm, going⟩
        · refine ⟨worker.trans ?_, going⟩
          cases given : ev.workerId with
          | none => exact named
          | some wid => exact ((dispatch dispatches wid given).2 w held).symm
        · refine absurd ⟨ends, rfl, ?_, view, present, named⟩ stays
          rintro rfl
          exact ending ends held
        · exact ⟨worker.trans named, fun final => open_ (same final)⟩
      · obtain ⟨view, present⟩ := Option.isSome_iff_exists.mp (dispatch dispatches w named).1
        obtain ⟨after, moved⟩ := EpisodeView.next_some ev eventSeq view
        rw [present]
        refine ⟨after, moved, ?_⟩
        rcases EpisodeView.next_worker moved with ⟨submitted, _, _⟩ |
          ⟨_, worker, going⟩ | ⟨ends, _⟩ | ⟨_, none_, _⟩
        · rw [submitted] at dispatches
          cases dispatches
        · rw [named] at worker
          exact ⟨worker, going⟩
        · rcases (EventType.dispatches_iff _).mp dispatches with kind | kind
          · rw [kind] at ends
            cases ends
          · rw [kind] at ends
            cases ends
        · cases none_.symm.trans dispatches
    · rw [if_neg (fun all => here all.2.2)]
      rcases member with ⟨member, _⟩ | ⟨_, same, _⟩
      · exact before ev.runId id w member
      · exact absurd same.symm here
  · rw [if_neg touched] at member
    rw [if_neg (fun all => touched ⟨all.1, all.2.1⟩)]
    exact before runId id w member

theorem orderly_of_match (fits : RostersMatch s) (calm : ev.kind ≠ .workerStatusSnapshot)
    (after : RostersMatch (s.apply ev ingestTs).1) : Orderly s ev := by
  obtain ⟨eventSeq, views⟩ := s.view_apply ev ingestTs
  have matched := rostersMatch_iff.mp after
  rw [orderly_iff]
  intro admits
  -- who stands on a roster before the event still does, unless the end takes it off
  have stands : ∀ w, s.holder ev.runId ev.epId = some w → (ev.kind.ends = true → w = "") →
      ev.epId ∈ (s.apply ev ingestTs).1.roster ev.runId w := by
    intro w held unnamed
    rw [MergeEngine.mem_roster_apply calm, if_pos ⟨admits, rfl⟩]
    refine Or.inl ⟨(fits.holder ev.runId ev.epId w).mp held, ?_⟩
    rintro ⟨ends, _, named, _⟩
    exact named (unnamed ends)
  have viewed : (s.apply ev ingestTs).1.view ev.runId ev.epId =
      EpisodeView.next ev eventSeq (s.view ev.runId ev.epId) := by
    rw [views, if_pos ⟨admits, rfl, rfl⟩]
  refine ⟨?_, ?_, ?_⟩
  · intro submitted w held
    obtain ⟨view, present, named, _⟩ := matched ev.runId ev.epId w
      (stands w held fun ends => by rw [submitted] at ends; cases ends)
    rw [viewed] at present
    unfold EpisodeView.next at present
    rw [submitted] at present
    cases present
    exact named.symm
  · intro dispatches wid given
    have enrolled : ev.epId ∈ (s.apply ev ingestTs).1.roster ev.runId wid := by
      rw [MergeEngine.mem_roster_apply calm, if_pos ⟨admits, rfl⟩]
      exact Or.inr ⟨dispatches, rfl, given⟩
    constructor
    · obtain ⟨view, present, _⟩ := matched ev.runId ev.epId wid enrolled
      rw [viewed] at present
      unfold EpisodeView.next at present
      rcases (EventType.dispatches_iff _).mp dispatches with kind | kind
      · rw [kind] at present
        obtain ⟨old, known, _⟩ := Option.map_eq_some_iff.mp present
        rw [known]
        rfl
      · rw [kind] at present
        obtain ⟨old, known, _⟩ := Option.map_eq_some_iff.mp present
        rw [known]
        rfl
    · intro w held
      refine after.sole ev.runId ev.epId w wid (stands w held fun ends => ?_) enrolled
      rcases (EventType.dispatches_iff _).mp dispatches with kind | kind
      · rw [kind] at ends
        cases ends
      · rw [kind] at ends
        cases ends
  · intro ends held
    obtain ⟨old, known, _⟩ := fits.named ev.runId ev.epId "" ((fits.holder _ _ _).mp held)
    obtain ⟨view, present, _, going⟩ := matched ev.runId ev.epId "" (stands "" held fun _ => rfl)
    rw [viewed, known] at present
    rcases EpisodeView.next_worker present with ⟨submitted, _⟩ | ⟨dispatches, _⟩ |
      ⟨_, final⟩ | ⟨_, _, none_, _⟩
    · rw [submitted] at ends
      cases ends
    · rcases (EventType.dispatches_iff _).mp dispatches with kind | kind
      · rw [kind] at ends
        cases ends
      · rw [kind] at ends
        cases ends
    · exact going final
    · cases none_.symm.trans ends

end step

/-- Along every sequence of events without snapshots the rosters match the episodes exactly when
every event is orderly. -/
theorem rosters_match_iff (events : List (ObservabilityEvent × Int)) :
    merges.Along (fun s label => label.1.kind ≠ .workerStatusSnapshot ∧
        RostersMatch (s.apply label.1 label.2).1) {} events ↔
      merges.Along (fun s label => label.1.kind ≠ .workerStatusSnapshot ∧ Orderly s label.1) {}
        events := by
  have initial : RostersMatch {} := by
    rw [rostersMatch_iff]
    intro runId id w member
    unfold MergeEngine.roster at member
    rw [Std.ExtTreeMap.getElem?_empty] at member
    cases member
  apply System.along_congr (motive := RostersMatch) ?_ ?_ initial
  · intro s label t _ fits taken
    cases taken
    exact fits.2
  · intro s label fits
    exact and_congr_right fun calm =>
      ⟨orderly_of_match fits calm, fun orderly => fits.apply calm orderly⟩

/-- An episode that is dispatched to one worker and retried on another one. -/
def retriedElsewhere : List (ObservabilityEvent × Int) :=
  [({ eventId := "a1", sourceId := "server:1", eventType := "EPISODE_SUBMITTED"
      episodeId := some "e1", seq := 1 }, 10),
    ({ eventId := "a2", sourceId := "server:1", eventType := "EPISODE_DISPATCHED"
       episodeId := some "e1", attemptId := some 1, workerId := some "w1", seq := 2 }, 11)]

def retry : ObservabilityEvent :=
  { eventId := "a3", sourceId := "server:1", eventType := "ATTEMPT_STARTED", episodeId := some "e1"
    attemptId := some 2, workerId := some "w2", seq := 3 }

/-- A retry leaves the episode on the roster of its first worker. -/
theorem episode_on_two_rosters :
    ¬ merges.Along (fun s label => label.1.kind ≠ .workerStatusSnapshot ∧
        RostersMatch (s.apply label.1 label.2).1) {} (retriedElsewhere ++ [(retry, 12)]) := by
  intro along
  have ran : (merges.exec {} retriedElsewhere).any (fun s =>
      ((s.apply retry 12).1.roster "_orphan" "w1").contains "e1" &&
        ((s.apply retry 12).1.roster "_orphan" "w2").contains "e1") = true := by
    decide +kernel
  obtain ⟨s, ran, facts⟩ := (Option.any_eq_true _ _).mp ran
  obtain ⟨first, second⟩ := Bool.and_eq_true_iff.mp facts
  have same := (along.last ran).2.sole "_orphan" "e1" "w1" "w2" (List.contains_iff_mem.mp first)
    (List.contains_iff_mem.mp second)
  exact absurd same (by decide)

end UEnv.Obs
