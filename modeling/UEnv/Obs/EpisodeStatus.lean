import UEnv.Obs.Frames

/-!
# The status of an episode over a sequence of events

An episode that has ended should stay ended until it is submitted again, and a failure should not
become a success. The arms of `project_event` overwrite the status; only the one of
`EPISODE_CLOSED` looks at the one before.
-/

namespace UEnv.Obs

open Tables Runs

/-- An episode has ended. -/
def Status.Final (status : Status) : Prop := status = .done ∨ status = .failed

instance (status : Status) : Decidable status.Final := instDecidableOr

/-- The stages before the end, but for the submission. -/
def EpisodeStage.Underway (stage : EpisodeStage) : Prop :=
  stage = .dispatch ∨ stage = .execute ∨ stage = .report

/-- The events that put their episode under way. -/
def EventType.progresses : EventType → Bool
  | .episodeScheduling | .episodeDispatched | .attemptStarted | .stepStarted | .stepComplete
  | .episodeReporting => true
  | _ => false

/-- The event submits this episode. -/
def ObservabilityEvent.Submits (ev : ObservabilityEvent) (runId id : String) : Prop :=
  ev.kind = .episodeSubmitted ∧ ev.runId = runId ∧ ev.epId = id

/-- Between two engines no ended episode goes back, and no failure becomes a success. -/
def KeepsEnded (s t : MergeEngine) (ev : ObservabilityEvent) : Prop :=
  ∀ (runId id : String) (before after : EpisodeView),
    s.view runId id = some before → t.view runId id = some after →
    (before.status.Final → ¬ ev.Submits runId id →
      after.status ≠ .active ∧ ¬ after.stage.Underway) ∧
    (before.status = .failed → after.status ≠ .done)

/-- An admitted event is not a late one: it neither puts an ended episode under way nor completes
a failed one. -/
def Timely (s : MergeEngine) (ev : ObservabilityEvent) : Prop :=
  s.Admits ev → ∀ view ∈ s.view ev.runId ev.epId,
    (view.status.Final → ev.kind.progresses = false) ∧
    (view.status = .failed → ev.kind ≠ .episodeCompleted)

instance (s : MergeEngine) (ev : ObservabilityEvent) : Decidable (Timely s ev) :=
  inferInstanceAs (Decidable (s.Admits ev → ∀ view ∈ s.view ev.runId ev.epId,
    (view.status.Final → ev.kind.progresses = false) ∧
    (view.status = .failed → ev.kind ≠ .episodeCompleted)))

/-- The stage of an ended episode says how it ended. -/
def EpisodeView.Staged (view : EpisodeView) : Prop :=
  (view.status = .done → view.stage = .done) ∧ (view.status = .failed → view.stage = .failed)

namespace EpisodeView

variable {ev : ObservabilityEvent} {eventSeq : Nat} {before after : EpisodeView}

theorem finalStatus_final (ev : ObservabilityEvent) (view : Option EpisodeView) :
    (finalStatus ev view).Final := by
  unfold finalStatus
  split
  · exact Or.inr rfl
  · exact Or.inl rfl

theorem next_some (ev : ObservabilityEvent) (eventSeq : Nat) (before : EpisodeView) :
    ∃ after, next ev eventSeq (some before) = some after := by
  unfold next
  cases ev.kind <;> exact ⟨_, rfl⟩

/-- An event other than a submission puts its episode under way, ends it, or leaves its status. -/
theorem next_cases (submits : ev.kind ≠ .episodeSubmitted)
    (moved : next ev eventSeq (some before) = some after) :
    (ev.kind.progresses = true ∧ after.status = .active) ∨
    (ev.kind.progresses = false ∧ ev.kind.ends = true ∧
      after = before.ended ev eventSeq (finalStatus ev (some before))) ∨
    (ev.kind.progresses = false ∧ ev.kind.ends = false ∧ after.status = before.status ∧
      after.stage = before.stage) := by
  unfold next at moved
  cases kind : ev.kind with
  | episodeSubmitted => exact absurd kind submits
  | episodeScheduling | episodeDispatched | attemptStarted | stepStarted | stepComplete
  | episodeReporting =>
    rw [kind] at moved
    cases moved
    exact Or.inl ⟨rfl, rfl⟩
  | episodeCompleted | episodeFailed | episodeClosed =>
    rw [kind] at moved
    exact Or.inr (Or.inl ⟨rfl, rfl, (Option.some.inj moved).symm⟩)
  | _ =>
    rw [kind] at moved
    cases moved
    exact Or.inr (Or.inr ⟨rfl, rfl, rfl, rfl⟩)

theorem ended_staged {status : Status} (final : status.Final) :
    (before.ended ev eventSeq status).Staged := by
  rcases final with rfl | rfl
  · exact ⟨fun _ => rfl, fun same => by cases same⟩
  · exact ⟨(fun same => by cases same), fun _ => rfl⟩

theorem Staged.next (staged : before.Staged) (moved : next ev eventSeq (some before) = some after) :
    after.Staged := by
  by_cases submits : ev.kind = .episodeSubmitted
  · unfold EpisodeView.next at moved
    rw [submits] at moved
    cases moved
    exact ⟨(fun same => by cases same), fun same => by cases same⟩
  · rcases next_cases submits moved with ⟨_, active⟩ | ⟨_, _, rfl⟩ | ⟨_, _, status, stage⟩
    · constructor
      · intro same
        cases active.symm.trans same
      · intro same
        cases active.symm.trans same
    · exact ended_staged (finalStatus_final ev _)
    · unfold Staged
      rw [status, stage]
      exact staged

theorem not_underway_of_final (staged : before.Staged) (final : before.status.Final) :
    ¬ before.stage.Underway := by
  have ended : before.stage = .done ∨ before.stage = .failed := final.imp staged.1 staged.2
  unfold EpisodeStage.Underway
  rcases ended with done | failed
  · rw [done]
    simp
  · rw [failed]
    simp

/-- A failure is completed by `EPISODE_COMPLETED` only. -/
theorem finalStatus_of_failed (ends : ev.kind.ends = true) (failed : before.status = .failed) :
    finalStatus ev (some before) = .done ↔ ev.kind = .episodeCompleted := by
  unfold finalStatus
  cases kind : ev.kind with
  | episodeCompleted | episodeFailed | episodeClosed => simp [failed]
  | _ =>
    rw [kind] at ends
    cases ends

end EpisodeView

section apply

variable {s : MergeEngine} {ev : ObservabilityEvent}

/-- Every view is in step with itself. -/
def MergeEngine.Staged (s : MergeEngine) : Prop :=
  ∀ (runId id : String) (view : EpisodeView), s.view runId id = some view → view.Staged

theorem MergeEngine.Staged.apply (staged : s.Staged) (ev : ObservabilityEvent) (ingestTs : Int) :
    (s.apply ev ingestTs).1.Staged := by
  obtain ⟨eventSeq, views⟩ := s.view_apply ev ingestTs
  intro runId id after present
  rw [views] at present
  split at present
  · cases before : s.view runId id with
    | some view =>
      rw [before] at present
      exact (staged runId id view before).next present
    | none =>
      rw [before] at present
      unfold EpisodeView.next at present
      cases kind : ev.kind with
      | episodeSubmitted =>
        rw [kind] at present
        cases present
        exact ⟨(fun same => by cases same), fun same => by cases same⟩
      | _ =>
        rw [kind] at present
        cases present
  · exact staged runId id after present

theorem keepsEnded_iff (staged : s.Staged) (ingestTs : Int) :
    KeepsEnded s (s.apply ev ingestTs).1 ev ↔ Timely s ev := by
  obtain ⟨eventSeq, views⟩ := s.view_apply ev ingestTs
  constructor
  · intro keeps admits view present
    obtain ⟨after, moved⟩ := EpisodeView.next_some ev eventSeq view
    have kept := keeps ev.runId ev.epId view after present (by
      rw [views, if_pos ⟨admits, rfl, rfl⟩, present]
      exact moved)
    have steps := fun submits : ev.kind ≠ .episodeSubmitted => EpisodeView.next_cases submits moved
    constructor
    · intro final
      by_contra progresses
      rw [Bool.not_eq_false] at progresses
      have submits : ev.kind ≠ .episodeSubmitted := by
        intro submitted
        rw [submitted] at progresses
        cases progresses
      rcases steps submits with ⟨_, active⟩ | ⟨still, _⟩ | ⟨still, _⟩
      · exact (kept.1 final (fun both => submits both.1)).1 active
      · cases still.symm.trans progresses
      · cases still.symm.trans progresses
    · intro failed completed
      have submits : ev.kind ≠ .episodeSubmitted := by
        rw [completed]
        exact EventType.noConfusion
      have ends : ev.kind.ends = true := by
        rw [completed]
        rfl
      rcases steps submits with ⟨progresses, _⟩ | ⟨_, _, ended⟩ | ⟨_, none_, _⟩
      · rw [completed] at progresses
        cases progresses
      · apply kept.2 failed
        rw [ended]
        exact (EpisodeView.finalStatus_of_failed ends failed).mpr completed
      · cases none_.symm.trans ends
  · intro timely runId id before after present present'
    rw [views] at present'
    split at present'
    · next touched =>
      obtain ⟨admits, rfl, rfl⟩ := touched
      rw [present] at present'
      have inTime := timely admits before present
      by_cases submits : ev.kind = .episodeSubmitted
      · refine ⟨fun _ other => absurd ⟨submits, rfl, rfl⟩ other, fun _ => ?_⟩
        unfold EpisodeView.next at present'
        rw [submits] at present'
        cases present'
        exact Status.noConfusion
      · rcases EpisodeView.next_cases submits present' with
          ⟨progresses, active⟩ | ⟨_, ends, rfl⟩ | ⟨_, _, status, stage⟩
        · constructor
          · intro final
            cases (inTime.1 final).symm.trans progresses
          · intro _ done
            cases active.symm.trans done
        · have final := EpisodeView.finalStatus_final ev (some before)
          refine ⟨fun _ _ => ⟨?_, ?_⟩, fun failed done => ?_⟩
          · intro active
            rcases final with same | same <;> cases same.symm.trans active
          · exact EpisodeView.not_underway_of_final (EpisodeView.ended_staged final) final
          · exact inTime.2 failed ((EpisodeView.finalStatus_of_failed ends failed).mp done)
        · rw [status, stage]
          refine ⟨fun final _ => ⟨?_, ?_⟩, fun failed done => ?_⟩
          · intro active
            rcases final with same | same <;> cases same.symm.trans active
          · exact EpisodeView.not_underway_of_final (staged _ _ _ present) final
          · cases failed.symm.trans done
    · obtain rfl := Option.some.inj (present.symm.trans present')
      refine ⟨fun final _ => ⟨?_, ?_⟩, ?_⟩
      · intro active
        rcases final with done | failed
        · cases done.symm.trans active
        · cases failed.symm.trans active
      · exact EpisodeView.not_underway_of_final (staged _ _ _ present) final
      · intro failed done
        cases failed.symm.trans done

end apply

/-- Along every sequence of events the ended episodes stay ended exactly when no event is late. -/
theorem episodes_stay_ended_iff (events : List (ObservabilityEvent × Int)) :
    merges.Along (fun s label => KeepsEnded s (s.apply label.1 label.2).1 label.1) {} events ↔
      merges.Along (fun s label => Timely s label.1) {} events := by
  have initial : MergeEngine.Staged {} := by
    intro runId id view present
    unfold MergeEngine.view at present
    rw [Std.ExtTreeMap.getElem?_empty] at present
    cases present
  apply System.along_congr (motive := MergeEngine.Staged) ?_ ?_ initial
  · intro s label t staged _ taken
    cases taken
    exact staged.apply label.1 label.2
  · intro s label staged
    exact keepsEnded_iff staged label.2

/-- The result report of an episode overtakes the stream report of its last step. -/
def reportOvertakesStream : List (ObservabilityEvent × Int) :=
  [({ eventId := "a1", sourceId := "server:1", eventType := "EPISODE_SUBMITTED"
      episodeId := some "e1", seq := 1 }, 10),
    ({ eventId := "a2", sourceId := "server:1", eventType := "EPISODE_FAILED"
       episodeId := some "e1", seq := 2 }, 11)]

def lateStep : ObservabilityEvent :=
  { eventId := "b1", sourceId := "worker:1", eventType := "STEP_COMPLETE", episodeId := some "e1"
    stepIndex := some 3, seq := 1 }

/-- A late step puts a failed episode under way again. -/
theorem episode_reopened_by_late_step :
    ¬ merges.Along (fun s label => KeepsEnded s (s.apply label.1 label.2).1 label.1) {}
      (reportOvertakesStream ++ [(lateStep, 12)]) := by
  intro along
  have ran : (merges.exec {} reportOvertakesStream).any (fun s =>
      (s.view "_orphan" "e1").any (fun view => decide view.status.Final) &&
        ((s.apply lateStep 12).1.view "_orphan" "e1").any fun view =>
          decide (view.status = .active)) = true := by
    decide +kernel
  obtain ⟨s, ran, facts⟩ := (Option.any_eq_true _ _).mp ran
  obtain ⟨facts, facts'⟩ := Bool.and_eq_true_iff.mp facts
  obtain ⟨before, present, final⟩ := (Option.any_eq_true _ _).mp facts
  obtain ⟨after, present', active⟩ := (Option.any_eq_true _ _).mp facts'
  have kept := along.last ran "_orphan" "e1" before after present present'
  have other : ¬ lateStep.Submits "_orphan" "e1" := fun submits => by cases submits.1
  exact (kept.1 (of_decide_eq_true final) other).1 (of_decide_eq_true active)

end UEnv.Obs
