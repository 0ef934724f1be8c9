import UEnv.Obs.Replay

/-!
# Redelivered events

`obs/merge.rs`. A source sends an event again when it missed the answer, and an old one when its
spool is replayed. The cursor of the source is past both, whichever events came between them, so
that `apply` refuses them and writes neither a run nor a cursor.
-/

namespace UEnv.Obs

open Tables

/-- An event at its ingest time; `extra` marks what is delivered beside the original sequence. -/
structure Delivery where
  event : ObservabilityEvent
  ingestTs : Int
  extra : Bool := false

namespace MergeEngine

/-- `apply` on one delivery after the other, with the disposition of each. -/
def deliver (engine : MergeEngine) :
    List Delivery → MergeEngine × List (Delivery × Disposition)
  | [] => (engine, [])
  | d :: rest =>
    let applied := engine.apply d.event d.ingestTs
    let later := deliver applied.1 rest
    (later.1, (d, applied.2) :: later.2)

/-- A delivery repeats an event that was accepted, or one of the same source before it. -/
def Repeats (answered : List (Delivery × Disposition)) (d : Delivery) : Prop :=
  ∃ a ∈ answered, a.2 = .accepted ∧ a.1.event.sourceId = d.event.sourceId ∧
    d.event.seq ≤ a.1.event.seq

/-- What the queries see of two engines is equal; a refused event may leave a fresh lifecycle. -/
structure Agrees (s t : MergeEngine) : Prop where
  runs : s.runs = t.runs
  sourceSeq : s.sourceSeq = t.sourceSeq
  lifecycle : ∀ runId, s.lifecycle runId = t.lifecycle runId

/-- The cursor of a source has reached a sequence number. -/
def Reached (s : MergeEngine) (sourceId : String) (seq : UInt64) : Prop :=
  ∃ cursor ∈ s.sourceSeq[sourceId]?, seq ≤ cursor

variable {s t : MergeEngine} {ev : ObservabilityEvent} {ingestTs : Int}

/-! ### One event -/

theorem Reached.not_admits (reached : s.Reached ev.sourceId ev.seq) : ¬ s.Admits ev := by
  rintro ⟨_, newer⟩
  obtain ⟨cursor, found, le⟩ := reached
  exact absurd (newer cursor found) (UInt64.not_lt.mpr le)

variable {sourceId : String} {seq : UInt64}

theorem Reached.apply (reached : s.Reached sourceId seq) (ev : ObservabilityEvent)
    (ingestTs : Int) :
    (s.apply ev ingestTs).1.Reached sourceId seq := by
  obtain ⟨cursor, found, le⟩ := reached
  by_cases admits : s.Admits ev
  · have written := sourceSeq_apply (a := (ev, ingestTs)) admits sourceId
    by_cases same : ev.sourceId = sourceId
    · have newer : cursor < ev.seq := admits.2 cursor (by rw [same]; exact found)
      exact ⟨ev.seq, written.trans (if_pos same), UInt64.le_trans le (UInt64.le_of_lt newer)⟩
    · exact ⟨cursor, (written.trans (if_neg same)).trans found, le⟩
  · rw [apply_of_refused admits]
    exact ⟨cursor, found, le⟩

theorem reached_of_accepted (accepted : (s.apply ev ingestTs).2 = .accepted) :
    (s.apply ev ingestTs).1.Reached ev.sourceId ev.seq := by
  rw [apply_disposition] at accepted
  have admits := (disposition_eq_accepted_iff s ev).mp accepted
  have written := sourceSeq_apply (a := (ev, ingestTs)) admits ev.sourceId
  exact ⟨ev.seq, written.trans (if_pos rfl), UInt64.le_refl _⟩

namespace Agrees

protected theorem refl (s : MergeEngine) : s.Agrees s := ⟨rfl, rfl, fun _ => rfl⟩

theorem admits (agrees : s.Agrees t) (ev : ObservabilityEvent) : s.Admits ev ↔ t.Admits ev := by
  unfold Admits
  rw [agrees.lifecycle, agrees.sourceSeq]

theorem disposition (agrees : s.Agrees t) (ev : ObservabilityEvent) :
    s.disposition ev = t.disposition ev := by
  unfold MergeEngine.disposition
  rw [agrees.lifecycle, agrees.sourceSeq]

theorem apply (agrees : s.Agrees t) (ev : ObservabilityEvent) (ingestTs : Int) :
    (s.apply ev ingestTs).1.Agrees (t.apply ev ingestTs).1 := by
  have lifecycle : ∀ runId, (s.apply ev ingestTs).1.lifecycle runId =
      (t.apply ev ingestTs).1.lifecycle runId := by
    intro runId
    rw [lifecycle_apply, lifecycle_apply, agrees.lifecycle]
    exact if_congr (and_congr_left' (agrees.admits ev)) rfl rfl
  by_cases admits : s.Admits ev
  · have admits' := (agrees.admits ev).mp admits
    refine ⟨?_, ?_, lifecycle⟩
    · rw [apply_of_admits admits, apply_of_admits admits', agrees.runs]
    · rw [apply_of_admits admits, apply_of_admits admits', agrees.sourceSeq]
  · have refused := mt (agrees.admits ev).mpr admits
    refine ⟨?_, ?_, lifecycle⟩
    · rw [apply_of_refused admits, apply_of_refused refused, agrees.runs]
    · rw [apply_of_refused admits, apply_of_refused refused, agrees.sourceSeq]

theorem of_refused (agrees : s.Agrees t) (refused : ¬ s.Admits ev) (ingestTs : Int) :
    (s.apply ev ingestTs).1.Agrees t := by
  refine ⟨?_, ?_, fun runId => ?_⟩
  · rw [apply_of_refused refused, agrees.runs]
  · rw [apply_of_refused refused, agrees.sourceSeq]
  · rw [lifecycle_apply, if_neg (fun both => refused both.1), agrees.lifecycle]

end Agrees

/-! ### Sequences of deliveries -/

/-- The engine is past every event that was accepted. -/
def Covers (s : MergeEngine) (answered : List (Delivery × Disposition)) : Prop :=
  ∀ a ∈ answered, a.2 = .accepted → s.Reached a.1.event.sourceId a.1.event.seq

variable {answered : List (Delivery × Disposition)} {d : Delivery}

theorem Covers.reached (covers : s.Covers answered) (repeats : Repeats answered d) :
    s.Reached d.event.sourceId d.event.seq := by
  obtain ⟨a, member, accepted, source, older⟩ := repeats
  obtain ⟨cursor, found, le⟩ := covers a member accepted
  exact ⟨cursor, source ▸ found, UInt64.le_trans older le⟩

theorem Covers.apply (covers : s.Covers answered) (d : Delivery) :
    (s.apply d.event d.ingestTs).1.Covers
      (answered ++ [(d, (s.apply d.event d.ingestTs).2)]) := by
  intro a member accepted
  rcases List.mem_append.mp member with before | last
  · exact (covers a before accepted).apply d.event d.ingestTs
  · obtain rfl := List.mem_singleton.mp last
    exact reached_of_accepted accepted

/-- Every extra delivery repeats what was accepted before it. -/
def Redelivers (engine : MergeEngine) (answered : List (Delivery × Disposition)) :
    List Delivery → Prop
  | [] => True
  | d :: rest =>
    (d.extra = true → Repeats answered d) ∧
      Redelivers (engine.apply d.event d.ingestTs).1
        (answered ++ [(d, (engine.apply d.event d.ingestTs).2)]) rest

instance : Decidable (Repeats answered d) :=
  inferInstanceAs (Decidable (∃ a ∈ answered, a.2 = .accepted ∧
    a.1.event.sourceId = d.event.sourceId ∧ d.event.seq ≤ a.1.event.seq))

instance decidableRedelivers : ∀ (engine : MergeEngine)
    (answered : List (Delivery × Disposition)) (deliveries : List Delivery),
    Decidable (engine.Redelivers answered deliveries)
  | _, _, [] => .isTrue trivial
  | engine, answered, d :: rest =>
    have : Decidable ((engine.apply d.event d.ingestTs).1.Redelivers
        (answered ++ [(d, (engine.apply d.event d.ingestTs).2)]) rest) :=
      decidableRedelivers _ _ rest
    inferInstanceAs (Decidable ((d.extra = true → Repeats answered d) ∧
      (engine.apply d.event d.ingestTs).1.Redelivers
        (answered ++ [(d, (engine.apply d.event d.ingestTs).2)]) rest))

/-- A sequence of deliveries to one engine, beside the same without the extra ones to another. -/
structure Idempotent (engine plain : MergeEngine) (deliveries : List Delivery) : Prop where
  agrees : (engine.deliver deliveries).1.Agrees
    (plain.deliver (deliveries.filter fun d => !d.extra)).1
  refused : ∀ a ∈ (engine.deliver deliveries).2, a.1.extra = true → a.2 ≠ .accepted
  answers : (engine.deliver deliveries).2.filter (fun a => !a.1.extra) =
    (plain.deliver (deliveries.filter fun d => !d.extra)).2

/-- Run lemma: by induction on the deliveries, with the cursors past what was accepted. -/
theorem idempotent_of_covers (agrees : s.Agrees t) (covers : s.Covers answered)
    (deliveries : List Delivery) (redelivers : s.Redelivers answered deliveries) :
    Idempotent s t deliveries := by
  induction deliveries generalizing s t answered with
  | nil => exact ⟨agrees, fun _ member => absurd member List.not_mem_nil, rfl⟩
  | cons d rest ih =>
    have past := covers.apply d
    have decided : (s.apply d.event d.ingestTs).2 = s.disposition d.event :=
      apply_disposition d.event d.ingestTs
    by_cases extra : d.extra = true
    · -- the copy is refused, and the sequence without it stands still
      have refused := (covers.reached (redelivers.1 extra)).not_admits
      have later := ih (agrees.of_refused refused d.ingestTs) past redelivers.2
      have skipped : (d :: rest).filter (fun d => !d.extra) = rest.filter fun d => !d.extra :=
        List.filter_cons_of_neg (by simp [extra])
      have unanswered : (s.deliver (d :: rest)).2.filter (fun a => !a.1.extra) =
          ((s.apply d.event d.ingestTs).1.deliver rest).2.filter fun a => !a.1.extra :=
        List.filter_cons_of_neg (by simp [extra])
      refine ⟨?_, ?_, ?_⟩
      · rw [skipped]
        exact later.agrees
      · intro a member isExtra
        rcases List.mem_cons.mp member with rfl | member
        · rw [decided]
          exact fun accepted => refused ((disposition_eq_accepted_iff s d.event).mp accepted)
        · exact later.refused a member isExtra
      · rw [skipped, unanswered]
        exact later.answers
    · have later := ih (agrees.apply d.event d.ingestTs) past redelivers.2
      have same : (s.apply d.event d.ingestTs).2 = (t.apply d.event d.ingestTs).2 := by
        rw [decided, apply_disposition, agrees.disposition]
      have kept : (d :: rest).filter (fun d => !d.extra) = d :: rest.filter fun d => !d.extra :=
        List.filter_cons_of_pos (by simp [extra])
      have answer : (s.deliver (d :: rest)).2.filter (fun a => !a.1.extra) =
          (d, (s.apply d.event d.ingestTs).2) ::
            ((s.apply d.event d.ingestTs).1.deliver rest).2.filter fun a => !a.1.extra :=
        List.filter_cons_of_pos (by simp [extra])
      refine ⟨?_, ?_, ?_⟩
      · rw [kept]
        exact later.agrees
      · intro a member isExtra
        rcases List.mem_cons.mp member with rfl | member
        · exact absurd isExtra extra
        · exact later.refused a member isExtra
      · rw [kept, answer, later.answers, same]
        rfl

/-- Redelivery is idempotent: with copies of accepted events, and older events of their sources,
put in at any later place, the runs, the cursors and the answers to the others are the same, and
no copy is accepted. -/
theorem redelivery_idempotent (engine : MergeEngine) (deliveries : List Delivery)
    (redelivers : engine.Redelivers [] deliveries) :
    (engine.deliver deliveries).1.runs =
        (engine.deliver (deliveries.filter fun d => !d.extra)).1.runs ∧
      (engine.deliver deliveries).1.sourceSeq =
        (engine.deliver (deliveries.filter fun d => !d.extra)).1.sourceSeq ∧
      (∀ a ∈ (engine.deliver deliveries).2, a.1.extra = true → a.2 ≠ .accepted) ∧
      (engine.deliver deliveries).2.filter (fun a => !a.1.extra) =
        (engine.deliver (deliveries.filter fun d => !d.extra)).2 := by
  have covers : engine.Covers [] := fun _ member => absurd member List.not_mem_nil
  have idempotent := idempotent_of_covers (Agrees.refl engine) covers deliveries redelivers
  exact ⟨idempotent.agrees.runs, idempotent.agrees.sourceSeq, idempotent.refused,
    idempotent.answers⟩

/-- A run that is closed and opened again, with its first events delivered again at the end. -/
def reopenedRun : List Delivery :=
  let started : ObservabilityEvent :=
    { eventId := "a1", sourceId := "server:1", eventType := "RUN_STARTED", seq := 1 }
  let closed : ObservabilityEvent :=
    { eventId := "a2", sourceId := "server:1", eventType := "RUN_CLOSED", seq := 2 }
  [{ event := started, ingestTs := 10 }, { event := closed, ingestTs := 11 },
    { event := { started with eventId := "a3", seq := 3 }, ingestTs := 12 },
    { event := closed, ingestTs := 13, extra := true },
    { event := started, ingestTs := 14, extra := true }]

theorem reopened_run_stands : ({} : MergeEngine).Redelivers [] reopenedRun ∧
      (({} : MergeEngine).deliver reopenedRun).1.runs =
        (({} : MergeEngine).deliver (reopenedRun.filter fun d => !d.extra)).1.runs := by
  have redelivers : ({} : MergeEngine).Redelivers [] reopenedRun := by decide +kernel
  exact ⟨redelivers, (redelivery_idempotent {} reopenedRun redelivers).1⟩

/-! ### Accepted events -/

/-- The accepted deliveries among the answers for which a condition holds. -/
def acceptedOf (p : ObservabilityEvent → Bool) (answered : List (Delivery × Disposition)) :
    List Delivery :=
  (answered.filter fun a => decide (a.2 = .accepted) && p a.1.event).map Prod.fst

theorem acceptedOf_cons (p : ObservabilityEvent → Bool) (d : Delivery) (rest : List Delivery) :
    acceptedOf p (s.deliver (d :: rest)).2 =
      (if s.Admits d.event ∧ p d.event = true then [d] else []) ++
        acceptedOf p ((s.apply d.event d.ingestTs).1.deliver rest).2 := by
  unfold acceptedOf
  rw [deliver]
  simp only [List.filter_cons, apply_disposition, disposition_eq_accepted_iff, Bool.and_eq_true,
    decide_eq_true_eq]
  split <;> rfl

/-- A run shows its own accepted events in the order of their deliveries: events of other runs and
events that were refused leave no trace in it. -/
theorem run_shows_accepted (deliveries : List Delivery) (runId : String) :
    (s.deliver deliveries).1.runs[runId]? =
      (acceptedOf (·.runId == runId) (s.deliver deliveries).2).foldl
        (fun state d => some (project d.event state d.ingestTs)) s.runs[runId]? := by
  induction deliveries generalizing s with
  | nil => rfl
  | cons d rest ih =>
    rw [acceptedOf_cons, List.foldl_append, deliver, ih, runs_apply]
    simp only [beq_iff_eq]
    split <;> rfl

theorem Reached.older (reached : s.Reached sourceId seq) (deliveries : List Delivery) :
    ∀ d ∈ acceptedOf (·.sourceId == sourceId) (s.deliver deliveries).2, seq < d.event.seq := by
  induction deliveries generalizing s with
  | nil => exact fun d member => absurd member List.not_mem_nil
  | cons head rest ih =>
    intro d member
    rw [acceptedOf_cons, List.mem_append] at member
    rcases member with here | later
    · split at here
      · next taken =>
        obtain rfl := List.mem_singleton.mp here
        obtain ⟨cursor, found, le⟩ := reached
        rw [← eq_of_beq taken.2] at found
        exact UInt64.lt_of_le_of_lt le (taken.1.2 cursor found)
      · cases here
    · exact ih (reached.apply head.event head.ingestTs) d later

/-- The accepted events of a source have increasing sequence numbers, whatever is delivered between
them and however often. -/
theorem accepted_increasing (deliveries : List Delivery) (sourceId : String) :
    (acceptedOf (·.sourceId == sourceId) (s.deliver deliveries).2).Pairwise
      fun earlier later => earlier.event.seq < later.event.seq := by
  induction deliveries generalizing s with
  | nil => exact List.Pairwise.nil
  | cons d rest ih =>
    rw [acceptedOf_cons]
    split
    · next taken =>
      refine List.Pairwise.cons ?_ ih
      have reached : (s.apply d.event d.ingestTs).1.Reached d.event.sourceId d.event.seq :=
        reached_of_accepted <|
          (apply_disposition _ _).trans ((disposition_eq_accepted_iff s d.event).mpr taken.1)
      rw [eq_of_beq taken.2] at reached
      exact reached.older rest
    · exact ih

end MergeEngine

end UEnv.Obs
