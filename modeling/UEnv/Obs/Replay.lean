import UEnv.Obs.Frames

/-!
# The log of accepted events and its replay

`obs/mod.rs` and `obs/store.rs`. An accepted event is appended to a log with the time of its
ingestion, and a restart applies the log to an empty engine in the order of these times, and of the
sequence numbers where the times are equal.
-/

namespace UEnv.Obs

open Tables Runs

/-- The live engine and the table `events`. -/
structure ObsInner where
  engine : MergeEngine := {}
  events : List (ObservabilityEvent × Int) := []

namespace ObsInner

variable (s : ObsInner) (ev : ObservabilityEvent) (ingestTs : Int)

/-- `has_event` (obs/store.rs, 51-62). -/
def hasEvent (eventId : String) : Bool := s.events.any fun row => row.1.eventId = eventId

/-- `append`: an id that is in the table is ignored. -/
def append : ObsInner :=
  if s.hasEvent ev.eventId then s else { s with events := s.events ++ [(ev, ingestTs)] }

/-- `process_one`, with the time at which the event is ingested. -/
def processOne : ObsInner × Except String Disposition :=
  if ev.eventId.isEmpty || ev.sourceId.isEmpty || ev.eventType.isEmpty then
    (s, .error "missing event_id/source_id/event_type")
  else if s.hasEvent ev.eventId then (s, .ok .duplicate)
  else
    let (engine, disposition) := s.engine.apply ev ingestTs
    match disposition with
    | .accepted => ({ s with engine }.append ev ingestTs, .ok .accepted)
    | refused => ({ s with engine }, .ok refused)

end ObsInner

/-- `seq` in the table, as an `i64`. -/
def ObservabilityEvent.seqColumn (ev : ObservabilityEvent) : Int := ev.seq.toInt64.toInt

/-- `ORDER BY ingest_ts ASC, seq ASC` may put the first row before the second one. -/
def NotAfter (a b : ObservabilityEvent × Int) : Prop :=
  a.2 < b.2 ∨ a.2 = b.2 ∧ a.1.seqColumn ≤ b.1.seqColumn

/-- `load_all_events` answers with the rows in an order; equal keys come in any order. -/
def Loads (events loaded : List (ObservabilityEvent × Int)) : Prop :=
  loaded.Perm events ∧ loaded.Pairwise NotAfter

/-- The replay in `open`. -/
def replay (events : List (ObservabilityEvent × Int)) : MergeEngine :=
  events.foldl (fun engine row => (engine.apply row.1 row.2).1) {}

/-- A replay accepts every event of the log again, and ends with the chain states of the live
engine. -/
def Replays (s : ObsInner) : Prop :=
  ∀ loaded, Loads s.events loaded →
    (∀ before row after, loaded = before ++ row :: after →
      ((replay before).apply row.1 row.2).2 = .accepted) ∧
    ∀ runId : String, (replay loaded).runs[runId]? = s.engine.runs[runId]?

/-- Events that are processed one after the other. -/
def processes : System ObsInner (ObservabilityEvent × Int) where
  init s := s = {}
  step s label := some (s.processOne label.1 label.2).1

/-- The event is accepted and stored. -/
def Stores (s : ObsInner) (ev : ObservabilityEvent) : Prop :=
  (ev.eventId.isEmpty || ev.sourceId.isEmpty || ev.eventType.isEmpty) = false ∧
    s.hasEvent ev.eventId = false ∧ s.engine.Admits ev

instance (s : ObsInner) (ev : ObservabilityEvent) : Decidable (Stores s ev) :=
  inferInstanceAs (Decidable (_ ∧ _ ∧ _))

/-- No stored event was ingested later. -/
def InTime (s : ObsInner) (label : ObservabilityEvent × Int) : Prop :=
  Stores s label.1 → ∀ row ∈ s.events, row.2 ≤ label.2

/-- An event that is stored in the same millisecond as one of its run or of its source has the
greater number in the column `seq`. -/
def InSequence (s : ObsInner) (label : ObservabilityEvent × Int) : Prop :=
  Stores s label.1 → ∀ row ∈ s.events, row.2 = label.2 →
    row.1.runId = label.1.runId ∨ row.1.sourceId = label.1.sourceId →
    row.1.seqColumn < label.1.seqColumn

instance (s : ObsInner) (label : ObservabilityEvent × Int) : Decidable (InTime s label) :=
  inferInstanceAs (Decidable (Stores s label.1 → ∀ row ∈ s.events, row.2 ≤ label.2))

instance (s : ObsInner) (label : ObservabilityEvent × Int) : Decidable (InSequence s label) :=
  inferInstanceAs (Decidable (Stores s label.1 → ∀ row ∈ s.events, row.2 = label.2 →
    row.1.runId = label.1.runId ∨ row.1.sourceId = label.1.sourceId →
    row.1.seqColumn < label.1.seqColumn))

/-! ### Applying events that must be accepted -/

/-- The engine on events that it accepts. -/
def accepts : System MergeEngine (ObservabilityEvent × Int) where
  init engine := engine = {}
  step engine label :=
    if engine.Admits label.1 then some (engine.apply label.1 label.2).1 else none

section accepts

variable {s t : MergeEngine} {a b : ObservabilityEvent × Int}

theorem accepts_step : accepts.step s a = some t ↔ s.Admits a.1 ∧ (s.apply a.1 a.2).1 = t := by
  show (if _ then some _ else none) = _ ↔ _
  by_cases admits : s.Admits a.1
  · rw [if_pos admits, Option.some.injEq]
    exact (and_iff_right admits).symm
  · rw [if_neg admits]
    exact iff_of_false (fun impossible => nomatch impossible) fun both => admits both.1

theorem apply_disposition (ev : ObservabilityEvent) (ingestTs : Int) :
    (s.apply ev ingestTs).2 = s.disposition ev := by
  unfold MergeEngine.apply
  cases s.disposition ev <;> rfl

theorem replay_of_accepts {events : List (ObservabilityEvent × Int)}
    (ran : accepts.exec {} events = some t) :
    replay events = t ∧ ∀ before row after, events = before ++ row :: after →
      ((replay before).apply row.1 row.2).2 = .accepted := by
  have follows : ∀ (events : List (ObservabilityEvent × Int)) (s t : MergeEngine),
      accepts.exec s events = some t →
      events.foldl (fun engine row => (engine.apply row.1 row.2).1) s = t := by
    intro events
    induction events with
    | nil => exact fun s t ran => Option.some.inj ran
    | cons row rest ih =>
      intro s t ran
      obtain ⟨middle, taken, ran⟩ := Option.bind_eq_some_iff.mp ran
      obtain ⟨_, rfl⟩ := accepts_step.mp taken
      exact ih _ _ ran
  refine ⟨follows _ _ _ ran, ?_⟩
  rintro before row after rfl
  rw [accepts.exec_append] at ran
  obtain ⟨middle, ran, later⟩ := Option.bind_eq_some_iff.mp ran
  obtain ⟨_, taken, _⟩ := Option.bind_eq_some_iff.mp later
  unfold replay
  rw [follows _ _ _ ran, apply_disposition]
  exact (MergeEngine.disposition_eq_accepted_iff _ _).mpr (accepts_step.mp taken).1

theorem sourceSeq_apply (admits : s.Admits a.1) (k : String) : (s.apply a.1 a.2).1.sourceSeq[k]? =
      if a.1.sourceId = k then some a.1.seq else s.sourceSeq[k]? := by
  rw [MergeEngine.apply_of_admits admits]
  exact lookup_insert _ _ _ _

theorem admits_apply (admits : s.Admits a.1) (run : a.1.runId ≠ b.1.runId)
    (source : a.1.sourceId ≠ b.1.sourceId) :
    (s.apply a.1 a.2).1.Admits b.1 ↔ s.Admits b.1 := by
  unfold MergeEngine.Admits
  rw [MergeEngine.lifecycle_apply, if_neg (fun both => run both.2), sourceSeq_apply admits,
    if_neg source]

theorem accepts_commutes (run : a.1.runId ≠ b.1.runId) (source : a.1.sourceId ≠ b.1.sourceId)
    (ran : accepts.exec s [a, b] = some t) : accepts.exec s [b, a] = some t := by
  obtain ⟨middle, taken, ran⟩ := Option.bind_eq_some_iff.mp ran
  obtain ⟨end_, taken', ran⟩ := Option.bind_eq_some_iff.mp ran
  cases ran
  obtain ⟨first, rfl⟩ := accepts_step.mp taken
  obtain ⟨second, rfl⟩ := accepts_step.mp taken'
  have second' := (admits_apply first run source).mp second
  have first' : (s.apply b.1 b.2).1.Admits a.1 :=
    (admits_apply second' (Ne.symm run) (Ne.symm source)).mpr first
  have same : ((s.apply b.1 b.2).1.apply a.1 a.2).1 = ((s.apply a.1 a.2).1.apply b.1 b.2).1 := by
    have runs : ∀ {p q : ObservabilityEvent × Int}, s.Admits p.1 → p.1.runId ≠ q.1.runId →
        (s.apply p.1 p.2).1.runs[q.1.runId]? = s.runs[q.1.runId]? ∧
          (s.apply p.1 p.2).1.lifecycle q.1.runId = s.lifecycle q.1.runId := by
      intro p q _ other
      rw [MergeEngine.runs_apply, MergeEngine.lifecycle_apply, if_neg (fun both => other both.2),
        if_neg (fun both => other both.2)]
      exact ⟨rfl, rfl⟩
    rw [MergeEngine.apply_of_admits first', MergeEngine.apply_of_admits second,
      (runs second' (Ne.symm run)).1, (runs second' (Ne.symm run)).2, (runs first run).1,
      (runs first run).2, MergeEngine.apply_of_admits first, MergeEngine.apply_of_admits second']
    dsimp only
    congr 1
    · exact Tables.insert_comm (Ne.symm run) _ _
    · exact Tables.insert_comm (Ne.symm run) _ _
    · exact Tables.insert_comm (Ne.symm source) _ _
  rw [System.exec, accepts_step.mpr ⟨second', rfl⟩, Option.bind_some, System.exec,
    accepts_step.mpr ⟨first', same⟩, Option.bind_some]
  rfl

end accepts

/-! ### The live engine -/

/-- Engines that differ at most in lifecycles that no event has changed. -/
structure Alike (s t : MergeEngine) : Prop where
  runs : s.runs = t.runs
  lifecycle : ∀ runId, s.lifecycle runId = t.lifecycle runId
  sourceSeq : s.sourceSeq = t.sourceSeq

namespace Alike

variable {s t : MergeEngine} {ev : ObservabilityEvent}

theorem admits (alike : Alike s t) : s.Admits ev ↔ t.Admits ev := by
  unfold MergeEngine.Admits
  rw [alike.lifecycle, alike.sourceSeq]

theorem apply (alike : Alike s t) (admits : t.Admits ev) (ingestTs : Int) :
    Alike (s.apply ev ingestTs).1 (t.apply ev ingestTs).1 := by
  have both := alike.admits.mpr admits
  refine ⟨?_, fun runId => ?_, ?_⟩
  · rw [MergeEngine.apply_of_admits both, MergeEngine.apply_of_admits admits]
    dsimp only
    rw [alike.runs]
  · rw [MergeEngine.lifecycle_apply, MergeEngine.lifecycle_apply, alike.lifecycle]
    by_cases here : ev.runId = runId
    · rw [if_pos ⟨both, here⟩, if_pos ⟨admits, here⟩]
    · rw [if_neg (fun all => here all.2), if_neg (fun all => here all.2)]
  · rw [MergeEngine.apply_of_admits both, MergeEngine.apply_of_admits admits]
    dsimp only
    rw [alike.sourceSeq]

theorem refused (alike : Alike s t) (refused : ¬ t.Admits ev) (ingestTs : Int) :
    Alike s (t.apply ev ingestTs).1 := by
  refine ⟨?_, fun runId => ?_, ?_⟩
  · rw [MergeEngine.apply_of_refused refused]
    exact alike.runs
  · rw [MergeEngine.lifecycle_apply, if_neg (fun both => refused both.1)]
    exact alike.lifecycle runId
  · rw [MergeEngine.apply_of_refused refused]
    exact alike.sourceSeq

end Alike

/-- Every order in which the log may be loaded is accepted and leads to the live engine. -/
def Rebuilt (s : ObsInner) : Prop :=
  ∀ loaded, Loads s.events loaded → ∃ t, accepts.exec {} loaded = some t ∧ Alike t s.engine

section processOne

variable {s : ObsInner} {ev : ObservabilityEvent} {ingestTs : Int}

theorem processOne_of_stores (stores : Stores s ev) : (s.processOne ev ingestTs).1 =
      { engine := (s.engine.apply ev ingestTs).1, events := s.events ++ [(ev, ingestTs)] } := by
  obtain ⟨named, fresh, admits⟩ := stores
  unfold ObsInner.processOne
  rw [named, if_neg Bool.false_ne_true, fresh, if_neg Bool.false_ne_true]
  dsimp only
  rw [apply_disposition, (MergeEngine.disposition_eq_accepted_iff _ _).mpr admits]
  unfold ObsInner.append
  exact if_neg (ne_true_of_eq_false fresh)

theorem processOne_of_not_stores (refused : ¬ Stores s ev) :
    (s.processOne ev ingestTs).1.events = s.events ∧
      ((s.processOne ev ingestTs).1.engine = s.engine ∨ ¬ s.engine.Admits ev ∧
          (s.processOne ev ingestTs).1.engine = (s.engine.apply ev ingestTs).1) := by
  unfold ObsInner.processOne
  cases named : (ev.eventId.isEmpty || ev.sourceId.isEmpty || ev.eventType.isEmpty) with
  | true =>
    rw [if_pos rfl]
    exact ⟨rfl, Or.inl rfl⟩
  | false =>
    rw [if_neg Bool.false_ne_true]
    cases fresh : s.hasEvent ev.eventId with
    | true =>
      rw [if_pos rfl]
      exact ⟨rfl, Or.inl rfl⟩
    | false =>
      rw [if_neg Bool.false_ne_true]
      dsimp only
      have unadmitted : ¬ s.engine.Admits ev := fun admits => refused ⟨named, fresh, admits⟩
      have decided : s.engine.disposition ev ≠ .accepted := fun accepted =>
        unadmitted ((MergeEngine.disposition_eq_accepted_iff _ _).mp accepted)
      rw [apply_disposition]
      cases answer : s.engine.disposition ev with
      | accepted => exact absurd answer decided
      | lateArrival | rejectedClosed | duplicate | seqStale =>
        exact ⟨rfl, Or.inr ⟨unadmitted, rfl⟩⟩

/-- A log with one more event is loaded as before, with that event in front of events that do not
depend on it. -/
theorem Rebuilt.store (rebuilt : Rebuilt s) (stores : Stores s ev)
    (inTime : InTime s (ev, ingestTs)) (inSequence : InSequence s (ev, ingestTs)) :
    Rebuilt { engine := (s.engine.apply ev ingestTs).1
              events := s.events ++ [(ev, ingestTs)] } := by
  rintro loaded ⟨perm, sorted⟩
  have swapped : loaded.Perm ((ev, ingestTs) :: s.events) :=
    perm.trans (List.perm_append_singleton _ _)
  obtain ⟨before, after, rfl⟩ := List.append_of_mem (swapped.mem_iff.mpr List.mem_cons_self)
  have rest : (before ++ after).Perm s.events :=
    List.Perm.cons_inv (List.perm_middle.symm.trans swapped)
  have ordered : (before ++ after).Pairwise NotAfter :=
    sorted.sublist (List.Sublist.append_left (List.sublist_cons_self _ _) _)
  obtain ⟨t, ran, alike⟩ := rebuilt _ ⟨rest, ordered⟩
  -- the new event comes last in the live order
  have last : accepts.exec {} (before ++ (after ++ [(ev, ingestTs)])) =
      some (t.apply ev ingestTs).1 := by
    rw [← List.append_assoc, accepts.exec_append, ran, Option.bind_some, System.exec,
      accepts_step.mpr ⟨alike.admits.mpr stores.2.2, rfl⟩]
    rfl
  rw [accepts.exec_append] at last ⊢
  obtain ⟨middle, ran, last⟩ := Option.bind_eq_some_iff.mp last
  refine ⟨_, ?_, alike.apply stores.2.2 ingestTs⟩
  rw [ran, Option.bind_some]
  apply System.exec_advance ?_ last
  intro row member p q both
  have stored : row ∈ s.events := rest.mem_iff.mp (List.mem_append_right _ member)
  have later : NotAfter (ev, ingestTs) row := by
    have tail := (List.pairwise_append.mp sorted).2.1
    exact (List.pairwise_cons.mp tail).1 row member
  have tied : row.2 = ingestTs ∧ ev.seqColumn ≤ row.1.seqColumn := by
    have early := inTime stores row stored
    rcases later with later | ⟨same, least⟩
    · exact absurd later (by simpa using early)
    · exact ⟨same.symm, least⟩
  have apart : ¬ (row.1.runId = ev.runId ∨ row.1.sourceId = ev.sourceId) := fun together =>
    absurd (inSequence stores row stored tied.1 together) (Int.not_lt.mpr tied.2)
  exact accepts_commutes (fun same => apart (Or.inl same)) (fun same => apart (Or.inr same)) both

theorem Rebuilt.processOne (rebuilt : Rebuilt s) (inTime : InTime s (ev, ingestTs))
    (inSequence : InSequence s (ev, ingestTs)) : Rebuilt (s.processOne ev ingestTs).1 := by
  by_cases stores : Stores s ev
  · rw [processOne_of_stores stores]
    exact rebuilt.store stores inTime inSequence
  · obtain ⟨events, engine⟩ := processOne_of_not_stores stores
    intro loaded loads
    rw [events] at loads
    obtain ⟨t, ran, alike⟩ := rebuilt loaded loads
    refine ⟨t, ran, ?_⟩
    rcases engine with same | ⟨refused, same⟩
    · rw [same]
      exact alike
    · rw [same]
      exact alike.refused refused ingestTs

end processOne

/-- Where the column `seq` orders the events of a millisecond that depend on each other, the replay
of the log rebuilds every run. -/
theorem replays {s : ObsInner}
    (reached : ReachableWhen processes (fun s label => InTime s label ∧ InSequence s label) s) :
    Replays s := by
  have rebuilt : Rebuilt s := by
    apply ReachableWhen.invariant (motive := Rebuilt) ?_ ?_ reached
    · rintro s rfl loaded ⟨perm, _⟩
      rw [List.perm_nil.mp perm]
      exact ⟨{}, rfl, rfl, fun _ => rfl, rfl⟩
    · rintro s label t _ rebuilt ⟨inTime, inSequence⟩ taken
      cases taken
      exact rebuilt.processOne inTime inSequence
  intro loaded loads
  obtain ⟨t, ran, alike⟩ := rebuilt loaded loads
  obtain ⟨rfl, accepted⟩ := replay_of_accepts ran
  exact ⟨accepted, fun runId => by rw [alike.runs]⟩

/-- Two runs whose events share milliseconds. -/
def sharedMilliseconds : List (ObservabilityEvent × Int) :=
  [({ eventId := "a1", sourceId := "server:1", eventType := "RUN_STARTED", seq := 5 }, 10),
    ({ eventId := "b1", sourceId := "trainer:2", eventType := "RUN_STARTED"
       trainingRunId := some "r2", seq := 1 }, 10),
    ({ eventId := "a2", sourceId := "server:1", eventType := "EPISODE_SUBMITTED"
       episodeId := some "e1", seq := 6 }, 10),
    ({ eventId := "b2", sourceId := "trainer:2", eventType := "RUN_COMPLETED"
       trainingRunId := some "r2", seq := 2 }, 11),
    ({ eventId := "b3", sourceId := "trainer:2", eventType := "RUN_HEARTBEAT"
       trainingRunId := some "r2", seq := 3 }, 11)]

theorem replays_sharedMilliseconds :
    ∃ s, processes.exec {} sharedMilliseconds = some s ∧ Replays s := by
  obtain ⟨s, ran⟩ := Option.isSome_iff_exists.mp
    (show (processes.exec {} sharedMilliseconds).isSome = true by decide +kernel)
  have along : processes.Along (fun s label => InTime s label ∧ InSequence s label) {}
      sharedMilliseconds := by
    decide +kernel
  exact ⟨s, ran, replays (ReachableWhen.of_exec (.start rfl) sharedMilliseconds along ran)⟩

def started : ObservabilityEvent × Int :=
  ({ eventId := "a1", sourceId := "server:1", eventType := "RUN_STARTED", seq := 5 }, 10)

def completed : ObservabilityEvent × Int :=
  ({ eventId := "b1", sourceId := "trainer:2", eventType := "RUN_COMPLETED", seq := 1 }, 10)

/-- A run that starts and completes in one millisecond is replayed the other way round. -/
theorem completed_before_started : ¬ ∀ s, ReachableWhen processes InTime s → Replays s := by
  intro all
  have first : Stores {} started.1 := by decide +kernel
  have second : Stores { engine := (({} : MergeEngine).apply started.1 started.2).1
                         events := [started] } completed.1 := by
    decide +kernel
  have ran : processes.exec {} [started, completed] = some
      { engine := ((({} : MergeEngine).apply started.1 started.2).1.apply completed.1 completed.2).1
        events := [started, completed] } := by
    show some ((ObsInner.processOne (({} : ObsInner).processOne started.1 started.2).1 completed.1
      completed.2).1) = _
    rw [processOne_of_stores first]
    exact congrArg some (processOne_of_stores second)
  have along : processes.Along InTime {} [started, completed] := by decide +kernel
  have loads : Loads [started, completed] [completed, started] := by
    refine ⟨List.Perm.swap _ _ [], List.pairwise_pair.mpr (Or.inr ⟨rfl, ?_⟩)⟩
    decide
  have replays := all _ (ReachableWhen.of_exec (.start rfl) _ along ran)
  have accepted := (replays _ loads).1 [completed] started [] rfl
  exact absurd accepted (by decide +kernel)

end UEnv.Obs
