import UEnv.Persistence.Terminal

/-!
# The outbox

A terminal commit leaves an event of its result for the outbox, under a key made of the episode
and its attempt. The event is handed out until it is marked as delivered. Whether a result gets
an event of its own depends on what already stands under its key.
-/

namespace UEnv.Persistence

open Proto Wire Tables Transaction Runs

namespace Db

variable (db : Db)

/-- `WHERE delivered_at_ms IS NULL`. -/
def undelivered : Table OutboxRow := db.outbox.filter fun _ event => event.deliveredAtMs.isNone

/-- `load_outbox` (sqlite.rs, 1681-1699). -/
def loadOutbox (limit : Nat) : List (String × EpisodeResult) :=
  ((db.undelivered.toList.insertionSort fun a b => a.2.createdAtMs ≤ b.2.createdAtMs).take
    limit).map fun event => (event.1, event.2.payload)

/-- `replay_outbox`: the database after every loaded event was sent and marked. -/
def replayOutbox (now : Millis) : Db :=
  (db.loadOutbox 1000).foldl (fun db event => db.markOutboxDelivered now event.1) db

/-- What the rounds of the replay send, one round at each clock. -/
def replays (db : Db) : List Millis → List (String × EpisodeResult)
  | [] => []
  | now :: later => db.loadOutbox 1000 ++ (db.replayOutbox now).replays later

/-- The key of the event of a result. -/
def resultKey (result : EpisodeResult) : String := eventId result.episodeId result.attemptId

/-- An event of the result waits in the outbox. -/
def Waits (result : EpisodeResult) : Prop :=
  ∃ event, db.outbox[resultKey result]? = some event ∧ event.deliveredAtMs = none ∧
    event.payload = result

/-- The key of the result is free, or taken by a waiting event of the same result. -/
def Unclaimed (result : EpisodeResult) : Prop :=
  ∀ event, db.outbox[resultKey result]? = some event →
    event.deliveredAtMs = none ∧ event.payload = result

/-- The episode `id` ends with `result`. -/
def Ends (db db' : Db) (id : String) (result : EpisodeResult) : Prop :=
  (∃ row, db.episodes[id]? = some row ∧ row.phase.terminal = false) ∧
    ∃ row, db'.episodes[id]? = some row ∧ row.phase.terminal = true ∧ row.result = some result

variable {db} {db' : Db} {sha256Hex : Bytes → String} {now : Millis} {command : Command}
  {result : EpisodeResult}

theorem lookup_markOutboxDelivered_of_ne {eventId key : String} (other : key ≠ eventId) :
    (db.markOutboxDelivered now eventId).outbox[key]? = db.outbox[key]? := by
  change (db.outbox.modify eventId _)[key]? = _
  rw [lookup_modify, if_neg (Ne.symm other)]

theorem deleteEpisodes_outbox (doomed : String → EpisodeRow → Bool) :
    (db.deleteEpisodes doomed).outbox = db.outbox := rfl

theorem sweep_waits (terminalCutoffMs idempotencyCutoffMs : Millis) (maxCompletedEntries : Nat)
    (waits : db.Waits result) :
    (db.sweep terminalCutoffMs idempotencyCutoffMs maxCompletedEntries).Waits result := by
  obtain ⟨event, present, undelivered, payload⟩ := waits
  refine ⟨event, ?_, undelivered, payload⟩
  have outbox : (db.sweep terminalCutoffMs idempotencyCutoffMs maxCompletedEntries).outbox =
      db.outbox.filter fun _ row =>
        row.deliveredAtMs.all fun delivered => decide (terminalCutoffMs ≤ delivered) := by
    unfold sweep
    simp only
    split
    · rw [deleteEpisodes_outbox, deleteEpisodes_outbox]
    · rw [deleteEpisodes_outbox]
  rw [outbox, lookup_filter, present, Option.filter_some, undelivered]
  rfl

theorem commitTerminal_waits {ended : EpisodeResult} {code message : String}
    (committed : db.commitTerminal sha256Hex now ended code message = .ok db')
    (waits : db.Waits result) : db'.Waits result := by
  obtain ⟨row, present, ⟨_, _, rfl⟩ | ⟨_, _, rfl⟩⟩ := commitTerminal_ok committed
  · exact waits
  · obtain ⟨event, present, waiting⟩ := waits
    refine ⟨event, ?_, waiting⟩
    change (db.outbox.insertIfNew _ _)[resultKey result]? = some event
    rw [lookup_insertIfNew, if_neg, present]
    rintro ⟨same, fresh⟩
    exact fresh ((mem_iff_lookup _ _).mpr ⟨event, same ▸ present⟩)

theorem updateActiveEpisode_outbox (episodeId : String) (f : EpisodeRow → EpisodeRow) :
    (db.updateActiveEpisode episodeId f).outbox = db.outbox := by
  unfold updateActiveEpisode
  split
  · rfl
  · split
    · rfl
    · rfl

theorem Waits.of_eq (same : db'.outbox = db.outbox) (waits : db.Waits result) :
    db'.Waits result := by
  unfold Waits
  rw [same]
  exact waits

theorem Change.waits (change : Change sha256Hex now command db db')
    (unmarked : command ≠ .markOutboxDelivered (resultKey result)) (waits : db.Waits result) :
    db'.Waits result := by
  cases change with
  | kept _ outbox => exact waits.of_eq outbox
  | created _ _ _ _ _ outbox => exact waits.of_eq outbox
  | written start episodeId f _ _ outbox after =>
    apply waits.of_eq
    rw [after, updateActiveEpisode_outbox, outbox]
  | committed ended code message closed commit _ outbox =>
    exact (commitTerminal_waits commit waits).of_eq outbox
  | delivered eventId named after =>
    obtain ⟨event, present, waiting⟩ := waits
    refine ⟨event, ?_, waiting⟩
    rw [after, lookup_markOutboxDelivered_of_ne, present]
    intro same
    exact unmarked (by rw [named, same])
  | swept terminalCutoffMs idempotencyCutoffMs maxCompletedEntries named after =>
    rw [after]
    exact sweep_waits _ _ _ waits

variable {id : String}

theorem Change.outbox_of_ends (change : Change sha256Hex now command db db')
    (ends : Ends db db' id result) :
    db'.outbox = db.outbox.insertIfNew (resultKey result) (resultEvent now result) := by
  obtain ⟨⟨row, present, active⟩, row', present', terminal, held⟩ := ends
  cases change with
  | kept episodes =>
    rw [episodes, present] at present'
    cases present'
    rw [active] at terminal
    cases terminal
  | created episodeId created missing created_active episodes =>
    rw [episodes] at present'
    rcases lookup_insert_cases present' with ⟨rfl, _⟩ | old
    · cases missing.symm.trans present
    · obtain rfl := Option.some.inj (present.symm.trans old)
      rw [active] at terminal
      cases terminal
  | written start episodeId f active_f before outbox after =>
    have unfinished : ∀ row', (start.updateActiveEpisode episodeId f).episodes[id]? = some row' →
        row'.phase.terminal = false := by
      intro row' found
      unfold updateActiveEpisode at found
      rw [← before] at present
      split at found
      · obtain rfl := Option.some.inj (present.symm.trans found)
        exact active
      · split at found
        · obtain rfl := Option.some.inj (present.symm.trans found)
          exact active
        · rcases lookup_insert_cases found with ⟨_, rfl⟩ | old
          · exact active_f _
          · obtain rfl := Option.some.inj (present.symm.trans old)
            exact active
    rw [after] at present'
    rw [unfinished row' present'] at terminal
    cases terminal
  | committed ended code message closed commit episodes outbox =>
    rw [outbox]
    rw [episodes] at present'
    obtain ⟨row'', _, ⟨_, _, rfl⟩ | ⟨_, _, rfl⟩⟩ := commitTerminal_ok commit
    · obtain rfl := Option.some.inj (present.symm.trans present')
      rw [active] at terminal
      cases terminal
    · rcases lookup_insert_cases present' with ⟨_, rfl⟩ | old
      · obtain rfl : ended = result := Option.some.inj held
        rfl
      · obtain rfl := Option.some.inj (present.symm.trans old)
        rw [active] at terminal
        cases terminal
  | delivered eventId named after =>
    rw [after] at present'
    obtain rfl := Option.some.inj (present.symm.trans present')
    rw [active] at terminal
    cases terminal
  | swept terminalCutoffMs idempotencyCutoffMs maxCompletedEntries named after =>
    rw [after] at present'
    rcases sweep_lookup db terminalCutoffMs idempotencyCutoffMs maxCompletedEntries id with
      same | ⟨_, gone⟩
    · obtain rfl := Option.some.inj (present.symm.trans (same.symm.trans present'))
      rw [active] at terminal
      cases terminal
    · cases gone.symm.trans present'

/-- After the command that ends an episode its result waits exactly if the key was unclaimed. -/
theorem Change.waits_iff_unclaimed (change : Change sha256Hex now command db db')
    (ends : Ends db db' id result) : db'.Waits result ↔ db.Unclaimed result := by
  have outbox := change.outbox_of_ends ends
  have lookup : db'.outbox[resultKey result]? =
      if resultKey result ∉ db.outbox then some (resultEvent now result)
      else db.outbox[resultKey result]? := by
    rw [outbox, lookup_insertIfNew]
    simp only [true_and]
  cases taken : db.outbox[resultKey result]? with
  | none =>
    have free : resultKey result ∉ db.outbox := by
      rw [mem_iff_lookup, taken]
      simp
    rw [if_pos free] at lookup
    constructor
    · intro _ event present
      cases taken.symm.trans present
    · intro _
      exact ⟨_, lookup, rfl, rfl⟩
  | some event =>
    have claimed : resultKey result ∈ db.outbox := (mem_iff_lookup _ _).mpr ⟨event, taken⟩
    rw [if_neg (not_not.mpr claimed), taken] at lookup
    constructor
    · rintro ⟨event', present', waiting⟩ event'' present''
      obtain rfl := Option.some.inj (lookup.symm.trans present')
      obtain rfl := Option.some.inj (taken.symm.trans present'')
      exact waiting
    · intro unclaimed
      exact ⟨event, lookup, unclaimed event taken⟩

/-! ## Rounds of the replay -/

section Replay

variable {key : String} {event : OutboxRow} {limit : Nat}

theorem mem_undelivered_iff : (key, event) ∈ db.undelivered.toList ↔
      db.outbox[key]? = some event ∧ event.deliveredAtMs = none := by
  unfold undelivered
  rw [Std.ExtTreeMap.mem_toList_iff_getElem?_eq_some, lookup_filter, Option.filter_eq_some_iff]
  simp

theorem mem_loadOutbox {entry : String × EpisodeResult} (loaded : entry ∈ db.loadOutbox limit) :
    ∃ event, db.outbox[entry.1]? = some event ∧ event.deliveredAtMs = none := by
  obtain ⟨⟨key, event⟩, member, rfl⟩ := List.mem_map.mp loaded
  exact ⟨event, mem_undelivered_iff.mp
    ((List.mem_insertionSort _).mp (List.mem_of_mem_take member))⟩

theorem loadOutbox_ne_nil (positive : 0 < limit) (waits : db.Waits result) :
    db.loadOutbox limit ≠ [] := by
  obtain ⟨event, present, undelivered, _⟩ := waits
  have member := mem_undelivered_iff.mpr ⟨present, undelivered⟩
  have some_ : 0 < db.undelivered.toList.length := List.length_pos_of_mem member
  intro empty
  have none_ := congrArg List.length empty
  simp only [loadOutbox, List.length_map, List.length_take, List.length_insertionSort,
    List.length_nil] at none_
  omega

variable (db now) in
theorem lookup_marked (keys : List (String × EpisodeResult)) (key : String) :
    (keys.foldl (fun db entry => db.markOutboxDelivered now entry.1) db).outbox[key]? =
        db.outbox[key]? ∧ key ∉ keys.map Prod.fst ∨
      (∀ event, (keys.foldl (fun db entry => db.markOutboxDelivered now entry.1) db).outbox[key]? =
        some event → event.deliveredAtMs ≠ none) ∧ key ∈ keys.map Prod.fst := by
  induction keys generalizing db with
  | nil => exact Or.inl ⟨rfl, List.not_mem_nil⟩
  | cons entry rest ih =>
    rw [List.foldl_cons]
    rcases ih (db.markOutboxDelivered now entry.1) with ⟨same, absent⟩ | ⟨marked, member⟩
    · by_cases here : key = entry.1
      · right
        refine ⟨?_, by simp [here]⟩
        intro event present
        rw [same, here] at present
        change (db.outbox.modify entry.1 _)[entry.1]? = _ at present
        rw [lookup_modify, if_pos rfl] at present
        obtain ⟨old, _, rfl⟩ := Option.map_eq_some_iff.mp present
        exact Option.some_ne_none now
      · left
        rw [same, lookup_markOutboxDelivered_of_ne here]
        refine ⟨rfl, ?_⟩
        simp only [List.map_cons, List.mem_cons, not_or]
        exact ⟨here, absent⟩
    · exact Or.inr ⟨marked, List.mem_cons_of_mem _ member⟩

theorem undelivered_of_replayOutbox
    (member : (key, event) ∈ (db.replayOutbox now).undelivered.toList) :
    (key, event) ∈ db.undelivered.toList ∧ key ∉ (db.loadOutbox 1000).map Prod.fst := by
  obtain ⟨present, undelivered⟩ := mem_undelivered_iff.mp member
  rcases lookup_marked db now (db.loadOutbox 1000) key with
    ⟨same, absent⟩ | ⟨marked, _⟩
  · exact ⟨mem_undelivered_iff.mpr ⟨same.symm.trans present, undelivered⟩, absent⟩
  · exact absurd undelivered (marked event present)

theorem undelivered_nodup : db.undelivered.toList.Nodup := by
  refine List.Pairwise.imp ?_ (Std.ExtTreeMap.distinct_keys_toList (t := db.undelivered))
  intro a b different same
  rw [same, Std.compare_eq_iff_eq] at different
  exact different rfl

variable (now) in
theorem replayOutbox_length (loads : db.loadOutbox 1000 ≠ []) :
    (db.replayOutbox now).undelivered.toList.length < db.undelivered.toList.length := by
  obtain ⟨entry, rest, loaded⟩ := List.exists_cons_of_ne_nil loads
  have first : entry ∈ db.loadOutbox 1000 := by
    rw [loaded]
    exact List.mem_cons_self
  obtain ⟨event, present, undelivered⟩ := mem_loadOutbox first
  have subset : ∀ e ∈ (entry.1, event) :: (db.replayOutbox now).undelivered.toList,
      e ∈ db.undelivered.toList := by
    intro e member
    rcases List.mem_cons.mp member with rfl | member
    · exact mem_undelivered_iff.mpr ⟨present, undelivered⟩
    · exact (undelivered_of_replayOutbox member).1
  have fresh : (entry.1, event) ∉ (db.replayOutbox now).undelivered.toList := fun member =>
    (undelivered_of_replayOutbox member).2 (List.mem_map_of_mem first)
  have longer := (List.nodup_cons.mpr ⟨fresh, undelivered_nodup⟩).length_le_of_subset subset
  rw [List.length_cons] at longer
  omega

variable (now) in
theorem replayOutbox_waits (missed : (resultKey result, result) ∉ db.loadOutbox 1000)
    (waits : db.Waits result) : (db.replayOutbox now).Waits result := by
  obtain ⟨event, present, undelivered, payload⟩ := waits
  rcases lookup_marked db now (db.loadOutbox 1000) (resultKey result) with
    ⟨same, _⟩ | ⟨_, member⟩
  · exact ⟨event, same.trans present, undelivered, payload⟩
  · obtain ⟨⟨key, other⟩, loaded, named⟩ := List.mem_map.mp member
    obtain ⟨⟨key', event'⟩, taken, same⟩ := List.mem_map.mp loaded
    obtain ⟨rfl, rfl⟩ := Prod.mk.inj same
    obtain rfl : key' = resultKey result := named
    have held := mem_undelivered_iff.mp ((List.mem_insertionSort _).mp (List.mem_of_mem_take taken))
    obtain rfl := Option.some.inj (present.symm.trans held.1)
    rw [payload] at loaded
    exact absurd loaded missed

theorem mem_replays_of_waits (clocks : List Millis) (waits : db.Waits result)
    (enough : db.undelivered.toList.length ≤ clocks.length) :
    (resultKey result, result) ∈ db.replays clocks := by
  have loads : db.loadOutbox 1000 ≠ [] := loadOutbox_ne_nil (by decide) waits
  induction clocks generalizing db with
  | nil =>
    have shorter := replayOutbox_length 0 loads
    rw [List.length_nil] at enough
    omega
  | cons now later ih =>
    unfold replays
    by_cases sent : (resultKey result, result) ∈ db.loadOutbox 1000
    · exact List.mem_append_left _ sent
    · have still := replayOutbox_waits now sent waits
      apply List.mem_append_right
      apply ih still
      · have shorter := replayOutbox_length now loads
        rw [List.length_cons] at enough
        omega
      · exact loadOutbox_ne_nil (by decide) still

end Replay

end Db

/-- Along every run that does not mark its event the result waits in the outbox, and enough rounds
of the replay would send it. -/
def Announced (sha256Hex : Bytes → String) (c : Connection String Db) (result : EpisodeResult) :
    Prop :=
  ∀ (rest : List Call) (c' : Connection String Db),
    (sessions sha256Hex).exec c rest = some c' →
    (∀ call ∈ rest, call.command ≠ .markOutboxDelivered (Db.resultKey result)) →
    c'.durable.Waits result ∧ ∃ rounds : Nat, ∀ clocks : List Millis, rounds ≤ clocks.length →
      (Db.resultKey result, result) ∈ c'.durable.replays clocks

section sessions

variable {sha256Hex : Bytes → String} {c c' : Connection String Db} {call : Call} {id : String}
  {result : EpisodeResult}

theorem waits_along (rest : List Call) (reached : Reachable (sessions sha256Hex) c)
    (waits : c.durable.Waits result) (ran : (sessions sha256Hex).exec c rest = some c')
    (unmarked : ∀ call ∈ rest, call.command ≠ .markOutboxDelivered (Db.resultKey result)) :
    c'.durable.Waits result := by
  induction rest generalizing c with
  | nil =>
    cases ran
    exact waits
  | cons call rest ih =>
    obtain ⟨middle, taken, ran⟩ := Option.bind_eq_some_iff.mp ran
    have change := change_of_step (working_of_reachable reached) taken
    refine ih (reached.next taken) ?_ ran fun later member =>
      unmarked later (List.mem_cons_of_mem _ member)
    exact change.waits (unmarked call List.mem_cons_self) waits

/-- A terminal result is announced exactly if its commit found the key of its event unclaimed. -/
theorem announced_iff_unclaimed (reached : Reachable (sessions sha256Hex) c)
    (taken : (sessions sha256Hex).step c call = some c')
    (ends : Db.Ends c.durable c'.durable id result) :
    Announced sha256Hex c' result ↔ c.durable.Unclaimed result := by
  have change := change_of_step (working_of_reachable reached) taken
  rw [← change.waits_iff_unclaimed ends]
  constructor
  · intro announced
    exact (announced [] c' rfl (fun _ member => absurd member List.not_mem_nil)).1
  · intro waits rest final ran unmarked
    have still := waits_along rest (reached.next taken) waits ran unmarked
    exact ⟨still, final.durable.undelivered.toList.length, fun clocks enough =>
      Db.mem_replays_of_waits clocks still enough⟩

/-- The first commit of an episode, after its creation. -/
def created : List Call :=
  [{ now := 1, command := .findOrCreateEpisode exampleUuid .zero exampleRequest "sync" 60000 }]

def firstResult : EpisodeResult := { episodeId := "e1", status := "completed" }

theorem first_result_announced :
    ∃ c c' : Connection String Db, Reachable (sessions Sha256.sha256Hex) c ∧
      Db.Ends c.durable c'.durable "e1" firstResult ∧
      Announced Sha256.sha256Hex c' firstResult := by
  let call : Call := { now := 2, command := .commitTerminal firstResult "" "" }
  have facts : ((sessions Sha256.sha256Hex).exec { durable := {} } created).any (fun c =>
      ((sessions Sha256.sha256Hex).step c call).any fun c' =>
        ((c.durable.episodes["e1"]?).any fun row => !row.phase.terminal) &&
          ((c'.durable.episodes["e1"]?).any fun row =>
            row.phase.terminal && decide (row.result = some firstResult)) &&
          (c.durable.outbox[Db.resultKey firstResult]?).isNone) = true := by decide +kernel
  obtain ⟨c, ran, facts⟩ := (Option.any_eq_true _ _).mp facts
  obtain ⟨c', taken, facts⟩ := (Option.any_eq_true _ _).mp facts
  simp only [Bool.and_eq_true, Option.any_eq_true, Bool.not_eq_true', decide_eq_true_eq,
    Option.isNone_iff_eq_none] at facts
  obtain ⟨⟨active, ended⟩, free⟩ := facts
  have reached := Reachable.of_exec rfl created ran
  refine ⟨c, c', reached, ⟨active, ended⟩, ?_⟩
  refine (announced_iff_unclaimed reached taken ⟨active, ended⟩).mpr ?_
  intro event present
  cases free.symm.trans present

/-- The event of the first result is delivered, a sweep deletes the episode but not yet the event,
and the episode is submitted again. -/
def reused : List Call :=
  created ++
  [{ now := 2, command := .commitTerminal firstResult "" "" },
    { now := 30, command := .markOutboxDelivered (Db.resultKey firstResult) },
    { now := 40, command := .sweep 20 0 0 },
    { now := 41, command := .findOrCreateEpisode exampleUuid .zero exampleRequest "sync" 60000 }]

def secondResult : EpisodeResult := { episodeId := "e1", status := "failed" }

/-- The second result of the episode gets no event. -/
theorem second_result_not_announced :
    ¬ ∀ (sha256Hex : Bytes → String) (c c' : Connection String Db) (call : Call) (id : String)
      (result : EpisodeResult), Reachable (sessions sha256Hex) c →
      (sessions sha256Hex).step c call = some c' → Db.Ends c.durable c'.durable id result →
      Announced sha256Hex c' result := by
  intro always
  let call : Call := { now := 42, command := .commitTerminal secondResult "" "" }
  have facts : ((sessions Sha256.sha256Hex).exec { durable := {} } reused).any (fun c =>
      ((sessions Sha256.sha256Hex).step c call).any fun c' =>
        ((c.durable.episodes["e1"]?).any fun row => !row.phase.terminal) &&
          ((c'.durable.episodes["e1"]?).any fun row =>
            row.phase.terminal && decide (row.result = some secondResult)) &&
          (c'.durable.outbox[Db.resultKey secondResult]?).any fun event =>
            event.deliveredAtMs.isSome) = true := by decide +kernel
  obtain ⟨c, ran, facts⟩ := (Option.any_eq_true _ _).mp facts
  obtain ⟨c', taken, facts⟩ := (Option.any_eq_true _ _).mp facts
  simp only [Bool.and_eq_true, Option.any_eq_true, Bool.not_eq_true', decide_eq_true_eq] at facts
  obtain ⟨⟨active, ended⟩, event, present, delivered⟩ := facts
  have announced := always Sha256.sha256Hex c c' call "e1" secondResult
    (Reachable.of_exec rfl reused ran) taken ⟨active, ended⟩
  obtain ⟨⟨event', present', undelivered, _⟩, _⟩ :=
    announced [] c' rfl (fun _ member => absurd member List.not_mem_nil)
  obtain rfl := Option.some.inj (present.symm.trans present')
  rw [undelivered] at delivered
  cases delivered

end sessions

end UEnv.Persistence
