import UEnv.Persistence.Sqlite
import UEnv.Service.Request

/-!
# Submitting an episode

`submit_episode` up to the point where the caller waits: the lookup in the store and the entry of
the coordinator (`episode_coordinator.rs`).
-/

namespace UEnv.Service

open Proto Wire Persistence Tables Fallible

/-- `EpisodeCoordinator`: the request checksum of each entry. -/
abbrev Coordinator := Table String

def episodeIdConflict : String := "EPISODE_ID_CONFLICT: episode_id reused with different request"

/-- `get_or_insert`: whether the caller owns the entry. -/
def Coordinator.getOrInsert (coord : Coordinator) (episodeId requestChecksum : String) :
    Except String (Bool × Coordinator) :=
  match coord[episodeId]? with
  | some existing =>
    if existing ≠ requestChecksum then .error episodeIdConflict else .ok (false, coord)
  | none => .ok (true, coord.insert episodeId requestChecksum)

/-- Nothing that `get_or_insert` does changes an entry. -/
def Coordinator.Extends (coord coord' : Coordinator) : Prop :=
  ∀ (id checksum : String), coord[id]? = some checksum → coord'[id]? = some checksum

/-- What a submission makes of the answer of the store: the stored result, or nothing yet. -/
def answerLookup (requestChecksum : String) : EpisodeLookup → Except String (Option EpisodeResult)
  | .terminal existing result =>
    if existing ≠ requestChecksum then .error episodeIdConflict else .ok (some result)
  | .active existing _ =>
    if existing ≠ requestChecksum then .error episodeIdConflict else .ok none
  | .created => .ok none

/-- What a submission ends its first part with: a stored result, or the entry to wait for. -/
inductive SubmitAnswer
  | stored (result : EpisodeResult)
  | entry (owner : Bool)
  deriving DecidableEq

variable (sha256Hex : Bytes → String)

/-- `submit_episode` of a server with a store that accepts episodes. -/
def submitEpisode (db : Db) (coordinator : Coordinator) (now : Millis) (deadlineAtMs : Millis)
    (uuid : Uuid) (clock : F64) (req : EpisodeRequest) :
    Except String (SubmitAnswer × Db × Coordinator) := do
  let req ← prepare uuid clock req
  let checksum := requestChecksum sha256Hex req
  let (lookup, db) ← db.findOrCreateEpisode sha256Hex now req "sync" deadlineAtMs
  match ← answerLookup checksum lookup with
  | some result => .ok (.stored result, db, coordinator)
  | none =>
    let (owner, coordinator) ← coordinator.getOrInsert req.episodeId checksum
    .ok (.entry owner, db, coordinator)

namespace Coordinator

variable {coord coord' coord'' : Coordinator}

theorem Extends.refl (coord : Coordinator) : coord.Extends coord := fun _ _ present => present

theorem Extends.trans (first : coord.Extends coord') (second : coord'.Extends coord'') :
    coord.Extends coord'' :=
  fun id checksum present => second id checksum (first id checksum present)

variable {episodeId checksum : String}

/-- An answer of `get_or_insert`: an old entry with the same checksum, or a new one. -/
theorem getOrInsert_cases {owner : Bool}
    (answered : coord.getOrInsert episodeId checksum = .ok (owner, coord')) :
    (owner = false ∧ coord[episodeId]? = some checksum ∧ coord' = coord) ∨
    (owner = true ∧ coord[episodeId]? = none ∧ coord' = coord.insert episodeId checksum) := by
  unfold getOrInsert at answered
  split at answered
  · next existing present =>
    split at answered
    · cases answered
    · next same =>
      cases answered
      rw [not_ne_iff.mp same] at present
      exact Or.inl ⟨rfl, present, rfl⟩
  · next absent =>
    cases answered
    exact Or.inr ⟨rfl, absent, rfl⟩

theorem extends_insert (absent : coord[episodeId]? = none) :
    coord.Extends (coord.insert episodeId checksum) := by
  intro id existing present
  by_cases same : episodeId = id
  · rw [same, present] at absent
    cases absent
  · rw [lookup_insert, if_neg same]
    exact present

theorem getOrInsert_of_same (entry : coord[episodeId]? = some checksum) :
    coord.getOrInsert episodeId checksum = .ok (false, coord) := by
  unfold getOrInsert
  simp only [entry, ne_eq, not_true_eq_false, if_false]

theorem getOrInsert_of_vacant (vacant : coord[episodeId]? = none) :
    coord.getOrInsert episodeId checksum = .ok (true, coord.insert episodeId checksum) := by
  unfold getOrInsert
  simp only [vacant]

/-- `get_or_insert` refuses exactly when the entry has another checksum. -/
theorem getOrInsert_refuses_iff : coord.getOrInsert episodeId checksum = .error episodeIdConflict ↔
      ∃ existing, coord[episodeId]? = some existing ∧ existing ≠ checksum := by
  unfold getOrInsert
  cases present : coord[episodeId]? with
  | none => simp
  | some existing => by_cases same : existing = checksum <;> simp [same]

end Coordinator

variable {sha256Hex}

/-- A submission of an episode that has an unfinished row is decided by the checksums of the row
and of the entry. -/
theorem submitEpisode_of_active {db : Db} {uuid : Uuid} {clock : F64}
    {req prepared : EpisodeRequest} {row : EpisodeRow}
    (ready : prepare uuid clock req = .ok prepared)
    (present : db.episodes[prepared.episodeId]? = some row) (active : row.phase.terminal = false)
    (checksum : row.requestChecksum = requestChecksum sha256Hex prepared)
    (coordinator : Coordinator) (now deadlineAtMs : Millis) :
    submitEpisode sha256Hex db coordinator now deadlineAtMs uuid clock req =
      (coordinator.getOrInsert prepared.episodeId (requestChecksum sha256Hex prepared)).map
        fun answer => (.entry answer.1, db, answer.2) := by
  have looked : db.getEpisode prepared.episodeId =
      .ok (some (.active row.requestChecksum row.phase)) := by
    unfold Db.getEpisode
    rw [present]
    simp only [active, Bool.false_eq_true, if_false]
  have found : db.findOrCreateEpisode sha256Hex now prepared "sync" deadlineAtMs =
      .ok (.active row.requestChecksum row.phase, db) := by
    unfold Db.findOrCreateEpisode
    rw [looked]
    rfl
  have accepted : answerLookup (requestChecksum sha256Hex prepared)
      (.active row.requestChecksum row.phase) = .ok none := by
    simp only [answerLookup, checksum, ne_eq, not_true_eq_false, if_false]
  unfold submitEpisode
  rw [ready]
  change (db.findOrCreateEpisode sha256Hex now prepared "sync" deadlineAtMs >>= _) = _
  rw [found]
  change (answerLookup _ _ >>= _) = _
  rw [accepted]
  cases coordinator.getOrInsert prepared.episodeId (requestChecksum sha256Hex prepared) with
  | error e => rfl
  | ok => rfl

end UEnv.Service
