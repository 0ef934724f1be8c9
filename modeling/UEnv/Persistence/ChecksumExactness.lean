import UEnv.Lib.Sha256
import UEnv.Lib.Tables
import UEnv.Persistence.Checksum
import UEnv.Proto.Exactness

/-!
# The checksums are exact

`persistence/mod.rs`. What the checksums hash determines the request, up to the fields that the
server fills in, and the result, and does not depend on the order in which the maps are iterated.
-/

namespace UEnv.Persistence

open Proto Wire Tables

/-! ### Maps in any order -/

/-- `left_key.cmp(right_key).then_with(|| left_value.cmp(right_value))`. -/
def compareEntries (left right : String × String) : Ordering :=
  (compare left.1 right.1).then (compare left.2 right.2)

instance : Std.TransCmp compareEntries :=
  inferInstanceAs (Std.TransCmp (compareLex (compareOn Prod.fst) (compareOn Prod.snd)))

def entryLe (left right : String × String) : Bool := (compareEntries left right).isLE

/-- `append_sorted_string_map` on the entries of a map as they are iterated. -/
def appendSortedEntries (entries : List (String × String)) : Bytes :=
  let entries := entries.mergeSort entryLe
  littleEndian 8 entries.length ++
    (entries.map fun entry =>
      appendLenPrefixed (utf8 entry.1) ++ appendLenPrefixed (utf8 entry.2)).flatten

/-- A `HashMap` is iterated in any order of its entries. -/
def Iterates (entries : List (String × String)) (values : StringMap) : Prop :=
  entries.Perm values.toList

instance (entries : List (String × String)) (values : StringMap) :
    Decidable (Iterates entries values) :=
  inferInstanceAs (Decidable (entries.Perm values.toList))

theorem entryLe_antisymm {a b : String × String} (ab : entryLe a b = true)
    (ba : entryLe b a = true) : a = b := by
  have equal : compareEntries a b = .eq := Std.OrientedCmp.isLE_antisymm ab ba
  obtain ⟨keys, values⟩ := Ordering.then_eq_eq.mp equal
  exact Prod.ext (Std.LawfulEqOrd.eq_of_compare keys) (Std.LawfulEqOrd.eq_of_compare values)

theorem entryLe_total (a b : String × String) : (entryLe a b || entryLe b a) = true := by
  have swapped : compareEntries a b = (compareEntries b a).swap := Std.OrientedCmp.eq_swap
  unfold entryLe
  rw [swapped]
  cases compareEntries b a <;> rfl

variable {a b : EpisodeResult} {entries metadata : List (String × String)} {values : StringMap}

theorem mergeSort_of_iterates (iterates : Iterates entries values) :
    entries.mergeSort entryLe = values.toList := by
  have sorted : values.toList.Pairwise fun a b => entryLe a b = true := by
    refine Std.ExtTreeMap.ordered_keys_toList.imp fun {a b} before => ?_
    exact Ordering.isLE_then_iff_or.mpr (Or.inl before)
  have perm := (List.mergeSort_perm entries entryLe).trans iterates
  have trans : ∀ a b c, entryLe a b = true → entryLe b c = true → entryLe a c = true :=
    fun _ _ _ ab bc => Std.TransCmp.isLE_trans ab bc
  exact perm.eq_of_pairwise (fun a b _ _ ab ba => entryLe_antisymm ab ba)
    (List.pairwise_mergeSort trans entryLe_total entries) sorted

theorem appendSortedEntries_eq (iterates : Iterates entries values) :
    appendSortedEntries entries = appendSortedStringMap values := by
  unfold appendSortedEntries appendSortedStringMap
  simp only [mergeSort_of_iterates iterates, Std.ExtTreeMap.length_toList]

/-! ### What the checksums hash -/

/-- The requests are one submission: they differ at most in the five fields and the one metadata key
that the server fills in. -/
def SameSubmission (a b : EpisodeRequest) : Prop :=
  ∃ enqueueTs dispatchLeaseId dispatchToken schedulerEpoch leaseExpireAt metadata,
    b = { a with
      enqueueTs, dispatchLeaseId, dispatchToken, schedulerEpoch, leaseExpireAt, metadata } ∧
    ∀ key : String, key ≠ "dispatch_ts" → metadata[key]? = a.metadata[key]?

theorem canonicalRequest_eq_iff {a b : EpisodeRequest} :
    canonicalRequest a = canonicalRequest b ↔ SameSubmission a b := by
  constructor
  · intro same
    have maps : a.metadata.erase "dispatch_ts" = b.metadata.erase "dispatch_ts" :=
      congrArg EpisodeRequest.metadata same
    refine ⟨b.enqueueTs, b.dispatchLeaseId, b.dispatchToken, b.schedulerEpoch, b.leaseExpireAt,
      b.metadata, ?_, fun key other => ?_⟩
    · cases a
      cases b
      simp_all [canonicalRequest]
    · have found := congrArg (·[key]?) maps
      simp only [lookup_erase, if_neg other.symm] at found
      exact found.symm
  · rintro ⟨_, _, _, _, _, metadata, rfl, same⟩
    have maps : a.metadata.erase "dispatch_ts" = metadata.erase "dispatch_ts" := by
      refine Std.ExtTreeMap.ext_getElem? fun key => ?_
      rw [lookup_erase, lookup_erase]
      split
      · rfl
      · next other => exact (same key (Ne.symm other)).symm
    simp only [canonicalRequest, maps]

/-- What `request_checksum` hashes, with its map as it is iterated. -/
def requestBytesIn (metadata : List (String × String)) (request : EpisodeRequest) : Bytes :=
  (canonicalRequest request).encode ++ utf8 "\x00uenv-request-map-v1" ++
    appendSortedEntries metadata

/-- The maps that `result_checksum` takes out of the steps. -/
def stepInfo (result : EpisodeResult) : List StringMap :=
  (result.trajectory.map fun t => t.steps.map StepRecord.info).getD []

/-- What `result_checksum` hashes, with its maps as they are iterated. -/
def resultBytesIn (metadata : List (String × String)) (infos : List (List (String × String)))
    (result : EpisodeResult) : Bytes :=
  result.encode ++ utf8 "\x00uenv-result-map-v1" ++ appendSortedEntries metadata ++
    littleEndian 8 infos.length ++ (infos.map appendSortedEntries).flatten

theorem requestBytesIn_eq {request : EpisodeRequest}
    (iterates : Iterates metadata (canonicalRequest request).metadata) :
    requestBytesIn metadata request = requestBytes request := by
  unfold requestBytesIn requestBytes
  simp only [appendSortedEntries_eq iterates]

theorem resultBytesIn_eq {infos : List (List (String × String))} {result : EpisodeResult}
    (iterates : Iterates metadata result.metadata)
    (inside : List.Forall₂ Iterates infos (stepInfo result)) :
    resultBytesIn metadata infos result = resultBytes result := by
  have maps : infos.map appendSortedEntries = (stepInfo result).map appendSortedStringMap := by
    generalize stepInfo result = values at inside
    induction inside with
    | nil => rfl
    | cons here _ ih => rw [List.map_cons, List.map_cons, appendSortedEntries_eq here, ih]
  unfold resultBytesIn resultBytes
  rw [appendSortedEntries_eq iterates, maps, inside.length_eq]
  rfl

/-! ### Reading the maps back -/

theorem delimited_appendLenPrefixed : Delimited (fun _ => True) appendLenPrefixed := by
  intro x y r s _ _ fitsX fitsY same
  have shortX : x.length < 256 ^ 8 := fitsX.right
  have shortY : y.length < 256 ^ 8 := fitsY.right
  unfold appendLenPrefixed at same
  rw [List.append_assoc, List.append_assoc] at same
  obtain ⟨lengths, rest⟩ := littleEndian_append_inj 8 shortX shortY same
  exact List.append_inj rest lengths

theorem delimited_entry : Delimited (fun _ : String × String => True) fun entry =>
    appendLenPrefixed (utf8 entry.1) ++ appendLenPrefixed (utf8 entry.2) := by
  have text : Delimited (fun _ : String => True) (appendLenPrefixed ∘ utf8) :=
    delimited_appendLenPrefixed.comap (fun _ _ => trivial) fun _ _ same => utf8_inj same
  intro x y r s _ _ fitsX fitsY same
  exact text.pair text x y r s ⟨trivial, trivial⟩ ⟨trivial, trivial⟩ fitsX fitsY same

theorem length_le_flatten {α : Type} {item : α → Bytes} (nonempty : ∀ x, item x ≠ [])
    (xs : List α) : xs.length ≤ (xs.map item).flatten.length := by
  induction xs with
  | nil => exact Nat.le_refl 0
  | cons x =>
    have some := List.length_pos_iff.mpr (nonempty x)
    rw [List.map_cons, List.flatten_cons, List.length_append, List.length_cons]
    omega

theorem delimited_counted {α : Type} {item : α → Bytes}
    (delimited : Delimited (fun _ => True) item) (nonempty : ∀ x, item x ≠ []) :
    Delimited (fun _ : List α => True) fun xs =>
      littleEndian 8 xs.length ++ (xs.map item).flatten := by
  intro xs ys r s _ _ fitsX fitsY same
  have boundX := lt_of_le_of_lt (length_le_flatten nonempty xs) fitsX.right
  have boundY := lt_of_le_of_lt (length_le_flatten nonempty ys) fitsY.right
  rw [List.append_assoc, List.append_assoc] at same
  obtain ⟨lengths, rest⟩ := littleEndian_append_inj 8 boundX boundY same
  exact delimited.flatten (fun _ _ => trivial) (fun _ _ => trivial) fitsX.right fitsY.right
    lengths rest

theorem appendLenPrefixed_ne_nil (value : Bytes) : appendLenPrefixed value ≠ [] := by
  intro empty
  have digits := congrArg List.length (List.append_eq_nil_iff.mp empty).1
  rw [length_littleEndian] at digits
  cases digits

theorem delimited_map : Delimited (fun _ => True) appendSortedStringMap := by
  have entries := delimited_counted delimited_entry fun entry empty =>
    appendLenPrefixed_ne_nil _ (List.append_eq_nil_iff.mp empty).1
  have map : appendSortedStringMap = (fun xs : List (String × String) =>
      littleEndian 8 xs.length ++ (xs.map fun entry => appendLenPrefixed (utf8 entry.1) ++
        appendLenPrefixed (utf8 entry.2)).flatten) ∘ Std.ExtTreeMap.toList := by
    funext values
    unfold appendSortedStringMap
    rw [← Std.ExtTreeMap.length_toList]
    rfl
  rw [map]
  refine entries.comap (fun _ _ => trivial) fun x y same => ?_
  rw [← ofList_toList x, same, ofList_toList]

theorem appendSortedStringMap_ne_nil (values : StringMap) : appendSortedStringMap values ≠ [] := by
  intro empty
  have digits := congrArg List.length (List.append_eq_nil_iff.mp empty).1
  rw [length_littleEndian] at digits
  cases digits

/-! ### The checksums -/

theorem after_marker {marker : String} {more : Bytes} (zero : utf8 marker = 0 :: more) (n : Nat)
    (rest : Bytes) : After n (utf8 marker ++ rest) := by
  rw [zero]
  exact after_zero n _

theorem requestBytes_inj {a b : EpisodeRequest} (fitsA : Fits (requestBytes a))
    (fitsB : Fits (requestBytes b)) (same : requestBytes a = requestBytes b) :
    canonicalRequest a = canonicalRequest b := by
  have marker : utf8 "\x00uenv-request-map-v1" = 0 :: utf8 "uenv-request-map-v1" := by
    decide +kernel
  unfold requestBytes at *
  simp only at *
  generalize canonicalRequest a = x at *
  generalize canonicalRequest b = y at *
  rw [List.append_assoc, List.append_assoc] at same
  obtain ⟨bare, rest⟩ := fields_request.inj { x with metadata := ∅ } { y with metadata := ∅ } _ _
    rfl rfl fitsA.left.left fitsB.left.left (after_marker marker 25 _) (after_marker marker 25 _)
    same
  have maps := delimited_map.exact x.metadata y.metadata trivial trivial fitsA.right fitsB.right
    (List.append_cancel_left rest)
  cases x
  cases y
  simp_all

/-- No plain `double` of the result is a negative zero. -/
structure Signless (result : EpisodeResult) : Prop where
  summary : ∀ s ∈ result.summary, s.totalReward.Signless
  total : ∀ t ∈ result.trajectory, t.totalReward.Signless
  steps : ∀ t ∈ result.trajectory, ∀ step ∈ t.steps, step.reward.Signless

def bareStep (step : StepRecord) : StepRecord := { step with info := ∅ }

def bareTrajectory (t : Trajectory) : Trajectory := { t with steps := t.steps.map bareStep }

/-- The result without its maps. -/
def bareResult (result : EpisodeResult) : EpisodeResult :=
  { result with metadata := ∅, trajectory := result.trajectory.map bareTrajectory }

theorem encode_bareTrajectory (t : Trajectory) : (bareTrajectory t).encode = t.encode := by
  have steps : ((bareTrajectory t).steps.map fun step => message 1 (some step.encode)) =
      t.steps.map fun step => message 1 (some step.encode) := by
    unfold bareTrajectory
    rw [List.map_map]
    rfl
  unfold Trajectory.encode
  rw [steps]
  rfl

theorem encode_bareResult (result : EpisodeResult) :
    (bareResult result).encode = result.encode := by
  have trajectory : (bareResult result).trajectory.map Trajectory.encode =
      result.trajectory.map Trajectory.encode := by
    unfold bareResult
    rw [Option.map_map]
    exact congrArg (Option.map · result.trajectory) (funext encode_bareTrajectory)
  unfold EpisodeResult.encode
  rw [trajectory]
  rfl

theorem plain_bareResult {result : EpisodeResult} (signless : Signless result) :
    (bareResult result).Plain := by
  refine ⟨fun bare inside => ?_, signless.summary, rfl⟩
  obtain ⟨t, found, rfl⟩ := Option.map_eq_some_iff.mp inside
  refine ⟨fun bare listed => ?_, signless.total t found⟩
  obtain ⟨step, member, rfl⟩ := List.mem_map.mp listed
  exact ⟨rfl, signless.steps t found step member⟩

theorem bareStep_inj {a b : StepRecord} (bare : bareStep a = bareStep b) (info : a.info = b.info) :
    a = b := by
  cases a
  cases b
  simp_all [bareStep]

theorem bareSteps_inj {xs ys : List StepRecord} (bare : xs.map bareStep = ys.map bareStep)
    (infos : xs.map StepRecord.info = ys.map StepRecord.info) : xs = ys := by
  induction xs generalizing ys with
  | nil => exact (List.map_eq_nil_iff.mp bare.symm).symm
  | cons x xs ih =>
    cases ys with
    | nil => cases bare
    | cons =>
      obtain ⟨head, tail⟩ := List.cons.inj bare
      obtain ⟨info, later⟩ := List.cons.inj infos
      rw [bareStep_inj head info, ih tail later]

theorem eq_of_bareResult (bare : bareResult a = bareResult b) (metadata : a.metadata = b.metadata)
    (infos : stepInfo a = stepInfo b) : a = b := by
  have trajectories : a.trajectory.map bareTrajectory = b.trajectory.map bareTrajectory :=
    congrArg EpisodeResult.trajectory bare
  have trajectory : a.trajectory = b.trajectory := by
    unfold stepInfo at infos
    cases left : a.trajectory with
    | none =>
      rw [left] at trajectories
      exact (Option.map_eq_none_iff.mp trajectories.symm).symm
    | some t =>
      rw [left] at trajectories infos
      obtain ⟨u, right, same⟩ := Option.map_eq_some_iff.mp trajectories.symm
      rw [right] at infos
      have steps := bareSteps_inj (congrArg Trajectory.steps same) infos.symm
      cases t
      cases u
      simp_all [bareTrajectory]
  cases a
  cases b
  simp_all [bareResult]

theorem resultBytes_inj (signlessA : Signless a) (signlessB : Signless b)
    (fitsA : Fits (resultBytes a)) (fitsB : Fits (resultBytes b))
    (same : resultBytes a = resultBytes b) : a = b := by
  have marker : utf8 "\x00uenv-result-map-v1" = 0 :: utf8 "uenv-result-map-v1" := by
    decide +kernel
  have shape : ∀ result, resultBytes result = (bareResult result).encode ++
      (utf8 "\x00uenv-result-map-v1" ++ (appendSortedStringMap result.metadata ++
        (littleEndian 8 (stepInfo result).length ++
          ((stepInfo result).map appendSortedStringMap).flatten))) := by
    intro result
    unfold resultBytes
    rw [encode_bareResult]
    simp only [List.append_assoc]
    rfl
  rw [shape] at fitsA fitsB
  rw [shape, shape] at same
  obtain ⟨bare, rest⟩ := fields_result.inj _ _ _ _ (plain_bareResult signlessA)
    (plain_bareResult signlessB) fitsA.left fitsB.left (after_marker marker 25 _)
    (after_marker marker 25 _) same
  obtain ⟨metadata, rest⟩ := delimited_map _ _ _ _ trivial trivial fitsA.right.right.left
    fitsB.right.right.left (List.append_cancel_left rest)
  have infos := (delimited_counted delimited_map appendSortedStringMap_ne_nil).exact _ _ trivial
    trivial fitsA.right.right.right fitsB.right.right.right rest
  exact eq_of_bareResult bare metadata infos

/-- The checksums are exact: on inputs on which the digest does not collide, and in whatever order
the maps are iterated, they are equal if and only if the requests are up to what the server fills
in, and the results are. -/
theorem checksums_exact (sha256Hex : Bytes → String) (inputs : Set Bytes)
    (injective : Set.InjOn sha256Hex inputs) (memory : ∀ input ∈ inputs, input.length < 2 ^ 63) :
    (∀ (a b : EpisodeRequest) (entriesA entriesB : List (String × String)),
      Iterates entriesA (canonicalRequest a).metadata →
      Iterates entriesB (canonicalRequest b).metadata →
      requestBytesIn entriesA a ∈ inputs → requestBytesIn entriesB b ∈ inputs →
      (sha256Hex (requestBytesIn entriesA a) = sha256Hex (requestBytesIn entriesB b) ↔
        SameSubmission a b)) ∧
    (∀ (a b : EpisodeResult) (entriesA entriesB : List (String × String))
      (infosA infosB : List (List (String × String))), Signless a → Signless b →
      Iterates entriesA a.metadata → Iterates entriesB b.metadata →
      List.Forall₂ Iterates infosA (stepInfo a) → List.Forall₂ Iterates infosB (stepInfo b) →
      resultBytesIn entriesA infosA a ∈ inputs → resultBytesIn entriesB infosB b ∈ inputs →
      (sha256Hex (resultBytesIn entriesA infosA a) = sha256Hex (resultBytesIn entriesB infosB b) ↔
        a = b)) := by
  have fits : ∀ input ∈ inputs, Fits input := fun input member =>
    lt_trans (memory input member) (by decide)
  constructor
  · intro a b entriesA entriesB iteratesA iteratesB memberA memberB
    rw [requestBytesIn_eq iteratesA] at *
    rw [requestBytesIn_eq iteratesB] at *
    rw [← canonicalRequest_eq_iff]
    constructor
    · intro digests
      exact requestBytes_inj (fits _ memberA) (fits _ memberB) (injective memberA memberB digests)
    · intro canonical
      unfold requestBytes
      rw [canonical]
  · intro a b entriesA entriesB infosA infosB signlessA signlessB iteratesA iteratesB insideA
      insideB memberA memberB
    rw [resultBytesIn_eq iteratesA insideA] at *
    rw [resultBytesIn_eq iteratesB insideB] at *
    constructor
    · intro digests
      exact resultBytes_inj signlessA signlessB (fits _ memberA) (fits _ memberB)
        (injective memberA memberB digests)
    · rintro rfl
      rfl

/-- A request with all that the server fills in. -/
def submittedRequest : EpisodeRequest :=
  { episodeId := "e1", attemptId := 1, enqueueTs := some .zero, dispatchLeaseId := "l1"
    dispatchToken := [7], schedulerEpoch := 3, leaseExpireAt := some ⟨9, 0⟩
    metadata := .ofList [("z", "last"), ("a", "first"), ("dispatch_ts", "7")] }

/-- The same request without them. -/
def plainRequest : EpisodeRequest :=
  { episodeId := "e1", attemptId := 1, metadata := .ofList [("a", "first"), ("z", "last")] }

/-- A result of one step with a map. -/
def stepResult (status : String) : EpisodeResult :=
  { episodeId := "e1", status
    trajectory := some { steps := [{ info := .ofList [("y", "two"), ("b", "one")] }] } }

def hashedInputs : List Bytes :=
  [requestBytes plainRequest, resultBytes (stepResult "completed"),
    resultBytes (stepResult "failed")]

theorem reordered_checksums :
    Sha256.sha256Hex (requestBytesIn [("z", "last"), ("a", "first")] submittedRequest) =
        Sha256.sha256Hex (requestBytesIn [("a", "first"), ("z", "last")] plainRequest) ∧
      Sha256.sha256Hex (resultBytesIn [] [[("y", "two"), ("b", "one")]] (stepResult "completed")) ≠
        Sha256.sha256Hex
          (resultBytesIn [] [[("b", "one"), ("y", "two")]] (stepResult "failed")) := by
  have injective : ∀ a ∈ hashedInputs, ∀ b ∈ hashedInputs,
      Sha256.sha256Hex a = Sha256.sha256Hex b → a = b := by
    decide +kernel
  have memory : ∀ input ∈ hashedInputs, input.length < 2 ^ 63 := by decide +kernel
  have exact := checksums_exact Sha256.sha256Hex { input | input ∈ hashedInputs }
    (fun a memberA b memberB => injective a memberA b memberB) memory
  have signless : ∀ status, Signless (stepResult status) := by
    intro status
    refine ⟨fun s found => ?_, ?_, ?_⟩
    · cases found
    · intro t found
      cases found
      exact fun _ => rfl
    · intro t found step member
      cases found
      obtain rfl := List.mem_singleton.mp member
      exact fun _ => rfl
  have orderA : Iterates [("z", "last"), ("a", "first")]
      (canonicalRequest submittedRequest).metadata := by decide +kernel
  have orderB : Iterates [("a", "first"), ("z", "last")]
      (canonicalRequest plainRequest).metadata := by decide +kernel
  have none_ : Iterates [] (∅ : StringMap) := List.Perm.refl _
  have completed : List.Forall₂ Iterates [[("y", "two"), ("b", "one")]]
      (stepInfo (stepResult "completed")) := .cons (by decide +kernel) .nil
  have failed : List.Forall₂ Iterates [[("b", "one"), ("y", "two")]]
      (stepInfo (stepResult "failed")) := .cons (by decide +kernel) .nil
  constructor
  · refine (exact.1 submittedRequest plainRequest _ _ orderA orderB ?_ ?_).mpr ?_
    · rw [requestBytesIn_eq orderA]
      show requestBytes submittedRequest ∈ hashedInputs
      decide +kernel
    · rw [requestBytesIn_eq orderB]
      show requestBytes plainRequest ∈ hashedInputs
      decide +kernel
    · exact canonicalRequest_eq_iff.mp (by decide +kernel)
  · intro same
    have equal := (exact.2 (stepResult "completed") (stepResult "failed") _ _ _ _ (signless _)
      (signless _) none_ none_ completed failed ?_ ?_).mp same
    · exact absurd (congrArg EpisodeResult.status equal)
        (by decide : ("completed" : String) ≠ "failed")
    · rw [resultBytesIn_eq none_ completed]
      exact List.mem_cons_of_mem _ List.mem_cons_self
    · rw [resultBytesIn_eq none_ failed]
      exact List.mem_cons_of_mem _ (List.mem_cons_of_mem _ List.mem_cons_self)

end UEnv.Persistence
