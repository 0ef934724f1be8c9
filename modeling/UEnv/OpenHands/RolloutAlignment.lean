import Mathlib.Data.List.Forall2
import UEnv.OpenHands.RolloutTrace

/-!
# Alignment of the rollout trace

`finalize` checks that a choice has as many ids as log-probabilities. That they are those of the
same tokens depends on where the ids have been taken from.
-/

namespace UEnv.OpenHands.RolloutTrace

open Fallible

/-! ### Reading the records -/

section Readings

variable {F : Type} {py : Python F}

/-- Two parts that are not longer than their counterparts make the whole only if both agree. -/
theorem append_eq_append_iff_of_le {α : Type} {a b c d : List α} (left : a.length ≤ c.length)
    (right : b.length ≤ d.length) : a ++ b = c ++ d ↔ a = c ∧ b = d := by
  constructor
  · intro same
    have lengths := congrArg List.length same
    simp only [List.length_append] at lengths
    exact List.append_inj same (by omega)
  · rintro ⟨rfl, rfl⟩
    rfl

variable {record : Record F} {reading : Reading F} {tokens : List (Generated F)}
  {readings : List (Reading F)}

theorem readRecord_eq_some (read : readRecord py record = .ok (some reading)) :
    record.token = some reading.token ∧ py.number record.logprob = some (.ok reading.logprob) := by
  unfold readRecord at read
  split at read
  · next token value held number =>
    obtain ⟨logprob, rfl, parse⟩ := bind_eq_ok.mp read
    obtain ⟨id, parsed, made⟩ := bind_eq_ok.mp parse
    obtain rfl := Option.some.inj (Except.ok.inj made)
    exact ⟨held, number⟩
  · cases read

theorem Generated.logprob_of_read {token : Generated F} (recorded : token.record = some record)
    (read : readRecord py record = .ok (some reading)) :
    token.logprob py = some reading.logprob := by
  unfold Generated.logprob
  rw [recorded, Option.bind_some, (readRecord_eq_some read).2]

/-- A token and what the loop reads of it. -/
def ReadAs (py : Python F) (token : Generated F) (reading : Reading F) : Prop :=
  ∃ record, token.record = some record ∧ readRecord py record = .ok (some reading)

theorem readRecords_length (read : readRecords py (tokens.filterMap (·.record)) = .ok readings) :
    readings.length ≤ tokens.length ∧
      (readings.length = tokens.length → List.Forall₂ (ReadAs py) tokens readings) := by
  induction tokens generalizing readings with
  | nil =>
    cases read
    exact ⟨Nat.le_refl 0, fun _ => .nil⟩
  | cons token rest ih =>
    cases recorded : token.record with
    | none =>
      rw [List.filterMap_cons_none recorded] at read
      have shorter := (ih read).1
      rw [List.length_cons]
      exact ⟨by omega, fun same => by omega⟩
    | some record =>
      rw [List.filterMap_cons_some recorded] at read
      obtain ⟨reading, first, others⟩ := bind_eq_ok.mp read
      obtain ⟨later, following, joined⟩ := bind_eq_ok.mp others
      cases joined
      obtain ⟨shorter, tail⟩ := ih following
      cases reading with
      | none =>
        rw [List.length_cons]
        simp only [Option.toList_none, List.nil_append]
        exact ⟨by omega, fun same => by omega⟩
      | some =>
        simp only [Option.toList_some, List.singleton_append, List.length_cons]
        exact ⟨by omega, fun same => .cons ⟨record, recorded, first⟩ (tail (by omega))⟩

theorem readRecords_of_recorded (recorded : ∀ token ∈ tokens, token.Recorded py) :
    ∃ readings, readRecords py (tokens.filterMap (·.record)) = .ok readings ∧
      List.Forall₂ (ReadAs py) tokens readings := by
  induction tokens with
  | nil => exact ⟨[], rfl, .nil⟩
  | cons token rest ih =>
    rw [List.forall_mem_cons] at recorded
    obtain ⟨⟨record, reading, held, first⟩, rest⟩ := recorded
    obtain ⟨readings, read, tail⟩ := ih rest
    refine ⟨reading :: readings, ?_, .cons ⟨record, held, first⟩ tail⟩
    rw [List.filterMap_cons_some held, readRecords, first, ok_bind, read]
    rfl

section

variable (read : List.Forall₂ (ReadAs py) tokens readings)
include read

theorem ReadAs.recorded : ∀ token ∈ tokens, token.Recorded py := by
  induction read with
  | nil => exact fun token absent => absurd absent List.not_mem_nil
  | cons first _ ih =>
    obtain ⟨record, held, first⟩ := first
    exact List.forall_mem_cons.mpr ⟨⟨record, _, held, first⟩, ih⟩

theorem ReadAs.logprobs :
    (readings.map (·.logprob)).map some = tokens.map fun token => token.logprob py := by
  induction read with
  | nil => rfl
  | cons first _ ih =>
    obtain ⟨record, held, first⟩ := first
    rw [List.map_cons, List.map_cons, List.map_cons, ih, Generated.logprob_of_read held first]

theorem ReadAs.texts :
    (tokens.filterMap (·.record)).filterMap (·.token) = readings.map (·.token) := by
  induction read with
  | nil => rfl
  | cons first _ ih =>
    obtain ⟨record, held, first⟩ := first
    rw [List.filterMap_cons_some held, List.filterMap_cons_some (readRecord_eq_some first).1, ih,
      List.map_cons]

theorem ReadAs.complete_iff : (∀ record ∈ tokens.filterMap (·.record), ∃ reading id,
        readRecord py record = .ok (some reading) ∧ reading.id = some id) ↔
      ∃ ids : List Int, readings.map (·.id) = ids.map some := by
  induction read with
  | nil => exact iff_of_true (fun record absent => by cases absent) ⟨[], rfl⟩
  | cons first _ ih =>
    obtain ⟨record, held, first⟩ := first
    rw [List.filterMap_cons_some held, List.forall_mem_cons, ih]
    constructor
    · rintro ⟨⟨reading, id, again, known⟩, ids, rest⟩
      obtain rfl := Option.some.inj (Except.ok.inj (first.symm.trans again))
      exact ⟨id :: ids, by rw [List.map_cons, List.map_cons, known, rest]⟩
    · rintro ⟨ids, all⟩
      cases ids with
      | nil => cases all
      | cons id ids =>
        obtain ⟨known, rest⟩ := List.cons.inj all
        exact ⟨⟨_, id, first, known⟩, ids, rest⟩

theorem ReadAs.ids_iff : (∀ token ∈ tokens, ∀ record reading, token.record = some record →
        readRecord py record = .ok (some reading) → reading.id = some token.id) ↔
      readings.map (·.id) = (tokens.map (·.id)).map some := by
  induction read with
  | nil => exact iff_of_true (fun token absent => by cases absent) rfl
  | cons first _ ih =>
    obtain ⟨record, held, first⟩ := first
    rw [List.forall_mem_cons, ih, List.map_cons, List.map_cons, List.map_cons, List.cons.injEq]
    refine and_congr_left fun _ => ⟨fun known => known record _ held first, ?_⟩
    intro known record' reading' held' again
    obtain rfl := Option.some.inj (held.symm.trans held')
    obtain rfl := Option.some.inj (Except.ok.inj (first.symm.trans again))
    exact known

end

end Readings

/-! ### One choice -/

section Choices

variable {F : Type} {py : Python F} {collector : Collector}

variable {responseId finishReason : String} {explicit : Option IdList} {item : Item F} {index : Nat}
  {turn : Turn F} {tokenIds ids : List Int} {readings : List (Reading F)}
  {generation : Generation F}

theorem recordChoice_eq_ok {choice : Choice F} {item : Option (Item F)}
    (ran : recordChoice py responseId finishReason explicit choice = .ok item) :
    ∃ readings, readRecords py choice.records = .ok readings ∧
      (readings = [] ∧ explicit.getD [] = [] ∧ item = none ∨
        ∃ tokenIds, resolvedIds explicit readings = .ok tokenIds ∧ item = some
          { responseId
            text := choiceText py (readings.map (·.token)) choice.content
            tokens := readings.map (·.token)
            logprobs := readings.map (·.logprob)
            tokenIds
            finishReason }) := by
  obtain ⟨readings, read, ran⟩ := bind_eq_ok.mp ran
  refine ⟨readings, read, ?_⟩
  split at ran
  · next passed =>
    cases ran
    exact .inl ⟨passed.1, passed.2, rfl⟩
  · obtain ⟨tokenIds, resolved, made⟩ := bind_eq_ok.mp ran
    cases made
    exact .inr ⟨tokenIds, resolved, rfl⟩

theorem turn_eq_ok (ran : collector.turn index item = .ok turn) :
    collector.resolveTokenIds index item = .ok turn.responseIds ∧ turn.logprobs = item.logprobs ∧
      turn.logprobs ≠ [] ∧ turn.responseIds.length = turn.logprobs.length := by
  obtain ⟨tokenIds, resolved, ran⟩ := bind_eq_ok.mp ran
  split at ran
  · cases ran
  · next some =>
    split at ran
    · cases ran
    · next same =>
      cases ran
      exact ⟨resolved, rfl, some, not_ne_iff.mp same⟩

theorem resolveTokenIds_of_known {list : List Int} (known : item.tokenIds = some list)
    (some : list ≠ []) (ran : collector.resolveTokenIds index item = .ok tokenIds) :
    tokenIds = list := by
  unfold Collector.resolveTokenIds at ran
  rw [known] at ran
  cases list with
  | nil => exact absurd rfl some
  | cons =>
    dsimp only at ran
    split at ran
    · cases ran
    · exact (Except.ok.inj ran).symm

theorem resolveTokenIds_of_unknown (unknown : item.tokenIds = none)
    (ran : collector.resolveTokenIds index item = .ok tokenIds) :
    collector.tokenize index (tokenizedText item.text item.tokens) = .ok tokenIds := by
  unfold Collector.resolveTokenIds at ran
  rw [unknown] at ran
  obtain ⟨tokenIds', tokenized, later⟩ := bind_eq_ok.mp ran
  split at later
  · cases later
  · cases later
    exact tokenized

theorem all_known_iff :
    readings.all (·.id.isSome) = true ↔ ∃ ids : List Int, readings.map (·.id) = ids.map some := by
  induction readings with
  | nil => exact iff_of_true rfl ⟨[], rfl⟩
  | cons reading rest ih =>
    rw [List.all_cons, Bool.and_eq_true, ih, Option.isSome_iff_exists]
    constructor
    · rintro ⟨⟨id, known⟩, ids, each⟩
      exact ⟨id :: ids, by rw [List.map_cons, List.map_cons, known, each]⟩
    · rintro ⟨ids, each⟩
      cases ids with
      | nil => cases each
      | cons id ids =>
        obtain ⟨known, each⟩ := List.cons.inj each
        exact ⟨⟨id, known⟩, ids, each⟩

theorem known_ids (each : readings.map (·.id) = ids.map some) :
    readings.filterMap (·.id) = ids := by
  have joined : readings.filterMap (·.id) = (readings.map (·.id)).filterMap id := by
    rw [List.filterMap_map]
    rfl
  rw [joined, each, List.filterMap_map]
  exact List.filterMap_some

theorem mapM_id_iff {list : IdList} : (list.mapM fun id => id) = .ok ids ↔ list = ids.map .ok := by
  induction list generalizing ids with
  | nil =>
    cases ids with
    | nil => exact iff_of_true rfl rfl
    | cons => exact iff_of_false (fun ran => by cases ran) (fun same => by cases same)
  | cons first rest ih =>
    rw [List.mapM_cons, bind_eq_ok]
    constructor
    · rintro ⟨id, rfl, others⟩
      obtain ⟨tail, following, made⟩ := bind_eq_ok.mp others
      cases made
      rw [List.map_cons, ← ih.mp following]
    · intro same
      cases ids with
      | nil => cases same
      | cons id =>
        obtain ⟨head, tail⟩ := List.cons.inj same
        refine ⟨id, head, ?_⟩
        rw [ih.mpr tail]
        rfl

theorem resolvedIds_listed {id : Except String Int} {rest : IdList} {tokenIds : Option (List Int)}
    (resolved : resolvedIds (some (id :: rest)) readings = .ok tokenIds) :
    ∃ list, tokenIds = some list ∧ list ≠ [] ∧ id :: rest = list.map .ok := by
  rw [resolvedIds] at resolved
  cases converted : (id :: rest).mapM (fun id => id) with
  | error e =>
    rw [converted] at resolved
    cases resolved
  | ok list =>
    rw [converted] at resolved
    cases resolved
    have listed := mapM_id_iff.mp converted
    refine ⟨list, rfl, ?_, listed⟩
    rintro rfl
    cases listed

theorem resolvedIds_unlisted (unlisted : explicit.getD [] = []) (spoken : readings ≠ [])
    {tokenIds : Option (List Int)} (resolved : resolvedIds explicit readings = .ok tokenIds) :
    (∃ list, tokenIds = some list ∧ list ≠ [] ∧ readings.map (·.id) = list.map some) ∨
      tokenIds = none ∧ ¬∃ list : List Int, readings.map (·.id) = list.map some := by
  unfold resolvedIds at resolved
  split at resolved
  · cases unlisted
  · dsimp only at resolved
    rw [← all_known_iff]
    split at resolved
    · next known =>
      obtain ⟨list, each⟩ := all_known_iff.mp known.1
      cases resolved
      rw [known_ids each] at known ⊢
      exact .inl ⟨list, rfl, known.2.2, each⟩
    · next unknown =>
      refine .inr ⟨(Except.ok.inj resolved).symm, fun all => ?_⟩
      obtain ⟨list, each⟩ := all_known_iff.mp all
      have lengths := congrArg List.length each
      rw [List.length_map, List.length_map] at lengths
      refine unknown ⟨all, ?_, ?_⟩
      · rw [known_ids each, lengths]
      · rw [known_ids each]
        rintro rfl
        exact spoken (List.map_eq_nil_iff.mp each)

theorem identifies_iff (read : List.Forall₂ (ReadAs py) generation.generated readings)
    (spoken : readings ≠ []) (resolved : resolvedIds explicit readings = .ok item.tokenIds)
    (tokens : item.tokens = readings.map (·.token))
    (text : item.text = choiceText py (readings.map (·.token)) generation.content)
    (ran : collector.resolveTokenIds index item = .ok ids) :
    generation.Identified py collector index explicit ↔
      ids = generation.generated.map (·.id) := by
  unfold Generation.Identified
  split
  · next id rest =>
    obtain ⟨list, known, some, listed⟩ := resolvedIds_listed resolved
    rw [resolveTokenIds_of_known known some ran, listed]
    exact (List.map_injective_iff.mpr fun a b same => Except.ok.inj same).eq_iff
  · next unlisted =>
    have empty : explicit.getD [] = [] := by
      cases explicit with
      | none => rfl
      | some list =>
        cases list with
        | nil => rfl
        | cons id rest => exact absurd rfl (unlisted id rest)
    have complete : generation.Complete py ↔
        ∃ ids : List Int, readings.map (·.id) = ids.map some := by
      unfold Generation.Complete
      rw [generation.records_eq]
      exact ReadAs.complete_iff read
    rw [generation.records_eq, ReadAs.texts read, ReadAs.ids_iff read, complete]
    rcases resolvedIds_unlisted empty spoken resolved with ⟨list, known, some, each⟩ |
      ⟨unknown, incomplete⟩
    · rw [resolveTokenIds_of_known known some ran, each, forall_prop_of_true ⟨list, rfl⟩,
        (List.map_injective_iff.mpr fun a b same => Option.some.inj same).eq_iff]
      exact and_iff_left fun none => absurd ⟨list, rfl⟩ none
    · have tokenized := resolveTokenIds_of_unknown unknown ran
      rw [text, tokens] at tokenized
      dsimp only
      rw [tokenized, forall_prop_of_true incomplete, Except.ok.injEq]
      exact and_iff_right fun all => absurd all incomplete

/-- The ids of a turn and their log-probabilities. -/
def Turn.pairs (turn : Turn F) : List (Int × Option F) :=
  turn.responseIds.zip (turn.logprobs.map some)

theorem kept_iff
    (ran : recordChoice py responseId finishReason explicit generation.toChoice = .ok (some item))
    (turned : collector.turn index item = .ok turn) :
    generation.generated ≠ [] ∧ turn.pairs.length ≤ (generation.pairs py).length ∧
      (turn.pairs = generation.pairs py ↔ generation.Kept py collector index explicit) := by
  obtain ⟨readings, read, ⟨_, _, absent⟩ | ⟨tokenIds, resolved, made⟩⟩ := recordChoice_eq_ok ran
  · cases absent
  cases made
  obtain ⟨taken, logprobs, spoken, lengths⟩ := turn_eq_ok turned
  dsimp only at logprobs
  have several : readings ≠ [] := fun none => spoken (by rw [logprobs, none, List.map_nil])
  rw [generation.records_eq] at read
  obtain ⟨shorter, each⟩ := readRecords_length read
  have size : turn.pairs.length = readings.length := by
    rw [Turn.pairs, List.length_zip, List.length_map, lengths, Nat.min_self, logprobs,
      List.length_map]
  have size' : (generation.pairs py).length = generation.generated.length := List.length_map _
  refine ⟨fun none => ?_, by omega, fun same => ?_, fun ⟨recorded, identified⟩ => ?_⟩
  · rw [none, List.length_nil, Nat.le_zero] at shorter
    exact several (List.length_eq_zero_iff.mp shorter)
  · have each := each (by rw [← size, ← size', same])
    refine ⟨ReadAs.recorded each, ?_⟩
    refine (identifies_iff each several resolved rfl rfl taken).mpr ?_
    have ids := congrArg (List.map Prod.fst) same
    rw [Turn.pairs, List.map_fst_zip (Nat.le_of_eq (by rw [List.length_map, lengths])),
      Generation.pairs, List.map_map] at ids
    exact ids
  · obtain ⟨readings', read', each⟩ := readRecords_of_recorded recorded
    obtain rfl := Except.ok.inj (read.symm.trans read')
    have ids := (identifies_iff each several resolved rfl rfl taken).mp identified
    rw [Turn.pairs, ids, logprobs, ReadAs.logprobs each, List.zip_map']
    rfl

end Choices

/-! ### Runs -/

section Runs

variable {F : Type} {py : Python F} {collector : Collector}

variable {index : Nat} {turns : List (Turn F)} {generations rest : List (Generation F)}
  {generation : Generation F} {explicit : Option IdList} {responseId finishReason e : String}
  {items : List (Item F)}

theorem turns_append {before after : List (Item F)}
    (ran : collector.turns index (before ++ after) = .ok turns) :
    ∃ first second, collector.turns index before = .ok first ∧
      collector.turns (index + before.length) after = .ok second ∧ turns = first ++ second := by
  induction before generalizing index turns with
  | nil => exact ⟨[], turns, rfl, ran, rfl⟩
  | cons item rest ih =>
    obtain ⟨turn, head, ran⟩ := bind_eq_ok.mp ran
    obtain ⟨tail, following, made⟩ := bind_eq_ok.mp ran
    cases made
    obtain ⟨first, second, left, right, rfl⟩ := ih following
    refine ⟨turn :: first, second, ?_, ?_, rfl⟩
    · rw [Collector.turns, head, ok_bind, left]
      rfl
    · rw [List.length_cons, Nat.add_comm rest.length, ← Nat.add_assoc]
      exact right

theorem inForce_listed {ids : IdList} {choice : Option IdList × Generation F}
    (listed : choice ∈ inForce (some ids) generations) : choice.1 = some ids := by
  induction generations with
  | nil => cases listed
  | cons generation rest ih =>
    rcases List.mem_cons.mp listed with rfl | listed
    · rfl
    · exact ih listed

/-- `record` does not raise at a choice that is kept aligned. -/
theorem recordChoice_of_kept (responseId finishReason : String)
    (kept : generation.Kept py collector index explicit) :
    ∃ item, recordChoice py responseId finishReason explicit generation.toChoice = .ok item := by
  obtain ⟨recorded, identified⟩ := kept
  obtain ⟨readings, read, _⟩ := readRecords_of_recorded recorded
  rw [← generation.records_eq] at read
  rw [recordChoice, read, ok_bind]
  split
  · exact ⟨none, rfl⟩
  · unfold resolvedIds
    unfold Generation.Identified at identified
    split at identified
    · next id ids =>
      rw [mapM_id_iff.mpr identified]
      exact ⟨_, rfl⟩
    · next unlisted =>
      dsimp only
      split
      · exact ⟨_, rfl⟩
      · exact ⟨_, rfl⟩

theorem generating_eq_nil :
    generating (inForce explicit generations) = [] ↔ generations.flatMap (·.pairs py) = [] := by
  induction generations generalizing explicit with
  | nil => exact iff_of_true rfl rfl
  | cons generation rest ih =>
    rw [inForce, generating, List.filter_cons, List.flatMap_cons, List.append_eq_nil_iff,
      ← @ih (generation.explicitIds explicit), Generation.pairs, List.map_eq_nil_iff]
    cases generation.generated with
    | nil => exact (and_iff_right rfl).symm
    | cons =>
      refine iff_of_false (fun none => ?_) (fun none => ?_)
      · cases none
      · cases none.1

theorem generating_cons_of_nil (none : generation.generated = []) :
    generating (inForce explicit (generation :: rest)) =
      generating (inForce (generation.explicitIds explicit) rest) := by
  rw [inForce, generating, List.filter_cons, if_neg (by rw [none]; exact Bool.false_ne_true)]
  rfl

theorem generating_cons (spoken : generation.generated ≠ []) :
    generating (inForce explicit (generation :: rest)) =
      (generation.explicitIds explicit, generation) ::
        generating (inForce (generation.explicitIds explicit) rest) := by
  rw [inForce, generating, List.filter_cons, if_pos (by simpa using spoken)]
  rfl

theorem unconverted_of_raised (none : generation.generated = [])
    (raised : recordChoice py responseId finishReason explicit generation.toChoice = .error e) :
    ∃ id ids, explicit = some (id :: ids) ∧ ∀ list : List Int, id :: ids ≠ list.map .ok := by
  have read : readRecords py generation.records = .ok [] := by
    rw [generation.records_eq, none]
    rfl
  rw [recordChoice, read, ok_bind] at raised
  split at raised
  · cases raised
  · next listed =>
    cases explicit with
    | none => exact absurd ⟨rfl, rfl⟩ listed
    | some list =>
      cases list with
      | nil => exact absurd ⟨rfl, rfl⟩ listed
      | cons id ids =>
        refine ⟨id, ids, rfl, fun list same => ?_⟩
        rw [resolvedIds, mapM_id_iff.mpr same] at raised
        cases raised

/-- After an exception nothing is left to be recorded, if every choice is kept aligned. -/
theorem generating_of_raised
    (raised : recordChoice py responseId finishReason (generation.explicitIds explicit)
      generation.toChoice = .error e)
    (kept : ∀ p ∈ (generating (inForce explicit (generation :: rest))).zipIdx index,
      p.1.2.Kept py collector p.2 p.1.1) :
    generating (inForce explicit (generation :: rest)) = [] := by
  have failed : ∀ item, recordChoice py responseId finishReason
      (generation.explicitIds explicit) generation.toChoice ≠ .ok item := by
    rw [raised]
    exact fun item same => by cases same
  by_cases none : generation.generated = []
  · rw [generating_cons_of_nil none] at kept ⊢
    obtain ⟨id, ids, listed, unconverted⟩ := unconverted_of_raised none raised
    rw [listed] at kept ⊢
    cases later : generating (inForce (some (id :: ids)) rest) with
    | nil => rfl
    | cons choice =>
      have held : choice ∈ generating (inForce (some (id :: ids)) rest) :=
        later ▸ List.mem_cons_self
      rw [later, List.zipIdx_cons, List.forall_mem_cons] at kept
      have identified := kept.1.2
      rw [inForce_listed (List.mem_of_mem_filter held)] at identified
      exact absurd identified (unconverted _)
  · rw [generating_cons none, List.zipIdx_cons, List.forall_mem_cons] at kept
    obtain ⟨item, ran⟩ := recordChoice_of_kept responseId finishReason kept.1
    exact absurd ran (failed item)

theorem choices_aligned
    (ran : collector.turns index (recordChoices py responseId finishReason explicit
      (generations.map (·.toChoice))).1 = .ok turns) :
    (turns.flatMap Turn.pairs).length ≤ (generations.flatMap (·.pairs py)).length ∧
      (turns.flatMap Turn.pairs = generations.flatMap (·.pairs py) ↔
        ∀ p ∈ (generating (inForce explicit generations)).zipIdx index,
          p.1.2.Kept py collector p.2 p.1.1) ∧
      (turns.flatMap Turn.pairs = generations.flatMap (·.pairs py) →
        (recordChoices py responseId finishReason explicit
          (generations.map (·.toChoice))).1.length =
            (generating (inForce explicit generations)).length) := by
  induction generations generalizing finishReason explicit index turns with
  | nil =>
    cases ran
    exact ⟨Nat.le_refl 0, iff_of_true rfl (fun p absent => by cases absent), fun _ => rfl⟩
  | cons generation rest ih =>
    rw [List.map_cons, recordChoices] at ran ⊢
    dsimp only at ran ⊢
    cases stepped : recordChoice py responseId
        (if generation.finishReason = "" then finishReason else generation.finishReason)
        (generation.explicitIds explicit) generation.toChoice with
    | error e =>
      rw [stepped] at ran
      cases ran
      refine ⟨Nat.zero_le _, ⟨fun same => ?_, fun kept => ?_⟩, fun same => ?_⟩
      · rw [generating_eq_nil.mpr same.symm]
        exact fun p absent => by cases absent
      · exact (generating_eq_nil.mp (generating_of_raised stepped kept)).symm
      · rw [generating_eq_nil.mpr same.symm]
        rfl
    | ok item =>
      rw [stepped] at ran
      dsimp only at ran ⊢
      cases item with
      | none =>
        obtain ⟨readings, read, ⟨rfl, _, _⟩ | ⟨_, _, made⟩⟩ := recordChoice_eq_ok stepped
        swap
        · cases made
        rw [Option.toList_none, List.nil_append] at ran ⊢
        obtain ⟨shorter, others, count⟩ := ih ran
        rw [List.flatMap_cons]
        by_cases silent : generation.generated = []
        · have pairs : generation.pairs py = [] := by
            rw [Generation.pairs, silent, List.map_nil]
          rw [generating_cons_of_nil silent, pairs, List.nil_append]
          exact ⟨shorter, others, count⟩
        · have size : 0 < (generation.pairs py).length := by
            rw [Generation.pairs, List.length_map]
            exact List.length_pos_iff.mpr silent
          have differ : turns.flatMap Turn.pairs ≠
              generation.pairs py ++ rest.flatMap (·.pairs py) := by
            intro same
            have lengths := congrArg List.length same
            rw [List.length_append] at lengths
            omega
          rw [List.length_append, generating_cons silent, List.zipIdx_cons, List.forall_mem_cons]
          refine ⟨by omega, iff_of_false differ ?_, fun same => absurd same differ⟩
          rintro ⟨⟨recorded, _⟩, _⟩
          obtain ⟨readings, read', each⟩ := readRecords_of_recorded recorded
          rw [generation.records_eq] at read
          obtain rfl := Except.ok.inj (read.symm.trans read')
          exact silent (List.forall₂_nil_right_iff.mp each)
      | some =>
        rw [Option.toList_some, List.singleton_append] at ran ⊢
        obtain ⟨turn, turned, later⟩ := bind_eq_ok.mp ran
        obtain ⟨turns, following, made⟩ := bind_eq_ok.mp later
        cases made
        obtain ⟨spoken, shorter, first⟩ := kept_iff stepped turned
        obtain ⟨shorter', others, count⟩ := ih following
        rw [generating_cons spoken, List.flatMap_cons, List.flatMap_cons, List.zipIdx_cons,
          List.forall_mem_cons, append_eq_append_iff_of_le shorter shorter', List.length_append,
          List.length_append, first, others]
        refine ⟨by omega, Iff.rfl, fun kept => ?_⟩
        rw [List.length_cons, List.length_cons, count (others.mpr kept.2)]

theorem recordAll_append (items : List (Item F)) (responses : List (Response F)) :
    responses.foldl (fun items response => (record py items response).1) items =
      items ++ recordAll py responses := by
  induction responses generalizing items with
  | nil => exact (List.append_nil items).symm
  | cons response rest ih =>
    rw [recordAll, List.foldl_cons, List.foldl_cons, ih, ih (record py [] response).1,
      ← List.append_assoc]
    rfl

/-- The calls of `record` in a run. -/
theorem run_aligned {completions : List (Completion F)}
    (ran : collector.turns index (recordAll py (completions.map (·.response))) = .ok turns) :
    (turns.flatMap Turn.pairs).length ≤
        (completions.flatMap fun completion => completion.generations.flatMap (·.pairs py)).length ∧
      (turns.flatMap Turn.pairs =
          completions.flatMap (fun completion => completion.generations.flatMap (·.pairs py)) ↔
        ∀ p ∈ (generating (completions.flatMap (·.inForce))).zipIdx index,
          p.1.2.Kept py collector p.2 p.1.1) := by
  induction completions generalizing index turns with
  | nil =>
    cases ran
    exact ⟨Nat.le_refl 0, iff_of_true rfl fun p absent => by cases absent⟩
  | cons completion rest ih =>
    rw [List.map_cons, recordAll, List.foldl_cons, recordAll_append] at ran
    obtain ⟨first, second, left, right, rfl⟩ := turns_append ran
    obtain ⟨shorter, head, count⟩ := choices_aligned left
    obtain ⟨shorter', tail⟩ := ih right
    rw [List.flatMap_append, List.flatMap_cons, List.length_append, List.length_append,
      append_eq_append_iff_of_le shorter shorter', List.flatMap_cons, generating,
      List.filter_append, List.zipIdx_append, List.forall_mem_append]
    refine ⟨by omega, ?_⟩
    constructor
    · rintro ⟨kept, later⟩
      refine ⟨head.mp kept, ?_⟩
      have later := tail.mp later
      rw [show (record py [] completion.response).1.length = _ from count kept] at later
      exact later
    · rintro ⟨kept, later⟩
      have first := head.mpr kept
      refine ⟨first, tail.mpr ?_⟩
      rw [show (record py [] completion.response).1.length = _ from count first]
      exact later

theorem turns_zip (ran : collector.turns index items = .ok turns) :
    (turns.flatMap (·.responseIds)).length = (turns.flatMap (·.logprobs)).length ∧
      (turns.flatMap (·.responseIds)).zip ((turns.flatMap (·.logprobs)).map some) =
        turns.flatMap Turn.pairs := by
  induction items generalizing index turns with
  | nil =>
    cases ran
    exact ⟨rfl, rfl⟩
  | cons item rest ih =>
    obtain ⟨turn, head, later⟩ := bind_eq_ok.mp ran
    obtain ⟨turns, following, made⟩ := bind_eq_ok.mp later
    cases made
    obtain ⟨_, _, _, lengths⟩ := turn_eq_ok head
    obtain ⟨same, zipped⟩ := ih following
    simp only [List.flatMap_cons, List.length_append, List.map_append]
    rw [List.zip_append (by rw [lengths, List.length_map]), zipped, same, lengths]
    exact ⟨rfl, rfl⟩

theorem finalize_eq_ok {trace : Trace F} (ran : collector.finalize items = .ok trace) :
    ∃ turns, collector.turns 0 items = .ok turns ∧
      trace.responseIds = turns.flatMap (·.responseIds) ∧
      trace.responseMask = List.replicate trace.responseIds.length 1 ∧
      trace.rolloutLogProbs = turns.flatMap (·.logprobs) := by
  unfold Collector.finalize at ran
  split at ran
  · cases ran
  · obtain ⟨turns, turned, later⟩ := bind_eq_ok.mp ran
    dsimp only at later
    split at later
    · cases later
    · cases later
      exact ⟨turns, turned, rfl, rfl, rfl⟩

/-- The trace of a run is aligned exactly if, at every choice that tokens have been generated for,
every token has a record with a log-probability, and the place that the ids are taken from has those
of the choice. -/
theorem trace_aligned_iff (completions : List (Completion F)) (trace : Trace F)
    (ran : collector.finalize (recordAll py (completions.map (·.response))) = .ok trace) :
    trace.Aligned py completions ↔ ∀ p ∈ (generating (completions.flatMap (·.inForce))).zipIdx,
        p.1.2.Kept py collector p.2 p.1.1 := by
  obtain ⟨turns, turned, ids, mask, logprobs⟩ := finalize_eq_ok ran
  obtain ⟨lengths, zipped⟩ := turns_zip turned
  rw [← (run_aligned turned).2, ← zipped, ← ids, ← logprobs]
  refine ⟨fun aligned => aligned.tokens, fun tokens => ⟨?_, ?_, tokens⟩⟩
  · rw [mask, List.length_replicate]
  · rw [ids, logprobs, lengths]

end Runs

/-! ### Two choices with ids of their own -/

section Samples

/-- Texts that are neither digits nor ids. -/
def plainPython : Python Int :=
  { float := .ok
    digits := fun _ => none
    tokenId := fun _ => none }

def openaiCollector : Collector :=
  { model := "model"
    provider := .openai
    tokenizers :=
      { ark := fun _ _ => .error "unreachable"
        openai := fun _ _ => .ok none
        hf := fun _ _ => .error "no tokenizer" } }

/-- A choice whose list has the ids of its tokens. -/
def listedChoice (tokens : List (Int × String × Int)) : Generation Int :=
  let generated := tokens.map fun (id, token, logprob) =>
    { id, record := some { token := some token, logprob := .float logprob, tokenId := .other,
                           id := .other } }
  { finishReason := "stop"
    tokenIds := .list (tokens.map fun token => .ok token.1)
    outputTokenIds := .other false
    records := generated.filterMap (·.record)
    content := .other
    generated
    records_eq := rfl }

def completionOf (generations : List (Generation Int)) : Completion Int :=
  { id := "response"
    uenvResponseIds := .other false
    generations }

theorem trace_aligned_one : ∃ trace, openaiCollector.finalize (recordAll plainPython
        [(completionOf [listedChoice [(1, "a", -3), (2, "b", -5)]]).response]) = .ok trace ∧
      trace.Aligned plainPython [completionOf [listedChoice [(1, "a", -3), (2, "b", -5)]]] := by
  refine ⟨_, rfl, (trace_aligned_iff [completionOf [listedChoice [(1, "a", -3), (2, "b", -5)]]] _
    rfl).mpr fun p held => ?_⟩
  obtain rfl := List.mem_singleton.mp held
  refine ⟨List.forall_mem_cons.mpr ⟨⟨_, _, rfl, rfl⟩, ?_⟩, rfl⟩
  exact List.forall_mem_singleton.mpr ⟨_, _, rfl, rfl⟩

/-- The list of the first choice is taken for the second one too. -/
theorem secondChoice_misaligned : ∃ trace, openaiCollector.finalize (recordAll plainPython
        [(completionOf [listedChoice [(1, "a", -3), (2, "b", -5)],
          listedChoice [(3, "c", -1), (4, "d", -2)]]).response]) = .ok trace ∧
      trace.responseIds = [1, 2, 1, 2] ∧
      ¬trace.Aligned plainPython [completionOf [listedChoice [(1, "a", -3), (2, "b", -5)],
        listedChoice [(3, "c", -1), (4, "d", -2)]]] := by
  refine ⟨_, rfl, rfl, fun aligned => ?_⟩
  have tokens : ([1, 2, 1, 2] : List Int) = [1, 2, 3, 4] :=
    congrArg (List.map Prod.fst) aligned.tokens
  exact absurd tokens (by decide)

end Samples

end UEnv.OpenHands.RolloutTrace
