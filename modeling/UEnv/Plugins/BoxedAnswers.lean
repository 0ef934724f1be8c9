import UEnv.Lib.Braces
import UEnv.Lib.Panics

/-!
# Boxed answers

`extract_boxed` of the OlymMATH backend: a scan over the bytes of a text for the last `\boxed{…}`.
-/

namespace UEnv.Plugins.BoxedAnswers

open Braces Panics Text

/-! ### The scan -/

/-- `as_bytes`. -/
def bytesOf (text : List Char) : List UInt8 := text.flatMap String.utf8EncodeChar

/-- The command. -/
def boxed : List Char := "boxed".toList

/-- `NEEDLE`. -/
def needle : List UInt8 := bytesOf (opening boxed)

/-- The inner loop: the place of the closing brace among the bytes from `j` on, with the byte before
them. -/
def closeFrom (before : UInt8) (j depth : Nat) : List UInt8 → Option Nat
  | [] => none
  | b :: rest =>
    if b = 123 ∧ before ≠ 92 then closeFrom b (j + 1) (depth + 1) rest
    else if b = 125 ∧ before ≠ 92 then
      if depth - 1 = 0 then some j else closeFrom b (j + 1) (depth - 1) rest
    else closeFrom b (j + 1) depth rest

/-- The outer loop. -/
def scan (text : List Char) : Nat → Nat → Option (List Char) → Run (Option (List Char))
  | 0, _, _ => .error .fuel
  | fuel + 1, i, last =>
    let bytes := bytesOf text
    if i + needle.length ≤ bytes.length then
      if needle.isPrefixOf (bytes.drop i) ∧ (i = 0 ∨ bytes[i - 1]? ≠ some 92) then
        let start := i + needle.length
        match closeFrom (bytes.getD (start - 1) 0) start 1 (bytes.drop start) with
        | some j => (orPanic (slice start j text)).bind fun content =>
          scan text fuel (j + 1) (some content)
        | none => scan text fuel start last
      else scan text fuel (i + 1) last
    else .ok last

/-- `extract_boxed` (olymmath/scoring.rs, 8-46). -/
def extractBoxed (text : List Char) : Run (Option (List Char)) :=
  scan text ((bytesOf text).length + 1) 0 none

/-! ### Bytes of characters -/

theorem bytesOf_cons (c : Char) (text : List Char) :
    bytesOf (c :: text) = String.utf8EncodeChar c ++ bytesOf text := rfl

theorem bytesOf_append (text rest : List Char) :
    bytesOf (text ++ rest) = bytesOf text ++ bytesOf rest := List.flatMap_append

theorem length_bytesOf (text : List Char) : (bytesOf text).length = byteLength text := by
  induction text with
  | nil => rfl
  | cons c text ih =>
    rw [bytesOf_cons, List.length_append, String.length_utf8EncodeChar, ih, byteLength_cons]

variable {c : Char} {before : List Char}

theorem high_of_wide (wide : c.utf8Size ≠ 1) : ∀ b ∈ String.utf8EncodeChar c, 128 ≤ b.toNat := by
  have large : ¬ c.val.toNat ≤ 127 := by
    intro small
    apply wide
    rw [← String.length_utf8EncodeChar, String.utf8EncodeChar, if_pos small]
    rfl
  unfold String.utf8EncodeChar
  dsimp only
  rw [if_neg large]
  intro b here
  split at here
  · simp only [List.mem_cons, List.not_mem_nil, or_false] at here
    rcases here with rfl | rfl <;> simp <;> omega
  · split at here
    · simp only [List.mem_cons, List.not_mem_nil, or_false] at here
      rcases here with rfl | rfl | rfl <;> simp <;> omega
    · simp only [List.mem_cons, List.not_mem_nil, or_false] at here
      rcases here with rfl | rfl | rfl | rfl <;> simp <;> omega

theorem bytesOf_ascii (narrow : c.utf8Size = 1) :
    ∃ b : UInt8, String.utf8EncodeChar c = [b] ∧ b.toNat = c.toNat ∧ b.toNat ≤ 127 := by
  have small : c.val.toNat ≤ 127 := by
    by_contra large
    have length := String.length_utf8EncodeChar c
    rw [narrow, String.utf8EncodeChar, if_neg large] at length
    split at length
    · cases length
    · split at length <;> cases length
  have code : (UInt8.ofNat c.val.toNat).toNat = c.toNat := by
    rw [UInt8.toNat_ofNat', Nat.mod_eq_of_lt (by omega)]
    rfl
  exact ⟨UInt8.ofNat c.val.toNat, if_pos small, code, code ▸ small⟩

theorem byte_eq_iff {b k : UInt8} {d : Char} (same : b.toNat = c.toNat) (code : k.toNat = d.toNat) :
    b = k ↔ c = d := by
  rw [← UInt8.toNat_inj, ← Char.toNat_inj, same, code]

/-! ### The closing brace -/

/-- The rule of the scan: a backslash escapes what comes after it, whatever stands before it. -/
def anySlash (_ : Bool) (c : Char) : Bool := c == '\\'

theorem closeFrom_high {bytes : List UInt8} (high : ∀ b ∈ bytes, 128 ≤ b.toNat) (before : UInt8)
    (j depth : Nat) (rest : List UInt8) : closeFrom before j depth (bytes ++ rest) =
      closeFrom (bytes.getLast?.getD before) (j + bytes.length) depth rest := by
  induction bytes generalizing before j with
  | nil => rfl
  | cons b bytes ih =>
    have above := high b (.head _)
    have opens : b ≠ 123 := by
      rintro rfl
      exact absurd above (by decide)
    have closes : b ≠ 125 := by
      rintro rfl
      exact absurd above (by decide)
    rw [List.cons_append, closeFrom, if_neg fun both => opens both.1,
      if_neg fun both => closes both.1, ih fun b' here => high b' (.tail _ here)]
    congr 1
    · cases bytes <;> simp [List.getLast?_cons]
    · rw [List.length_cons]
      omega

theorem closeFrom_eq (text : List Char) {before : UInt8} {escaped : Bool}
    (state : before = 92 ↔ escaped = true) (j depth : Nat) :
    closeFrom before j (depth + 1) (bytesOf text) =
      (close anySlash depth escaped text).map fun cut => j + byteLength cut.1 := by
  induction text generalizing before escaped j depth with
  | nil => rfl
  | cons c text ih =>
    have active : escaped = false ↔ before ≠ 92 := by
      rw [← Bool.not_eq_true, ← state]
    have longer : ∀ (size depth : Nat) (escaped : Bool), c.utf8Size = size →
        ((close anySlash depth escaped text).map fun cut => j + size + byteLength cut.1) =
          ((close anySlash depth escaped text).map fun cut => (c :: cut.1, cut.2)).map
            fun cut => j + byteLength cut.1 := by
      rintro size depth escaped rfl
      simp only [Option.map_map, Function.comp_def, byteLength_cons, Nat.add_assoc]
    rw [bytesOf_cons, close]
    by_cases narrow : c.utf8Size = 1
    · obtain ⟨b, bytes, code, -⟩ := bytesOf_ascii narrow
      have opens : b = 123 ↔ c = '{' := byte_eq_iff code rfl
      have closes : b = 125 ↔ c = '}' := byte_eq_iff code rfl
      have slash : b = 92 ↔ anySlash escaped c = true := by
        rw [anySlash, beq_iff_eq]
        exact byte_eq_iff code rfl
      rw [bytes, List.singleton_append, closeFrom]
      simp only [opens, closes, active]
      split
      · rw [ih slash, longer 1 _ _ narrow]
      · split
        · cases depth with
          | zero => simp
          | succ depth =>
            rw [if_neg (by omega), if_neg (by omega), ← longer 1 _ _ narrow]
            exact ih slash (j + 1) depth
        · rw [ih slash, longer 1 _ _ narrow]
    · have high := high_of_wide narrow
      have opens : c ≠ '{' := by
        rintro rfl
        exact narrow rfl
      have closes : c ≠ '}' := by
        rintro rfl
        exact narrow rfl
      have slash : c ≠ '\\' := by
        rintro rfl
        exact narrow rfl
      have positive := c.utf8Size_pos
      obtain ⟨last, found⟩ : ∃ last, (String.utf8EncodeChar c).getLast? = some last := by
        rw [← Option.isSome_iff_exists, List.getLast?_isSome, ← List.length_pos_iff,
          String.length_utf8EncodeChar]
        exact positive
      have state' : last = 92 ↔ anySlash escaped c = true := by
        refine iff_of_false ?_ (by simpa [anySlash] using slash)
        rintro rfl
        exact absurd (high _ (List.mem_of_getLast? found)) (by decide)
      rw [closeFrom_high high, found, Option.getD_some, String.length_utf8EncodeChar,
        if_neg fun both => opens both.1, if_neg fun both => closes both.1, ih state',
        longer _ _ _ rfl]

/-! ### The command -/

theorem bytesOf_prefix_iff {command : List Char} (narrow : ∀ c ∈ command, c.utf8Size = 1)
    (text : List Char) : bytesOf command <+: bytesOf text ↔ command <+: text := by
  induction command generalizing text with
  | nil => simp [bytesOf]
  | cons c command ih =>
    obtain ⟨b, bytes, code, below⟩ := bytesOf_ascii (narrow c (.head _))
    rw [bytesOf_cons, bytes, List.singleton_append]
    cases text with
    | nil => simp [bytesOf]
    | cons d =>
      rw [bytesOf_cons, List.cons_prefix_cons]
      by_cases narrow' : d.utf8Size = 1
      · obtain ⟨b', bytes', code', -⟩ := bytesOf_ascii narrow'
        rw [bytes', List.singleton_append, List.cons_prefix_cons, byte_eq_iff code code',
          ih fun e here => narrow e (.tail _ here)]
      · refine iff_of_false ?_ ?_
        · rintro ⟨tail, same⟩
          have here : b ∈ String.utf8EncodeChar d := by
            have first : (String.utf8EncodeChar d).head? = some b := by
              have heads := congrArg List.head? same
              rw [List.cons_append, List.head?_cons, List.head?_append_of_ne_nil] at heads
              · exact heads.symm
              · rw [← List.length_pos_iff, String.length_utf8EncodeChar]
                exact d.utf8Size_pos
            exact List.mem_of_head? first
          have above := high_of_wide narrow' b here
          omega
        · rintro ⟨rfl, -⟩
          exact narrow' (narrow c (.head _))

theorem opening_narrow : ∀ c ∈ opening boxed, c.utf8Size = 1 := by
  have all : (opening boxed).all (fun c => c.utf8Size == 1) = true := by decide +kernel
  exact fun c here => beq_iff_eq.mp (List.all_eq_true.mp all c here)

theorem needle_head : needle.head? = some 92 := by decide +kernel

theorem needle_last : needle.getLast? = some 123 := by decide +kernel

theorem needle_length : needle.length = byteLength (opening boxed) := length_bytesOf _

theorem byteLength_opening : byteLength (opening boxed) = 7 := by decide +kernel

theorem getLast?_bytesOf (before : List Char) :
    (bytesOf before).getLast? = some 92 ↔ before.foldl anySlash false = true := by
  induction before using List.reverseRecOn with
  | nil => simp [bytesOf]
  | append_singleton before c ih =>
    have last : bytesOf (before ++ [c]) = bytesOf before ++ String.utf8EncodeChar c := by
      simp [bytesOf]
    rw [List.foldl_append, last, List.foldl_cons, List.foldl_nil, anySlash, beq_iff_eq]
    by_cases narrow : c.utf8Size = 1
    · obtain ⟨b, bytes, code, -⟩ := bytesOf_ascii narrow
      rw [bytes, List.getLast?_concat, Option.some.injEq]
      exact byte_eq_iff code rfl
    · refine iff_of_false (fun found => ?_) ?_
      · rw [List.getLast?_append_of_ne_nil] at found
        · exact absurd (high_of_wide narrow _ (List.mem_of_getLast? found)) (by decide)
        · rw [← List.length_pos_iff, String.length_utf8EncodeChar]
          exact c.utf8Size_pos
      · rintro rfl
        exact narrow rfl

theorem byte_before_iff (before rest : List Char) :
    (byteLength before = 0 ∨ (bytesOf (before ++ rest))[byteLength before - 1]? ≠ some 92) ↔
      before.foldl anySlash false = false := by
  rw [← Bool.not_eq_true, ← getLast?_bytesOf, bytesOf_append, ← length_bytesOf]
  cases empty : bytesOf before with
  | nil => simp
  | cons =>
    rw [List.getElem?_append_left (by simp), List.getLast?_eq_getElem?]
    simp

theorem scan_skip (text : List Char) (fuel : Nat) (last : Option (List Char)) :
    ∀ (count i : Nat), (∀ k < count, ¬ (needle.isPrefixOf ((bytesOf text).drop (i + k)) ∧
        (i + k = 0 ∨ (bytesOf text)[i + k - 1]? ≠ some 92))) →
      scan text (fuel + 1 + count) i last = scan text (fuel + 1) (i + count) last := by
  intro count
  induction count with
  | zero => exact fun i _ => rfl
  | succ count ih =>
    intro i absent
    have here := absent 0 (Nat.succ_pos _)
    rw [Nat.add_zero] at here
    rw [show fuel + 1 + (count + 1) = (fuel + 1 + count) + 1 by omega, scan]
    dsimp only
    rw [if_neg here]
    split
    · rw [ih (i + 1)]
      · congr 1
        omega
      · intro k below
        have later := absent (k + 1) (by omega)
        rwa [show i + (k + 1) = i + 1 + k by omega] at later
    · rename_i ended
      rw [scan]
      dsimp only
      rw [if_neg (by omega)]

theorem not_needle_within {rest : List Char} {k : Nat} (inside : 0 < k) (below : k < c.utf8Size) :
    ¬ needle.isPrefixOf ((bytesOf (before ++ c :: rest)).drop (byteLength before + k)) := by
  intro starts
  have wide : c.utf8Size ≠ 1 := by omega
  have length := String.length_utf8EncodeChar c
  obtain ⟨later, same⟩ := List.isPrefixOf_iff_prefix.mp starts
  have slash : (bytesOf (before ++ c :: rest))[byteLength before + k]? = some 92 := by
    rw [← List.head?_drop, ← same, List.head?_append, needle_head]
    rfl
  rw [bytesOf_append, ← length_bytesOf, List.getElem?_append_right (by omega),
    Nat.add_sub_cancel_left, bytesOf_cons, List.getElem?_append_left (by omega)] at slash
  exact absurd (high_of_wide wide _ (List.mem_of_getElem? slash)) (by decide)

/-- The scan over the bytes finds the last of the arguments that the scan over the characters
finds. -/
theorem scan_eq {text before rest : List Char} (split : text = before ++ rest) {fuel : Nat}
    (enough : byteLength rest < fuel) (last : Option (List Char)) :
    scan text fuel (byteLength before) last =
      .ok ((boxes anySlash boxed (before.foldl anySlash false) rest).getLast?.or last) := by
  induction length : rest.length using Nat.strongRecOn generalizing before rest fuel last with
  | ind n ih =>
    subst length
    obtain ⟨fuel, rfl⟩ : ∃ fuel', fuel = fuel' + 1 := ⟨fuel - 1, by omega⟩
    have whole : (bytesOf text).length = byteLength before + byteLength rest := by
      rw [length_bytesOf, split, byteLength_append]
    have front : (bytesOf text).drop (byteLength before) = bytesOf rest := by
      rw [split, bytesOf_append, ← length_bytesOf, List.drop_left]
    have command : (needle.isPrefixOf ((bytesOf text).drop (byteLength before)) = true ∧
        (byteLength before = 0 ∨ (bytesOf text)[byteLength before - 1]? ≠ some 92)) ↔
        before.foldl anySlash false = false ∧ opening boxed <+: rest := by
      rw [front, List.isPrefixOf_iff_prefix, needle, bytesOf_prefix_iff opening_narrow, split,
        byte_before_iff, and_comm]
    by_cases starts : before.foldl anySlash false = false ∧ opening boxed <+: rest
    · have active := starts.1
      obtain ⟨tail, rfl⟩ := starts.2
      have split' : text = (before ++ opening boxed) ++ tail := by rw [split, List.append_assoc]
      have start : byteLength before + needle.length = byteLength (before ++ opening boxed) := by
        rw [needle_length, byteLength_append]
      have fits : byteLength before + needle.length ≤ (bytesOf text).length := by
        rw [start, length_bytesOf, split', byteLength_append _ tail]
        exact Nat.le_add_right _ _
      have size : byteLength (opening boxed ++ tail) = 7 + byteLength tail := by
        rw [byteLength_append, byteLength_opening]
      have brace : (bytesOf text).getD (byteLength (before ++ opening boxed) - 1) 0 = 123 := by
        have last := needle_last
        have size := needle_length.trans byteLength_opening
        rw [List.getLast?_eq_getElem?] at last
        rw [← start, ← length_bytesOf, split', bytesOf_append, bytesOf_append]
        change ((bytesOf before ++ needle) ++ bytesOf tail).getD _ 0 = 123
        rw [List.getD_eq_getElem?_getD,
          List.getElem?_append_left (by rw [List.length_append]; omega),
          List.getElem?_append_right (by omega),
          show (bytesOf before).length + needle.length - 1 - (bytesOf before).length =
            needle.length - 1 by omega, last]
        rfl
      have inner : closeFrom ((bytesOf text).getD (byteLength (before ++ opening boxed) - 1) 0)
          (byteLength (before ++ opening boxed)) 1
          ((bytesOf text).drop (byteLength (before ++ opening boxed))) =
          (close anySlash 0 false tail).map
            fun cut => byteLength (before ++ opening boxed) + byteLength cut.1 := by
        rw [brace, split', bytesOf_append, ← length_bytesOf, List.drop_left]
        exact closeFrom_eq tail (by decide) _ 0
      rw [scan]
      dsimp only
      rw [if_pos fits, if_pos (command.mpr starts), start, inner, active]
      cases closed : close anySlash 0 false tail with
      | none =>
        rw [boxes_of_open closed]
        have state : (before ++ opening boxed).foldl anySlash false = false := by
          rw [List.foldl_append]
          rfl
        rw [← state]
        exact ih tail.length (by simp [opening]; omega) split' (by omega) last rfl
      | some cut =>
        obtain ⟨content, after⟩ := cut
        have found := close_spec closed
        have cut : text = before ++ opening boxed ++ content ++ '}' :: after := by
          rw [split', found, List.append_assoc _ content]
        have kept : slice (byteLength (before ++ opening boxed))
            (byteLength (before ++ opening boxed) + byteLength content) text = some content := by
          rw [cut, ← byteLength_append]
          exact slice_append _ _ _
        have behind : byteLength (before ++ opening boxed) + byteLength content + 1 =
            byteLength (before ++ opening boxed ++ content ++ ['}']) := by
          rw [byteLength_append _ ['}'], byteLength_append _ content]
          rfl
        have state :
            (before ++ opening boxed ++ content ++ ['}']).foldl anySlash false = false := by
          rw [List.foldl_append]
          rfl
        have smaller : byteLength after < byteLength tail := by
          rw [found, byteLength_append, byteLength_cons]
          have positive := ('}').utf8Size_pos
          omega
        rw [boxes_of_close closed, getLast?_cons_or]
        simp only [Option.map_some, kept, orPanic, behind]
        change scan text fuel _ (some content) = _
        rw [ih after.length ?_ ?_ (by omega) (some content) rfl, state, Option.or_assoc]
        · rfl
        · rw [found]
          simp [opening]
          omega
        · rw [cut, List.append_assoc _ ['}']]
          rfl
    · cases rest with
      | nil =>
        have ended : ¬ byteLength before + needle.length ≤ (bytesOf text).length := by
          rw [whole, needle_length, byteLength_opening, byteLength_nil]
          omega
        rw [scan]
        dsimp only
        rw [if_neg ended, boxes_nil]
        rfl
      | cons c rest =>
        have split' : text = (before ++ [c]) ++ rest := by rw [split, List.append_assoc]; rfl
        have size : byteLength (before ++ [c]) = byteLength before + c.utf8Size := by
          rw [byteLength_append, byteLength_cons, byteLength_nil, Nat.add_zero]
        rw [byteLength_cons] at enough
        obtain ⟨spare, rfl⟩ : ∃ spare, fuel = spare + c.utf8Size :=
          ⟨fuel - c.utf8Size, by omega⟩
        have skip := scan_skip text spare last c.utf8Size (byteLength before) ?_
        · rw [show spare + c.utf8Size + 1 = spare + 1 + c.utf8Size by omega, skip, ← size,
            ih rest.length (Nat.lt_succ_self _) split' (by omega) last rfl, boxes_cons starts,
            List.foldl_append]
          rfl
        · intro k below
          rcases Nat.eq_zero_or_pos k with rfl | inside
          · exact fun found => starts (command.mp found)
          · rintro ⟨found, -⟩
            rw [split] at found
            exact not_needle_within inside below found

/-! ### The last box -/

/-- An even number of backslashes, but some: what comes after them is not escaped. -/
def Misread (before : List Char) : Prop :=
  let slashes := (before.reverse.takeWhile (· = '\\')).length
  slashes ≠ 0 ∧ slashes % 2 = 0

/-- No box command that is in no complete box has an even number of backslashes before it, but some,
and no brace up to which a box is still open. -/
structure Unambiguous (text : List Char) : Prop where
  commands : ∀ before after, text = before ++ opening boxed ++ after →
    Apart boxed text before (opening boxed ++ after) → ¬ Misread before
  braces : ∀ before argument c after, text = before ++ opening boxed ++ argument ++ c :: after →
    escapedAfter before = false → c = '{' ∨ c = '}' → close oddRun 0 false argument = none →
      ¬ Misread (before ++ opening boxed ++ argument)

/-- The argument of the last box that no other box contains. -/
structure FindsLast (text : List Char) (answer : Option (List Char)) : Prop where
  some_iff : ∀ content, answer = some content ↔ IsLast boxed text content
  none_iff : answer = none ↔ ∀ before content after, ¬ IsBox boxed text before content after

theorem boxed_named : IsName boxed := by
  have all : boxed.all (fun c => c ≠ '\\' ∧ c ≠ '{' ∧ c ≠ '}') = true := by decide +kernel
  exact ⟨by decide, fun c here => of_decide_eq_true (List.all_eq_true.mp all c here)⟩

theorem setBySlash_anySlash : SetBySlash anySlash := fun _ _ other => by simp [anySlash, other]

theorem foldl_agree (read : ¬ Misread before) :
    before.foldl anySlash false = escapedAfter before := by
  rw [escapedAfter]
  have any : before.foldl anySlash false =
      decide ((before.reverse.takeWhile (· = '\\')).length ≠ 0) := by
    induction before using List.reverseRecOn with
    | nil => rfl
    | append_singleton before c _ =>
      rw [List.foldl_append]
      by_cases slash : c = '\\' <;> simp [anySlash, slash]
  rw [any]
  unfold Misread at read
  dsimp only at read
  generalize (before.reverse.takeWhile (· = '\\')).length = slashes at read
  rw [decide_eq_decide]
  omega

theorem findsLast_boxes (text : List Char) :
    FindsLast text (boxes oddRun boxed false text).getLast? := by
  obtain ⟨some, none⟩ := boxed_named.last_boxes text
  constructor
  · refine fun content => ⟨some content, fun last => ?_⟩
    cases found : (boxes oddRun boxed false text).getLast? with
    | some content' => rw [(some content' found).unique last]
    | none =>
      obtain ⟨before, after, box, -⟩ := last
      exact absurd box (none found before content after)
  · refine ⟨none, fun empty => ?_⟩
    cases found : (boxes oddRun boxed false text).getLast? with
    | none => rfl
    | some content =>
      obtain ⟨before, after, box, -⟩ := some content found
      exact absurd box (empty before content after)

/-- `extract_boxed` has an answer for every text. -/
theorem extractBoxed_eq (text : List Char) :
    extractBoxed text = .ok (boxes anySlash boxed false text).getLast? := by
  have scanned := @scan_eq text [] text rfl ((bytesOf text).length + 1)
    (by rw [length_bytesOf]; omega) none
  rw [Option.or_none] at scanned
  exact scanned

/-- `extract_boxed` has an answer for every text, and it is the last box where no backslashes are
misread. -/
theorem extractBoxed_finds_last (text : List Char) : ∃ answer, extractBoxed text = .ok answer ∧
    (Unambiguous text → FindsLast text answer) := by
  refine ⟨(boxes anySlash boxed false text).getLast?, extractBoxed_eq text, fun clear => ?_⟩
  have alike : ReadsAlike anySlash boxed text :=
    ⟨fun before after split apart => foldl_agree (clear.commands before after split apart),
      fun before argument c after split active brace unclosed =>
        foldl_agree (clear.braces before argument c after split active brace unclosed)⟩
  have same := boxed_named.boxes_alike setBySlash_anySlash alike rfl apart_nil
  rw [show boxes anySlash boxed false text = boxes oddRun boxed false text from same]
  exact findsLast_boxes text

/-- The brace after a line break is a closing one. -/
theorem box_with_line_break_missed : extractBoxed "\\boxed\x7ba\\\\\x7d".toList = .ok none ∧
      ¬ FindsLast "\\boxed\x7ba\\\\\x7d".toList none := by
  refine ⟨by decide +kernel, fun finds => ?_⟩
  refine finds.none_iff.mp rfl [] "a\\\\".toList [] ⟨by decide +kernel, rfl, ?_⟩
  exact .plain (by decide) (by decide) (by decide) (.escaped .nil)

end UEnv.Plugins.BoxedAnswers
