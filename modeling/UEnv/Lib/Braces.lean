import Mathlib.Data.List.Induction

/-!
# Groups in braces

Texts in which `{` and `}` group and a backslash escapes the character after it. A scan for the
brace that ends a group counts the open ones; whether a brace counts depends on a state that a rule
carries along. By the rule of the language the state tells whether the run of backslashes before a
character is odd.
-/

namespace UEnv.Braces

/-! ### Balanced texts -/

/-- Whether an odd number of backslashes ends a text. -/
def escapedAfter (before : List Char) : Bool :=
  (before.reverse.takeWhile (· = '\\')).length % 2 = 1

/-- Every brace that is not escaped has its partner. -/
inductive Balanced : List Char → Prop
  | nil : Balanced []
  | plain {c : Char} {rest : List Char} (escape : c ≠ '\\') (opening : c ≠ '{')
      (closing : c ≠ '}') (tail : Balanced rest) : Balanced (c :: rest)
  | escaped {c : Char} {rest : List Char} (tail : Balanced rest) : Balanced ('\\' :: c :: rest)
  | group {inner rest : List Char} (head : Balanced inner) (tail : Balanced rest) :
      Balanced ('{' :: (inner ++ '}' :: rest))

/-- The rule of the language: the state is whether the run of backslashes is odd. -/
def oddRun (escaped : Bool) (c : Char) : Bool := c == '\\' && !escaped

section Scan

variable (next : Bool → Char → Bool)

/-- What stands before and after the brace that closes the innermost of the open groups, when
`depth` more are open around it. -/
def close : Nat → Bool → List Char → Option (List Char × List Char)
  | _, _, [] => none
  | depth, escaped, c :: rest =>
    let keep := fun cut : List Char × List Char => (c :: cut.1, cut.2)
    if c = '{' ∧ escaped = false then (close (depth + 1) (next escaped c) rest).map keep
    else if c = '}' ∧ escaped = false then
      if depth = 0 then some ([], rest)
      else (close (depth - 1) (next escaped c) rest).map keep
    else (close depth (next escaped c) rest).map keep

variable {next}

variable {depth : Nat}

theorem close_plain {escaped : Bool} {c : Char} {rest : List Char} (opens : c ≠ '{')
    (closes : c ≠ '}') : close next depth escaped (c :: rest) =
      (close next depth (next escaped c) rest).map fun cut => (c :: cut.1, cut.2) := by
  rw [close, if_neg fun both => opens both.1, if_neg fun both => closes both.1]

theorem keep_eq_some {c : Char} {cut : Option (List Char × List Char)} {content after : List Char}
    (kept : cut.map (fun cut => (c :: cut.1, cut.2)) = some (content, after)) :
    ∃ inner, cut = some (inner, after) ∧ content = c :: inner := by
  obtain ⟨⟨inner, after'⟩, found, same⟩ := Option.map_eq_some_iff.mp kept
  cases same
  exact ⟨inner, found, rfl⟩

theorem close_spec {escaped : Bool} {text content after : List Char}
    (closed : close next depth escaped text = some (content, after)) :
    text = content ++ '}' :: after := by
  induction text generalizing depth escaped content with
  | nil => cases closed
  | cons c rest ih =>
    rw [close] at closed
    have cons : ∀ {depth' : Nat} {escaped' : Bool},
        (close next depth' escaped' rest).map (fun cut => (c :: cut.1, cut.2)) =
          some (content, after) → c :: rest = content ++ '}' :: after := by
      intro depth' escaped' mapped
      obtain ⟨inner, found, rfl⟩ := keep_eq_some mapped
      rw [ih found, List.cons_append]
    split at closed
    · exact cons closed
    · split at closed
      · rename_i brace
        split at closed
        · cases closed
          rw [brace.1, List.nil_append]
        · exact cons closed
      · exact cons closed

theorem close_length {escaped : Bool} {text content after : List Char}
    (closed : close next depth escaped text = some (content, after)) :
    content.length + after.length + 1 = text.length := by
  have lengths := congrArg List.length (close_spec closed)
  simp only [List.length_append, List.length_cons] at lengths
  omega

theorem close_deeper {more : Nat} {escaped : Bool} {text content after content' after' :
    List Char} (closed : close next depth escaped text = some (content, after))
    (closed' : close next (depth + more + 1) escaped text = some (content', after')) :
    after'.length < after.length := by
  induction text generalizing depth escaped content content' with
  | nil => cases closed
  | cons c rest ih =>
    rw [close] at closed closed'
    split at closed
    · rename_i opening
      rw [if_pos opening] at closed'
      obtain ⟨inner, found, rfl⟩ := keep_eq_some closed
      obtain ⟨inner', found', rfl⟩ := keep_eq_some closed'
      rw [show depth + more + 1 + 1 = depth + 1 + more + 1 by omega] at found'
      exact ih found found'
    · rename_i opening
      rw [if_neg opening] at closed'
      split at closed
      · rename_i closing
        rw [if_pos closing, if_neg (by omega)] at closed'
        obtain ⟨inner', found', rfl⟩ := keep_eq_some closed'
        split at closed
        · cases closed
          have shorter := close_length found'
          omega
        · obtain ⟨inner, found, rfl⟩ := keep_eq_some closed
          rw [show depth + more + 1 - 1 = depth - 1 + more + 1 by omega] at found'
          exact ih found found'
      · rename_i closing
        rw [if_neg closing] at closed'
        obtain ⟨inner, found, rfl⟩ := keep_eq_some closed
        obtain ⟨inner', found', rfl⟩ := keep_eq_some closed'
        exact ih found found'

theorem close_within {escaped : Bool} {before rest content after : List Char}
    (closed : close next depth escaped (before ++ rest) = some (content, after))
    (within : before.length ≤ content.length) :
    ∃ depth' content', close next depth' (before.foldl next escaped) rest =
      some (content', after) := by
  induction before generalizing depth escaped content with
  | nil => exact ⟨depth, content, closed⟩
  | cons c before ih =>
    rw [List.cons_append, close] at closed
    have later : ∀ {depth' : Nat}, (close next depth' (next escaped c) (before ++ rest)).map
            (fun cut => (c :: cut.1, cut.2)) = some (content, after) →
          ∃ depth' content', close next depth' ((c :: before).foldl next escaped) rest =
            some (content', after) := by
      intro depth' mapped
      obtain ⟨inner, found, rfl⟩ := keep_eq_some mapped
      exact ih found (Nat.le_of_succ_le_succ within)
    split at closed
    · exact later closed
    · split at closed
      · split at closed
        · cases closed
          exact absurd within (by simp)
        · exact later closed
      · exact later closed

end Scan

/-! ### The rule of the language -/

theorem foldl_oddRun (before : List Char) : before.foldl oddRun false = escapedAfter before := by
  induction before using List.reverseRecOn with
  | nil => rfl
  | append_singleton before c ih =>
    rw [List.foldl_append, ih, List.foldl_cons, List.foldl_nil, oddRun, escapedAfter, escapedAfter]
    by_cases slash : c = '\\'
    · simp only [slash, List.reverse_append, List.reverse_cons, List.reverse_nil, List.nil_append,
        List.singleton_append, List.takeWhile_cons, decide_true, if_true, List.length_cons]
      generalize (before.reverse.takeWhile (· = '\\')).length = run
      rcases Nat.mod_two_eq_zero_or_one run with even | odd
      · simp [even, show (run + 1) % 2 = 1 by omega]
      · simp [odd, show (run + 1) % 2 = 0 by omega]
    · simp [slash]

attribute [local simp] oddRun

theorem Balanced.close_append {content : List Char} (balanced : Balanced content) (depth : Nat)
    (rest : List Char) : close oddRun depth false (content ++ rest) =
      (close oddRun depth false rest).map fun cut => (content ++ cut.1, cut.2) := by
  induction balanced generalizing depth rest with
  | nil => simp
  | @plain c tail escape opening closing _ ih =>
    rw [List.cons_append, close, if_neg (by simp [opening]), if_neg (by simp [closing])]
    have state : oddRun false c = false := by simp [escape]
    rw [state, ih, Option.map_map]
    rfl
  | @escaped c tail _ ih =>
    rw [List.cons_append, List.cons_append, close, if_neg (by simp), if_neg (by simp)]
    have state : oddRun (oddRun false '\\') c = false := by simp
    rw [close, if_neg (by simp), if_neg (by simp), state, ih, Option.map_map, Option.map_map]
    rfl
  | @group inner tail _ _ ihInner ihTail =>
    have state : oddRun false '{' = false := rfl
    rw [List.cons_append, List.append_assoc, List.cons_append, close, if_pos (by simp), state,
      ihInner, close, if_neg (by simp), if_pos (by simp), if_neg (by omega)]
    have state : oddRun false '}' = false := rfl
    rw [state, Nat.add_sub_cancel, ihTail, Option.map_map, Option.map_map, Option.map_map]
    simp [Function.comp_def]

/-- Balanced texts with a closing brace after each but the last. -/
def Layers : Nat → List Char → Prop
  | 0, text => Balanced text
  | depth + 1, text => ∃ inner rest, text = inner ++ '}' :: rest ∧ Balanced inner ∧
      Layers depth rest

variable {depth : Nat}

theorem Layers.prepend (front : List Char)
    (grows : ∀ {text}, Balanced text → Balanced (front ++ text)) {text : List Char}
    (layers : Layers depth text) : Layers depth (front ++ text) := by
  cases depth with
  | zero => exact grows layers
  | succ =>
    obtain ⟨inner, rest, rfl, balanced, layers⟩ := layers
    exact ⟨front ++ inner, rest, (List.append_assoc ..).symm, grows balanced, layers⟩

theorem layers_of_close {text content after : List Char}
    (closed : close oddRun depth false text = some (content, after)) : Layers depth content := by
  induction length : text.length using Nat.strongRecOn generalizing depth text content with
  | ind n ih =>
    subst length
    cases text with
    | nil => cases closed
    | cons c rest =>
      rw [close] at closed
      split at closed
      · rename_i opening
        obtain ⟨inner, found, rfl⟩ := keep_eq_some closed
        obtain ⟨rfl, -⟩ := opening
        obtain ⟨head, tail, rfl, balanced, layers⟩ := ih _ (Nat.lt_succ_self _) found rfl
        have grown := layers.prepend ('{' :: (head ++ ['}'])) fun grows => by
          simpa using Balanced.group balanced grows
        simpa using grown
      · rename_i opening
        split at closed
        · rename_i closing
          split at closed
          · rename_i last
            cases closed
            subst last
            exact .nil
          · rename_i more
            obtain ⟨inner, found, rfl⟩ := keep_eq_some closed
            obtain ⟨depth, rfl⟩ := Nat.exists_eq_succ_of_ne_zero more
            obtain ⟨rfl, -⟩ := closing
            exact ⟨[], inner, rfl, .nil, ih _ (Nat.lt_succ_self _) found rfl⟩
        · rename_i closing
          obtain ⟨inner, found, rfl⟩ := keep_eq_some closed
          by_cases slash : c = '\\'
          · subst slash
            -- the character after the backslash is passed over
            cases rest with
            | nil => cases found
            | cons d =>
              rw [close, if_neg (by simp), if_neg (by simp)] at found
              obtain ⟨inner, found', rfl⟩ := keep_eq_some found
              have state : oddRun (oddRun false '\\') d = false := by simp
              rw [state] at found'
              have layers := ih _ (by simp only [List.length_cons]; omega) found' rfl
              exact layers.prepend ['\\', d] .escaped
          · have state : oddRun false c = false := by simp [slash]
            rw [state] at found
            have layers := ih _ (Nat.lt_succ_self _) found rfl
            refine layers.prepend [c] ?_
            exact .plain slash (by simpa using opening) (by simpa using closing)

theorem close_eq_some_iff {text content after : List Char} :
    close oddRun 0 false text = some (content, after) ↔
      text = content ++ '}' :: after ∧ Balanced content := by
  constructor
  · exact fun closed => ⟨close_spec closed, layers_of_close closed⟩
  · rintro ⟨rfl, balanced⟩
    rw [balanced.close_append, close]
    simp

/-! ### Commands with an argument -/

/-- A command and the brace that opens its argument. -/
def opening (name : List Char) : List Char := '\\' :: (name ++ ['{'])

/-- A command that is not escaped, with its argument in a text. -/
structure IsBox (name text before content after : List Char) : Prop where
  split : text = before ++ opening name ++ content ++ '}' :: after
  active : escapedAfter before = false
  balanced : Balanced content

/-- No argument of the command contains the one between the two parts of the text. -/
def Outermost (name text before after : List Char) : Prop :=
  ∀ before' content' after', IsBox name text before' content' after' →
    before'.length < before.length → after.length ≤ after'.length

/-- The argument that starts last of those that are in no other. -/
def IsLast (name text content : List Char) : Prop :=
  ∃ before after, IsBox name text before content after ∧ Outermost name text before after ∧
    ∀ before' content' after', IsBox name text before' content' after' →
      Outermost name text before' after' → before'.length ≤ before.length

section Boxes

variable (next : Bool → Char → Bool) (name : List Char)

/-- The arguments that a scan from left to right finds; it goes on behind a complete one, and within
one that is not. -/
def boxes (escaped : Bool) (text : List Char) : List (List Char) :=
  if escaped = false ∧ opening name <+: text then
    match _closed : close next 0 false (text.drop (opening name).length) with
    | some (content, after) => content :: boxes false after
    | none => boxes false (text.drop (opening name).length)
  else
    match text with
    | [] => []
    | c :: rest => boxes (next escaped c) rest
termination_by text.length
decreasing_by
  · have shorter := close_length _closed
    rw [List.length_drop] at shorter
    omega
  · rename_i starts
    have positive := starts.2.length_le
    simp only [opening, List.length_cons, List.length_drop] at positive ⊢
    omega
  · simp

variable {next name}

theorem boxes_of_close {rest content after : List Char}
    (closed : close next 0 false rest = some (content, after)) :
    boxes next name false (opening name ++ rest) = content :: boxes next name false after := by
  rw [boxes.eq_def, if_pos ⟨rfl, List.prefix_append _ _⟩]
  split
  · rename_i found
    rw [List.drop_left, closed] at found
    cases found
    rfl
  · rename_i found
    rw [List.drop_left, closed] at found
    cases found

theorem boxes_of_open {rest : List Char} (unclosed : close next 0 false rest = none) :
    boxes next name false (opening name ++ rest) = boxes next name false rest := by
  rw [boxes.eq_def, if_pos ⟨rfl, List.prefix_append _ _⟩]
  split
  · rename_i found
    rw [List.drop_left, unclosed] at found
    cases found
  · rw [List.drop_left]

theorem boxes_cons {escaped : Bool} {c : Char} {rest : List Char}
    (other : ¬ (escaped = false ∧ opening name <+: c :: rest)) :
    boxes next name escaped (c :: rest) = boxes next name (next escaped c) rest := by
  rw [boxes, if_neg other]

theorem boxes_nil {escaped : Bool} : boxes next name escaped [] = [] := by
  rw [boxes]
  split
  · rename_i starts
    exact absurd (List.prefix_nil.mp starts.2) (by simp [opening])
  · rfl

end Boxes

/-! ### Two rules -/

/-- A state that only a backslash sets. -/
def SetBySlash (next : Bool → Char → Bool) : Prop := ∀ escaped c, c ≠ '\\' → next escaped c = false

theorem SetBySlash.after {next : Bool → Char → Bool} (set : SetBySlash next) (escaped : Bool)
    (before : List Char) {c : Char} (other : c ≠ '\\') :
    (before ++ [c]).foldl next escaped = false := by
  rw [List.foldl_append]
  exact set _ c other

theorem close_congr {next next' : Bool → Char → Bool} {escaped escaped' : Bool} {text : List Char}
    (same : ∀ before c after, text = before ++ c :: after → c = '{' ∨ c = '}' →
      close next' depth escaped' before = none →
        before.foldl next escaped = before.foldl next' escaped') :
    close next depth escaped text = close next' depth escaped' text := by
  induction text generalizing depth escaped escaped' with
  | nil => rfl
  | cons c rest ih =>
    have later : ∀ depth', (∀ before, close next' depth' (next' escaped' c) before = none →
        close next' depth escaped' (c :: before) = none) →
          close next depth' (next escaped c) rest = close next' depth' (next' escaped' c) rest :=
      fun depth' stays => ih fun before d after split brace unclosed =>
        same (c :: before) d after (by rw [split]; rfl) brace (stays before unclosed)
    by_cases brace : c = '{' ∨ c = '}'
    · obtain rfl : escaped = escaped' := same [] c rest rfl brace rfl
      by_cases opens : c = '{' ∧ escaped = false
      · rw [close, close, if_pos opens, if_pos opens, later (depth + 1)]
        intro before unclosed
        rw [close, if_pos opens, unclosed]
        rfl
      · by_cases closes : c = '}' ∧ escaped = false
        · rw [close, close, if_neg opens, if_neg opens, if_pos closes, if_pos closes]
          by_cases last : depth = 0
          · rw [if_pos last, if_pos last]
          · rw [if_neg last, if_neg last, later (depth - 1)]
            intro before unclosed
            rw [close, if_neg opens, if_pos closes, if_neg last, unclosed]
            rfl
        · rw [close, close, if_neg opens, if_neg opens, if_neg closes, if_neg closes, later depth]
          intro before unclosed
          rw [close, if_neg opens, if_neg closes, unclosed]
          rfl
    · obtain ⟨opens, closes⟩ := not_or.mp brace
      rw [close_plain opens closes, close_plain opens closes, later depth]
      intro before unclosed
      rw [close_plain opens closes, unclosed]
      rfl

/-! ### The last argument -/

/-- The letters of a command. -/
structure IsName (name : List Char) : Prop where
  nonempty : name ≠ []
  letters : ∀ c ∈ name, c ≠ '\\' ∧ c ≠ '{' ∧ c ≠ '}'

section Last

variable {name : List Char}

theorem IsName.balanced (named : IsName name) : Balanced ('\\' :: name) := by
  obtain ⟨c, rest, rfl⟩ := List.exists_cons_of_ne_nil named.nonempty
  refine .escaped ?_
  have letters : ∀ d ∈ rest, d ≠ '\\' ∧ d ≠ '{' ∧ d ≠ '}' :=
    fun d here => named.letters d (.tail _ here)
  clear named
  induction rest with
  | nil => exact .nil
  | cons d rest ih =>
    obtain ⟨slash, opens, closes⟩ := letters d (.head _)
    exact .plain slash opens closes (ih fun e here => letters e (.tail _ here))

theorem IsName.close_opening (named : IsName name) (depth : Nat) (rest : List Char) :
    close oddRun depth false (opening name ++ rest) =
      (close oddRun (depth + 1) false rest).map fun cut => (opening name ++ cut.1, cut.2) := by
  have split : opening name ++ rest = ('\\' :: name) ++ '{' :: rest := by simp [opening]
  have state : oddRun false '{' = false := rfl
  rw [split, named.balanced.close_append, close, if_pos (by simp), state, Option.map_map]
  simp [opening, Function.comp_def]

theorem escapedAfter_append (before text : List Char) :
    escapedAfter (before ++ text) = text.foldl oddRun (escapedAfter before) := by
  rw [← foldl_oddRun, ← foldl_oddRun, List.foldl_append]

theorem escapedAfter_opening (name before : List Char) :
    escapedAfter (before ++ opening name) = false := by
  simp [escapedAfter, opening]

theorem escapedAfter_closing (before : List Char) : escapedAfter (before ++ ['}']) = false := by
  simp [escapedAfter]

theorem escapedAfter_snoc (before : List Char) (c : Char) :
    escapedAfter (before ++ [c]) = oddRun (escapedAfter before) c := by
  rw [escapedAfter_append]
  rfl

theorem SetBySlash.opening {next : Bool → Char → Bool} (set : SetBySlash next) (escaped : Bool)
    (before : List Char) : (before ++ opening name).foldl next escaped = false := by
  have last : before ++ Braces.opening name = before ++ ('\\' :: name) ++ ['{'] := by
    simp [Braces.opening]
  rw [last]
  exact set.after _ _ (by decide)

theorem isBox_iff {text before content after : List Char} : IsBox name text before content after ↔
    ∃ rest, text = before ++ opening name ++ rest ∧ escapedAfter before = false ∧
      close oddRun 0 false rest = some (content, after) := by
  constructor
  · rintro ⟨split, active, balanced⟩
    refine ⟨content ++ '}' :: after, ?_, active, close_eq_some_iff.mpr ⟨rfl, balanced⟩⟩
    rw [split, List.append_assoc]
  · rintro ⟨rest, rfl, active, closed⟩
    obtain ⟨rfl, balanced⟩ := close_eq_some_iff.mp closed
    exact ⟨(List.append_assoc ..).symm, active, balanced⟩

variable {text : List Char}

theorem IsBox.starts {before content after : List Char}
    (box : IsBox name text before content after) : before <+: text := by
  rw [box.split, List.append_assoc, List.append_assoc]
  exact List.prefix_append _ _

variable {before' content' after' before₁ : List Char} {found : Option (List Char)}

theorem IsBox.unique {before content after : List Char} (box : IsBox name text before content after)
    (box' : IsBox name text before' content' after') (same : before.length = before'.length) :
    content = content' ∧ after = after' := by
  obtain ⟨rest, split, -, closed⟩ := isBox_iff.mp box
  obtain ⟨rest', split', -, closed'⟩ := isBox_iff.mp box'
  rw [split, List.append_assoc, List.append_assoc] at split'
  obtain ⟨rfl, rest_eq⟩ := List.append_inj split' same
  obtain rfl := List.append_cancel_left rest_eq
  rw [closed] at closed'
  cases closed'
  exact ⟨rfl, rfl⟩

theorem IsName.start_outside (named : IsName name) {before rest : List Char}
    (split : text = before ++ opening name ++ rest) (box : IsBox name text before' content' after')
    (later : before.length < before'.length) :
    (before ++ opening name).length ≤ before'.length := by
  by_contra inside
  rw [Nat.not_le, List.length_append] at inside
  -- the character there is one of the command, and a backslash
  obtain ⟨offset, place⟩ : ∃ offset, before'.length = before.length + (offset + 1) :=
    ⟨before'.length - before.length - 1, by omega⟩
  have slash : text[before'.length]? = some '\\' := by
    rw [box.split, List.append_assoc, List.append_assoc, List.getElem?_append_right (Nat.le_refl _),
      Nat.sub_self]
    rfl
  have within : offset < (name ++ ['{']).length := by
    simp only [opening, List.length_cons] at inside
    omega
  have letter : text[before'.length]? = some (name ++ ['{'])[offset] := by
    rw [split, List.append_assoc, place, List.getElem?_append_right (by omega),
      Nat.add_sub_cancel_left, List.getElem?_append_left (by simp [opening] at within ⊢; omega)]
    exact List.getElem?_eq_getElem within
  rw [slash, Option.some.injEq] at letter
  rcases List.mem_append.mp (letter ▸ List.getElem_mem within) with here | here
  · exact (named.letters _ here).1 rfl
  · exact absurd (List.mem_singleton.mp here) (by decide)

theorem IsName.nested (named : IsName name) {before content after : List Char}
    (box : IsBox name text before content after) (box' : IsBox name text before' content' after')
    (later : before.length < before'.length)
    (within : before'.length ≤ (before ++ opening name ++ content).length) :
    after.length < after'.length := by
  obtain ⟨rest, split, -, closed⟩ := isBox_iff.mp box
  obtain ⟨rest', split', active', closed'⟩ := isBox_iff.mp box'
  have outside := named.start_outside split box' later
  have starts : before ++ opening name <+: before' := by
    refine List.prefix_of_prefix_length_le ?_ box'.starts outside
    rw [split]
    exact List.prefix_append _ _
  obtain ⟨front, rfl⟩ := starts
  have state : front.foldl oddRun false = false := by
    rw [escapedAfter_append, escapedAfter_opening] at active'
    exact active'
  have tail : rest = front ++ (opening name ++ rest') := by
    rw [split, List.append_assoc _ front, List.append_assoc (before ++ opening name)] at split'
    rw [List.append_cancel_left split', List.append_assoc]
  rw [tail] at closed
  have short : front.length ≤ content.length := by
    simp only [List.length_append] at within
    omega
  obtain ⟨depth, content₁, closed⟩ := close_within closed short
  rw [state, named.close_opening] at closed
  obtain ⟨⟨content₂, after₂⟩, deeper, same⟩ := Option.map_eq_some_iff.mp closed
  cases same
  exact close_deeper closed' (by simpa using deeper)

/-- No argument that starts before a place reaches beyond it. -/
def Apart (name text before rest : List Char) : Prop :=
  ∀ before' content' after', IsBox name text before' content' after' →
    before'.length < before.length → rest.length ≤ after'.length

/-- What the scan finds from a place on. -/
def Finds (name text before : List Char) : Option (List Char) → Prop
  | none => ∀ before' content' after', IsBox name text before' content' after' →
    before'.length < before.length
  | some content => ∃ before₁ after₁, IsBox name text before₁ content after₁ ∧
    Outermost name text before₁ after₁ ∧ before.length ≤ before₁.length ∧
      ∀ before' content' after', IsBox name text before' content' after' →
        Outermost name text before' after' → before'.length ≤ before₁.length

theorem finds_of_later {before : List Char} (finds : Finds name text before₁ found)
    (further : before.length ≤ before₁.length)
    (between : ∀ before' content' after', IsBox name text before' content' after' →
      before'.length < before₁.length → before'.length < before.length) :
    Finds name text before found := by
  cases found with
  | none =>
    intro before' content' after' box
    exact between _ _ _ box (finds _ _ _ box)
  | some =>
    obtain ⟨before₂, after₂, box, outermost, past, last⟩ := finds
    exact ⟨before₂, after₂, box, outermost, Nat.le_trans further past, last⟩

theorem apart_of_later {before rest rest₁ : List Char} (apart : Apart name text before rest)
    (shorter : rest₁.length ≤ rest.length)
    (between : ∀ before' content' after', IsBox name text before' content' after' →
      before'.length < before₁.length → before'.length < before.length) :
    Apart name text before₁ rest₁ :=
  fun _ _ _ box earlier => Nat.le_trans shorter (apart _ _ _ box (between _ _ _ box earlier))

theorem IsName.finds_box (named : IsName name) {before content after : List Char}
    (box : IsBox name text before content after)
    (apart : Apart name text before (opening name ++ content ++ '}' :: after))
    (finds : Finds name text (before ++ opening name ++ content ++ ['}']) found) :
    Finds name text before (found.or (some content)) := by
  cases found with
  | some =>
    obtain ⟨before₁, after₁, box₁, outermost, past, last⟩ := finds
    refine ⟨before₁, after₁, box₁, outermost, Nat.le_trans ?_ past, last⟩
    simp only [List.length_append]
    omega
  | none =>
    refine ⟨before, after, box, ?_, Nat.le_refl _, ?_⟩
    · intro before' content' after' box' earlier
      have reach := apart _ _ _ box' earlier
      simp only [List.length_append, List.length_cons] at reach
      omega
    · intro before' content' after' box' outermost'
      by_contra later
      rw [Nat.not_le] at later
      have within : before'.length ≤ (before ++ opening name ++ content).length := by
        have inside := finds _ _ _ box'
        simp only [List.length_append, List.length_cons, List.length_nil] at inside ⊢
        omega
      have shorter := named.nested box box' later within
      have reach := outermost' _ _ _ box later
      omega

theorem IsName.apart_box (named : IsName name) {before content after : List Char}
    (box : IsBox name text before content after)
    (apart : Apart name text before (opening name ++ content ++ '}' :: after)) :
    Apart name text (before ++ opening name ++ content ++ ['}']) after := by
  intro before' content' after' box' earlier
  rcases Nat.lt_trichotomy before'.length before.length with first | same | later
  · have reach := apart _ _ _ box' first
    simp only [List.length_append, List.length_cons] at reach
    omega
  · exact Nat.le_of_eq (congrArg List.length (box.unique box' same.symm).2)
  · refine Nat.le_of_lt (named.nested box box' later ?_)
    simp only [List.length_append, List.length_cons, List.length_nil] at earlier ⊢
    omega

theorem getLast?_cons_or {α : Type} (first : α) (rest : List α) :
    (first :: rest).getLast? = rest.getLast?.or (some first) := by
  cases rest with
  | nil => rfl
  | cons => simp [List.getLast?_cons]

theorem IsName.none_in_unclosed (named : IsName name) {before tail : List Char}
    (split : text = before ++ opening name ++ tail)
    (unclosed : close oddRun 0 false tail = none) :
    ∀ before' content' after', IsBox name text before' content' after' →
      before'.length < (before ++ opening name).length → before'.length < before.length := by
  intro before' content' after' box inside
  rcases Nat.lt_trichotomy before'.length before.length with first | same | later
  · exact first
  · obtain ⟨rest', split', -, closed⟩ := isBox_iff.mp box
    rw [split, List.append_assoc, List.append_assoc before'] at split'
    obtain ⟨rfl, rest_eq⟩ := List.append_inj split' same.symm
    rw [← List.append_cancel_left rest_eq, unclosed] at closed
    cases closed
  · exact absurd (named.start_outside split box later) (Nat.not_le.mpr inside)

theorem none_at_other {before rest : List Char} {c : Char} (split : text = before ++ c :: rest)
    (other : ¬ (escapedAfter before = false ∧ opening name <+: c :: rest)) :
    ∀ before' content' after', IsBox name text before' content' after' →
      before'.length < (before ++ [c]).length → before'.length < before.length := by
  intro before' content' after' box inside
  rw [List.length_append, List.length_singleton] at inside
  refine Nat.lt_of_le_of_ne (Nat.le_of_lt_succ inside) fun same => other ?_
  obtain ⟨rest', split', active, -⟩ := isBox_iff.mp box
  rw [split, List.append_assoc] at split'
  obtain ⟨rfl, rest_eq⟩ := List.append_inj split' same.symm
  exact ⟨active, rest_eq ▸ List.prefix_append _ _⟩

/-- The scan by the rule of the language, from any place that no argument reaches beyond. -/
theorem IsName.finds_boxes (named : IsName name) {before rest : List Char}
    (split : text = before ++ rest) (apart : Apart name text before rest) :
    Finds name text before (boxes oddRun name (escapedAfter before) rest).getLast? := by
  induction length : rest.length using Nat.strongRecOn generalizing before rest with
  | ind n ih =>
    subst length
    by_cases starts : escapedAfter before = false ∧ opening name <+: rest
    · obtain ⟨active, tail, rfl⟩ := starts
      have split' : text = before ++ opening name ++ tail := by rw [split, List.append_assoc]
      cases closed : close oddRun 0 false tail with
      | some cut =>
        obtain ⟨content, after⟩ := cut
        have box : IsBox name text before content after :=
          isBox_iff.mpr ⟨tail, split', active, closed⟩
        obtain ⟨rfl, balanced⟩ := close_eq_some_iff.mp closed
        rw [active, boxes_of_close closed, getLast?_cons_or]
        rw [← List.append_assoc] at apart
        refine named.finds_box box apart ?_
        rw [← escapedAfter_closing (before ++ opening name ++ content)]
        refine ih after.length ?_ ?_ (named.apart_box box apart) rfl
        · simp only [List.length_append, List.length_cons]
          omega
        · rw [box.split, List.append_assoc _ ['}']]
          rfl
      | none =>
        have between := named.none_in_unclosed split' closed
        rw [active, boxes_of_open closed, ← escapedAfter_opening name before]
        refine finds_of_later (ih tail.length ?_ split' ?_ rfl) ?_ between
        · simp [opening]
          omega
        · exact apart_of_later apart (by simp) between
        · simp
    · cases rest with
      | nil =>
        rw [boxes_nil]
        intro before' content' after' box
        have lengths := congrArg List.length (split.symm.trans box.split)
        simp only [List.length_append, List.length_cons, List.length_nil] at lengths
        omega
      | cons c rest =>
        have between := none_at_other split starts
        rw [boxes_cons starts, ← escapedAfter_snoc]
        refine finds_of_later (ih rest.length (Nat.lt_succ_self _) (by simp [split]) ?_ rfl) ?_
          between
        · exact apart_of_later apart (Nat.le_succ _) between
        · simp

/-- A rule agrees with the one of the language before every command that no argument contains, and
before every brace up to which an argument is still open. -/
structure ReadsAlike (next : Bool → Char → Bool) (name text : List Char) : Prop where
  commands : ∀ before after, text = before ++ opening name ++ after →
    Apart name text before (opening name ++ after) → before.foldl next false = escapedAfter before
  braces : ∀ before argument c after, text = before ++ opening name ++ argument ++ c :: after →
    escapedAfter before = false → c = '{' ∨ c = '}' → close oddRun 0 false argument = none →
      (before ++ opening name ++ argument).foldl next false =
        escapedAfter (before ++ opening name ++ argument)

theorem IsName.boxes_alike (named : IsName name) {next : Bool → Char → Bool}
    (set : SetBySlash next) (alike : ReadsAlike next name text) {before rest : List Char}
    (split : text = before ++ rest) (apart : Apart name text before rest) :
    boxes next name (before.foldl next false) rest =
      boxes oddRun name (escapedAfter before) rest := by
  induction length : rest.length using Nat.strongRecOn generalizing before rest with
  | ind n ih =>
    subst length
    have step : ∀ c tail, rest = c :: tail →
        ¬ (escapedAfter before = false ∧ opening name <+: c :: tail) →
          boxes next name (next (before.foldl next false) c) tail =
            boxes oddRun name (oddRun (escapedAfter before) c) tail := by
      rintro c tail rfl other
      have between := none_at_other split other
      have later := @ih tail.length (Nat.lt_succ_self _) (before ++ [c]) tail (by simp [split])
        (apart_of_later apart (Nat.le_succ _) between) rfl
      rwa [List.foldl_append, escapedAfter_append] at later
    by_cases starts : opening name <+: rest
    · obtain ⟨tail, rfl⟩ := starts
      have split' : text = before ++ opening name ++ tail := by rw [split, List.append_assoc]
      have same := alike.commands before tail split' apart
      cases active : escapedAfter before with
      | true =>
        have first : opening name ++ tail = '\\' :: (name ++ ['{'] ++ tail) := by simp [opening]
        have later := step _ _ first (by simp [active])
        rw [same, active] at later
        rw [same, active, first, boxes_cons (by simp), boxes_cons (by simp)]
        exact later
      | false =>
        have inner : close next 0 false tail = close oddRun 0 false tail := by
          refine close_congr fun argument c after cut brace unclosed => ?_
          have whole := alike.braces before argument c after (by rw [split', cut]; simp) active
            brace unclosed
          rwa [List.foldl_append, set.opening, escapedAfter_append, escapedAfter_opening] at whole
        rw [same, active]
        cases closed : close oddRun 0 false tail with
        | some cut =>
          obtain ⟨content, after⟩ := cut
          have box : IsBox name text before content after :=
            isBox_iff.mpr ⟨tail, split', active, closed⟩
          obtain ⟨rfl, balanced⟩ := close_eq_some_iff.mp closed
          rw [boxes_of_close closed, boxes_of_close (inner.trans closed)]
          rw [← List.append_assoc] at apart
          have later := @ih after.length (by simp; omega)
            (before ++ opening name ++ content ++ ['}']) after (by rw [box.split]; simp)
            (named.apart_box box apart) rfl
          rw [escapedAfter_closing, set.after _ _ (by decide)] at later
          rw [later]
        | none =>
          have between := named.none_in_unclosed split' closed
          have later := @ih tail.length (by simp [opening]; omega) (before ++ opening name) tail
            split' (apart_of_later apart (by simp) between) rfl
          rw [set.opening, escapedAfter_opening] at later
          rw [boxes_of_open closed, boxes_of_open (inner.trans closed), later]
    · cases rest with
      | nil => rw [boxes_nil, boxes_nil]
      | cons c tail =>
        rw [boxes_cons fun both => starts both.2, boxes_cons fun both => starts both.2]
        exact step c tail rfl fun both => starts both.2

theorem apart_nil : Apart name text [] text :=
  fun _ _ _ _ impossible => absurd impossible (Nat.not_lt_zero _)

/-- The last argument that the scan finds is the last of those that are in no other, and it finds
none only if there is none. -/
theorem IsName.last_boxes (named : IsName name) (text : List Char) :
    (∀ content, (boxes oddRun name false text).getLast? = some content → IsLast name text content) ∧
      ((boxes oddRun name false text).getLast? = none →
        ∀ before content after, ¬ IsBox name text before content after) := by
  have finds : Finds name text [] (boxes oddRun name (escapedAfter []) text).getLast? :=
    named.finds_boxes rfl apart_nil
  rw [show escapedAfter [] = false from rfl] at finds
  constructor
  · intro content last
    rw [last] at finds
    obtain ⟨before, after, box, outermost, -, latest⟩ := finds
    exact ⟨before, after, box, outermost, latest⟩
  · intro none before content after box
    rw [none] at finds
    exact absurd (finds _ _ _ box) (Nat.not_lt_zero _)

theorem IsLast.unique {content : List Char} (last : IsLast name text content)
    (last' : IsLast name text content') : content = content' := by
  obtain ⟨before, after, box, outermost, latest⟩ := last
  obtain ⟨before', after', box', outermost', latest'⟩ := last'
  have same := Nat.le_antisymm (latest' _ _ _ box outermost) (latest _ _ _ box' outermost')
  exact (box.unique box' same).1

end Last

end UEnv.Braces
