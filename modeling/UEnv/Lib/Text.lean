import Mathlib.Data.List.Infix

/-!
# Searching and cutting text

The methods of `str` that line-based readers are made of, on the list of the characters.
-/

namespace UEnv.Text

variable {α : Type}

/-- What stands before and after the first item that has the property. -/
def splitFirst (p : α → Bool) : List α → Option (List α × List α)
  | [] => none
  | c :: rest =>
    if p c then some ([], rest) else (splitFirst p rest).map fun cut => (c :: cut.1, cut.2)

/-- What stands before and after the last item that has the property. -/
def splitLast (p : α → Bool) (text : List α) : Option (List α × List α) :=
  (splitFirst p text.reverse).map fun cut => (cut.2.reverse, cut.1.reverse)

/-- What stands before and after the first occurrence of a text. -/
def splitAt [BEq α] (needle : List α) : List α → Option (List α × List α)
  | [] => if needle.isEmpty then some ([], []) else none
  | c :: rest =>
    if needle.isPrefixOf (c :: rest) then some ([], (c :: rest).drop needle.length)
    else (splitAt needle rest).map fun cut => (c :: cut.1, cut.2)

/-- `str::contains` with a text. -/
def has [BEq α] (needle text : List α) : Bool := (splitAt needle text).isSome

/-- The items up to the end at which the property fails from both sides. -/
def trimBy (p : α → Bool) (text : List α) : List α :=
  ((text.dropWhile p).reverse.dropWhile p).reverse

/-- `str::trim_end_matches`. -/
def trimEndBy (p : α → Bool) (text : List α) : List α := (text.reverse.dropWhile p).reverse

/-- The stretches between the items that have the property, the empty ones left out. -/
def words (p : α → Bool) (text : List α) : List (List α) := (text.splitOnP p).filter (· ≠ [])

/-- What stands after the last occurrence of a text, or everything. -/
def afterLast [BEq α] (needle text : List α) : List α :=
  match splitAt needle.reverse text.reverse with
  | some (after, _) => after.reverse
  | none => text

/-- A line feed ends a line, with a carriage return before it if there is one. -/
def endLine (reversed : List Char) : List Char :=
  match reversed with
  | '\r' :: line => line.reverse
  | line => line.reverse

/-- `str::lines`, with the characters of the line so far in reverse. -/
def linesFrom (line : List Char) : List Char → List (List Char)
  | [] => if line.isEmpty then [] else [line.reverse]
  | '\n' :: rest => endLine line :: linesFrom [] rest
  | c :: rest => linesFrom (c :: line) rest

def lines (text : List Char) : List (List Char) := linesFrom [] text

/-- The lines with their ends, for the characters that end a line, with the characters of the line
so far in reverse. A carriage return before a line feed does not end a line. -/
def keptLinesFrom (ends : Char → Bool) (line : List Char) : List Char → List (List Char)
  | [] => if line.isEmpty then [] else [line.reverse]
  | c :: rest =>
    if ends c && !(c == '\r' && rest.head? == some '\n') then
      (c :: line).reverse :: keptLinesFrom ends [] rest
    else keptLinesFrom ends (c :: line) rest

/-- `str.splitlines(keepends=True)`, for the characters that end a line. -/
def keptLines (ends : Char → Bool) (text : List Char) : List (List Char) :=
  keptLinesFrom ends [] text

/-- `str::len`. -/
def byteLength (text : List Char) : Nat := text.foldl (fun n c => n + c.utf8Size) 0

/-- What stands after the last line feed. -/
def lastLine (text : List Char) : List Char := (text.reverse.takeWhile (· ≠ '\n')).reverse

theorem byteLength_cons (c : Char) (text : List Char) :
    byteLength (c :: text) = c.utf8Size + byteLength text := by
  have shift : ∀ (rest : List Char) (n : Nat),
      rest.foldl (fun n c => n + c.utf8Size) n = n + byteLength rest := by
    intro rest
    induction rest with
    | nil => exact fun n => rfl
    | cons d rest ih =>
      intro n
      rw [byteLength, List.foldl_cons, List.foldl_cons, ih, ih (0 + d.utf8Size)]
      omega
  rw [byteLength, List.foldl_cons, shift, Nat.zero_add]

/-- `&text[..n]`; it panics when `n` is past the end or inside a character. -/
def sliceTo : Nat → List Char → Option (List Char)
  | 0, _ => some []
  | _ + 1, [] => none
  | n + 1, c :: rest =>
    if c.utf8Size ≤ n + 1 then (sliceTo (n + 1 - c.utf8Size) rest).map (c :: ·) else none

variable {text line : List Char}

theorem sliceTo_eq_some_iff {n : Nat} {kept : List Char} :
    sliceTo n text = some kept ↔ kept <+: text ∧ byteLength kept = n := by
  induction text generalizing n kept with
  | nil =>
    rw [List.prefix_nil]
    cases n with
    | zero =>
      rw [sliceTo, Option.some.injEq]
      exact ⟨fun same => ⟨same.symm, same ▸ rfl⟩, fun both => both.1.symm⟩
    | succ n =>
      refine iff_of_false (fun impossible => by cases impossible) ?_
      rintro ⟨rfl, long⟩
      cases long
  | cons c rest ih =>
    have size := c.utf8Size_pos
    cases n with
    | zero =>
      rw [sliceTo, Option.some.injEq]
      constructor
      · rintro rfl
        exact ⟨List.nil_prefix, rfl⟩
      · rintro ⟨_, empty⟩
        cases kept with
        | nil => rfl
        | cons d =>
          rw [byteLength_cons] at empty
          have := d.utf8Size_pos
          omega
    | succ n =>
      rw [sliceTo]
      split
      · next fits =>
        rw [Option.map_eq_some_iff]
        constructor
        · rintro ⟨more, cut, rfl⟩
          obtain ⟨inside, length⟩ := ih.mp cut
          refine ⟨List.cons_prefix_cons.mpr ⟨rfl, inside⟩, ?_⟩
          rw [byteLength_cons]
          omega
        · rintro ⟨inside, length⟩
          cases kept with
          | nil => cases length
          | cons d more =>
            obtain ⟨rfl, tail⟩ := List.cons_prefix_cons.mp inside
            rw [byteLength_cons] at length
            exact ⟨more, ih.mpr ⟨tail, by omega⟩, rfl⟩
      · next long =>
        refine iff_of_false (fun impossible => by cases impossible) ?_
        rintro ⟨inside, length⟩
        cases kept with
        | nil => cases length
        | cons =>
          obtain ⟨rfl, _⟩ := List.cons_prefix_cons.mp inside
          rw [byteLength_cons] at length
          omega

theorem splitAt_spec [BEq α] [LawfulBEq α] {needle text before after : List α}
    (cut : splitAt needle text = some (before, after)) : text = before ++ needle ++ after := by
  induction text generalizing before with
  | nil =>
    cases needle with
    | nil =>
      simp only [splitAt, List.isEmpty_nil, if_true, Option.some.injEq, Prod.mk.injEq] at cut
      obtain ⟨rfl, rfl⟩ := cut
      rfl
    | cons => simp [splitAt] at cut
  | cons c rest ih =>
    rw [splitAt] at cut
    split at cut
    · rename_i found
      obtain ⟨rfl, rfl⟩ : [] = before ∧ (c :: rest).drop needle.length = after := by simpa using cut
      obtain ⟨tail, split⟩ := List.isPrefixOf_iff_prefix.mp found
      simp [← split]
    · obtain ⟨⟨before', after'⟩, inner, same⟩ := Option.map_eq_some_iff.mp cut
      obtain ⟨rfl, rfl⟩ : c :: before' = before ∧ after' = after := by simpa using same
      rw [ih inner]
      rfl

theorem keptLinesFrom_flatten (ends : Char → Bool) (line text : List Char) :
    (keptLinesFrom ends line text).flatten = line.reverse ++ text := by
  induction text generalizing line with
  | nil =>
    rw [keptLinesFrom]
    split
    · simp_all
    · simp
  | cons c rest ih =>
    rw [keptLinesFrom]
    split
    · simp [ih]
    · simp [ih]

theorem keptLines_flatten (ends : Char → Bool) (text : List Char) :
    (keptLines ends text).flatten = text := by
  rw [keptLines, keptLinesFrom_flatten, List.reverse_nil, List.nil_append]

/-- What stands between two positions. -/
def between (text : List α) (i j : Nat) : List α := (text.take (max i j)).drop (min i j)

/-- Text put in at two positions gives the same exactly if it commutes with what is between. -/
theorem splice_eq_iff_of_le (text new : List α) {i j : Nat} (le : i ≤ j) :
    text.take i ++ new ++ text.drop i = text.take j ++ new ++ text.drop j ↔
      new ++ (text.take j).drop i = (text.take j).drop i ++ new := by
  generalize between : (text.take j).drop i = middle
  have head : text.take j = text.take i ++ middle := by
    rw [← between]
    nth_rewrite 1 [← List.take_append_drop i (text.take j)]
    rw [List.take_take, min_eq_left le]
  have tail : text.drop i = middle ++ text.drop j := by
    have rest : text.drop j = (text.drop i).drop (j - i) := by
      rw [List.drop_drop, Nat.add_sub_cancel' le]
    rw [← between, List.drop_take, rest, List.take_append_drop]
  rw [head, tail]
  constructor
  · intro same
    have same : new ++ (middle ++ text.drop j) = middle ++ (new ++ text.drop j) := by
      simpa using same
    rw [← List.append_assoc, ← List.append_assoc] at same
    exact List.append_cancel_right same
  · intro commutes
    simpa using congrArg (text.take i ++ · ++ text.drop j) commutes

theorem splice_eq_iff (text new : List α) (i j : Nat) :
    text.take i ++ new ++ text.drop i = text.take j ++ new ++ text.drop j ↔
      new ++ between text i j = between text i j ++ new := by
  rcases le_total i j with le | le
  · rw [splice_eq_iff_of_le text new le, between, max_eq_right le, min_eq_left le]
  · rw [eq_comm, splice_eq_iff_of_le text new le, between, max_eq_left le, min_eq_right le]

theorem linesFrom_cons {c : Char} (other : c ≠ '\n') (text : List Char) :
    linesFrom line (c :: text) = linesFrom (c :: line) text := by
  rw [linesFrom]
  exact other

theorem linesFrom_append (line text rest : List Char) :
    linesFrom line (text ++ '\n' :: rest) = linesFrom line (text ++ ['\n']) ++ lines rest := by
  induction text generalizing line with
  | nil => rfl
  | cons c text ih =>
    by_cases feed : c = '\n'
    · subst feed
      simp only [List.cons_append, linesFrom]
      rw [ih]
    · rw [List.cons_append, List.cons_append, linesFrom_cons feed, linesFrom_cons feed, ih]

theorem linesFrom_of_clean (clean : '\n' ∉ text) (visible : line ≠ [] ∨ text ≠ []) :
    linesFrom line text = [line.reverse ++ text] := by
  induction text generalizing line with
  | nil => simpa [linesFrom] using visible
  | cons c text ih =>
    rw [List.mem_cons, not_or] at clean
    rw [linesFrom_cons (Ne.symm clean.1), ih clean.2 (.inl (List.cons_ne_nil _ _))]
    simp

theorem linesFrom_feed (clean : '\n' ∉ text) :
    linesFrom line (text ++ ['\n']) = [endLine (text.reverse ++ line)] := by
  induction text generalizing line with
  | nil => simp [linesFrom]
  | cons c text ih =>
    rw [List.mem_cons, not_or] at clean
    rw [List.cons_append, linesFrom_cons (Ne.symm clean.1), ih clean.2]
    simp

theorem lastLine_concat (text : List Char) (c : Char) :
    lastLine (text ++ [c]) = if c = '\n' then [] else lastLine text ++ [c] := by
  by_cases feed : c = '\n' <;> simp [lastLine, feed]

theorem lastLine_clean (text : List Char) : '\n' ∉ lastLine text := by
  induction text using List.reverseRecOn with
  | nil => exact List.not_mem_nil
  | append_singleton text c ih =>
    rw [lastLine_concat]
    split
    · exact List.not_mem_nil
    · rename_i other
      simp [ih, Ne.symm other]

theorem lastLine_spec (text : List Char) :
    text = lastLine text ∨ ∃ before, text = before ++ '\n' :: lastLine text := by
  induction text using List.reverseRecOn with
  | nil => exact .inl rfl
  | append_singleton text c ih =>
    rw [lastLine_concat]
    split
    · rename_i feed
      exact .inr ⟨text, by rw [feed]⟩
    · rcases ih with whole | ⟨before, split⟩
      · exact .inl (by rw [← whole])
      · refine .inr ⟨before, ?_⟩
        rw [← List.cons_append, ← List.append_assoc, ← split]

theorem lines_append (text : List Char) {body : List Char} (clean : '\n' ∉ body)
    (visible : body ≠ []) :
    ∃ before, lines (text ++ body) = before ++ [lastLine text ++ body] ∧
      lines (text ++ body ++ ['\n']) = before ++ [endLine (lastLine text ++ body).reverse] := by
  have joined : '\n' ∉ lastLine text ++ body := by simp [clean, lastLine_clean]
  have some : lastLine text ++ body ≠ [] := by simp [visible]
  rcases lastLine_spec text with whole | ⟨before, split⟩
  · refine ⟨[], ?_, ?_⟩
    · rw [← whole] at joined some ⊢
      exact linesFrom_of_clean joined (.inr some)
    · rw [← whole] at joined ⊢
      rw [lines, linesFrom_feed joined, List.append_nil, List.nil_append]
  · refine ⟨linesFrom [] (before ++ ['\n']), ?_, ?_⟩
    · have later := linesFrom_append [] before (lastLine text ++ body)
      rw [lines, linesFrom_of_clean joined (.inr some), ← List.cons_append, ← List.append_assoc,
        ← split] at later
      exact later
    · have later := linesFrom_append [] before (lastLine text ++ body ++ ['\n'])
      rw [lines, linesFrom_feed joined, List.append_nil, ← List.cons_append, ← List.cons_append,
        ← List.append_assoc, ← List.append_assoc, ← split] at later
      exact later

example : lines "a\r\n\nb".toList = ["a".toList, [], "b".toList] := by decide

theorem endLine_reverse (line : List Char) :
    endLine line.reverse = line ∨ line = endLine line.reverse ++ ['\r'] := by
  unfold endLine
  split
  · next rest ended =>
    refine .inr ?_
    rw [← List.reverse_reverse line, ended, List.reverse_cons]
  · exact .inl (List.reverse_reverse line)

/-- The lines of a text that was made of lines, each without a carriage return at its end. -/
theorem lines_flatMap {printed : List (List Char)} (clean : ∀ line ∈ printed, '\n' ∉ line) :
    lines (printed.flatMap (· ++ ['\n'])) = printed.map fun line => endLine line.reverse := by
  induction printed with
  | nil => rfl
  | cons line rest ih =>
    rw [List.flatMap_cons, List.append_assoc, List.singleton_append, lines, linesFrom_append,
      linesFrom_feed (clean line List.mem_cons_self),
      ih fun other member => clean other (List.mem_cons_of_mem _ member)]
    simp

/-! ### Words -/

section Words

variable {p : α → Bool}

variable {text word : List α} {c : α}

theorem clean_of_mem_splitOnP (member : word ∈ text.splitOnP p) : ∀ c ∈ word, p c = false := by
  induction text generalizing word with
  | nil =>
    obtain rfl : word = [] := by simpa using member
    exact fun c none => absurd none List.not_mem_nil
  | cons d rest ih =>
    rw [List.splitOnP_cons_eq_if_modifyHead] at member
    split at member
    · rcases List.mem_cons.mp member with rfl | member
      · exact fun c none => absurd none List.not_mem_nil
      · exact ih member
    · next clean =>
      obtain ⟨first, others, cut⟩ := List.exists_cons_of_ne_nil (List.splitOnP_ne_nil p rest)
      rw [cut, List.modifyHead_cons] at member
      rcases List.mem_cons.mp member with rfl | member
      · intro c inside
        rcases List.mem_cons.mp inside with rfl | inside
        · simpa using clean
        · exact ih (cut ▸ List.mem_cons_self) c inside
      · exact ih (cut ▸ List.mem_cons_of_mem _ member)

theorem mem_words (member : word ∈ words p text) : word ≠ [] ∧ ∀ c ∈ word, p c = false := by
  obtain ⟨piece, some⟩ := List.mem_filter.mp member
  exact ⟨by simpa using some, clean_of_mem_splitOnP piece⟩

@[simp] theorem words_nil : words p [] = [] := rfl

theorem words_append_cons (separates : p c) (before after : List α) :
    words p (before ++ c :: after) = words p before ++ words p after := by
  rw [words, List.splitOnP_append_cons _ _ separates, List.filter_append]
  rfl

theorem words_cons (separates : p c) (after : List α) : words p (c :: after) = words p after :=
  words_append_cons separates [] after

theorem words_of_clean (some : text ≠ []) (clean : ∀ c ∈ text, p c = false) :
    words p text = [text] := by
  rw [words, List.splitOnP_eq_singleton clean, List.filter_singleton]
  simp [some]

theorem words_dropWhile (text : List α) : words p (text.dropWhile p) = words p text := by
  induction text with
  | nil => rfl
  | cons c rest ih =>
    rw [List.dropWhile_cons]
    split
    · next separates => rw [ih, words_cons separates]
    · rfl

theorem words_trimEndBy (text : List α) : words p (trimEndBy p text) = words p text := by
  induction text using List.reverseRecOn with
  | nil => rfl
  | append_singleton text c ih =>
    rw [trimEndBy, List.reverse_append, List.reverse_singleton, List.singleton_append,
      List.dropWhile_cons]
    split
    · next separates =>
      rw [words_append_cons separates, words_nil, List.append_nil]
      exact ih
    · rw [List.reverse_cons, List.reverse_reverse]

theorem words_trimBy (text : List α) : words p (trimBy p text) = words p text :=
  (words_trimEndBy (text.dropWhile p)).trans (words_dropWhile text)

end Words

/-! ### Trimming -/

section Trimming

variable {p : α → Bool}

variable {c : α} {text : List α}

theorem trimEndBy_append (stays : p c = false) (before after : List α) :
    trimEndBy p (before ++ c :: after) = before ++ c :: trimEndBy p after := by
  have cut : ((before ++ c :: after).reverse.dropWhile p) =
      after.reverse.dropWhile p ++ c :: before.reverse := by
    rw [List.reverse_append, List.reverse_cons, List.append_assoc, List.singleton_append]
    rw [List.dropWhile_append]
    split
    · next all =>
      rw [List.isEmpty_iff.mp all, List.nil_append, List.dropWhile_cons, if_neg (by simp [stays])]
    · rfl
  rw [trimEndBy, trimEndBy, cut]
  simp

theorem trimEndBy_append_of_mem {after : List α} (member : c ∈ after) (stays : p c = false)
    (before : List α) : trimEndBy p (before ++ after) = before ++ trimEndBy p after := by
  obtain ⟨front, back, rfl⟩ := List.append_of_mem member
  rw [← List.append_assoc, trimEndBy_append stays, trimEndBy_append stays, List.append_assoc]

theorem trimEndBy_concat (trimmed : p c) (text : List α) :
    trimEndBy p (text ++ [c]) = trimEndBy p text := by
  rw [trimEndBy, List.reverse_append, List.reverse_singleton, List.singleton_append,
    List.dropWhile_cons_of_pos trimmed]
  rfl

theorem trimEndBy_of_clean (clean : ∀ c ∈ text, p c = false) : trimEndBy p text = text := by
  cases text using List.reverseRecOn with
  | nil => rfl
  | append_singleton text c => exact trimEndBy_append (clean c (by simp)) text []

theorem trimBy_cons (stays : p c = false) (rest : List α) :
    trimBy p (c :: rest) = trimEndBy p (c :: rest) := by
  rw [trimBy, List.dropWhile_cons_of_neg (by simp [stays])]
  rfl

theorem trimBy_of_clean (clean : ∀ c ∈ text, p c = false) : trimBy p text = text := by
  cases text with
  | nil => rfl
  | cons c =>
    rw [trimBy_cons (clean c List.mem_cons_self)]
    exact trimEndBy_of_clean clean

theorem trimEndBy_isInfix (text : List α) : trimEndBy p text <:+: text := by
  have shorter := List.reverse_prefix.mpr (List.dropWhile_suffix p : _ <:+ text.reverse)
  rw [List.reverse_reverse] at shorter
  exact shorter.isInfix

theorem trimBy_isInfix (text : List α) : trimBy p text <:+: text :=
  (trimEndBy_isInfix (text.dropWhile p)).trans (List.dropWhile_suffix p).isInfix

end Trimming

/-! ### Occurrences -/

section Occurrences

variable [BEq α] [LawfulBEq α] {needle : List α}

theorem has_iff_isInfix {text : List α} : has needle text ↔ needle <:+: text := by
  unfold has
  induction text with
  | nil => simp [splitAt]
  | cons c rest ih =>
    rw [splitAt, List.infix_cons_iff]
    split
    · next starts => simp [List.isPrefixOf_iff_prefix.mp starts]
    · next other =>
      rw [Option.isSome_map, ih]
      refine ⟨.inr, fun both => both.resolve_left fun starts => other ?_⟩
      exact List.isPrefixOf_iff_prefix.mpr starts

theorem splitAt_needle (visible : needle ≠ []) (after : List α) :
    splitAt needle (needle ++ after) = some ([], after) := by
  cases needle with
  | nil => exact absurd rfl visible
  | cons =>
    rw [List.cons_append, splitAt, ← List.cons_append,
      if_pos (List.isPrefixOf_iff_prefix.mpr (List.prefix_append _ _)), List.drop_left]

theorem splitAt_append {c : α} {rest before : List α} (clean : c ∉ before) (text : List α) :
    splitAt (c :: rest) (before ++ text) =
      (splitAt (c :: rest) text).map fun cut => (before ++ cut.1, cut.2) := by
  induction before with
  | nil => simp
  | cons d before ih =>
    rw [List.mem_cons, not_or] at clean
    have other : ¬(c :: rest).isPrefixOf (d :: (before ++ text)) := by
      rw [List.isPrefixOf_iff_prefix, List.cons_prefix_cons]
      exact fun starts => clean.1 starts.1
    rw [List.cons_append, splitAt, if_neg other, ih clean.2, Option.map_map]
    rfl

end Occurrences

end UEnv.Text
