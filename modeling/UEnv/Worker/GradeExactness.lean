import UEnv.Worker.Graders

/-!
# What the graders of pytest and Django read

A run is given by the lines that it prints: the status of each test in the format of the runner, and
other lines in between.
-/

namespace UEnv.Worker

open Tables Text
open Service (isWhiteSpace)

/-- A text on one line. -/
def LineText := {text : List Char // '\n' ∉ text}

/-! ### Formats -/

/-- What a log parser reads in a line. -/
def LogParser.entry : LogParser → List Char → Option (TestId × Bool)
  | .pytest => pytestEntry
  | .django => djangoEntry

/-- How a runner prints its lines, and the parser that reads them. -/
structure Format (Line Status : Type) where
  parser : LogParser
  text : (TestId → Status) → Line → List Char
  id? : Line → Option TestId
  passes : Status → Bool
  clean : ∀ status line, '\n' ∉ text status line

namespace Format

variable {Line Status : Type} (format : Format Line Status) (run : List Line)

/-- The tests of a run. -/
def ids : List TestId := run.filterMap format.id?

def output (status : TestId → Status) : List Char :=
  (run.map (format.text status)).flatMap (· ++ ['\n'])

/-- Whatever the statuses of the tests and the tests that are asked for, these are found passed
exactly if each of them ran and passed, and no two tests have one entry. -/
structure Exact : Prop where
  resolved : ∀ (status : TestId → Status) (failToPass passToPass : List TestId),
    (swebenchGrade format.parser (format.output run status) failToPass passToPass).resolved ↔
      ∀ id ∈ failToPass ++ passToPass, id ∈ format.ids run ∧ format.passes (status id)
  apart : ∀ (status : TestId → Status), ∀ line ∈ run, ∀ line' ∈ run, ∀ id id' key,
    format.id? line = some id → format.id? line' = some id' →
    (format.parser.entry (format.text status line)).map Prod.fst = some key →
    (format.parser.entry (format.text status line')).map Prod.fst = some key → id = id'

end Format

theorem resolved_swebenchGrade (parser : LogParser) (output : List Char)
    (failToPass passToPass : List TestId) :
    (swebenchGrade parser output failToPass passToPass).resolved ↔
      ∀ id ∈ failToPass ++ passToPass, (parser.parse output).passed id := by
  simp only [swebenchGrade, decideReward, Bool.and_eq_true, List.all_eq_true,
    List.forall_mem_append]

variable {printed : List (List Char)}

theorem exists_of_getD_lastStatus {entry : List Char → Option (TestId × Bool)} {id : TestId}
    (passed : (lastStatus entry id printed).getD false) :
    ∃ line ∈ printed, entry line = some (id, true) := by
  rcases last : lastStatus entry id printed with - | told
  · rw [last] at passed
    cases passed
  · rw [last, Option.getD_some] at passed
    exact exists_of_lastStatus (passed ▸ last)

theorem getD_lastStatus_iff {entry : List Char → Option (TestId × Bool)} {id : TestId} {told : Bool}
    (agree : ∀ line ∈ printed, ∀ passed, entry line = some (id, passed) → passed = told) :
    (lastStatus entry id printed).getD false ↔
      told ∧ ∃ line ∈ printed, (entry line).map Prod.fst = some id := by
  constructor
  · intro passed
    obtain ⟨line, member, named⟩ := exists_of_getD_lastStatus passed
    exact ⟨(agree line member true named).symm, line, member, by rw [named]; rfl⟩
  · rintro ⟨rfl, line, member, named⟩
    obtain ⟨⟨key, passed⟩, found, rfl⟩ := Option.map_eq_some_iff.mp named
    obtain ⟨last, lastNamed⟩ := lastStatus_of_mem member found
    obtain ⟨line', member', named'⟩ := exists_of_lastStatus lastNamed
    rw [lastNamed, Option.getD_some]
    exact agree line' member' last named'

namespace Format

variable {Line Status : Type} {format : Format Line Status} {run : List Line}

/-- What the report of a run tells of a test is what the last line tells that names it. -/
theorem passed_output (status : TestId → Status) (id : TestId) :
    (format.parser.parse (format.output run status)).passed id =
      (lastStatus format.parser.entry id (run.map (format.text status))).getD false := by
  have clean : ∀ text ∈ run.map (format.text status), '\n' ∉ text := by
    intro text printed
    obtain ⟨line, _, rfl⟩ := List.mem_map.mp printed
    exact format.clean status line
  rw [TestReport.passed, output]
  cases format.parser with
  | pytest => rw [LogParser.parse, parsePytestReport, lookup_lines pytestEntry_endLine clean]; rfl
  | django => rw [LogParser.parse, parseDjangoReport, lookup_lines djangoEntry_endLine clean]; rfl

theorem exact_of_entries (entries : ∀ (status : TestId → Status), ∀ line ∈ run,
      format.parser.entry (format.text status line) =
        (format.id? line).map fun id => (id, format.passes (status id))) : format.Exact run := by
  constructor
  · intro status failToPass passToPass
    rw [resolved_swebenchGrade]
    refine forall₂_congr fun id _ => ?_
    rw [passed_output]
    have told : ∀ text ∈ run.map (format.text status), ∀ passed,
        format.parser.entry text = some (id, passed) → passed = format.passes (status id) := by
      intro text printed passed named
      obtain ⟨line, member, rfl⟩ := List.mem_map.mp printed
      rw [entries status line member] at named
      obtain ⟨id', _, same⟩ := Option.map_eq_some_iff.mp named
      obtain ⟨rfl, rfl⟩ := Prod.mk.inj same
      rfl
    rw [getD_lastStatus_iff told, and_comm]
    refine and_congr_left fun _ => ?_
    simp only [List.mem_map, exists_exists_and_eq_and, ids, List.mem_filterMap]
    refine exists_congr fun line => and_congr_right fun member => ?_
    rw [entries status line member, Option.map_map]
    simp [Function.comp_def]
  · intro status line member line' member' id id' key named named' found found'
    rw [entries status line member, named] at found
    rw [entries status line' member', named'] at found'
    exact (Option.some.inj found).trans (Option.some.inj found').symm

theorem Exact.entry (exact : format.Exact run) (status : TestId → Status)
    (passes : ∀ id, format.passes (status id)) {id : TestId} (ran : id ∈ format.ids run) :
    ∃ line ∈ run, format.parser.entry (format.text status line) = some (id, true) := by
  have resolved := (exact.resolved status [id] []).mpr fun other member => by
    obtain rfl : other = id := by simpa using member
    exact ⟨ran, passes other⟩
  have passed := (resolved_swebenchGrade _ _ _ _).mp resolved id (by simp)
  rw [passed_output] at passed
  obtain ⟨text, printed, named⟩ := exists_of_getD_lastStatus passed
  obtain ⟨line, member, rfl⟩ := List.mem_map.mp printed
  exact ⟨line, member, named⟩

end Format

/-! ### pytest -/

inductive PytestStatus
  | passed
  | failed
  | error
  | skipped
  | xfail
  | xpass
  deriving DecidableEq

def PytestStatus.word : PytestStatus → List Char
  | .passed => "PASSED".toList
  | .failed => "FAILED".toList
  | .error => "ERROR".toList
  | .skipped => "SKIPPED".toList
  | .xfail => "XFAIL".toList
  | .xpass => "XPASS".toList

/-- A line of a run: the status of a test under `-v` or under `-rA`, or a line without a status
word. -/
inductive PytestLine
  | verbose (id : LineText) (padding percent : Nat)
  | summary (id : LineText)
  | other (text : LineText) (quiet : ∀ token ∈ tokens text.1, token ∉ pytestStatuses)

/-- `[ nn%]`. -/
def progress (percent : Nat) : List Char :=
  let digits := Nat.toDigits 10 percent
  '[' :: List.replicate (3 - digits.length) ' ' ++ digits ++ "%]".toList

def PytestLine.text (status : TestId → PytestStatus) : PytestLine → List Char
  | .verbose id padding percent =>
    id.1 ++ ' ' :: (status id.1).word ++ ' ' :: List.replicate padding ' ' ++ progress percent
  | .summary id => (status id.1).word ++ ' ' :: id.1
  | .other text _ => text.1

def PytestLine.id? : PytestLine → Option TestId
  | .verbose id _ _ => some id.1
  | .summary id => some id.1
  | .other _ _ => none

/-- What the parser relies on in a status word. -/
structure StatusWord (word : List Char) (passed : Bool) : Prop where
  known : word ∈ pytestStatuses
  visible : word ≠ []
  clean : ∀ c ∈ word, isWhiteSpace c = false
  noNode : ¬has "::".toList word
  passed : (word == "PASSED".toList) = passed

theorem clean_of_all {word : List Char} (all : word.all fun c => !isWhiteSpace c) :
    ∀ c ∈ word, isWhiteSpace c = false :=
  fun c member => by simpa using List.all_eq_true.mp all c member

theorem PytestStatus.statusWord (status : PytestStatus) :
    StatusWord status.word (decide (status = .passed)) := by
  cases status <;>
    exact ⟨by decide, by decide, clean_of_all (by decide), by decide, by decide⟩

theorem clean_progress (percent : Nat) : '\n' ∉ progress percent := by
  intro feed
  simp only [progress, List.mem_append, List.mem_cons, List.mem_replicate] at feed
  rcases feed with ((same | ⟨_, same⟩) | digit) | percentSign
  · exact absurd same (by decide)
  · exact absurd same (by decide)
  · exact absurd (Nat.isDigit_of_mem_toDigits (by decide) (by decide) digit) (by decide)
  · exact absurd percentSign (by decide)

theorem PytestStatus.clean_word (status : PytestStatus) : '\n' ∉ status.word :=
  fun feed => absurd (status.statusWord.clean _ feed) (by decide)

theorem PytestLine.clean_text (status : TestId → PytestStatus) (line : PytestLine) :
    '\n' ∉ line.text status := by
  cases line with
  | verbose id =>
    simp [PytestLine.text, id.2, (status id.1).clean_word, clean_progress]
  | summary id => simp [PytestLine.text, id.2, (status id.1).clean_word]
  | other text => exact text.2

def pytestFormat : Format PytestLine PytestStatus where
  parser := .pytest
  text := PytestLine.text
  id? := PytestLine.id?
  passes := fun status => decide (status = .passed)
  clean := PytestLine.clean_text

/-- A node id that is one token. -/
def PlainNodeId (id : TestId) : Prop := has "::".toList id ∧ ∀ c ∈ id, isWhiteSpace c = false

theorem not_has_of_mem_pytestStatuses : ∀ word ∈ pytestStatuses, has "::".toList word = false := by
  decide

theorem PlainNodeId.not_status {id : TestId} (plain : PlainNodeId id) : id ∉ pytestStatuses := by
  intro member
  exact absurd plain.1 (by rw [not_has_of_mem_pytestStatuses id member]; exact Bool.false_ne_true)

theorem PlainNodeId.visible {id : TestId} (plain : PlainNodeId id) : id ≠ [] := by
  rintro rfl
  exact absurd plain.1 (by decide)

theorem pytestEntry_verbose {id : TestId} (plain : PlainNodeId id) (status : PytestStatus)
    (rest : List Char) :
    pytestEntry (id ++ ' ' :: status.word ++ ' ' :: rest) =
      some (id, decide (status = .passed)) := by
  have word := status.statusWord
  have cut : tokens (id ++ ' ' :: status.word ++ ' ' :: rest) =
      id :: status.word :: tokens rest := by
    rw [tokens, words_append_cons rfl, words_append_cons rfl,
      words_of_clean plain.visible plain.2, words_of_clean word.visible word.clean]
    rfl
  have unknown : ¬pytestStatuses.contains id := fun known =>
    plain.not_status (List.contains_iff_mem.mp known)
  rw [pytestEntry, cut, List.find?_cons_of_neg unknown,
    List.find?_cons_of_pos (List.contains_iff_mem.mpr word.known), List.find?_cons_of_pos plain.1,
    Option.bind_some, Option.map_some, word.passed]

theorem pytestEntry_summary {id : TestId} (plain : PlainNodeId id) (status : PytestStatus) :
    pytestEntry (status.word ++ ' ' :: id) = some (id, decide (status = .passed)) := by
  have word := status.statusWord
  have cut : tokens (status.word ++ ' ' :: id) = [status.word, id] := by
    rw [tokens, words_append_cons rfl, words_of_clean plain.visible plain.2,
      words_of_clean word.visible word.clean]
    rfl
  rw [pytestEntry, cut, List.find?_cons_of_pos (List.contains_iff_mem.mpr word.known),
    List.find?_cons_of_neg word.noNode, List.find?_cons_of_pos plain.1, Option.bind_some,
    Option.map_some, word.passed]

theorem pytestEntry_quiet {text : List Char}
    (quiet : ∀ token ∈ tokens text, token ∉ pytestStatuses) : pytestEntry text = none := by
  have none : (tokens text).find? (pytestStatuses.contains ·) = Option.none := by
    rw [List.find?_eq_none]
    intro token member
    simpa using quiet token member
  rw [pytestEntry, none]
  rfl

theorem pytestEntry_text {status : TestId → PytestStatus} {line : PytestLine}
    (plain : ∀ id ∈ line.id?, PlainNodeId id) :
    pytestEntry (line.text status) = line.id?.map fun id => (id, decide (status id = .passed)) := by
  cases line with
  | verbose id =>
    rw [PytestLine.text, List.append_assoc, List.cons_append]
    exact pytestEntry_verbose (plain id.1 rfl) (status id.1) _
  | summary id => exact pytestEntry_summary (plain id.1 rfl) (status id.1)
  | other text quiet => exact pytestEntry_quiet quiet

/-- What a line reports is always of a token with `::`. -/
theorem plain_of_pytestEntry {line : List Char} {id : TestId} {passed : Bool}
    (reported : pytestEntry line = some (id, passed)) : PlainNodeId id := by
  obtain ⟨status, _, reported⟩ := Option.bind_eq_some_iff.mp reported
  obtain ⟨found, node, same⟩ := Option.map_eq_some_iff.mp reported
  obtain rfl : found = id := congrArg Prod.fst same
  exact ⟨List.find?_some node, (mem_words (List.mem_of_find?_eq_some node)).2⟩

theorem exact_pytest_iff (run : List PytestLine) :
    pytestFormat.Exact run ↔ ∀ id ∈ pytestFormat.ids run, PlainNodeId id := by
  constructor
  · intro exact id ran
    obtain ⟨line, _, named⟩ := exact.entry (fun _ => .passed) (fun _ => rfl) ran
    exact plain_of_pytestEntry named
  · intro plain
    refine Format.exact_of_entries fun status line member => pytestEntry_text fun id named => ?_
    exact plain id (List.mem_filterMap.mpr ⟨line, member, named⟩)

/-! ### Django -/

/-- A name of Python, as `unittest` prints it. -/
structure PythonName where
  text : List Char
  visible : text ≠ []
  clean : ∀ c ∈ text, isWhiteSpace c = false ∧ c ≠ '(' ∧ c ≠ ')'

inductive DjangoStatus
  | ok
  | fail
  | error
  | skipped (reason : LineText)
  | expectedFailure
  | unexpectedSuccess

def DjangoStatus.text : DjangoStatus → List Char
  | .ok => "ok".toList
  | .fail => "FAIL".toList
  | .error => "ERROR".toList
  | .skipped reason => "skipped ".toList ++ reason.1
  | .expectedFailure => "expected failure".toList
  | .unexpectedSuccess => "unexpected success".toList

def DjangoStatus.isOk : DjangoStatus → Bool
  | .ok => true
  | _ => false

/-- A line of a run: the status of a test, or a line without a status word. -/
inductive DjangoLine
  | test (method cls : PythonName)
  | other (text : LineText) (noOk : "ok".toList ∉ tokens text.1)
      (quiet : ∀ ending ∈ djangoEndings, ¬has ending text.1)

def djangoId (method cls : PythonName) : TestId := cls.text ++ '.' :: method.text

/-- `method (class)`. -/
def djangoTest (method cls : PythonName) : List Char :=
  method.text ++ " (".toList ++ cls.text ++ ")".toList

def DjangoLine.text (status : TestId → DjangoStatus) : DjangoLine → List Char
  | .test method cls =>
    djangoTest method cls ++ " ... ".toList ++ (status (djangoId method cls)).text
  | .other text _ _ => text.1

def DjangoLine.id? : DjangoLine → Option TestId
  | .test method cls => some (djangoId method cls)
  | .other _ _ _ => none

/-- What the parser relies on in a status. -/
structure StatusText (text : List Char) (isOk : Bool) : Prop where
  clean : '\n' ∉ text
  visible : ∃ c ∈ text, isWhiteSpace c = false
  known : isOk = true ∨
    ∃ word ∈ djangoEndings, word <+: trimText (trimEndBy isWhiteSpace text)
  passed : (trimText (trimEndBy isWhiteSpace text) == "ok".toList) = isOk

theorem trimmed_skipped (reason : List Char) :
    ∃ rest, trimText (trimEndBy isWhiteSpace ("skipped ".toList ++ reason)) =
      "skipped".toList ++ rest := by
  have word : "skipped".toList = 's' :: ['k', 'i', 'p', 'p', 'e', 'd'] := rfl
  have blank : "skipped ".toList = "skipped".toList ++ [' '] := rfl
  have stays : isWhiteSpace 'd' = false := rfl
  have cut : ∀ rest, trimEndBy isWhiteSpace ("skipped".toList ++ rest) =
      "skipped".toList ++ trimEndBy isWhiteSpace rest :=
    fun rest => trimEndBy_append stays ['s', 'k', 'i', 'p', 'p', 'e'] rest
  refine ⟨trimEndBy isWhiteSpace (trimEndBy isWhiteSpace (' ' :: reason)), ?_⟩
  have starts : isWhiteSpace 's' = false := rfl
  calc trimText (trimEndBy isWhiteSpace ("skipped ".toList ++ reason))
      = trimText ("skipped".toList ++ trimEndBy isWhiteSpace (' ' :: reason)) := by
        rw [blank, List.append_assoc, cut]
        rfl
    _ = trimEndBy isWhiteSpace ("skipped".toList ++ trimEndBy isWhiteSpace (' ' :: reason)) := by
        rw [word, List.cons_append]
        exact trimBy_cons starts _
    _ = "skipped".toList ++ trimEndBy isWhiteSpace (trimEndBy isWhiteSpace (' ' :: reason)) :=
        cut _

theorem DjangoStatus.statusText (status : DjangoStatus) : StatusText status.text status.isOk := by
  cases status with
  | ok => exact ⟨by decide, ⟨'o', by decide, rfl⟩, .inl rfl, by decide⟩
  | fail => exact ⟨by decide, ⟨'F', by decide, rfl⟩, .inr ⟨"FAIL".toList, by decide⟩, by decide⟩
  | error => exact ⟨by decide, ⟨'E', by decide, rfl⟩, .inr ⟨"ERROR".toList, by decide⟩, by decide⟩
  | skipped reason =>
    obtain ⟨rest, trimmed⟩ := trimmed_skipped reason.1
    refine ⟨?_, ⟨'s', List.mem_append_left _ (by decide), rfl⟩,
      .inr ⟨"skipped".toList, by decide, rest, trimmed.symm⟩, ?_⟩
    · exact fun feed => (List.mem_append.mp feed).elim (by decide) reason.2
    · rw [show (DjangoStatus.skipped reason).text = "skipped ".toList ++ reason.1 from rfl, trimmed]
      rfl
  | expectedFailure =>
    exact ⟨by decide, ⟨'e', by decide, rfl⟩, .inr ⟨"expected failure".toList, by decide⟩, by decide⟩
  | unexpectedSuccess =>
    exact ⟨by decide, ⟨'u', by decide, rfl⟩, .inr ⟨"unexpected success".toList, by decide⟩,
      by decide⟩

namespace PythonName

variable (name : PythonName)

theorem no_space : ' ' ∉ name.text := fun blank => absurd (name.clean _ blank).1 (by decide)

theorem no_feed : '\n' ∉ name.text := fun feed => absurd (name.clean _ feed).1 (by decide)

theorem trimText_text : trimText name.text = name.text :=
  trimBy_of_clean fun c member => (name.clean c member).1

end PythonName

theorem djangoLabel_test (method cls : PythonName) :
    djangoLabel (djangoTest method cls) = some (djangoId method cls) := by
  have cut : splitAt " (".toList (djangoTest method cls) =
      some (method.text, cls.text ++ [')']) := by
    have opens : " (".toList = ' ' :: ['('] := rfl
    rw [djangoTest, List.append_assoc, List.append_assoc, opens, splitAt_append method.no_space,
      splitAt_needle (List.cons_ne_nil _ _), Option.map_some, List.append_nil]
    rfl
  have closed : trimEndBy (· == ')') (cls.text ++ [')']) = cls.text := by
    rw [trimEndBy_concat (by decide)]
    exact trimEndBy_of_clean fun c member => by simpa using (cls.clean c member).2.2
  rw [djangoLabel, cut, Option.bind_some]
  simp only [closed, cls.trimText_text]
  rw [if_neg (by simp [cls.visible, method.visible]), djangoId]

theorem trimText_djangoTest (method cls : PythonName) :
    trimText (djangoTest method cls) = djangoTest method cls := by
  obtain ⟨c, rest, start⟩ := List.exists_cons_of_ne_nil method.visible
  have stays : isWhiteSpace c = false := (method.clean c (start ▸ List.mem_cons_self)).1
  have closes : isWhiteSpace ')' = false := rfl
  rw [djangoTest, start, List.cons_append, List.cons_append, List.cons_append, trimText,
    trimBy_cons stays, ← List.cons_append]
  exact trimEndBy_append closes _ []

theorem djangoEntry_test (method cls : PythonName) {status : List Char} {isOk : Bool}
    (told : StatusText status isOk) :
    djangoEntry (djangoTest method cls ++ " ... ".toList ++ status) =
      some (djangoId method cls, isOk) := by
  obtain ⟨c, member, stays⟩ := told.visible
  have cut : splitAt " ... ".toList
      (djangoTest method cls ++ " ... ".toList ++ trimEndBy isWhiteSpace status) =
        some (djangoTest method cls, trimEndBy isWhiteSpace status) := by
    have dots : " ... ".toList = ' ' :: ['.', '.', '.', ' '] := rfl
    have opens : " (".toList = ' ' :: ['('] := rfl
    have noSpace : ' ' ∉ '(' :: (cls.text ++ ")".toList) := by
      intro blank
      rcases List.mem_cons.mp blank with same | blank
      · exact absurd same (by decide)
      · exact (List.mem_append.mp blank).elim cls.no_space (by decide)
    have other : ¬(" ... ".toList).isPrefixOf (' ' :: ('(' :: (cls.text ++ ")".toList) ++
          (" ... ".toList ++ trimEndBy isWhiteSpace status))) := by
      simp [dots, List.isPrefixOf]
    have past : splitAt " ... ".toList (method.text ++ (' ' :: ('(' :: (cls.text ++ ")".toList) ++
          (" ... ".toList ++ trimEndBy isWhiteSpace status)))) =
        some (djangoTest method cls, trimEndBy isWhiteSpace status) := by
      rw [dots, splitAt_append method.no_space, splitAt, ← dots, if_neg other, dots,
        splitAt_append noSpace, splitAt_needle (List.cons_ne_nil _ _)]
      simp [djangoTest]
    rw [← past]
    simp [djangoTest]
  rw [djangoEntry, trimEndBy_append_of_mem member stays, cut, Option.bind_some]
  simp only [told.passed, trimText_djangoTest, djangoLabel_test]
  rcases told.known with rfl | ⟨word, ending, starts⟩
  · rfl
  · have known : djangoEndings.any (·.isPrefixOf (trimText (trimEndBy isWhiteSpace status))) :=
      List.any_eq_true.mpr ⟨word, ending, List.isPrefixOf_iff_prefix.mpr starts⟩
    rw [known, Bool.or_true]
    rfl

theorem djangoEntry_quiet {text : List Char} (noOk : "ok".toList ∉ tokens text)
    (quiet : ∀ ending ∈ djangoEndings, ¬has ending text) : djangoEntry text = none := by
  rw [djangoEntry]
  rcases cut : splitAt " ... ".toList (trimEndBy isWhiteSpace text) with - | ⟨left, statusPart⟩
  · rfl
  · have split := splitAt_spec cut
    have notOk : (trimText statusPart == "ok".toList) = false := by
      rw [beq_eq_false_iff_ne]
      intro ok
      refine noOk ?_
      have blank : left ++ " ... ".toList ++ statusPart =
          (left ++ " ...".toList) ++ ' ' :: statusPart := by simp
      have last : words isWhiteSpace statusPart = ["ok".toList] := by
        rw [← words_trimBy, show trimBy isWhiteSpace statusPart = "ok".toList from ok]
        rfl
      rw [tokens, ← words_trimEndBy, split, blank, words_append_cons rfl, last]
      exact List.mem_append_right _ List.mem_cons_self
    have unknown : djangoEndings.any (·.isPrefixOf (trimText statusPart)) = false := by
      rw [List.any_eq_false]
      intro ending member starts
      refine quiet ending member (has_iff_isInfix.mpr ?_)
      have inside : statusPart <:+: trimEndBy isWhiteSpace text :=
        split ▸ (List.suffix_append _ _).isInfix
      exact (List.isPrefixOf_iff_prefix.mp starts).isInfix.trans
        ((trimBy_isInfix statusPart).trans (inside.trans (trimEndBy_isInfix text)))
    refine if_neg ?_
    rw [notOk, unknown]
    exact Bool.false_ne_true

theorem DjangoLine.entry_text (status : TestId → DjangoStatus) (line : DjangoLine) :
    djangoEntry (line.text status) = line.id?.map fun id => (id, (status id).isOk) := by
  cases line with
  | test method cls => exact djangoEntry_test method cls (status _).statusText
  | other text noOk quiet => exact djangoEntry_quiet noOk quiet

theorem DjangoLine.clean_text (status : TestId → DjangoStatus) (line : DjangoLine) :
    '\n' ∉ line.text status := by
  cases line with
  | test method cls =>
    have told := (status (djangoId method cls)).statusText.clean
    simp [DjangoLine.text, djangoTest, method.no_feed, cls.no_feed, told]
  | other text => exact text.2

def djangoFormat : Format DjangoLine DjangoStatus where
  parser := .django
  text := DjangoLine.text
  id? := DjangoLine.id?
  passes := DjangoStatus.isOk
  clean := DjangoLine.clean_text

theorem exact_django (run : List DjangoLine) : djangoFormat.Exact run :=
  Format.exact_of_entries fun status line _ => line.entry_text status

/-- The grading of pytest is exact for the runs all of whose ids are one token with `::`, and for no
others; that of Django always is. -/
theorem grading_exact_iff (run : List PytestLine) (djangoRun : List DjangoLine) :
    (pytestFormat.Exact run ↔ ∀ id ∈ pytestFormat.ids run, PlainNodeId id) ∧
      djangoFormat.Exact djangoRun :=
  ⟨exact_pytest_iff run, exact_django djangoRun⟩

def firstSpaced : LineText := ⟨"t.py::test_add[1 + 1]".toList, by decide⟩

def secondSpaced : LineText := ⟨"t.py::test_add[1 - 1]".toList, by decide⟩

/-- Two passed tests whose ids have spaces. -/
def spacedRun : List PytestLine := [.verbose firstSpaced 20 50, .verbose secondSpaced 20 100]

/-- Both tests have one entry, and neither is found passed. -/
theorem spaced_ids_share_entry : let status : TestId → PytestStatus := fun _ => .passed
    pytestFormat.ids spacedRun = [firstSpaced.1, secondSpaced.1] ∧
      (swebenchGrade .pytest (pytestFormat.output spacedRun status) [firstSpaced.1] []).resolved =
        false ∧
      (parsePytestReport (pytestFormat.output spacedRun status)).toList =
        [("t.py::test_add[1".toList, true)] := by
  decide +kernel

end UEnv.Worker
