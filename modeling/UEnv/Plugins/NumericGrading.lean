import UEnv.Plugins.OlymMath

/-!
# Which numbers are graded as the same

Numbers in ordinary notation, mixed ones among them, and the grading of numeric answers by GSM8K and
OlymMATH.
-/

namespace UEnv.Plugins.NumericGrading

open NumericAnswers Numerals Panics Text

/-! ### Scoring of GSM8K -/

namespace Gsm8k

/-- `extract_solution` (gsm8k/scoring.rs, 3-8). -/
def extractSolution (text : List Char) : List Char := trim (afterLast "####".toList text)

/-- `normalize_answer` (gsm8k/scoring.rs, 10-15). -/
def normalizeAnswer (text : List Char) : List Char :=
  (text.filter fun c => c.isAlphanum || c ∈ ['.', '-', '/']).map Char.toLower

/-- `answers_match` for an action and a target that are trimmed. -/
def trimmedMatch (action target : List Char) : Bool :=
  if action = target then true
  else
    let extracted := extractSolution action
    if trim extracted = [] then false
    else if extracted = target then true
    else
      match numericEquivalent (trim extracted) target with
      | some equal => equal
      | none =>
        let normAction := normalizeAnswer extracted
        let normTarget := normalizeAnswer target
        if normTarget = [] ∨ normAction = [] then false else normAction = normTarget

/-- `answers_match` (gsm8k/scoring.rs, 17-44). -/
def answersMatch (action target : List Char) : Bool :=
  if trim target = [] then false else trimmedMatch (trim action) (trim target)

end Gsm8k

/-! ### What a text denotes -/

/-- A mixed number with blanks around it, and its value. -/
inductive Mixed : List Char → ℚ → Prop
  | mk {w w' lead body digits num bare den text : List Char} {negative : Bool} {a b : ℚ}
      (blank : Blank w) (blank' : Blank w') (led : (lead, negative) ∈ leads)
      (whole : Whole body digits) (decimal : Decimal num bare a) (denominator : Denominator den b)
      (fraction : Fraction text num den) :
      Mixed (w ++ (lead ++ body ++ text) ++ w') (signed negative (value digits + a / b))

def IsMixed (text : List Char) : Prop := ∃ v, Mixed text v

/-- One number in ordinary notation. -/
def Denotes (text : List Char) (v : ℚ) : Prop := Ordinary text v ∨ Mixed text v

def OneNumber (text : List Char) : Prop := ∃ v, Denotes text v

def SameNumber (left right : List Char) : Prop := ∃ v, Denotes left v ∧ Denotes right v

/-- In ordinary notation, or without any character that is dropped within the text. -/
def Readable (text : List Char) : Prop := (∃ v, Ordinary text v) ∨ Clear text

/-- Equal, or further apart than the tolerance. -/
def Distinct (x y : ℚ) : Prop := x = y ∨ tolerance x y < |x - y|

/-- The numbers in the texts are equal or further apart than the tolerance. -/
def Apart (left right : List Char) : Prop :=
  ∀ x y, Ordinary left x → Ordinary right y → Distinct x y

/-- An answer that is accepted is right: what was written is the target, or if the answer or the
target is a number, both are the same one. -/
def Right (written answer target : List Char) : Prop :=
  written = target ∨ (OneNumber answer ∨ OneNumber target → SameNumber answer target)

/-- What was written is the target, or the answer and the target are both numbers or neither is, and
their numbers are equal or further apart than the tolerance. -/
def Comparable (written answer target : List Char) : Prop :=
  written = target ∨ (OneNumber answer ↔ OneNumber target) ∧ Apart answer target

/-! ### Readings -/

variable {v x y : ℚ} {left right : List Char}

theorem readable_iff {text : List Char} (found : parseNumeric text = some v) :
    Readable text ↔ Ordinary text v := by
  constructor
  · rintro (⟨v', ordinary⟩ | clear)
    · obtain rfl := Option.some.inj (ordinary.parse.symm.trans found)
      exact ordinary
    · exact ordinary_of_clear clear found
  · exact fun ordinary => .inl ⟨v, ordinary⟩

theorem Denotes.ordinary {text : List Char} (denotes : Denotes text v) (unmixed : ¬ IsMixed text) :
    Ordinary text v :=
  denotes.resolve_right fun mixed => unmixed ⟨v, mixed⟩

theorem equivalent_of_ordinary (ordinary : Ordinary left x) (ordinary' : Ordinary right y) :
    numericEquivalent left right = some (decide (|x - y| ≤ tolerance x y)) := by
  rw [numericEquivalent, ordinary.parse, Option.bind_some, ordinary'.parse, Option.map_some]

theorem Distinct.eq (distinct : Distinct x y) (near : |x - y| ≤ tolerance x y) : x = y :=
  distinct.resolve_right (not_lt_of_ge near)

/-- A text that is read is one number exactly if it is readable, unless it is a mixed number. -/
theorem oneNumber_iff {text : List Char} (found : parseNumeric text = some v)
    (unmixed : ¬ IsMixed text) : OneNumber text ↔ Readable text := by
  rw [readable_iff found]
  constructor
  · rintro ⟨v', denotes⟩
    have ordinary := denotes.ordinary unmixed
    obtain rfl := Option.some.inj (ordinary.parse.symm.trans found)
    exact ordinary
  · exact fun ordinary => ⟨v, .inl ordinary⟩

theorem sameNumber_iff (accepted : numericEquivalent left right = some true)
    (unmixed : ¬ IsMixed left) (unmixed' : ¬ IsMixed right) :
    SameNumber left right ↔ Readable left ∧ Readable right ∧ Apart left right := by
  obtain ⟨x, found, rest⟩ := Option.bind_eq_some_iff.mp accepted
  obtain ⟨y, found', near⟩ := Option.map_eq_some_iff.mp rest
  have near := of_decide_eq_true near
  rw [readable_iff found, readable_iff found']
  constructor
  · rintro ⟨v, denotes, denotes'⟩
    have ordinary := denotes.ordinary unmixed
    have ordinary' := denotes'.ordinary unmixed'
    obtain rfl := Option.some.inj (ordinary.parse.symm.trans found)
    obtain rfl := Option.some.inj (ordinary'.parse.symm.trans found')
    refine ⟨ordinary, ordinary', fun x y first second => .inl ?_⟩
    rw [first.unique ordinary, second.unique ordinary']
  · rintro ⟨ordinary, ordinary', apart⟩
    have same := (apart x y ordinary ordinary').eq near
    exact ⟨x, .inl ordinary, .inl (same ▸ ordinary')⟩

/-! ### Characters of numbers -/

def isOrdinary (c : Char) : Bool :=
  Service.isWhiteSpace c || isNumeral c || c ∈ "/{}\\dtfrac".toList

def Made (text : List Char) : Prop := ∀ c ∈ text, isOrdinary c = true

theorem Made.append {text rest : List Char} (made : Made text) (made' : Made rest) :
    Made (text ++ rest) := by
  intro c here
  rcases List.mem_append.mp here with here | here
  · exact made c here
  · exact made' c here

theorem Made.cons {c : Char} {rest : List Char} (here : isOrdinary c = true) (made : Made rest) :
    Made (c :: rest) := by
  intro d there
  rcases List.mem_cons.mp there with rfl | there
  · exact here
  · exact made d there

theorem made_blank {w : List Char} (blank : Blank w) : Made w :=
  fun c here => by rw [isOrdinary, blank c here, Bool.true_or, Bool.true_or]

theorem made_numeral {text : List Char} (numeral : Numeral text) : Made text :=
  fun c here => by rw [isOrdinary, numeral c here, Bool.or_true, Bool.true_or]

theorem made_cmd : ∀ cmd ∈ cmds, cmd.all isOrdinary = true := by decide

theorem made_ordinary {text : List Char} (ordinary : Ordinary text v) : Made text := by
  obtain ⟨w, body, w', blank, blank', rfl, plain⟩ := ordinary
  refine ((made_blank blank).append ?_).append (made_blank blank')
  cases plain with
  | number number => exact made_numeral number.cleaned.1
  | ratio number denominator =>
    exact (made_numeral number.cleaned.1).append
      (.cons (by decide) (made_numeral denominator.cleaned.1))
  | @fraction lead num den text a b led number denominator fraction =>
    obtain ⟨cmd, w₁, w₂, w₃, w₄, known, blank₁, blank₂, blank₃, blank₄, rfl⟩ := fraction.cut
    have numeral := number.cleaned.1
    have front : Numeral lead := fun c here => numeral c (List.mem_append_left _ here)
    have inner : Numeral num := fun c here => numeral c (List.mem_append_right _ here)
    have upper := ((made_blank blank₁).append (made_numeral inner)).append (made_blank blank₂)
    have lower := ((made_blank blank₃).append (made_numeral denominator.cleaned.1)).append
      (made_blank blank₄)
    have command : Made cmd := List.all_eq_true.mp (made_cmd cmd known)
    refine (made_numeral front).append (((command.append upper).append ?_).append ?_)
    · exact .cons (by decide) (.cons (by decide) lower)
    · exact .cons (by decide) fun c here => absurd here List.not_mem_nil

theorem not_mem_ordinary {text : List Char} (ordinary : Ordinary text v) {c : Char}
    (other : isOrdinary c = false) : c ∉ text := by
  intro here
  rw [made_ordinary ordinary c here] at other
  cases other

/-! ### Grading -/

theorem afterLast_hashes {text : List Char} (plain : '#' ∉ text) :
    afterLast "####".toList text = text := by
  have absent : splitAt "####".toList.reverse text.reverse = none :=
    splitAt_absent fun here => plain (List.mem_reverse.mp here)
  rw [afterLast, absent]

section Grading

variable {action target : List Char} {x y : ℚ}

theorem gsm8k_same (matched : Gsm8k.answersMatch action target = true)
    (ordinary : Ordinary (Gsm8k.extractSolution (trim action)) x)
    (ordinary' : Ordinary (trim target) y) (distinct : Distinct x y) : x = y := by
  rw [Gsm8k.answersMatch] at matched
  split at matched
  · cases matched
  · rw [Gsm8k.trimmedMatch] at matched
    split at matched
    · rename_i same
      have plain : '#' ∉ trim action := same ▸ not_mem_ordinary ordinary' (by decide)
      rw [Gsm8k.extractSolution, afterLast_hashes plain, same] at ordinary
      exact ordinary.unique ordinary'.trim
    · dsimp only at matched
      split at matched
      · cases matched
      · split at matched
        · rename_i same
          rw [same] at ordinary
          exact ordinary.unique ordinary'
        · rw [equivalent_of_ordinary ordinary.trim ordinary'] at matched
          exact distinct.eq (of_decide_eq_true matched)

theorem olymMath_same {solution : List Char}
    (matched : OlymMath.solutionMatches solution (trim target) = true)
    (ordinary : Ordinary (OlymMath.stripAssignmentPrefix (trim solution)) x)
    (ordinary' : Ordinary (trim target) y) (distinct : Distinct x y) : x = y := by
  rw [OlymMath.solutionMatches] at matched
  split at matched
  · cases matched
  · split at matched
    · rename_i same
      have plain : '=' ∉ trim solution := same ▸ not_mem_ordinary ordinary' (by decide)
      rw [OlymMath.strip_plain plain, same] at ordinary
      exact ordinary.unique ordinary'
    · dsimp only at matched
      rw [equivalent_of_ordinary ordinary ordinary'] at matched
      exact distinct.eq (of_decide_eq_true matched)

/-- A grader that is right on numbers that are equal or far apart is so exactly on texts that are
comparable: the comparison of strings takes a number for what is none. -/
theorem right_iff {written answer : List Char} (unmixed : ¬ IsMixed answer)
    (unmixed' : ¬ IsMixed target)
    (same : ∀ x y, Ordinary answer x → Ordinary target y → Distinct x y → x = y) :
    Right written answer target ↔ Comparable written answer target := by
  refine or_congr_right' fun _ => ⟨fun right => ⟨⟨?_, ?_⟩, ?_⟩, ?_⟩
  · intro one
    obtain ⟨v, -, denotes'⟩ := right (.inl one)
    exact ⟨v, denotes'⟩
  · intro one
    obtain ⟨v, denotes, -⟩ := right (.inr one)
    exact ⟨v, denotes⟩
  · intro x y ordinary ordinary'
    obtain ⟨v, denotes, denotes'⟩ := right (.inl ⟨x, .inl ordinary⟩)
    rw [ordinary.unique (denotes.ordinary unmixed), ordinary'.unique (denotes'.ordinary unmixed')]
    exact .inl rfl
  · rintro ⟨both, apart⟩ one
    obtain ⟨x, denotes⟩ := one.elim id both.mpr
    obtain ⟨y, denotes'⟩ := one.elim both.mp id
    have ordinary := denotes.ordinary unmixed
    have ordinary' := denotes'.ordinary unmixed'
    obtain rfl := same x y ordinary ordinary' (apart x y ordinary ordinary')
    exact ⟨x, denotes, denotes'⟩

end Grading

theorem unmixed_of_plain {text : List Char} (plain : '\\' ∉ text) : ¬ IsMixed text := by
  rintro ⟨v, mixed⟩
  obtain ⟨blank, blank', led, whole, decimal, denominator, fraction⟩ := mixed
  obtain ⟨cmd, w₁, w₂, w₃, w₄, known, -, -, -, -, rfl⟩ := fraction.cut
  obtain ⟨name, rfl⟩ := cmds_slash cmd known
  simp at plain

theorem read_of_denotes {text : List Char} (plain : '\\' ∉ text) (denotes : Denotes text v) :
    parseNumeric text = some v :=
  (denotes.ordinary (unmixed_of_plain plain)).parse

end UEnv.Plugins.NumericGrading
