import UEnv.Plugins.BoxedAnswers
import UEnv.Plugins.NumericAnswers

/-!
# Scoring of OlymMATH

`extract_solution`, `normalize_answer`, `strip_assignment_prefix` and `answers_match` of the
OlymMATH backend.
-/

namespace UEnv.Plugins.OlymMath

open BoxedAnswers NumericAnswers Numerals Panics Text
open Service (isWhiteSpace)

/-- `extract_solution` (olymmath/scoring.rs, 48-56). -/
def extractSolution (text : List Char) : Run (List Char) :=
  (extractBoxed text).map fun
    | some boxed => trim boxed
    | none => trim (afterLast "####".toList text)

local instance lawfulBEqText : LawfulBEq (List Char) := List.instLawfulBEq

/-- What a command becomes. -/
def commandSymbol (cmd : List Char) : List Char :=
  if cmd ∈ ["frac".toList, "cdot".toList, "times".toList] then ['*'] else []

/-- The other characters that are kept. -/
def isSymbol (c : Char) : Bool := c.isAlphanum || c ∈ ".+-*/[](),^".toList

/-- The loop of `normalize_answer`. -/
def normalizeFrom : List Char → List Char
  | [] => []
  | c :: rest =>
    if c = '\\' then
      commandSymbol (rest.takeWhile Char.isAlpha) ++ normalizeFrom (rest.dropWhile Char.isAlpha)
    else if isWhiteSpace c then normalizeFrom rest
    else if isSymbol c then c :: normalizeFrom rest
    else normalizeFrom rest
termination_by text => text.length
decreasing_by
  all_goals
    have shorter := (List.dropWhile_suffix Char.isAlpha (l := rest)).length_le
    simp only [List.length_cons]
    omega

/-- `normalize_answer` (olymmath/scoring.rs, 58-81). -/
def normalizeAnswer (text : List Char) : List Char := (normalizeFrom text).map Char.toLower

def looksLikeVariable (lhs : List Char) : Bool :=
  !lhs.isEmpty && byteLength lhs ≤ 3 && lhs.all fun c => c.isAlphanum || c == '_'

/-- `strip_assignment_prefix` (olymmath/scoring.rs, 87-103). -/
def stripAssignmentPrefix (text : List Char) : List Char :=
  match splitFirst (· = '=') text with
  | some (lhs, rhs) => if looksLikeVariable (trim lhs) ∧ trim rhs ≠ [] then trim rhs else text
  | none => text

/-- `answers_match` for the solution and the target, which is trimmed. -/
def solutionMatches (extracted target : List Char) : Bool :=
  if trim extracted = [] then false
  else if trim extracted = target then true
  else
    let extractedAnswer := stripAssignmentPrefix (trim extracted)
    match numericEquivalent extractedAnswer target with
    | some equal => equal
    | none =>
      let normAction := stripAssignmentPrefix (normalizeAnswer extractedAnswer)
      let normTarget := normalizeAnswer target
      if normAction = [] ∨ normTarget = [] then false else normAction = normTarget

/-- `answers_match` (olymmath/scoring.rs, 105-134). -/
def answersMatch (action target : List Char) : Run Bool :=
  if trim target = [] then .ok false
  else (extractSolution action).map fun extracted => solutionMatches extracted (trim target)

theorem strip_plain {text : List Char} (plain : '=' ∉ text) :
    stripAssignmentPrefix text = text := by
  have absent : splitFirst (· = '=') text = none :=
    splitFirst_none fun c here => decide_eq_false fun same => plain (same ▸ here)
  rw [stripAssignmentPrefix, absent]

end UEnv.Plugins.OlymMath
