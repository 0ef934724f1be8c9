import Mathlib.Data.List.Basic

/-!
# A separator written as a doubled mark

`escape` replaces every separator of a text by two marks, and `unescape` replaces every two marks,
from the left, by a separator. The way back is exact for the texts in which no mark stands before a
mark or a separator, and for no others.
-/

namespace UEnv.Escape

variable {α : Type} [DecidableEq α] {sep mark : α}

variable (sep mark) in
def escape (text : List α) : List α := text.flatMap fun a => if a = sep then [mark, mark] else [a]

variable (sep mark) in
def unescape : List α → List α
  | a :: b :: rest =>
    if a = mark ∧ b = mark then sep :: unescape rest else a :: unescape (b :: rest)
  | text => text

variable (sep mark) in
/-- No mark stands before a mark or a separator. -/
def plain : List α → Bool
  | a :: b :: rest => !(a = mark && (b = mark || b = sep)) && plain (b :: rest)
  | _ => true

theorem escape_cons (a : α) (rest : List α) : escape sep mark (a :: rest) =
      (if a = sep then [mark, mark] else [a]) ++ escape sep mark rest := rfl

theorem unescape_cons_of_ne {a : α} (other : a ≠ mark) (rest : List α) :
    unescape sep mark (a :: rest) = a :: unescape sep mark rest := by
  cases rest with
  | nil => rfl
  | cons => exact if_neg fun both => other both.1

theorem unescape_marks (rest : List α) :
    unescape sep mark (mark :: mark :: rest) = sep :: unescape sep mark rest := if_pos ⟨rfl, rfl⟩

theorem unescape_escape_iff (apart : mark ≠ sep) (text : List α) :
    unescape sep mark (escape sep mark text) = text ↔ plain sep mark text = true := by
  induction text with
  | nil => exact iff_of_true rfl rfl
  | cons a rest ih =>
    rw [escape_cons]
    by_cases isSep : a = sep
    · subst isSep
      rw [if_pos rfl, List.cons_append, List.cons_append, List.nil_append, unescape_marks,
        List.cons.injEq, and_iff_right rfl, ih]
      cases rest with
      | nil => exact iff_of_true rfl rfl
      | cons => simp [plain, Ne.symm apart]
    · rw [if_neg isSep, List.singleton_append]
      by_cases isMark : a = mark
      · subst isMark
        cases rest with
        | nil => exact iff_of_true rfl rfl
        | cons b rest =>
          rw [escape_cons] at ih ⊢
          by_cases nextSep : b = sep
          · subst nextSep
            rw [if_pos rfl, List.cons_append, unescape_marks]
            simp [plain, Ne.symm apart]
          · rw [if_neg nextSep, List.singleton_append] at ih ⊢
            by_cases nextMark : b = a
            · subst nextMark
              rw [unescape_marks]
              simp [plain, Ne.symm apart]
            · have kept : unescape sep a (a :: b :: escape sep a rest) =
                  a :: unescape sep a (b :: escape sep a rest) := if_neg fun both => nextMark both.2
              rw [kept, List.cons.injEq, and_iff_right rfl, ih]
              simp [plain, nextMark, nextSep]
      · rw [unescape_cons_of_ne isMark, List.cons.injEq, and_iff_right rfl, ih]
        cases rest with
        | nil => exact iff_of_true rfl rfl
        | cons => simp [plain, isMark]

end UEnv.Escape
