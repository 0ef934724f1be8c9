import Mathlib.Algebra.Order.Field.Rat
import UEnv.Lib.Text

/-!
# Numerals

Decimal numbers of any length as they are written, with commas between groups of three digits or
without them, and a reader for those without commas.
-/

namespace UEnv.Numerals

/-! ### Writing -/

def Digits (text : List Char) : Prop := ∀ c ∈ text, c.isDigit = true

instance (text : List Char) : Decidable (Digits text) :=
  decidable_of_iff (text.all Char.isDigit = true) List.all_eq_true

/-- The value of a stretch of digits. -/
def value (digits : List Char) : ℚ := (Nat.ofDigitChars 10 digits 0 : ℚ)

/-- Groups of three digits, each after a comma, and their digits. -/
inductive Groups : List Char → List Char → Prop
  | nil : Groups [] []
  | cons {a b c : Char} {text digits : List Char} (three : Digits [a, b, c])
      (rest : Groups text digits) :
      Groups (',' :: a :: b :: c :: text) (a :: b :: c :: digits)

/-- An integer with all of its commas or none, and its digits. -/
structure Whole (text digits : List Char) : Prop where
  cut : ∃ first rest more, text = first ++ rest ∧ digits = first ++ more ∧ Digits first ∧
    first ≠ [] ∧ Groups rest more ∧ (rest ≠ [] → first.length ≤ 3)

/-- A decimal number, the same without commas, and its value. -/
inductive Decimal : List Char → List Char → ℚ → Prop
  | whole {text digits : List Char} (whole : Whole text digits) :
      Decimal text digits (value digits)
  | point {text digits part : List Char} (whole : Whole text digits ∨ text = [] ∧ digits = [])
      (decimals : Digits part) (some : digits ++ part ≠ []) :
      Decimal (text ++ '.' :: part) (digits ++ '.' :: part)
        (value (digits ++ part) / 10 ^ part.length)

/-! ### Reading -/

/-- Digits with at most one point, and at least one digit. -/
def readUnsigned (text : List Char) : Option ℚ :=
  let cut := (Text.splitFirst (· = '.') text).getD (text, [])
  if Digits cut.1 ∧ Digits cut.2 ∧ cut.1 ++ cut.2 ≠ [] then
    some (value (cut.1 ++ cut.2) / 10 ^ cut.2.length)
  else none

def readSigned : List Char → Option ℚ
  | '-' :: rest => (readUnsigned rest).map fun v => -v
  | '+' :: rest => readUnsigned rest
  | text => readUnsigned text

theorem digits_append {first rest : List Char} (digits : Digits first) (digits' : Digits rest) :
    Digits (first ++ rest) := by
  intro c here
  rcases List.mem_append.mp here with here | here
  · exact digits c here
  · exact digits' c here

theorem Groups.digits {text digits : List Char} (groups : Groups text digits) : Digits digits := by
  induction groups with
  | nil => exact fun c here => absurd here List.not_mem_nil
  | cons three _ ih => exact digits_append three ih

theorem Whole.digits {text digits : List Char} (whole : Whole text digits) : Digits digits := by
  obtain ⟨first, rest, more, -, rfl, leading, -, groups, -⟩ := whole.cut
  exact digits_append leading groups.digits

theorem Whole.ne_nil {text digits : List Char} (whole : Whole text digits) : digits ≠ [] := by
  obtain ⟨first, rest, more, -, rfl, -, nonempty, -⟩ := whole.cut
  simp [nonempty]

theorem whole_of_digits {digits : List Char} (all : Digits digits) (some : digits ≠ []) :
    Whole digits digits :=
  ⟨digits, [], [], by simp, by simp, all, some, .nil, fun more => absurd rfl more⟩

theorem not_digit_point {text : List Char} (digits : Digits text) : ∀ c ∈ text, ¬ c = '.' := by
  rintro c here rfl
  exact absurd (digits '.' here) (by decide)

variable {p : Char → Bool} {before : List Char} {v : ℚ}

theorem splitFirst_none {text : List Char} (clean : ∀ c ∈ text, p c = false) :
    Text.splitFirst p text = none := by
  induction text with
  | nil => rfl
  | cons c rest ih =>
    rw [Text.splitFirst, clean c List.mem_cons_self, if_neg Bool.false_ne_true,
      ih fun d here => clean d (List.mem_cons_of_mem _ here)]
    rfl

theorem splitFirst_append {c : Char} (after : List Char) (clean : ∀ d ∈ before, p d = false)
    (here : p c = true) : Text.splitFirst p (before ++ c :: after) = some (before, after) := by
  induction before with
  | nil => rw [List.nil_append, Text.splitFirst, if_pos here]
  | cons d before ih =>
    rw [List.cons_append, Text.splitFirst, clean d List.mem_cons_self, if_neg Bool.false_ne_true,
      ih fun e there => clean e (List.mem_cons_of_mem _ there)]
    rfl

theorem splitFirst_spec {text after : List Char}
    (cut : Text.splitFirst p text = some (before, after)) :
    ∃ c, text = before ++ c :: after ∧ p c = true := by
  induction text generalizing before with
  | nil => cases cut
  | cons c rest ih =>
    rw [Text.splitFirst] at cut
    split at cut
    · rename_i here
      cases cut
      exact ⟨c, rfl, here⟩
    · obtain ⟨⟨before', after'⟩, inner, same⟩ := Option.map_eq_some_iff.mp cut
      cases same
      obtain ⟨d, rfl, there⟩ := ih inner
      exact ⟨d, rfl, there⟩

theorem readUnsigned_digits {digits : List Char} (all : Digits digits) (some : digits ≠ []) :
    readUnsigned digits = Option.some (value digits) := by
  have whole : Text.splitFirst (· = '.') digits = none :=
    splitFirst_none fun c here => decide_eq_false (not_digit_point all c here)
  rw [readUnsigned, whole]
  dsimp only [Option.getD_none]
  rw [if_pos ⟨all, fun _ none => absurd none List.not_mem_nil, by simpa using some⟩]
  simp

theorem readUnsigned_point {digits part : List Char} (all : Digits digits) (decimals : Digits part)
    (some : digits ++ part ≠ []) : readUnsigned (digits ++ '.' :: part) =
      Option.some (value (digits ++ part) / 10 ^ part.length) := by
  have cut : Text.splitFirst (· = '.') (digits ++ '.' :: part) = Option.some (digits, part) :=
    splitFirst_append part (fun c here => decide_eq_false (not_digit_point all c here)) rfl
  rw [readUnsigned, cut]
  dsimp only [Option.getD_some]
  rw [if_pos ⟨all, decimals, some⟩]

theorem Decimal.read {text bare : List Char} (decimal : Decimal text bare v) :
    readUnsigned bare = some v := by
  cases decimal with
  | whole whole => exact readUnsigned_digits whole.digits whole.ne_nil
  | point whole decimals some =>
    refine readUnsigned_point ?_ decimals some
    rcases whole with whole | ⟨-, rfl⟩
    · exact whole.digits
    · exact fun c here => absurd here List.not_mem_nil

theorem decimal_of_read {text : List Char} (found : readUnsigned text = some v) :
    Decimal text text v := by
  rw [readUnsigned] at found
  cases cut : Text.splitFirst (· = '.') text with
  | none =>
    rw [cut] at found
    dsimp only [Option.getD_none] at found
    split at found
    · rename_i digits
      cases found
      rw [List.append_nil, List.length_nil, pow_zero, div_one]
      exact .whole (whole_of_digits digits.1 (by simpa using digits.2.2))
    · cases found
  | some parts =>
    obtain ⟨digits, part⟩ := parts
    rw [cut] at found
    dsimp only [Option.getD_some] at found
    obtain ⟨c, rfl, point⟩ := splitFirst_spec cut
    obtain rfl := of_decide_eq_true point
    split at found
    · rename_i all
      cases found
      refine .point ?_ all.2.1 all.2.2
      by_cases none : digits = []
      · exact .inr ⟨none, none⟩
      · exact .inl (whole_of_digits all.1 none)
    · cases found

theorem chars_of_read {text : List Char} (found : readUnsigned text = some v) :
    ∀ c ∈ text, c.isDigit = true ∨ c = '.' := by
  rw [readUnsigned] at found
  split at found
  · rename_i digits
    cases cut : Text.splitFirst (· = '.') text with
    | none =>
      rw [cut] at digits
      exact fun c here => .inl (digits.1 c here)
    | some parts =>
      obtain ⟨first, part⟩ := parts
      rw [cut] at digits
      obtain ⟨c, rfl, point⟩ := splitFirst_spec cut
      intro d here
      rcases List.mem_append.mp here with here | here
      · exact .inl (digits.1 d here)
      · rcases List.mem_cons.mp here with rfl | here
        · exact .inr (of_decide_eq_true point)
        · exact .inl (digits.2.1 d here)
  · cases found

end UEnv.Numerals
