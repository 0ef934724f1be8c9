import Mathlib.Algebra.Group.Nat.Defs
import Mathlib.Data.Char
import Mathlib.Data.List.Lex

/-!
# Padded decimals in lexicographic order

Numbers written in decimal and padded with zeros to a least width sort as text like numbers as long
as they have the same width. With more digits the text is cut where the shorter one ends.
-/

namespace UEnv.Decimal

/-- The last `w` decimal digits of `n`. -/
def digits : Nat → Nat → List Char
  | 0, _ => []
  | w + 1, n => digits w (n / 10) ++ [Nat.digitChar (n % 10)]

/-- The format `{:0pad$}`. -/
def padded (pad n : Nat) : List Char :=
  List.replicate (pad - (Nat.toDigits 10 n).length) '0' ++ Nat.toDigits 10 n

/-- The length of the padded text. -/
def width (pad n : Nat) : Nat := max pad (Nat.toDigits 10 n).length

/-- How many digits longer the text of `y` is. -/
def excess (pad x y : Nat) : Nat := width pad y - width pad x

@[simp] theorem digits_length (w n : Nat) : (digits w n).length = w := by
  induction w generalizing n with
  | zero => rfl
  | succ w ih => rw [digits, List.length_append, ih, List.length_singleton]

theorem digits_zero (w : Nat) : digits w 0 = List.replicate w '0' := by
  induction w with
  | zero => rfl
  | succ w ih => rw [digits, Nat.zero_div, ih, List.replicate_succ']; rfl

theorem digits_add (w k n : Nat) : digits (w + k) n = digits w (n / 10 ^ k) ++ digits k n := by
  induction k generalizing n with
  | zero => simp [digits]
  | succ k ih =>
    rw [← Nat.add_assoc, digits, ih, digits, Nat.div_div_eq_div_mul, ← Nat.pow_succ',
      List.append_assoc]

theorem toDigits_eq_digits (n : Nat) : Nat.toDigits 10 n = digits (Nat.toDigits 10 n).length n := by
  induction n using Nat.strong_induction_on with
  | _ n ih =>
  by_cases small : n < 10
  · rw [Nat.toDigits_of_lt_base small, List.length_singleton, digits, Nat.mod_eq_of_lt small]
    rfl
  · have fewer := ih (n / 10) (Nat.div_lt_self (by omega) (by decide))
    rw [Nat.toDigits_of_base_le (by decide) (Nat.not_lt.mp small), List.length_append,
      List.length_singleton, digits, ← fewer]

theorem lt_pow_width (pad n : Nat) : n < 10 ^ width pad n := by
  have own := (Nat.length_toDigits_le_iff (by decide) (Nat.length_toDigits_pos)).mp
    (Nat.le_refl (Nat.toDigits 10 n).length)
  exact Nat.lt_of_lt_of_le own (Nat.pow_le_pow_right (by decide) (Nat.le_max_right ..))

variable {x y pad : Nat} {s t : List Char} {c : Char}

theorem width_mono (pad : Nat) (le : x ≤ y) : width pad x ≤ width pad y := by
  have shorter : (Nat.toDigits 10 x).length ≤ (Nat.toDigits 10 y).length := by
    rw [Nat.length_toDigits_le_iff (by decide) Nat.length_toDigits_pos]
    exact Nat.lt_of_le_of_lt le ((Nat.length_toDigits_le_iff (by decide)
      Nat.length_toDigits_pos).mp (Nat.le_refl _))
  unfold width
  omega

theorem padded_eq_digits (pad n : Nat) : padded pad n = digits (width pad n) n := by
  have own := (Nat.length_toDigits_le_iff (by decide) Nat.length_toDigits_pos).mp
    (Nat.le_refl (Nat.toDigits 10 n).length)
  have split : width pad n = (pad - (Nat.toDigits 10 n).length) + (Nat.toDigits 10 n).length := by
    unfold width
    omega
  rw [padded, split, digits_add, Nat.div_eq_of_lt own, digits_zero, ← toDigits_eq_digits]

theorem digitChar_order : ∀ a < 10, ∀ b < 10,
    (Nat.digitChar a < Nat.digitChar b ↔ a < b) ∧ (Nat.digitChar a = Nat.digitChar b ↔ a = b) := by
  decide

theorem digitChar_bounds : ∀ d < 10, '0' ≤ Nat.digitChar d ∧ Nat.digitChar d ≤ '9' := by
  decide

theorem digits_lt {w : Nat} (bound : x < 10 ^ w) (bound' : y < 10 ^ w) :
    digits w x ++ s < digits w y ++ t ↔ x < y ∨ x = y ∧ s < t := by
  induction w generalizing x y s t with
  | zero =>
    obtain rfl : x = 0 := by omega
    obtain rfl : y = 0 := by omega
    simp [digits]
  | succ w ih =>
    rw [Nat.pow_succ] at bound bound'
    have last := digitChar_order (x % 10) (Nat.mod_lt _ (by decide)) (y % 10)
      (Nat.mod_lt _ (by decide))
    rw [digits, digits, List.append_assoc, List.append_assoc, ih (by omega) (by omega),
      List.singleton_append, List.singleton_append, List.cons_lt_cons_iff, last.1, last.2]
    constructor
    · rintro (less | ⟨same, less | ⟨same', less⟩⟩)
      · exact .inl (by omega)
      · exact .inl (by omega)
      · exact .inr ⟨by omega, less⟩
    · rintro (less | ⟨rfl, less⟩)
      · by_cases same : x / 10 = y / 10
        · exact .inr ⟨same, .inl (by omega)⟩
        · exact .inl (by omega)
      · exact .inr ⟨rfl, .inr ⟨rfl, less⟩⟩

theorem padded_append_lt (pad x : Nat) (s t : List Char) :
    padded pad x ++ s < padded pad x ++ t ↔ s < t := by
  rw [padded_eq_digits, digits_lt (lt_pow_width pad x) (lt_pow_width pad x)]
  simp

theorem padded_lt (less : x < y) :
    padded pad x ++ s < padded pad y ++ t ↔ x < y / 10 ^ excess pad x y ∨
        x = y / 10 ^ excess pad x y ∧ s < digits (excess pad x y) y ++ t := by
  have wider : width pad y = width pad x + excess pad x y := by
    have := width_mono pad less.le
    unfold excess
    omega
  have bound : y / 10 ^ excess pad x y < 10 ^ width pad x := by
    rw [Nat.div_lt_iff_lt_mul (Nat.pow_pos (by decide)), ← Nat.pow_add, ← wider]
    exact lt_pow_width pad y
  rw [padded_eq_digits, padded_eq_digits, wider, digits_add, List.append_assoc,
    digits_lt (lt_pow_width pad x) bound]

theorem mul_pow_le {k : Nat} : x * 10 ^ k ≤ y ↔ x ≤ y / 10 ^ k :=
  (Nat.le_div_iff_mul_le (Nat.pow_pos (by decide))).symm

/-- Followed by a character below the digits, the smaller number sorts first if, with zeros up to
the length of the other, it is not greater. -/
theorem padded_lt_low (less : x < y) (low : c < '0') :
    padded pad x ++ c :: s < padded pad y ++ t ↔ x * 10 ^ excess pad x y ≤ y := by
  rw [padded_lt less, mul_pow_le]
  generalize excess pad x y = k
  cases k with
  | zero => simp [less, less.le]
  | succ k =>
    have first : c :: s < digits (k + 1) y ++ t := by
      rw [Nat.add_comm, digits_add, digits, List.append_assoc, List.append_assoc, digits,
        List.nil_append, List.singleton_append, List.cons_lt_cons_iff]
      exact .inl (lt_of_lt_of_le low (digitChar_bounds _ (Nat.mod_lt _ (by decide))).1)
    simp only [first, and_true]
    exact le_iff_lt_or_eq.symm

/-- Followed by a character above the digits, it sorts first if its successor does so. -/
theorem padded_lt_high (less : x < y) (high : '9' < c) :
    padded pad x ++ c :: s < padded pad y ++ t ↔ (x + 1) * 10 ^ excess pad x y ≤ y := by
  rw [padded_lt less, mul_pow_le]
  generalize excess pad x y = k
  cases k with
  | zero =>
    simp only [Nat.pow_zero, Nat.div_one]
    omega
  | succ k =>
    have last : ¬c :: s < digits (k + 1) y ++ t := by
      rw [Nat.add_comm, digits_add, digits, List.append_assoc, List.append_assoc, digits,
        List.nil_append, List.singleton_append, List.cons_lt_cons_iff]
      have below : Nat.digitChar (y / 10 ^ k % 10) < c :=
        lt_of_le_of_lt (digitChar_bounds _ (Nat.mod_lt _ (by decide))).2 high
      rintro (less | ⟨rfl, _⟩)
      · exact absurd less below.asymm
      · exact absurd below (lt_irrefl _)
    simp only [last, and_false, or_false]
    exact Nat.succ_le_iff.symm

end UEnv.Decimal
