import Mathlib.Order.Basic

/-!
# Bounded retries

A client repeats an exchange with a stateful partner until an answer settles the call or no attempt
is left. The attempts are numbered from zero, and the exchange may depend on the number.
-/

namespace UEnv.Retrying

variable {S A : Type}

/-- The partner's state and the answer after the attempt with a number. -/
abbrev Exchange (S A : Type) := Nat → S → S × A

/-- The attempts from the number `k` on, when `left` more may follow it. -/
def retry (exchange : Exchange S A) (again : A → Bool) : Nat → Nat → S → S × A
  | 0, k, s => exchange k s
  | left + 1, k, s =>
    if again (exchange k s).2 then retry exchange again left (k + 1) (exchange k s).1
    else exchange k s

/-- The partner's state before an attempt, if all attempts before it are made. -/
def stateAt (exchange : Exchange S A) (s : S) : Nat → S
  | 0 => s
  | k + 1 => (exchange k (stateAt exchange s k)).1

/-- What the client gets to see of an attempt. -/
def answerAt (exchange : Exchange S A) (s : S) (k : Nat) : A :=
  (exchange k (stateAt exchange s k)).2

/-- The attempt `k` is one of the first `left + 1`, and none before it settles the call. -/
def Made (exchange : Exchange S A) (again : A → Bool) (left : Nat) (s : S) (k : Nat) : Prop :=
  k ≤ left ∧ ∀ i < k, again (answerAt exchange s i) = true

variable {exchange : Exchange S A} {again : A → Bool} {left : Nat} {s : S}

theorem retry_from (exchange : Exchange S A) (again : A → Bool) (left : Nat) (s : S) (k : Nat) :
    ∃ n, k ≤ n ∧ n ≤ k + left ∧
    (∀ i, k ≤ i → i < n → again (answerAt exchange s i) = true) ∧
    (n = k + left ∨ again (answerAt exchange s n) = false) ∧
    retry exchange again left k (stateAt exchange s k) =
      (stateAt exchange s (n + 1), answerAt exchange s n) := by
  induction left generalizing k with
  | zero =>
    refine ⟨k, Nat.le_refl k, Nat.le_refl k, ?_, Or.inl rfl, rfl⟩
    intro i from_k below
    exact absurd below (Nat.not_lt.mpr from_k)
  | succ left ih =>
    rw [retry]
    by_cases repeated : again (answerAt exchange s k) = true
    · obtain ⟨n, low, high, others, last, ran⟩ := ih (k + 1)
      refine ⟨n, by omega, by omega, fun i from_k below => ?_, ?_, ?_⟩
      · rcases Nat.eq_or_lt_of_le from_k with rfl | later
        · exact repeated
        · exact others i later below
      · exact last.imp_left fun bound => by omega
      · exact (if_pos repeated).trans ran
    · refine ⟨k, Nat.le_refl k, by omega, fun i from_k below => ?_,
        Or.inr (Bool.eq_false_iff.mpr repeated), ?_⟩
      · exact absurd below (Nat.not_lt.mpr from_k)
      · exact if_neg repeated

theorem retry_spec (exchange : Exchange S A) (again : A → Bool) (left : Nat) (s : S) :
    ∃ n, Made exchange again left s n ∧
    (∀ k, Made exchange again left s k → k ≤ n) ∧
    retry exchange again left 0 s = (stateAt exchange s (n + 1), answerAt exchange s n) := by
  obtain ⟨n, _, high, others, last, ran⟩ :=
    retry_from exchange again left s 0
  rw [Nat.zero_add] at high last
  refine ⟨n, ⟨high, fun i below => others i (Nat.zero_le i) below⟩, fun k made => ?_, ran⟩
  rcases last with rfl | settled
  · exact made.1
  · refine Nat.not_lt.mp fun later => ?_
    have repeated := made.2 n later
    rw [settled] at repeated
    exact Bool.false_ne_true repeated

section Lasting

variable {holds : S → Bool} (lasts : ∀ k s, holds s = true → holds (exchange k s).1 = true)
include lasts

variable {i j : Nat}

theorem holds_later (before : i ≤ j) (here : holds (stateAt exchange s i) = true) :
    holds (stateAt exchange s j) = true := by
  induction before with
  | refl => exact here
  | step _ ih => exact lasts _ _ ih

theorem brought_once (absent : holds (stateAt exchange s i) = false)
    (there : holds (stateAt exchange s (i + 1)) = true)
    (absent' : holds (stateAt exchange s j) = false)
    (there' : holds (stateAt exchange s (j + 1)) = true) : i = j := by
  have ordered : ∀ {a b : Nat}, holds (stateAt exchange s (a + 1)) = true →
      holds (stateAt exchange s b) = false → ¬a < b := by
    intro a b there absent less
    have later := holds_later lasts less there
    rw [absent] at later
    exact Bool.false_ne_true later
  have le := Nat.not_lt.mp (ordered there' absent)
  exact Nat.le_antisymm le (Nat.not_lt.mp (ordered there absent'))

end Lasting

end UEnv.Retrying
