import Mathlib.Algebra.BigOperators.Group.List.Basic
import Mathlib.Algebra.Order.Ring.Int

/-!
# Sums and maxima that may panic

`Iterator::sum` of `u32` and `Iterator::max_by` with a comparison that may panic, where `none` is a
panic. A sum panics on overflow in a build with overflow checks, and wraps in one without.
-/

namespace UEnv.Iterators

/-- An addition, in a build with overflow checks or without. -/
def add (checks : Bool) (a b : UInt32) : Option UInt32 :=
  if checks && UInt32.size ≤ a.toNat + b.toNat then none else some (a + b)

def sum (checks : Bool) (items : List UInt32) : Option UInt32 := items.foldlM (add checks) 0

/-- The sum without a bound. -/
def total (items : List UInt32) : Nat := (items.map UInt32.toNat).sum

theorem foldlM_add_of_fits (checks : Bool) {items : List UInt32} {start : UInt32}
    (fits : start.toNat + total items < UInt32.size) :
    ∃ c, items.foldlM (add checks) start = some c ∧ c.toNat = start.toNat + total items := by
  induction items generalizing start with
  | nil => exact ⟨start, rfl, rfl⟩
  | cons x rest ih =>
    have split : total (x :: rest) = x.toNat + total rest := rfl
    rw [split] at fits ⊢
    have small : start.toNat + x.toNat < UInt32.size := by omega
    have added : (start + x).toNat = start.toNat + x.toNat := by
      rw [UInt32.toNat_add]
      exact Nat.mod_eq_of_lt small
    have step : add checks start x = some (start + x) := by
      rw [add, if_neg]
      simp only [Bool.and_eq_true, decide_eq_true_eq, not_and]
      exact fun _ => Nat.not_le.mpr small
    obtain ⟨c, summed, value⟩ := @ih (start + x) (by rw [added]; omega)
    refine ⟨c, ?_, by rw [value, added]; omega⟩
    rw [List.foldlM_cons, step]
    exact summed

variable {items : List UInt32}

theorem sum_of_fits (checks : Bool) (fits : total items < UInt32.size) :
    ∃ c, sum checks items = some c ∧ c.toNat = total items := by
  obtain ⟨c, summed, value⟩ := @foldlM_add_of_fits checks items 0 (by rw [UInt32.toNat_zero]; omega)
  exact ⟨c, summed, by rw [value, UInt32.toNat_zero, Nat.zero_add]⟩

theorem foldlM_add_of_overflow {start : UInt32} (big : UInt32.size ≤ start.toNat + total items) :
    items.foldlM (add true) start = none := by
  induction items generalizing start with
  | nil =>
    have bound := start.toNat_lt_size
    have empty : total [] = 0 := rfl
    omega
  | cons x rest ih =>
    have split : total (x :: rest) = x.toNat + total rest := rfl
    rw [List.foldlM_cons]
    by_cases small : start.toNat + x.toNat < UInt32.size
    · have added : (start + x).toNat = start.toNat + x.toNat := by
        rw [UInt32.toNat_add]
        exact Nat.mod_eq_of_lt small
      rw [add, if_neg (by simpa using small)]
      exact ih (by rw [added]; omega)
    · rw [add, if_pos (by simpa using Nat.not_lt.mp small)]
      rfl

theorem sum_of_overflow (big : UInt32.size ≤ total items) : sum true items = none :=
  foldlM_add_of_overflow (by rw [UInt32.toNat_zero]; omega)

theorem total_perm {items' : List UInt32} (perm : items.Perm items') : total items = total items' :=
  (perm.map _).sum_eq

section MaxBy

variable {α : Type}

/-- The later one of two items stays, unless the comparison says that the earlier one is greater. -/
def keep (greater : α → α → Option Bool) (x y : α) : Option α :=
  (greater x y).map fun first => if first then x else y

/-- `max_by`, with `none` inside for no items. -/
def maxBy (greater : α → α → Option Bool) : List α → Option (Option α)
  | [] => some none
  | x :: rest => (rest.foldlM (keep greater) x).map some

variable {greater : α → α → Option Bool} {beats : α → α → Prop}

/-- A comparison that answers, and by an order. -/
structure Compares (greater : α → α → Option Bool) (beats : α → α → Prop) (x y : α) : Prop where
  answers : ∃ first, greater x y = some first ∧ if first then beats x y else beats y x

variable {items : List α} {bad : α}

theorem foldlM_keep (refl : ∀ x, beats x x) (trans : ∀ x y z, beats x y → beats y z → beats x z)
    {start : α}
    (compares : ∀ x ∈ start :: items, ∀ y ∈ start :: items, Compares greater beats x y) :
    ∃ best ∈ start :: items, items.foldlM (keep greater) start = some best ∧
      ∀ x ∈ start :: items, beats best x := by
  induction items generalizing start with
  | nil => exact ⟨start, List.mem_cons_self, rfl, by simpa using refl start⟩
  | cons y rest ih =>
    obtain ⟨first, answered, wins⟩ :=
      (compares start List.mem_cons_self y (List.mem_cons_of_mem _ List.mem_cons_self)).answers
    -- the one of the two that stays, and what it beats
    obtain ⟨stays, kept, among, both⟩ : ∃ stays, keep greater start y = some stays ∧
        (stays = start ∨ stays = y) ∧ beats stays start ∧ beats stays y := by
      rw [keep, answered]
      cases first with
      | true => exact ⟨start, rfl, .inl rfl, refl start, by simpa using wins⟩
      | false => exact ⟨y, rfl, .inr rfl, by simpa using wins, refl y⟩
    have inside : ∀ x ∈ stays :: rest, x ∈ start :: y :: rest := by
      intro x member
      rcases List.mem_cons.mp member with rfl | member
      · rcases among with rfl | rfl
        · exact List.mem_cons_self
        · exact List.mem_cons_of_mem _ List.mem_cons_self
      · exact List.mem_cons_of_mem _ (List.mem_cons_of_mem _ member)
    obtain ⟨best, member, found, most⟩ := @ih stays fun x memberX z memberZ =>
      compares x (inside x memberX) z (inside z memberZ)
    refine ⟨best, inside best member, ?_, ?_⟩
    · rw [List.foldlM_cons, kept]
      exact found
    · have whole := most stays List.mem_cons_self
      intro x memberX
      rcases List.mem_cons.mp memberX with rfl | memberX
      · exact trans best stays x whole both.1
      · rcases List.mem_cons.mp memberX with rfl | memberX
        · exact trans best stays x whole both.2
        · exact most x (List.mem_cons_of_mem _ memberX)

theorem maxBy_spec (refl : ∀ x, beats x x) (trans : ∀ x y z, beats x y → beats y z → beats x z)
    (visible : items ≠ []) (compares : ∀ x ∈ items, ∀ y ∈ items, Compares greater beats x y) :
    ∃ best ∈ items, maxBy greater items = some (some best) ∧ ∀ x ∈ items, beats best x := by
  obtain ⟨start, rest, rfl⟩ := List.exists_cons_of_ne_nil visible
  obtain ⟨best, member, found, most⟩ := foldlM_keep refl trans compares
  exact ⟨best, member, by rw [maxBy, found]; rfl, most⟩

theorem foldlM_keep_panics (member : bad ∈ items) (right : ∀ x, greater x bad = none) (start : α) :
    items.foldlM (keep greater) start = none := by
  induction items generalizing start with
  | nil => exact absurd member List.not_mem_nil
  | cons y rest ih =>
    rw [List.foldlM_cons]
    rcases List.mem_cons.mp member with rfl | member
    · rw [keep, right]
      rfl
    · cases keep greater start y with
      | none => rfl
      | some stays => exact ih member stays

/-- If every comparison with some item panics, so does the maximum, unless that item is alone. -/
theorem maxBy_panics (member : bad ∈ items) (left : ∀ y, greater bad y = none)
    (right : ∀ x, greater x bad = none) (several : items ≠ [bad]) : maxBy greater items = none := by
  obtain ⟨start, rest, rfl⟩ := List.exists_cons_of_ne_nil (List.ne_nil_of_mem member)
  have panics : rest.foldlM (keep greater) start = none := by
    rcases List.mem_cons.mp member with rfl | member
    · cases rest with
      | nil => exact absurd rfl several
      | cons =>
        rw [List.foldlM_cons, keep, left]
        rfl
    · exact foldlM_keep_panics member right start
  rw [maxBy, panics]
  rfl

end MaxBy

end UEnv.Iterators
