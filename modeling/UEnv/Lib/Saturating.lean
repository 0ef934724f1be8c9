import Mathlib.Data.List.Basic

/-!
# Saturating arithmetic on `UInt32`

Rust's `u32::saturating_add` and `u32::saturating_sub`, with their values read through
`UInt32.toNat`, which is the form in which the counters of the schedulers are compared.
-/

namespace UEnv

/-- `u32::MAX`. -/
def u32Max : UInt32 := 4294967295

/-- `u32::saturating_add`. -/
def saturatingAdd (a b : UInt32) : UInt32 :=
  if a.toNat + b.toNat < UInt32.size then a + b else u32Max

/-- `u32::saturating_sub`. -/
def saturatingSub (a b : UInt32) : UInt32 :=
  if b ≤ a then a - b else 0

@[simp] theorem toNat_saturatingAdd_of_lt {a b : UInt32} (fits : a.toNat + b.toNat < UInt32.size) :
    (saturatingAdd a b).toNat = a.toNat + b.toNat := by
  rw [saturatingAdd, if_pos fits, UInt32.toNat_add]
  exact Nat.mod_eq_of_lt fits

@[simp] theorem toNat_saturatingSub (a b : UInt32) :
    (saturatingSub a b).toNat = a.toNat - b.toNat := by
  unfold saturatingSub
  split
  next le => exact UInt32.toNat_sub_of_le a b le
  next gt =>
    have : a.toNat < b.toNat := by simpa [UInt32.le_iff_toNat_le] using gt
    simp
    omega

theorem toNat_max (a b : UInt32) : (max a b).toNat = max a.toNat b.toNat := by
  change (if a ≤ b then b else a).toNat = _
  split
  next le => exact (Nat.max_eq_right (UInt32.le_iff_toNat_le.mp le)).symm
  next gt =>
    have : b.toNat < a.toNat := by simpa [UInt32.le_iff_toNat_le] using gt
    exact (Nat.max_eq_left (Nat.le_of_lt this)).symm

end UEnv
