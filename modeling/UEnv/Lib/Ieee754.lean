import Mathlib.Data.List.Basic

/-!
# Floating-point fields as bit patterns

The messages carry `f64` and `f32` fields that the server stores, clones and compares but
never computes with. A field is its bit pattern, and `==` is the IEEE comparison that a
derived `PartialEq` uses: a NaN differs from everything, itself included, and the two zeros
are equal.
-/

namespace UEnv

/-- An `f64` by its bits. -/
structure F64 where
  bits : UInt64
  deriving DecidableEq

/-- An `f32` by its bits. -/
structure F32 where
  bits : UInt32
  deriving DecidableEq

namespace F64

def zero : F64 := ⟨0⟩

def one : F64 := ⟨0x3FF0000000000000⟩

instance : Inhabited F64 := ⟨zero⟩

/-- All exponent bits set and a nonzero fraction. -/
def isNaN (x : F64) : Bool := 0x7FF0000000000000 < x.bits &&& 0x7FFFFFFFFFFFFFFF

def isZero (x : F64) : Bool := x.bits &&& 0x7FFFFFFFFFFFFFFF == 0

instance : BEq F64 where
  beq x y := !x.isNaN && !y.isNaN && (x.bits == y.bits || x.isZero && y.isZero)

theorem beq_self_iff {x : F64} : (x == x) = true ↔ x.isNaN = false := by
  change (!x.isNaN && !x.isNaN && (x.bits == x.bits || x.isZero && x.isZero)) = true ↔ _
  simp

end F64

namespace F32

def zero : F32 := ⟨0⟩

instance : Inhabited F32 := ⟨zero⟩

/-- All exponent bits set and a nonzero fraction. -/
def isNaN (x : F32) : Bool := 0x7F800000 < x.bits &&& 0x7FFFFFFF

def isZero (x : F32) : Bool := x.bits &&& 0x7FFFFFFF == 0

instance : BEq F32 where
  beq x y := !x.isNaN && !y.isNaN && (x.bits == y.bits || x.isZero && y.isZero)

end F32

end UEnv
