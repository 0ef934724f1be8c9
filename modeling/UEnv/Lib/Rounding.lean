import Mathlib.Algebra.Order.Ring.Int
import UEnv.Lib.Ieee754

/-!
# Arithmetic of floating-point fields

Conversions, arithmetic and comparison of `f64` fields, each rounded to the nearest number and half
to even.
-/

namespace UEnv

/-! ### Rounding -/

/-- `m / 2 ^ shift`, rounded to the nearest integer and half to even. -/
def roundShift (m shift : Nat) : Nat :=
  let q := m / 2 ^ shift
  let r := m % 2 ^ shift
  if 2 ^ shift < 2 * r ∨ (2 ^ shift = 2 * r ∧ q % 2 = 1) then q + 1 else q

/-- The bits of the format with `mant` fraction bits and `expo` exponent bits that are nearest to
`m * 2 ^ e`. -/
def roundBits (mant expo : Nat) (negative : Bool) (m : Nat) (e : Int) : Nat :=
  let sign := if negative then 2 ^ (mant + expo) else 0
  let infinity := (2 ^ expo - 1) * 2 ^ mant
  -- the weight of the last bit of a subnormal number, and of the result
  let least : Int := 2 - 2 ^ (expo - 1) - mant
  let ulp := max least (e + Nat.log2 m - mant)
  let q := if ulp ≤ e then m * 2 ^ (e - ulp).toNat else roundShift m (ulp - e).toNat
  if m = 0 then sign else sign + min infinity ((ulp - least).toNat * 2 ^ mant + q)

namespace F64

/-- The sign, and `m` and `e` with the finite value `m * 2 ^ e`. -/
def decompose (x : F64) : Bool × Nat × Int :=
  let bits := x.bits.toNat
  let expo : Nat := bits / 2 ^ 52 % 2 ^ 11
  let fraction : Nat := bits % 2 ^ 52
  (2 ^ 63 ≤ bits, if expo = 0 then (fraction, -1074) else (2 ^ 52 + fraction, (expo : Int) - 1075))

def isInfinite (x : F64) : Bool := x.bits &&& 0x7FFFFFFFFFFFFFFF == 0x7FF0000000000000

/-- `n as f64`. -/
def ofInt (n : Int) : F64 := ⟨UInt64.ofNat (roundBits 52 11 (n < 0) n.natAbs 0)⟩

/-- `x as f32`. -/
def toF32 (x : F64) : F32 :=
  let (negative, m, e) := x.decompose
  let sign : Nat := if negative then 2 ^ 31 else 0
  if x.isNaN then ⟨UInt32.ofNat (sign + 0x7FC00000 + x.bits.toNat % 2 ^ 51 / 2 ^ 29)⟩
  else if x.isInfinite then ⟨UInt32.ofNat (sign + 0x7F800000)⟩
  else ⟨UInt32.ofNat (roundBits 23 8 negative m e)⟩

/-- `x as i64`. -/
def toI64 (x : F64) : Int64 :=
  let (negative, m, e) := x.decompose
  let magnitude : Int := if 0 ≤ e then m * 2 ^ e.toNat else m / 2 ^ (-e).toNat
  if x.isNaN then 0
  else if x.isInfinite then (if negative then Int64.minValue else Int64.maxValue)
  else Int64.ofInt (max (-2 ^ 63) (min (2 ^ 63 - 1) (if negative then -magnitude else magnitude)))

/-! ### Arithmetic -/

def nan : F64 := ⟨0x7FF8000000000000⟩

def infinity (negative : Bool) : F64 :=
  ⟨if negative then 0xFFF0000000000000 else 0x7FF0000000000000⟩

def isNegative (x : F64) : Bool := 0x8000000000000000 ≤ x.bits

/-- `f64::abs`. -/
def abs (x : F64) : F64 := ⟨x.bits &&& 0x7FFFFFFFFFFFFFFF⟩

/-- The finite value in units of `2 ^ e`, for an `e` that is at most its own exponent. -/
def scaled (x : F64) (e : Int) : Int :=
  let (negative, m, own) := x.decompose
  let magnitude : Int := m * 2 ^ (own - e).toNat
  if negative then -magnitude else magnitude

/-- `x - y`. -/
def sub (x y : F64) : F64 :=
  if x.isNaN || y.isNaN then nan
  else if x.isInfinite then
    if y.isInfinite && x.isNegative == y.isNegative then nan else x
  else if y.isInfinite then infinity (!y.isNegative)
  else
    let e := min x.decompose.2.2 y.decompose.2.2
    let difference := x.scaled e - y.scaled e
    let negative :=
      if difference = 0 then x.isZero && x.isNegative && !y.isNegative else difference < 0
    ⟨UInt64.ofNat (roundBits 52 11 negative difference.natAbs e)⟩

/-- `x / y`. -/
def div (x y : F64) : F64 :=
  let negative := x.isNegative != y.isNegative
  if x.isNaN || y.isNaN || x.isInfinite && y.isInfinite || x.isZero && y.isZero then nan
  else if x.isInfinite || y.isZero then infinity negative
  else if y.isInfinite then ⟨UInt64.ofNat (roundBits 52 11 negative 0 0)⟩
  else
    let (_, m, e) := x.decompose
    let (_, n, f) := y.decompose
    -- more bits of the quotient than the format has, and one that is set if any is left
    let q := m * 2 ^ 128 / n
    let sticky := if m * 2 ^ 128 % n = 0 then 0 else 1
    ⟨UInt64.ofNat (roundBits 52 11 negative (2 * q + sticky) (e - f - 129))⟩

/-- The place of a number that is no NaN among the others; the zeros share theirs. -/
def rank (x : F64) : Int :=
  let magnitude : Int := x.abs.bits.toNat
  if x.isNegative then -magnitude else magnitude

/-- `x < y`. -/
def lt (x y : F64) : Bool := !x.isNaN && !y.isNaN && x.rank < y.rank

/-- `x <= y`. -/
def le (x y : F64) : Bool := !x.isNaN && !y.isNaN && x.rank ≤ y.rank

/-! ### Text -/

/-- `format!("{x:.digits$}")`: the nearest decimal fraction and half to even. -/
def toFixed (digits : Nat) (x : F64) : String :=
  let (negative, m, e) := x.decompose
  let sign := if negative then "-" else ""
  if x.isNaN then "NaN"
  else if x.isInfinite then sign ++ "inf"
  else
    let units := if 0 ≤ e then m * 10 ^ digits * 2 ^ e.toNat
      else roundShift (m * 10 ^ digits) (-e).toNat
    let fraction := (toString (units % 10 ^ digits)).toList
    let padded := List.replicate (digits - fraction.length) '0' ++ fraction
    sign ++ toString (units / 10 ^ digits) ++
      if digits = 0 then "" else "." ++ String.ofList padded

end F64

end UEnv
