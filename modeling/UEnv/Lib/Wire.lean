import Mathlib.Algebra.Order.Ring.Int
import Mathlib.Data.List.Basic

/-!
# Protocol-buffer fields

The encoders of a proto3 message: base-128 varints, keys, and one encoder for each kind of
field, which writes nothing for a default value. Lengths and field numbers are natural
numbers.
-/

namespace UEnv.Wire

abbrev Bytes := List UInt8

/-- Base-128 digits, least significant first, a continuation bit on all but the last. -/
def varintDigits : Nat → Nat → Bytes
  | 0, _ => []
  | fuel + 1, n =>
    if n < 128 then [UInt8.ofNat n] else UInt8.ofNat (n % 128 + 128) :: varintDigits fuel (n / 128)

/-- A 64-bit varint has at most ten digits. -/
def varint (n : UInt64) : Bytes := varintDigits 10 n.toNat

def lengthPrefixed (payload : Bytes) : Bytes := varint (UInt64.ofNat payload.length) ++ payload

/-- Field number and wire type. -/
def key (field wireType : Nat) : Bytes := varint (UInt64.ofNat (field * 8 + wireType))

/-- Little-endian bytes. -/
def littleEndian : Nat → Nat → Bytes
  | 0, _ => []
  | count + 1, n => UInt8.ofNat n :: littleEndian count (n / 256)

/-- The number with these little-endian bytes. -/
def ofLittleEndian : Bytes → Nat
  | [] => 0
  | byte :: rest => byte.toNat + 256 * ofLittleEndian rest

/-- UTF-8 bytes of a string. -/
def utf8 (s : String) : Bytes := s.toUTF8.data.toList

def uint64 (field : Nat) (v : UInt64) : Bytes := if v = 0 then [] else key field 0 ++ varint v

def uint32 (field : Nat) (v : UInt32) : Bytes := uint64 field v.toUInt64

/-- `int64`: the two's complement bits. -/
def int64 (field : Nat) (v : Int64) : Bytes := uint64 field v.toUInt64

/-- `int32` and enumerations: sign-extended to 64 bits. -/
def int32 (field : Nat) (v : Int32) : Bytes := int64 field v.toInt64

def boolean (field : Nat) (v : Bool) : Bytes := uint64 field v.toUInt64

def bytes (field : Nat) (v : Bytes) : Bytes :=
  if v.isEmpty then [] else key field 2 ++ lengthPrefixed v

def string (field : Nat) (v : String) : Bytes := bytes field (utf8 v)

/-- A submessage is written whenever it is present. -/
def message (field : Nat) (v : Option Bytes) : Bytes :=
  match v with
  | none => []
  | some body => key field 2 ++ lengthPrefixed body

/-- An `optional` varint field is written whenever it is present. -/
def optVarint (field : Nat) (v : Option UInt64) : Bytes :=
  match v with
  | none => []
  | some n => key field 0 ++ varint n

/-- Both zeros count as the default. -/
def double (field : Nat) (bits : UInt64) : Bytes :=
  if bits &&& 0x7FFFFFFFFFFFFFFF = 0 then [] else key field 1 ++ littleEndian 8 bits.toNat

def optDouble (field : Nat) (bits : Option UInt64) : Bytes :=
  match bits with
  | none => []
  | some bits => key field 1 ++ littleEndian 8 bits.toNat

/-- A packed repeated field. -/
def packed (field : Nat) (items : List Bytes) : Bytes :=
  if items.isEmpty then [] else key field 2 ++ lengthPrefixed items.flatten

/-! ## Distinct values have distinct encodings -/

theorem byte_inj {a b : Nat} (boundA : a < 256) (boundB : b < 256)
    (same : UInt8.ofNat a = UInt8.ofNat b) : a = b := by
  have values := congrArg UInt8.toNat same
  simp only [UInt8.toNat_ofNat'] at values
  omega

theorem length_littleEndian (count n : Nat) : (littleEndian count n).length = count := by
  induction count generalizing n with
  | zero => rfl
  | succ count ih => rw [littleEndian, List.length_cons, ih]

theorem ofLittleEndian_littleEndian (count n : Nat) :
    ofLittleEndian (littleEndian count n) = n % 256 ^ count := by
  induction count generalizing n with
  | zero =>
    rw [Nat.pow_zero, Nat.mod_one]
    rfl
  | succ count ih =>
    have split : 256 ^ (count + 1) = 256 * 256 ^ count := Nat.pow_succ'
    rw [littleEndian, ofLittleEndian, ih, UInt8.toNat_ofNat', split, Nat.mod_mul]

variable {a b : UInt64} {r s : Bytes} {field : Nat}

theorem varintDigits_append_inj (fuel : Nat) {a b : Nat} (ha : a < 128 ^ fuel) (hb : b < 128 ^ fuel)
    (same : varintDigits fuel a ++ r = varintDigits fuel b ++ s) : a = b ∧ r = s := by
  induction fuel generalizing a b with
  | zero =>
    rw [Nat.pow_zero] at ha hb
    exact ⟨by omega, same⟩
  | succ fuel ih =>
    rw [varintDigits, varintDigits] at same
    rw [Nat.pow_succ] at ha hb
    by_cases shortA : a < 128
    · by_cases shortB : b < 128
      · rw [if_pos shortA, if_pos shortB] at same
        obtain ⟨head, rest⟩ := List.cons.inj same
        exact ⟨byte_inj (by omega) (by omega) head, rest⟩
      · rw [if_pos shortA, if_neg shortB] at same
        have head := byte_inj (by omega) (by omega) (List.cons.inj same).1
        omega
    · by_cases shortB : b < 128
      · rw [if_neg shortA, if_pos shortB] at same
        have head := byte_inj (by omega) (by omega) (List.cons.inj same).1
        omega
      · rw [if_neg shortA, if_neg shortB] at same
        obtain ⟨headSame, tailSame⟩ := List.cons.inj same
        have head := byte_inj (by omega) (by omega) headSame
        obtain ⟨tail, rest⟩ := ih (by omega) (by omega) tailSame
        exact ⟨by omega, rest⟩

theorem varint_append_inj (same : varint a ++ r = varint b ++ s) : a = b ∧ r = s := by
  have boundA := a.toNat_lt
  have boundB := b.toNat_lt
  have size : (2 : Nat) ^ 64 < 128 ^ 10 := by decide
  obtain ⟨value, rest⟩ := varintDigits_append_inj 10 (by omega) (by omega) same
  exact ⟨UInt64.toNat_inj.mp value, rest⟩

theorem varint_inj (same : varint a = varint b) : a = b :=
  (varint_append_inj (congrArg (· ++ ([] : Bytes)) same)).1

theorem varint_ne_nil (a : UInt64) : varint a ≠ [] := by
  unfold varint varintDigits
  split <;> simp

theorem key_ne_nil (field wireType : Nat) : key field wireType ≠ [] := varint_ne_nil _

theorem uint64_inj (same : uint64 field a = uint64 field b) : a = b := by
  unfold uint64 at same
  by_cases zeroA : a = 0
  · by_cases zeroB : b = 0
    · rw [zeroA, zeroB]
    · rw [if_pos zeroA, if_neg zeroB] at same
      exact absurd (List.append_eq_nil_iff.mp same.symm).1 (key_ne_nil _ _)
  · by_cases zeroB : b = 0
    · rw [if_neg zeroA, if_pos zeroB] at same
      exact absurd (List.append_eq_nil_iff.mp same).1 (key_ne_nil _ _)
    · rw [if_neg zeroA, if_neg zeroB] at same
      exact varint_inj (List.append_cancel_left same)

theorem uint32_inj {a b : UInt32} (same : uint32 field a = uint32 field b) : a = b := by
  have wide : a.toUInt64 = b.toUInt64 := uint64_inj same
  have := congrArg UInt64.toNat wide
  simpa [UInt32.toNat_toUInt64, UInt32.toNat_inj] using this

end UEnv.Wire
