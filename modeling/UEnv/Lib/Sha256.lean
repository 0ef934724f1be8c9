import UEnv.Lib.Wire

/-!
# SHA-256

The digest of FIPS 180-4 on byte lists, with 32-bit words, and its lower-case hexadecimal
rendering.
-/

namespace UEnv.Sha256

open Wire

/-- The eight working variables. -/
structure Words where
  a : UInt32
  b : UInt32
  c : UInt32
  d : UInt32
  e : UInt32
  f : UInt32
  g : UInt32
  h : UInt32

def Words.add (s t : Words) : Words :=
  ⟨s.a + t.a, s.b + t.b, s.c + t.c, s.d + t.d, s.e + t.e, s.f + t.f, s.g + t.g, s.h + t.h⟩

def initial : Words :=
  ⟨0x6a09e667, 0xbb67ae85, 0x3c6ef372, 0xa54ff53a, 0x510e527f, 0x9b05688c, 0x1f83d9ab, 0x5be0cd19⟩

def roundConstants : List UInt32 :=
  [0x428a2f98, 0x71374491, 0xb5c0fbcf, 0xe9b5dba5, 0x3956c25b, 0x59f111f1, 0x923f82a4, 0xab1c5ed5,
    0xd807aa98, 0x12835b01, 0x243185be, 0x550c7dc3, 0x72be5d74, 0x80deb1fe, 0x9bdc06a7, 0xc19bf174,
    0xe49b69c1, 0xefbe4786, 0x0fc19dc6, 0x240ca1cc, 0x2de92c6f, 0x4a7484aa, 0x5cb0a9dc, 0x76f988da,
    0x983e5152, 0xa831c66d, 0xb00327c8, 0xbf597fc7, 0xc6e00bf3, 0xd5a79147, 0x06ca6351, 0x14292967,
    0x27b70a85, 0x2e1b2138, 0x4d2c6dfc, 0x53380d13, 0x650a7354, 0x766a0abb, 0x81c2c92e, 0x92722c85,
    0xa2bfe8a1, 0xa81a664b, 0xc24b8b70, 0xc76c51a3, 0xd192e819, 0xd6990624, 0xf40e3585, 0x106aa070,
    0x19a4c116, 0x1e376c08, 0x2748774c, 0x34b0bcb5, 0x391c0cb3, 0x4ed8aa4a, 0x5b9cca4f, 0x682e6ff3,
    0x748f82ee, 0x78a5636f, 0x84c87814, 0x8cc70208, 0x90befffa, 0xa4506ceb, 0xbef9a3f7, 0xc67178f2]

def rotr (n x : UInt32) : UInt32 := (x >>> n) ||| (x <<< (32 - n))

/-- The message schedule; `window` holds its last sixteen words. -/
def expand : Nat → List UInt32 → List UInt32
  | 0, window => window
  | n + 1, window =>
    let w1 := window.getD 1 0
    let w14 := window.getD 14 0
    let s0 := rotr 7 w1 ^^^ rotr 18 w1 ^^^ (w1 >>> 3)
    let s1 := rotr 17 w14 ^^^ rotr 19 w14 ^^^ (w14 >>> 10)
    let next := window.getD 0 0 + s0 + window.getD 9 0 + s1
    window.headD 0 :: expand n (window.tail ++ [next])

/-- One round with a constant and a word of the schedule. -/
def round (s : Words) (step : UInt32 × UInt32) : Words :=
  let s1 := rotr 6 s.e ^^^ rotr 11 s.e ^^^ rotr 25 s.e
  let ch := (s.e &&& s.f) ^^^ (~~~s.e &&& s.g)
  let t1 := s.h + s1 + ch + step.1 + step.2
  let s0 := rotr 2 s.a ^^^ rotr 13 s.a ^^^ rotr 22 s.a
  let maj := (s.a &&& s.b) ^^^ (s.a &&& s.c) ^^^ (s.b &&& s.c)
  ⟨t1 + (s0 + maj), s.a, s.b, s.c, s.d + t1, s.e, s.f, s.g⟩

/-- The first `count` pieces of `size` bytes. -/
def pieces (size : Nat) : Nat → Bytes → List Bytes
  | 0, _ => []
  | count + 1, message => message.take size :: pieces size count (message.drop size)

/-- A big-endian word. -/
def word (piece : Bytes) : UInt32 := piece.foldl (fun acc byte => acc <<< 8 ||| byte.toUInt32) 0

def compress (s : Words) (block : Bytes) : Words :=
  s.add ((roundConstants.zip (expand 48 ((pieces 4 16 block).map word))).foldl round s)

def bigEndian : Nat → Nat → Bytes
  | 0, _ => []
  | count + 1, n => bigEndian count (n / 256) ++ [UInt8.ofNat n]

/-- A one bit, zeros, and the length in bits, up to a multiple of 64 bytes. -/
def pad (message : Bytes) : Bytes :=
  message ++ [0x80] ++ List.replicate ((119 - message.length % 64) % 64) 0 ++
    bigEndian 8 (message.length * 8)

def digest (message : Bytes) : Bytes :=
  let padded := pad message
  let s := (pieces 64 (padded.length / 64) padded).foldl compress initial
  [s.a, s.b, s.c, s.d, s.e, s.f, s.g, s.h].flatMap fun w => bigEndian 4 w.toNat

def hexDigit (n : Nat) : Char := "0123456789abcdef".toList.getD n '0'

/-- Lower-case hexadecimal. -/
def hex (message : Bytes) : String :=
  String.ofList (message.flatMap fun byte =>
    [hexDigit (byte.toNat / 16), hexDigit (byte.toNat % 16)])

/-- `hex(sha256(message))`. -/
def sha256Hex (message : Bytes) : String := hex (digest message)

-- the one-block example of the standard
example : sha256Hex (utf8 "abc") =
    "ba7816bf8f01cfea414140de5dae2223b00361a396177a9cb410ff61f20015ad" := by decide +kernel

end UEnv.Sha256
