/-
  Foundation/Sha256.lean --- SHA-256 (FIPS 180-4) over byte lists.

  The definitions are executable.  Nothing below needs more of the hash than the
  length of its hexadecimal digest (`length_hexdigest`): collision freedom is never a
  theorem here, it is a hypothesis about the finitely many messages that a statement
  names.
-/
import Mathlib

set_option autoImplicit false

namespace ResponseEngine.Foundation.Sha256

/-- A 32-bit word. -/
abbrev Word := BitVec 32

/-! ## The functions and constants of FIPS 180-4, sections 4.1.2 and 4.2.2 -/

def ch (x y z : Word) : Word := (x &&& y) ^^^ (~~~x &&& z)
def maj (x y z : Word) : Word := (x &&& y) ^^^ (x &&& z) ^^^ (y &&& z)
def bigSigma0 (x : Word) : Word := x.rotateRight 2 ^^^ x.rotateRight 13 ^^^ x.rotateRight 22
def bigSigma1 (x : Word) : Word := x.rotateRight 6 ^^^ x.rotateRight 11 ^^^ x.rotateRight 25
def smallSigma0 (x : Word) : Word := x.rotateRight 7 ^^^ x.rotateRight 18 ^^^ (x >>> 3)
def smallSigma1 (x : Word) : Word := x.rotateRight 17 ^^^ x.rotateRight 19 ^^^ (x >>> 10)

/-- The sixty-four round constants. -/
def roundConstants : List Word :=
  [0x428a2f98, 0x71374491, 0xb5c0fbcf, 0xe9b5dba5, 0x3956c25b, 0x59f111f1, 0x923f82a4, 0xab1c5ed5,
   0xd807aa98, 0x12835b01, 0x243185be, 0x550c7dc3, 0x72be5d74, 0x80deb1fe, 0x9bdc06a7, 0xc19bf174,
   0xe49b69c1, 0xefbe4786, 0x0fc19dc6, 0x240ca1cc, 0x2de92c6f, 0x4a7484aa, 0x5cb0a9dc, 0x76f988da,
   0x983e5152, 0xa831c66d, 0xb00327c8, 0xbf597fc7, 0xc6e00bf3, 0xd5a79147, 0x06ca6351, 0x14292967,
   0x27b70a85, 0x2e1b2138, 0x4d2c6dfc, 0x53380d13, 0x650a7354, 0x766a0abb, 0x81c2c92e, 0x92722c85,
   0xa2bfe8a1, 0xa81a664b, 0xc24b8b70, 0xc76c51a3, 0xd192e819, 0xd6990624, 0xf40e3585, 0x106aa070,
   0x19a4c116, 0x1e376c08, 0x2748774c, 0x34b0bcb5, 0x391c0cb3, 0x4ed8aa4a, 0x5b9cca4f, 0x682e6ff3,
   0x748f82ee, 0x78a5636f, 0x84c87814, 0x8cc70208, 0x90befffa, 0xa4506ceb, 0xbef9a3f7, 0xc67178f2]

/-- The chaining state: eight working words. -/
structure State where
  a : Word
  b : Word
  c : Word
  d : Word
  e : Word
  f : Word
  g : Word
  h : Word
  deriving DecidableEq, Repr

/-- The initial hash value. -/
def initial : State :=
  ⟨0x6a09e667, 0xbb67ae85, 0x3c6ef372, 0xa54ff53a, 0x510e527f, 0x9b05688c, 0x1f83d9ab, 0x5be0cd19⟩

/-! ## Padding and parsing -/

/-- `count` bytes of `n`, most significant first. -/
def bigEndian : Nat → Nat → List UInt8
  | 0, _ => []
  | count + 1, n => UInt8.ofNat (n / 256 ^ count) :: bigEndian count n

/-- The message, a one bit, zeros, and the bit length, filling whole blocks. -/
def pad (message : List UInt8) : List UInt8 :=
  message ++ 0x80 :: List.replicate ((119 - message.length % 64) % 64) 0 ++
    bigEndian 8 (8 * message.length)

/-- Big-endian words of a byte list. -/
def toWords : List UInt8 → List Word
  | b₀ :: b₁ :: b₂ :: b₃ :: rest =>
      BitVec.ofNat 32 (((b₀.toNat * 256 + b₁.toNat) * 256 + b₂.toNat) * 256 + b₃.toNat) ::
        toWords rest
  | _ => []

/-- The sixteen-word blocks of a padded message. -/
def blocks (padded : List UInt8) : List (List Word) :=
  (List.range (padded.length / 64)).map fun i => toWords ((padded.drop (64 * i)).take 64)

/-! ## Compression -/

/-- Extend a schedule, kept newest word first, by `count` words. -/
def extend : Nat → List Word → List Word
  | 0, words => words
  | count + 1, words =>
      extend count ((smallSigma1 (words.getD 1 0) + words.getD 6 0 +
        smallSigma0 (words.getD 14 0) + words.getD 15 0) :: words)

/-- The sixty-four schedule words of a block. -/
def schedule (block : List Word) : List Word := (extend 48 block.reverse).reverse

/-- One round. -/
def round (s : State) (kw : Word × Word) : State :=
  let t₁ := s.h + bigSigma1 s.e + ch s.e s.f s.g + kw.1 + kw.2
  let t₂ := bigSigma0 s.a + maj s.a s.b s.c
  ⟨t₁ + t₂, s.a, s.b, s.c, s.d + t₁, s.e, s.f, s.g⟩

/-- Compress one block into the chaining state. -/
def compress (s : State) (block : List Word) : State :=
  let r := (roundConstants.zip (schedule block)).foldl round s
  ⟨s.a + r.a, s.b + r.b, s.c + r.c, s.d + r.d, s.e + r.e, s.f + r.f, s.g + r.g, s.h + r.h⟩

/-- The digest bytes of a state. -/
def State.bytes (s : State) : List UInt8 :=
  [s.a, s.b, s.c, s.d, s.e, s.f, s.g, s.h].flatMap fun w => bigEndian 4 w.toNat

/-- The 32-byte digest. -/
def digest (message : List UInt8) : List UInt8 :=
  ((blocks (pad message)).foldl compress initial).bytes

/-- The two hexadecimal digits of a byte. -/
def hexByte (b : UInt8) : List Char := [(b.toNat / 16).digitChar, (b.toNat % 16).digitChar]

/-- The digest in lowercase hexadecimal. -/
def hexdigest (message : List UInt8) : List Char := (digest message).flatMap hexByte

/-! ## The shape of a digest -/

@[simp] theorem length_bigEndian (count n : Nat) : (bigEndian count n).length = count := by
  induction count with
  | zero => rfl
  | succ count ih => simp [bigEndian, ih]

@[simp] theorem length_bytes (s : State) : s.bytes.length = 32 := by
  simp [State.bytes]

@[simp] theorem length_hexdigest (message : List UInt8) : (hexdigest message).length = 64 := by
  have hbyte : ∀ b : UInt8, (hexByte b).length = 2 := fun _ => rfl
  simp [hexdigest, digest, List.length_flatMap, hbyte]

/-- The digit of a number below sixteen is a lowercase hexadecimal digit. -/
theorem digitChar_isLowerHex {n : Nat} (hn : n < 16) :
    (n.digitChar.isDigit || ('a' ≤ n.digitChar && n.digitChar ≤ 'f')) = true := by
  interval_cases n <;> decide

theorem isLowerHex_of_mem_hexdigest {message : List UInt8} {c : Char}
    (h : c ∈ hexdigest message) : (c.isDigit || ('a' ≤ c && c ≤ 'f')) = true := by
  simp only [hexdigest, List.mem_flatMap, hexByte, List.mem_cons, List.not_mem_nil,
    or_false] at h
  obtain ⟨b, _, rfl | rfl⟩ := h
  · have hb := b.toNat_lt
    exact digitChar_isLowerHex (by omega)
  · exact digitChar_isLowerHex (Nat.mod_lt _ (by decide))

/-- The one-block example message of the standard. -/
example : hexdigest [0x61, 0x62, 0x63] =
    "ba7816bf8f01cfea414140de5dae2223b00361a396177a9cb410ff61f20015ad".toList := by
  decide +kernel

end ResponseEngine.Foundation.Sha256
