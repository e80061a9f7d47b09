import TensorCompiler.Digest.Sha2
import TensorCompiler.Text.Basic

/-!
# Checksums

Digests of an older kind, and remainders and sums that guard against slips only.
-/

namespace TensorCompiler.Digest

/-!
## MD5

The digest of a sequence of bytes: padding to blocks of sixty-four bytes, and for each block
sixty-four rounds over a state of four words. Words are little-endian.
-/

namespace Md5

/-- The four working words. -/
structure State where
  a : UInt32
  b : UInt32
  c : UInt32
  d : UInt32
deriving DecidableEq

/-- The round constants. -/
def roundConstants : List UInt32 :=
  [0xd76aa478, 0xe8c7b756, 0x242070db, 0xc1bdceee, 0xf57c0faf, 0x4787c62a,
   0xa8304613, 0xfd469501, 0x698098d8, 0x8b44f7af, 0xffff5bb1, 0x895cd7be,
   0x6b901122, 0xfd987193, 0xa679438e, 0x49b40821, 0xf61e2562, 0xc040b340,
   0x265e5a51, 0xe9b6c7aa, 0xd62f105d, 0x02441453, 0xd8a1e681, 0xe7d3fbc8,
   0x21e1cde6, 0xc33707d6, 0xf4d50d87, 0x455a14ed, 0xa9e3e905, 0xfcefa3f8,
   0x676f02d9, 0x8d2a4c8a, 0xfffa3942, 0x8771f681, 0x6d9d6122, 0xfde5380c,
   0xa4beea44, 0x4bdecfa9, 0xf6bb4b60, 0xbebfbc70, 0x289b7ec6, 0xeaa127fa,
   0xd4ef3085, 0x04881d05, 0xd9d4d039, 0xe6db99e5, 0x1fa27cf8, 0xc4ac5665,
   0xf4292244, 0x432aff97, 0xab9423a7, 0xfc93a039, 0x655b59c3, 0x8f0ccc92,
   0xffeff47d, 0x85845dd1, 0x6fa87e4f, 0xfe2ce6e0, 0xa3014314, 0x4e0811a1,
   0xf7537e82, 0xbd3af235, 0x2ad7d2bb, 0xeb86d391]

/-- The rotations of the rounds: four for each group of sixteen. -/
def rotations : List (List UInt32) :=
  [[7, 12, 17, 22], [5, 9, 14, 20], [4, 11, 16, 23], [6, 10, 15, 21]]

/-- The state before the first block. -/
def initial : State := ⟨0x67452301, 0xefcdab89, 0x98badcfe, 0x10325476⟩

/-- Rotation to the left. -/
def rotl (x : UInt32) (n : UInt32) : UInt32 := (x <<< n) ||| (x >>> (32 - n))

/-- The little-endian bytes of a number. -/
def littleEndian : Nat → Nat → List UInt8
  | 0, _ => []
  | width + 1, n => n.toUInt8 :: littleEndian width (n / 256)

/-- The message, a one bit, zeros, and the length in bits: a multiple of sixty-four bytes. -/
def pad (message : List UInt8) : List UInt8 :=
  let size := message.length
  message ++ 0x80 :: List.replicate ((119 - size % 64) % 64) 0 ++ littleEndian 8 (8 * size)

/-- Groups bytes into little-endian words. -/
def toWords : List UInt8 → List UInt32
  | b0 :: b1 :: b2 :: b3 :: rest =>
    ((b3.toUInt32 <<< 24) ||| (b2.toUInt32 <<< 16) ||| (b1.toUInt32 <<< 8) ||| b0.toUInt32) ::
      toWords rest
  | _ => []

/-- What a round mixes, and which word of the block it takes. -/
def mix (s : State) (i : Nat) : UInt32 × Nat :=
  match i / 16 with
  | 0 => ((s.b &&& s.c) ||| ((~~~ s.b) &&& s.d), i)
  | 1 => ((s.d &&& s.b) ||| ((~~~ s.d) &&& s.c), (5 * i + 1) % 16)
  | 2 => (s.b ^^^ s.c ^^^ s.d, (3 * i + 5) % 16)
  | _ => (s.c ^^^ (s.b ||| (~~~ s.d)), (7 * i) % 16)

/-- One round with its constant and its number. -/
def round (block : List UInt32) (s : State) (ki : UInt32 × Nat) : State :=
  let (f, g) := mix s ki.2
  let turn := (rotations.getD (ki.2 / 16) []).getD (ki.2 % 4) 0
  ⟨s.d, s.b + rotl (s.a + f + ki.1 + block.getD g 0) turn, s.b, s.c⟩

/-- Absorbs one block of sixteen words. -/
def compress (s : State) (block : List UInt32) : State :=
  let t := roundConstants.zipIdx.foldl (round block) s
  ⟨s.a + t.a, s.b + t.b, s.c + t.c, s.d + t.d⟩

/-- Absorbs `n` blocks. -/
def absorb : Nat → State → List UInt32 → State
  | 0, s, _ => s
  | n + 1, s, words => absorb n (compress s (words.take 16)) (words.drop 16)

end Md5

/-- The sixteen bytes of the digest of a message. -/
def md5 (message : List UInt8) : List UInt8 :=
  let words := Md5.toWords (Md5.pad message)
  let s := Md5.absorb (words.length / 16) Md5.initial words
  [s.a, s.b, s.c, s.d].flatMap fun w => Md5.littleEndian 4 w.toNat

/-!
## SHA-1

The digest of a sequence of bytes: the padding of SHA-256, a schedule of eighty words for each
block, and eighty rounds over a state of five words.
-/

namespace Sha1

/-- The five working words. -/
structure State where
  a : UInt32
  b : UInt32
  c : UInt32
  d : UInt32
  e : UInt32
deriving DecidableEq

/-- The state before the first block. -/
def initial : State := ⟨0x67452301, 0xefcdab89, 0x98badcfe, 0x10325476, 0xc3d2e1f0⟩

/-- Extends a schedule by `n` words, the last word first. -/
def extend : Nat → List UInt32 → List UInt32
  | 0, recent => recent
  | n + 1, recent =>
    let w := recent.getD 2 0 ^^^ recent.getD 7 0 ^^^ recent.getD 13 0 ^^^ recent.getD 15 0
    extend n (Md5.rotl w 1 :: recent)

/-- What a round mixes, and its constant. -/
def mix (s : State) (i : Nat) : UInt32 × UInt32 :=
  match i / 20 with
  | 0 => ((s.b &&& s.c) ||| ((~~~ s.b) &&& s.d), 0x5a827999)
  | 1 => (s.b ^^^ s.c ^^^ s.d, 0x6ed9eba1)
  | 2 => ((s.b &&& s.c) ||| (s.b &&& s.d) ||| (s.c &&& s.d), 0x8f1bbcdc)
  | _ => (s.b ^^^ s.c ^^^ s.d, 0xca62c1d6)

/-- One round with a word of the schedule and its number. -/
def round (s : State) (wi : UInt32 × Nat) : State :=
  let (f, k) := mix s wi.2
  ⟨Md5.rotl s.a 5 + f + s.e + k + wi.1, s.a, Md5.rotl s.b 30, s.c, s.d⟩

/-- Absorbs one block of sixteen words. -/
def compress (s : State) (block : List UInt32) : State :=
  let t := ((extend 64 block.reverse).reverse.zipIdx).foldl round s
  ⟨s.a + t.a, s.b + t.b, s.c + t.c, s.d + t.d, s.e + t.e⟩

/-- Absorbs `n` blocks. -/
def absorb : Nat → State → List UInt32 → State
  | 0, s, _ => s
  | n + 1, s, words => absorb n (compress s (words.take 16)) (words.drop 16)

end Sha1

/-- The twenty bytes of the digest of a message. -/
def sha1 (message : List UInt8) : List UInt8 :=
  let words := Sha256.toWords (Sha256.pad message)
  let s := Sha1.absorb (words.length / 16) Sha1.initial words
  [s.a, s.b, s.c, s.d, s.e].flatMap fun w => Sha256.bigEndian 4 w.toNat

/-!
## Cyclic checks

The remainder of a sequence of bytes as a polynomial over two elements, with the length of the
sequence behind it, and a simple sum of bytes.
-/

namespace Cyclic

/-- The polynomial without its highest power. -/
def polynomial : UInt32 := 0x04c11db7

/-- Shifts a remainder by one bit. -/
def shift (r : UInt32) : UInt32 :=
  if r &&& 0x80000000 == 0 then r <<< 1 else (r <<< 1) ^^^ polynomial

/-- Takes one byte in. -/
def byte (r : UInt32) (b : UInt8) : UInt32 :=
  (List.range 8).foldl (fun r _ => shift r) (r ^^^ (b.toUInt32 <<< 24))

/-- The bytes of a length, the lowest first and none behind the last that counts. -/
def lengthBytes : Nat → Nat → List UInt8
  | 0, _ => []
  | fuel + 1, n => if n == 0 then [] else n.toUInt8 :: lengthBytes fuel (n / 256)

end Cyclic

/-- The check number of some bytes. -/
def cyclicCheck (bytes : List UInt8) : Nat :=
  let behind := Cyclic.lengthBytes 16 bytes.length
  (~~~ ((bytes ++ behind).foldl Cyclic.byte 0)).toNat

/-- The sum of some bytes in sixteen bits, turned by one bit before each. -/
def rotatingSum (bytes : List UInt8) : Nat :=
  bytes.foldl (fun n b => (n / 2 + n % 2 * 32768 + b.toNat) % 65536) 0

end TensorCompiler.Digest
