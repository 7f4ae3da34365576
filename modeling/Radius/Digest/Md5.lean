-- SUMMARY: The MD5 message digest.
import Radius.Bytes

/-!
# MD5

The message is padded with a one bit, zeros and its length in bits to a multiple of
sixty-four octets. Each chunk of sixteen little-endian words then takes the four
state words through sixty-four steps, and the state at the end, little-endian, is
the digest.
-/

namespace Radius.Md5

/-! ## Words -/

/-- The little-endian octets of a word. -/
def wordBytes (word : UInt32) : Bytes :=
  [word.toUInt8, (word >>> 8).toUInt8, (word >>> 16).toUInt8, (word >>> 24).toUInt8]

/-- The little-endian words of a byte string, as far as four octets reach. -/
def wordsOf : Bytes → List UInt32
  | a :: b :: c :: d :: rest =>
      (a.toUInt32 ||| (b.toUInt32 <<< 8) ||| (c.toUInt32 <<< 16) ||| (d.toUInt32 <<< 24))
        :: wordsOf rest
  | _ => []

def rotateLeft (word count : UInt32) : UInt32 :=
  (word <<< count) ||| (word >>> (32 - count))

/-! ## Padding -/

/-- A one bit and zeros up to eight octets before a multiple of sixty-four, then the length in
bits as eight little-endian octets. -/
def pad (message : Bytes) : Bytes :=
  let zeros := (119 - message.length % 64) % 64
  message ++ 0x80 :: List.replicate zeros 0 ++ (Bytes.ofNat 8 (message.length * 8)).reverse

/-! ## Steps -/

structure State where
  a : UInt32
  b : UInt32
  c : UInt32
  d : UInt32
deriving DecidableEq

def State.initial : State := ⟨0x67452301, 0xefcdab89, 0x98badcfe, 0x10325476⟩

/-- The constants of the sixty-four steps: the first thirty-two bits of the fraction of
`|sin (i + 1)|`. -/
def constants : List UInt32 :=
  [ 0xd76aa478, 0xe8c7b756, 0x242070db, 0xc1bdceee, 0xf57c0faf, 0x4787c62a, 0xa8304613, 0xfd469501,
    0x698098d8, 0x8b44f7af, 0xffff5bb1, 0x895cd7be, 0x6b901122, 0xfd987193, 0xa679438e, 0x49b40821,
    0xf61e2562, 0xc040b340, 0x265e5a51, 0xe9b6c7aa, 0xd62f105d, 0x02441453, 0xd8a1e681, 0xe7d3fbc8,
    0x21e1cde6, 0xc33707d6, 0xf4d50d87, 0x455a14ed, 0xa9e3e905, 0xfcefa3f8, 0x676f02d9, 0x8d2a4c8a,
    0xfffa3942, 0x8771f681, 0x6d9d6122, 0xfde5380c, 0xa4beea44, 0x4bdecfa9, 0xf6bb4b60, 0xbebfbc70,
    0x289b7ec6, 0xeaa127fa, 0xd4ef3085, 0x04881d05, 0xd9d4d039, 0xe6db99e5, 0x1fa27cf8, 0xc4ac5665,
    0xf4292244, 0x432aff97, 0xab9423a7, 0xfc93a039, 0x655b59c3, 0x8f0ccc92, 0xffeff47d, 0x85845dd1,
    0x6fa87e4f, 0xfe2ce6e0, 0xa3014314, 0x4e0811a1, 0xf7537e82, 0xbd3af235, 0x2ad7d2bb, 0xeb86d391 ]

/-- The rotations of the four rounds, each used four times in turn. -/
def rotations : List (List UInt32) :=
  [[7, 12, 17, 22], [5, 9, 14, 20], [4, 11, 16, 23], [6, 10, 15, 21]]

/-- The message word that step `i` takes. -/
def wordIndex (i : Nat) : Nat :=
  match i / 16 with
  | 0 => i
  | 1 => (5 * i + 1) % 16
  | 2 => (3 * i + 5) % 16
  | _ => 7 * i % 16

def mix (round : Nat) (b c d : UInt32) : UInt32 :=
  match round with
  | 0 => (b &&& c) ||| (~~~b &&& d)
  | 1 => (d &&& b) ||| (~~~d &&& c)
  | 2 => b ^^^ c ^^^ d
  | _ => c ^^^ (b ||| ~~~d)

/-- Step `i` of a chunk, with its constant. -/
def step (words : Array UInt32) (state : State) (i : Nat) (constant : UInt32) : State :=
  let rotation := ((rotations.getD (i / 16) []).getD (i % 4) 0)
  let sum := state.a + mix (i / 16) state.b state.c state.d + constant + words.getD (wordIndex i) 0
  ⟨state.d, state.b + rotateLeft sum rotation, state.b, state.c⟩

def steps (words : Array UInt32) : State → (i : Nat) → List UInt32 → State
  | state, _, []               => state
  | state, i, constant :: rest => steps words (step words state i constant) (i + 1) rest

/-- Take the state through one chunk of sixty-four octets. -/
def compress (state : State) (chunk : Bytes) : State :=
  let after := steps (wordsOf chunk).toArray state 0 constants
  ⟨state.a + after.a, state.b + after.b, state.c + after.c, state.d + after.d⟩

/-- Take the state through `count` chunks. -/
def absorb : (count : Nat) → State → Bytes → State
  | 0,         state, _       => state
  | count + 1, state, message => absorb count (compress state (message.take 64)) (message.drop 64)

def State.bytes (state : State) : Bytes :=
  wordBytes state.a ++ wordBytes state.b ++ wordBytes state.c ++ wordBytes state.d

/-- The digest of a message. -/
def digest : Hash := fun message =>
  let padded := pad message
  ⟨(absorb (padded.length / 64) State.initial padded).bytes, rfl⟩

end Radius.Md5
