import ClusterEvents.Digest.Block
import ClusterEvents.Text.Hex

/-!
# MD5

The MD5 digest of a sequence of bytes, and its hexadecimal text, which stands in for
names that must not be stored.
-/

namespace ClusterEvents.Digest.Md5

/-- The four words that a block is mixed into. -/
structure State where
  a : UInt32
  b : UInt32
  c : UInt32
  d : UInt32
deriving DecidableEq

/-- The words before the first block. -/
def initial : State := ⟨0x67452301, 0xefcdab89, 0x98badcfe, 0x10325476⟩

/-- The constant added in each of the sixty-four steps: the leading bits of a sine. -/
def sines : List UInt32 :=
  [
   0xd76aa478, 0xe8c7b756, 0x242070db, 0xc1bdceee,
   0xf57c0faf, 0x4787c62a, 0xa8304613, 0xfd469501,
   0x698098d8, 0x8b44f7af, 0xffff5bb1, 0x895cd7be,
   0x6b901122, 0xfd987193, 0xa679438e, 0x49b40821,
   0xf61e2562, 0xc040b340, 0x265e5a51, 0xe9b6c7aa,
   0xd62f105d, 0x02441453, 0xd8a1e681, 0xe7d3fbc8,
   0x21e1cde6, 0xc33707d6, 0xf4d50d87, 0x455a14ed,
   0xa9e3e905, 0xfcefa3f8, 0x676f02d9, 0x8d2a4c8a,
   0xfffa3942, 0x8771f681, 0x6d9d6122, 0xfde5380c,
   0xa4beea44, 0x4bdecfa9, 0xf6bb4b60, 0xbebfbc70,
   0x289b7ec6, 0xeaa127fa, 0xd4ef3085, 0x04881d05,
   0xd9d4d039, 0xe6db99e5, 0x1fa27cf8, 0xc4ac5665,
   0xf4292244, 0x432aff97, 0xab9423a7, 0xfc93a039,
   0x655b59c3, 0x8f0ccc92, 0xffeff47d, 0x85845dd1,
   0x6fa87e4f, 0xfe2ce6e0, 0xa3014314, 0x4e0811a1,
   0xf7537e82, 0xbd3af235, 0x2ad7d2bb, 0xeb86d391
  ]

/-- How far step `i` rotates. -/
def rotation (i : Nat) : UInt32 :=
  let row : List UInt32 := match i / 16 with
    | 0 => [7, 12, 17, 22]
    | 1 => [5, 9, 14, 20]
    | 2 => [4, 11, 16, 23]
    | _ => [6, 10, 15, 21]
  row.getD (i % 4) 0

/-- The word of the block that step `i` uses. -/
def wordIndex (i : Nat) : Nat :=
  match i / 16 with
  | 0 => i % 16
  | 1 => (5 * i + 1) % 16
  | 2 => (3 * i + 5) % 16
  | _ => 7 * i % 16

/-- How step `i` combines three words. -/
def mix (i : Nat) (s : State) : UInt32 :=
  match i / 16 with
  | 0 => (s.b &&& s.c) ||| (~~~ s.b &&& s.d)
  | 1 => (s.d &&& s.b) ||| (~~~ s.d &&& s.c)
  | 2 => s.b ^^^ s.c ^^^ s.d
  | _ => s.c ^^^ (s.b ||| ~~~ s.d)

/-- Step `i` on a block. -/
def step (block : Array UInt32) (s : State) (numbered : UInt32 × Nat) : State :=
  let (sine, i) := numbered
  let sum := mix i s + s.a + sine + block.getD (wordIndex i) 0
  ⟨s.d, s.b + rotateLeft sum (rotation i), s.b, s.c⟩

/-- The state after one more block. -/
def absorb (s : State) (block : Array UInt32) : State :=
  let t := sines.zipIdx.foldl (step block) s
  ⟨s.a + t.a, s.b + t.b, s.c + t.c, s.d + t.d⟩

/-- The sixteen bytes of the digest. -/
def digest (message : Bytes) : Bytes :=
  let s := (blocks .lowFirst message).foldl absorb initial
  [s.a, s.b, s.c, s.d].flatMap fun w => ByteOrder.bytes .lowFirst 4 w.toNat

/-- The digest of a string's bytes as hexadecimal text. -/
def hexText (s : String) : String :=
  Text.hex (digest (Bytes.ofString s))

end ClusterEvents.Digest.Md5
