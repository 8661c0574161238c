import ClusterEvents.Digest.Block

/-!
# SHA-1

The SHA-1 digest of a sequence of bytes.
-/

namespace ClusterEvents.Digest.Sha1

/-- The five words that a block is mixed into. -/
structure State where
  a : UInt32
  b : UInt32
  c : UInt32
  d : UInt32
  e : UInt32
deriving DecidableEq

/-- The words before the first block. -/
def initial : State := ⟨0x67452301, 0xefcdab89, 0x98badcfe, 0x10325476, 0xc3d2e1f0⟩

/-- The eighty words of a block's schedule: its own sixteen, then each the rotated
combination of four earlier ones. -/
def schedule (block : Array UInt32) : Array UInt32 :=
  (List.range 64).foldl (fun w k =>
    let back (n : Nat) := w.getD (k + 16 - n) 0
    w.push (rotateLeft (back 3 ^^^ back 8 ^^^ back 14 ^^^ back 16) 1)) block

/-- How step `i` combines three words, and the constant it adds. -/
def mix (i : Nat) (s : State) : UInt32 × UInt32 :=
  match i / 20 with
  | 0 => ((s.b &&& s.c) ||| (~~~ s.b &&& s.d), 0x5a827999)
  | 1 => (s.b ^^^ s.c ^^^ s.d, 0x6ed9eba1)
  | 2 => ((s.b &&& s.c) ||| (s.b &&& s.d) ||| (s.c &&& s.d), 0x8f1bbcdc)
  | _ => (s.b ^^^ s.c ^^^ s.d, 0xca62c1d6)

/-- Step `i`, with its word of the schedule. -/
def step (s : State) (numbered : UInt32 × Nat) : State :=
  let (word, i) := numbered
  let (mixed, constant) := mix i s
  ⟨rotateLeft s.a 5 + mixed + s.e + constant + word, s.a, rotateLeft s.b 30, s.c, s.d⟩

/-- The state after one more block. -/
def absorb (s : State) (block : Array UInt32) : State :=
  let t := (schedule block).toList.zipIdx.foldl step s
  ⟨s.a + t.a, s.b + t.b, s.c + t.c, s.d + t.d, s.e + t.e⟩

/-- The twenty bytes of the digest. -/
def digest (message : Bytes) : Bytes :=
  let s := (blocks .highFirst message).foldl absorb initial
  [s.a, s.b, s.c, s.d, s.e].flatMap fun w => ByteOrder.bytes .highFirst 4 w.toNat

end ClusterEvents.Digest.Sha1
