import ClusterEvents.Text.Glyph

/-!
# Blocks of a digest

The digests here work on blocks of sixty-four bytes, each read as sixteen words. A
message is extended to whole blocks: by the byte `0x80`, by zeros, and by its length
in bits as eight bytes. The two digests differ in the order of bytes in a word.
-/

namespace ClusterEvents.Digest

/-- How the bytes of a word are ordered. -/
inductive ByteOrder where
  | lowFirst
  | highFirst
deriving DecidableEq

/-- The lowest `count` bytes of a number, lowest first. -/
def lowBytes : (count : Nat) → Nat → Bytes
  | 0, _ => []
  | count + 1, n => UInt8.ofNat n :: lowBytes count (n / 256)

/-- The lowest `count` bytes of a number in the given order. -/
def ByteOrder.bytes (order : ByteOrder) (count n : Nat) : Bytes :=
  match order with
  | .lowFirst => lowBytes count n
  | .highFirst => (lowBytes count n).reverse

/-- The number that bytes stand for, highest byte first. -/
def ofHighFirst (bytes : Bytes) : Nat :=
  bytes.foldl (fun n b => n * 256 + b.toNat) 0

/-- The word that bytes stand for. -/
def ByteOrder.word (order : ByteOrder) (bytes : Bytes) : UInt32 :=
  match order with
  | .lowFirst => UInt32.ofNat (ofHighFirst bytes.reverse)
  | .highFirst => UInt32.ofNat (ofHighFirst bytes)

/-- A message extended to whole blocks. -/
def padded (order : ByteOrder) (message : Bytes) : Bytes :=
  let zeros := (119 - message.length % 64) % 64
  message ++ 0x80 :: List.replicate zeros 0 ++ order.bytes 8 (message.length * 8)

/-- The first `count` groups of `size` bytes. -/
def groups (size : Nat) : (count : Nat) → Bytes → List Bytes
  | 0, _ => []
  | count + 1, bytes => bytes.take size :: groups size count (bytes.drop size)

/-- The blocks of a message, each as sixteen words. -/
def blocks (order : ByteOrder) (message : Bytes) : List (Array UInt32) :=
  let bytes := padded order message
  (groups 64 (bytes.length / 64) bytes).map fun block =>
    ((groups 4 16 block).map order.word).toArray

/-- A word with its bits moved up, those falling off coming back at the bottom. -/
def rotateLeft (w count : UInt32) : UInt32 :=
  (w <<< count) ||| (w >>> (32 - count))

end ClusterEvents.Digest
