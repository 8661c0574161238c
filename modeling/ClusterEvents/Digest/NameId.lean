import ClusterEvents.Digest.Sha1
import ClusterEvents.Text.Hex

/-!
# Identifiers derived from names

A name-based identifier of version 5: the first sixteen bytes of the SHA-1 digest of
a namespace and a name, with the version and the variant written over six bits, in
the usual five groups of hexadecimal digits.
-/

namespace ClusterEvents.Digest.NameId

/-- Overwrites the bits that carry the version and the variant. -/
def stamp (bytes : Bytes) : Bytes :=
  bytes.zipIdx.map fun (b, i) =>
    if i = 6 then (b &&& 0x0f) ||| 0x50
    else if i = 8 then (b &&& 0x3f) ||| 0x80
    else b

/-- Five groups of hexadecimal digits with hyphens between them. -/
def grouped (bytes : Bytes) : String :=
  let part (start count : Nat) := Text.hex ((bytes.drop start).take count)
  String.intercalate "-" [part 0 4, part 4 2, part 6 2, part 8 2, part 10 6]

/-- The identifier of a name in a namespace. -/
def ofName (space name : Bytes) : String :=
  grouped (stamp ((Sha1.digest (space ++ name)).take 16))

end ClusterEvents.Digest.NameId
