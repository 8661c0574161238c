import ClusterEvents.Text.Glyph

/-!
# Hexadecimal text of bytes

Each byte is written as two lowercase digits; reading takes digits of either case.
-/

namespace ClusterEvents.Text

/-- The two hexadecimal digits of a byte. -/
def hexByte (b : UInt8) : List Char :=
  [Nat.digitChar (b.toNat / 16), Nat.digitChar (b.toNat % 16)]

/-- Bytes as hexadecimal text. -/
def hex (bytes : Bytes) : String :=
  String.ofList (bytes.flatMap hexByte)

/-- The value of a hexadecimal digit. -/
def hexDigit? (c : Char) : Option Nat :=
  if '0' ≤ c ∧ c ≤ '9' then some (c.toNat - 48)
  else if 'a' ≤ c ∧ c ≤ 'f' then some (c.toNat - 87)
  else if 'A' ≤ c ∧ c ≤ 'F' then some (c.toNat - 55)
  else none

/-- The bytes that pairs of hexadecimal digits stand for. -/
def unhex? : List Char → Option Bytes
  | [] => some []
  | a :: b :: rest => do
    let high ← hexDigit? a
    let low ← hexDigit? b
    let bytes ← unhex? rest
    some (UInt8.ofNat (high * 16 + low) :: bytes)
  | _ => none

end ClusterEvents.Text
