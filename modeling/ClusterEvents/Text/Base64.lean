import ClusterEvents.Text.Glyph

/-!
# Base 64

Three bytes are written as four characters of an alphabet of sixty-four; what is
missing at the end is filled up with equals signs.
-/

namespace ClusterEvents.Text

/-- The character of a digit in base 64. -/
def base64Digit (n : Nat) : Char :=
  if n < 26 then Char.ofNat (65 + n)
  else if n < 52 then Char.ofNat (97 + (n - 26))
  else if n < 62 then Char.ofNat (48 + (n - 52))
  else if n = 62 then '+'
  else '/'

/-- The characters of bytes in base 64. -/
def base64Digits : Bytes → List Char
  | [] => []
  | [a] =>
    let n := a.toNat * 65536
    [base64Digit (n / 262144), base64Digit (n / 4096 % 64), '=', '=']
  | [a, b] =>
    let n := a.toNat * 65536 + b.toNat * 256
    [base64Digit (n / 262144), base64Digit (n / 4096 % 64), base64Digit (n / 64 % 64), '=']
  | a :: b :: c :: rest =>
    let n := a.toNat * 65536 + b.toNat * 256 + c.toNat
    base64Digit (n / 262144) :: base64Digit (n / 4096 % 64) :: base64Digit (n / 64 % 64)
      :: base64Digit (n % 64) :: base64Digits rest

/-- Bytes in base 64. -/
def base64 (bytes : Bytes) : String :=
  String.ofList (base64Digits bytes)

end ClusterEvents.Text
