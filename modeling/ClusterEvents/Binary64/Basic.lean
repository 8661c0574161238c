/-!
# Doubles by their bits

A double is kept as its sixty-four bits, so equality of doubles is equality of
bits and can be decided. What a double is worth is read off the bits in natural
numbers: a sign, and a magnitude `significand * 2 ^ exponent`. Arithmetic is done
on exact fractions and rounded once: `ofFraction num den` is the double nearest to
`num / den`, an exact tie going to the even neighbour.

Main definitions: `Binary64.significand`, `Binary64.exponent`, `Binary64.ofFraction`
and the product and quotient of two doubles built on it.
-/

namespace ClusterEvents

-- Powers are those that numbers bring along, whatever else is imported.
attribute [local instance (high)] instPowNat instNatPowNat

/-- A double-precision number, given by its bits: one for the sign, eleven for the
exponent, fifty-two for the fraction. -/
structure Binary64 where
  /-- The bits, the sign uppermost. -/
  bits : UInt64
deriving DecidableEq, Inhabited

namespace Binary64

/-- Whether the sign bit is set. Negative zero is negative in this sense. -/
def negative (d : Binary64) : Bool :=
  decide (2 ^ (63 : Nat) ≤ d.bits.toNat)

/-- The eleven bits below the sign. -/
def exponentField (d : Binary64) : Nat :=
  d.bits.toNat / 2 ^ (52 : Nat) % 2 ^ (11 : Nat)

/-- The lowest fifty-two bits. -/
def fractionField (d : Binary64) : Nat :=
  d.bits.toNat % 2 ^ (52 : Nat)

/-- Whether the double stands for a number, rather than an infinity or no number. -/
def finite (d : Binary64) : Bool :=
  d.exponentField != 2047

/-- The integer `m` in `m * 2 ^ e`, the magnitude of a finite double. -/
def significand (d : Binary64) : Nat :=
  if d.exponentField = 0 then d.fractionField else 2 ^ (52 : Nat) + d.fractionField

/-- The exponent `e` in `m * 2 ^ e`, the magnitude of a finite double. -/
def exponent (d : Binary64) : Int :=
  (max d.exponentField 1 : Nat) - 1075

/-- The numerator of the magnitude, over `denominator`. -/
def numerator (d : Binary64) : Nat :=
  d.significand * 2 ^ d.exponent.toNat

/-- The denominator of the magnitude, a power of two. -/
def denominator (d : Binary64) : Nat :=
  2 ^ (-d.exponent).toNat

/-- Both zeros are worth nothing, whatever their sign. -/
def isZero (d : Binary64) : Bool :=
  d.exponentField == 0 && d.fractionField == 0

/-- Two doubles are the same number when they have the same bits, or when both are
zero. -/
def same (a b : Binary64) : Bool :=
  decide (a = b) || (a.isZero && b.isZero)

/-- The double made of a sign and the lower sixty-three bits. -/
def ofFields (negative : Bool) (low : Nat) : Binary64 :=
  ⟨UInt64.ofNat (low + if negative then 2 ^ (63 : Nat) else 0)⟩

/-- Zero, of either sign. -/
def zero (negative : Bool) : Binary64 :=
  ofFields negative 0

/-- The lower bits of infinity, of either sign. -/
def infinityBits : Nat :=
  2047 * 2 ^ (52 : Nat)

/-- The quotient rounded to the nearest integer, a tie going to the even one. -/
def roundHalfEven (num den : Nat) : Nat :=
  let q := num / den
  let r := num % den
  if 2 * r < den then q
  else if den < 2 * r then q + 1
  else if q % 2 = 0 then q else q + 1

/-- The lower bits of the double nearest to `num / den`: infinity's bits when the
fraction is beyond the largest finite double. The exponent is chosen so that the
rounded significand has fifty-three digits, or fewer below the normal range; a
significand rounded up to the next power of two carries into the exponent field by
itself. -/
def fractionBits (num den : Nat) : Nat :=
  if num = 0 then 0
  else
    let estimate : Int := (num.log2 : Int) - den.log2
    let above : Bool :=
      if 0 ≤ estimate then decide (num < den * 2 ^ estimate.toNat)
      else decide (num * 2 ^ (-estimate).toNat < den)
    let leading : Int := if above then estimate - 1 else estimate
    let e : Int := max (leading - 52) (-1074)
    let m := if 0 ≤ e then roundHalfEven num (den * 2 ^ e.toNat)
      else roundHalfEven (num * 2 ^ (-e).toNat) den
    min infinityBits ((e + 1074).toNat * 2 ^ (52 : Nat) + m)

/-- The double nearest to a fraction of the given sign. A tie goes to the neighbour
whose last bit is zero; what is out of range becomes an infinity. -/
def ofFraction (negative : Bool) (num den : Nat) : Binary64 :=
  ofFields negative (fractionBits num den)

/-- The double nearest to an integer. -/
def ofInt (n : Int) : Binary64 :=
  ofFraction (decide (n < 0)) n.natAbs 1

/-- The double nearest to the product of two finite doubles. -/
def mul (a b : Binary64) : Binary64 :=
  ofFraction (a.negative != b.negative) (a.numerator * b.numerator)
    (a.denominator * b.denominator)

/-- The double nearest to the quotient of two finite doubles, the second not zero. -/
def div (a b : Binary64) : Binary64 :=
  ofFraction (a.negative != b.negative) (a.numerator * b.denominator)
    (a.denominator * b.numerator)

end Binary64

end ClusterEvents
