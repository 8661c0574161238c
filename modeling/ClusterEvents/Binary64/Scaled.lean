import ClusterEvents.Binary64.Basic

/-!
# A decimal significand scaled by a power of ten

A decimal numeral is valued in two roundings. Its leading digits, as many as fit in
sixty-four bits, are rounded to a double; that double is then multiplied or divided
by the double nearest to a power of ten. Exponents below `-308` are reached in
several divisions. `scaled` is `none` when the result is beyond the largest finite
double.
-/

namespace ClusterEvents.Binary64

-- Powers are those that numbers bring along, whatever else is imported.
attribute [local instance (high)] instPowNat instNatPowNat instPowUInt64Nat

/-- The double nearest to `10 ^ k`. -/
def tenToThe (k : Nat) : Binary64 :=
  ofFraction false (10 ^ k) 1

/-- The largest power of ten that a double can hold. -/
def largestTenExponent : Nat := 308

/-- Division by `10 ^ k` for any `k`, at most `10 ^ 308` at a time; a zero stays
zero and ends the division. -/
def divTenToThe (d : Binary64) (k : Nat) : Binary64 :=
  if d.isZero then d
  else if k ≤ largestTenExponent then d.div (tenToThe k)
  else divTenToThe (d.div (tenToThe largestTenExponent)) (k - largestTenExponent)
termination_by k
decreasing_by simp only [largestTenExponent] at *; omega

/-- The double for `significand * 10 ^ exponent`, or `none` when it is out of range. -/
def scaled (negative : Bool) (significand : Nat) (exponent : Int) : Option Binary64 :=
  let magnitude := ofFraction false significand 1
  let result : Option Binary64 :=
    match exponent with
    | .negSucc k => some (divTenToThe magnitude (k + 1))
    | .ofNat k =>
      if magnitude.isZero then some magnitude
      else if k ≤ largestTenExponent then
        let product := magnitude.mul (tenToThe k)
        if product.finite then some product else none
      else none
  result.map fun d => if negative then ⟨d.bits + 2 ^ (63 : Nat)⟩ else d

end ClusterEvents.Binary64
