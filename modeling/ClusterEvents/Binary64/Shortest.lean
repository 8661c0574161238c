import ClusterEvents.Binary64.Basic

/-!
# The shortest decimal that reads back

A double stands for every real that rounds to it: an interval around its value,
whose ends belong to it exactly when its significand is even. `shortest` looks for
a decimal with the fewest digits in that interval. For each digit count it tests the
two neighbours of the value on the grid of decimals with that many digits, in exact
natural-number arithmetic; of two hits the nearer wins, and of two equally near ones
the even one.
-/

namespace ClusterEvents.Binary64

-- Powers are those that numbers bring along, whatever else is imported.
attribute [local instance (high)] instPowNat instNatPowNat

/-- The number of decimal digits of a positive integer. -/
def digitCount (n : Nat) : Nat :=
  (Nat.toDigits 10 n).length

/-- The integer `k` with `10 ^ k ≤ num / den < 10 ^ (k + 1)`, for a positive
fraction. -/
def decimalExponent (num den : Nat) : Int :=
  if den ≤ num then (digitCount (num / den) : Int) - 1
  else -(digitCount ((den + num - 1) / num - 1) : Int)

/-- The interval of reals that round to a positive double, over a common
denominator: its ends, the value between them, and whether the ends belong to it. -/
structure Interval where
  low : Nat
  value : Nat
  high : Nat
  den : Nat
  closed : Bool

/-- The reals that round to a positive finite double. Below a power of two the
neighbour is half as far away as above it. -/
def interval (d : Binary64) : Interval :=
  let m := d.significand
  let scale := 2 ^ d.exponent.toNat
  let below := if d.fractionField = 0 && decide (1 < d.exponentField) then 1 else 2
  { low := (4 * m - below) * scale
    value := 4 * m * scale
    high := (4 * m + 2) * scale
    den := 4 * d.denominator
    closed := m % 2 == 0 }

/-- Whether the decimal `c * 10 ^ k` lies in an interval. -/
def Interval.holds (i : Interval) (c : Nat) (k : Int) : Bool :=
  let x := c * 10 ^ k.toNat * i.den
  let unit := 10 ^ (-k).toNat
  let low := i.low * unit
  let high := i.high * unit
  if i.closed then decide (low ≤ x) && decide (x ≤ high)
  else decide (low < x) && decide (x < high)

/-- The decimal with the given number of digits that stands for a double and lies
nearest to its value, if there is one. -/
def nearestWithDigits (i : Interval) (leading : Int) (count : Nat) : Option (Nat × Int) :=
  let k : Int := leading - count + 1
  let num := i.value * 10 ^ (-k).toNat
  let den := i.den * 10 ^ k.toNat
  let c := num / den
  let rest := num % den
  let lower := decide (0 < c) && i.holds c k
  let upper := i.holds (c + 1) k
  if lower && upper then
    if 2 * rest < den then some (c, k)
    else if den < 2 * rest then some (c + 1, k)
    else if c % 2 = 0 then some (c, k) else some (c + 1, k)
  else if lower then some (c, k)
  else if upper then some (c + 1, k)
  else none

/-- The first hit among growing digit counts. -/
def searchDigits (i : Interval) (leading : Int) : (fuel count : Nat) → Nat × Int
  | 0, count =>
    let k : Int := leading - count + 1
    (i.value * 10 ^ (-k).toNat / (i.den * 10 ^ k.toNat), k)
  | fuel + 1, count =>
    match nearestWithDigits i leading count with
    | some hit => hit
    | none => searchDigits i leading fuel (count + 1)

/-- The shortest decimal `c * 10 ^ k` that reads back as a positive finite double.
Seventeen digits always suffice. -/
def shortest (d : Binary64) : Nat × Int :=
  let i := d.interval
  searchDigits i (decimalExponent i.value i.den) 17 1

/-- How a decimal is laid out: positional when its leading digit stands for a power
of ten from `lowest` to `highest`, in scientific form otherwise. -/
structure DecimalStyle where
  lowest : Int
  highest : Int
deriving DecidableEq

/-- Digits written positionally, with at least one digit on each side of the
point. `k` is the power of ten that the last digit stands for. -/
def positional (digits : List Char) (k : Int) : List Char :=
  if 0 ≤ k then digits ++ List.replicate k.toNat '0' ++ ['.', '0']
  else
    let places := (-k).toNat
    if places < digits.length then
      digits.take (digits.length - places) ++ '.' :: digits.drop (digits.length - places)
    else '0' :: '.' :: List.replicate (places - digits.length) '0' ++ digits

/-- Digits written in scientific form: one digit, the others after a point if there
are any, and a signed exponent. -/
def scientific (digits : List Char) (leading : Int) : List Char :=
  let mantissa := match digits with
    | c :: d :: rest => c :: '.' :: d :: rest
    | short => short
  mantissa ++ 'e' :: (if leading < 0 then '-' else '+') :: Nat.toDigits 10 leading.natAbs

/-- The digits of `n` without trailing zeros, with the number of zeros dropped. -/
def stripZeros (digits : List Char) : List Char × Nat :=
  let kept := (digits.reverse.dropWhile (· == '0')).reverse
  (kept, digits.length - kept.length)

/-- A finite double in the shortest form that reads back, in the given style. -/
def render (style : DecimalStyle) (d : Binary64) : String :=
  let magnitude :=
    if d.isZero then ['0', '.', '0']
    else
      let (c, k) := d.shortest
      let (digits, zeros) := stripZeros (Nat.toDigits 10 c)
      let k := k + zeros
      let leading : Int := k + digits.length - 1
      if style.lowest ≤ leading && leading ≤ style.highest then positional digits k
      else scientific digits leading
  String.ofList (if d.negative then '-' :: magnitude else magnitude)

end ClusterEvents.Binary64
