import ClusterEvents.Text.Blank
import ClusterEvents.Text.Cut

/-!
# Words of settings

How the values of settings are written: truth values, whole numbers, lengths of time
and lists. Blanks around a value never count.
-/

namespace ClusterEvents

-- Powers are those that numbers bring along, whatever else is imported.
attribute [local instance (high)] instPowNat instNatPowNat

/-- A length of time in whole milliseconds. -/
structure Duration where
  millis : Nat
deriving DecidableEq, Repr

namespace Duration

def ofMillis (n : Nat) : Duration := ⟨n⟩

def ofSeconds (n : Nat) : Duration := ⟨n * 1000⟩

/-- Numbers in settings have sixty-four bits. -/
def numberBound : Nat := 2 ^ (64 : Nat)

/-- A number of units; the number of milliseconds, or else of seconds, must fit in
sixty-four bits. -/
def ofUnits? (n : Nat) (unit : List Char) : Option Duration :=
  let seconds (n : Nat) : Option Duration :=
    if n < numberBound then some (ofSeconds n) else none
  if n < numberBound then
    match unit with
    | ['m', 's'] => some (ofMillis n)
    | ['s'] => seconds n
    | ['m'] => seconds (n * 60)
    | ['h'] => seconds (n * 3600)
    | _ => none
  else none

end Duration

namespace Words

/-- Whether a character is a decimal digit. -/
def isDigit (c : Char) : Bool :=
  decide ('0' ≤ c) && decide (c ≤ '9')

/-- The number that digits stand for. -/
def numberOf (digits : List Char) : Nat :=
  digits.foldl (fun n c => n * 10 + (c.toNat - 48)) 0

/-- The truth value that a word stands for, in letters of either case. -/
def truth? (raw : String) : Option Bool :=
  let word := Text.lowercase (Text.trim raw)
  if word = "1" ∨ word = "true" ∨ word = "yes" ∨ word = "on" then some true
  else if word = "0" ∨ word = "false" ∨ word = "no" ∨ word = "off" then some false
  else none

/-- A length of time: a number directly followed by its unit, as in `500ms`, `90s`,
`5m` and `720h`. -/
def duration? (raw : String) : Option Duration :=
  let text := Text.trimBy Text.isBlank raw.toList
  let digits := text.takeWhile isDigit
  let unit := text.dropWhile isDigit
  if digits.isEmpty then none else Duration.ofUnits? (numberOf digits) unit

/-- The items between commas, without blank ones. -/
def items (raw : String) : List String :=
  ((Text.split ',' raw).map Text.trim).filter fun item => !item.isEmpty

/-- Digits of a number below the bound. -/
def digits? (text : List Char) : Option Nat :=
  if !text.isEmpty && text.all isDigit && decide (numberOf text < Duration.numberBound) then
    some (numberOf text)
  else none

/-- A whole number, which a plus sign may precede. -/
def number? (raw : String) : Option Nat :=
  match raw.toList with
  | '+' :: digits => digits? digits
  | digits => digits? digits

end Words

end ClusterEvents
