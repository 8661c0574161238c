import ClusterEvents.Toml.Basic
import ClusterEvents.Settings.Words
import ClusterEvents.Text.Hex

/-!
# Numbers in a settings file

A word can have the form of a number and yet stand for none that there is room for: it
is too large, has no digits behind the mark of its base, or has letters among its
digits. Such a word is read as `Toml.unreadable`, which is an error only where
somebody asks for the value. `numeral?` is `none` for a word that does not have the
form of a number.
-/

namespace ClusterEvents.Toml

-- Powers are those that numbers bring along, whatever else is imported.
attribute [local instance (high)] instPowNat instNatPowNat Int.instNatPow

/-- The sign of a number, if it has one, and what follows. -/
def splitSign : List Char → Bool × List Char
  | '-' :: rest => (true, rest)
  | '+' :: rest => (false, rest)
  | text => (false, text)

/-- A number with a sign. -/
def signed (negative : Bool) (n : Nat) : Int :=
  if negative then -(n : Int) else n

def isHexDigit (c : Char) : Bool :=
  (Text.hexDigit? c).isSome

/-- Whether the underscores of a word stand between digits. Each needs a digit behind
it, and one before it; only a sign may stand there instead. -/
def isGrouped (isDigit : Char → Bool) (word : List Char) : Bool :=
  match Text.splitOn '_' word with
  | [] => true
  | first :: rest =>
    let endsWell (group : List Char) : Bool :=
      decide (group.length = 1) || group.getLast?.any isDigit
    (rest.all fun group => group.head?.any isDigit)
      && (rest.isEmpty || ((first :: rest).dropLast.all endsWell))

def ungroup (word : List Char) : List Char :=
  word.filter (· != '_')

/-- A whole number if it fits into one hundred and twenty-eight bits. -/
def whole (n : Int) : Toml :=
  if -(2 ^ (127 : Nat)) ≤ n ∧ n < 2 ^ (128 : Nat) then .int n else .unreadable

/-- The digits of a number in another base, behind the mark of the base. There may be
none. -/
def digitsIn? (base : Nat) (text : List Char) : Option Toml :=
  if text.isEmpty then some .unreadable
  else do
    if !isGrouped isHexDigit text then none
    let values ← (ungroup text).mapM Text.hexDigit?
    if values.all (· < base) then
      some (whole (signed false (values.foldl (fun n d => n * base + d) 0)))
    else none

/-- Whether a word has the form of a whole number in decimal digits: no zero stands in
front, and from the first underscore on, letters may follow. -/
def isDecimal (word : List Char) : Bool :=
  let (_, digits) := splitSign word
  let rest := digits.dropWhile Words.isDigit
  (digits == ['0'] || digits.head? != some '0')
    && (if rest.isEmpty then !digits.isEmpty
      else rest.head? == some '_' && isGrouped isHexDigit word)

/-- The value of a whole number in decimal digits. -/
def decimalValue (word : List Char) : Toml :=
  let (negative, digits) := splitSign (ungroup word)
  if digits.all Words.isDigit then whole (signed negative (Words.numberOf digits))
  else .unreadable

/-- Takes digits, and the underscores among them, off the front of a text. There must
be a digit. -/
def readDigits (text : List Char) : Option (List Char × List Char) :=
  let isPart (c : Char) : Bool := Words.isDigit c || c == '_'
  let digits := ungroup (text.takeWhile isPart)
  if digits.isEmpty then none else some (digits, text.dropWhile isPart)

/-- The exponent of a number, if it has one. Nothing may follow it. -/
def readExponent : List Char → Option Int
  | [] => some 0
  | mark :: rest =>
    if mark = 'e' ∨ mark = 'E' then do
      let (negative, rest) := splitSign rest
      let (digits, rest) ← readDigits rest
      if rest.isEmpty then some (signed negative (Words.numberOf digits)) else none
    else none

/-- Whether a decimal number is small enough for a double: it stays below the middle
between the largest double and the next power of two. -/
def inRange (digits : Nat) (significand : Nat) (exponent : Int) : Bool :=
  if significand = 0 ∨ digits + exponent < 300 then true
  else if 320 < digits + exponent then false
  else decide (significand * 10 ^ exponent.toNat
    < (2 ^ (1024 : Nat) - 2 ^ (970 : Nat)) * 10 ^ (-exponent).toNat)

/-- A number with a point, an exponent or both. No zero stands in front of its whole
part. -/
def real? (word : List Char) : Option Toml := do
  let (_, text) := splitSign word
  let (digits, rest) ← readDigits text
  if text.head? = some '0' ∧ digits.length ≠ 1 then none
  let (places, rest) ← match rest with
    | '.' :: rest => readDigits rest
    | rest => some ([], rest)
  let exponent ← readExponent rest
  if !isGrouped Words.isDigit word then none
  let significand := digits ++ places
  if inRange significand.length (Words.numberOf significand) (exponent - places.length) then
    some .real
  else some .unreadable

/-- What a word in the form of a number stands for. Dates and times do not have this
form. -/
def numeral? (word : List Char) : Option Toml :=
  let (_, unsigned) := splitSign word
  if unsigned = ['i', 'n', 'f'] ∨ unsigned = ['n', 'a', 'n'] then some .real
  else match word with
    | '0' :: 'x' :: digits => digitsIn? 16 digits
    | '0' :: 'o' :: digits => digitsIn? 8 digits
    | '0' :: 'b' :: digits => digitsIn? 2 digits
    | word =>
      if word.any fun c => c == '.' || c == 'e' || c == 'E' then real? word
      else if isDecimal word then some (decimalValue word)
      else none

end ClusterEvents.Toml
