import ClusterEvents.Json.Basic
import ClusterEvents.Text.Hex
import ClusterEvents.Binary64.Scaled

/-!
# The smallest parts of a JSON text

Blanks, fixed words, strings and numbers, each read off the front of a text. A
reader stops at the first problem it meets from left to right, and says of it only
whether the text ended too early, had the wrong shape, or broke the grammar.

`skipString` and `skipNumber` pass over parts that nobody asked for. They are more
lenient: a skipped string may hold stray bytes and unpaired surrogate escapes, and a
skipped number may be out of range.
-/

namespace ClusterEvents.Json

-- Powers are those that numbers bring along, whatever else is imported.
attribute [local instance (high)] instPowNat instNatPowNat

/-- Why a text could not be read. -/
inductive ReadError where
  /-- The text ended inside a value. -/
  | endOfText
  /-- A value of another kind was wanted, or a field is missing or repeated. -/
  | wrongShape
  /-- The text breaks the grammar. -/
  | malformed
deriving DecidableEq, Repr

/-- Whether a glyph is one of the four blanks of JSON. -/
def isBlank (g : Glyph) : Bool :=
  g == some ' ' || g == some '\n' || g == some '\t' || g == some '\r'

/-- The text after its leading blanks. -/
def skipBlanks (text : Glyphs) : Glyphs :=
  text.dropWhile isBlank

/-- Passes over the characters of a fixed word. -/
def readWord : List Char → Glyphs → Except ReadError Glyphs
  | [], text => .ok text
  | _ :: _, [] => .error .endOfText
  | c :: word, g :: text => if g = some c then readWord word text else .error .malformed

/-- The value of a hexadecimal digit of either case. -/
def hexValue? (g : Glyph) : Option Nat :=
  g.bind Text.hexDigit?

/-- The code unit that four hexadecimal digits stand for. When the text has fewer
than four bytes left it has ended, whatever they are. -/
def readCodeUnit (text : Glyphs) : Except ReadError (Nat × Glyphs) :=
  let refused : ReadError := if text.byteSize < 4 then .endOfText else .malformed
  match text with
  | a :: b :: c :: d :: rest =>
    match hexValue? a, hexValue? b, hexValue? c, hexValue? d with
    | some a, some b, some c, some d => .ok (a * 4096 + b * 256 + c * 16 + d, rest)
    | _, _, _, _ => .error refused
  | _ => .error refused

/-- Whether a code unit opens a surrogate pair. -/
def isHighSurrogate (unit : Nat) : Bool :=
  decide (0xD800 ≤ unit) && decide (unit ≤ 0xDBFF)

/-- Whether a code unit closes a surrogate pair. -/
def isLowSurrogate (unit : Nat) : Bool :=
  decide (0xDC00 ≤ unit) && decide (unit ≤ 0xDFFF)

/-- The character written as one code unit, or as a pair of surrogates in two
escapes; the text stands after the `u` of the first. -/
def readUnicode (text : Glyphs) : Except ReadError (Char × Glyphs) := do
  let (unit, rest) ← readCodeUnit text
  if isLowSurrogate unit then .error .malformed
  else if isHighSurrogate unit then
    let rest ← readWord ['\\', 'u'] rest
    let (second, rest) ← readCodeUnit rest
    if isLowSurrogate second then
      .ok (Char.ofNat (0x10000 + (unit - 0xD800) * 0x400 + (second - 0xDC00)), rest)
    else .error .malformed
  else .ok (Char.ofNat unit, rest)

/-- The character that a one-letter escape stands for. -/
def shortEscape? (c : Char) : Option Char :=
  match c with
  | '"' => some '"'
  | '\\' => some '\\'
  | '/' => some '/'
  | 'b' => some '\x08'
  | 'f' => some '\x0c'
  | 'n' => some '\n'
  | 'r' => some '\r'
  | 't' => some '\t'
  | _ => none

/-- One character of a string as it is written, or `none` at the closing quote. -/
def readChar : Glyphs → Except ReadError (Option Glyph × Glyphs)
  | [] => .error .endOfText
  | some '"' :: rest => .ok (none, rest)
  | some '\\' :: [] => .error .endOfText
  | some '\\' :: some 'u' :: rest => do
    let (c, rest) ← readUnicode rest
    .ok (some (some c), rest)
  | some '\\' :: some c :: rest =>
    match shortEscape? c with
    | some c => .ok (some (some c), rest)
    | none => .error .malformed
  | some '\\' :: none :: _ => .error .malformed
  | some c :: rest => if c.toNat < 0x20 then .error .malformed else .ok (some (some c), rest)
  | none :: rest => .ok (some none, rest)

/-- The glyphs of a string up to its closing quote. The first argument bounds the
number of characters. -/
def readGlyphs : Nat → Glyphs → Except ReadError (Glyphs × Glyphs)
  | 0, _ => .error .endOfText
  | fuel + 1, text => do
    let (next, rest) ← readChar text
    match next with
    | none => .ok ([], rest)
    | some g => do
      let (more, rest) ← readGlyphs fuel rest
      .ok (g :: more, rest)

/-- The characters of glyphs that have no gaps. -/
def characters? : Glyphs → Option (List Char)
  | [] => some []
  | none :: _ => none
  | some c :: rest => (characters? rest).map (c :: ·)

/-- A string whose opening quote has been read. Stray bytes in it come to light at
its closing quote. -/
def readString (text : Glyphs) : Except ReadError (String × Glyphs) := do
  let (glyphs, rest) ← readGlyphs (text.length + 1) text
  match characters? glyphs with
  | some cs => .ok (String.ofList cs, rest)
  | none => .error .malformed

/-- The value of a decimal digit. -/
def digitValue? (g : Glyph) : Option Nat :=
  match g with
  | none => none
  | some c => if '0' ≤ c ∧ c ≤ '9' then some (c.toNat - 48) else none

/-- The digits at the front of a text. -/
def readDigits : Glyphs → List Nat × Glyphs
  | [] => ([], [])
  | g :: rest =>
    match digitValue? g with
    | none => ([], g :: rest)
    | some d =>
      let (ds, rest) := readDigits rest
      (d :: ds, rest)

/-- At least one digit. -/
def readDigits1 (text : Glyphs) : Except ReadError (List Nat × Glyphs) :=
  match readDigits text with
  | ([], []) => .error .endOfText
  | ([], _ :: _) => .error .malformed
  | (d :: ds, rest) => .ok (d :: ds, rest)

/-- A number as it is written: sign, digits before and after the point, and an
exponent. Absence of the latter two is told apart from zero. -/
structure Numeral where
  negative : Bool
  whole : List Nat
  fraction : Option (List Nat)
  exponent : Option Int
deriving DecidableEq

/-- The integer that digits stand for. -/
def ofDigits (digits : List Nat) : Nat :=
  digits.foldl (fun n d => n * 10 + d) 0

/-- Appends digits to a significand as long as it fits in sixty-four bits; the
result comes with the number of digits left out. -/
def fitDigits (significand : Nat) : List Nat → Nat × Nat
  | [] => (significand, 0)
  | d :: ds =>
    if significand * 10 + d < 2 ^ (64 : Nat) then fitDigits (significand * 10 + d) ds
    else (significand, (d :: ds).length)

/-- A numeral's double: leading digits, scaled by a power of ten. Digits beyond the
leading ones only count for the scale. -/
def Numeral.toDouble? (n : Numeral) : Option Binary64 :=
  let fraction := n.fraction.getD []
  let (significand, excess) := fitDigits 0 n.whole
  let (significand, unused) := fitDigits significand fraction
  let scale : Int := excess - ((fraction.length - unused : Nat) : Int) + n.exponent.getD 0
  Binary64.scaled n.negative significand scale

/-- What a numeral stands for: an integer if it is written as one and lies in the
signed or the unsigned range of sixty-four bits, and a double otherwise. Minus zero
is a double. There is no value beyond the range of doubles. -/
def Numeral.value? (n : Numeral) : Option Json :=
  let magnitude := ofDigits n.whole
  if n.fraction.isNone && n.exponent.isNone && !n.negative
      && decide (magnitude < 2 ^ (64 : Nat)) then
    some (.int magnitude)
  else if n.fraction.isNone && n.exponent.isNone && n.negative
      && decide (0 < magnitude) && decide (magnitude ≤ 2 ^ (63 : Nat)) then
    some (.int (-magnitude))
  else n.toDouble?.map .double

/-- The exponent part of a number, if there is one. -/
def readExponent (text : Glyphs) : Except ReadError (Option Int × Glyphs) :=
  match text with
  | some 'e' :: rest | some 'E' :: rest =>
    match rest with
    | some '-' :: rest => do
      let (ds, rest) ← readDigits1 rest
      .ok (some (-(ofDigits ds : Int)), rest)
    | some '+' :: rest => do
      let (ds, rest) ← readDigits1 rest
      .ok (some (ofDigits ds : Int), rest)
    | rest => do
      let (ds, rest) ← readDigits1 rest
      .ok (some (ofDigits ds : Int), rest)
  | text => .ok (none, text)

/-- The fraction part of a number, if there is one. -/
def readFraction (text : Glyphs) : Except ReadError (Option (List Nat) × Glyphs) :=
  match text with
  | some '.' :: rest => do
    let (ds, rest) ← readDigits1 rest
    .ok (some ds, rest)
  | text => .ok (none, text)

/-- The digits before the point: several of them do not start with a zero. -/
def readWhole (text : Glyphs) : Except ReadError (List Nat × Glyphs) := do
  let (ds, rest) ← readDigits1 text
  match ds with
  | 0 :: _ :: _ => .error .malformed
  | ds => .ok (ds, rest)

/-- A number as it is written. -/
def readNumeral (text : Glyphs) : Except ReadError (Numeral × Glyphs) := do
  let (negative, text) := match text with
    | some '-' :: rest => (true, rest)
    | text => (false, text)
  let (whole, rest) ← readWhole text
  let (fraction, rest) ← readFraction rest
  let (exponent, rest) ← readExponent rest
  .ok (⟨negative, whole, fraction, exponent⟩, rest)

/-- A number. -/
def readNumber (text : Glyphs) : Except ReadError (Json × Glyphs) := do
  let (numeral, rest) ← readNumeral text
  match numeral.value? with
  | some v => .ok (v, rest)
  | none => .error .malformed

/-- Whether a number starts with this glyph. -/
def startsNumber (g : Glyph) : Bool :=
  g == some '-' || (digitValue? g).isSome

/-- Passes over one character of a string; `true` at the closing quote. -/
def skipChar : Glyphs → Except ReadError (Bool × Glyphs)
  | [] => .error .endOfText
  | some '"' :: rest => .ok (true, rest)
  | some '\\' :: [] => .error .endOfText
  | some '\\' :: some 'u' :: rest => do
    let (_, rest) ← readCodeUnit rest
    .ok (false, rest)
  | some '\\' :: some c :: rest =>
    if (shortEscape? c).isSome then .ok (false, rest) else .error .malformed
  | some '\\' :: none :: _ => .error .malformed
  | some c :: rest => if c.toNat < 0x20 then .error .malformed else .ok (false, rest)
  | none :: rest => .ok (false, rest)

/-- Passes over a string whose opening quote has been read, in at most so many
steps. -/
def skipGlyphs : Nat → Glyphs → Except ReadError Glyphs
  | 0, _ => .error .endOfText
  | fuel + 1, text => do
    let (closed, rest) ← skipChar text
    if closed then .ok rest else skipGlyphs fuel rest

/-- Passes over a string whose opening quote has been read. -/
def skipString (text : Glyphs) : Except ReadError Glyphs :=
  skipGlyphs (text.length + 1) text

/-- Passes over a number. One that is cut short breaks the grammar even where the
text ends. -/
def skipNumber (text : Glyphs) : Except ReadError Glyphs :=
  match readNumeral text with
  | .ok (_, rest) => .ok rest
  | .error _ => .error .malformed

end ClusterEvents.Json
