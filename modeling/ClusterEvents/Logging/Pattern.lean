import ClusterEvents.Text.Alphanumeric
import ClusterEvents.Text.Hex

/-!
# Patterns for values

A directive can ask that a field has a value of a certain pattern, written as a regular
expression. No record here is ever looked at for its values, so all that counts is
whether a text is a pattern: groups and classes must be closed, a repetition needs
something to repeat, and escapes must be known. Braces, equals signs and commas have
other uses in a directive; so a repetition with bounds is never complete. Classes that
would need the properties of all characters are not known, nor are the edges of words.
-/

namespace ClusterEvents.Logging.Pattern

/-- What an escape stands for. -/
inductive Escape where
  | literal (c : Char)
  /-- A place in the text, such as its beginning. -/
  | place
deriving DecidableEq, Repr

/-- A character given by its code point in a number of hexadecimal digits. -/
def readCode (count : Nat) (text : List Char) : Option (Escape × List Char) := do
  let digits := text.take count
  if digits.length ≠ count then none
  let values ← digits.mapM Text.hexDigit?
  let code := values.foldl (fun n d => n * 16 + d) 0
  if code.isValidChar then some (.literal (Char.ofNat code), text.drop count) else none

/-- An escape, behind its backslash. Any sign of ASCII may be escaped, but for the angle
brackets, which would mean the edges of words. -/
def readEscape : List Char → Option (Escape × List Char)
  | [] => none
  | 'x' :: rest => readCode 2 rest
  | 'u' :: rest => readCode 4 rest
  | 'U' :: rest => readCode 8 rest
  | 'a' :: rest => some (.literal '\x07', rest)
  | 'f' :: rest => some (.literal '\x0c', rest)
  | 't' :: rest => some (.literal '\t', rest)
  | 'n' :: rest => some (.literal '\n', rest)
  | 'r' :: rest => some (.literal '\r', rest)
  | 'v' :: rest => some (.literal '\x0b', rest)
  | 'A' :: rest | 'z' :: rest => some (.place, rest)
  | c :: rest =>
    if c.toNat < 0x80 ∧ !c.isAlphanum ∧ c ≠ '<' ∧ c ≠ '>' then some (.literal c, rest) else none

/-- A character of a class, which may be escaped. -/
def readMember : List Char → Option (Char × List Char)
  | [] => none
  | '\\' :: rest =>
    match readEscape rest with
    | some (.literal c, rest) => some (c, rest)
    | _ => none
  | c :: rest => some (c, rest)

/-- The names of the classes of ASCII. -/
def classNames : List String :=
  ["alnum", "alpha", "ascii", "blank", "cntrl", "digit", "graph", "lower", "print", "punct",
    "space", "upper", "word", "xdigit"]

/-- Passes over the name of a class between colons and brackets, behind the opening
bracket. -/
def passNamed? : List Char → Option (List Char)
  | ':' :: rest =>
    let rest := if rest.head? = some '^' then rest.tail else rest
    let name := String.ofList (rest.takeWhile (· ≠ ':'))
    match rest.dropWhile (· ≠ ':') with
    | ':' :: ']' :: rest => if classNames.contains name then some rest else none
    | _ => none
  | _ => none

/-- Passes over what may stand first in a class: the sign of its complement, hyphens, and
a closing bracket that is a member. -/
def passFirst (text : List Char) : List Char :=
  let text := if text.head? = some '^' then text.tail else text
  match text with
  | ']' :: rest => rest
  | text => text.dropWhile (· = '-')

/-- Passes over a member of a class, or a range of characters. A hyphen before a bracket
or before another hyphen makes no range. -/
def passRange (text : List Char) : Option (List Char) := do
  let (first, rest) ← readMember text
  match rest with
  | '-' :: ']' :: _ | '-' :: '-' :: _ => some rest
  | '-' :: rest => do
    let (last, rest) ← readMember rest
    if first ≤ last then some rest else none
  | rest => some rest

/-- Passes over classes of characters until so many are closed; each may hold others. -/
def passClass : Nat → Nat → List Char → Option (List Char)
  | 0, _, _ => none
  | _ + 1, 0, text => some text
  | fuel + 1, depth + 1, text =>
    match text with
    | ']' :: rest => passClass fuel depth rest
    | '&' :: '&' :: rest | '-' :: '-' :: rest | '~' :: '~' :: rest =>
      passClass fuel (depth + 1) rest
    | '[' :: rest =>
      match passNamed? rest with
      | some rest => passClass fuel (depth + 1) rest
      | none => passClass fuel (depth + 2) (passFirst rest)
    | text => do passClass fuel (depth + 1) (← passRange text)

/-- Whether a character may stand in the name of a group; the first must be a letter or
an underscore. -/
def isNameChar (c : Char) : Bool :=
  Text.isAlphanumeric c || c == '_' || c == '.' || c == '[' || c == ']'

/-- Passes over the name of a group and the bracket that ends it. -/
def passName (text : List Char) : Option (List Char) :=
  let name := text.takeWhile (· ≠ '>')
  match text.dropWhile (· ≠ '>') with
  | '>' :: rest =>
    if name.all isNameChar ∧ name.head?.any fun c => c = '_' ∨ (isNameChar c ∧ !c.isDigit
        ∧ c ≠ '.' ∧ c ≠ '[' ∧ c ≠ ']') then
      some rest
    else none
  | _ => none

/-- Whether flags are known, each is given once, and something is switched off behind a
hyphen. -/
def areFlags (flags : List Char) : Bool :=
  (flags.all fun c => ['m', 's', 'U', 'R', 'x', 'u', '-'].contains c)
    && flags.eraseDups.length == flags.length && flags.getLast? != some '-'

/-- Passes over the beginning of a group, behind its bracket. The result tells whether a
group is open: flags on their own are none. -/
def passOpening : List Char → Option (Bool × List Char)
  | '?' :: 'P' :: '<' :: rest | '?' :: '<' :: rest => (passName rest).map (true, ·)
  | '?' :: rest =>
    let flags := rest.takeWhile fun c => c ≠ ':' ∧ c ≠ ')'
    match rest.dropWhile fun c => c ≠ ':' ∧ c ≠ ')' with
    | ':' :: rest => if areFlags flags then some (true, rest) else none
    | ')' :: rest => if areFlags flags ∧ flags ≠ [] then some (false, rest) else none
    | _ => none
  | text => some (true, text)

/-- Whether a text completes a pattern in which so many groups are open. The flag tells
whether there is something that a repetition could repeat. -/
def completes : Nat → Nat → Bool → List Char → Bool
  | 0, _, _, _ => false
  | _ + 1, depth, _, [] => depth == 0
  | fuel + 1, depth, isOperand, c :: rest =>
    match c with
    | '*' | '+' | '?' => isOperand && completes fuel depth true rest
    | '{' => false
    | '|' => completes fuel depth false rest
    | ')' => depth != 0 && completes fuel (depth - 1) true rest
    | '(' =>
      match passOpening rest with
      | some (true, rest) => completes fuel (depth + 1) false rest
      | some (false, rest) => completes fuel depth false rest
      | none => false
    | '[' =>
      match passClass (rest.length + 2) 1 (passFirst rest) with
      | some rest => completes fuel depth true rest
      | none => false
    | '\\' =>
      match readEscape rest with
      | some (_, rest) => completes fuel depth true rest
      | none => false
    | _ => completes fuel depth true rest

/-- Whether a text is a pattern. -/
def isPattern (text : List Char) : Bool :=
  completes (text.length + 1) 0 false text

end ClusterEvents.Logging.Pattern
