import ClusterEvents.Toml.Numeral
import ClusterEvents.Calendar.Stamp

/-!
# The smallest parts of a settings file

Blanks, comments, strings, keys, and the words that stand for numbers, truth values,
dates and times. Each reader takes its part off the front of a text, or fails.
-/

namespace ClusterEvents.Toml

/-- Whether a character is a space or a tab. -/
def isSpace (c : Char) : Bool :=
  c == ' ' || c == '\t'

def skipSpaces (text : List Char) : List Char :=
  text.dropWhile isSpace

/-- Passes over the end of a line: a line feed, which a carriage return may
precede. -/
def passNewline : List Char → Option (List Char)
  | '\n' :: rest => some rest
  | '\r' :: '\n' :: rest => some rest
  | _ => none

/-- Whether a character may stand in strings and comments: no control character but
the tab. -/
def isPlain (c : Char) : Bool :=
  c == '\t' || (decide (0x20 ≤ c.toNat) && c.toNat != 0x7F)

/-- Passes over a comment, if there is one, up to the end of its line. -/
def skipComment : List Char → List Char
  | '#' :: rest => rest.dropWhile isPlain
  | text => text

/-- Passes over what may follow on a line: blanks and a comment. Then the line or the
text must end. -/
def passLineEnd (text : List Char) : Option (List Char) :=
  match skipComment (skipSpaces text) with
  | [] => some []
  | text => passNewline text

/-- Passes over blanks, comments and ends of lines, a bounded number of them. -/
def skipLines : Nat → List Char → List Char
  | 0, text => text
  | fuel + 1, text =>
    let text := skipComment (skipSpaces text)
    match passNewline text with
    | some rest => skipLines fuel rest
    | none => text

/-- Passes over blanks, comments and ends of lines. -/
def skipVoid (text : List Char) : List Char :=
  skipLines text.length text

/-- A character given by its code point in a number of hexadecimal digits. -/
def readCodePoint (count : Nat) (text : List Char) : Option (Char × List Char) := do
  let digits := text.take count
  if digits.length = count then
    let values ← digits.mapM Text.hexDigit?
    let code := values.foldl (fun n d => n * 16 + d) 0
    if code.isValidChar then some (Char.ofNat code, text.drop count) else none
  else none

/-- The character that an escape stands for, behind its backslash. -/
def readEscape : List Char → Option (Char × List Char)
  | 'b' :: rest => some ('\x08', rest)
  | 't' :: rest => some ('\t', rest)
  | 'n' :: rest => some ('\n', rest)
  | 'f' :: rest => some ('\x0c', rest)
  | 'r' :: rest => some ('\r', rest)
  | 'e' :: rest => some ('\x1b', rest)
  | '"' :: rest => some ('"', rest)
  | '\\' :: rest => some ('\\', rest)
  | 'x' :: rest => readCodePoint 2 rest
  | 'u' :: rest => readCodePoint 4 rest
  | 'U' :: rest => readCodePoint 8 rest
  | _ => none

/-- A string behind its opening quote, up to the closing one. The first argument bounds
the number of characters. -/
def readQuoted : Nat → List Char → Option (List Char × List Char)
  | 0, _ => none
  | _ + 1, [] => none
  | _ + 1, '"' :: rest => some ([], rest)
  | fuel + 1, '\\' :: rest => do
    let (c, rest) ← readEscape rest
    let (cs, rest) ← readQuoted fuel rest
    some (c :: cs, rest)
  | fuel + 1, c :: rest =>
    if isPlain c then do
      let (cs, rest) ← readQuoted fuel rest
      some (c :: cs, rest)
    else none

/-- A literal string behind its opening quote, up to the closing one. -/
def readLiteral : List Char → Option (List Char × List Char)
  | [] => none
  | '\'' :: rest => some ([], rest)
  | c :: rest =>
    if isPlain c then do
      let (cs, rest) ← readLiteral rest
      some (c :: cs, rest)
    else none

/-- The end of a string of several lines: three quotes, before which up to two more
belong to the string. -/
def readClosing (mark : Char) (text : List Char) : Option (List Char × List Char) :=
  let run := (text.takeWhile (· == mark)).length
  if 3 ≤ run then
    let inside := min run 5 - 3
    some (List.replicate inside mark, text.drop (inside + 3))
  else none

/-- Passes over blanks and ends of lines, a bounded number of them. -/
def skipBlankLines : Nat → List Char → List Char
  | 0, text => text
  | fuel + 1, text =>
    let text := skipSpaces text
    match passNewline text with
    | some rest => skipBlankLines fuel rest
    | none => text

/-- Passes over blanks and ends of lines behind a backslash that ends its line. -/
def passFold (text : List Char) : Option (List Char) := do
  let rest ← passNewline (skipSpaces text)
  some (skipBlankLines (rest.length + 1) rest)

/-- A string of several lines, behind its opening quotes. A literal one has no
escapes. -/
def readLong (mark : Char) : Nat → List Char → Option (List Char × List Char)
  | 0, _ => none
  | _ + 1, [] => none
  | fuel + 1, c :: rest =>
    let proceed (cs : List Char) (rest : List Char) : Option (List Char × List Char) := do
      let (more, rest) ← readLong mark fuel rest
      some (cs ++ more, rest)
    if c = mark then
      match readClosing mark (c :: rest) with
      | some done => some done
      | none => proceed [c] rest
    else if c = '\\' ∧ mark = '"' then
      match passFold rest with
      | some rest => proceed [] rest
      | none => do
        let (c, rest) ← readEscape rest
        proceed [c] rest
    else if isPlain c then proceed [c] rest
    else match passNewline (c :: rest) with
      | some after => proceed (if c = '\r' then ['\r', '\n'] else ['\n']) after
      | none => none

/-- A string of several lines; an end of line directly behind the opening quotes does
not belong to it. -/
def readLongString (mark : Char) (text : List Char) : Option (List Char × List Char) :=
  let text := (passNewline text).getD text
  readLong mark (text.length + 1) text

/-- A string in any of its four forms. -/
def readString : List Char → Option (List Char × List Char)
  | '"' :: '"' :: '"' :: rest => readLongString '"' rest
  | '\'' :: '\'' :: '\'' :: rest => readLongString '\'' rest
  | '"' :: rest => readQuoted (rest.length + 1) rest
  | '\'' :: rest => readLiteral rest
  | _ => none

/-- Whether a character may stand in a key without quotes. -/
def isKeyChar (c : Char) : Bool :=
  c.isAlphanum || c == '-' || c == '_'

/-- One key: bare, or a string on one line. -/
def readKey : List Char → Option (String × List Char)
  | '"' :: rest => do
    let (cs, rest) ← readQuoted (rest.length + 1) rest
    some (String.ofList cs, rest)
  | '\'' :: rest => do
    let (cs, rest) ← readLiteral rest
    some (String.ofList cs, rest)
  | text =>
    let cs := text.takeWhile isKeyChar
    if cs.isEmpty then none else some (String.ofList cs, text.dropWhile isKeyChar)

/-- How many keys a dotted key may have. -/
def keyLimit : Nat := 80

/-- Keys with dots between them, a bounded number of them: those on the way, and the
last. Blanks around keys do not count. -/
def readKeys : Nat → List Char → Option ((List String × String) × List Char)
  | 0, _ => none
  | fuel + 1, text => do
    let (key, rest) ← readKey (skipSpaces text)
    match skipSpaces rest with
    | '.' :: rest => do
      let ((keys, last), rest) ← readKeys fuel rest
      some ((key :: keys, last), rest)
    | rest => some (([], key), rest)

/-- A dotted key. -/
def readDotted (text : List Char) : Option ((List String × String) × List Char) :=
  readKeys keyLimit text

/-- A time of day; its seconds may be left out. -/
def readTime (text : List Char) : Option (List Char) := do
  let (_, rest) ← Calendar.Stamp.readPair 0 23 text
  let (_, rest) ← Calendar.Stamp.readPair 0 59 (← Calendar.Stamp.pass ':' rest)
  match rest with
  | ':' :: rest => do
    let (_, rest) ← Calendar.Stamp.readPair 0 60 rest
    let (_, rest) ← Calendar.Stamp.readFraction rest
    some rest
  | rest => some rest

/-- What may follow a date: a time of day, and then its distance from universal
time. -/
def isTimeOfDate (text : List Char) : Bool :=
  match readTime text with
  | none => false
  | some [] => true
  | some rest => ((Calendar.Stamp.readAhead rest).map Prod.snd) == some []

/-- Whether a word is a date, a time of day, or a date and a time, which may then have
its distance from universal time. All signs in it are plain ones. -/
def isMoment (word : List Char) : Bool :=
  (word.all fun c => decide (c.toNat < 0x80)) &&
  match Calendar.Stamp.readDate word with
  | some (_, []) => true
  | some (_, rest) => (Calendar.Stamp.passSeparator rest).any isTimeOfDate
  | none => readTime word == some []

/-- The value that a word without quotes stands for. -/
def wordValue? (word : List Char) : Option Toml :=
  if word = ['t', 'r', 'u', 'e'] then some (.bool true)
  else if word = ['f', 'a', 'l', 's', 'e'] then some (.bool false)
  else if isMoment word then some .moment
  else numeral? word

/-- Whether a character may stand in a word. -/
def isWordChar (c : Char) : Bool :=
  !("=,[]\x7b\x7d \t#\r\n".toList.contains c)

/-- A word without quotes. A date and a time with a space between them are one
word. -/
def readWord (text : List Char) : List Char × List Char :=
  let word := text.takeWhile isWordChar
  let rest := text.dropWhile isWordChar
  match rest with
  | ' ' :: next :: _ =>
    if (Calendar.Stamp.readDate word).any (fun read => read.2.isEmpty) && Words.isDigit next then
      (word ++ ' ' :: rest.tail.takeWhile isWordChar, rest.tail.dropWhile isWordChar)
    else (word, rest)
  | _ => (word, rest)

end ClusterEvents.Toml
