import ClusterEvents.Text.Unshown

/-!
# Quoted text in messages

Messages quote a text so that every character of it can be told: the quote, the
backslash and the common control characters have short escapes, and any other
character that is not shown as itself is written as its code point.
-/

namespace ClusterEvents.Text

/-- A code point in lowercase hexadecimal digits. -/
def codePoint (c : Char) : List Char :=
  ['\\', 'u', '{'] ++ Nat.toDigits 16 c.toNat ++ ['}']

/-- How a character stands in a quoted text. -/
def showChar (c : Char) : List Char :=
  match c with
  | '"' => ['\\', '"']
  | '\\' => ['\\', '\\']
  | '\n' => ['\\', 'n']
  | '\r' => ['\\', 'r']
  | '\t' => ['\\', 't']
  | '\x00' => ['\\', '0']
  | c => if isUnshown c then codePoint c else [c]

/-- A text in quotes. -/
def quote (s : String) : String :=
  String.ofList ('"' :: s.toList.flatMap showChar ++ ['"'])

end ClusterEvents.Text
