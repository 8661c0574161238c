import ClusterEvents.Json.Basic
import ClusterEvents.Binary64.Shortest

/-!
# Writing JSON

JSON text is written without blanks. An object is written in the order of its keys;
a `Document` also has records, whose fields keep the order in which they are
declared. Quotes, backslashes and the control characters below the space are
escaped, everything else stands for itself.
-/

namespace ClusterEvents

namespace Json

/-- Doubles are written positionally while the leading digit stands for a power of
ten from `-5` to `15`, and in scientific form otherwise. -/
def doubleStyle : Binary64.DecimalStyle := ⟨-5, 15⟩

/-- A lowercase hexadecimal digit. -/
def hexDigit (n : Nat) : Char :=
  Nat.digitChar (n % 16)

/-- How a character is written inside a string. -/
def escape (c : Char) : List Char :=
  match c with
  | '"' => ['\\', '"']
  | '\\' => ['\\', '\\']
  | '\x08' => ['\\', 'b']
  | '\x0c' => ['\\', 'f']
  | '\n' => ['\\', 'n']
  | '\r' => ['\\', 'r']
  | '\t' => ['\\', 't']
  | c =>
    if c.toNat < 0x20 then
      ['\\', 'u', '0', '0', hexDigit (c.toNat / 16), hexDigit c.toNat]
    else [c]

/-- An integer in decimal digits, behind a sign when it is negative. -/
def integer (n : Int) : List Char :=
  if n < 0 then '-' :: Nat.toDigits 10 n.natAbs else Nat.toDigits 10 n.natAbs

/-- A string in quotes. -/
def quoted (s : String) : List Char :=
  '"' :: s.toList.flatMap escape ++ ['"']

/-- Written parts, separated by commas. -/
def commaSeparated : List (List Char) → List Char
  | [] => []
  | [part] => part
  | part :: rest => part ++ ',' :: commaSeparated rest

/-- A key and what is written for its value. -/
def written (key : String) (value : List Char) : List Char :=
  quoted key ++ ':' :: value

end Json

mutual

/-- The characters of a value's JSON text. -/
def Json.render : Json → List Char
  | .null => ['n', 'u', 'l', 'l']
  | .bool true => ['t', 'r', 'u', 'e']
  | .bool false => ['f', 'a', 'l', 's', 'e']
  | .int n => Json.integer n
  | .double d => (d.render Json.doubleStyle).toList
  | .str s => Json.quoted s
  | .arr items => '[' :: Json.commaSeparated (Json.renderItems items) ++ [']']
  | .obj members => '{' :: Json.commaSeparated members.render ++ ['}']

/-- The texts of the elements of a list. -/
def Json.renderItems : List Json → List (List Char)
  | [] => []
  | v :: rest => v.render :: Json.renderItems rest

/-- The texts of the members of an object. -/
def Members.render : {b : Option String} → Members b → List (List Char)
  | _, .nil => []
  | _, .cons key _ value rest => Json.written key value.render :: rest.render

end

namespace Json

/-- A value as JSON text. -/
def print (v : Json) : String :=
  String.ofList v.render

end Json

/-- What is to be written as JSON: a value, or a record whose fields are written in
the given order. -/
inductive Document where
  | value (v : Json)
  | record (fields : List (String × Document))

namespace Document

mutual

/-- The characters of a document's JSON text. -/
def render : Document → List Char
  | .value v => v.render
  | .record fields => '{' :: Json.commaSeparated (renderFields fields) ++ ['}']

/-- The texts of the fields of a record. -/
def renderFields : List (String × Document) → List (List Char)
  | [] => []
  | (name, field) :: rest => Json.written name field.render :: renderFields rest

end

mutual

/-- The value that a document stands for: records become objects. -/
def toJson : Document → Json
  | .value v => v
  | .record fields => .obj (Object.ofList (fieldValues fields))

/-- The values of the fields of a record. -/
def fieldValues : List (String × Document) → List (String × Json)
  | [] => []
  | (name, field) :: rest => (name, field.toJson) :: fieldValues rest

end

/-- A document as JSON text. -/
def print (d : Document) : String :=
  String.ofList d.render

end Document

end ClusterEvents
