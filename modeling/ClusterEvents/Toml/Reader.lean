import ClusterEvents.Toml.Scan

/-!
# Reading a settings file

`readValue depth` reads one value off the front of a text; lists and tables in braces
may nest `depth` levels deep. `ofText?` reads a whole file, line by line: an entry,
a header, or nothing.
-/

namespace ClusterEvents.Toml

/-- How many levels of lists and tables in braces a value may nest. -/
def depthLimit : Nat := 80

/-- The elements of a list behind its opening bracket. They may stand on lines of their
own, and a comma may follow the last. -/
def readItems (value : List Char → Option (Toml × List Char)) :
    Nat → List Char → Option (List Toml × List Char)
  | 0, _ => none
  | fuel + 1, text =>
    match skipVoid text with
    | ']' :: rest => some ([], rest)
    | text => do
      let (item, rest) ← value text
      match skipVoid rest with
      | ']' :: rest => some ([item], rest)
      | ',' :: rest => do
        let (items, rest) ← readItems value fuel rest
        some (item :: items, rest)
      | _ => none

/-- A key and its value, with the sign between them. The first argument passes over
what may stand around the sign. -/
def readEntry (skip : List Char → List Char) (value : List Char → Option (Toml × List Char))
    (text : List Char) : Option ((List String × String × Toml) × List Char) := do
  let ((keys, key), rest) ← readDotted text
  match skip rest with
  | '=' :: rest => do
    let (v, rest) ← value (skip rest)
    some ((keys, key, v), rest)
  | _ => none

/-- The entries of a table in braces behind its opening brace. Their keys and values may
stand on lines of their own, and a comma may follow the last. -/
def readEntries (value : List Char → Option (Toml × List Char)) :
    Nat → Entries → List Char → Option (Entries × List Char)
  | 0, _, _ => none
  | fuel + 1, entries, text =>
    match skipVoid text with
    | '}' :: rest => some (entries, rest)
    | text => do
      let ((keys, key, v), rest) ← readEntry skipVoid value text
      let entries ← Entries.addDotted keys key v entries
      match skipVoid rest with
      | '}' :: rest => some (entries, rest)
      | ',' :: rest => readEntries value fuel entries rest
      | _ => none

/-- A value, given how to read on inside lists and tables. -/
def readWith (inside : Option (List Char → Option (Toml × List Char))) (text : List Char) :
    Option (Toml × List Char) :=
  match text with
  | '"' :: _ | '\'' :: _ => do
    let (cs, rest) ← readString text
    some (.str (String.ofList cs), rest)
  | '[' :: rest => do
    let (items, rest) ← readItems (← inside) (rest.length + 1) rest
    some (.list false items, rest)
  | '{' :: rest => do
    let (entries, rest) ← readEntries (← inside) (rest.length + 1) [] rest
    some (.table .braces entries, rest)
  | text => do
    let (word, rest) := readWord text
    some (← wordValue? word, rest)

/-- A value whose lists and tables nest at most so many levels deep. -/
def readValue : Nat → List Char → Option (Toml × List Char)
  | 0 => readWith none
  | depth + 1 => readWith (some (readValue depth))

/-- A file while it is read: the root table, and the path of the table that the last
header opened. -/
structure Opened where
  root : Entries
  path : List String

/-- One line of a file, or several where a value takes them, and what it does to the
root table. -/
def readLine (opened : Opened) (text : List Char) : Option (Opened × List Char) :=
  match text with
  | '[' :: '[' :: rest => do
    let ((keys, key), rest) ← readDotted rest
    match rest with
    | ']' :: ']' :: rest => do
      let root ← opened.root.openElement keys key
      some (⟨root, keys ++ [key]⟩, ← passLineEnd rest)
    | _ => none
  | '[' :: rest => do
    let ((keys, key), rest) ← readDotted rest
    match rest with
    | ']' :: rest => do
      let root ← opened.root.openTable keys key
      some (⟨root, keys ++ [key]⟩, ← passLineEnd rest)
    | _ => none
  | text => do
    let ((keys, key, v), rest) ← readEntry skipSpaces (readValue depthLimit) text
    let root ← opened.root.addEntry opened.path keys key v
    some (⟨root, opened.path⟩, ← passLineEnd rest)

/-- The lines of a file; the first argument bounds their number. -/
def readFile : Nat → Opened → List Char → Option Entries
  | 0, _, _ => none
  | fuel + 1, opened, text =>
    match skipVoid text with
    | [] => some opened.root
    | text => do
      let (opened, rest) ← readLine opened text
      readFile fuel opened rest

/-- The root table of a file. A byte order mark may stand in front. -/
def ofText? (s : String) : Option Toml := do
  let text := match s.toList with
    | '\uFEFF' :: rest => rest
    | text => text
  let root ← readFile (text.length + 1) ⟨[], []⟩ text
  some (.table .header root)

end ClusterEvents.Toml
