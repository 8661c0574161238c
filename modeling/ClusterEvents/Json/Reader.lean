import ClusterEvents.Json.Scan

/-!
# Reading JSON

`readValue depth` reads one value off the front of a text; lists and objects may
nest `depth` levels deep. The recursion is on that depth, and the elements of one
level are read by `readElements` and `readMembers`, which take the reader of one
element as an argument. Of several members under one key the last counts.

`skipValue` passes over a value nobody asked for, at any depth.

`readText` reads a whole text, which may hold blanks around the value and nothing
else. `Json.ofBytes` and `Json.ofText` start from bytes and from a string.
-/

namespace ClusterEvents.Json

/-- How many levels of lists and objects a text may nest. -/
def depthLimit : Nat := 127

/-- The rest of a list after its first element: elements after commas, up to the
closing bracket. The first argument bounds their number. -/
def readMoreElements {α : Type} (element : Glyphs → Except ReadError (α × Glyphs)) :
    Nat → Glyphs → Except ReadError (List α × Glyphs)
  | 0, _ => .error .endOfText
  | fuel + 1, text =>
    match skipBlanks text with
    | [] => .error .endOfText
    | some ']' :: rest => .ok ([], rest)
    | some ',' :: rest => do
      let (v, rest) ← element rest
      let (vs, rest) ← readMoreElements element fuel rest
      .ok (v :: vs, rest)
    | _ => .error .malformed

/-- The elements of a list whose opening bracket has been read. -/
def readElements {α : Type} (element : Glyphs → Except ReadError (α × Glyphs))
    (text : Glyphs) : Except ReadError (List α × Glyphs) :=
  match skipBlanks text with
  | [] => .error .endOfText
  | some ']' :: rest => .ok ([], rest)
  | text => do
    let (v, rest) ← element text
    let (vs, rest) ← readMoreElements element rest.length rest
    .ok (v :: vs, rest)

/-- Passes over the colon between a key and its value. -/
def readColon (text : Glyphs) : Except ReadError Glyphs :=
  match skipBlanks text with
  | [] => .error .endOfText
  | some ':' :: rest => .ok rest
  | _ => .error .malformed

/-- A key, after blanks. -/
def readKey (text : Glyphs) : Except ReadError (String × Glyphs) :=
  match skipBlanks text with
  | [] => .error .endOfText
  | some '"' :: rest => readString rest
  | _ => .error .malformed

/-- The rest of an object after its first member: members after commas, up to the
closing brace. `member` is given a key and what has been gathered so far, and reads
on from behind the key. -/
def readMoreMembers {σ : Type} (member : String → σ → Glyphs → Except ReadError (σ × Glyphs)) :
    Nat → σ → Glyphs → Except ReadError (σ × Glyphs)
  | 0, _, _ => .error .endOfText
  | fuel + 1, gathered, text =>
    match skipBlanks text with
    | [] => .error .endOfText
    | some '}' :: rest => .ok (gathered, rest)
    | some ',' :: rest => do
      let (key, rest) ← readKey rest
      let (gathered, rest) ← member key gathered rest
      readMoreMembers member fuel gathered rest
    | _ => .error .malformed

/-- The members of an object whose opening brace has been read. -/
def readMembers {σ : Type} (member : String → σ → Glyphs → Except ReadError (σ × Glyphs))
    (gathered : σ) (text : Glyphs) : Except ReadError (σ × Glyphs) :=
  match skipBlanks text with
  | [] => .error .endOfText
  | some '}' :: rest => .ok (gathered, rest)
  | text => do
    let (key, rest) ← readKey text
    let (gathered, rest) ← member key gathered rest
    readMoreMembers member rest.length gathered rest

/-- A member of a free-form object: its value is put under its key. -/
def readMember (value : Glyphs → Except ReadError (Json × Glyphs)) (key : String)
    (gathered : Object) (text : Glyphs) : Except ReadError (Object × Glyphs) := do
  let rest ← readColon text
  let (v, rest) ← value rest
  .ok (gathered.insert key v, rest)

/-- A value, given how to read on behind an opening bracket and an opening brace. -/
def readWith (list : Glyphs → Except ReadError (List Json × Glyphs))
    (object : Glyphs → Except ReadError (Object × Glyphs)) (text : Glyphs) :
    Except ReadError (Json × Glyphs) :=
  match skipBlanks text with
  | [] => .error .endOfText
  | some 'n' :: rest => do .ok (.null, ← readWord ['u', 'l', 'l'] rest)
  | some 't' :: rest => do .ok (.bool true, ← readWord ['r', 'u', 'e'] rest)
  | some 'f' :: rest => do .ok (.bool false, ← readWord ['a', 'l', 's', 'e'] rest)
  | some '"' :: rest => do
    let (s, rest) ← readString rest
    .ok (.str s, rest)
  | some '[' :: rest => do
    let (items, rest) ← list rest
    .ok (.arr items, rest)
  | some '{' :: rest => do
    let (members, rest) ← object rest
    .ok (.obj members, rest)
  | g :: rest => if startsNumber g then readNumber (g :: rest) else .error .malformed

/-- A value whose lists and objects nest at most so many levels deep. -/
def readValue : Nat → Glyphs → Except ReadError (Json × Glyphs)
  | 0 => readWith (fun _ => .error .malformed) (fun _ => .error .malformed)
  | depth + 1 =>
    readWith (readElements (readValue depth))
      (readMembers (readMember (readValue depth)) .empty)

/-- Passes over one key of a skipped object and over its colon. -/
def skipKey (text : Glyphs) : Except ReadError Glyphs :=
  match skipBlanks text with
  | [] => .error .endOfText
  | some '"' :: rest => do readColon (← skipString rest)
  | _ => .error .malformed

/-- Passes over the rest of a list or an object after its first entry, up to the
closing mark. -/
def skipMore (close : Char) (entry : Glyphs → Except ReadError Glyphs) :
    Nat → Glyphs → Except ReadError Glyphs
  | 0, _ => .error .endOfText
  | fuel + 1, text =>
    match skipBlanks text with
    | [] => .error .endOfText
    | g :: rest =>
      if g = some close then .ok rest
      else if g = some ',' then do skipMore close entry fuel (← entry rest)
      else .error .malformed

/-- Passes over the entries of a list or an object whose opening mark has been
read. -/
def skipEntries (close : Char) (entry : Glyphs → Except ReadError Glyphs)
    (text : Glyphs) : Except ReadError Glyphs :=
  match skipBlanks text with
  | [] => .error .endOfText
  | g :: rest =>
    if g = some close then .ok rest
    else do
      let rest ← entry (g :: rest)
      skipMore close entry rest.length rest

/-- Passes over a value, in at most so many levels. -/
def skipLevels : Nat → Glyphs → Except ReadError Glyphs
  | 0, _ => .error .endOfText
  | levels + 1, text =>
    match skipBlanks text with
    | [] => .error .endOfText
    | some 'n' :: rest => readWord ['u', 'l', 'l'] rest
    | some 't' :: rest => readWord ['r', 'u', 'e'] rest
    | some 'f' :: rest => readWord ['a', 'l', 's', 'e'] rest
    | some '"' :: rest => skipString rest
    | some '[' :: rest => skipEntries ']' (skipLevels levels) rest
    | some '{' :: rest =>
      skipEntries '}' (fun text => do skipLevels levels (← skipKey text)) rest
    | g :: rest => if startsNumber g then skipNumber (g :: rest) else .error .malformed

/-- Passes over a value, however deeply it nests: there are no more levels than the
text has characters. -/
def skipValue (text : Glyphs) : Except ReadError Glyphs :=
  skipLevels (text.length + 1) text

/-- A whole text: what the reader takes, with nothing but blanks behind it. -/
def readText {α : Type} (read : Glyphs → Except ReadError (α × Glyphs)) (text : Glyphs) :
    Except ReadError α := do
  let (v, rest) ← read text
  match skipBlanks rest with
  | [] => .ok v
  | _ :: _ => .error .malformed

/-- The value that bytes hold as JSON text. -/
def ofBytes (bytes : Bytes) : Except ReadError Json :=
  readText (readValue depthLimit) (Glyphs.ofBytes bytes)

/-- The value that a string holds as JSON text. -/
def ofText (s : String) : Except ReadError Json :=
  readText (readValue depthLimit) (Glyphs.ofString s)

end ClusterEvents.Json
