import ClusterEvents.Json.Reader

/-!
# Reading records

A record has named fields of known kinds. It is read from an object, where fields
come in any order and unknown ones are passed over, or from a list of its fields in
order of declaration. A field may have a default for when it is missing.

A field reader takes the number of levels it may still nest and reads one value of
its kind off a text. Whatever form a record was written in, it is handed over as an
object with all its fields, so what is built from it has one form to look at.

`Json.fields?` looks up the fields of a record in a value that has already been
read, in either form.
-/

namespace ClusterEvents.Json

/-- Reads one value of a certain kind, given how many levels it may nest. -/
abbrev KindReader := Nat → Glyphs → Except ReadError (Json × Glyphs)

/-- What is wrong with a value of another kind than the one wanted: a list or an
object at once, a scalar only when it is well formed. -/
def otherKind (text : Glyphs) : ReadError :=
  let afterScalar {α : Type} (scalar : Except ReadError α) : ReadError :=
    match scalar with
    | .ok _ => .wrongShape
    | .error e => e
  match skipBlanks text with
  | [] => .endOfText
  | some 'n' :: rest => afterScalar (readWord ['u', 'l', 'l'] rest)
  | some 't' :: rest => afterScalar (readWord ['r', 'u', 'e'] rest)
  | some 'f' :: rest => afterScalar (readWord ['a', 'l', 's', 'e'] rest)
  | some '"' :: rest => afterScalar (readString rest)
  | some '[' :: _ | some '{' :: _ => .wrongShape
  | g :: rest => if startsNumber g then afterScalar (readNumber (g :: rest)) else .malformed

namespace Kind

/-- A string. -/
def text : KindReader := fun _ text =>
  match skipBlanks text with
  | some '"' :: rest => do
    let (s, rest) ← readString rest
    .ok (.str s, rest)
  | other => .error (otherKind other)

/-- A truth value. -/
def truth : KindReader := fun _ text =>
  match skipBlanks text with
  | some 't' :: rest => do .ok (.bool true, ← readWord ['r', 'u', 'e'] rest)
  | some 'f' :: rest => do .ok (.bool false, ← readWord ['a', 'l', 's', 'e'] rest)
  | other => .error (otherKind other)

/-- A number, whose value is passed through `accept`; what that refuses has the wrong
shape. -/
def numberWith (accept : Json → Option Json) : KindReader := fun _ text =>
  match skipBlanks text with
  | [] => .error .endOfText
  | g :: rest =>
    if startsNumber g then do
      let (v, rest) ← readNumber (g :: rest)
      match accept v with
      | some v => .ok (v, rest)
      | none => .error .wrongShape
    else .error (otherKind (g :: rest))

/-- An integer from zero up to a bound. -/
def natural (bound : Nat) : KindReader :=
  numberWith fun v =>
    match v with
    | .int n => if 0 ≤ n ∧ n < bound then some v else none
    | _ => none

/-- A number taken as a double, whichever way it is written. -/
def double : KindReader :=
  numberWith fun v =>
    match v with
    | .int n => some (.double (.ofInt n))
    | .double d => some (.double d)
    | _ => none

/-- Any value. -/
def any : KindReader := readValue

/-- Null, or a value of a kind. -/
def optional (kind : KindReader) : KindReader := fun depth text =>
  match skipBlanks text with
  | some 'n' :: rest => do .ok (.null, ← readWord ['u', 'l', 'l'] rest)
  | text => kind depth text

/-- A list of values of a kind. -/
def list (kind : KindReader) : KindReader := fun depth text =>
  match skipBlanks text with
  | some '[' :: rest =>
    match depth with
    | 0 => .error .malformed
    | depth + 1 => do
      let (items, rest) ← readElements (kind depth) rest
      .ok (.arr items, rest)
  | other => .error (otherKind other)

/-- An object with values of a kind under any keys. -/
def table (kind : KindReader) : KindReader := fun depth text =>
  match skipBlanks text with
  | some '{' :: rest =>
    match depth with
    | 0 => .error .malformed
    | depth + 1 => do
      let (members, rest) ← readMembers (readMember (kind depth)) .empty rest
      .ok (.obj members, rest)
  | other => .error (otherKind other)

end Kind

/-- A field of a record: its name, how its value is read, and what stands for it when
it is missing, if it may be. -/
structure Field where
  name : String
  kind : KindReader
  default : Option Json

/-- The fields gathered, with defaults for the missing ones. -/
def complete (fields : List Field) (gathered : List (String × Json)) : Option Object :=
  fields.foldr (fun field rest => do
    let rest ← rest
    let v ← (gathered.lookup field.name).or field.default
    some (rest.insert field.name v)) (some .empty)

/-- A member of a record: a known field must come only once, an unknown one is passed
over. -/
def readField (fields : List Field) (depth : Nat) (key : String)
    (gathered : List (String × Json)) (text : Glyphs) :
    Except ReadError (List (String × Json) × Glyphs) :=
  match fields.find? (·.name == key) with
  | none => do
    let rest ← skipValue (← readColon text)
    .ok (gathered, rest)
  | some field =>
    if (gathered.lookup key).isSome then .error .wrongShape
    else do
      let (v, rest) ← field.kind depth (← readColon text)
      .ok ((key, v) :: gathered, rest)

/-- The fields of a record written as a list whose opening bracket has been read, in
order of declaration, up to the closing bracket; `first` says that no comma is due. -/
def readFieldList (depth : Nat) : (first : Bool) → List Field → Glyphs →
    Except ReadError (List (String × Json) × Glyphs)
  | _, [], text =>
    match skipBlanks text with
    | [] => .error .endOfText
    | some ']' :: rest => .ok ([], rest)
    | _ => .error .malformed
  | first, field :: fields, text => do
    let next (text : Glyphs) : Except ReadError (List (String × Json) × Glyphs) := do
      let (v, rest) ← field.kind depth text
      let (vs, rest) ← readFieldList depth false fields rest
      .ok ((field.name, v) :: vs, rest)
    match skipBlanks text with
    | [] => .error .endOfText
    | some ']' :: rest =>
      if (field :: fields).all fun field => field.default.isSome then .ok ([], rest)
      else .error .wrongShape
    | some ',' :: rest => if first then .error .malformed else next rest
    | text => if first then next text else .error .malformed

/-- A record of given fields. -/
def Kind.record (fields : List Field) : KindReader := fun depth text => do
  let finish (gathered : List (String × Json)) (rest : Glyphs) :
      Except ReadError (Json × Glyphs) :=
    match complete fields gathered with
    | some o => .ok (.obj o, rest)
    | none => .error .wrongShape
  match skipBlanks text with
  | some '{' :: rest =>
    match depth with
    | 0 => .error .malformed
    | depth + 1 =>
      let (gathered, rest) ← readMembers (readField fields depth) [] rest
      finish gathered rest
  | some '[' :: rest =>
    match depth with
    | 0 => .error .malformed
    | depth + 1 =>
      let (gathered, rest) ← readFieldList depth true fields rest
      finish gathered rest
  | other => .error (otherKind other)

/-- A value of a kind that bytes hold as JSON text. -/
def ofBytesAs (kind : KindReader) (bytes : Bytes) : Except ReadError Json :=
  readText (kind depthLimit) (Glyphs.ofBytes bytes)

/-- The fields of a record in a value: the members of an object, or the elements of a
list in the order of the names given. A list may not have more elements than there
are fields. -/
def fields? (names : List String) : Json → Option (String → Option Json)
  | .obj o => some o.get?
  | .arr items =>
    if items.length ≤ names.length then some fun name => (names.zip items).lookup name
    else none
  | _ => none

end ClusterEvents.Json
