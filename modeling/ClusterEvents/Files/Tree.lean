import ClusterEvents.Ascending
import ClusterEvents.Snapshots.Durable
import ClusterEvents.Text.Cut
import ClusterEvents.Text.Glyph

/-!
# Files

A tree of files is a list of entries by their places; a place is the list of names on
the way down from the root, which is always a directory. A file holds bytes, or the
tables of a database.

A path is a list of steps: a name, `..` for the directory above, or `.` for the
directory itself, which also stands for the nothing after a final slash. `Files.walk`
follows the steps. Every step but the last must lead to a directory, so a path that
ends in a slash never leads to a file.

`Files.get?_put` says what is found at a place after a change.
-/

namespace ClusterEvents

/-- The names on the way from the root to a place. -/
abbrev Place := List String

/-- What is at a place. -/
inductive Files.Entry where
  | directory
  | file (content : Bytes)
  | database (tables : DurableStore)
deriving DecidableEq, Repr

/-- A tree of files, and the directory from which paths start that do not start at the
root. -/
structure Files where
  entries : List (Place × Files.Entry) := []
  working : Place := []
deriving DecidableEq, Repr

/-- Why a path leads nowhere. -/
inductive Files.Fault where
  | absent
  | isDirectory
  | notDirectory
  | taken
  /-- Names hold no null characters. -/
  | nullInName
  /-- A name, or the path as a whole, is too long. -/
  | tooLong
  /-- What is there is no text. -/
  | notText
deriving DecidableEq, Repr

namespace Files

/-- The fault in words. -/
def Fault.message : Fault → String
  | .absent => "No such file or directory (os error 2)"
  | .isDirectory => "Is a directory (os error 21)"
  | .notDirectory => "Not a directory (os error 20)"
  | .taken => "File exists (os error 17)"
  | .nullInName => "file name contained an unexpected NUL byte"
  | .tooLong => "File name too long (os error 36)"
  | .notText => "stream did not contain valid UTF-8"

/-- How many bytes a name may have. -/
def nameLimit : Nat := 255

/-- How many bytes a path may have. -/
def pathLimit : Nat := 4095

/-- What is at a place. -/
def get? (fs : Files) (place : Place) : Option Entry :=
  if place = [] then some .directory else Ascending.get? place fs.entries

/-- Puts an entry at a place. -/
def put (fs : Files) (place : Place) (entry : Entry) : Files :=
  { fs with entries := Ascending.put place entry fs.entries }

theorem get?_put (fs : Files) (place : Place) (entry : Entry) {other : Place}
    (h : other ≠ []) :
    (fs.put place entry).get? other = if other = place then some entry else fs.get? other := by
  simp only [get?, put, h, if_false]
  exact Ascending.get?_put place entry fs.entries other

/-- Whether a path starts at the root. -/
def isRooted (path : String) : Bool :=
  path.toList.head? = some '/'

/-- The steps of a path. Slashes side by side count as one; after the last slash of a
path comes the directory itself. -/
def steps (path : String) : List String :=
  let pieces := Text.split '/' path
  let last := pieces.getLast?.getD ""
  pieces.dropLast.filter (fun piece => !piece.isEmpty) ++ [if last.isEmpty then "." else last]

/-- Where a path starts. -/
def start (fs : Files) (path : String) : Place :=
  if isRooted path then [] else fs.working

/-- Follows steps from a directory to a place. There need not be anything at the last
place. -/
def walk (fs : Files) : List String → Place → Except Fault Place
  | [], place => .ok place
  | step :: rest, place =>
    if step = "." then walk fs rest place
    else if step = ".." then walk fs rest place.dropLast
    else if nameLimit < step.utf8ByteSize then .error .tooLong
    else
      let next := place ++ [step]
      if rest.isEmpty then .ok next
      else
        match fs.get? next with
        | some .directory => walk fs rest next
        | some _ => .error .notDirectory
        | none => .error .absent

/-- The place that a path leads to. -/
def locate (fs : Files) (path : String) : Except Fault Place :=
  if path.isEmpty then .error .absent
  else if path.toList.contains '\x00' then .error .nullInName
  else if pathLimit < path.utf8ByteSize then .error .tooLong
  else fs.walk (steps path) (fs.start path)

/-- The text of the file that a path leads to. -/
def readText (fs : Files) (path : String) : Except Fault String := do
  match fs.get? (← fs.locate path) with
  | none => .error .absent
  | some .directory => .error .isDirectory
  | some (.database _) => .error .notText
  | some (.file content) =>
    match content.toString? with
    | some text => .ok text
    | none => .error .notText

/-- Follows names and steps upwards from a directory, and makes the directories that
are not there. -/
def makeAlong (fs : Files) : List String → Place → Except Fault Files
  | [], _ => .ok fs
  | step :: rest, place =>
    if step = ".." then makeAlong fs rest place.dropLast
    else if nameLimit < step.utf8ByteSize then .error .tooLong
    else
      let next := place ++ [step]
      match fs.get? next with
      | some .directory => makeAlong fs rest next
      | some _ => .error (if rest.isEmpty then .taken else .notDirectory)
      | none => makeAlong (fs.put next .directory) rest next

/-- The steps without those that stay where they are. -/
def moves (path : String) : List String :=
  (steps path).filter fun step => step ≠ "."

/-- The place of a path when steps upwards are taken by name, whatever is there. -/
def placeByName (fs : Files) (path : String) : Place :=
  (moves path).foldl (fun place step =>
    if step = ".." then place.dropLast else place ++ [step]) (fs.start path)

/-- The path of the directory that the thing at a path is in. -/
def parentPath (path : String) : String :=
  let isIdle (piece : String) : Bool := piece.isEmpty || piece == "."
  let above := (((Text.split '/' path).reverse.dropWhile isIdle).drop 1).dropWhile isIdle
  "/".intercalate above.reverse

/-- Makes the directory that the thing at a path is in, and those above it. -/
def makeParent (fs : Files) (path : String) : Except Fault Files :=
  let parent := parentPath path
  if parent.toList.contains '\x00' then .error .nullInName
  else if pathLimit < parent.utf8ByteSize then .error .tooLong
  else fs.makeAlong (moves path).dropLast (fs.start path)

end Files

end ClusterEvents
