import ClusterEvents.Files.Address
import ClusterEvents.Files.Tree

/-!
# Databases in files

A database lives in a file of its own. Opening it makes the file, and the directory it
is in, unless they are there; a file of one byte at most is a database without rows. A
database that is to be set up must be writable, and there must be room for the name of
the file beside it in which changes are noted.
-/

namespace ClusterEvents

-- The empty sum is the numeral zero, whatever else is imported.
attribute [local instance (high)] Zero.ofOfNat0

/-- A database that was opened. -/
structure OpenedDatabase where
  /-- Where it is kept, if it is kept. -/
  place : Option Place
  tables : DurableStore := {}
deriving DecidableEq, Repr

namespace Files

/-- How many bytes the place of a database may take, as a path from the root. -/
def placeLimit : Nat := 504

/-- How many bytes a place on the way to a database may take. -/
def wayLimit : Nat := 511

/-- The end of the name of the file in which changes to a database are noted. -/
def journalEnding : String := "-journal"

/-- The bytes that a place takes as a path from the root. -/
def placeLength (place : Place) : Nat :=
  (place.map fun name => name.utf8ByteSize + 1).sum

/-- Whether there may be something of a name at a place. -/
def mayHold (fs : Files) (place : Place) : Bool :=
  match fs.get? place with
  | some .directory | none => true
  | some _ => false

/-- Follows steps to the place of a database. Steps upwards are taken by name, whatever
is there. -/
def seek (fs : Files) : List String → Place → Option Place
  | [], place => some place
  | step :: rest, place =>
    if step = ".." then seek fs rest place.dropLast
    else
      let next := place ++ [step]
      if step.utf8ByteSize ≤ nameLimit ∧ placeLength next ≤ wayLimit ∧ fs.mayHold place then
        seek fs rest next
      else none

/-- The place of the database at a path. -/
def databasePlace? (fs : Files) (path : String) : Option Place := do
  let place ← fs.seek (moves path) (fs.start path)
  if placeLength place ≤ placeLimit then some place else none

/-- Sets up a database at a place where there is one, or room for one. -/
def setUp (fs : Files) (place : Place) (isReadOnly : Bool) (tables : DurableStore) :
    Except DatabaseFault OpenedDatabase × Files :=
  let name := place.getLast?.getD ""
  if isReadOnly then (.error .readOnly, fs)
  else if nameLimit < (name ++ journalEnding).utf8ByteSize then (.error .noJournal, fs)
  else (.ok ⟨some place, tables⟩, fs.put place (.database tables))

/-- Opens the database at a place, which was reached by a path. -/
def openAt (fs : Files) (place : Place) (address : DatabaseAddress) (path : String) :
    Except DatabaseFault OpenedDatabase × Files :=
  let unopenable : Except DatabaseFault OpenedDatabase × Files := (.error (.unopenable path), fs)
  if fs.get? place.dropLast = some .directory then
    match fs.get? place with
    | some .directory => unopenable
    | some (.database tables) => fs.setUp place address.isReadOnly tables
    | some (.file content) =>
      if content.length ≤ 1 then fs.setUp place address.isReadOnly {}
      else (.error .foreign, fs)
    | none =>
      if address.access = .create then
        (fs.put place (.file [])).setUp place address.isReadOnly {}
      else unopenable
  else unopenable

/-- Opens the database of a name. -/
def openNamed (fs : Files) (name : String) : Except DatabaseFault OpenedDatabase × Files :=
  let bytes := Bytes.ofString name
  if bytes.contains 0 then (.error (.nullInPath (bytes.idxOf 0)), fs)
  else
    match DatabaseAddress.ofName name with
    | .error fault => (.error fault, fs)
    | .ok address =>
      if address.isFleeting then
        (if address.isReadOnly then .error .readOnly else .ok { place := none }, fs)
      else
        match fs.databasePlace? address.path with
        | none => (.error (.unopenable name), fs)
        | some place => fs.openAt place address name

/-- Opens the database of a name, in a directory that is made as though the name were a
path. The files are those afterwards. -/
def openDatabase (fs : Files) (name : String) : Except SnapshotError OpenedDatabase × Files :=
  match fs.makeParent name with
  | .error fault => (.error (.directory fault.message), fs)
  | .ok fs =>
    let (opened, fs) := fs.openNamed name
    (opened.mapError .database, fs)

/-- The files once the tables of a database are written back. -/
def closeDatabase (fs : Files) (place : Option Place) (tables : DurableStore) : Files :=
  match place with
  | some place => fs.put place (.database tables)
  | none => fs

end Files

end ClusterEvents
