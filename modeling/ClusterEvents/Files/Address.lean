import ClusterEvents.Snapshots.Fault
import ClusterEvents.Settings.Words
import ClusterEvents.Text.Hex

/-!
# Addresses of databases

A database is named by the path of its file. A name that begins with `file:` is a
uniform resource identifier instead: the path follows, in which characters may be
written as escapes, and behind a question mark options, each a name with a value.
Options say how much may be done with the file, and how it is reached.

`DatabaseAddress.ofName` reads a name. Some addresses stand for databases without
files; nobody finds these again.
-/

namespace ClusterEvents

-- Powers are those that numbers bring along, whatever else is imported.
attribute [local instance (high)] instPowNat instNatPowNat

/-- What may be done with a database. -/
inductive Access where
  | read
  | write
  /-- Its file may be made, too. -/
  | create
  /-- It has no file. -/
  | memory
deriving DecidableEq, Repr

namespace Access

/-- How much may be done, for comparison. -/
def rank : Access → Nat
  | .read => 0
  | .write => 1
  | .create => 2
  | .memory => 3

/-- The names of the kinds of access in an address. -/
def names : List (String × Access) :=
  [("ro", .read), ("rw", .write), ("rwc", .create), ("memory", .memory)]

/-- What may be done from now on when a mode is asked for. Once access has been given
away, it does not come back. -/
def narrowed (access : Access) (mode : String) : Except DatabaseFault Access :=
  match names.lookup mode with
  | none => .error (.noSuch "access mode" mode)
  | some asked =>
    if asked = .memory ∨ asked.rank ≤ access.rank then .ok asked else .error (.forbidden mode)

end Access

/-- Where a database is, and what may be done with it. -/
structure DatabaseAddress where
  /-- The path of its file. -/
  path : String
  access : Access := .create
  /-- Its file is taken to never change. -/
  isFixed : Bool := false
  /-- It is asked to be kept in memory by the way it is reached. -/
  isUnfiled : Bool := false
deriving DecidableEq, Repr

namespace DatabaseAddress

/-- The beginning of a name that is no path. -/
def scheme : List Char := "file:".toList

/-- The bytes that a part of an identifier stands for: two hexadecimal digits behind a
percent sign are one byte, and a null byte ends the part. -/
def unescaped : List Char → Bytes
  | [] => []
  | '%' :: a :: b :: rest =>
    match Text.hexDigit? a, Text.hexDigit? b with
    | some high, some low =>
      let code := high * 16 + low
      if code = 0 then [] else UInt8.ofNat code :: unescaped rest
    | _, _ => 0x25 :: unescaped (a :: b :: rest)
  | c :: rest => Bytes.ofString (String.ofList [c]) ++ unescaped rest

/-- The text that a part of an identifier stands for. A part whose bytes are no text
stands for itself. -/
def partText (part : List Char) : String :=
  (unescaped part).toString?.getD (String.ofList part)

/-- The name and the value of an option. -/
def optionOf (part : List Char) : String × String :=
  (partText (part.takeWhile (· ≠ '=')), partText ((part.dropWhile (· ≠ '=')).drop 1))

/-- The options of an identifier, without those that have no name. -/
def optionsOf (parts : List Char) : List (String × String) :=
  ((Text.splitOn '&' parts).map optionOf).filter fun option => !option.1.isEmpty

/-- Passes over the name of a computer, which can only be this one. -/
def passComputer : List Char → Except DatabaseFault (List Char)
  | '/' :: '/' :: text =>
    let computer := String.ofList (text.takeWhile (· ≠ '/'))
    if computer = "" ∨ computer = "localhost" then .ok (text.dropWhile (· ≠ '/'))
    else .error (.elsewhere computer)
  | text => .ok text

/-- What an option asks for, in the order of options. -/
def withOption (access : Access) (option : String × String) : Except DatabaseFault Access :=
  match option with
  | ("mode", mode) => access.narrowed mode
  | ("cache", cache) =>
    if cache = "shared" ∨ cache = "private" then .ok access else .error (.noSuch "cache mode" cache)
  | _ => .ok access

/-- Whether the value of an option is a number other than zero or a word for yes. -/
def isTrue (value : String) : Bool :=
  let digits := value.toList.takeWhile Words.isDigit
  if digits.isEmpty then ["on", "yes", "true"].contains (Text.lowercase value)
  else decide (Words.numberOf digits < 2 ^ (31 : Nat) ∧ Words.numberOf digits % 256 ≠ 0)

/-- The ways to reach the files of databases. -/
def ways : List String := ["unix", "unix-none", "unix-dotfile", "unix-excl", "memdb"]

/-- The address that an identifier stands for, behind its beginning. Of several options
that say how the file is reached the last one holds, of those that say that it never
changes the first one. -/
def ofIdentifier (text : List Char) : Except DatabaseFault DatabaseAddress := do
  let text := (← passComputer text).takeWhile (· ≠ '#')
  let options := optionsOf ((text.dropWhile (· ≠ '?')).drop 1)
  let access ← options.foldlM withOption .create
  let way := (options.reverse.lookup "vfs").getD "unix"
  if !ways.contains way then .error (.noSuch "vfs" way)
  .ok {
    path := partText (text.takeWhile (· ≠ '?'))
    access
    isFixed := (options.lookup "immutable").any isTrue
    isUnfiled := way == "memdb" }

/-- The address that a name stands for. -/
def ofName (name : String) : Except DatabaseFault DatabaseAddress :=
  match Text.afterStart? scheme name.toList with
  | some text => ofIdentifier text
  | none => .ok { path := name }

/-- Whether a database is gone once it is closed. -/
def isFleeting (address : DatabaseAddress) : Bool :=
  address.path.isEmpty || address.path == ":memory:" || address.access == .memory
    || address.isUnfiled

/-- Whether a database may only be read. A fixed file is one that nobody writes. -/
def isReadOnly (address : DatabaseAddress) : Bool :=
  address.access == .read || (address.isFixed && !address.isFleeting)

end DatabaseAddress

end ClusterEvents
