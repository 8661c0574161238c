/-!
# Tables of a settings file

A settings file in TOML is a table of entries by key. Each table remembers how it came
to be, because that decides who may add to it: a header may complete a table that was
only implied by the headers of others, a dotted key may only add to tables that dotted
keys made, and nothing may be added to a table written in braces.

`Entries.addEntry`, `Entries.openTable` and `Entries.openElement` are what a line of
the file can do to the root table. Each fails when the line contradicts an earlier
one.
-/

namespace ClusterEvents

/-- How a table came to be. -/
inductive Toml.Origin where
  /-- It has a header of its own. -/
  | header
  /-- It stands in the header of a table inside. -/
  | implied
  /-- It stands in a dotted key. -/
  | dotted
  /-- It is written in braces. -/
  | braces
deriving DecidableEq, Repr

/-- A value of a settings file. -/
inductive Toml where
  | str (s : String)
  | int (n : Int)
  /-- A number that is not whole. No setting takes one. -/
  | real
  | bool (b : Bool)
  /-- A date, a time, or both. No setting takes one. -/
  | moment
  /-- A word in the form of a number that stands for none. It may only stand where
  nobody asks for its value. -/
  | unreadable
  /-- A list, which is made of tables with headers or written in brackets. -/
  | list (ofHeaders : Bool) (items : List Toml)
  | table (origin : Toml.Origin) (entries : List (String × Toml))

namespace Toml

/-- The entries of a table, in the order in which they were added. -/
abbrev Entries := List (String × Toml)

namespace Entries

/-- The entries with another value under a key that is there. -/
def replace (key : String) (value : Toml) (entries : Entries) : Entries :=
  entries.map fun entry => if entry.1 = key then (key, value) else entry

/-- A new entry; the key must not be there yet. -/
def add (key : String) (value : Toml) (entries : Entries) : Option Entries :=
  if (entries.lookup key).isSome then none else some (entries ++ [(key, value)])

/-- Updates the last element of a list of tables. -/
def updateLast (update : Entries → Option Entries) : List Toml → Option (List Toml)
  | [] => none
  | [.table origin inner] => do some [.table origin (← update inner)]
  | item :: rest => do some (item :: (← updateLast update rest))

/-- Updates a table from within, reached through a dotted key or through a header. The
way of a dotted key does not lead through tables that have headers of their own, but
both lead through the last of a list of tables. -/
def updateInside (byDots : Bool) (update : Entries → Option Entries) : Toml → Option Toml
  | .table origin inner =>
    if origin = .braces ∨ (byDots ∧ origin = .header) then none
    else do some (.table origin (← update inner))
  | .list true items => do some (.list true (← updateLast update items))
  | _ => none

/-- Updates the table at the end of a path. Tables on the way that are missing come to
be; in a list of tables the way leads through the last one. -/
def updateAt (byDots : Bool) (update : Entries → Option Entries) :
    List String → Entries → Option Entries
  | [], entries => update entries
  | key :: path, entries =>
    match entries.lookup key with
    | none => do
      let inner ← updateAt byDots update path []
      some (entries ++ [(key, .table (if byDots then .dotted else .implied) inner)])
    | some value => do
      some (entries.replace key (← updateInside byDots (updateAt byDots update path) value))

/-- Adds a value to the table under a key, which must be missing or made by dotted keys
alone. -/
def addWithin (step key : String) (value : Toml) (entries : Entries) : Option Entries :=
  match entries.lookup step with
  | none => some (entries ++ [(step, .table .dotted [(key, value)])])
  | some (.table .dotted inner) => do
    some (entries.replace step (.table .dotted (← add key value inner)))
  | some _ => none

/-- Adds a value under a dotted key. -/
def addDotted (keys : List String) (key : String) (value : Toml) (entries : Entries) :
    Option Entries :=
  match keys.getLast? with
  | none => add key value entries
  | some step => updateAt true (addWithin step key value) keys.dropLast entries

/-- Adds a value under a dotted key to the table that the last header opened. -/
def addEntry (opened keys : List String) (key : String) (value : Toml) (root : Entries) :
    Option Entries :=
  updateAt false (addDotted keys key value) opened root

/-- Gives the table under a key its header. It must be missing or only implied. -/
def giveHeader (key : String) (entries : Entries) : Option Entries :=
  match entries.lookup key with
  | none => some (entries ++ [(key, .table .header [])])
  | some (.table .implied inner) => some (entries.replace key (.table .header inner))
  | some _ => none

/-- Appends an empty table to the list of tables under a key. -/
def appendTable (key : String) (entries : Entries) : Option Entries :=
  match entries.lookup key with
  | none => some (entries ++ [(key, .list true [.table .header []])])
  | some (.list true items) =>
    some (entries.replace key (.list true (items ++ [.table .header []])))
  | some _ => none

/-- What a header does: it opens the table at a path. -/
def openTable (path : List String) (key : String) (root : Entries) : Option Entries :=
  updateAt false (giveHeader key) path root

/-- What a header in double brackets does: it opens a new element of the list of tables
at a path. -/
def openElement (path : List String) (key : String) (root : Entries) : Option Entries :=
  updateAt false (appendTable key) path root

end Entries

end Toml

end ClusterEvents
