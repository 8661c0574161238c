import ClusterEvents.Json.Reader
import ClusterEvents.Text.Blank
import ClusterEvents.Text.Cut

/-!
# Locations in a JSON value

A location is a list of segments, read from the root: a segment names a member of
an object, or an element of a list when it is a decimal index. `lookup?` finds the
value at a location, `replace` puts another one in its place, `take?` removes it, and
`set` writes a value there, making the objects that are missing on the way.

A `Selector` is what a path in a rule addresses: one location, or one location in
every element of a list.
-/

namespace ClusterEvents.Json

-- Powers are those that numbers bring along, whatever else is imported.
attribute [local instance (high)] instPowNat instNatPowNat

/-- A location, from the root down. -/
abbrev Location := List String

/-- The location that a dotted path spells. -/
def Location.ofPath (path : String) : Location :=
  Text.split '.' path

/-- The list position that a segment names: decimal digits for a number of
sixty-four bits. -/
def index? (segment : String) : Option Nat :=
  let cs := segment.toList
  if cs ≠ [] ∧ cs.all Char.isDigit then
    let n := cs.foldl (fun n c => n * 10 + (c.toNat - 48)) 0
    if n < 2 ^ (64 : Nat) then some n else none
  else none

/-- The value one segment below a value. -/
def child? (segment : String) : Json → Option Json
  | .obj o => o.get? segment
  | .arr items => (index? segment).bind fun i => items[i]?
  | _ => none

/-- The value with another one put in the place of an existing child. -/
def setChild (segment : String) (new : Json) : Json → Json
  | .obj o => .obj (o.insert segment new)
  | .arr items =>
    match index? segment with
    | some i => .arr (items.set i new)
    | none => .arr items
  | v => v

/-- A child together with the value that remains without it. -/
def removeChild? (segment : String) : Json → Option (Json × Json)
  | .obj o => (o.get? segment).map fun v => (v, .obj (o.erase segment))
  | .arr items => (index? segment).bind fun i =>
    items[i]?.map fun v => (v, .arr (items.eraseIdx i))
  | _ => none

/-- The value at a location. -/
def lookup? : Location → Json → Option Json
  | [], tree => some tree
  | segment :: rest, tree => (child? segment tree).bind (lookup? rest)

/-- The tree with another value at an existing location; a tree without that
location stays as it is. -/
def replace : Location → Json → Json → Json
  | [], new, _ => new
  | segment :: rest, new, tree =>
    match child? segment tree with
    | none => tree
    | some below => setChild segment (replace rest new below) tree

/-- The value at a location below the root, and the tree without it. -/
def take? : Location → Json → Option (Json × Json)
  | [], _ => none
  | [segment], tree => removeChild? segment tree
  | segment :: rest, tree =>
    (child? segment tree).bind fun below =>
      (take? rest below).map fun (taken, left) => (taken, setChild segment left tree)

/-- The tree without the value at a location, if there is one. -/
def erase (location : Location) (tree : Json) : Json :=
  ((take? location tree).map Prod.snd).getD tree

/-- Whether a value can be written at a location: no scalar is in the way, and a
list is entered at one of its elements, or written to just behind the last. -/
def canSet : Location → Json → Bool
  | [], _ => true
  | _ :: _, .null => true
  | segment :: rest, .obj o =>
    match o.get? segment with
    | none => true
    | some below => canSet rest below
  | segment :: rest, .arr items =>
    match index? segment with
    | none => false
    | some i =>
      match items[i]? with
      | some below => canSet rest below
      | none => decide (i = items.length) && rest.isEmpty
  | _ :: _, _ => false

/-- New objects down a location, with a value at its end. -/
def nest : Location → Json → Json
  | [], new => new
  | segment :: rest, new => .obj (Object.empty.insert segment (nest rest new))

/-- The tree with a value written at a location. Missing members and nulls on the
way become objects; a list takes a new element only at its end. -/
def write? : Location → Json → Json → Option Json
  | [], new, _ => some new
  | segment :: rest, new, .null => some (nest (segment :: rest) new)
  | segment :: rest, new, .obj o =>
    match o.get? segment with
    | none => some (.obj (o.insert segment (nest rest new)))
    | some below => (write? rest new below).map fun v => .obj (o.insert segment v)
  | segment :: rest, new, .arr items =>
    (index? segment).bind fun i =>
      match items[i]? with
      | some below => (write? rest new below).map fun v => .arr (items.set i v)
      | none =>
        if i = items.length ∧ rest = [] then some (.arr (items ++ [new])) else none
  | _ :: _, _, _ => none

/-- Why nothing can be written at a location. -/
inductive SetFault where
  | emptySegment
  | blocked
  | outOfRange
deriving DecidableEq, Repr

/-- The fault in words. -/
def SetFault.message : SetFault → String
  | .emptySegment => "empty path segment"
  | .blocked => "an intermediate value is not a container"
  | .outOfRange => "list index out of range"

/-- Writes a value at a location, or says why it cannot be done. Nothing is written
unless `canSet` has found the way free. -/
def set (location : Location) (new : Json) (tree : Json) : Except SetFault Json :=
  if location.any String.isEmpty then .error .emptySegment
  else if canSet location tree then
    match write? location new tree with
    | some tree => .ok tree
    | none => .error .outOfRange
  else .error .blocked

/-- A string that holds a JSON object or list stands for what it holds; every other
value stands for itself. -/
def unpack : Json → Json
  | .str s =>
    match s.toList.dropWhile Text.isBlank with
    | '{' :: _ | '[' :: _ =>
      match ofText s with
      | .ok (.obj o) => .obj o
      | .ok (.arr items) => .arr items
      | _ => .str s
    | _ => .str s
  | v => v

/-- Why a path addresses nothing. -/
inductive PathFault where
  | empty
  | incompleteMark
  | severalMarks
  | differentParents
  | mixedForms
deriving DecidableEq, Repr

/-- The fault in words. -/
def PathFault.message : PathFault → String
  | .empty => "empty path"
  | .incompleteMark => "wildcard needs both a parent and a child"
  | .severalMarks => "more than one [*] marker"
  | .differentParents => "renaming across different parents"
  | .mixedForms => "source and destination must both be simple or both use [*]"

/-- What a path addresses: one location, or, written `parent[*].child`, a location in
every element of the list at `parent`. -/
inductive Selector where
  | single (path : String)
  | each (parent child : String)
deriving DecidableEq, Repr

/-- Reads a path. Dots around the child are not part of it. -/
def Selector.ofPath (path : String) : Except PathFault Selector :=
  match Text.splitOnMark path.toList with
  | [] | [[]] => .error .empty
  | [_] => .ok (.single path)
  | [parent, rest] =>
    let child := Text.trimBy (· == '.') rest
    if parent = [] ∨ child = [] then .error .incompleteMark
    else .ok (.each (String.ofList parent) (String.ofList child))
  | _ :: _ :: _ :: _ => .error .severalMarks

end ClusterEvents.Json
