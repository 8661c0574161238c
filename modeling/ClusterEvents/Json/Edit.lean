import ClusterEvents.Json.Path
import ClusterEvents.Json.Printer

/-!
# Edits along paths

An edit changes a tree at every place that its paths address. A path that cannot be
followed is reported and skipped, and never keeps the ones after it from being
edited; a path that leads nowhere is skipped in silence.

Main definitions: `transform` rewrites values, `rename` moves them, `delete` removes
them. Each returns the new tree with the reports, in the order they arose.
-/

namespace ClusterEvents.Json

/-- Why a path was skipped. -/
inductive EditError where
  | unsupported (path : String) (fault : PathFault)
  | notAList (path : String)
  | unsettable (path : String) (fault : SetFault)
  | refused (path : String) (reason : String)
deriving DecidableEq, Repr

/-- The report in words. -/
def EditError.message : EditError → String
  | .unsupported path fault => s!"path {path} is not supported: {fault.message}"
  | .notAList path => s!"node {path} is not a list"
  | .unsettable path fault => s!"cannot set {path}: {fault.message}"
  | .refused path reason => s!"transform of {path} failed: {reason}"

/-- A tree after an edit, with the reports of what was skipped. -/
abbrev Edited := Json × List EditError

/-- Edits every element of a list and gathers the reports in element order. -/
def editItems (edit : Json → Edited) : List Json → List Json × List EditError
  | [] => ([], [])
  | item :: rest =>
    let (item, reports) := edit item
    let (rest, more) := editItems edit rest
    (item :: rest, reports ++ more)

/-- Edits every element of the list at a location. A string there is unpacked first,
and stays unpacked; anything but a list is reported. -/
def editEach (parent : String) (edit : Json → Edited) (tree : Json) : Edited :=
  let location := Location.ofPath parent
  match lookup? location tree with
  | none => (tree, [])
  | some node =>
    match unpack node with
    | .arr items =>
      let (items, reports) := editItems edit items
      (replace location (.arr items) tree, reports)
    | other => (replace location other tree, [.notAList parent])

/-- Runs one edit after another and gathers the reports. -/
def editAll {α : Type} (edit : α → Json → Edited) : List α → Json → Edited
  | [], tree => (tree, [])
  | path :: rest, tree =>
    let (tree, reports) := edit path tree
    let (tree, more) := editAll edit rest tree
    (tree, reports ++ more)

/-- Rewrites the value at a location by `f`, which is given the value unpacked. When
`f` refuses, the value stays as it was, and the refusal is reported under `label`. -/
def transformAt (f : Json → Except String Json) (label path : String) (tree : Json) : Edited :=
  let location := Location.ofPath path
  match lookup? location tree with
  | none => (tree, [])
  | some v =>
    match f (unpack v) with
    | .ok new => (replace location new tree, [])
    | .error reason => (tree, [.refused label reason])

/-- Rewrites by `f` what one path addresses. -/
def transformPath (f : Json → Except String Json) (path : String) (tree : Json) : Edited :=
  match Selector.ofPath path with
  | .error fault => (tree, [.unsupported path fault])
  | .ok (.single path) => transformAt f path path tree
  | .ok (.each parent child) => editEach parent (transformAt f path child) tree

/-- Rewrites by `f` what the paths address, one path after the other. -/
def transform (f : Json → Except String Json) (paths : List String) (tree : Json) : Edited :=
  editAll (transformPath f) paths tree

/-- Moves the value at one location to another, unpacked. Where it cannot be written
it stays in its old place. -/
def moveValue (source target : String) (tree : Json) : Edited :=
  if source = target then (tree, [])
  else
    match lookup? (Location.ofPath source) tree with
    | none => (tree, [])
    | some v =>
      match set (Location.ofPath target) (unpack v) tree with
      | .ok tree => (erase (Location.ofPath source) tree, [])
      | .error fault => (tree, [.unsettable target fault])

/-- Moves what one path addresses to where the other points. Paths into lists must
name the same list. -/
def renamePair (pair : String × String) (tree : Json) : Edited :=
  let (source, target) := pair
  match Selector.ofPath source with
  | .error fault => (tree, [.unsupported source fault])
  | .ok selected =>
    match Selector.ofPath target with
    | .error fault => (tree, [.unsupported target fault])
    | .ok aimed =>
      match selected, aimed with
      | .single source, .single target => moveValue source target tree
      | .each parent source, .each other target =>
        if parent = other then editEach parent (moveValue source target) tree
        else (tree, [.unsupported pair.1 .differentParents])
      | _, _ => (tree, [.unsupported source .mixedForms])

/-- Moves values from source to target, one pair after the other. -/
def rename (pairs : List (String × String)) (tree : Json) : Edited :=
  editAll renamePair pairs tree

/-- Removes what one path addresses. -/
def deletePath (path : String) (tree : Json) : Edited :=
  match Selector.ofPath path with
  | .error fault => (tree, [.unsupported path fault])
  | .ok (.single path) => (erase (Location.ofPath path) tree, [])
  | .ok (.each parent child) =>
    editEach parent (fun item => (erase (Location.ofPath child) item, [])) tree

/-- Removes what the paths address, one path after the other. -/
def delete (paths : List String) (tree : Json) : Edited :=
  editAll deletePath paths tree

/-- Applies an edit to the JSON text in bytes and writes the result; the reports are
dropped. -/
def editBytes (edit : Json → Edited) (bytes : Bytes) : Except ReadError String := do
  let tree ← ofBytes bytes
  .ok (edit tree).1.print

end ClusterEvents.Json
