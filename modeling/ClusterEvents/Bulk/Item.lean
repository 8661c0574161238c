import ClusterEvents.Json.Printer
import ClusterEvents.Text.Glyph
import ClusterEvents.Text.Quoted

/-!
# Documents on their way to the search store

An item is a document with the index and the identifier it is to be stored under. It
carries a ticket, which tells its sender later which item it was that was settled.

Items are sent in batches. The body of a request has two lines for each item: what is
to be done, and the document.
-/

namespace ClusterEvents.Bulk

/-- A document to be stored. -/
structure Item (κ : Type) where
  index : String
  id : String
  body : Bytes
  ticket : κ
deriving DecidableEq, Repr

namespace Item

variable {κ : Type}

/-- What is to be done with the document: it is stored under its identifier, in place
of the one that was there. -/
def action (item : Item κ) : Json :=
  let place := Object.ofList [("_index", .str item.index), ("_id", .str item.id)]
  .obj (Object.ofList [("index", .obj place)])

/-- The byte that ends a line. -/
def newline : UInt8 := 0x0A

/-- The lines of an item in the body of a request. -/
def lines (item : Item κ) : Bytes :=
  Bytes.ofString item.action.print ++ newline :: item.body ++ [newline]

/-- An item in words, without its document. -/
def describe (item : Item κ) : String :=
  s!"BulkItem \x7b index: {Text.quote item.index}, document_id: {Text.quote item.id}, "
    ++ s!"body_len: {item.body.length} \x7d"

end Item

/-- The body of a request with a batch of items. -/
def body {κ : Type} (batch : List (Item κ)) : Bytes :=
  batch.flatMap Item.lines

end ClusterEvents.Bulk
