import ClusterEvents.Logging.Directive
import ClusterEvents.Logging.Record

/-!
# Which records are shown

A filter is a list of directives between commas. Of the directives that concern a record
the one that says most about it decides: it shows the record if its level is grave
enough. A later directive takes the place of an earlier one that is about the same.

A directive about spans is understood but shows nothing, since nothing here happens
within a span.

`Filter.ofText` reads a filter; one that makes no sense stands for `info`.
-/

namespace ClusterEvents.Logging

/-- The directives of a filter. -/
abbrev Filter := List Directive

namespace Filter

/-- The filter without directives of its own shows errors. -/
def silent : Filter := [{ threshold := Level.error.number }]

/-- The filter that is used when nothing is asked for. -/
def standard : Filter := [{ threshold := Level.info.number }]

/-- The filter that a text stands for, if it makes sense. -/
def ofText? (text : String) : Option Filter :=
  let parts := (Text.splitOn ',' text.toList).filter fun part => !part.isEmpty
  (parts.mapM Directive.ofText?).map fun directives =>
    if directives.isEmpty then silent else directives

/-- The filter that a text stands for. -/
def ofText (text : String) : Filter :=
  (ofText? text).getD standard

/-- The one of two directives that says more, the second if both say as much. -/
def moreDetailed (best : Option Directive) (d : Directive) : Option Directive :=
  match best with
  | none => some d
  | some b => if Directive.compareDetail d b = .lt then some b else some d

/-- The directive that decides about a record, if one concerns it. -/
def deciding? (filter : Filter) (record : Record) : Option Directive :=
  (filter.filter fun d => d.isGeneral && d.concerns record.target record.fields).foldl
    moreDetailed none

/-- Whether a filter shows a record. -/
def shows (filter : Filter) (record : Record) : Bool :=
  (filter.deciding? record).any fun d => decide (record.level.number ≤ d.threshold)

end Filter

end ClusterEvents.Logging
