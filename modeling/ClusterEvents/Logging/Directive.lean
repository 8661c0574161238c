import ClusterEvents.Logging.Level
import ClusterEvents.Logging.Pattern
import ClusterEvents.Text.Glyph

/-!
# Directives

A directive says up to which level something is shown. It is written as a level alone,
or as a target, a place in square brackets, or both, with the level after an equals
sign; without one, everything is shown. The place is the name of a span, or fields in
braces, or both; a field may be asked to have a value.

`Directive.ofText?` reads a directive character by character. Blanks at the ends do not
count for where its parts begin and end, yet the parts are cut out of the whole text at
these positions: blanks in front shift what every part is taken to be, and those behind
belong to the last part.
-/

namespace ClusterEvents.Logging

/-- A field that a record should have. -/
structure FieldTest where
  name : String
  /-- It should have a certain value, too. -/
  hasValue : Bool
deriving DecidableEq, Repr

namespace FieldTest

/-- Whether a text is a decimal number without a sign: digits, with a point among them
or not, and then perhaps an exponent. -/
def isNumeral (text : List Char) : Bool :=
  let isMark (c : Char) : Bool := c == 'e' || c == 'E'
  let base := text.takeWhile fun c => !isMark c
  let digits := base.filter (· ≠ '.')
  let exponent := (text.dropWhile fun c => !isMark c).drop 1
  let exponent := if exponent.head?.any fun c => c = '+' ∨ c = '-' then exponent.tail else exponent
  !digits.isEmpty && digits.all Words.isDigit && decide (base.count '.' ≤ 1)
    && (base.length == text.length || (!exponent.isEmpty && exponent.all Words.isDigit))

/-- Whether a text is a value: a number, which a plus sign may precede, or a pattern. -/
def isValue (text : List Char) : Bool :=
  match text with
  | '+' :: rest =>
    ["inf", "infinity", "nan"].contains (Text.lowercase (String.ofList rest)) || isNumeral rest
  | text => Pattern.isPattern text

/-- The field that a text asks for. What follows a second equals sign does not count. -/
def ofText? (text : String) : Option FieldTest :=
  match Text.splitOn '=' text.toList with
  | name :: value :: _ => if isValue value then some ⟨String.ofList name, true⟩ else none
  | [name] => some ⟨String.ofList name, false⟩
  | [] => none

end FieldTest

/-- A directive of a filter. -/
structure Directive where
  threshold : Threshold := Threshold.everything
  /-- The beginning of the targets that it is about. -/
  target : Option String := none
  /-- The name of the span that it is about. -/
  span : Option String := none
  fields : List FieldTest := []
deriving DecidableEq, Repr

namespace Directive

/-- How far a directive has been read, with the positions at which parts of it begin. -/
inductive Stage where
  | start
  /-- A level or a target. -/
  | word (first : Nat)
  | span (first : Nat)
  | field (first : Nat)
  /-- Behind the fields. -/
  | fields
  /-- Behind the place. -/
  | place
  | level (first : Nat)
deriving DecidableEq, Repr

/-- A directive that is being read. -/
structure Draft where
  stage : Stage := .start
  directive : Directive := {}
deriving DecidableEq, Repr

/-- The text between two positions, counted in bytes, if they do not part a
character. -/
def cut (text : Bytes) (first last : Nat) : Option String :=
  Bytes.toString? ((text.drop first).take (last - first))

/-- Whether a directive may begin with a character. -/
def mayStart (c : Char) : Bool :=
  Text.isAlphanumeric c || c == '-' || c == ':' || c == '_'

/-- The threshold that a part names, where nothing means everything. -/
def threshold? (text : String) : Option Threshold :=
  if text.isEmpty then some Threshold.everything else Threshold.ofText? text

/-- The draft after the character at a position. -/
def Draft.step (text : Bytes) (position : Nat) (c : Char) (draft : Draft) : Option Draft :=
  let directive := draft.directive
  match draft.stage with
  | .start =>
    if c = '[' then some { draft with stage := .span (position + 1) }
    else if mayStart c then some { draft with stage := .word position }
    else none
  | .word first =>
    if c = '=' then do
      let target ← cut text first position
      some ⟨.level (position + 1), { directive with target := some target }⟩
    else if c = '[' then do
      let target ← cut text first position
      some ⟨.span (position + 1), { directive with target := some target }⟩
    else some draft
  | .span first =>
    if c = ']' then do
      let span ← cut text first position
      some ⟨.place, { directive with span := some span }⟩
    else if c = '{' then do
      let span ← cut text first position
      some ⟨.field (position + 1),
        { directive with span := if span.isEmpty then none else some span }⟩
    else some draft
  | .field first =>
    if c = '}' then do
      let field ← cut text first position
      if field.isEmpty then none
      let test ← FieldTest.ofText? field
      some ⟨.fields, { directive with fields := directive.fields ++ [test] }⟩
    else some draft
  | .fields => if c = ']' then some { draft with stage := .place } else none
  | .place => if c = '=' then some { draft with stage := .level (position + 1) } else none
  | .level _ => some draft

/-- The draft after characters from a position on. -/
def Draft.read (text : Bytes) : Nat → List Char → Draft → Option Draft
  | _, [], draft => some draft
  | position, c :: rest, draft => do
    Draft.read text (position + c.utf8Size) rest (← draft.step text position c)

/-- The directive that a draft has become at the end of its text. -/
def Draft.finish (text : Bytes) (draft : Draft) : Option Directive :=
  match draft.stage with
  | .word first => do
    let word ← cut text first text.length
    match Threshold.ofText? word with
    | some threshold => some { draft.directive with threshold }
    | none => some { draft.directive with target := some word }
  | .level first => do
    let threshold ← threshold? (← cut text first text.length)
    some { draft.directive with threshold }
  | .place => some draft.directive
  | .start | .span _ | .field _ | .fields => none

/-- The directive that a text stands for. -/
def ofText? (text : List Char) : Option Directive := do
  let bytes := Bytes.ofString (String.ofList text)
  let draft ← Draft.read bytes 0 (Text.trimBy Text.isBlank text) {}
  draft.finish bytes

/-- Whether a directive is about records. One that names a span or a value is about what
happens in spans only. -/
def isGeneral (d : Directive) : Bool :=
  d.span.isNone && d.fields.all fun field => !field.hasValue

/-- Whether a directive concerns records of a target with certain fields. -/
def concerns (d : Directive) (target : String) (fields : List String) : Bool :=
  (d.target.all fun own => own.toList.isPrefixOf target.toList)
    && d.fields.all fun field => fields.contains field.name

/-- Which of two directives says more about what it concerns: the one with the longer
target, or else with more fields, and then the one that is later in the alphabet. -/
def compareDetail (a b : Directive) : Ordering :=
  let length (d : Directive) : Nat := (d.target.map fun own => own.utf8ByteSize + 1).getD 0
  (compare (length a) (length b)).then <|
    (compare a.fields.length b.fields.length).then <|
      (compare (a.target.getD "") (b.target.getD "")).then
        (compare (a.fields.map (·.name)) (b.fields.map (·.name)))

end Directive

end ClusterEvents.Logging
