import ClusterEvents.Calendar.Date
import ClusterEvents.Text.Cut

/-!
# Time stamps

A time stamp is a local date and time together with its distance from universal
time. `Stamp.ofText?` reads the internet date and time format: date and time are
separated by `T`, `t` or one space, and the distance is `Z`, `z`, or a sign with hours
and minutes, where the sign may also be a true minus sign. Second sixty is a leap
second, which every minute may have.

`Stamp.utc` moves the date to universal time, and with it the month that a stamp
belongs to.
-/

namespace ClusterEvents.Calendar

/-- A local date and time and its distance from universal time. -/
structure Stamp where
  date : Date
  /-- Minutes since midnight. -/
  minute : Nat
  second : Nat
  /-- Digits behind the point of the second. -/
  fraction : List Nat
  /-- Minutes that local time is ahead of universal time. -/
  ahead : Int
deriving DecidableEq, Repr

namespace Stamp

/-- The value of a decimal digit. -/
def digit? (c : Char) : Option Nat :=
  if '0' ≤ c ∧ c ≤ '9' then some (c.toNat - 48) else none

/-- A number of exactly so many digits, appended to those read before. -/
def readNumber (number : Nat) : Nat → List Char → Option (Nat × List Char)
  | 0, text => some (number, text)
  | _ + 1, [] => none
  | count + 1, c :: rest => do readNumber (number * 10 + (← digit? c)) count rest

/-- A number of two digits from `low` to `high`. -/
def readPair (low high : Nat) (text : List Char) : Option (Nat × List Char) := do
  let (n, rest) ← readNumber 0 2 text
  if low ≤ n ∧ n ≤ high then some (n, rest) else none

/-- Passes over a character. -/
def pass (mark : Char) : List Char → Option (List Char)
  | c :: rest => if c = mark then some rest else none
  | [] => none

/-- A date the calendar has: year, month and day between hyphens. -/
def readDate (text : List Char) : Option (Date × List Char) := do
  let (year, rest) ← readNumber 0 4 text
  let (month, rest) ← readPair 1 12 (← pass '-' rest)
  let (day, rest) ← readPair 1 31 (← pass '-' rest)
  let date : Date := ⟨⟨year, month⟩, day⟩
  if date.Valid then some (date, rest) else none

/-- What stands between date and time. -/
def passSeparator : List Char → Option (List Char)
  | c :: rest => if c = 'T' ∨ c = 't' ∨ c = ' ' then some rest else none
  | [] => none

/-- The digits at the front of a text. -/
def readDigits : List Char → List Nat × List Char
  | [] => ([], [])
  | c :: rest =>
    match digit? c with
    | none => ([], c :: rest)
    | some d =>
      let (ds, rest) := readDigits rest
      (d :: ds, rest)

/-- The digits behind a point, if there is one; there must be at least one then. -/
def readFraction : List Char → Option (List Nat × List Char)
  | '.' :: rest =>
    match readDigits rest with
    | ([], _) => none
    | (digits, rest) => some (digits, rest)
  | text => some ([], text)

/-- Hours and minutes that local time is away from universal time. -/
def readDistance (text : List Char) : Option (Nat × List Char) := do
  let (hours, rest) ← readPair 0 23 text
  let (minutes, rest) ← readPair 0 59 (← pass ':' rest)
  some (hours * 60 + minutes, rest)

/-- Minutes that local time is ahead of universal time. -/
def readAhead : List Char → Option (Int × List Char)
  | [] => none
  | c :: rest =>
    if c = 'Z' ∨ c = 'z' then some (0, rest)
    else if c = '+' then do
      let (distance, rest) ← readDistance rest
      some ((distance : Int), rest)
    else if c = '-' ∨ c = '\u2212' then do
      let (distance, rest) ← readDistance rest
      some (-(distance : Int), rest)
    else none

/-- The time stamp that a text is, from its first character to its last. -/
def ofText? (s : String) : Option Stamp := do
  let (date, rest) ← readDate s.toList
  let (hour, rest) ← readPair 0 23 (← passSeparator rest)
  let (minute, rest) ← readPair 0 59 (← pass ':' rest)
  let (second, rest) ← readPair 0 60 (← pass ':' rest)
  let (fraction, rest) ← readFraction rest
  let (ahead, rest) ← readAhead rest
  if rest.isEmpty then some ⟨date, hour * 60 + minute, second, fraction, ahead⟩ else none

/-- Minutes in a day. -/
def dayMinutes : Int := 1440

/-- Minutes from the midnight of the local date to this time, counted in universal
time; they may lie outside of the day. -/
def utcMinute (s : Stamp) : Int :=
  s.minute - s.ahead

/-- The date in universal time. -/
def utcDate (s : Stamp) : Date :=
  if s.utcMinute < 0 then s.date.previous
  else if s.utcMinute < dayMinutes then s.date
  else s.date.next

/-- The month in universal time. -/
def utcMonth (s : Stamp) : Month :=
  s.utcDate.toMonth

end Stamp

end ClusterEvents.Calendar
