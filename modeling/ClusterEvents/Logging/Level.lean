import ClusterEvents.Settings.Words

/-!
# Levels

How grave a record is, and from which level upwards records are shown.
-/

namespace ClusterEvents.Logging

/-- How grave a record is. -/
inductive Level where
  | error
  | warn
  | info
  | debug
  | trace
deriving DecidableEq, Repr

namespace Level

/-- The number of a level; less grave levels have higher ones. -/
def number : Level → Nat
  | .error => 1
  | .warn => 2
  | .info => 3
  | .debug => 4
  | .trace => 5

/-- The name of a level as it is shown. -/
def name : Level → String
  | .error => "ERROR"
  | .warn => "WARN"
  | .info => "INFO"
  | .debug => "DEBUG"
  | .trace => "TRACE"

end Level

/-- The highest number of a level that is still shown; nothing is shown at zero. -/
abbrev Threshold := Nat

namespace Threshold

/-- Everything is shown. -/
def everything : Threshold := Level.trace.number

/-- The threshold that a text names, by the name of a level in letters of either case or
by its number. -/
def ofText? (text : String) : Option Threshold :=
  match Words.number? text with
  | some n => if n ≤ everything then some n else none
  | none =>
    match Text.lowercase text with
    | "off" => some 0
    | "error" => some Level.error.number
    | "warn" => some Level.warn.number
    | "info" => some Level.info.number
    | "debug" => some Level.debug.number
    | "trace" => some Level.trace.number
    | _ => none

end Threshold

end ClusterEvents.Logging
