import ClusterEvents.Settings.Environment

/-!
# How the environment sets up logging

One variable holds a filter. Where it is blank, another one names a level; where that is
blank too, the level is `info`. A third variable chooses the form of records.
-/

namespace ClusterEvents.Logging

/-- The form in which records are shown. -/
inductive Format where
  | json
  | text
deriving DecidableEq, Repr

/-- The variable that holds a filter. -/
def filterKey : String := "RUST_LOG"

/-- The variable that names a level. -/
def levelKey : String := "LOG_LEVEL"

/-- The variable that chooses the form of records. -/
def formatKey : String := "LOG_FORMAT"

/-- The form that an environment asks for. -/
def Format.ofEnvironment (env : Environment) : Format :=
  match (env.given? formatKey).map Text.lowercase with
  | some "text" => .text
  | _ => .json

/-- The text of the filter that an environment asks for. -/
def directives (env : Environment) : String :=
  match env.given? filterKey with
  | some directives => directives
  | none =>
    match env.given? levelKey with
    | some level => Text.lowercase level
    | none => "info"

end ClusterEvents.Logging
