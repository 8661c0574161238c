import ClusterEvents.Settings.Loading
import ClusterEvents.Logging.Setup
import ClusterEvents.Program.Run

/-!
# What the program looks at

The variables of the environment and the paths of files that the program asks for, and
the time as it counts it. Whoever runs the program has to provide no more than these.
-/

namespace ClusterEvents

/-- The keys of all variables that the program reads. -/
def environmentKeys : List String :=
  [Settings.fileKey, Logging.filterKey, Logging.levelKey, Logging.formatKey]
    ++ Variable.all.map (·.key)

/-- The path of the settings file, if there is one. -/
def settingsPaths (env : Environment) : List String :=
  (env.given? Settings.fileKey).toList

/-- The paths that a run with certain settings asks for. -/
def Settings.paths (s : Settings) : List String :=
  let database := s.snapshots.databasePath
  let addressed := (DatabaseAddress.ofName database).toOption.map (·.path)
  s.source.file.toList ++ database :: addressed.toList

namespace Clock

/-- The milliseconds of a day. -/
def dayMillis : Nat := 24 * 60 * 60 * 1000

/-- The time so many milliseconds after the beginning of 1970. -/
def ofMillis (millis : Nat) : Clock where
  millis := millis
  month := (Calendar.Month.mk 1970 1).after (millis / dayMillis)

end Clock

namespace Files

/-- The directories on the way to a place, from the root down, and the place itself. -/
def way (place : Place) : List Place :=
  (List.range place.length).map fun n => place.take (n + 1)

/-- A place as a path from the root. -/
def pathOf (place : Place) : String :=
  "/" ++ "/".intercalate place

/-- The entries of a tree that are not the same in another one. -/
def changes (before after : Files) : List (Place × Entry) :=
  after.entries.filter fun entry => before.get? entry.1 ≠ some entry.2

end Files

end ClusterEvents
