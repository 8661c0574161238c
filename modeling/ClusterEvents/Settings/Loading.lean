import ClusterEvents.Files.Tree
import ClusterEvents.Settings.File
import ClusterEvents.Settings.Environment

/-!
# Loading settings

Settings start from their defaults or, if the environment names a settings file, from
what that file says. What the environment says on its own comes on top.
-/

namespace ClusterEvents

namespace Settings

/-- The variable that names the settings file. -/
def fileKey : String := "EVS_CONFIG"

/-- The settings in the file at a path. -/
def ofFile (files : Files) (path : String) : Except SettingsError Settings :=
  match files.readText path with
  | .error fault => .error (.unreadable path fault.message)
  | .ok text =>
    match ofText? text with
    | some s => .ok s
    | none => .error .unparsable

/-- The settings that an environment and the files ask for. -/
def load (env : Environment) (files : Files) : Except SettingsError Settings := do
  let start ← match env.given? fileKey with
    | some path => ofFile files path
    | none => .ok {}
  match start.withEnvironment env with
  | (s, none) => .ok s
  | (_, some e) => .error e

end Settings

namespace SettingsError

/-- What caused the error, in words. -/
def causes : SettingsError → List String
  | .unreadable _ reason => [reason]
  | .unparsable | .invalid .. | .missing _ => []

end SettingsError

end ClusterEvents
