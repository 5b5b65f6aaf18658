import CallableLookup.Files.Tree
import CallableLookup.Settings.Reader

/-!
# Finding settings

Settings are kept in a file of their own or as a part of the description of a package. The
nearest directory in which something says what the settings are decides.
-/

namespace CallableLookup

/-- Why settings cannot be loaded. -/
inductive SettingsError where
  | unreadable (path : String) (cause : FileError)
  | malformed (path : String) (cause : Json.Failure)
  | packageUnreadable (path : String) (cause : FileError)
  | packageMalformed (path : String) (cause : Json.Failure)
  | packageSettings (path : String) (cause : Json.Cause)

/-- The wording of an error. -/
def SettingsError.message : SettingsError → String
  | unreadable path cause => "failed to read config file: " ++ path ++ ": " ++ cause.message
  | malformed path cause => "failed to parse config file: " ++ path ++ ": " ++ cause.message
  | packageUnreadable path cause => "failed to read " ++ path ++ ": " ++ cause.message
  | packageMalformed path cause => "failed to parse " ++ path ++ ": " ++ cause.message
  | packageSettings path cause => "invalid fnscope config in " ++ path ++ ": " ++ cause.message

/-- The settings in force, and the file they come from if they do not stand by default. -/
structure ActiveSettings where
  settings : Settings
  path : Option String

namespace FileTree

/-- The settings in a file of their own. -/
def loadSettings (t : FileTree) (path : String) : Except SettingsError PartialSettings :=
  match t.readText path with
  | .error cause => .error (.unreadable path cause)
  | .ok text =>
    match PartialSettings.ofText text.toList with
    | .ok settings => .ok settings
    | .error cause => .error (.malformed path cause)

/-- The settings in the description of a package, if it has any. -/
def packageSettings (t : FileTree) (path : String) :
    Except SettingsError (Option PartialSettings) :=
  match t.readText path with
  | .error cause => .error (.packageUnreadable path cause)
  | .ok text =>
    match Json.parse text.toList with
    | .error cause => .error (.packageMalformed path cause)
    | .ok package =>
      match package.get? "fnscope" with
      | none => .ok none
      | some value =>
        match PartialSettings.ofValue value with
        | .ok settings => .ok (some settings)
        | .error cause => .error (.packageSettings path cause)

/-- The names under which settings are kept in files of their own. -/
def settingsNames : List String := [".fnscoperc.json", "fnscope.config.json"]

/-- The name under which a package is described. -/
def packageName : String := "package.json"

/-- The settings in the file with a name in a directory, if there is one. -/
def settingsNamed? (t : FileTree) (dir name : String) :
    Except SettingsError (Option (PartialSettings × String)) :=
  let path := Path.join dir name
  if t.isFile path then
    if name == packageName then do
      return (← t.packageSettings path).map fun settings => (settings, path)
    else do return some (← t.loadSettings path, path)
  else .ok none

/-- The places where settings are looked for, from a directory outwards. -/
def settingsPlaces (dir : String) : List (String × String) :=
  (Path.ancestors dir).flatMap fun d => (settingsNames ++ [packageName]).map fun name => (d, name)

/-- The settings in the first of some places that says what they are. -/
def firstSettings (t : FileTree) :
    List (String × String) → Except SettingsError (Option (PartialSettings × String))
  | [] => .ok none
  | (dir, name) :: places =>
    match t.settingsNamed? dir name with
    | .ok none => t.firstSettings places
    | answer => answer

/-- The settings for a directory. -/
def discoverSettings (t : FileTree) (dir : String) :
    Except SettingsError (Option (PartialSettings × String)) :=
  t.firstSettings (settingsPlaces dir)

/-- The settings in force for a directory, or those in a file that is named. -/
def activeSettings (t : FileTree) (dir : String) (path : Option String) :
    Except SettingsError ActiveSettings :=
  match path with
  | some path => do return ⟨(← t.loadSettings path).resolve, some path⟩
  | none => do
    match ← t.discoverSettings dir with
    | some (settings, path) => return ⟨settings.resolve, some path⟩
    | none => return ⟨PartialSettings.empty.resolve, none⟩

end FileTree

end CallableLookup
