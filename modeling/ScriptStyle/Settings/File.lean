import ScriptStyle.Files.Disk
import ScriptStyle.Json.Message
import ScriptStyle.Settings.Json
import ScriptStyle.Settings.Yaml

/-!
# Settings files

The extension of a file says how it is written. A file without anything in it holds the defaults.
A directory is searched for a settings file under three names.
-/

namespace ScriptStyle

/-- How settings are written down. -/
inductive SettingsFormat where
  | yaml | json
deriving DecidableEq, Repr

namespace SettingsFormat

/-- The format that the extension of a path stands for. -/
def ofPath? (path : Text) : Option SettingsFormat :=
  match (Path.extension? path).map fun ext => String.ofList (Path.lower ext) with
  | some "yaml" | some "yml" => some yaml
  | some "json" => some json
  | _ => none

/-- Nothing is written in a text: it has only blanks, and for YAML also comments and the marks that
begin documents. -/
def isBlank (f : SettingsFormat) (t : Text) : Bool :=
  match f with
  | yaml => t.lines.all fun line =>
      let line := Yaml.trimmed line
      line.isEmpty || line.head? = some '#' || line = ['-', '-', '-']
  | json => t.all Characters.isWhiteSpace

end SettingsFormat

/-- Why settings could not be had. -/
inductive SettingsError where
  | unreadable (path : Text) (error : ReadError)
  | badYaml (path : Text)
  | badJson (path : Text) (error : Json.Error)
  | unknownFormat (path : Text)

namespace SettingsError

/-- The path of the file. -/
def path : SettingsError → Text
  | unreadable p _ => p
  | badYaml p => p
  | badJson p _ => p
  | unknownFormat p => p

/-- What is said about the error. -/
def message : SettingsError → Text
  | unreadable p e =>
    "failed to read configuration '".toList ++ p ++ "': ".toList ++ e.message
  | badYaml p => "invalid YAML configuration '".toList ++ p ++ ['\'']
  | badJson p e =>
    "invalid JSON configuration '".toList ++ p ++ "': ".toList ++ e.message
  | unknownFormat p =>
    "unsupported configuration format '".toList ++ p ++
      "': expected .yaml, .yml or .json".toList

end SettingsError

namespace Settings

/-- The settings in a text, which errors call by a path. -/
def ofText (t : Text) (f : SettingsFormat) (path : Text) : Except SettingsError Settings :=
  if f.isBlank t then .ok Settings.default
  else match f with
    | .yaml => match ofYaml? t with
      | some s => .ok s
      | none => .error (.badYaml path)
    | .json => match ofJson t with
      | .ok s => .ok s
      | .error e => .error (.badJson path e)

/-- The names of settings files, the ones to be preferred first. -/
def fileNames : List String := ["jsstyle.yaml", "jsstyle.yml", "jsstyle.json"]

variable {m : Type → Type} [Monad m]

/-- The first of some paths that names a file. -/
def firstFile (disk : Disk m) : List Text → m (Option Text)
  | [] => return none
  | p :: ps => do
    if (← disk.kind p) = some .file then return some p else firstFile disk ps

/-- The settings file of a directory. -/
def discover (disk : Disk m) (directory : Text) : m (Option Text) :=
  firstFile disk (fileNames.map fun n => Path.join directory n.toList)

/-- The settings in a file. -/
def load (disk : Disk m) (path : Text) : m (Except SettingsError Settings) := do
  match SettingsFormat.ofPath? path with
  | none => return .error (.unknownFormat path)
  | some f =>
    match ← disk.read path with
    | .error e => return .error (.unreadable path e)
    | .ok t => return ofText t f path

end Settings

end ScriptStyle
