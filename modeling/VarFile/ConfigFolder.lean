import VarFile.Json.Printer
import VarFile.Json.Reader
import VarFile.Settings

/-!
# The configuration folder

The folder with the settings file, a description of it and the theme last chosen. The settings file
and the description are made when the settings are read for the first time. A folder can also be a
directory of a file tree (`ConfigFolder.loadIn`).
-/

namespace VarFile

/-- The files of the configuration folder; nothing for a missing one. Specification, section 10. -/
structure ConfigFolder where
  config : Option Bytes := none
  readme : Option Bytes := none
  theme : Option Bytes := none
  /-- How many arrays and objects of a file may be open around another one for it to be read. -/
  maxDepth : Nat := Json.usualDepth
  deriving DecidableEq

/-- Why settings could not be read. Specification, section 10. -/
inductive ConfigError where
  /-- A file is not valid UTF-8. -/
  | notUtf8
  /-- The file system refused. -/
  | refused (cause : Files.Failure)
  /-- A file is no JSON text. -/
  | notJson (file : Text)
  /-- A file has an integer with more digits than are read. -/
  | tooManyDigits (n : Nat)
  /-- Arrays or objects of a file are nested too deeply. -/
  | tooDeep (array : Bool)
  /-- A file holds something else than an object. -/
  | notObject (file kind : Text)
  /-- Fields cannot be used. -/
  | invalid (problems : List Settings.Problem)
  deriving DecidableEq

namespace ConfigError

/-- What is told about settings that could not be read, without the details of the cause. -/
def message : ConfigError → Text
  | notUtf8 => ""
  | refused cause => cause.message
  | notJson file => file ++ " is not valid JSON"
  | tooManyDigits n => "an integer has " ++ Text.ofNat 10 n ++ " digits"
  | tooDeep array => (if array then ("arrays" : Text) else "objects") ++ " are nested too deeply"
  | notObject file kind => file ++ " must hold a JSON object, not " ++ kind
  | invalid _ => "Invalid config"

/-- Whether the program goes on with the default settings. -/
def isContained : ConfigError → Bool
  | notJson _ | notObject .. | invalid _ => true
  | notUtf8 | refused _ | tooManyDigits _ | tooDeep _ => false

end ConfigError

namespace ConfigFolder

/-- The name of the settings file. -/
def configName : Text := "config.json"

/-- The name of the description. -/
def readmeName : Text := "README.md"

/-- The name of the file with the theme. -/
def themeName : Text := "theme.json"

/-- The content of the description. -/
def readmeText : Text := "# shvar configuration

Edit `config.json` in this directory to change how shvar writes files.

## Schema

```json
\x7b
    \"file_mode\": \"0644\",
    \"log_level\": \"WARNING\",
    \"log_file\": null
\x7d
```

- `file_mode`: permissions (octal) for files shvar has to create.
- `log_level`: DEBUG, INFO, WARNING or ERROR.
- `log_file`: write logs to this file instead of stderr.

Keys prefixed with `_` (e.g. `_comment`) are ignored by shvar.
"

/-- The content of a file with one JSON value. -/
def fileContent (v : Json) : Bytes := (v.indented ++ [CodePoint.ofChar '\n']).toBytes

/-- The members of the object that a file holds; an empty file holds an empty one. -/
def readObject (maxDepth : Nat) (file : Text) (content : Bytes) :
    Except ConfigError (List (Text × Json)) :=
  if !Text.isUtf8 content then .error .notUtf8
  else if content.isEmpty then .ok []
  else
    match Json.parse maxDepth (.ofBytes content) with
    | .error .malformed => .error (.notJson file)
    | .error (.tooManyDigits n) => .error (.tooManyDigits n)
    | .error (.tooDeep array) => .error (.tooDeep array)
    | .ok (.object members) => .ok members
    | .ok v => .error (.notObject file v.kindName)

/-- Members whose names start with an underscore are remarks. -/
def isRemark (name : Text) : Bool := name.head? == some (CodePoint.ofChar '_')

/-- The settings of a settings file. -/
def readSettings (maxDepth : Nat) (content : Bytes) : Except ConfigError Settings :=
  match readObject maxDepth configName content with
  | .error e => .error e
  | .ok members =>
    (Settings.validate (members.filter fun (name, _) => !isRemark name)).mapError .invalid

/-- Makes the settings file, and the description if it is missing. Specification, section 10. -/
def bootstrap (folder : ConfigFolder) : ConfigFolder :=
  { folder with
    config := some (fileContent (.object []))
    readme := some (folder.readme.getD readmeText.toBytes) }

/-- Reads the settings, which are the defaults if there is no settings file yet. Specification,
section 10. -/
def loadSettings (folder : ConfigFolder) : ConfigFolder × Except ConfigError Settings :=
  match folder.config with
  | none => (folder.bootstrap, .ok {})
  | some content => (folder, readSettings folder.maxDepth content)

/-- Reads the name of the theme last chosen, if there is one. Specification, section 10. -/
def loadTheme (folder : ConfigFolder) : Except ConfigError (Option Text) :=
  match folder.theme with
  | none => .ok none
  | some content =>
    match readObject folder.maxDepth themeName content with
    | .error e => if e.isContained then .ok none else .error e
    | .ok members =>
      match Json.member? members "theme" with
      | some (.string t) => .ok (some t)
      | _ => .ok none

/-- Stores the name of a theme. Specification, section 10. -/
def saveTheme (folder : ConfigFolder) (name : Text) : ConfigFolder :=
  { folder with theme := some (fileContent (.object [("theme", .string name)])) }

/-- The files that there are, in the order of their names. -/
def listing (folder : ConfigFolder) : List (Text × Text) :=
  [(readmeName, folder.readme), (configName, folder.config), (themeName, folder.theme)].filterMap
    fun (name, content) => content.map fun bytes => (name, Text.ofBytes bytes)

/-! ### A folder of a file tree -/

/-- The path of a file in a folder. -/
def pathIn (folder : Bytes) (name : Text) : Bytes := folder ++ Path.slash :: name.toBytes

/-- Makes the folder with the settings file, and the description if it is missing. -/
def bootstrapIn (t : Files.Tree) (folder : Bytes) : Files.Tree × Except Files.Failure Unit :=
  match t.makeDirectory folder with
  | (t, .error cause) => (t, .error cause)
  | (t, .ok ()) =>
    match t.put (pathIn folder configName) (fileContent (.object [])) with
    | .error cause => (t, .error cause)
    | .ok t =>
      match t.find (pathIn folder readmeName) with
      | .ok _ => (t, .ok ())
      | .error _ =>
        match t.put (pathIn folder readmeName) readmeText.toBytes with
        | .error cause => (t, .error cause)
        | .ok t => (t, .ok ())

/-- Reads the settings from a folder of the tree, which are the defaults if there is no settings
file yet. -/
def loadIn (maxDepth : Nat) (t : Files.Tree) (folder : Bytes) :
    Files.Tree × Except ConfigError Settings :=
  match t.openToRead (pathIn folder configName) with
  | .ok (.file inode) =>
    (t, readSettings maxDepth (((t.file? inode).map (·.content)).getD []))
  | .ok .directory => (t, .error (.refused .isDirectory))
  | .error cause =>
    if cause = .notFound ∨ cause = .notDirectory then
      match bootstrapIn t folder with
      | (t, .ok ()) => (t, .ok {})
      | (t, .error cause) => (t, .error (.refused cause))
    else (t, .error (.refused cause))

end ConfigFolder

end VarFile
