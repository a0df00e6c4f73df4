import VarFile.CommandLine.Arguments
import VarFile.CommandLine.Table
import VarFile.ConfigFolder
import VarFile.Log.Configuration
import VarFile.Text.ControlSequence
import VarFile.Variable

/-!
# Running a command line

`CommandLine.run` reads the settings, carries out one command on the files, and tells what it
printed, how it ended and what it logged to standard error.
-/

namespace VarFile.CommandLine

/-- What a command line works on: the files that paths lead to from the working directory, and what
the program keeps for itself. Absolute paths and those below the home directory lead out of the tree;
the program makes nothing there but its configuration folder and its log files. -/
structure World where
  tree : Files.Tree := {}
  /-- The configuration folder, if it lies outside the tree. -/
  config : ConfigFolder := {}
  /-- The path of the configuration folder, if it lies in the tree. -/
  folder? : Option Bytes := none
  /-- The log files at absolute paths and below the home directory that were made. -/
  logFiles : List Text := []
  deriving DecidableEq

/-- Reads the settings. What has to be made for this is made in the configuration folder, wherever it
is. -/
def World.loadSettings (w : World) : World × Except ConfigError Settings :=
  match w.folder? with
  | none =>
    let (config, settings) := w.config.loadSettings
    ({ w with config }, settings)
  | some folder =>
    let (tree, settings) := ConfigFolder.loadIn w.config.maxDepth w.tree folder
    ({ w with tree }, settings)

/-- A failure that no message of the program covers. -/
inductive Fault where
  /-- A value or path has no stored form. -/
  | unstorableValue
  | invalidPath (cause : InvalidPath)
  | modeOutOfRange
  | unstorableContent
  | config (cause : ConfigError)
  | logFile (cause : Files.Failure)
  deriving DecidableEq

/-- How a command line ends. -/
inductive Ending where
  | success
  /-- The command refused, with a message. -/
  | failure
  /-- The command line cannot be understood. -/
  | usage
  | fault (cause : Fault)
  deriving DecidableEq

/-- The exit code of an ending. -/
def Ending.code : Ending → Nat
  | success => 0
  | failure | fault _ => 1
  | usage => 2

/-- What a command line did. -/
structure Outcome where
  world : World
  ending : Ending := .success
  out : Text := []
  err : Text := []
  /-- The events logged to standard error. -/
  events : List Log.Event := []
  /-- The path and mode that the editor was opened with. -/
  edit : Option (Text × Int) := none

/-- A line of output. -/
def line (t : Text) : Text := t ++ [CodePoint.ofChar '\n']

/-- A line as it is printed, to something that is no terminal. -/
def printed (t : Text) : Text := line t.withoutControls

namespace Outcome

/-- Ends with a message on standard error. -/
def fail (o : Outcome) (message : Text) : Outcome :=
  { o with ending := .failure, err := o.err ++ printed message }

/-- Ends with a failure that has no message. -/
def faulty (o : Outcome) (cause : Fault) : Outcome := { o with ending := .fault cause }

/-- Prints a line. -/
def print (o : Outcome) (t : Text) : Outcome := { o with out := o.out ++ printed t }

/-- Prints a line of a table, control sequences included. -/
def draw (o : Outcome) (t : Text) : Outcome := { o with out := o.out ++ line t }

/-- Adds events as far as they are logged to standard error. -/
def log (o : Outcome) (c : Log.Configuration) (events : List Log.Event) : Outcome :=
  if c.sink = .standardError then { o with events := o.events ++ c.filter events } else o

/-- Ends as a failure with a file does. -/
def storageError (o : Outcome) : Storage.Error → Outcome
  | .invalidPath cause => o.faulty (.invalidPath cause)
  | .modeOutOfRange => o.faulty .modeOutOfRange
  | .unstorable _ => o.faulty .unstorableContent
  | e => o.fail e.message

/-- Goes on with the settings, or with the defaults and a message if they cannot be used. -/
def withSettings (o : Outcome) (next : Outcome → Settings → Outcome) : Outcome :=
  let (world, settings) := o.world.loadSettings
  let o := { o with world }
  match settings with
  | .ok settings => next o settings
  | .error e =>
    if e.isContained then
      next { o with err := o.err ++ printed ("Ignoring config: " ++ e.message) } {}
    else o.faulty (.config e)

/-- Goes on with what a file operation gave, after its events were logged. -/
def withLogged {α : Type} (o : Outcome) (c : Log.Configuration) (l : Storage.Logged α)
    (next : Outcome → α → Outcome) : Outcome :=
  let o := o.log c l.events
  match l.result with
  | .ok a => next o a
  | .error e => o.storageError e

/-- Goes on if a key is valid. -/
def withKey (o : Outcome) (key : Text) (next : Outcome → Outcome) : Outcome :=
  match Key.check key with
  | .ok () => next o
  | .error e => o.fail e.message

/-- Goes on with the mode that an option gives, or that of the settings if it is empty. -/
def withMode (o : Outcome) (mode : Text) (settings : Settings) (next : Outcome → Int → Outcome) :
    Outcome :=
  if mode.isEmpty then next o settings.fileMode
  else
    match Settings.octal? mode with
    | some n => next o n
    | none => { o with ending := .usage }

/-- Writes a document back. -/
def write (o : Outcome) (c : Log.Configuration) (d : Document) (mode : Int) : Outcome :=
  let w := Storage.writeFile o.world.tree d mode
  let o := { o with world := { o.world with tree := w.tree } }.log c w.events
  match w.result with
  | .ok () => o
  | .error e => o.storageError e

end Outcome

/-- Prints the value of a key. Specification, section 13. -/
def runGet (o : Outcome) (c : Log.Configuration) (path key : Text) : Outcome :=
  o.withKey key fun o =>
  o.withLogged c (Storage.openFile o.world.tree path) fun o d =>
  let o := o.log c (d.lookupEvents key)
  match d.value? key with
  | .ok (some value) => o.print value
  | _ => o.fail (key ++ " is not set in " ++ path)

/-- Stores the value of a key. Specification, section 13. -/
def runSet (o : Outcome) (c : Log.Configuration) (path key value : Text) (keepEmpty : Bool)
    (mode : Text) : Outcome :=
  o.withKey key fun o =>
  o.withSettings fun o settings =>
  o.withMode mode settings fun o mode =>
  o.withLogged c (Storage.createFile o.world.tree path) fun o d =>
  match if keepEmpty then d.set key (some value) else d.setNonempty key (some value) with
  | (d, .ok ()) => o.write c d mode
  | (_, .error _) => o.faulty .unstorableValue

/-- Deletes the value of a key. Specification, section 13. -/
def runUnset (o : Outcome) (c : Log.Configuration) (path key : Text) : Outcome :=
  o.withKey key fun o =>
  o.withLogged c (Storage.createFile o.world.tree path) fun o d =>
  o.withSettings fun o settings =>
  o.write c (d.unset key).1 settings.fileMode

/-- Prints the table of all variables. Specification, section 13. -/
def runShow (o : Outcome) (c : Log.Configuration) (path : Text) : Outcome :=
  o.withLogged c (Storage.openFile o.world.tree path) fun o d =>
  let rows := d.variableList.map fun v => (v.key, v.shown)
  (Table.lines path ("Key", "Value") rows).foldl Outcome.draw o

/-- Prints the lines that would be kept as comments, and fails if there are any. Specification,
section 13. -/
def runCheck (o : Outcome) (c : Log.Configuration) (path : Text) : Outcome :=
  o.withLogged c (Storage.openFile o.world.tree path) fun o d =>
  let lines := d.neutralized
  let o := lines.foldl Outcome.print o
  if lines.isEmpty then o
  else
    o.fail (Text.ofNat 10 lines.length ++ " line(s) in " ++ path
      ++ " would be commented out on write")

/-- Prints the stored text of a value. Specification, section 13. -/
def runEscape (o : Outcome) (value : Text) : Outcome :=
  match Value.quote value with
  | .ok text => o.print text
  | .error _ => o.faulty .unstorableValue

/-- Prints the value of a stored text. Specification, section 13. -/
def runUnescape (o : Outcome) (text : Text) : Outcome :=
  match Value.unquote text with
  | .ok value => o.print value
  | .error e => o.fail ("malformed value: " ++ e.message)

/-- Whether the path of a log file leads along the tree: it is not absolute, and not below the home
directory. -/
def isLocal (path : Text) : Bool :=
  let first := (Path.normalized path).head?
  first != some (CodePoint.ofChar '/') && first != some (CodePoint.ofChar '~')

/-- Makes the log file with the directories above it. A log file out of the tree is taken to be one
that can be made. -/
def makeLogFile (w : World) (path : Text) : World × Except Fault Unit :=
  if !isLocal path then ({ w with logFiles := w.logFiles.insert path }, .ok ())
  else
    match Path.encode (Path.normalized path) with
    | .error cause => (w, .error (.invalidPath cause))
    | .ok bytes =>
      match w.tree.makeParents bytes with
      | (tree, .error cause) => ({ w with tree }, .error (.logFile cause))
      | (tree, .ok ()) =>
        match tree.openOrCreate bytes 0o666 with
        | .error cause => ({ w with tree }, .error (.logFile cause))
        | .ok (tree, _) => ({ w with tree }, .ok ())

/-- Where the settings send logs; with `verbose` everything goes to standard error. Specification,
section 11. -/
def configureLog (o : Outcome) (verbose : Bool) (settings : Settings)
    (next : Outcome → Log.Configuration → Outcome) : Outcome :=
  if verbose then next o (.ofName "DEBUG" .standardError)
  else
    match settings.logFile.filter (!·.isEmpty) with
    | none => next o (.ofName settings.logLevel .standardError)
    | some path =>
      match makeLogFile o.world path with
      | (world, .error cause) => { o with world }.faulty cause
      | (world, .ok ()) => next { o with world } (.ofName settings.logLevel .file)

/-- Where the editor logs to if the settings name no file. -/
def editorLogFile : Text := "~/.cache/shvar/shvar.log"

/-- Opens the editor. Its logs always go to a file. Specification, section 13. -/
def runEdit (o : Outcome) (path mode : Text) : Outcome :=
  o.withSettings fun o settings =>
  let logFile := (settings.logFile.filter (!·.isEmpty)).getD editorLogFile
  configureLog o false { settings with logFile := some logFile } fun o _ =>
  o.withMode mode settings fun o mode =>
  match (Storage.createFile o.world.tree path).result with
  | .ok _ => { o with edit := some (path, mode) }
  | .error e => o.storageError e

/-- Carries out a request. -/
def Request.run (o : Outcome) (c : Log.Configuration) : Request → Outcome
  | .help => o
  | .get path key => runGet o c (Path.normalized path) key
  | .set path key value keepEmpty mode => runSet o c (Path.normalized path) key value keepEmpty mode
  | .unset path key => runUnset o c (Path.normalized path) key
  | .show path => runShow o c (Path.normalized path)
  | .check path => runCheck o c (Path.normalized path)
  | .escape value => runEscape o value
  | .unescape text => runUnescape o text
  | .edit path mode => runEdit o (Path.normalized path) mode

/-- Reads the arguments of a command and carries it out. -/
def runVerb (o : Outcome) (c : Log.Configuration) (verb : Verb) (arguments : List Text) : Outcome :=
  match verb.form.take {} arguments with
  | none => { o with ending := .usage }
  | some found =>
    if found.flags.contains helpFlag then Request.help.run o c
    else
      match (Request.pathOperand? verb found).map Path.encode with
      | some (.error cause) => o.faulty (.invalidPath cause)
      | _ =>
        match Request.ofFound verb found with
        | none => { o with ending := .usage }
        | some request => request.run o c

/-- Runs a command line. -/
def run (world : World) (arguments : List Text) : Outcome :=
  let o : Outcome := { world }
  match Invocation.parse arguments with
  | none => { o with ending := .usage }
  | some invocation =>
    match invocation.verb with
    | none => o
    | some verb =>
      o.withSettings fun o settings =>
      configureLog o invocation.verbose settings fun o c =>
      runVerb o c verb invocation.rest

end VarFile.CommandLine
