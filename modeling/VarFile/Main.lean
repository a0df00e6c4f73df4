import VarFile.CommandLine.Run
import VarFile.Editor.Event
import VarFile.Editor.View
import VarFile.Log.Line

/-!
# The program

The outermost layer: the file that a command line names and the configuration folder are read into
a `CommandLine.World`, `CommandLine.run` does the work, and what it changed is written back. The
editor takes one key a line.
-/

namespace VarFile

namespace Program

/-- The numbers of the failures that tell a directory and a missing file. -/
def directoryError : UInt32 := 21

/-- What is found at a path. -/
inductive Found where
  | content (bytes : Bytes)
  | directory
  | missing

/-- Reads what is at a path. -/
def read (path : String) : IO Found := do
  try
    return .content (← IO.FS.readBinFile path).toList
  catch
    | .noFileOrDirectory .. => return .missing
    | .inappropriateType _ code _ =>
      return if code = directoryError then .directory else .missing
    | e => throw e

/-- A path as the file system is asked for it. -/
def pathString (path : Text) : String := path.toString?.getD ""

/-- The directory above a path. -/
def above (path : Text) : String :=
  let directory := (path.reverse.dropWhile fun (c : CodePoint) => c != '/').reverse
  if directory.isEmpty then "." else pathString directory

/-- Adds what is at a path to a tree. -/
def load (t : Files.Tree) (path : Text) : IO Files.Tree := do
  let bytes := path.toBytes
  match ← read (pathString path) with
  | .directory => return (t.makeDirectory bytes).1
  | .content content =>
    let t := (t.makeParents bytes).1
    return (t.put bytes content).toOption.getD t
  | .missing =>
    match ← read (above path) with
    | .directory => return (t.makeParents bytes).1
    | _ => return t

/-- The file at a path of a tree. -/
def fileAt? (t : Files.Tree) (path : Text) : Option Files.File :=
  match t.find path.toBytes with
  | .ok (.file inode) => t.file? inode
  | _ => none

/-- Bytes as an array. -/
def byteArray (bytes : Bytes) : ByteArray := ⟨bytes.toArray⟩

/-- Three permission bits as rights. -/
def rights (bits : Nat) : IO.AccessRight :=
  { read := bits &&& 4 != 0, write := bits &&& 2 != 0, execution := bits &&& 1 != 0 }

/-- Writes the file at a path if it differs between two trees; a new file gets its mode. -/
def store (before after : Files.Tree) (path : Text) : IO Unit := do
  match fileAt? before path, fileAt? after path with
  | some old, some new =>
    if old.content != new.content then
      IO.FS.writeBinFile (pathString path) (byteArray new.content)
  | none, some new =>
    IO.FS.writeBinFile (pathString path) (byteArray new.content)
    IO.setAccessRights (pathString path)
      { user := rights (new.mode / 64), group := rights (new.mode / 8), other := rights new.mode }
  | _, none => return

/-- The configuration folder, if the home directory is known. -/
def configPath? : IO (Option String) := do
  return (← IO.getEnv "HOME").map (· ++ "/.config/shvar/")

/-- Reads a file of the configuration folder. -/
def readConfig (folder : String) (name : Text) : IO (Option Bytes) := do
  match ← read (folder ++ pathString name) with
  | .content bytes => return some bytes
  | _ => return none

/-- Reads the configuration folder. -/
def loadConfig : IO ConfigFolder := do
  match ← configPath? with
  | none => return {}
  | some folder =>
    return {
      config := ← readConfig folder ConfigFolder.configName
      readme := ← readConfig folder ConfigFolder.readmeName
      theme := ← readConfig folder ConfigFolder.themeName }

/-- Writes a file of the configuration folder if it was made or changed. -/
def writeConfig (folder : String) (name : Text) (before after : Option Bytes) : IO Unit := do
  match after with
  | some bytes =>
    if before != after then
      IO.FS.createDirAll folder
      IO.FS.writeBinFile (folder ++ pathString name) (byteArray bytes)
  | none => return

/-- Writes what changed in the configuration folder. -/
def storeConfig (before after : ConfigFolder) : IO Unit := do
  match ← configPath? with
  | none => return
  | some folder =>
    writeConfig folder ConfigFolder.configName before.config after.config
    writeConfig folder ConfigFolder.readmeName before.readme after.readme

/-- Writes a text to a stream. -/
def put (output : IO.FS.Stream) (t : Text) : IO Unit := do
  output.write (byteArray t.toBytes)
  output.flush

/-- Writes lines to a stream. -/
def putLines (output : IO.FS.Stream) (lines : List Text) : IO Unit :=
  put output (lines.flatMap CommandLine.line)

/-- Shows the editor and takes one key a line until it ends or the input does. -/
partial def edit (path : Text) (e : Editor) : IO Unit := do
  putLines (← IO.getStdout) e.lines
  match e.status with
  | .running =>
    let line ← (← IO.getStdin).getLine
    if line.isEmpty then return
    let name := (Text.ofString line).filter fun (c : CodePoint) => c != '\n'
    let next := e.step (.key (KeyPress.ofName name))
    store e.tree next.tree path
    edit path next
  | _ => return

/-- Opens the editor as a command line asked for it. -/
def openEditor (t : Files.Tree) (path : Text) (mode : Int) : IO Unit := do
  match Editor.openAt t path mode with
  | .ok e => edit path e
  | .error cause => putLines (← IO.getStderr) [cause.message]

/-- The path that a command line names. -/
def pathOf? (arguments : List Text) : Option Text := do
  let invocation ← CommandLine.Invocation.parse arguments
  let verb ← invocation.verb
  let found ← verb.form.take {} invocation.rest
  CommandLine.Request.pathOperand? verb found

/-- How the program is called. -/
def usage : List Text :=
  ["Usage: shvar [-v] COMMAND ARGUMENTS", "  get PATH KEY",
    "  set PATH KEY VALUE [--keep-empty] [--mode MODE]", "  unset PATH KEY", "  show PATH",
    "  check PATH", "  escape VALUE", "  unescape TEXT", "  edit PATH [--mode MODE]"]

/-- Carries out a command line on the real files. -/
def run (arguments : List Text) : IO UInt32 := do
  let path := ((pathOf? arguments).map Path.normalized).getD []
  let tree ← if path.isEmpty then pure {} else load {} path
  let config ← loadConfig
  let o := CommandLine.run { tree, config } arguments
  storeConfig config o.world.config
  if !path.isEmpty then store tree o.world.tree path
  put (← IO.getStdout) o.out
  put (← IO.getStderr) o.err
  putLines (← IO.getStderr) (o.events.map Log.Event.line)
  match o.ending with
  | .usage => putLines (← IO.getStderr) usage
  | _ => pure ()
  match o.edit with
  | some (path, mode) => openEditor o.world.tree path mode
  | none => pure ()
  return UInt32.ofNat o.ending.code

end Program

end VarFile

/-- The program. -/
def main (arguments : List String) : IO UInt32 :=
  VarFile.Program.run (arguments.map VarFile.Text.ofString)
