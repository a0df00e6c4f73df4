import VarFile.Document.Update
import VarFile.Files.Tree
import VarFile.Log.Event
import VarFile.Rendering

/-!
# Reading and writing documents

`Storage.openFile` and `createFile` read a document from a file, `writeFile` writes it back in
place. A document from `createFile` holds its file if it may write it, so that it is written there
whatever becomes of the name. Each operation also gives the events to be logged.
-/

namespace VarFile

namespace Storage

/-- The most bytes that are read. Specification, section 7. -/
def maxFileSize : Nat := 10 * 1024 * 1024

/-- The mode that new files are asked for with by default. -/
def defaultMode : Nat := 0o644

/-- What was being done with a file when it failed. -/
inductive Action where
  | read
  | openForWriting
  deriving DecidableEq

/-- How a file could not be read or written. Specification, section 9. -/
inductive Error where
  /-- The file system refused. -/
  | failed (path : Text) (action : Action) (cause : Files.Failure)
  /-- The file has more bytes than are read. -/
  | tooLarge (path : Text)
  /-- The path is none that the file system can be asked for. -/
  | invalidPath (cause : InvalidPath)
  /-- The mode does not fit the argument of the file system. -/
  | modeOutOfRange
  /-- The content has no stored form. -/
  | unstorable (cause : Unstorable)
  deriving DecidableEq

namespace Action

/-- The words for an action. -/
def words : Action → Text
  | read => "read"
  | openForWriting => "open for writing"

end Action

namespace Error

/-- What is told about a failure with a file. -/
def message : Error → Text
  | failed path action cause =>
    "Could not " ++ action.words ++ " file '" ++ path ++ "': " ++ cause.message
  | tooLarge path =>
    "Could not read file '" ++ path ++ "': larger than " ++ Text.ofNat 10 maxFileSize ++ " bytes"
  | invalidPath (.unstorable _) => ""
  | invalidPath .zeroByte => "embedded null byte"
  | modeOutOfRange => "mode out of range"
  | unstorable _ => ""

/-- Whether a failure is one of the file and not of how it was asked for. -/
def isFileError : Error → Bool
  | failed .. | tooLarge _ => true
  | _ => false

end Error

/-- What an operation gave, and the events it logs. -/
structure Logged (α : Type) where
  result : Except Error α
  events : List Log.Event := []

/-- Reads a file that was opened. -/
def readNode (path : Text) (t : Files.Tree) : Files.Node → Except Error (List Record)
  | .directory => .error (.failed path .read .isDirectory)
  | .file inode =>
    let content := ((t.file? inode).map (·.content)).getD []
    if maxFileSize < content.length then .error (.tooLarge path) else .ok (Record.ofBytes content)

/-- A document of a file that was opened, which it may hold. -/
def load (path : Text) (t : Files.Tree) (node : Files.Node) (descriptor : Option Nat) :
    Logged Document :=
  match readNode path t node with
  | .error e => ⟨.error e, []⟩
  | .ok records =>
    ⟨.ok { fileName := path, records, descriptor },
      [.openedFile path records.length descriptor.isSome]⟩

/-- Reads a document from a file. Specification, section 7. -/
def openFile (t : Files.Tree) (path : Text) : Logged Document :=
  match Path.encode path with
  | .error cause => ⟨.error (.invalidPath cause), []⟩
  | .ok bytes =>
    match t.openToRead bytes with
    | .error cause => ⟨.error (.failed path .read cause), []⟩
    | .ok node => load path t node none

/-- What a document holds of what was opened for it: a file that may be written. -/
def descriptorOf (t : Files.Tree) : Files.Node → Option Nat
  | .directory => none
  | .file inode => if t.mayWrite inode then some inode else none

/-- Reads a document from a file and holds the file if it may also be written; without a file that
can be opened for reading the document has no lines. Specification, section 7. -/
def createFile (t : Files.Tree) (path : Text) : Logged Document :=
  match Path.encode path with
  | .error cause => ⟨.error (.invalidPath cause), []⟩
  | .ok bytes =>
    match t.openToRead bytes with
    | .error cause => ⟨.ok { fileName := path }, [.emptyDocument path cause.message]⟩
    | .ok node => load path t node (descriptorOf t node)

/-- The events logged about the lines of a document that are written as comments. -/
def neutralizing (d : Document) : List Log.Event :=
  d.records.filterMap fun r =>
    match r with
    | .raw text => if Record.isInert text then none else some (.neutralizedLine d.fileName text)
    | .assignment a =>
      match a.value with
      | none => none
      | some text =>
        if Value.isReadable text then none else some (.neutralizedValue d.fileName a.key)

/-- The modes that the file system takes as an argument. -/
def isModeArgument (mode : Int) : Bool := -0x80000000 ≤ mode && mode < 0x80000000

/-- The tree with the file that a document is written to, and its inode number: the file that the
document holds, or the one at its path, made if there is none. -/
def target (t : Files.Tree) (d : Document) (mode : Int) : Except Error (Files.Tree × Nat) :=
  match d.descriptor with
  | some inode => .ok (t, inode)
  | none =>
    match Path.encode d.fileName with
    | .error cause => .error (.invalidPath cause)
    | .ok bytes =>
      if !isModeArgument mode then .error .modeOutOfRange
      else
        match t.openOrCreate bytes mode with
        | .error cause => .error (.failed d.fileName .openForWriting cause)
        | .ok opened => .ok opened

/-- What writing a document leaves. -/
structure Written where
  tree : Files.Tree
  document : Document
  result : Except Error Unit
  events : List Log.Event := []

/-- Writes a document back if it was changed; the mode is used if the file has to be made.
Specification, section 7. -/
def writeFile (t : Files.Tree) (d : Document) (mode : Int) : Written :=
  if !d.modified then ⟨t, d, .ok (), []⟩
  else
    match target t d mode with
    | .error e => ⟨t, d, .error e, []⟩
    | .ok (t, inode) =>
      let d := { d with descriptor := some inode }
      match d.content with
      | .error cause => ⟨t, d, .error (.unstorable cause), neutralizing d⟩
      | .ok content =>
        ⟨t.overwrite inode content, { d with modified := false }, .ok (),
          neutralizing d ++ [.wroteFile d.fileName d.rendered.length content.length]⟩

/-- Lets go of the file that a document holds. Specification, section 8. -/
def close (d : Document) : Document := { d with descriptor := none }

end Storage

namespace Document

/-- The event logged when a value is looked up whose stored text stands for none. -/
def lookupEvents (d : Document) (key : Text) : List Log.Event :=
  match d.malformed? key with
  | some cause => [.undecodableValue d.fileName key cause.message]
  | none => []

end Document

end VarFile
