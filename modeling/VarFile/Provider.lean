import VarFile.Storage
import VarFile.Variable

/-!
# Providers

A provider gives and stores the values of one file. Its document is held in memory until it is
saved; a missing file counts as empty and is made with the provider's mode by the first save.
-/

namespace VarFile

/-- The values of one file. Specification, section 12. -/
structure Provider where
  /-- The path as it is shown. -/
  path : Text
  /-- The mode of the file if it has to be made. -/
  mode : Int := Storage.defaultMode
  document : Document
  deriving DecidableEq

namespace Provider

/-- Opens a provider for a path. -/
def openAt (t : Files.Tree) (path : Text) (mode : Int) : Storage.Logged Provider :=
  let path := Path.normalized path
  let l := Storage.createFile t path
  ⟨l.result.map fun document => { path, mode, document }, l.events⟩

/-- The variables of the file. -/
def variableList (p : Provider) : List Variable := p.document.variableList

/-- The value of a key, empty or not. -/
def value? (p : Provider) (key : Text) : Except InvalidKey (Option Text) := p.document.value? key

/-- Stores a value; an empty one is kept. -/
def set (p : Provider) (key value : Text) : Provider × Except UpdateError Unit :=
  let (document, result) := p.document.set key (some value)
  ({ p with document }, result)

/-- Deletes the value of a key. -/
def delete (p : Provider) (key : Text) : Provider × Except UpdateError Unit :=
  let (document, result) := p.document.unset key
  ({ p with document }, result)

/-- Stores a value under another key in place of the one it had. -/
def rename (p : Provider) (old new value : Text) : Provider × Except UpdateError Unit :=
  match p.delete old with
  | (p, .ok ()) => p.set new value
  | (p, .error e) => (p, .error e)

/-- Captures the records and the flag of the document. -/
def checkpoint (p : Provider) : Checkpoint := p.document.checkpoint

/-- Puts back the records and the flag of the document. -/
def restore (p : Provider) (c : Checkpoint) : Provider :=
  { p with document := p.document.restore c }

/-- Writes the changes to the file. -/
def save (t : Files.Tree) (p : Provider) : Storage.Written :=
  Storage.writeFile t p.document p.mode

end Provider

end VarFile
