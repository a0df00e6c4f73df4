import VarFile.Editor.Dialog
import VarFile.Editor.Table
import VarFile.Provider
import VarFile.Text.Markup

/-!
# The editor

The editor of one file. Changes go into the document at once; each of them keeps the state of the
document before it, so that `Editor.undo` can go back. The file is only changed by `Editor.write`.
The table shows the document as it was at the last `Editor.refresh`.
-/

namespace VarFile

/-- A change and the state of the document before it. -/
structure Staged where
  change : Change
  before : Checkpoint
  deriving DecidableEq

/-- A message that is shown for a while. -/
structure Notice where
  text : Text
  isError : Bool := false
  deriving DecidableEq

/-- A failure that ends the editor. -/
inductive EditorFailure where
  | update (cause : UpdateError)
  | storage (cause : Storage.Error)
  | label (cause : TagError)
  deriving DecidableEq

/-- Whether an editor runs, and if not, how it ended. -/
inductive EditorStatus where
  | running
  | closed
  | failed (cause : EditorFailure)
  deriving DecidableEq

/-- An editor of one file. Specification, section 14. -/
structure Editor where
  tree : Files.Tree
  provider : Provider
  /-- The variables of the document at the last refresh. -/
  listed : List Variable := []
  /-- Those of them that match the search. -/
  table : Table := {}
  /-- The number of changes that was shown at the last refresh. -/
  unsaved : Nat := 0
  /-- The changes that were not written yet, the latest first. -/
  staged : List Staged := []
  search : Field := {}
  searchShown : Bool := false
  searchFocused : Bool := false
  /-- The first of two presses that delete was made. -/
  deleteArmed : Bool := false
  /-- The first of two presses that go to the first row was made. -/
  firstArmed : Bool := false
  clipboard : Text := []
  dialog : Option Dialog := none
  /-- The messages of the last event. -/
  notices : List Notice := []
  status : EditorStatus := .running

namespace Editor

/-- Shows a message. -/
def notify (e : Editor) (text : Text) : Editor := { e with notices := e.notices ++ [⟨text, false⟩] }

/-- Shows a message about a failure. -/
def notifyError (e : Editor) (text : Text) : Editor :=
  { e with notices := e.notices ++ [⟨text, true⟩] }

/-- Ends the editor with a failure. -/
def fail (e : Editor) (cause : EditorFailure) : Editor := { e with status := .failed cause }

/-- Ends the editor. -/
def exit (e : Editor) : Editor := { e with status := .closed }

/-- Whether the document differs from the file. -/
def isModified (e : Editor) : Bool := e.provider.document.modified

/-- Whether changes are shown as not written. -/
def isDirty (e : Editor) : Bool := e.unsaved != 0

/-- Shows the document as it is now. -/
def refresh (e : Editor) : Editor :=
  let listed := e.provider.variableList
  { e with
    listed
    table := e.table.load (listed.filter (·.isMatch e.search.content))
    unsaved := e.staged.length }

/-- The key of the row with the cursor. -/
def highlightedKey? (e : Editor) : Option Text := e.table.highlighted?.map (·.key)

/-- The value of a key of the document. -/
def valueOf? (e : Editor) (key : Text) : Option Text := (e.provider.value? key).toOption.join

/-- The keys that a new variable cannot have. -/
def takenKeys (e : Editor) : List Text := e.listed.map (·.key)

/-- Opens a dialog. -/
def ask (e : Editor) (d : Dialog) : Editor := { e with dialog := some d }

/-- Closes the dialog and goes back to the table. -/
def backToTable (e : Editor) : Editor := { e with dialog := none, searchFocused := false }

/-- Makes a change and keeps the state of the document before it. -/
def stage (e : Editor) (change : Change) (apply : Provider → Provider × Except UpdateError Unit)
    (done : Text) : Editor :=
  let before := e.provider.checkpoint
  let (provider, result) := apply e.provider
  match result with
  | .ok () =>
    ({ e with provider, staged := ⟨change, before⟩ :: e.staged }.refresh).notify done
  | .error (.invalidKey cause) =>
    { e with provider := provider.restore before }.notifyError cause.message.escapedMarkup
  | .error cause => { e with provider }.fail (.update cause)

/-- Takes back the last change that was not written. Specification, section 14. -/
def undo (e : Editor) : Editor :=
  match e.staged with
  | [] => e.notify "Nothing to undo"
  | last :: staged =>
    ({ e with provider := e.provider.restore last.before, staged }.refresh).notify
      ("Undid change to " ++ last.change.key)

/-- Writes the file. Specification, section 14. -/
def write (e : Editor) : Editor :=
  let w := Provider.save e.tree e.provider
  let e := { e with tree := w.tree, provider := { e.provider with document := w.document } }
  match w.result with
  | .ok () =>
    ({ e with staged := [] }.refresh).notify ("Wrote " ++ e.provider.path : Text).escapedMarkup
  | .error cause =>
    if cause.isFileError then e.notifyError ("Write failed: " ++ cause.message : Text).escapedMarkup
    else e.fail (.storage cause)

/-- The changes that were not written, in the order they were made. -/
def changes (e : Editor) : List Change := (e.staged.map (·.change)).reverse

/-- Gives the search field another state, and shows what matches if its content changed. -/
def setSearch (e : Editor) (f : Field) : Editor :=
  let changed := f.content != e.search.content
  let e := { e with search := f }
  if changed then e.refresh else e

/-- Moves the focus to the search field. -/
def focusSearch (e : Editor) : Editor :=
  if e.searchFocused then e else { e with search := e.search.selectAll, searchFocused := true }

/-- Shows the search field and moves the focus there. -/
def openSearch (e : Editor) : Editor := { e with searchShown := true }.focusSearch

/-- Empties and hides the search field. -/
def clearSearch (e : Editor) : Editor :=
  { e.setSearch (e.search.fill []) with searchShown := false, searchFocused := false }

/-- Copies the value under the cursor. Specification, section 14. -/
def copy (e : Editor) : Editor :=
  match e.table.copied? with
  | none => e.notify "Nothing to copy"
  | some value => { e with clipboard := value }.notify "Copied value to clipboard"

/-- Asks for another value of the row with the cursor. -/
def askValue (e : Editor) : Editor :=
  match e.highlightedKey? with
  | none => e
  | some key => e.ask (.ofValue key ((e.valueOf? key).getD []))

/-- Asks for a new variable. -/
def askNew (e : Editor) : Editor := e.ask (.ofNew e.takenKeys)

/-- Asks for another key of the row with the cursor, if its value can be read. -/
def askName (e : Editor) : Editor :=
  match e.highlightedKey? with
  | none => e
  | some key =>
    match e.valueOf? key with
    | none => e.notifyError (key ++ " has no readable value to move")
    | some value => e.ask (.ofRenaming key value e.takenKeys)

/-- Asks whether to delete the row with the cursor, on the second of two presses. Specification,
section 14. -/
def askDelete (e : Editor) : Editor :=
  if !e.deleteArmed then { e with deleteArmed := true }
  else
    let e := { e with deleteArmed := false }
    match e.highlightedKey? with
    | none => e
    | some key =>
      let stored := (e.provider.document.stored? key).getD []
      e.ask (.delete key (key ++ "=" ++ stored) false)

/-- Asks whether to write the file, if there is something to write. Specification, section 14. -/
def askWrite (e : Editor) : Editor :=
  if !e.isModified then e.notify "No changes to save"
  else
    let neutralized := e.provider.document.neutralized
    e.ask (.save (Change.summary e.changes neutralized) (!neutralized.isEmpty) false)

/-- Quits, after a question if something was not written. Specification, section 14. -/
def askQuit (e : Editor) : Editor := if e.isModified then e.ask (.quit false) else e.exit

/-- Goes to the first row on the second of two presses. -/
def goFirst (e : Editor) : Editor :=
  if e.firstArmed then { e with firstArmed := false, table := e.table.toFirst }
  else { e with firstArmed := true }

/-- Stores the value that was entered for a key. -/
def submitValue (e : Editor) (key before value : Text) : Editor :=
  let e := e.backToTable
  if value = before then e
  else
    e.stage { kind := .set, key, value, previous := some before } (·.set key value)
      ("Updated " ++ key)

/-- Stores a new variable. -/
def submitNew (e : Editor) (key value : Text) : Editor :=
  e.backToTable.stage { kind := .set, key, value } (·.set key value) ("Added " ++ key)

/-- Moves a value to another key. -/
def submitName (e : Editor) (old new value : Text) : Editor :=
  e.backToTable.stage { kind := .renamed, key := new, value, formerKey := some old }
    (·.rename old new value) ("Renamed " ++ old ++ " to " ++ new)

/-- Deletes a key. -/
def submitDelete (e : Editor) (key : Text) : Editor :=
  e.backToTable.stage { kind := .deleted, key, value := (e.valueOf? key).getD [] } (·.delete key)
    ("Deleted " ++ key)

/-- An editor for a path; the mode is used if the file has to be made. -/
def openAt (tree : Files.Tree) (path : Text) (mode : Int) : Except Storage.Error Editor :=
  (Provider.openAt tree path mode).result.map fun provider => { tree, provider : Editor }.refresh

/-- Taking back a change leaves the records and the flag as they were before it. -/
theorem checkpoint_undo_stage {e : Editor} {change : Change}
    {apply : Provider → Provider × Except UpdateError Unit} {done : Text}
    (h : (apply e.provider).2 = .ok ()) :
    (e.stage change apply done).undo.provider.checkpoint = e.provider.checkpoint := by
  unfold stage
  rw [show apply e.provider = ((apply e.provider).1, .ok ()) from by rw [← h]]
  rfl

end Editor

end VarFile
