import VarFile.Editor.Change
import VarFile.Editor.Field
import VarFile.Key
import VarFile.Text.Cells
import VarFile.Text.Tags

/-!
# Dialogs

What the editor asks in front of the table. A dialog for a new or renamed key also holds the keys
that are taken, and why the key that was entered last was refused.
-/

namespace VarFile

/-- A key that was refused, and why. -/
structure RefusedKey where
  key : Text
  problem : Key.Problem
  deriving DecidableEq

/-- What is told about a refused key. -/
def RefusedKey.message (r : RefusedKey) : Text := r.problem.message r.key

/-- What is shown of that. The key is read as part of a label, so it may hold tags. -/
def RefusedKey.label (r : RefusedKey) : Except TagError Text := r.message.shown.withoutTags

/-- A field of a dialog, or the search field. -/
inductive FieldName where
  | search
  | value
  | newKey
  | newValue
  | renamedKey
  deriving DecidableEq

/-- What is asked in front of the table. -/
inductive Dialog where
  /-- The value of a key, which was `before` when the dialog was opened. -/
  | edit (key before : Text) (value : Field)
  /-- The key and the value of a new variable. -/
  | add (taken : List Text) (key value : Field) (onValue : Bool) (refused : Option RefusedKey)
  /-- Another key for a value. -/
  | rename (key value : Text) (taken : List Text) (renamed : Field) (refused : Option RefusedKey)
  /-- Whether to delete a key, whose line is shown; `yes` if that button has the focus. -/
  | delete (key line : Text) (yes : Bool)
  /-- Whether to quit without writing. -/
  | quit (yes : Bool)
  /-- Whether to write the file; `noted` if some lines would be kept as comments. -/
  | save (summary : List SummaryLine) (noted : Bool) (yes : Bool)
  /-- The list of keys. -/
  | help
  deriving DecidableEq

namespace Dialog

/-- The dialog for a new variable. -/
def ofNew (taken : List Text) : Dialog := .add taken {} {} false none

/-- The dialog for the value of a key, with the whole value selected. -/
def ofValue (key before : Text) : Dialog := .edit key before (Field.ofText before).selectAll

/-- The dialog for another name of a key. -/
def ofRenaming (key value : Text) (taken : List Text) : Dialog :=
  .rename key value (taken.filter (· != key)) (.ofText key) none

/-- A key as it was entered, without the white space around it. -/
def enteredKey (f : Field) : Text := f.content.trim CodePoint.isWhitespace

/-- Sets a field of a dialog, if it is there. -/
def fill (name : FieldName) (text : Text) : Dialog → Dialog
  | .edit key before value =>
    if name = .value then .edit key before (value.fill text) else .edit key before value
  | .add taken key value onValue refused =>
    if name = .newKey then .add taken (key.fill text) value onValue refused
    else if name = .newValue then .add taken key (value.fill text) onValue refused
    else .add taken key value onValue refused
  | .rename key value taken renamed refused =>
    if name = .renamedKey then .rename key value taken (renamed.fill text) refused
    else .rename key value taken renamed refused
  | d => d

/-- Moves the focus to a field of a dialog, if it is there. A field that gets the focus has its
content selected. -/
def focus (name : FieldName) : Dialog → Dialog
  | .add taken key value onValue refused =>
    if name = .newKey ∧ onValue then .add taken key.selectAll value false refused
    else if name = .newValue ∧ !onValue then .add taken key value.selectAll true refused
    else .add taken key value onValue refused
  | d => d

/-- Moves the focus between the buttons of a question. -/
def focusButton (yes : Bool) : Dialog → Dialog
  | .delete key line _ => .delete key line yes
  | .quit _ => .quit yes
  | .save summary noted _ => .save summary noted yes
  | d => d

/-- A key that is pressed in the field with the focus. -/
def press (k : KeyPress) : Dialog → Dialog
  | .edit key before value => .edit key before (value.press k)
  | .add taken key value onValue refused =>
    if onValue then .add taken key (value.press k) onValue refused
    else .add taken (key.press k) value onValue refused
  | .rename key value taken renamed refused => .rename key value taken (renamed.press k) refused
  | d => d

end Dialog

end VarFile
