import VarFile.Editor.Basic

/-!
# Events of the editor

`Editor.step` is what one event does: a key, a click, a text set in a field. Keys go to the dialog
if there is one, else to the search field if it has the focus, else to the table. `Editor.run` gives
the states after each of several events, up to the one that ends the editor.
-/

namespace VarFile

/-- Something that happens to an editor. -/
inductive EditorEvent where
  | key (k : KeyPress)
  /-- A text is set in a field. -/
  | fill (name : FieldName) (text : Text)
  /-- A field gets the focus. -/
  | focus (name : FieldName)
  /-- Enough time passes that the next press is a first one. -/
  | pause
  /-- A click on the row under the cursor, the last of `n` quick ones. That a click on another row
  moves the cursor there first is the table's own doing, like the page keys. -/
  | click (n : Nat)
  /-- A value is stored without the editor. -/
  | storedOutside (key value : Text)
  deriving DecidableEq

namespace Editor

/-- What a key that types a character does at the table. Specification, section 14. -/
def onTableChar (e : Editor) (c : CodePoint) : Editor :=
  match c.toChar? with
  | some 'j' => { e with table := e.table.down }
  | some 'k' => { e with table := e.table.up }
  | some 'g' => e.goFirst
  | some 'G' => { e with table := e.table.toLast }
  | some 'i' => e.askValue
  | some 'o' => e.askNew
  | some 'r' => e.askName
  | some 'd' => e.askDelete
  | some 'u' => e.undo
  | some 'y' => e.copy
  | some 's' => e.askWrite
  | some 'q' => e.askQuit
  | some '/' => e.openSearch
  | some '?' => e.ask .help
  | _ => e

/-- What a key does at the table. -/
def onTable (e : Editor) : KeyPress → Editor
  | .char c => e.onTableChar c
  | .down => { e with table := e.table.down }
  | .up => { e with table := e.table.up }
  | .escape => e.clearSearch
  | _ => e

/-- What a key does in the search field. -/
def onSearch (e : Editor) : KeyPress → Editor
  | .enter => e.backToTable
  | .escape => e.clearSearch
  | k => e.setSearch (e.search.press k)

/-- Shows a dialog after its fields changed. The value of a key is shown as it would be written, so
that one without a stored form ends the editor. -/
def present (e : Editor) (d : Dialog) : Editor :=
  match d with
  | .edit _ _ value =>
    match Value.quote value.content with
    | .ok _ => e.ask d
    | .error cause => (e.ask d).fail (.update (.unstorable cause))
  | _ => e.ask d

/-- Shows a dialog again because a key was refused; a label that cannot be read ends the editor. -/
def refuse (e : Editor) (r : RefusedKey) (d : Dialog) : Editor :=
  match r.label with
  | .ok _ => e.ask d
  | .error cause => (e.ask d).fail (.label cause)

/-- The enter key in a dialog that asks for a text. -/
def submit (e : Editor) : Dialog → Editor
  | .edit key before value => e.submitValue key before value.content
  | .add taken key value false refused => e.ask (.add taken key value.selectAll true refused)
  | .add taken key value true _ =>
    let entered := Dialog.enteredKey key
    match Key.problem? entered taken with
    | some problem =>
      let refused : RefusedKey := ⟨entered, problem⟩
      e.refuse refused (.add taken key.selectAll value false (some refused))
    | none => e.submitNew entered value.content
  | .rename old value taken renamed _ =>
    let entered := Dialog.enteredKey renamed
    if entered = old then e.backToTable
    else
      match Key.problem? entered taken with
      | some problem =>
        let refused : RefusedKey := ⟨entered, problem⟩
        e.refuse refused (.rename old value taken renamed (some refused))
      | none => e.submitName old entered value
  | d => e.ask d

/-- The answer yes to a question. -/
def confirm (e : Editor) : Dialog → Editor
  | .delete key _ _ => e.submitDelete key
  | .quit _ => e.backToTable.exit
  | .save .. => e.backToTable.write
  | d => e.ask d

/-- What a key does in a dialog that asks for a text. -/
def onForm (e : Editor) (d : Dialog) : KeyPress → Editor
  | .escape => e.backToTable
  | .enter => e.submit d
  | k => e.present (d.press k)

/-- What a key does at a question with the buttons yes and no, of which `yes` has the focus. -/
def onQuestion (e : Editor) (d : Dialog) (yes : Bool) : KeyPress → Editor
  | .escape => e.backToTable
  | .enter => if yes then e.confirm d else e.backToTable
  | .left => e.ask (d.focusButton false)
  | .right => e.ask (d.focusButton true)
  | .char c =>
    match c.toChar? with
    | some 'y' => e.confirm d
    | some 'n' => e.backToTable
    | some 'h' => e.ask (d.focusButton false)
    | some 'l' => e.ask (d.focusButton true)
    | some 'q' =>
      match d with
      | .save .. => e.backToTable
      | _ => e
    | _ => e
  | _ => e

/-- What a key does in front of the list of keys. -/
def onHelp (e : Editor) : KeyPress → Editor
  | .escape => e.backToTable
  | .char c =>
    match c.toChar? with
    | some '?' | some 'q' => e.backToTable
    | _ => e
  | _ => e

/-- What a key does. -/
def onKey (e : Editor) (k : KeyPress) : Editor :=
  match e.dialog with
  | none => if e.searchFocused then e.onSearch k else e.onTable k
  | some .help => e.onHelp k
  | some (.delete key line yes) => e.onQuestion (.delete key line yes) yes k
  | some (.quit yes) => e.onQuestion (.quit yes) yes k
  | some (.save summary noted yes) => e.onQuestion (.save summary noted yes) yes k
  | some d => e.onForm d k

/-- Sets a text in a field of the screen, if it is there. -/
def onFill (e : Editor) (name : FieldName) (text : Text) : Editor :=
  match e.dialog with
  | none => if name = .search then e.setSearch (e.search.fill text) else e
  | some d => e.present (d.fill name text)

/-- Moves the focus to a field of the screen, if it is there. -/
def onFocus (e : Editor) (name : FieldName) : Editor :=
  match e.dialog with
  | none => if name = .search then e.focusSearch else e
  | some d => e.ask (d.focus name)

/-- A click closes the list of keys; a double click on the table asks for a value. -/
def onClick (e : Editor) (n : Nat) : Editor :=
  match e.dialog with
  | some .help => e.backToTable
  | some _ => e
  | none => if n = 2 then e.askValue else e

/-- Stores a value without showing it. -/
def storeOutside (e : Editor) (key value : Text) : Editor :=
  let (provider, result) := e.provider.set key value
  let e := { e with provider }
  match result with
  | .ok () => e
  | .error cause => e.fail (.update cause)

/-- What an event does to an editor that runs. -/
def handle (e : Editor) : EditorEvent → Editor
  | .key k => e.onKey k
  | .fill name text => e.onFill name text
  | .focus name => e.onFocus name
  | .pause => { e with deleteArmed := false, firstArmed := false }
  | .click n => e.onClick n
  | .storedOutside key value => e.storeOutside key value

/-- What an event does; an editor that has ended does not change. -/
def step (e : Editor) (event : EditorEvent) : Editor :=
  match e.status with
  | .running => { e with notices := [] }.handle event
  | _ => e

/-- The states after each of several events, up to the end of the editor. -/
def run (e : Editor) : List EditorEvent → List Editor
  | [] => []
  | event :: events =>
    match e.status with
    | .running =>
      let e := e.step event
      e :: e.run events
    | _ => []

/-- The state after several events. -/
def after (e : Editor) (events : List EditorEvent) : Editor := events.foldl step e

end Editor

end VarFile
