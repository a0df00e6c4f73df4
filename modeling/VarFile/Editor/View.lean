import VarFile.Editor.Basic
import VarFile.Rendering
import VarFile.Text.Numeral

/-!
# What the editor shows

The name of the screen, the title, and the fields and labels of a dialog, each with its name.
-/

namespace VarFile

/-- The names of the fields on the screens. -/
def FieldName.name : FieldName → Text
  | search => "search"
  | value => "edit-value"
  | newKey => "add-key"
  | newValue => "add-value"
  | renamedKey => "rename-key"

/-- All fields. -/
def FieldName.all : List FieldName := [search, value, newKey, newValue, renamedKey]

/-- The field with a name. -/
def FieldName.ofName? (t : Text) : Option FieldName := all.find? (·.name = t)

namespace Dialog

/-- The name of a button with the focus. -/
def buttonName (yes : Bool) : Text := if yes then "confirm-yes" else "confirm-no"

/-- The name of a dialog's screen. -/
def screen : Dialog → Text
  | edit .. => "edit"
  | add .. => "add"
  | rename .. => "rename"
  | delete .. | quit _ => "confirm"
  | save .. => "save"
  | help => "help"

/-- The name of what has the focus. -/
def focusName? : Dialog → Option Text
  | edit .. => some FieldName.value.name
  | add _ _ _ onValue _ => some (if onValue then FieldName.newValue.name else FieldName.newKey.name)
  | rename .. => some FieldName.renamedKey.name
  | delete _ _ yes | quit yes | save _ _ yes => some (buttonName yes)
  | help => none

/-- The fields with their contents. -/
def fields : Dialog → List (FieldName × Text)
  | edit _ _ value => [(.value, value.content)]
  | add _ key value .. => [(.newKey, key.content), (.newValue, value.content)]
  | rename _ _ _ renamed _ => [(.renamedKey, renamed.content)]
  | _ => []

/-- The line that a value would be written as; nothing after the key if it has no stored form. -/
def preview (key value : Text) : Text := key ++ "=" ++ (Value.quote value).toOption.getD []

/-- What is shown of why a key was refused. -/
def refusal (refused : Option RefusedKey) : Text :=
  (refused.bind fun r => r.label.toOption).getD []

/-- The labels with their texts; `path` is that of the file. -/
def labels (path : Text) : Dialog → List (Text × Text)
  | edit key _ value =>
    [("edit-title", "Value of " ++ key), ("edit-preview", (preview key value.content).shown)]
  | add _ _ _ _ refused => [("add-error", refusal refused)]
  | rename old _ _ _ refused =>
    [("rename-title", "Rename  " ++ old ++ "  to"), ("rename-error", refusal refused)]
  | delete key line _ =>
    [("confirm-message", "Delete  " ++ key ++ "?"), ("confirm-detail", line.shown)]
  | quit _ => [("confirm-message", "Discard unsaved changes and quit?")]
  | save _ noted _ =>
    ("confirm-message", ("Write " ++ path ++ "?" : Text).shown)
      :: (if noted then
          [("save-confirm-note",
            ("! lines are kept as comments starting with '" ++ Record.marker ++ "'" : Text))]
        else [])
  | help =>
    [("help-file", (" " ++ path : Text).shown),
      ("help-footnote",
        " Unreadable lines are kept as\n comments starting with '" ++ Record.marker ++ "'.")]

/-- The summary in front of writing. -/
def summary? : Dialog → Option (List SummaryLine)
  | save summary .. => some summary
  | _ => none

end Dialog

namespace Editor

/-- The name of the screen. -/
def screen (e : Editor) : Text := (e.dialog.map Dialog.screen).getD "main"

/-- The path, and how many changes were not written. -/
def title (e : Editor) : Text :=
  e.provider.path
    ++ (if e.unsaved = 0 then ([] : Text)
      else
        "  " ++ Text.ofNat 10 e.unsaved ++ " unsaved change"
          ++ (if 1 < e.unsaved then ("s" : Text) else []))

/-- The name of what has the focus. -/
def focusName? (e : Editor) : Option Text :=
  match e.dialog with
  | some d => d.focusName?
  | none => some (if e.searchFocused then FieldName.search.name else "var-table")

/-- The text of the search field, unless it is hidden. -/
def shownSearch? (e : Editor) : Option Text :=
  if e.searchShown then some e.search.content else none

/-- The rows of the table: number, key and value. -/
def rows (e : Editor) : List (Text × Text × Text) :=
  e.table.rows.zipIdx.map fun (v, i) => (Text.ofNat 10 (i + 1), v.key, v.shown.shown)

/-- The row of the cursor, if there are rows. -/
def cursor? (e : Editor) : Option Nat :=
  if e.table.rows.isEmpty then none else some e.table.cursor

/-- A row of the table as a line, with a mark before that of the cursor. -/
def rowLine (e : Editor) (row : Nat × Text × Text × Text) : Text :=
  let (i, number, key, value) := row
  (if e.cursor? = some i then ("> " : Text) else "  ") ++ number ++ "  " ++ key ++ "  " ++ value

/-- The table, the search and the dialog as lines of text. -/
def lines (e : Editor) : List Text :=
  let search := (e.shownSearch?.map fun t => ("/" : Text) ++ t).toList
  let table := e.rows.zipIdx.map fun (row, i) => e.rowLine (i, row)
  let dialog := (e.dialog.map fun d =>
    (d.labels e.provider.path).map (·.2)
      ++ d.fields.map (fun (_, content) => ("[" : Text) ++ content ++ "]")
      ++ ((d.summary?.getD []).map (·.text))).getD []
  e.title :: search ++ table ++ dialog ++ e.notices.map (·.text)

end Editor

end VarFile
