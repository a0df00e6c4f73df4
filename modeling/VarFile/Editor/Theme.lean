import VarFile.ConfigFolder

/-!
# The theme of the editor

The editor starts with the theme last chosen, and stores each theme that it changes to
(specification, sections 10 and 14). Which themes there are and how they look is a matter of the
terminal toolkit.
-/

namespace VarFile

/-- The theme of an editor, and the configuration folder that it is stored in. -/
structure Themed where
  folder : ConfigFolder
  theme : Text
  deriving DecidableEq

namespace Themed

/-- The theme of an editor for which none was chosen. -/
def standard : Text := "textual-dark"

/-- Changes the theme. One that it was already is not stored again. -/
def choose (t : Themed) (theme : Text) : Themed :=
  if theme = t.theme then t else ⟨t.folder.saveTheme theme, theme⟩

/-- The theme at the start: the one last chosen, if there is one with a name. -/
def start (folder : ConfigFolder) : Except ConfigError Themed :=
  match folder.loadTheme with
  | .error e => .error e
  | .ok none => .ok ⟨folder, standard⟩
  | .ok (some theme) =>
    .ok (if theme.isEmpty then ⟨folder, standard⟩ else choose ⟨folder, standard⟩ theme)

end Themed

end VarFile
