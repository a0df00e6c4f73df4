import VarFile.Text.CodePoint

/-!
# Input fields

A field holds one text with a cursor in it. What lies between the anchor and the cursor is selected:
what is typed replaces it.
-/

namespace VarFile

/-- A key that is pressed. What the toolkit below the editor binds by itself, such as the tab, the
page keys and the key that closes any program, is no key of the editor. -/
inductive KeyPress where
  /-- A key that types a character. -/
  | char (c : CodePoint)
  | enter
  | escape
  | up
  | down
  | left
  | right
  | home
  | backspace
  /-- A key that neither the editor nor its fields bind. -/
  | other
  deriving DecidableEq

namespace KeyPress

/-- The keys that have a name; the others are named by the character that they type. -/
def named : List (Text × KeyPress) :=
  [("enter", enter), ("escape", escape), ("up", up), ("down", down), ("left", left),
    ("right", right), ("home", home), ("backspace", backspace), ("space", char ' '),
    ("slash", char '/'), ("question_mark", char '?')]

/-- The key with a name. A key of the toolkit's own is taken for one that nothing is bound to: what
it does (move the focus, turn a page, end the program) is not part of the editor. -/
def ofName (name : Text) : KeyPress :=
  match named.lookup name, name with
  | some k, _ => k
  | none, [c] => char c
  | none, _ => other

end KeyPress

/-- A text that is edited at a cursor. -/
structure Field where
  content : Text := []
  /-- The end of the selection where the cursor is not. -/
  anchor : Nat := 0
  cursor : Nat := 0
  /-- Whether the content was never changed from the empty one. -/
  untouched : Bool := true
  deriving DecidableEq

namespace Field

/-- A field with a content, its cursor at the end. -/
def ofText (t : Text) : Field :=
  { content := t, anchor := t.length, cursor := t.length, untouched := t.isEmpty }

/-- Moves the cursor; nothing is selected then. -/
def moveTo (f : Field) (n : Nat) : Field := { f with anchor := n, cursor := n }

/-- Selects the whole content, as is done when a field gets the focus. -/
def selectAll (f : Field) : Field := { f with anchor := 0, cursor := f.content.length }

/-- Where the selection starts. -/
def start (f : Field) : Nat := min f.anchor f.cursor

/-- Where the selection stops. -/
def stop (f : Field) : Nat := max f.anchor f.cursor

/-- Replaces what lies between two places; the cursor is behind the new text then. -/
def replace (f : Field) (start stop : Nat) (t : Text) : Field :=
  let content := f.content.take start ++ t ++ f.content.drop stop
  { content, anchor := start + t.length, cursor := start + t.length,
    untouched := f.untouched && content = f.content }

/-- Gives a field another content. The first one moves the cursor to its end; later ones leave it
where it is as far as they reach. -/
def fill (f : Field) (t : Text) : Field :=
  if t = f.content then f
  else if f.untouched then { ofText t with untouched := false }
  else
    { content := t, anchor := min f.anchor t.length, cursor := min f.cursor t.length,
      untouched := false }

/-- A key that is pressed in a field. -/
def press (f : Field) : KeyPress → Field
  | .char c => f.replace f.start f.stop [c]
  | .backspace =>
    if f.anchor = f.cursor then f.replace (f.cursor - 1) f.cursor []
    else f.replace f.start f.stop []
  | .home => f.moveTo 0
  | .left => f.moveTo (if f.anchor = f.cursor then f.cursor - 1 else f.start)
  | .right => f.moveTo (if f.anchor = f.cursor then min (f.cursor + 1) f.content.length else f.stop)
  | .enter | .escape | .up | .down | .other => f

/-- A field holds the content that it was given. -/
@[simp]
theorem content_fill (f : Field) (t : Text) : (f.fill t).content = t := by
  unfold fill
  split
  · next h => exact h.symm
  · split <;> rfl

/-- What is typed replaces a content that is selected. -/
theorem content_press_selectAll (f : Field) (c : CodePoint) :
    (f.selectAll.press (.char c)).content = [c] := by
  simp [press, selectAll, replace, start, stop]

end Field

end VarFile
