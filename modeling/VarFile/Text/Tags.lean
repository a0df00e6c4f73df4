import VarFile.Text.Markup
import VarFile.Text.TagItem

/-!
# Labels with tags

A label is read as text with tags in square brackets, which open and close styles and are not shown;
a backslash before a bracket makes it plain text. What looks like a tag and holds something else
than the items of one is shown as it is. `withoutTags_eq_self` says that a text without opening
brackets is shown whole.
-/

namespace VarFile

/-- Why a label cannot be read. -/
inductive TagError where
  /-- A closing tag for a tag that is not open. -/
  | notOpen (tag : Text)
  /-- A closing tag without a name where no tag is open. -/
  | nothingOpen
  /-- Something else than the value of a key. -/
  | notValue (found : Text)
  deriving DecidableEq

/-- What is told about a label that cannot be read. -/
def TagError.message : TagError → Text
  | notOpen tag => "closing tag '[/" ++ tag ++ "]' does not match any open tag"
  | nothingOpen => "auto closing tag ('[/]') has nothing to close"
  | notValue found => "Expected markup value (found " ++ found.quoted ++ ")."

namespace Text

/-- What the words of a tag ask for. -/
structure Styling where
  /-- The styles, and whether they are wanted, the last one first. -/
  chosen : List (Text × Bool) := []
  /-- Whether the next style is wanted; it is not after the word `not`. -/
  wanted : Bool := true
  /-- The keys that are given values. -/
  keys : List Text := []

namespace Styling

/-- The names of styles, and their short names. -/
def names : List (Text × Text) :=
  [("bold", "b"), ("dim", "d"), ("italic", "i"), ("underline", "u"), ("double underline", "uu"),
    ("reverse", "r"), ("strike", "s")]

/-- Notes that a key is given a value. -/
def addKey (s : Styling) (key : Text) : Styling := { s with keys := (s.keys.erase key) ++ [key] }

/-- Takes the next word of a tag, if it is one for a style or for a key. -/
def add? (s : Styling) (word : Text) : Option Styling :=
  if word = ("not" : Text) then some { s with wanted := false }
  else if word = ("on" : Text) then some s
  else if word = ("link" : Text) then some (s.addKey word)
  else
    match TagItem.afterKey? word with
    | some value => some (s.addKey (word.take (word.length - value.length - 1)))
    | none =>
      (names.find? fun (name, short) => word = name ∨ word = short).map fun (name, _) =>
        { s with chosen := (name, s.wanted) :: s.chosen, wanted := true }

/-- The styles in the order of their names, and the keys. -/
def name (s : Styling) : Text :=
  let styles : Text := names.flatMap fun (name, _) =>
    match s.chosen.lookup name with
    | some true => name ++ (" " : Text)
    | some false => ("not " : Text) ++ name ++ (" " : Text)
    | none => []
  styles ++ s.keys.flatMap fun key => key ++ ("=" : Text)

end Styling

/-- The name under which a tag is opened and closed. Tags for the same styles and keys have one
name, others their own text. -/
def tagName (body : Text) : Text :=
  let words := (body.linesAt CodePoint.isWhitespace).filter (· != [])
  match words.foldlM Styling.add? {} with
  | some s => s.name
  | none => body.trim CodePoint.isWhitespace

/-- A tag that is being read. -/
structure PartialTag where
  /-- What was read of it after the bracket and the slash of a closing tag, back to front. -/
  body : Text := []
  closing : Bool := false
  /-- Whether it holds something that does not belong into a tag. -/
  unreadable : Bool := false
  /-- Whether a key was read, so that values follow up to the end of the tag. -/
  inValue : Bool := false
  /-- How many of the next code points belong to the item that was read last. -/
  pending : Nat := 0

/-- What was read of a label. -/
structure TagReader where
  /-- What is shown of it, back to front. -/
  shown : Text := []
  /-- The names of the tags that are open, the last one first. -/
  opened : List Text := []
  tag : Option PartialTag := none

namespace TagReader

/-- Shows a text. -/
def put (r : TagReader) (t : Text) : TagReader := { r with shown := t.reverse ++ r.shown }

/-- Closes the last tag of a name, or the last one of all. -/
def close (r : TagReader) (body : Text) : Except TagError TagReader :=
  let name := tagName body
  match name, r.opened with
  | [], [] => .error .nothingOpen
  | [], _ :: opened => .ok { r with opened }
  | _, opened =>
    if opened.contains name then .ok { r with opened := opened.erase name }
    else .error (.notOpen (body.trim CodePoint.isWhitespace))

/-- Ends a tag; `bracket` is what ends it, and nothing at the end of the label. -/
def endTag (r : TagReader) (tag : PartialTag) (bracket : Text) : Except TagError TagReader :=
  let body := tag.body.reverse
  let r := { r with tag := none }
  if tag.closing then r.close body
  else if tag.unreadable ∨ bracket = [] ∨ body.all CodePoint.isWhitespace then
    .ok (r.put (openBracket :: body ++ bracket))
  else .ok { r with opened := tagName body :: r.opened }

/-- Reads a code point outside of tags. -/
def outside (r : TagReader) (c : CodePoint) : TagReader :=
  if c = openBracket then
    match r.shown with
    | [] => { r with tag := some {} }
    | last :: shown =>
      if last = backslash then { r with shown := c :: shown } else { r with tag := some {} }
  else { r with shown := c :: r.shown }

/-- Reads the first code point of an item of a tag; `rest` is what follows it in the line. -/
def item (tag : PartialTag) (c : CodePoint) (rest : Text) : Except TagError PartialTag :=
  let tag := { tag with body := c :: tag.body }
  let upTo (after : Text) : PartialTag := { tag with pending := rest.length - after.length }
  if tag.inValue then
    match TagItem.afterValuePart? (c :: rest) with
    | some after => .ok (upTo after)
    | none => .error (.notValue ((c :: rest).takeWhile (· != CodePoint.ofChar ';')))
  else
    match TagItem.afterKey? (c :: rest) with
    | some after => .ok { upTo after with inValue := true }
    | none =>
      match TagItem.after? (c :: rest) with
      | some after => .ok (upTo after)
      | none => .ok { tag with unreadable := true }

/-- Reads a code point; `rest` is what follows it in the line. -/
def step (r : TagReader) (c : CodePoint) (rest : Text) : Except TagError TagReader :=
  match r.tag with
  | none => .ok (r.outside c)
  | some tag =>
    if 0 < tag.pending then
      .ok { r with tag := some { tag with body := c :: tag.body, pending := tag.pending - 1 } }
    else if c = '/' ∧ tag.body = [] ∧ !tag.closing then
      .ok { r with tag := some { tag with closing := true } }
    else if c = closeBracket ∧ tag.body.head? ≠ some backslash then r.endTag tag [c]
    else
      match item tag c rest with
      | .ok tag => .ok { r with tag := some tag }
      | .error e => .error e

/-- Reads a line. -/
def line (r : TagReader) : Text → Except TagError TagReader
  | [] => .ok r
  | c :: rest =>
    match r.step c rest with
    | .ok r => r.line rest
    | .error e => .error e

/-- Reads some lines. -/
def lines (r : TagReader) : List Text → Except TagError TagReader
  | [] => .ok r
  | l :: rest =>
    match r.line l with
    | .ok r => r.lines rest
    | .error e => .error e

/-- What is shown of a label at its end. -/
def finish (r : TagReader) : Except TagError Text :=
  match r.tag with
  | none => .ok r.shown.reverse
  | some tag => (r.endTag tag []).map (·.shown.reverse)

end TagReader

/-- The lines of a text with what ends them. No item of a tag goes past the end of a line. -/
def linesWithEnds (t : Text) : List Text :=
  t.foldr
    (fun c ls =>
      if c.isLineEnd then [c] :: ls
      else
        match ls with
        | [] => [[c]]
        | l :: ls => (c :: l) :: ls)
    []

/-- What is shown of a label. -/
def withoutTags (t : Text) : Except TagError Text :=
  match TagReader.lines {} t.linesWithEnds with
  | .ok r => r.finish
  | .error e => .error e

private theorem flatten_linesWithEnds (t : Text) : (linesWithEnds t).flatten = t := by
  induction t with
  | nil => rfl
  | cons c t ih =>
    change (if c.isLineEnd then [c] :: linesWithEnds t
      else match linesWithEnds t with
        | [] => [[c]]
        | l :: ls => (c :: l) :: ls).flatten = c :: t
    split
    · simp [ih]
    · generalize linesWithEnds t = ls at ih
      subst ih
      cases ls <;> simp

private theorem TagReader.line_eq_put {t : Text} (h : openBracket ∉ t) (r : TagReader)
    (hr : r.tag = none) : r.line t = .ok (r.put t) := by
  induction t generalizing r with
  | nil => rfl
  | cons c t ih =>
    simp only [List.mem_cons, not_or] at h
    have hc : ¬ c = openBracket := fun e => h.1 e.symm
    have step : r.step c t = .ok { r with shown := c :: r.shown } := by
      simp [TagReader.step, TagReader.outside, hr, hc]
    rw [TagReader.line, step]
    refine (ih h.2 { r with shown := c :: r.shown } hr).trans ?_
    simp [TagReader.put]

private theorem TagReader.lines_eq_put {ls : List Text} (h : openBracket ∉ ls.flatten)
    (r : TagReader)
    (hr : r.tag = none) : r.lines ls = .ok (r.put ls.flatten) := by
  induction ls generalizing r with
  | nil => rfl
  | cons l ls ih =>
    simp only [List.flatten_cons, List.mem_append, not_or] at h
    rw [TagReader.lines, TagReader.line_eq_put h.1 r hr]
    refine (ih h.2 (r.put l) hr).trans ?_
    simp [TagReader.put]

/-- A text without opening brackets is shown whole. -/
theorem withoutTags_eq_self {t : Text} (h : openBracket ∉ t) : withoutTags t = .ok t := by
  rw [← flatten_linesWithEnds t] at h
  rw [withoutTags, TagReader.lines_eq_put h {} rfl, flatten_linesWithEnds]
  simp [TagReader.put, TagReader.finish]

end Text

end VarFile
