import VarFile.Text.Blank
import VarFile.Text.Cluster

/-!
# Lines of a width

How a text is broken into lines that fit into a width: between words where that is possible, inside
a word only if it is longer than a line.
-/

namespace VarFile

namespace Text

/-- A text without white space at its end. -/
def trimRight (t : Text) : Text := (t.reverse.dropWhile CodePoint.isWhitespace).reverse

/-- The cells of the longest line of a text. -/
def longestLine (t : Text) : Nat :=
  (t.linesAt CodePoint.isLineEnd).foldl (fun n line => max n line.cells) 0

/-- How far apart tab stops are. -/
def tabWidth : Nat := 8

/-- A part of a line with blanks after it, at least one, up to the next tab stop. -/
def toTabStop (part : Text) : Text :=
  let part := part ++ spaces 1
  part ++ spaces ((tabWidth - part.cells % tabWidth) % tabWidth)

/-- The parts of a line between tabs with blanks for these. -/
def joinAtTabStops : List Text → Text
  | [] => []
  | [last] => last
  | part :: rest => toTabStop part ++ joinAtTabStops rest

/-- A line with its tabs as blanks up to the next tab stop. -/
def expandTabs (line : Text) : Text := joinAtTabStops (line.splitOn '\t')

/-- The words of a line, each with the white space after it, and the first one also with what is
before it. `current` is the word being read and `state` tells how far: 0 before it, 1 in it, 2
after it. -/
def wordsFrom (done : List Text) (current : Text) (state : Nat) : Text → List Text
  | [] => (if state = 0 then done else current.reverse :: done).reverse
  | c :: rest =>
    if c.isWhitespace then
      wordsFrom done (c :: current) (if state = 0 then 0 else 2) rest
    else if state = 2 then wordsFrom (current.reverse :: done) [c] 1 rest
    else wordsFrom done (c :: current) 1 rest

/-- The words of a line. -/
def words (line : Text) : List Text := wordsFrom [] [] 0 line

/-- The lines so far, the last one first and separately, and how many cells its words take. -/
structure Filling where
  done : List Text := []
  current : Text := []
  used : Nat := 0
  /-- Whether something was placed. -/
  started : Bool := false

namespace Filling

/-- Adds to the last line. -/
def append (f : Filling) (t : Text) (used : Nat) : Filling :=
  { f with current := f.current ++ t, used, started := true }

/-- Starts a line, unless nothing was placed yet. -/
def startLine (f : Filling) (t : Text) (used : Nat) : Filling :=
  if f.started then { done := f.current :: f.done, current := t, used, started := true }
  else f.append t used

/-- Places the next word; `fold` tells whether one that is longer than a line is broken. -/
def place (width : Nat) (fold : Bool) (f : Filling) (word : Text) : Filling :=
  let length := (trimRight word).cells
  if f.used + length ≤ width then f.append word (f.used + word.cells)
  else if width < length then
    if fold then (chop width word).foldl (fun f piece => f.startLine piece piece.cells) f
    else f.startLine word word.cells
  else if f.used = 0 then f.append word f.used
  else f.startLine word word.cells

end Filling

/-- A line without the white space at its end that does not fit into a width. -/
def trimExcess (width : Nat) (line : Text) : Text :=
  let excess := line.length - width
  let blanks := line.length - (trimRight line).length
  line.take (line.length - min excess blanks)

/-- The lines that one line is broken into. -/
def wrapLine (width : Nat) (fold : Bool) (line : Text) : List Text :=
  let line := expandTabs line
  let pieces := words line
  if pieces.isEmpty then [trimExcess width line]
  else
    let f := pieces.foldl (Filling.place width fold) {}
    (f.current :: f.done).reverse.map (trimExcess width)

/-- The lines that a text is broken into. -/
def wrap (width : Nat) (fold : Bool) (t : Text) : List Text :=
  (t.splitOn '\n').flatMap (wrapLine width fold)

end Text

end VarFile
