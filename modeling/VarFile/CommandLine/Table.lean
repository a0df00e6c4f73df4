import VarFile.Text.Wrap

/-!
# Tables

A table of two columns under a title, drawn with lines. A column is as wide as its longest line, a
row as high as its highest cell, and the title stands in the middle above the whole width.
-/

namespace VarFile.CommandLine.Table

/-- The marks of a line between rows: at the left end, between cells, at the right end, and along
cells. -/
structure Rule where
  left : Char
  middle : Char
  right : Char
  along : Char

/-- The line above the head. -/
def topRule : Rule := ⟨'┏', '┳', '┓', '━'⟩

/-- The line below the head. -/
def headRule : Rule := ⟨'┡', '╇', '┩', '━'⟩

/-- The line below the rows. -/
def bottomRule : Rule := ⟨'└', '┴', '┘', '─'⟩

/-- The widths of the two columns without the blanks beside the cells. -/
structure Widths where
  first : Nat
  second : Nat

namespace Widths

/-- The widths for some rows. -/
def ofRows (rows : List (Text × Text)) : Widths :=
  rows.foldl (fun w (a, b) => ⟨max w.first a.longestLine, max w.second b.longestLine⟩) ⟨0, 0⟩

/-- The cells that the whole table takes in a line. -/
def total (w : Widths) : Nat := w.first + w.second + 7

end Widths

/-- A line between rows. -/
def ruleLine (w : Widths) (r : Rule) : Text :=
  let along (n : Nat) : Text := List.replicate (n + 2) (CodePoint.ofChar r.along)
  CodePoint.ofChar r.left :: along w.first ++ CodePoint.ofChar r.middle :: along w.second
    ++ [CodePoint.ofChar r.right]

/-- A line cut to a width, with a mark that something is missing, or with blanks up to it. One more
blank is needed where the line joins the first one to its end. -/
def fit (width : Nat) (line : Text) : Text :=
  let fitted :=
    if width < line.cells then line.cut (width - 1) ++ [CodePoint.ofNat 0x2026]
    else line.padRight width
  fitted.padRight width

/-- The lines of a cell. -/
def cellLines (width : Nat) (cell : Text) : List Text :=
  (Text.wrap width false cell).map (fit width)

/-- One line of a row, with a mark at the ends and between the cells. -/
def rowLine (bar : Char) (a b : Text) : Text :=
  [CodePoint.ofChar bar, ' '] ++ a ++ [CodePoint.ofChar ' ', bar, ' '] ++ b
    ++ [CodePoint.ofChar ' ', bar]

/-- The lines of a row. -/
def rowLines (w : Widths) (bar : Char) (row : Text × Text) : List Text :=
  let first := cellLines w.first row.1
  let second := cellLines w.second row.2
  let height := max first.length second.length
  List.zipWith (rowLine bar)
    (first ++ List.replicate (height - first.length) (Text.spaces w.first))
    (second ++ List.replicate (height - second.length) (Text.spaces w.second))

/-- The lines of a title. -/
def titleLines (w : Widths) (title : Text) : List Text :=
  (Text.wrap w.total true title).map fun line =>
    ((Text.trimRight line).cut w.total).center w.total

/-- The lines of a table with a title, a head and rows. -/
def lines (title : Text) (head : Text × Text) (rows : List (Text × Text)) : List Text :=
  let shownRows := rows.map fun (a, b) => (a.shown, b.shown)
  let w := Widths.ofRows (head :: shownRows)
  titleLines w title.shown
    ++ ruleLine w topRule :: rowLines w '┃' head
    ++ ruleLine w headRule :: shownRows.flatMap (rowLines w '│')
    ++ [ruleLine w bottomRule]

end VarFile.CommandLine.Table
