import VarFile.Text.CodePoint

/-!
# Changes and their summary

A change is what was done to one key since the file was written last. Before the file is written
again, `Change.summary` lists the changes and the lines that would be kept as comments.
-/

namespace VarFile

/-- What was done to a key. -/
inductive ChangeKind where
  | set
  | deleted
  | renamed
  deriving DecidableEq

/-- What was done to one key. -/
structure Change where
  kind : ChangeKind
  key : Text
  value : Text := []
  /-- The value before, unless the key is a new one. -/
  previous : Option Text := none
  /-- The name before a renaming. -/
  formerKey : Option Text := none
  deriving DecidableEq

/-- What a line of a summary tells about. -/
inductive SummaryMark where
  | added
  | edited
  | removed
  | renamed
  | commented
  | unchanged
  deriving DecidableEq

/-- A line of a summary. -/
structure SummaryLine where
  mark : SummaryMark
  text : Text
  deriving DecidableEq

/-- The style in which a line of a summary is shown. -/
def SummaryMark.style : SummaryMark → Text
  | added => "green"
  | edited => "blue"
  | removed => "red"
  | renamed => "yellow"
  | commented => "magenta"
  | unchanged => "dim"

namespace Change

/-- What a change did. -/
def mark (c : Change) : SummaryMark :=
  match c.kind with
  | .renamed => .renamed
  | .deleted => .removed
  | .set => if c.previous.isNone then .added else .edited

/-- The line of a summary for a change. -/
def summaryLine (c : Change) : SummaryLine :=
  ⟨c.mark,
    match c.mark with
    | .renamed => "~  " ++ c.formerKey.getD "None" ++ "  →  " ++ c.key
    | .removed => "-  " ++ c.key
    | .added => "+  " ++ c.key
    | _ => "*  " ++ c.key⟩

/-- Whether a change is one of a key, by its name before or after. -/
def concerns (key : Text) (c : Change) : Bool := c.key = key || c.formerKey = some key

/-- The line of a summary for a line that would be kept as a comment. -/
def commentedLine (line : Text) : SummaryLine := ⟨.commented, "!  " ++ line⟩

/-- What is written: the changes in their order, then the lines that would be kept as comments. -/
def summary (changes : List Change) (neutralized : List Text) : List SummaryLine :=
  match changes.map summaryLine ++ neutralized.map commentedLine with
  | [] => [⟨.unchanged, "(no changes)"⟩]
  | lines => lines

/-- A summary has at least one line. -/
theorem summary_ne_nil (changes : List Change) (neutralized : List Text) :
    summary changes neutralized ≠ [] := by
  unfold summary
  split
  · simp
  · next h => simpa using h

end Change

end VarFile
