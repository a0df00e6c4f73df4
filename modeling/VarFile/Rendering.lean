import VarFile.Document.Basic

/-!
# Writing a document back

The lines of a file as they are written back. Deleted assignments are left out. A raw line that the
shell would run and an assignment whose text stands for no value are kept as comments; the latter
also leaves its key with an empty value.
-/

namespace VarFile

namespace Record

/-- What starts the comment that a line is kept as. Specification, section 7. -/
def marker : Text := .ofChars ['#', 'N', 'M', ':', ' ']

/-- The lines that a record is written as. Specification, section 7. -/
def rendered : Record → List Text
  | .raw text => if isInert text then [text] else [marker ++ text]
  | .assignment a =>
    match a.value with
    | none => []
    | some text =>
      if Value.isReadable text then [a.line text]
      else [a.key ++ [CodePoint.ofChar '='], marker ++ a.line text]

/-- The line of a record, if it would be kept as a comment. -/
def neutralized? : Record → Option Text
  | .raw text => if isInert text then none else some text
  | .assignment a =>
    match a.value with
    | none => none
    | some text => if Value.isReadable text then none else some (a.line text)

end Record

namespace Document

/-- The lines of a document as they are written. -/
def rendered (d : Document) : List Text := d.records.flatMap Record.rendered

/-- The lines that would be kept as comments, as they are now. -/
def neutralized (d : Document) : List Text := d.records.filterMap Record.neutralized?

/-- Lines as the content of a file: a newline ends each of them. -/
def joinLines (lines : List Text) : Text := lines.flatMap (· ++ [CodePoint.ofChar '\n'])

/-- The content of a file that holds the document. -/
def content (d : Document) : Except Unstorable Bytes := (joinLines d.rendered).encode

end Document

end VarFile
