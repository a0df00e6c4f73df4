import VarFile.Key
import VarFile.Text.Blank
import VarFile.Value.Unquote

/-!
# Records

Every line of a file is one record: an assignment, or a raw line that is kept as it is. An
assignment keeps its blanks before the key and its text after `=` unchanged; an assignment without
text is a deleted one, whose place is kept until the file is written.

Here and in the other modules, sections of the specification are those of the full specification of
`shvar`.
-/

namespace VarFile

/-- A line `KEY=value`. Specification, section 3. -/
structure Assignment where
  /-- The key with the blanks before it. -/
  lead : Text
  key : Text
  /-- The stored text after `=`; nothing once the key was deleted. -/
  value : Option Text
  deriving DecidableEq

/-- A line of a file. Specification, section 3. -/
inductive Record where
  | raw (text : Text)
  | assignment (a : Assignment)
  deriving DecidableEq

namespace Assignment

/-- The line of an assignment with a given stored text. -/
def line (a : Assignment) (text : Text) : Text := a.lead ++ CodePoint.ofChar '=' :: text

end Assignment

namespace Record

/-- Reads one line: blanks, a key and `=` make an assignment, anything else is raw. Specification,
section 5. -/
def ofLine (line : Text) : Record :=
  let indent := line.takeWhile CodePoint.isBlank
  let body := line.dropWhile CodePoint.isBlank
  let key := body.takeWhile Key.isPart
  match body.dropWhile Key.isPart with
  | c :: text =>
    if c = '=' ∧ Key.isValid key then .assignment ⟨indent ++ key, key, some text⟩ else .raw line
  | [] => .raw line

/-- The records of the content of a file. -/
def ofBytes (bytes : Bytes) : List Record := (Text.ofBytes bytes).lines.map ofLine

/-- Whether a record is an assignment of a key. -/
def assigns (key : Text) : Record → Bool
  | .raw _ => false
  | .assignment a => a.key == key

/-- The shell skips blank lines and comments. Specification, section 7. -/
def isInert (text : Text) : Bool :=
  match text.dropWhile CodePoint.isBlank with
  | [] => true
  | c :: _ => c = '#'

end Record

end VarFile
