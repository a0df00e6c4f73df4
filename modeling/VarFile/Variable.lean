import VarFile.Document.Basic

/-!
# Variables

A variable as it is shown: its key and its value, or its stored text if that stands for no value.
-/

namespace VarFile

/-- A key with its value. -/
structure Variable where
  key : Text
  /-- The value; the stored text if the variable is malformed. -/
  value : Text
  malformed : Bool := false
  deriving DecidableEq

namespace Variable

/-- The variable of a key and a stored text. -/
def ofEntry (entry : Text × Text) : Variable :=
  match Value.unquote entry.2 with
  | .ok value => ⟨entry.1, value, false⟩
  | .error _ => ⟨entry.1, entry.2, true⟩

/-- Whether the key or the value holds a text, without regard to case. Specification, section 14. -/
def isMatch (v : Variable) (query : Text) : Bool :=
  let q := query.lower
  Text.isInfix q v.key.lower || Text.isInfix q v.value.lower

/-- The value behind a mark if the variable is malformed. -/
def shown (v : Variable) : Text :=
  if v.malformed then ("[ malformed ] " : Text) ++ v.value else v.value

end Variable

/-- The variables of a document, in the order of the lines that count. Specification, section 12. -/
def Document.variableList (d : Document) : List Variable := d.entries.map Variable.ofEntry

end VarFile
