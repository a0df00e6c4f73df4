import VarFile.Document.Basic

/-!
# Changing a document

`Document.set` stores or deletes the value of a key. It first drops all assignments of the key but
the last, which keeps its place; a new key goes to the end. `Document.checkpoint` and `restore`
capture the records and the flag and put them back.
-/

namespace VarFile

/-- Why a value was not stored. -/
inductive UpdateError where
  | invalidKey (cause : InvalidKey)
  | unstorable (cause : Unstorable)
  deriving DecidableEq

/-- What is told about a value that was not stored. -/
def UpdateError.message : UpdateError → Text
  | .invalidKey cause => cause.message
  | .unstorable cause => cause.message

/-- The records and the flag of a document at one moment. -/
structure Checkpoint where
  records : List Record
  modified : Bool
  deriving DecidableEq

namespace Document

/-- Marks a document as changed. Specification, section 6. -/
def setModified (d : Document) : Document := { d with modified := true }

/-- Captures the records and the flag. -/
def checkpoint (d : Document) : Checkpoint := ⟨d.records, d.modified⟩

/-- Puts back the records and the flag. -/
def restore (d : Document) (c : Checkpoint) : Document :=
  { d with records := c.records, modified := c.modified }

/-- Replaces the records, and marks the document as changed if they differ. -/
def replaceRecords (d : Document) (rs : List Record) : Document :=
  { d with records := rs, modified := d.modified || rs != d.records }

/-- The records without all assignments of a key but the last. -/
def keepLast (key : Text) (rs : List Record) : List Record :=
  (rs.foldr
    (fun r (later, kept) =>
      if r.assigns key then (true, if later then kept else r :: kept) else (later, r :: kept))
    (false, [])).2

/-- The records with every assignment of a key deleted. -/
def deleteValue (key : Text) (rs : List Record) : List Record :=
  rs.map fun r =>
    match r with
    | .raw text => .raw text
    | .assignment a => if a.key = key then .assignment { a with value := none } else .assignment a

/-- The records with a stored text for a key: in its assignments, which lose the blanks before the
key, or else in a new one at the end. -/
def storeText (key text : Text) (rs : List Record) : List Record :=
  let new := Record.assignment ⟨key, key, some text⟩
  if rs.any (Record.assigns key) then rs.map fun r => if r.assigns key then new else r
  else rs ++ [new]

/-- Stores the value of a key, or deletes it. A document that refuses the value still loses the
assignments that did not count. Specification, section 6. -/
def set (d : Document) (key : Text) (value : Option Text) : Document × Except UpdateError Unit :=
  match Key.check key with
  | .error cause => (d, .error (.invalidKey cause))
  | .ok () =>
    let d := d.replaceRecords (keepLast key d.records)
    match value with
    | none => (d.replaceRecords (deleteValue key d.records), .ok ())
    | some value =>
      match Value.quote value with
      | .error cause => (d, .error (.unstorable cause))
      | .ok text => (d.replaceRecords (storeText key text d.records), .ok ())

/-- Stores the value of a key; an empty one deletes it. Specification, section 6. -/
def setNonempty (d : Document) (key : Text) (value : Option Text) :
    Document × Except UpdateError Unit :=
  d.set key (value.filter (!·.isEmpty))

/-- Deletes the value of a key. Specification, section 6. -/
def unset (d : Document) (key : Text) : Document × Except UpdateError Unit := d.set key none

/-- Stores a truth value. Specification, section 6. -/
def setBoolean (d : Document) (key : Text) (b : Bool) : Document × Except UpdateError Unit :=
  d.set key (some (Typed.ofBoolean b))

/-- Stores an integer in decimal. Specification, section 6. -/
def setInteger (d : Document) (key : Text) (n : Int) : Document × Except UpdateError Unit :=
  d.set key (some (Text.ofInt 10 n))

/-- A document that was put back is as it was captured. -/
@[simp]
theorem checkpoint_restore (d : Document) (c : Checkpoint) : (d.restore c).checkpoint = c := rfl

end Document

end VarFile
