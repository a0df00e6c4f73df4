import VarFile.Record
import VarFile.Typed

/-!
# Documents

A document is the list of records of one file, with a flag that tells whether they differ from what
was read or written last. Of several assignments of a key the last one counts. This module looks
keys up; `Document.Update` changes them.
-/

namespace VarFile

/-- The records of one file. Specification, section 3. -/
structure Document where
  /-- The path that the file is written to. -/
  fileName : Text
  records : List Record := []
  /-- Whether something changed that is not in the file yet. -/
  modified : Bool := false
  /-- The file that is held open for writing, by its inode number. -/
  descriptor : Option Nat := none
  deriving DecidableEq

namespace Document

/-- The last assignment of a key. Specification, section 3. -/
def lastAssignment? (key : Text) (rs : List Record) : Option Assignment :=
  rs.foldl
    (fun last r =>
      match r with
      | .raw _ => last
      | .assignment a => if a.key = key then some a else last)
    none

/-- One step of `liveEntries` from the last record to the first: `seen` holds the keys assigned by
later records. -/
def addLive (r : Record) (later : List Text × List (Text × Text)) :
    List Text × List (Text × Text) :=
  let (seen, found) := later
  match r with
  | .raw _ => (seen, found)
  | .assignment a =>
    if seen.contains a.key then (seen, found)
    else
      match a.value with
      | some text => (a.key :: seen, (a.key, text) :: found)
      | none => (a.key :: seen, found)

/-- The last assignment of every key that is not deleted: keys and stored texts, in the order of
these assignments. -/
def liveEntries (rs : List Record) : List (Text × Text) := (rs.foldr addLive ([], [])).2

/-- Keys and stored texts, in the order of the lines that count. Specification, section 6. -/
def entries (d : Document) : List (Text × Text) := liveEntries d.records

/-- The keys that have a value, in the order of the lines that count. Specification, section 6. -/
def keys (d : Document) : List Text := d.entries.map (·.1)

/-- The stored text of a valid key. -/
def stored? (d : Document) (key : Text) : Option Text :=
  (lastAssignment? key d.records).bind (·.value)

/-- The stored text of a key. -/
def text? (d : Document) (key : Text) : Except InvalidKey (Option Text) :=
  (Key.check key).map fun _ => d.stored? key

/-- Whether a key has a value, readable or not. -/
def contains (d : Document) (key : Text) : Except InvalidKey Bool := (d.text? key).map Option.isSome

/-- The value of a key; nothing if its stored text stands for none. Specification, section 6. -/
def value? (d : Document) (key : Text) : Except InvalidKey (Option Text) :=
  (d.text? key).map fun text => text.bind fun t => (Value.unquote t).toOption

/-- The value of a key if it is not empty. Specification, section 6. -/
def nonemptyValue? (d : Document) (key : Text) : Except InvalidKey (Option Text) :=
  (d.value? key).map (Option.filter (!·.isEmpty))

/-- Why the stored text of a key stands for no value, if it is there and does not. -/
def malformed? (d : Document) (key : Text) : Option Value.Malformed :=
  match d.text? key with
  | .ok (some text) =>
    match Value.unquote text with
    | .error cause => some cause
    | .ok _ => none
  | _ => none

/-- The truth value of a key, or the fallback if it has none. Specification, section 6. -/
def boolean (d : Document) (key : Text) (fallback : Bool) : Except InvalidKey Bool :=
  (d.value? key).map fun value => (value.bind Typed.boolean?).getD fallback

/-- The integer of a key, or the fallback if it has none, and which of the two it is. Specification,
section 6. -/
def integer (d : Document) (key : Text) (format : Typed.IntegerFormat) (fallback : Int) :
    Except InvalidKey (Int × Bool) :=
  (d.value? key).map fun value =>
    match value.bind (Typed.integer? format) with
    | some n => (n, true)
    | none => (fallback, false)

/-- A one-line description of a document. -/
def description (d : Document) : Text :=
  "ShvarDocument(" ++ d.fileName.quoted ++ ", records=" ++ Text.ofNat 10 d.records.length
    ++ ", modified=" ++ (if d.modified then ("True" : Text) else "False") ++ ")"

end Document

end VarFile
