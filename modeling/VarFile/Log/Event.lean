import VarFile.Log.Level
import VarFile.Text.Numeral

/-!
# Log events

What is logged about reading, writing and looking up: every event with its level, the part of the
program that logs it, and its fields.
-/

namespace VarFile.Log

/-- The value of a field of an event. -/
inductive Field where
  | text (t : Text)
  | number (n : Nat)
  | flag (b : Bool)
  deriving DecidableEq

/-- Something that is logged. Specification, section 11. -/
inductive Event where
  /-- A stored text stands for no value. -/
  | undecodableValue (file key error : Text)
  /-- A file could not be opened, so a document starts without lines. -/
  | emptyDocument (file error : Text)
  /-- A file was read. -/
  | openedFile (file : Text) (lines : Nat) (writable : Bool)
  /-- A raw line is written as a comment. -/
  | neutralizedLine (file line : Text)
  /-- An assignment whose stored text stands for no value is written as a comment. -/
  | neutralizedValue (file key : Text)
  /-- A file was written. -/
  | wroteFile (file : Text) (lines bytes : Nat)
  deriving DecidableEq

namespace Event

/-- The level of an event. -/
def level : Event → Level
  | undecodableValue .. | emptyDocument .. | openedFile .. => .debug
  | neutralizedLine .. | neutralizedValue .. | wroteFile .. => .info

/-- The logger of an event. -/
def logger : Event → Text
  | undecodableValue .. => "shvar.document"
  | _ => "shvar.storage"

/-- The name of an event. -/
def name : Event → Text
  | undecodableValue .. => "undecodable value"
  | emptyDocument .. => "starting empty document"
  | openedFile .. => "opened file"
  | neutralizedLine .. => "neutralized line"
  | neutralizedValue .. => "neutralized malformed value"
  | wroteFile .. => "wrote file"

/-- The fields of an event. -/
def fields : Event → List (Text × Field)
  | undecodableValue file key error =>
    [("file", .text file), ("key", .text key), ("error", .text error)]
  | emptyDocument file error => [("file", .text file), ("error", .text error)]
  | openedFile file lines writable =>
    [("file", .text file), ("lines", .number lines), ("writable", .flag writable)]
  | neutralizedLine file line => [("file", .text file), ("line", .text line)]
  | neutralizedValue file key => [("file", .text file), ("key", .text key)]
  | wroteFile file lines bytes =>
    [("file", .text file), ("lines", .number lines), ("bytes", .number bytes)]

end Event

end VarFile.Log
