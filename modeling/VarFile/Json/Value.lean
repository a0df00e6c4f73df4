import VarFile.Json.Number
import VarFile.Text.CodePoint

/-!
# JSON values

The values of the settings files. An object keeps all members that were written; of several with
one name the last counts.
-/

namespace VarFile

/-- A JSON value. -/
inductive Json where
  | null
  | bool (b : Bool)
  | number (n : Json.Number)
  | string (t : Text)
  | array (items : List Json)
  | object (members : List (Text × Json))

namespace Json

/-- The name of the kind of a value in messages. -/
def kindName : Json → Text
  | null => "NoneType"
  | bool _ => "bool"
  | number (.integer _) => "int"
  | number _ => "float"
  | string _ => "str"
  | array _ => "list"
  | object _ => "dict"

/-- The last member with a name. -/
def member? (members : List (Text × Json)) (name : Text) : Option Json :=
  (members.reverse.find? (·.1 == name)).map (·.2)

end Json

end VarFile
