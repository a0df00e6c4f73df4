import VarFile.Json.Printer
import VarFile.Log.Event

/-!
# Lines of the log

An event is logged as one line: a JSON object of its fields, its name, its logger and its level.
-/

namespace VarFile.Log

/-- The value of a field as JSON. -/
def Field.json : Field → Json
  | text t => .string t
  | number n => .number (.integer n)
  | flag b => .bool b

namespace Event

/-- An event as a JSON object. -/
def json (e : Event) : Json :=
  .object ((e.fields.map fun (name, value) => (name, value.json))
    ++ [(("event" : Text), Json.string e.name), ("logger", .string e.logger),
      ("level", .string e.level.name)])

/-- An event as a line of the log. Specification, section 11. -/
def line (e : Event) : Text := e.json.compact

end Event

end VarFile.Log
