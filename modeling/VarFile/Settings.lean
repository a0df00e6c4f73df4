import VarFile.Json.Value
import VarFile.Log.Level
import VarFile.Storage

/-!
# Settings

The settings of the program: the mode of new files, the least level that is logged, and where logs
go. `Settings.validate` takes them from the members of a JSON object and reports every field that
cannot be used.
-/

namespace VarFile

/-- The settings of the program. Specification, section 10. -/
structure Settings where
  fileMode : Int := Storage.defaultMode
  logLevel : Text := "WARNING"
  logFile : Option Text := none
  deriving DecidableEq

namespace Settings

/-- Why a mode given as a text or number cannot be used. -/
inductive ModeProblem where
  | notOctal (t : Text)
  | outOfRange (n : Int)
  | notInteger
  | fractional
  | notFinite
  /-- A decimal fraction that is an integer past 64 bits. -/
  | tooLarge
  deriving DecidableEq

/-- Why a field cannot be used. -/
inductive Problem where
  | fileMode (cause : ModeProblem)
  | unknownLevel (name : Text)
  | levelNotText
  | logFileNotText
  deriving DecidableEq

namespace Problem

/-- The field that cannot be used. -/
def field : Problem → Text
  | fileMode _ => "file_mode"
  | unknownLevel _ | levelNotText => "log_level"
  | logFileNotText => "log_file"

/-- The kind of a problem. -/
def kind : Problem → Text
  | fileMode (.notOctal _) | fileMode (.outOfRange _) | unknownLevel _ => "value_error"
  | fileMode .notInteger => "int_type"
  | fileMode .fractional => "int_from_float"
  | fileMode .notFinite => "finite_number"
  | fileMode .tooLarge => "int_parsing_size"
  | levelNotText | logFileNotText => "string_type"

/-- What is told about a value that has the right type and cannot be used. -/
def message? : Problem → Option Text
  | fileMode (.notOctal t) =>
    some ("Value error, file_mode must be an octal string, got " ++ t.quoted)
  | fileMode (.outOfRange n) =>
    some ("Value error, file_mode " ++ Text.ofInt 8 n ++ " is out of range")
  | unknownLevel name => some ("Value error, unknown log level " ++ name.quoted)
  | _ => none

end Problem

/-- The permission bits there are. -/
def maxMode : Int := 0o7777

/-- The mode that a text of octal digits stands for, in any range. -/
def octal? (t : Text) : Option Int := Numeral.integer? 8 t

/-- A number with a fraction or an exponent has to be nearer to zero than this. -/
def fractionBound : Nat := 0x8000000000000000

/-- The integer that a JSON value stands for as a mode. -/
def modeNumber : Json → Except ModeProblem Int
  | .string t =>
    match octal? t with
    | some n => .ok n
    | none => .error (.notOctal t)
  | .bool b => .ok (if b then 1 else 0)
  | .number n =>
    match n.wholeness with
    | .whole w => if n.isInteger ∨ w.natAbs < fractionBound then .ok w else .error .tooLarge
    | .fractional => .error .fractional
    | .notFinite => .error .notFinite
  | _ => .error .notInteger

/-- The mode that a JSON value stands for. -/
def mode (v : Json) : Except ModeProblem Int :=
  match modeNumber v with
  | .error e => .error e
  | .ok n => if 0 ≤ n ∧ n ≤ maxMode then .ok n else .error (.outOfRange n)

/-- The names of the levels that may be set. -/
def levelNames : List Text := ["DEBUG", "INFO", "WARNING", "ERROR", "CRITICAL"]

/-- The level name that a JSON value stands for, in upper case. -/
def level : Json → Except Problem Text
  | .string t => if levelNames.contains t.upper then .ok t.upper else .error (.unknownLevel t)
  | _ => .error .levelNotText

/-- The path that a JSON value stands for. -/
def path? : Json → Except Problem (Option Text)
  | .null => .ok none
  | .string t => .ok (some t)
  | _ => .error .logFileNotText

/-- The problem of a field, if it has one. -/
def problemOf {α : Type} : Except Problem α → List Problem
  | .error p => [p]
  | .ok _ => []

/-- A field, or its default if it is missing. -/
def fieldOr {α : Type} (members : List (Text × Json)) (name : Text) (default : α)
    (read : Json → Except Problem α) : Except Problem α :=
  match Json.member? members name with
  | some v => read v
  | none => .ok default

/-- The settings that the members of an object give, or all problems in the order of the fields.
Specification, section 10. -/
def validate (members : List (Text × Json)) : Except (List Problem) Settings :=
  let defaults : Settings := {}
  let fileMode := fieldOr members "file_mode" defaults.fileMode fun v =>
    (mode v).mapError Problem.fileMode
  let logLevel := fieldOr members "log_level" defaults.logLevel level
  let logFile := fieldOr members "log_file" defaults.logFile path?
  match fileMode, logLevel, logFile with
  | .ok fileMode, .ok logLevel, .ok logFile => .ok { fileMode, logLevel, logFile }
  | m, l, f => .error (problemOf m ++ problemOf l ++ problemOf f)

end Settings

end VarFile
