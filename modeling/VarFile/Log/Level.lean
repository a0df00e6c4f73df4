import VarFile.Text.Case

/-!
# Log levels

The five levels of log events, and the names that set the least level to be logged.
-/

namespace VarFile.Log

/-- How important an event is. -/
inductive Level where
  | debug
  | info
  | warning
  | error
  | critical
  deriving DecidableEq

namespace Level

/-- The number of a level; a higher one is more important. -/
def number : Level → Nat
  | debug => 10
  | info => 20
  | warning => 30
  | error => 40
  | critical => 50

/-- The name of a level as events show it. -/
def name : Level → Text
  | debug => "debug"
  | info => "info"
  | warning => "warning"
  | error => "error"
  | critical => "critical"

end Level

/-- The names that set a least level, in upper case, and the numbers they set. -/
def thresholdNames : List (Text × Nat) :=
  [("DEBUG", 10), ("INFO", 20), ("WARNING", 30), ("WARN", 30), ("ERROR", 40), ("CRITICAL", 50),
    ("FATAL", 50), ("NOTSET", 0)]

/-- The least level that a name in any case of letters sets; an unknown one sets that of
warnings. -/
def threshold (name : Text) : Nat := (thresholdNames.lookup name.upper).getD Level.warning.number

end VarFile.Log
