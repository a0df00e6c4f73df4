import VarFile.Log.Event

/-!
# Where log events go

Events of the loggers below `shvar` go to the configured handler if they reach the configured level.
All other events, and all events before the first configuration, go to standard error from the level
of warnings on.
-/

namespace VarFile.Log

/-- What takes the events of the program. -/
inductive Sink where
  | file
  | standardError
  deriving DecidableEq

/-- A handler and the least level to be logged; level 0 leaves the decision to the level of
warnings. Specification, section 11. -/
structure Configuration where
  sink : Sink
  threshold : Nat
  deriving DecidableEq

namespace Configuration

/-- The configuration for a level name. -/
def ofName (level : Text) (sink : Sink) : Configuration := ⟨sink, Log.threshold level⟩

/-- The least level that is logged. -/
def effective (c : Configuration) : Nat :=
  if c.threshold = 0 then Level.warning.number else c.threshold

/-- Whether events of a level are logged. -/
def admits (c : Configuration) (l : Level) : Bool := c.effective ≤ l.number

/-- The events that are logged. -/
def filter (c : Configuration) (events : List Event) : List Event :=
  events.filter fun e => c.admits e.level

end Configuration

/-- The name of the logger above all of the program's. -/
def programLogger : Text := "shvar"

/-- Whether a logger is the program's or below it. -/
def isProgramLogger (name : Text) : Bool :=
  name == programLogger || (programLogger ++ [CodePoint.ofChar '.']).isPrefixOf name

/-- Where an event of a logger goes, if anywhere. -/
def destination? (c : Option Configuration) (logger : Text) (level : Level) : Option Sink :=
  match c with
  | some c =>
    if isProgramLogger logger then if c.admits level then some c.sink else none
    else if Level.warning.number ≤ level.number then some .standardError
    else none
  | none => if Level.warning.number ≤ level.number then some .standardError else none

/-- The name that events show for a logger; the one without a name is the root. -/
def shownLogger (name : Text) : Text := if name.isEmpty then "root" else name

end VarFile.Log
