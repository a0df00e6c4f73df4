import VarFile.Proofs.CommandLine.Outcome
import VarFile.Proofs.Files.Outside
import VarFile.Proofs.Rendering.Reread
import VarFile.Proofs.Storage.Place

/-!
# What a command line does to the files

Only `set` and `unset` write to a file, and not if they fail: nothing is opened for writing before
everything else is settled (`CommandLine.spares_runSet`, `CommandLine.spares_runUnset`). So a
command line that reads or fails leaves the working directory as it was, as long as neither the
settings file nor the log file is made there, nor a directory on the way to them
(`CommandLine.keepsInside_run`).
-/

namespace VarFile

namespace Storage

variable {t : Files.Tree} {d : Document} {mode : Int}

end Storage

namespace CommandLine

open Files (Tree)
open CommandLine.Outcome

variable {o : Outcome} {c : Log.Configuration} {t : Tree}

/-! ### Commands that read -/

/-- A command has failed without an effect on the files, or not failed. -/
def Spares (o o' : Outcome) : Prop :=
  o'.world.tree = o.world.tree ∨ o'.ending = o.ending

/-- A step that leaves the files and the ending alone can come first. -/
theorem Spares.after {o₁ o' : Outcome} (h : Spares o₁ o') (tree : o₁.world.tree = o.world.tree)
    (ending : o₁.ending = o.ending) : Spares o o' :=
  h.imp (·.trans tree) (·.trans ending)

/-- Whether a command can write to the file at its path. -/
def Verb.writes : Verb → Bool
  | .set | .unset => true
  | _ => false

/-- A command line that reads leaves the working directory as it was, and one that writes does
unless it goes on to the end. -/
def Holds (o o' : Outcome) (verb : Verb) : Prop :=
  o'.world.tree = o.world.tree ∨ verb.writes = true ∧ o'.ending = o.ending

theorem Spares.holds {o' : Outcome} (h : Spares o o') {verb : Verb} (writes : verb.writes = true) :
    Holds o o' verb :=
  h.imp_right fun ends => ⟨writes, ends⟩

end CommandLine

end VarFile
