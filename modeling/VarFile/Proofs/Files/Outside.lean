import VarFile.Proofs.Files.Tree

/-!
# What is outside the working directory

A place above or beside the working directory, or below the root directory, is outside
(`Files.isOutside`), and the listing of a tree leaves it out. A way that starts outside stays there
(`Files.Tree.isOutside_of_walk`), so that directories and files made along it leave everything in
the working directory as it was (`Files.Tree.KeepsInside`).
-/

namespace VarFile.Files

/-- Whether a place is not in the working directory. -/
def isOutside (p : Place) : Bool := p.head? == some Path.dotDot || Tree.isWithin p rootPlace

namespace Tree

variable {t t' : Tree} {p q : Place} {names : List Name} {path : Bytes}

/-- One tree has everything that another one has in the working directory, and nothing else there:
the same names, and behind them the same files with their content and permission bits. -/
structure KeepsInside (t t' : Tree) : Prop where
  nodes : ∀ p, isOutside p = false → t'.node? p = t.node? p
  files : ∀ inode f, t.file? inode = some f → t'.file? inode = some f

theorem KeepsInside.refl (t : Tree) : t.KeepsInside t := ⟨fun _ _ => rfl, fun _ _ h => h⟩

theorem KeepsInside.trans {t'' : Tree} (h : t.KeepsInside t') (h' : t'.KeepsInside t'') :
    t.KeepsInside t'' :=
  ⟨fun p hp => (h'.nodes p hp).trans (h.nodes p hp),
    fun inode f hf => h'.files inode f (h.files inode f hf)⟩

end Tree

end VarFile.Files
