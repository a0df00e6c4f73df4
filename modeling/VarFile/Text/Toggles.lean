import VarFile.Text.CodePoint

/-!
# Sets of code points

A set given by the increasing list of the numbers where membership changes; below the first one
nothing belongs to it.
-/

namespace VarFile

/-- The numbers where membership changes, in increasing order. -/
abbrev Toggles := List Nat

namespace Toggles

/-- Membership after the given state, for a number not below what was passed already. -/
def containsFrom (inside : Bool) : Toggles → Nat → Bool
  | [], _ => inside
  | t :: ts, n => if n < t then inside else containsFrom (!inside) ts n

/-- Whether a number belongs to a set: it does after an odd number of changes. -/
def contains (ts : Toggles) (n : Nat) : Bool := containsFrom false ts n

end Toggles

end VarFile
