import VarFile.Text.Quoted

/-!
# Keys

A key is a shell variable name: an ASCII letter or underscore, then ASCII letters, digits and
underscores.
-/

namespace VarFile

/-- A key that is no shell variable name. Specification, section 9. -/
structure InvalidKey where
  key : Text
  deriving DecidableEq

namespace Key

/-- Letters and the underscore may start a name. -/
def isStart (c : CodePoint) : Bool :=
  c.val == 0x5F || (0x41 ≤ c.val && c.val ≤ 0x5A) || (0x61 ≤ c.val && c.val ≤ 0x7A)

/-- Letters, the underscore and digits may follow. -/
def isPart (c : CodePoint) : Bool := isStart c || (0x30 ≤ c.val && c.val ≤ 0x39)

/-- Whether a text is a shell variable name. Specification, section 3. -/
def isValid : Text → Bool
  | [] => false
  | c :: rest => isStart c && rest.all isPart

/-- Refuses what is no shell variable name. Specification, section 5. -/
def check (key : Text) : Except InvalidKey Unit :=
  if isValid key then .ok () else .error ⟨key⟩

/-- Why a key cannot name a new variable. -/
inductive Problem where
  | blank
  | invalid
  | taken
  deriving DecidableEq

/-- The first reason why a key cannot name a new variable beside those `taken`, if there is one. -/
def problem? (key : Text) (taken : List Text) : Option Problem :=
  if key = [] then some .blank
  else if !isValid key then some .invalid
  else if taken.contains key then some .taken
  else none

/-- What is told about a key that cannot name a new variable. -/
def Problem.message (key : Text) : Problem → Text
  | .blank => "Key cannot be blank"
  | .invalid => "'" ++ key ++ "' is not a valid shell variable name"
  | .taken => "'" ++ key ++ "' is already set in this file"

end Key

/-- What is told about a key that is no shell variable name. -/
def InvalidKey.message (e : InvalidKey) : Text :=
  e.key.quoted ++ " is not a valid shell variable name"

end VarFile
