import VarFile.Value.ByteClass

/-!
# The legacy form of a value

Older writers put every value in double quotes and a backslash before each of the bytes
`"`, `\`, `'`, `$`, backquote and `~`. Text of exactly that shape is recognised, because its
backslashes mean more than those of other double-quoted text.
-/

namespace VarFile.Value

/-- What follows the opening double quote: plain bytes and protected ones up to a double quote
that ends the text. -/
def isLegacyBody : Bytes → Bool
  | [] => false
  | b :: rest =>
    if b = doubleQuote then rest.isEmpty
    else if b = backslash then
      match rest with
      | [] => false
      | e :: rest => neededLegacyBackslash e && isLegacyBody rest
    else !neededLegacyBackslash b && isLegacyBody rest

/-- Whether bytes have the exact shape that older writers produced. Specification, section 4.3. -/
def isLegacyForm : Bytes → Bool
  | [] => false
  | b :: rest => b == doubleQuote && isLegacyBody rest

/-- Whether a text has the exact shape that older writers produced. -/
def isLegacyText (text : Text) : Except Unstorable Bool := text.encode.map isLegacyForm

end VarFile.Value
