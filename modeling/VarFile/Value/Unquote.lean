import VarFile.Text.Quoted
import VarFile.Value.Legacy
import VarFile.Value.Quote
import VarFile.Value.Segment

/-!
# Reading a stored value

`unquote` gives the value that a stored text stands for: what its segments denote, read with the
legacy rule if the whole text has the legacy form.
-/

namespace VarFile.Value

/-- The value that a stored text stands for. Specification, section 4.2. -/
def unquote (text : Text) : Except Malformed Text :=
  match text.encode with
  | .error cause => .error (.unstorable cause)
  | .ok bytes =>
    (Segment.parse bytes).map fun segments =>
      .ofBytes (segments.flatMap (Segment.denoted (isLegacyForm bytes)))

/-- Whether a stored text stands for a value. -/
def isReadable (text : Text) : Bool :=
  match unquote text with
  | .ok _ => true
  | .error _ => false

/-- What is told about a stored text without a value. -/
def Malformed.message : Malformed → Text
  | .unstorable cause => cause.message
  | .trailingBackslash => "trailing backslash (line continuation is not supported)"
  | .unterminatedSingleQuote => "unterminated single quote"
  | .unterminatedDoubleQuote => "unterminated double quote"
  | .unterminatedAnsiQuote => "unterminated ANSI-C quote"
  | .expansion => "shell expansion inside double quotes is not supported"
  | .operator b => "unquoted shell metacharacter " ++ Text.quoted (Text.ofBytes [b])
  | .trailingText => "unexpected text after value"
  | .codePointTooLarge n => "invalid code point U+" ++ Text.upperHexadecimal 0 n

end VarFile.Value
