import VarFile.Text.CodePoint

/-!
# Blanks

Sets of blanks: those that the shell-file grammar skips, those around a numeral, all white space of
Unicode, and what separates lines.
-/

namespace VarFile.CodePoint

/-- Space, tab, newline, carriage return, vertical tab and form feed. -/
def isBlank (c : CodePoint) : Bool := c.val == 0x20 || (0x09 ≤ c.val && c.val ≤ 0x0D)

/-- White space past ASCII. -/
def isWideBlank (c : CodePoint) : Bool :=
  c.val == 0x85 || c.val == 0xA0 || c.val == 0x1680 || (0x2000 ≤ c.val && c.val ≤ 0x200A)
    || c.val == 0x2028 || c.val == 0x2029 || c.val == 0x202F || c.val == 0x205F || c.val == 0x3000

/-- What separates lines: the line breaks of ASCII, the separator controls U+001C..U+001E, and
U+0085, U+2028 and U+2029. -/
def isLineEnd (c : CodePoint) : Bool :=
  (0x0A ≤ c.val && c.val ≤ 0x0D) || (0x1C ≤ c.val && c.val ≤ 0x1E) || c.val == 0x85
    || c.val == 0x2028 || c.val == 0x2029

/-- What may stand around a numeral: blanks and the white space past ASCII. -/
def isNumeralBlank (c : CodePoint) : Bool := c.isBlank || c.isWideBlank

/-- All white space: also the four separator controls U+001C..U+001F. -/
def isWhitespace (c : CodePoint) : Bool :=
  c.isNumeralBlank || (0x1C ≤ c.val && c.val ≤ 0x1F)

end VarFile.CodePoint
