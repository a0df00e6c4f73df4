import VarFile.Text.Numeral
import VarFile.Text.Printable

/-!
# Quoted text in messages

A text is quoted with apostrophes, or with double quotes if it holds an apostrophe and no double
quote. What cannot be shown is written as an escape sequence.
-/

namespace VarFile

namespace Text

/-- The apostrophe. -/
def apostrophe : CodePoint := .ofNat 0x27

/-- The double quote. -/
def doubleQuote : CodePoint := .ofNat 0x22

/-- The backslash. -/
def backslash : CodePoint := .ofNat 0x5C

/-- How a code point is written between the given quotes. -/
def quotedForm (quote c : CodePoint) : Text :=
  if c = quote || c = backslash then [backslash, c]
  else if c = '\n' then [backslash, 'n']
  else if c = '\r' then [backslash, 'r']
  else if c = '\t' then [backslash, 't']
  else if c.isPrintable then [c]
  else if c.val < 0x100 then backslash :: CodePoint.ofChar 'x' :: hexadecimal 2 c.val
  else if c.val < 0x10000 then backslash :: CodePoint.ofChar 'u' :: hexadecimal 4 c.val
  else backslash :: CodePoint.ofChar 'U' :: hexadecimal 8 c.val

/-- A text in quotes, with what cannot be shown as escape sequences. -/
def quoted (t : Text) : Text :=
  let quote := if t.contains apostrophe && !t.contains doubleQuote then doubleQuote else apostrophe
  quote :: t.flatMap (quotedForm quote) ++ [quote]

end Text

end VarFile
