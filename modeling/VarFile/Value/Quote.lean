import VarFile.Text.Numeral
import VarFile.Value.ByteClass

/-!
# Quoting a value

`quote` gives the narrowest stored text of a value: the value itself, a double-quoted run if it
holds bytes that the shell treats specially, an ANSI-C quoted run if it holds control bytes. The
result is always one line.
-/

namespace VarFile.Value

/-- The ways to write a value. -/
inductive Style where
  | plain
  | doubleQuoted
  | ansiQuoted
  deriving DecidableEq

/-- The narrowest way to write some bytes. Specification, section 4.1. -/
def style (bytes : Bytes) : Style :=
  if bytes.any isControl then .ansiQuoted
  else if bytes.any (fun b => needsBackslash b || needsQuotes b) then .doubleQuoted
  else .plain

/-- A byte inside double quotes. -/
def doubleQuotedByte (b : UInt8) : Bytes := if needsBackslash b then [backslash, b] else [b]

/-- Bytes as a double-quoted run. -/
def doubleQuoted (bytes : Bytes) : Bytes :=
  doubleQuote :: bytes.flatMap doubleQuotedByte ++ [doubleQuote]

/-- The three octal digits of a byte. -/
def octalDigits (b : UInt8) : Bytes := [0x30 + b / 64, 0x30 + b / 8 % 8, 0x30 + b % 8]

/-- A byte inside an ANSI-C quoted run: with a letter of its own, as three octal digits if it is not
printable ASCII, or as itself. Specification, section 4.1. -/
def ansiQuotedByte (b : UInt8) : Bytes :=
  if b = 0x08 then [backslash, 0x62]
  else if b = 0x0C then [backslash, 0x66]
  else if b = 0x0A then [backslash, 0x6E]
  else if b = 0x0D then [backslash, 0x72]
  else if b = 0x09 then [backslash, 0x74]
  else if b = 0x0B then [backslash, 0x76]
  else if b = backslash ∨ b = doubleQuote ∨ b = singleQuote then [backslash, b]
  else if b < 0x20 ∨ 0x7F ≤ b then backslash :: octalDigits b
  else [b]

/-- Bytes as an ANSI-C quoted run. -/
def ansiQuoted (bytes : Bytes) : Bytes :=
  dollar :: singleQuote :: bytes.flatMap ansiQuotedByte ++ [singleQuote]

/-- The stored text of a value. Specification, section 4.1. -/
def quote (value : Text) : Except Unstorable Text :=
  value.encode.map fun bytes =>
    match style bytes with
    | .plain => value
    | .doubleQuoted => .ofBytes (doubleQuoted bytes)
    | .ansiQuoted => .ofBytes (ansiQuoted bytes)

end VarFile.Value

namespace VarFile.Unstorable

/-- What is told about a text that cannot be stored. -/
def message (u : Unstorable) : Text :=
  "lone surrogate U+" ++ Text.upperHexadecimal 4 u.codePoint.val ++ " at index "
    ++ Text.ofNat 10 u.index ++ " cannot be stored"

end VarFile.Unstorable
