import VarFile.Text.Utf8

/-!
# Bytes with a meaning in stored values

The bytes that quote, end or expand in the stored text of a value, and the classes of bytes that
quoting and unquoting tell apart.
-/

namespace VarFile.Value

/-- The backslash. -/
abbrev backslash : UInt8 := 0x5C

/-- The single quote. -/
abbrev singleQuote : UInt8 := 0x27

/-- The double quote. -/
abbrev doubleQuote : UInt8 := 0x22

/-- The dollar sign. -/
abbrev dollar : UInt8 := 0x24

/-- The backquote. -/
abbrev backquote : UInt8 := 0x60

/-- The tilde. -/
abbrev tilde : UInt8 := 0x7E

/-- The semicolon. -/
abbrev semicolon : UInt8 := 0x3B

/-- The number sign, which starts a comment. -/
abbrev hash : UInt8 := 0x23

/-- Space, tab, newline, carriage return, vertical tab and form feed end an unquoted value.
Specification, section 4.2. -/
def isBlank (b : UInt8) : Bool := b == 0x20 || (0x09 ≤ b && b ≤ 0x0D)

/-- The bytes that a backslash protects inside double quotes. Specification, section 4.1. -/
def needsBackslash (b : UInt8) : Bool :=
  b == doubleQuote || b == backslash || b == dollar || b == backquote

/-- The bytes that older writers protected by a backslash. Specification, section 4.3. -/
def neededLegacyBackslash (b : UInt8) : Bool :=
  needsBackslash b || b == singleQuote || b == tilde

/-- The operators of the shell that a value may not hold unquoted: `|`, `&`, `(`, `)`, `<`, `>`.
Specification, section 4.2. -/
def isOperator (b : UInt8) : Bool :=
  b == 0x7C || b == 0x26 || b == 0x28 || b == 0x29 || b == 0x3C || b == 0x3E

/-- The bytes that are safe inside double quotes but not outside any. Specification, section 4.1. -/
def needsQuotes (b : UInt8) : Bool :=
  b == 0x20 || b == 0x09 || b == singleQuote || b == tilde || b == semicolon || isOperator b

/-- Control bytes other than the tab have no form in double quotes. Specification, section 4.1. -/
def isControl (b : UInt8) : Bool := b < 0x20 && b != 0x09

/-- Octal digits. -/
def isOctalDigit (b : UInt8) : Bool := 0x30 ≤ b && b ≤ 0x37

/-- Hexadecimal digits. -/
def isHexDigit (b : UInt8) : Bool :=
  (0x30 ≤ b && b ≤ 0x39) || (0x41 ≤ b && b ≤ 0x46) || (0x61 ≤ b && b ≤ 0x66)

/-- The value of an octal or hexadecimal digit. -/
def digitValue (b : UInt8) : Nat :=
  if b ≤ 0x39 then b.toNat - 0x30
  else if b ≤ 0x46 then b.toNat - 0x41 + 10
  else b.toNat - 0x61 + 10

/-- The number that digits denote in a base. -/
def number (base : Nat) (digits : Bytes) : Nat :=
  digits.foldl (fun n d => n * base + digitValue d) 0

end VarFile.Value
