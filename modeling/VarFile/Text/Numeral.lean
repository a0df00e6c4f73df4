import VarFile.Text.Blank
import VarFile.Text.DecimalDigit

/-!
# Numerals

Numbers as texts. Reading takes ASCII digits and letters in any base up to 36, underscores between
digits, and the mark of the base in front (`0b`, `0o`, `0x`); outside the bases that are powers of
two a numeral has at most 4300 digits.
-/

namespace VarFile

namespace Text

/-- A natural number in a base up to sixteen, with lower-case digits. -/
def ofNat (base n : Nat) : Text := ofChars (Nat.toDigits base n)

/-- A text with zeros in front up to a width. -/
def padZeros (width : Nat) (t : Text) : Text :=
  List.replicate (width - t.length) (CodePoint.ofChar '0') ++ t

/-- A number as lower-case hexadecimal digits, at least `width` of them. -/
def hexadecimal (width n : Nat) : Text := padZeros width (ofNat 16 n)

/-- A number as upper-case hexadecimal digits, at least `width` of them. -/
def upperHexadecimal (width n : Nat) : Text :=
  padZeros width (ofChars ((Nat.toDigits 16 n).map Char.toUpper))

/-- An integer in a base up to sixteen, with a minus sign if it is negative. -/
def ofInt (base : Nat) : Int → Text
  | .ofNat n => ofNat base n
  | .negSucc n => CodePoint.ofChar '-' :: ofNat base (n + 1)

end Text

namespace Numeral

/-- The most digits that a numeral may have in a base that is no power of two. -/
def maxDigits : Nat := 4300

/-- The value of an ASCII digit or letter as a digit. -/
def digit? (c : CodePoint) : Option Nat :=
  if 0x30 ≤ c.val ∧ c.val ≤ 0x39 then some (c.val - 0x30)
  else if 0x41 ≤ c.val ∧ c.val ≤ 0x5A then some (c.val - 0x41 + 10)
  else if 0x61 ≤ c.val ∧ c.val ≤ 0x7A then some (c.val - 0x61 + 10)
  else none

/-- Whether a code point is a digit of a base. -/
def isDigit (base : Nat) (c : CodePoint) : Bool :=
  match digit? c with
  | some d => d < base
  | none => false

/-- Whether a code point is an ASCII digit or letter. -/
def isAlphanumeric (c : CodePoint) : Bool := (digit? c).isSome

/-- The number that digits denote in a base. -/
def value (base : Nat) (digits : Text) : Nat :=
  digits.foldl (fun n c => n * base + (digit? c).getD 0) 0

/-- Whether a base is a power of two. -/
def isPowerOfTwo (base : Nat) : Bool :=
  base == 2 || base == 4 || base == 8 || base == 16 || base == 32

/-- Whether a letter after a zero marks a base. -/
def marks (base : Nat) (c : CodePoint) : Bool :=
  (base == 2 && (c.val == 0x42 || c.val == 0x62))
    || (base == 8 && (c.val == 0x4F || c.val == 0x6F))
    || (base == 16 && (c.val == 0x58 || c.val == 0x78))

/-- A numeral without the mark of its base, and without one underscore after the mark. -/
def dropMark (base : Nat) : Text → Text
  | zero :: mark :: rest =>
    if zero.val = 0x30 ∧ marks base mark then
      match rest with
      | [] => []
      | c :: after => if c = '_' then after else c :: after
    else zero :: mark :: rest
  | t => t

/-- Reads an unsigned numeral: an optional mark of the base, then digits, between which single
underscores may stand. -/
def natural? (base : Nat) (t : Text) : Option Nat :=
  let groups := (dropMark base t).splitOn '_'
  let digits := groups.flatten
  if groups.all (fun g => !g.isEmpty && g.all (isDigit base))
      && (isPowerOfTwo base || digits.length ≤ maxDigits) then
    some (value base digits)
  else none

/-- Splits off the sign of a numeral: whether it is negative, and the rest. -/
def splitSign : Text → Bool × Text
  | [] => (false, [])
  | c :: rest =>
    if c = '-' then (true, rest) else if c = '+' then (false, rest) else (false, c :: rest)

/-- A number with a sign. -/
def signed (negative : Bool) (n : Nat) : Int := if negative then -n else n

/-- Every decimal digit as the ASCII digit of the same value. -/
def toAsciiDigits (t : Text) : Text :=
  t.map fun c =>
    match c.digit? with
    | some d => .ofNat (0x30 + d)
    | none => c

/-- Reads a numeral in any script, with white space around it and an optional sign. -/
def integer? (base : Nat) (t : Text) : Option Int :=
  let (negative, digits) := splitSign (toAsciiDigits (t.trim CodePoint.isNumeralBlank))
  (natural? base digits).map (signed negative)

end Numeral

end VarFile
