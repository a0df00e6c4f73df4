import VarFile.Text.Case
import VarFile.Text.Numeral

/-!
# Typed values

Values read as truth values and as integers.
-/

namespace VarFile

namespace Typed

/-- The words for true. -/
def trueWords : List Text := ["yes", "true", "t", "y", "1"]

/-- The words for false. -/
def falseWords : List Text := ["no", "false", "f", "n", "0"]

/-- The truth value that a word stands for in any case of letters. Specification, section 5. -/
def boolean? (value : Text) : Option Bool :=
  let word := value.lower
  if trueWords.contains word then some true
  else if falseWords.contains word then some false
  else none

/-- The word that is stored for a truth value. -/
def ofBoolean (b : Bool) : Text := if b then "yes" else "no"

/-- The limits within which an integer is accepted, and the base it is read in. -/
structure IntegerFormat where
  base : Int
  min : Int
  max : Int

/-- Decimal numbers of 64 bits. -/
def IntegerFormat.standard : IntegerFormat := ⟨10, -0x8000000000000000, 0x7FFFFFFFFFFFFFFF⟩

/-- Whether a zero and an `x` come before at least one more code point. -/
def hasHexMark : Text → Bool
  | zero :: mark :: _ :: _ => zero.val == 0x30 && (mark.val == 0x58 || mark.val == 0x78)
  | _ => false

/-- The base of a numeral and its digits: base 0 stands for sixteen after `0x`, for eight after
another `0` and for ten otherwise, and `0x` may also stand in base sixteen. -/
def resolveBase (base : Int) (digits : Text) : Int × Text :=
  if (base = 0 ∨ base = 16) ∧ hasHexMark digits then (16, digits.drop 2)
  else if base = 0 then
    (if 1 < digits.length ∧ digits.head? = some (CodePoint.ofChar '0') then 8 else 10, digits)
  else (base, digits)

/-- The integer that a text stands for: blanks around it are skipped, a sign may come first, and
what is left has to be one numeral within the limits. Specification, section 5. -/
def integer? (format : IntegerFormat) (text : Text) : Option Int :=
  let (negative, digits) := Numeral.splitSign (text.trim CodePoint.isBlank)
  let (base, digits) := resolveBase format.base digits
  if digits.all Numeral.isAlphanumeric && 2 ≤ base && base ≤ 36 then
    (Numeral.natural? base.toNat digits).bind fun n =>
      let n := Numeral.signed negative n
      if format.min ≤ n && n ≤ format.max then some n else none
  else none

end Typed

end VarFile
