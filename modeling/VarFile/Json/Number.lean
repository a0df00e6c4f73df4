/-!
# Numbers of JSON

A number is an integer, a decimal fraction or one of the values that are no numbers. A decimal
fraction stands for the nearest number of 53 binary digits and an exponent of at least -1074; past
2^1024 it is infinite.
-/

namespace VarFile.Json

/-- A number as it is written. -/
inductive Number where
  | integer (n : Int)
  /-- `mantissa` times ten to the `exponent`, written with a fraction or an exponent. -/
  | decimal (negative : Bool) (mantissa : Nat) (exponent : Int)
  | infinite (negative : Bool)
  | undefined
  deriving DecidableEq

/-- A number seen as an integer. -/
inductive Wholeness where
  | whole (n : Int)
  | fractional
  | notFinite
  deriving DecidableEq

namespace Number

/-- The quotient of two numbers rounded to the nearest one, a half to the even one. -/
def roundedQuotient (n d : Nat) : Nat :=
  let q := n / d
  let r := n % d
  if d < 2 * r ∨ (2 * r = d ∧ q % 2 = 1) then q + 1 else q

/-- A power of two. -/
def twoTo (k : Nat) : Nat := Nat.pow 2 k

/-- The binary exponent that leaves 53 digits of a quotient, or the least one there is. -/
def binaryExponent (n d : Nat) : Int :=
  let e : Int := Int.ofNat n.log2 - Int.ofNat d.log2 - 52
  let e := if n * twoTo (-e).toNat < d * twoTo e.toNat * twoTo 52 then e - 1 else e
  max e (-1074)

/-- The nearest number of 53 binary digits to a quotient, as an integer if it is one. -/
def wholeOfQuotient (n d : Nat) : Wholeness :=
  let e := binaryExponent n d
  let q := roundedQuotient (n * twoTo (-e).toNat) (d * twoTo e.toNat)
  if 0 ≤ e then
    let n := q * twoTo e.toNat
    if twoTo 1024 ≤ n then .notFinite else .whole n
  else if q % twoTo (-e).toNat = 0 then .whole (q / twoTo (-e).toNat : Nat)
  else .fractional

/-- The powers of ten past which a decimal fraction is infinite or zero. -/
def extremePower : Int := 400

/-- A decimal fraction seen as an integer, without its sign. -/
def wholeOfDecimal (mantissa : Nat) (exponent : Int) : Wholeness :=
  let magnitude := exponent + (Nat.toDigits 10 mantissa).length
  if mantissa = 0 ∨ magnitude < -extremePower then .whole 0
  else if extremePower < magnitude then .notFinite
  else wholeOfQuotient (mantissa * Nat.pow 10 exponent.toNat) (Nat.pow 10 (-exponent).toNat)

/-- Whether a number is written without a fraction and an exponent. -/
def isInteger : Number → Bool
  | integer _ => true
  | _ => false

/-- A number seen as an integer. -/
def wholeness : Number → Wholeness
  | integer n => .whole n
  | decimal negative mantissa exponent =>
    match wholeOfDecimal mantissa exponent with
    | .whole n => .whole (if negative then -n else n)
    | w => w
  | infinite _ | undefined => .notFinite

end Number

end VarFile.Json
