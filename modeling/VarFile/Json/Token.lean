import VarFile.Json.Value
import VarFile.Text.Numeral

/-!
# Tokens of JSON

The tokens of a JSON text, up to the first code point that starts none. Besides the words of JSON
there are `NaN`, `Infinity` and `-Infinity`.
-/

namespace VarFile.Json

/-- A word, mark or literal of JSON. -/
inductive Token where
  | openArray
  | closeArray
  | openObject
  | closeObject
  | comma
  | colon
  | null
  | bool (b : Bool)
  | string (t : Text)
  /-- An integer with its sign and digits. -/
  | integer (negative : Bool) (digits : Text)
  | number (n : Number)
  /-- Something that is no token; nothing is read after it. -/
  | invalid

namespace Token

/-- Space, tab, newline and carriage return stand between tokens. -/
def isBlank (c : CodePoint) : Bool :=
  c.val == 0x20 || c.val == 0x09 || c.val == 0x0A || c.val == 0x0D

/-- ASCII digits. -/
def isDigit (c : CodePoint) : Bool := 0x30 ≤ c.val && c.val ≤ 0x39

/-- The number that four hexadecimal digits at the start of a text denote. -/
def hex4? (t : Text) : Option Nat :=
  let digits := t.take 4
  if digits.length = 4 && digits.all (Numeral.isDigit 16) then some (Numeral.value 16 digits)
  else none

/-- The code point that a letter stands for behind a backslash in a string. -/
def escape? (letter : CodePoint) : Option CodePoint :=
  match letter.val with
  | 0x22 => some (.ofNat 0x22)
  | 0x5C => some (.ofNat 0x5C)
  | 0x2F => some (.ofNat 0x2F)
  | 0x62 => some (.ofNat 0x08)
  | 0x66 => some (.ofNat 0x0C)
  | 0x6E => some (.ofNat 0x0A)
  | 0x72 => some (.ofNat 0x0D)
  | 0x74 => some (.ofNat 0x09)
  | _ => none

/-- The second half of a surrogate pair, written as an escape sequence at the start of a text. -/
def lowSurrogate? (t : Text) : Option Nat :=
  match t with
  | b :: u :: rest =>
    if b.val = 0x5C ∧ u.val = 0x75 then
      (hex4? rest).filter fun n => 0xDC00 ≤ n && n ≤ 0xDFFF
    else none
  | _ => none

/-- Reads the digits after `\u`, and the second half of a surrogate pair with the first one: a code
point and how many code points it takes. -/
def unicodeEscape? (t : Text) : Option (CodePoint × Nat) :=
  (hex4? t).map fun high =>
    if 0xD800 ≤ high && high ≤ 0xDBFF then
      match lowSurrogate? (t.drop 4) with
      | some low => (.ofNat (0x10000 + (high - 0xD800) * 0x400 + (low - 0xDC00)), 10)
      | none => (.ofNat high, 4)
    else (.ofNat high, 4)

/-- Reads a string after its opening quote; `done` holds what was read so far, last code point
first, and `taken` how much it takes. -/
def readString (done : Text) (taken : Nat) : Text → Option (Text × Nat)
  | [] => none
  | c :: rest =>
    if c.val = 0x22 then some (done.reverse, taken + 1)
    else if c.val < 0x20 then none
    else if c.val = 0x5C then
      match rest with
      | [] => none
      | letter :: rest =>
        if letter.val = 0x75 then
          match unicodeEscape? rest with
          | none => none
          | some (c, length) => readString (c :: done) (taken + 2 + length) (rest.drop length)
        else
          match escape? letter with
          | none => none
          | some c => readString (c :: done) (taken + 2) rest
    else readString (c :: done) (taken + 1) rest
  termination_by t => t.length
  decreasing_by all_goals simp only [List.length_cons, List.length_drop]; omega

/-- The digits of a fraction at the start of a text: a point and at least one digit. -/
def fraction (t : Text) : Text :=
  match t with
  | [] => []
  | c :: rest => if c.val = 0x2E then rest.takeWhile isDigit else []

/-- An exponent at the start of a text, and how many code points it takes. -/
def exponent (t : Text) : Int × Nat :=
  match t with
  | [] => (0, 0)
  | e :: rest =>
    if e.val = 0x65 ∨ e.val = 0x45 then
      let (negative, digits) := Numeral.splitSign rest
      let signLength := rest.length - digits.length
      let digits := digits.takeWhile isDigit
      if digits.isEmpty then (0, 0)
      else (Numeral.signed negative (Numeral.value 10 digits), 1 + signLength + digits.length)
    else (0, 0)

/-- Reads a number from its first digit on; `taken` counts what the sign took. -/
def readNumber (negative : Bool) (taken : Nat) (t : Text) : Option (Token × Nat) :=
  let digits := t.takeWhile isDigit
  match digits with
  | [] => none
  | d :: _ =>
    let digits := if d.val = 0x30 then [d] else digits
    let rest := t.drop digits.length
    let fractionDigits := fraction rest
    let fractionLength := if fractionDigits.isEmpty then 0 else fractionDigits.length + 1
    let (e, exponentLength) := exponent (rest.drop fractionLength)
    let taken := taken + digits.length + fractionLength + exponentLength
    if fractionLength + exponentLength = 0 then some (.integer negative digits, taken)
    else
      let mantissa := Numeral.value 10 (digits ++ fractionDigits)
      some (.number (.decimal negative mantissa (e - fractionDigits.length)), taken)

/-- The words that are tokens. -/
def words : List (Text × Token) :=
  [("null", .null), ("true", .bool true), ("false", .bool false), ("NaN", .number .undefined),
    ("Infinity", .number (.infinite false)), ("-Infinity", .number (.infinite true))]

/-- The word at the start of a text, and its length. -/
def word? (t : Text) : Option (Token × Nat) :=
  (words.find? fun (w, _) => w.isPrefixOf t).map fun (w, token) => (token, w.length)

/-- The mark that a code point is. -/
def mark? (c : CodePoint) : Option Token :=
  match c.val with
  | 0x5B => some .openArray
  | 0x5D => some .closeArray
  | 0x7B => some .openObject
  | 0x7D => some .closeObject
  | 0x2C => some .comma
  | 0x3A => some .colon
  | _ => none

/-- The token at the start of a text that is not empty, and how many code points it takes. -/
def read (c : CodePoint) (rest : Text) : Token × Nat :=
  match mark? c with
  | some token => (token, 1)
  | none =>
    if c.val = 0x22 then
      match readString [] 1 rest with
      | some (t, taken) => (.string t, taken)
      | none => (.invalid, 1)
    else
      match word? (c :: rest) with
      | some found => found
      | none =>
        let number :=
          if c.val = 0x2D then readNumber true 1 rest else readNumber false 0 (c :: rest)
        number.getD (.invalid, 1)

/-- The tokens of a text, `done` being those read so far, last one first. -/
def allFrom (done : List Token) : Text → List Token
  | [] => done.reverse
  | c :: rest =>
    if isBlank c then allFrom done rest
    else
      match read c rest with
      | (.invalid, _) => (.invalid :: done).reverse
      | (token, taken) => allFrom (token :: done) (rest.drop (taken - 1))
  termination_by t => t.length
  decreasing_by all_goals simp only [List.length_cons, List.length_drop]; omega

/-- The tokens of a text. -/
def all (t : Text) : List Token := allFrom [] t

end Token

end VarFile.Json
