import VarFile.Json.Value
import VarFile.Text.Numeral

/-!
# Writing JSON

JSON in ASCII: everything else is written as `\u` escape sequences, in surrogate pairs where needed.
`Json.compact` writes one line, `Json.indented` a line for every item and member.
-/

namespace VarFile.Json

/-- The escape sequence of a number of sixteen bits. -/
def unicodeEscape (n : Nat) : Text :=
  CodePoint.ofNat 0x5C :: CodePoint.ofChar 'u' :: Text.hexadecimal 4 n

/-- How a code point is written in a string. -/
def stringForm (c : CodePoint) : Text :=
  let behind (letter : Char) : Text := [.ofNat 0x5C, letter]
  match c.val with
  | 0x22 => [.ofNat 0x5C, c]
  | 0x5C => [.ofNat 0x5C, c]
  | 0x08 => behind 'b'
  | 0x0C => behind 'f'
  | 0x0A => behind 'n'
  | 0x0D => behind 'r'
  | 0x09 => behind 't'
  | n =>
    if n < 0x20 then unicodeEscape n
    else if n < 0x80 then [c]
    else if n < 0x10000 then unicodeEscape n
    else
      unicodeEscape (0xD800 + (n - 0x10000) / 0x400) ++
        unicodeEscape (0xDC00 + (n - 0x10000) % 0x400)

/-- A text as a string literal. -/
def literal (t : Text) : Text := .ofNat 0x22 :: t.flatMap stringForm ++ [.ofNat 0x22]

/-- A number as it is written. -/
def Number.form : Number → Text
  | .integer n => Text.ofInt 10 n
  | .decimal negative mantissa exponent =>
    (if negative then [CodePoint.ofChar '-'] else []) ++ Text.ofNat 10 mantissa
      ++ CodePoint.ofChar 'e' :: Text.ofInt 10 exponent
  | .infinite negative => if negative then "-Infinity" else "Infinity"
  | .undefined => "NaN"

/-- What stands between the parts of arrays and objects. -/
structure Layout where
  /-- What comes after an opening mark and after a comma, at a depth. -/
  lineBreak : Nat → Text
  /-- What comes after a comma. -/
  gap : Text
  /-- What comes after a colon. -/
  afterColon : Text

/-- Everything on one line. -/
def Layout.oneLine : Layout := ⟨fun _ => [], [], []⟩

/-- A line for every item and member, indented by two spaces a level. -/
def Layout.lines : Layout :=
  ⟨fun depth => CodePoint.ofChar '\n' :: List.replicate (2 * depth) (CodePoint.ofChar ' '), [],
    [CodePoint.ofChar ' ']⟩

/-- The parts of an array or object between its marks. -/
def enclose (layout : Layout) (depth : Nat) (opening closing : CodePoint)
    (parts : List Text) : Text :=
  if parts.isEmpty then [opening, closing]
  else
    opening :: layout.lineBreak (depth + 1)
      ++ List.intercalate (CodePoint.ofChar ',' :: layout.gap ++ layout.lineBreak (depth + 1)) parts
      ++ layout.lineBreak depth ++ [closing]

mutual

/-- A value with a layout at a depth. -/
def form (layout : Layout) (depth : Nat) : Json → Text
  | null => "null"
  | bool b => if b then "true" else "false"
  | number n => n.form
  | string t => literal t
  | array items => enclose layout depth '[' ']' (itemForms layout (depth + 1) items)
  | object members =>
    enclose layout depth (.ofNat 0x7B) (.ofNat 0x7D) (memberForms layout (depth + 1) members)

/-- The items of an array with a layout at a depth. -/
def itemForms (layout : Layout) (depth : Nat) : List Json → List Text
  | [] => []
  | v :: rest => form layout depth v :: itemForms layout depth rest

/-- The members of an object with a layout at a depth. -/
def memberForms (layout : Layout) (depth : Nat) : List (Text × Json) → List Text
  | [] => []
  | (name, v) :: rest =>
    (literal name ++ CodePoint.ofChar ':' :: layout.afterColon ++ form layout depth v)
      :: memberForms layout depth rest

end

/-- A value on one line. -/
def compact (v : Json) : Text := v.form .oneLine 0

/-- A value with a line for every item and member. -/
def indented (v : Json) : Text := v.form .lines 0

end VarFile.Json
