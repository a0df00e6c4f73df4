import VarFile.Text.Blank
import VarFile.Text.DecimalDigit
import VarFile.Text.Quoted
import VarFile.Text.WordTable

/-!
# Items of tags

What stands in a tag: keys with values, percentages, colours, words and names of variables, with
white space between them. Each function here gives what follows such an item at the start of a
text, if there is one.
-/

namespace VarFile.Text.TagItem

/-- What follows a sign. -/
def afterSign? (sign : CodePoint) : Text → Option Text
  | [] => none
  | c :: t => if c = sign then some t else none

/-- What follows one or more code points of a kind. -/
def afterRun? (p : CodePoint → Bool) : Text → Option Text
  | [] => none
  | c :: t => if p c then some (t.dropWhile p) else none

/-- The letters and digits of ASCII. -/
def isAlphanumeric (c : CodePoint) : Bool :=
  (0x30 ≤ c.val && c.val ≤ 0x39) || (0x41 ≤ c.val && c.val ≤ 0x5A)
    || (0x61 ≤ c.val && c.val ≤ 0x7A)

/-- What names are made of: letters, digits, the underscore and the hyphen. -/
def isNamePart (c : CodePoint) : Bool := isAlphanumeric c || c = '_' || c = '-'

/-- What words are made of, and names start with: all that names are made of but digits. -/
def isNameStart (c : CodePoint) : Bool := isNamePart c && !(0x30 ≤ c.val && c.val ≤ 0x39)

/-- Hexadecimal digits. -/
def isHexadecimal (c : CodePoint) : Bool :=
  (0x30 ≤ c.val && c.val ≤ 0x39) || (0x41 ≤ c.val && c.val ≤ 0x46)
    || (0x61 ≤ c.val && c.val ≤ 0x66)

/-- Decimal digits of any script. -/
def isDigit (c : CodePoint) : Bool := c.digit?.isSome

/-- A text without the white space at its start. -/
def skipBlanks (t : Text) : Text := t.dropWhile CodePoint.isWhitespace

/-- What follows a key and its equals sign. -/
def afterKey? : Text → Option Text
  | [] => none
  | c :: t => if c = '@' || isNameStart c then afterSign? '=' (t.dropWhile isNamePart) else none

/-- What follows a number: digits, with a hyphen before them or a point in or after them. -/
def afterNumber? (t : Text) : Option Text :=
  (afterRun? isDigit ((afterSign? '-' t).getD t)).map fun t =>
    match afterSign? '.' t with
    | some t => t.dropWhile isDigit
    | none => t

/-- What follows a percentage. -/
def afterPercentage? (t : Text) : Option Text := (afterNumber? t).bind (afterSign? '%')

/-- What follows a colour of three, four, six or eight hexadecimal digits. -/
def afterHexColour? (t : Text) : Option Text :=
  (afterSign? '#' t).bind fun t =>
    let digits := (t.takeWhile isHexadecimal).length
    ([8, 6, 4, 3].find? (· ≤ digits)).map t.drop

/-- What follows some items with commas between them. -/
def afterList? : List (Text → Option Text) → Text → Option Text
  | [], t => some t
  | [item], t => item t
  | item :: items, t =>
    (item t).bind fun t =>
      (afterSign? ',' (skipBlanks t)).bind fun t => afterList? items (skipBlanks t)

/-- What follows a name and some items in parentheses. -/
def afterCall? (name : Text) (items : List (Text → Option Text)) (t : Text) : Option Text :=
  if name.isPrefixOf t then
    (afterSign? '(' (t.drop name.length)).bind fun t =>
      (afterList? items (skipBlanks t)).bind fun t => afterSign? ')' (skipBlanks t)
  else none

/-- What follows a colour: its digits, or its parts by one of two systems, with its opacity or
without. -/
def afterColour? (t : Text) : Option Text :=
  afterHexColour? t
    <|> afterCall? "rgb" [afterNumber?, afterNumber?, afterNumber?] t
    <|> afterCall? "rgba" [afterNumber?, afterNumber?, afterNumber?, afterNumber?] t
    <|> afterCall? "hsl" [afterNumber?, afterPercentage?, afterPercentage?] t
    <|> afterCall? "hsla" [afterNumber?, afterPercentage?, afterPercentage?, afterNumber?] t

/-- What follows the name of a variable. -/
def afterVariable? (t : Text) : Option Text := (afterSign? '$' t).bind (afterRun? isNamePart)

/-- What follows an item of a tag that is no key. -/
def after? (t : Text) : Option Text :=
  afterPercentage? t <|> afterColour? t <|> afterRun? isNameStart t <|> afterVariable? t
    <|> afterRun? CodePoint.isWhitespace t

/-- What follows a text in quotes. -/
def afterQuoted? (quote : CodePoint) (t : Text) : Option Text :=
  (afterSign? quote t).bind fun t => afterSign? quote (t.dropWhile (· != quote))

/-- Brackets of all kinds and the comma. -/
def isValueSign (c : CodePoint) : Bool :=
  [0x28, 0x29, 0x2C, 0x5B, 0x5D, 0x7B, 0x7D].contains c.val

/-- What follows a part of a value: a code point of a word, a point, a bracket, a comma, white space
or a text in quotes. -/
def afterValuePart? : Text → Option Text
  | [] => none
  | c :: t =>
    if c.isWordPart || c = '.' || isValueSign c || c.isWhitespace then some t
    else afterQuoted? doubleQuote (c :: t) <|> afterQuoted? apostrophe (c :: t)

end VarFile.Text.TagItem
