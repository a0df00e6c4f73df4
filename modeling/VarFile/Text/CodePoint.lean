/-!
# Code points and texts

A text is a list of code points up to U+10FFFF. Surrogates are allowed: a byte of a file that
belongs to no well-formed UTF-8 sequence is kept as one of U+DC80..U+DCFF, and the other
surrogates can come from a caller but have no stored form. `Text.indexOfUnstorable?` finds the
first of these.
-/

namespace VarFile

/-- A number that Unicode assigns to a character, a surrogate or nothing. -/
structure CodePoint where
  val : Nat
  isLt : val < 0x110000
  deriving DecidableEq

/-- A finite sequence of code points. -/
abbrev Text := List CodePoint

namespace CodePoint

/-- The code point of a character. -/
def ofChar (c : Char) : CodePoint :=
  ⟨c.toNat, by
    have := c.valid
    simp only [UInt32.isValidChar, Nat.isValidChar] at this
    simp only [Char.toNat]
    omega⟩

/-- A character stands for its code point. -/
instance : Coe Char CodePoint := ⟨ofChar⟩

/-- The code point with a given number; numbers out of range give the replacement character. -/
def ofNat (n : Nat) : CodePoint :=
  if h : n < 0x110000 then ⟨n, h⟩ else ⟨0xFFFD, by decide⟩

/-- The code point that keeps a byte which belongs to no UTF-8 sequence. -/
def ofByte (b : UInt8) : CodePoint :=
  ⟨0xDC00 + b.toNat, by have := b.toNat_lt; omega⟩

/-- Surrogates are U+D800..U+DFFF. -/
def isSurrogate (c : CodePoint) : Bool := 0xD800 ≤ c.val && c.val ≤ 0xDFFF

/-- U+DC80..U+DCFF each keep one byte of a file. -/
def isRawByte (c : CodePoint) : Bool := 0xDC80 ≤ c.val && c.val ≤ 0xDCFF

/-- A code point has a stored form unless it is a surrogate that keeps no byte. -/
def isStorable (c : CodePoint) : Bool := !c.isSurrogate || c.isRawByte

/-- The character of a code point, unless it is a surrogate. -/
def toChar? (c : CodePoint) : Option Char :=
  if h : c.val.isValidChar then some (Char.ofNatAux c.val h) else none

/-- A code point made from a number in range has that number. -/
theorem val_ofNat {n : Nat} (h : n < 0x110000) : (ofNat n).val = n := by
  simp [ofNat, h]

/-- Code points are equal when their numbers are. -/
theorem ext {c d : CodePoint} (h : c.val = d.val) : c = d := by
  cases c
  cases d
  simp_all

end CodePoint

namespace Text

/-- The code points of a list of characters. -/
def ofChars (cs : List Char) : Text := cs.map CodePoint.ofChar

/-- The code points of a string. -/
def ofString (s : String) : Text := ofChars s.toList

/-- A string stands for its code points. -/
instance : Coe String Text := ⟨ofString⟩

/-- The characters of a text, if it holds no surrogate. -/
def toString? (t : Text) : Option String :=
  (t.mapM CodePoint.toChar?).map String.ofList

/-- Where the first code point without a stored form is, and which one it is. -/
def indexOfUnstorable? (t : Text) : Option (Nat × CodePoint) :=
  match t.dropWhile CodePoint.isStorable with
  | [] => none
  | c :: rest => some (t.length - (rest.length + 1), c)

/-- Several lines: each code point that ends one does, and a last line needs none. -/
def linesAt (isEnd : CodePoint → Bool) (t : Text) : List Text :=
  t.foldr
    (fun (c : CodePoint) ls =>
      if isEnd c then [] :: ls
      else
        match ls with
        | [] => [[c]]
        | l :: ls => (c :: l) :: ls)
    []

/-- The lines of a text that end with newlines. -/
def lines (t : Text) : List Text := t.linesAt (· = '\n')

/-- The pieces between the occurrences of a separator; there is always one more than of these. -/
def splitOn (separator : CodePoint) (t : Text) : List Text :=
  let (first, rest) := t.foldr
    (fun c (first, rest) => if c = separator then ([], first :: rest) else (c :: first, rest))
    ([], [])
  first :: rest

/-- Whether one text occurs in another without gaps. -/
def isInfix (sub : Text) : Text → Bool
  | [] => sub.isEmpty
  | c :: t => sub.isPrefixOf (c :: t) || isInfix sub t

/-- The text without what a predicate holds of at both its ends. -/
def trim (p : CodePoint → Bool) (t : Text) : Text :=
  (((t.dropWhile p).reverse).dropWhile p).reverse

end Text

end VarFile
