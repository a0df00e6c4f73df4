import VarFile.Value.ByteClass

/-!
# Segments of a stored value

The stored text of a value is a run of segments: ordinary bytes, bytes behind a backslash, and the
three kinds of quoted runs. `Segment.written` is the text of a segment and `Segment.denoted` what
it stands for; `Segment.parse` finds the segments of a text and refuses what the shell would expand,
run or continue on the next line.
-/

namespace VarFile.Value

/-- Why a stored text has no value. Specification, section 4.2. -/
inductive Malformed where
  | unstorable (cause : Unstorable)
  | trailingBackslash
  | unterminatedSingleQuote
  | unterminatedDoubleQuote
  | unterminatedAnsiQuote
  | expansion
  | operator (b : UInt8)
  | trailingText
  | codePointTooLarge (n : Nat)
  deriving DecidableEq

/-- A piece of a double-quoted run. -/
inductive DoubleItem where
  /-- A byte that stands for itself. -/
  | plain (b : UInt8)
  /-- A byte behind a backslash. -/
  | escaped (b : UInt8)
  deriving DecidableEq

/-- A piece of an ANSI-C quoted run. -/
inductive AnsiItem where
  /-- A byte that stands for itself. -/
  | plain (b : UInt8)
  /-- A letter or quote behind a backslash, and the byte it stands for. -/
  | symbol (letter b : UInt8)
  /-- One to three octal digits behind a backslash. -/
  | octal (digits : Bytes)
  /-- One or two hexadecimal digits behind `\x`. -/
  | byte (digits : Bytes)
  /-- Hexadecimal digits of a code point behind `\u` or `\U`. -/
  | codePoint (letter : UInt8) (digits : Bytes)
  /-- A backslash that stands for itself, and the byte after it. -/
  | literal (b : UInt8)
  deriving DecidableEq

/-- A piece of a stored value. -/
inductive Segment where
  | plain (b : UInt8)
  | escaped (b : UInt8)
  | single (bytes : Bytes)
  | double (items : List DoubleItem)
  | ansi (items : List AnsiItem)
  deriving DecidableEq

/-- The letters that stand for one byte behind a backslash in an ANSI-C quoted run. Specification,
section 4.2. -/
def symbolByte? (letter : UInt8) : Option UInt8 :=
  if letter = 0x61 then some 0x07
  else if letter = 0x62 then some 0x08
  else if letter = 0x65 ∨ letter = 0x45 then some 0x1B
  else if letter = 0x66 then some 0x0C
  else if letter = 0x6E then some 0x0A
  else if letter = 0x72 then some 0x0D
  else if letter = 0x74 then some 0x09
  else if letter = 0x76 then some 0x0B
  else if letter = 0x3F ∨ letter = doubleQuote ∨ letter = backslash ∨ letter = singleQuote then
    some letter
  else none

/-- How many hexadecimal digits may follow `\x`, `\u` and `\U`. -/
def hexLimit? (letter : UInt8) : Option Nat :=
  if letter = 0x78 then some 2
  else if letter = 0x75 then some 4
  else if letter = 0x55 then some 8
  else none

namespace DoubleItem

/-- The text of a piece. -/
def written : DoubleItem → Bytes
  | .plain b => [b]
  | .escaped b => [backslash, b]

/-- What a piece stands for: a backslash is dropped before the bytes it protects, and in the legacy
form also before those that older writers protected. -/
def denoted (legacy : Bool) : DoubleItem → Bytes
  | .plain b => [b]
  | .escaped b =>
    if needsBackslash b || (legacy && neededLegacyBackslash b) then [b] else [backslash, b]

end DoubleItem

namespace AnsiItem

/-- The text of a piece. -/
def written : AnsiItem → Bytes
  | .plain b => [b]
  | .symbol letter _ => [backslash, letter]
  | .octal digits => backslash :: digits
  | .byte digits => backslash :: 0x78 :: digits
  | .codePoint letter digits => backslash :: letter :: digits
  | .literal b => [backslash, b]

/-- What a piece stands for; octal numbers past one byte lose their high bits. -/
def denoted : AnsiItem → Bytes
  | .plain b => [b]
  | .symbol _ b => [b]
  | .octal digits => [UInt8.ofNat (number 8 digits)]
  | .byte digits => [UInt8.ofNat (number 16 digits)]
  | .codePoint _ digits => (CodePoint.ofNat (number 16 digits)).utf8
  | .literal b => [backslash, b]

end AnsiItem

namespace Segment

/-- The text of a segment. -/
def written : Segment → Bytes
  | .plain b => [b]
  | .escaped b => [backslash, b]
  | .single bytes => singleQuote :: bytes ++ [singleQuote]
  | .double items => doubleQuote :: items.flatMap DoubleItem.written ++ [doubleQuote]
  | .ansi items => dollar :: singleQuote :: items.flatMap AnsiItem.written ++ [singleQuote]

/-- What a segment stands for. -/
def denoted (legacy : Bool) : Segment → Bytes
  | .plain b => [b]
  | .escaped b => [b]
  | .single bytes => bytes
  | .double items => items.flatMap (DoubleItem.denoted legacy)
  | .ansi items => items.flatMap AnsiItem.denoted

/-- Whether nothing but blanks, semicolons as far as one is `allowed`, and a comment follows.
Specification, section 4.2. -/
def isTrailer (allowed : Bool) : Bytes → Bool
  | [] => true
  | b :: rest =>
    if isBlank b then isTrailer allowed rest
    else if b = semicolon ∧ allowed then isTrailer false rest
    else b == hash

/-- Reads a single-quoted run after its opening quote: its bytes and what follows it. Specification,
section 4.2. -/
def readSingle (done : Bytes) : Bytes → Except Malformed (Bytes × Bytes)
  | [] => .error .unterminatedSingleQuote
  | b :: rest => if b = singleQuote then .ok (done.reverse, rest) else readSingle (b :: done) rest

/-- Reads a double-quoted run after its opening quote: its pieces and what follows it.
Specification, section 4.2. -/
def readDouble (done : List DoubleItem) : Bytes → Except Malformed (List DoubleItem × Bytes)
  | [] => .error .unterminatedDoubleQuote
  | b :: rest =>
    if b = doubleQuote then .ok (done.reverse, rest)
    else if b = backquote ∨ b = dollar then .error .expansion
    else if b = backslash then
      match rest with
      | [] => .error .unterminatedDoubleQuote
      | e :: rest => readDouble (.escaped e :: done) rest
    else readDouble (.plain b :: done) rest

/-- The digits at the start of some bytes, at most `limit` of them. -/
def leadingDigits (isDigit : UInt8 → Bool) (limit : Nat) (bytes : Bytes) : Bytes :=
  (bytes.take limit).takeWhile isDigit

/-- Reads one piece of an ANSI-C quoted run after its backslash, from the byte `e` on: the piece and
how many of the bytes in `rest` it takes. Specification, section 4.2. -/
def readEscape (e : UInt8) (rest : Bytes) : Except Malformed (AnsiItem × Nat) :=
  match symbolByte? e with
  | some b => .ok (.symbol e b, 0)
  | none =>
    if isOctalDigit e then
      let digits := leadingDigits isOctalDigit 2 rest
      .ok (.octal (e :: digits), digits.length)
    else
      match hexLimit? e with
      | none => .ok (.literal e, 0)
      | some limit =>
        let digits := leadingDigits isHexDigit limit rest
        if digits.isEmpty then .ok (.literal e, 0)
        else if e = 0x78 then .ok (.byte digits, digits.length)
        else if number 16 digits < 0x110000 then .ok (.codePoint e digits, digits.length)
        else .error (.codePointTooLarge (number 16 digits))

/-- Reads an ANSI-C quoted run after its opening quote: its pieces and what follows it. -/
def readAnsi (done : List AnsiItem) : Bytes → Except Malformed (List AnsiItem × Bytes)
  | [] => .error .unterminatedAnsiQuote
  | b :: rest =>
    if b = singleQuote then .ok (done.reverse, rest)
    else if b = backslash then
      match rest with
      | [] => .error .unterminatedAnsiQuote
      | e :: rest =>
        match readEscape e rest with
        | .error cause => .error cause
        | .ok (item, taken) => readAnsi (item :: done) (rest.drop taken)
    else readAnsi (.plain b :: done) rest
  termination_by bytes => bytes.length
  decreasing_by
    · simp only [List.length_drop, List.length_cons]
      omega
    · simp only [List.length_cons]
      omega

/-- A single-quoted run ends inside the bytes it was read from. -/
theorem length_lt_of_readSingle {done bytes read rest : Bytes}
    (h : readSingle done bytes = .ok (read, rest)) : rest.length < bytes.length := by
  fun_induction readSingle done bytes with
  | case1 => cases h
  | case2 => cases h; simp
  | case3 _ _ _ _ ih => exact Nat.lt_succ_of_lt (ih h)

/-- A double-quoted run ends inside the bytes it was read from. -/
theorem length_lt_of_readDouble {done read : List DoubleItem} {bytes rest : Bytes}
    (h : readDouble done bytes = .ok (read, rest)) : rest.length < bytes.length := by
  fun_induction readDouble done bytes with
  | case1 => cases h
  | case2 => cases h; simp
  | case3 => cases h
  | case4 => cases h
  | case5 _ _ _ _ _ ih => exact Nat.lt_succ_of_lt (Nat.lt_succ_of_lt (ih h))
  | case6 _ _ _ _ _ _ ih => exact Nat.lt_succ_of_lt (ih h)

/-- An ANSI-C quoted run ends inside the bytes it was read from. -/
theorem length_lt_of_readAnsi {done read : List AnsiItem} {bytes rest : Bytes}
    (h : readAnsi done bytes = .ok (read, rest)) : rest.length < bytes.length := by
  fun_induction readAnsi done bytes with
  | case1 => cases h
  | case2 => cases h; simp
  | case3 => cases h
  | case4 => cases h
  | case5 _ _ _ _ _ _ _ ih =>
    have := ih h
    simp only [List.length_drop, List.length_cons] at this ⊢
    omega
  | case6 _ _ _ _ _ ih => exact Nat.lt_succ_of_lt (ih h)

/-- The segments of a text, `done` being those read so far, last one first. -/
def parseFrom (done : List Segment) : Bytes → Except Malformed (List Segment)
  | [] => .ok done.reverse
  | b :: rest =>
    if isBlank b ∨ b = semicolon then
      if isTrailer (b != semicolon) rest then .ok done.reverse else .error .trailingText
    else if b = backslash then
      match rest with
      | [] => .error .trailingBackslash
      | e :: rest => parseFrom (.escaped e :: done) rest
    else if b = singleQuote then
      match h : readSingle [] rest with
      | .error cause => .error cause
      | .ok (bytes, after) =>
        have := length_lt_of_readSingle h
        parseFrom (.single bytes :: done) after
    else if b = doubleQuote then
      match h : readDouble [] rest with
      | .error cause => .error cause
      | .ok (items, after) =>
        have := length_lt_of_readDouble h
        parseFrom (.double items :: done) after
    else if b = dollar ∧ rest.head? = some singleQuote then
      match h : readAnsi [] rest.tail with
      | .error cause => .error cause
      | .ok (items, after) =>
        have := length_lt_of_readAnsi h
        parseFrom (.ansi items :: done) after
    else if isOperator b then .error (.operator b)
    else parseFrom (.plain b :: done) rest
  termination_by bytes => bytes.length
  decreasing_by all_goals simp_all only [List.length_cons, List.length_tail]; omega

/-- The segments of a stored text up to its trailer. Specification, section 4.2. -/
def parse (bytes : Bytes) : Except Malformed (List Segment) := parseFrom [] bytes

end Segment

end VarFile.Value
