import VarFile.Value.Legacy
import VarFile.Value.ByteClass

/-!
# The grammar of stored values

`Denotes` says which stored bytes stand for which bytes of a value: a word, which is a run of
segments, stands for what these denote one after another, and blanks, a semicolon and a comment may
follow it.
-/

namespace VarFile.Value

/-- The letters behind a backslash in an ANSI-C quoted run, each with the byte that it stands
for. -/
def letters : List (UInt8 × UInt8) :=
  [(0x61, 0x07), (0x62, 0x08), (0x65, 0x1B), (0x45, 0x1B), (0x66, 0x0C), (0x6E, 0x0A),
    (0x72, 0x0D), (0x74, 0x09), (0x76, 0x0B), (0x3F, 0x3F), (doubleQuote, doubleQuote),
    (backslash, backslash), (singleQuote, singleQuote)]

/-- No digit follows. -/
def Stops (isDigit : UInt8 → Bool) (rest : Bytes) : Prop := ∀ b ∈ rest.head?, isDigit b = false

/-- At most `limit` digits, and as many of them as there are before `rest`. -/
structure IsRun (isDigit : UInt8 → Bool) (limit : Nat) (digits rest : Bytes) : Prop where
  digit : ∀ d ∈ digits, isDigit d = true
  length_le : digits.length ≤ limit
  longest : digits.length = limit ∨ Stops isDigit rest

/-- What stands behind a backslash in an ANSI-C quoted run before `rest`, and the bytes that it and
the backslash stand for. -/
inductive Escape (rest : Bytes) : Bytes → Bytes → Prop where
  | letter {l b : UInt8} (h : letters.lookup l = some b) : Escape rest [l] [b]
  | octal {digits : Bytes} (hne : digits ≠ []) (h : IsRun isOctalDigit 3 digits rest) :
      Escape rest digits [UInt8.ofNat (number 8 digits % 256)]
  | byte {digits : Bytes} (hne : digits ≠ []) (h : IsRun isHexDigit 2 digits rest) :
      Escape rest (0x78 :: digits) [UInt8.ofNat (number 16 digits)]
  | codePoint {l : UInt8} {limit : Nat} {digits : Bytes} (hl : (l, limit) ∈ [(0x75, 4), (0x55, 8)])
      (hne : digits ≠ []) (h : IsRun isHexDigit limit digits rest)
      (hn : number 16 digits < 0x110000) :
      Escape rest (l :: digits) (CodePoint.utf8 ⟨number 16 digits, hn⟩)
  | literal {b : UInt8} (hl : letters.lookup b = none) (ho : isOctalDigit b = false)
      (hx : b ∈ [0x78, 0x75, 0x55] → Stops isHexDigit rest) : Escape rest [b] [backslash, b]

/-- The inside of an ANSI-C quoted run, and what it stands for. -/
inductive AnsiRun : Bytes → Bytes → Prop where
  | nil : AnsiRun [] []
  | plain {b : UInt8} {text value : Bytes} (hq : b ≠ singleQuote) (hb : b ≠ backslash)
      (h : AnsiRun text value) : AnsiRun (b :: text) (b :: value)
  | escape {e v text value : Bytes} (he : Escape text e v) (h : AnsiRun text value) :
      AnsiRun (backslash :: (e ++ text)) (v ++ value)

/-- The bytes that lose the backslash before them inside double quotes. -/
def Unprotected (legacy : Bool) (b : UInt8) : Prop :=
  b ∈ [dollar, backquote, doubleQuote, backslash] ∨ (legacy = true ∧ b ∈ [singleQuote, tilde])

instance (legacy : Bool) (b : UInt8) : Decidable (Unprotected legacy b) :=
  inferInstanceAs (Decidable (_ ∨ _))

/-- The inside of a double-quoted run, and what it stands for. -/
inductive DoubleRun (legacy : Bool) : Bytes → Bytes → Prop where
  | nil : DoubleRun legacy [] []
  | plain {b : UInt8} {text value : Bytes}
      (hb : b ∉ [dollar, backquote, doubleQuote, backslash]) (h : DoubleRun legacy text value) :
      DoubleRun legacy (b :: text) (b :: value)
  | escaped {b : UInt8} {text value : Bytes} (h : DoubleRun legacy text value) :
      DoubleRun legacy (backslash :: b :: text)
        ((if Unprotected legacy b then [b] else [backslash, b]) ++ value)

/-- The bytes that stand for themselves outside of quotes. -/
structure IsOrdinary (b : UInt8) : Prop where
  blank : isBlank b = false
  operator : isOperator b = false
  other : b ∉ [semicolon, backslash, singleQuote, doubleQuote]

/-- A run of segments, and what it stands for. -/
inductive Word (legacy : Bool) : Bytes → Bytes → Prop where
  | nil : Word legacy [] []
  | plain {b : UInt8} {text value : Bytes} (hb : IsOrdinary b)
      (hd : b = dollar → text.head? ≠ some singleQuote) (h : Word legacy text value) :
      Word legacy (b :: text) (b :: value)
  | escaped {b : UInt8} {text value : Bytes} (h : Word legacy text value) :
      Word legacy (backslash :: b :: text) (b :: value)
  | single {inside text value : Bytes} (hs : singleQuote ∉ inside) (h : Word legacy text value) :
      Word legacy (singleQuote :: (inside ++ singleQuote :: text)) (inside ++ value)
  | double {inside v text value : Bytes} (hi : DoubleRun legacy inside v)
      (h : Word legacy text value) :
      Word legacy (doubleQuote :: (inside ++ doubleQuote :: text)) (v ++ value)
  | ansi {inside v text value : Bytes} (hi : AnsiRun inside v) (h : Word legacy text value) :
      Word legacy (dollar :: singleQuote :: (inside ++ singleQuote :: text)) (v ++ value)

/-- Blanks and at most one semicolon. -/
structure IsGap (gap : Bytes) : Prop where
  mem : ∀ b ∈ gap, isBlank b = true ∨ b = semicolon
  count_le : gap.count semicolon ≤ 1

/-- What may follow a word: nothing, or a gap and maybe a comment behind it. -/
inductive Trailer : Bytes → Prop where
  | nil : Trailer []
  | gap {gap : Bytes} (hne : gap ≠ []) (h : IsGap gap) : Trailer gap
  | comment {gap text : Bytes} (hne : gap ≠ []) (h : IsGap gap) : Trailer (gap ++ hash :: text)

/-- Which stored bytes stand for which bytes of a value. -/
def Denotes (bytes value : Bytes) : Prop :=
  ∃ text trailer, bytes = text ++ trailer ∧ Word (isLegacyForm bytes) text value ∧ Trailer trailer

end VarFile.Value
