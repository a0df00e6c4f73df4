import VarFile.Text.CodePoint

/-!
# Texts as bytes

`Text.toBytes` and `Text.ofBytes` go between texts and UTF-8. A byte that belongs to no well-formed
sequence (overlong forms, encoded surrogates and numbers past U+10FFFF included) becomes one of
U+DC80..U+DCFF and is written back as it was, so no file content is lost.
-/

namespace VarFile

/-- A list of bytes. -/
abbrev Bytes := List UInt8

/-- A text that cannot be stored: the first code point without a stored form, and its place. -/
structure Unstorable where
  index : Nat
  codePoint : CodePoint
  deriving DecidableEq

namespace CodePoint

/-- The UTF-8 pattern of a code point; the one of a surrogate is no well-formed sequence. -/
def utf8 (c : CodePoint) : Bytes :=
  let n := c.val
  if n < 0x80 then [UInt8.ofNat n]
  else if n < 0x800 then [UInt8.ofNat (0xC0 + n / 0x40), UInt8.ofNat (0x80 + n % 0x40)]
  else if n < 0x10000 then
    [UInt8.ofNat (0xE0 + n / 0x1000), UInt8.ofNat (0x80 + n / 0x40 % 0x40),
      UInt8.ofNat (0x80 + n % 0x40)]
  else
    [UInt8.ofNat (0xF0 + n / 0x40000), UInt8.ofNat (0x80 + n / 0x1000 % 0x40),
      UInt8.ofNat (0x80 + n / 0x40 % 0x40), UInt8.ofNat (0x80 + n % 0x40)]

/-- The stored form of a code point: the byte it keeps, or its UTF-8 pattern. -/
def toBytes (c : CodePoint) : Bytes :=
  if c.isRawByte then [UInt8.ofNat (c.val - 0xDC00)] else c.utf8

end CodePoint

namespace Text

/-- The bytes of a text. A code point without a stored form gives its UTF-8 pattern here; `encode`
refuses it. -/
def toBytes (t : Text) : Bytes := t.flatMap CodePoint.toBytes

/-- The bytes that store a text. -/
def encode (t : Text) : Except Unstorable Bytes :=
  match t.indexOfUnstorable? with
  | some (index, c) => .error ⟨index, c⟩
  | none => .ok t.toBytes

/-- Bytes 0x80..0xBF continue a sequence. -/
def isContinuation (b : UInt8) : Bool := 0x80 ≤ b && b ≤ 0xBF

/-- The six bits that a continuation byte carries. -/
def continuationBits (b : UInt8) : Nat := b.toNat - 0x80

/-- The well-formed UTF-8 sequence that starts a list of bytes: its code point and its length. -/
def leading? : Bytes → Option (CodePoint × Nat)
  | [] => none
  | b :: rest =>
    if b < 0x80 then some (.ofNat b.toNat, 1)
    else if 0xC2 ≤ b && b ≤ 0xDF then
      match rest with
      | b1 :: _ =>
        if isContinuation b1 then
          some (.ofNat ((b.toNat - 0xC0) * 0x40 + continuationBits b1), 2)
        else none
      | [] => none
    else if 0xE0 ≤ b && b ≤ 0xEF then
      match rest with
      | b1 :: b2 :: _ =>
        if isContinuation b1 && isContinuation b2 && (b != 0xE0 || 0xA0 ≤ b1)
            && (b != 0xED || b1 ≤ 0x9F) then
          some (.ofNat ((b.toNat - 0xE0) * 0x1000 + continuationBits b1 * 0x40
            + continuationBits b2), 3)
        else none
      | _ => none
    else if 0xF0 ≤ b && b ≤ 0xF4 then
      match rest with
      | b1 :: b2 :: b3 :: _ =>
        if isContinuation b1 && isContinuation b2 && isContinuation b3
            && (b != 0xF0 || 0x90 ≤ b1) && (b != 0xF4 || b1 ≤ 0x8F) then
          some (.ofNat ((b.toNat - 0xF0) * 0x40000 + continuationBits b1 * 0x1000
            + continuationBits b2 * 0x40 + continuationBits b3), 4)
        else none
      | _ => none
    else none

/-- Reads bytes after the first `skip` of them, which belong to a sequence already read. -/
def ofBytesFrom (skip : Nat) (done : Text) : Bytes → Text
  | [] => done.reverse
  | b :: rest =>
    match skip with
    | skip + 1 => ofBytesFrom skip done rest
    | 0 =>
      match leading? (b :: rest) with
      | some (c, length) => ofBytesFrom (length - 1) (c :: done) rest
      | none => ofBytesFrom 0 (.ofByte b :: done) rest

/-- The text of a list of bytes; each byte outside a well-formed sequence is kept by itself. -/
def ofBytes (bytes : Bytes) : Text := ofBytesFrom 0 [] bytes

/-- Whether every byte belongs to a well-formed sequence. -/
def isUtf8 (bytes : Bytes) : Bool := (ofBytes bytes).all (!·.isSurrogate)

end Text

end VarFile
