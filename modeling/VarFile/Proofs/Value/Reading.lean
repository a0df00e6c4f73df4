import VarFile.Value.Unquote

/-!
# One step of reading a stored value

What `Segment.parseFrom` and the readers of quoted runs do with the next bytes of a text.
-/

namespace VarFile.Value.Segment

/-- What each kind of segment takes from the start of a text. -/
theorem parseFrom_cons (done : List Segment) (b : UInt8) (rest : Bytes) :
    parseFrom done (b :: rest) =
      if isBlank b ∨ b = semicolon then
        if isTrailer (b != semicolon) rest then .ok done.reverse else .error .trailingText
      else if b = backslash then
        match rest with
        | [] => .error .trailingBackslash
        | e :: rest => parseFrom (.escaped e :: done) rest
      else if b = singleQuote then
        (readSingle [] rest).bind fun p => parseFrom (.single p.1 :: done) p.2
      else if b = doubleQuote then
        (readDouble [] rest).bind fun p => parseFrom (.double p.1 :: done) p.2
      else if b = dollar ∧ rest.head? = some singleQuote then
        (readAnsi [] rest.tail).bind fun p => parseFrom (.ansi p.1 :: done) p.2
      else if isOperator b then .error (.operator b)
      else parseFrom (.plain b :: done) rest := by
  rw [parseFrom.eq_def]
  simp only
  -- The two sides differ in the branches of the quoted runs only.
  congr 3
  · split
    · next h => rw [h]; rfl
    · next h => rw [h]; rfl
  congr 1
  · split
    · next h => rw [h]; rfl
    · next h => rw [h]; rfl
  congr 1
  split
  · next h => rw [h]; rfl
  · next h => rw [h]; rfl

/-- Without bytes the segments read so far are all. -/
theorem parseFrom_nil (done : List Segment) : parseFrom done [] = .ok done.reverse := by
  rw [parseFrom]

/-- What a double-quoted run takes from the start of a text. -/
theorem readDouble_cons (done : List DoubleItem) (b : UInt8) (rest : Bytes) :
    readDouble done (b :: rest) =
      if b = doubleQuote then .ok (done.reverse, rest)
      else if b = backquote ∨ b = dollar then .error .expansion
      else if b = backslash then
        match rest with
        | [] => .error .unterminatedDoubleQuote
        | e :: rest => readDouble (.escaped e :: done) rest
      else readDouble (.plain b :: done) rest := by
  cases rest <;> rfl

/-- What an ANSI-C quoted run takes from the start of a text. -/
theorem readAnsi_cons (done : List AnsiItem) (b : UInt8) (rest : Bytes) :
    readAnsi done (b :: rest) =
      if b = singleQuote then .ok (done.reverse, rest)
      else if b = backslash then
        match rest with
        | [] => .error .unterminatedAnsiQuote
        | e :: rest => (readEscape e rest).bind fun p => readAnsi (p.1 :: done) (rest.drop p.2)
      else readAnsi (.plain b :: done) rest := by
  rw [readAnsi.eq_def]
  simp only
  congr 2
  cases rest with
  | nil => rfl
  | cons e rest => cases h : readEscape e rest <;> simp [h, Except.bind]

end VarFile.Value.Segment
