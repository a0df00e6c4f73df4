import VarFile.Key
import VarFile.Value.ByteClass

/-!
# What the shell sees in a line

`Shell.tokens` reads a line by the rules of quoting that values are read with (specification,
section 4): blanks and operators separate words, a number sign at the start of a word makes the rest
a comment, and a backslash and three kinds of quotes protect what they enclose. What counts as a
blank is a parameter. `Shell.Harmless` are the lines on which the shell does no more than set a
variable.

The shell itself (`Shell.read`) has fewer blanks than values. It also takes two dollar signs before
a single quote for a parameter before plain quotes, reads what backquotes, braces and brackets
enclose behind a dollar sign by rules of their own, and skips zero bytes. Where none of these is
(`Shell.IsPlain`) it finds the same tokens (`Shell.readFrom_of_isPlain`).
-/

namespace VarFile.Shell

open Value (backslash singleQuote doubleQuote dollar backquote semicolon hash)

/-- The blanks of the shell: space and tab. -/
def isBlank (b : UInt8) : Bool := b == 0x20 || b == 0x09

/-- The operators of the shell: `;` and those that no value may hold unquoted. -/
def isOperator (b : UInt8) : Bool := b == semicolon || Value.isOperator b

/-- What protects a byte of a word. -/
inductive Quoting where
  /-- Nothing does; a quote behind an unquoted dollar sign is one of another kind. -/
  | outside (afterDollar : Bool)
  | escaped
  | single
  | double
  | doubleEscaped
  | ansi
  | ansiEscaped
  deriving DecidableEq

namespace Quoting

/-- Whether a blank or an operator ends the word. -/
def isOutside : Quoting → Bool
  | outside _ => true
  | _ => false

/-- What protects the next byte. -/
def next : Quoting → UInt8 → Quoting
  | outside afterDollar, b =>
    if b = backslash then escaped
    else if b = singleQuote then if afterDollar then ansi else single
    else if b = doubleQuote then double
    else outside (b == dollar)
  | escaped, _ => outside false
  | single, b => if b = singleQuote then outside false else single
  | double, b =>
    if b = doubleQuote then outside false else if b = backslash then doubleEscaped else double
  | doubleEscaped, _ => double
  | ansi, b =>
    if b = singleQuote then outside false else if b = backslash then ansiEscaped else ansi
  | ansiEscaped, _ => ansi

end Quoting

/-- A piece of a line. -/
inductive Token where
  | word (text : Bytes)
  | blank (b : UInt8)
  | operator (b : UInt8)
  | comment (text : Bytes)
  deriving DecidableEq

/-- Blanks only separate. -/
def Token.isBlank : Token → Bool
  | blank _ => true
  | _ => false

/-- The tokens that do more than that. -/
def significant (ts : List Token) : List Token := ts.filter (!·.isBlank)

/-- What a byte outside of quotes is if it belongs to no word. -/
def separator? (isBlank : UInt8 → Bool) (b : UInt8) : Option Token :=
  if isBlank b then some (.blank b) else if isOperator b then some (.operator b) else none

/-- Where the shell is in a line. -/
inductive Place where
  | between
  /-- In a word, of which `done` was read, last byte first. -/
  | inWord (quoting : Quoting) (done : Bytes)

/-- The tokens of the rest of a line; nothing if a quote or a backslash has no end in it. -/
def tokensFrom (isBlank : UInt8 → Bool) : Place → Bytes → Option (List Token)
  | .between, [] => some []
  | .inWord quoting done, [] => if quoting.isOutside then some [.word done.reverse] else none
  | .between, b :: rest =>
    match separator? isBlank b with
    | some t => (tokensFrom isBlank .between rest).map (t :: ·)
    | none =>
      if b = hash then some [.comment (b :: rest)]
      else tokensFrom isBlank (.inWord ((Quoting.outside false).next b) [b]) rest
  | .inWord quoting done, b :: rest =>
    match if quoting.isOutside then separator? isBlank b else none with
    | some t => (tokensFrom isBlank .between rest).map (.word done.reverse :: t :: ·)
    | none => tokensFrom isBlank (.inWord (quoting.next b) (b :: done)) rest

/-- The tokens of a line. -/
def tokens (isBlank : UInt8 → Bool) (line : Bytes) : Option (List Token) :=
  tokensFrom isBlank .between line

/-- What stands in a line as a token, if it is no comment. -/
def Token.code : Token → Bytes
  | word text => text
  | blank b | operator b => [b]
  | comment _ => []

/-- What stands in a line before the comment. -/
def code (ts : List Token) : Bytes := ts.flatMap Token.code

/-! ### The shell itself -/

/-- The opening parenthesis. -/
abbrev parenthesis : UInt8 := 0x28

/-- The opening brace. -/
abbrev brace : UInt8 := 0x7B

/-- The opening bracket. -/
abbrev bracket : UInt8 := 0x5B

/-- Whether the shell reads on in another way at a byte before others: it skips the byte, takes two
dollar signs for a parameter where one of them would belong to a quote, or looks for the end of an
expansion. -/
def Quoting.departs : Quoting → UInt8 → Bytes → Bool
  | outside _, b, rest =>
    b == 0 || b == backquote ||
      b == dollar && ([parenthesis, brace, bracket].any (rest.head? == some ·) ||
        [dollar, singleQuote].isPrefixOf rest)
  | double, b, _ => b == 0 || b == backquote || b == dollar
  | _, b, _ => b == 0

/-- Whether the shell reads all bytes of a text in the same way. -/
def isPlain : Quoting → Bytes → Bool
  | _, [] => true
  | quoting, b :: rest => !quoting.departs b rest && isPlain (quoting.next b) rest

/-- The tokens that the shell finds from a place on; nothing if it reads on in another way
somewhere. -/
def readFrom (place : Place) (line : Bytes) : Option (List Token) :=
  (tokensFrom isBlank place line).filter fun ts => isPlain (.outside false) (code ts)

/-- The tokens that the shell finds in a line. -/
def read (line : Bytes) : Option (List Token) := readFrom .between line

/-- Tokens that the shell finds as well: only its own blanks separate them, and before the comment
it reads all bytes in the same way. -/
structure IsPlain (ts : List Token) : Prop where
  blanks : ∀ b, .blank b ∈ ts → isBlank b = true
  code : isPlain (.outside false) (code ts) = true

/-- A word `NAME=text`. -/
def IsAssignment (word : Bytes) : Prop :=
  ∃ name text, Key.isValid name = true ∧ word = name.toBytes ++ 0x3D :: text

/-- Nothing, or a comment. -/
def IsRemark (ts : List Token) : Prop := ts = [] ∨ ∃ text, ts = [.comment text]

/-- What makes the shell run nothing, blanks aside: a remark, or one assignment before a remark,
with a semicolon between them or without one. -/
inductive Harmless : List Token → Prop where
  | remark {ts : List Token} (h : IsRemark ts) : Harmless ts
  | assignment {word : Bytes} {ts : List Token} (hw : IsAssignment word) (h : IsRemark ts) :
      Harmless (.word word :: ts)
  | terminated {word : Bytes} {ts : List Token} (hw : IsAssignment word) (h : IsRemark ts) :
      Harmless (.word word :: .operator semicolon :: ts)

/-- A line that is harmless by the rules of values. -/
def IsHarmless (line : Bytes) : Prop :=
  ∃ ts, tokens Value.isBlank line = some ts ∧ Harmless (significant ts)

/-! ### Words -/

section Words

variable {isBlank : UInt8 → Bool}

/-- What protects the byte behind some bytes of a word; nothing if one of them ends the word. -/
def Quoting.after? (isBlank : UInt8 → Bool) : Quoting → Bytes → Option Quoting
  | quoting, [] => some quoting
  | quoting, b :: rest =>
    if quoting.isOutside && (separator? isBlank b).isSome then none
    else Quoting.after? isBlank (quoting.next b) rest

/-- Bytes of a word are read one after another. -/
theorem Quoting.after?_append (quoting : Quoting) (s t : Bytes) :
    quoting.after? isBlank (s ++ t) = (quoting.after? isBlank s).bind (·.after? isBlank t) := by
  induction s generalizing quoting with
  | nil => rfl
  | cons b s ih =>
    rw [List.cons_append, Quoting.after?, Quoting.after?]
    split
    · rfl
    · exact ih _

/-- Inside of quotes, a byte is read whatever it is. -/
theorem Quoting.after?_cons {quoting : Quoting} (h : quoting.isOutside = false) (b : UInt8)
    (rest : Bytes) :
    quoting.after? isBlank (b :: rest) = (quoting.next b).after? isBlank rest := by
  rw [Quoting.after?, h, Bool.false_and, if_neg (by decide)]

/-- Outside of quotes, a byte that does not end the word is read. -/
theorem Quoting.after?_outside {b : UInt8} (h : separator? isBlank b = none) (afterDollar : Bool)
    (rest : Bytes) :
    (outside afterDollar).after? isBlank (b :: rest) =
      ((outside afterDollar).next b).after? isBlank rest := by
  rw [Quoting.after?, h, Option.isSome_none, Bool.and_false, if_neg (by decide)]

/-- Bytes that change nothing leave quotes open. -/
theorem Quoting.after?_eq_self {quoting : Quoting} {text : Bytes}
    (h : quoting.isOutside = false) (same : ∀ b ∈ text, quoting.next b = quoting) :
    quoting.after? isBlank text = some quoting := by
  induction text with
  | nil => rfl
  | cons b text ih =>
    obtain ⟨hb, later⟩ := List.forall_mem_cons.1 same
    rw [after?_cons h, hb, ih later]

/-- Bytes that do not end a word are added to it. -/
theorem tokensFrom_append {quoting quoting' : Quoting} {text : Bytes}
    (h : quoting.after? isBlank text = some quoting') (done rest : Bytes) :
    tokensFrom isBlank (.inWord quoting done) (text ++ rest) =
      tokensFrom isBlank (.inWord quoting' (text.reverse ++ done)) rest := by
  induction text generalizing quoting done with
  | nil =>
    rw [Quoting.after?, Option.some.injEq] at h
    rw [h, List.nil_append, List.reverse_nil, List.nil_append]
  | cons b text ih =>
    rw [Quoting.after?] at h
    split at h
    · cases h
    · next hb =>
      have inside : (if quoting.isOutside then separator? isBlank b else none) = none := by
        cases ho : quoting.isOutside <;> simp_all
      rw [List.cons_append, tokensFrom, inside]
      simp only [ih h, List.reverse_cons, List.append_assoc, List.singleton_append]

/-- A byte that is no separator and starts no comment starts a word. -/
theorem tokensFrom_between {b : UInt8} (hs : separator? isBlank b = none) (hh : b ≠ hash)
    (rest : Bytes) :
    tokensFrom isBlank .between (b :: rest) =
      tokensFrom isBlank (.inWord (.outside false) []) (b :: rest) := by
  rw [tokensFrom, tokensFrom, hs]
  simp [hh, Quoting.isOutside]

/-- A word goes up to a separator or to the end of the line. -/
theorem tokensFrom_inWord {rest : Bytes}
    (h : ∀ b ∈ rest.head?, (separator? isBlank b).isSome = true) (afterDollar : Bool)
    (done : Bytes) :
    tokensFrom isBlank (.inWord (.outside afterDollar) done) rest =
      (tokensFrom isBlank .between rest).map (.word done.reverse :: ·) := by
  cases rest with
  | nil => rfl
  | cons b rest =>
    obtain ⟨t, ht⟩ := Option.isSome_iff_exists.1 (h b rfl)
    simp only [tokensFrom, Quoting.isOutside, if_true, ht, Option.map_map]
    rfl

/-- Separators are tokens of their own. -/
theorem tokensFrom_separators {gap : Bytes}
    (h : ∀ b ∈ gap, (separator? isBlank b).isSome = true) (rest : Bytes) :
    tokensFrom isBlank .between (gap ++ rest) =
      (tokensFrom isBlank .between rest).map (gap.filterMap (separator? isBlank) ++ ·) := by
  induction gap with
  | nil => simp
  | cons b gap ih =>
    obtain ⟨hb, hgap⟩ := List.forall_mem_cons.1 h
    obtain ⟨t, ht⟩ := Option.isSome_iff_exists.1 hb
    rw [List.cons_append, tokensFrom, ht]
    simp only [ih hgap, Option.map_map, List.filterMap_cons_some ht]
    rfl

end Words

/-! ### Two choices of blanks -/

/-- The blanks of the shell are blanks of values. -/
theorem isBlank_of_isBlank {b : UInt8} (h : isBlank b = true) : Value.isBlank b = true := by
  rw [isBlank, Bool.or_eq_true, beq_iff_eq, beq_iff_eq] at h
  rcases h with rfl | rfl <;> rfl

section Blanks

variable {isBlank isBlank' : UInt8 → Bool} (fewer : ∀ b, isBlank' b = true → isBlank b = true)

include fewer

/-- What separates no words does not with fewer blanks. -/
theorem separator?_eq_none_of_blanks {b : UInt8} (h : separator? isBlank b = none) :
    separator? isBlank' b = none := by
  unfold separator? at h ⊢
  split at h
  · cases h
  · next hb => rwa [if_neg fun hb' => hb (fewer b hb')]

private theorem separator?_eq_some_of_blanks {b : UInt8} {t : Token}
    (h : separator? isBlank b = some t)
    (ht : ∀ c, t = .blank c → isBlank' c = true) : separator? isBlank' b = some t := by
  unfold separator? at h ⊢
  split at h
  · cases h
    rw [if_pos (ht b rfl)]
  · next hb => rwa [if_neg fun hb' => hb (fewer b hb')]

/-- A line is read alike with fewer blanks if all those that were found are still blanks. -/
theorem tokensFrom_of_blanks {place : Place} {line : Bytes} {ts : List Token}
    (h : tokensFrom isBlank place line = some ts)
    (hb : ∀ b, .blank b ∈ ts → isBlank' b = true) : tokensFrom isBlank' place line = some ts := by
  fun_induction tokensFrom isBlank place line generalizing ts with
  | case1 => exact h
  | case2 quoting done ho => rwa [tokensFrom, if_pos ho]
  | case3 => cases h
  | case4 b rest t ht ih =>
    obtain ⟨ts, hts, rfl⟩ := Option.map_eq_some_iff.1 h
    have same := separator?_eq_some_of_blanks fewer ht fun c hc => hb c (hc ▸ List.mem_cons_self)
    rw [tokensFrom, same]
    simp only [ih hts fun c hc => hb c (List.mem_cons_of_mem t hc), Option.map_some]
  | case5 rest hs =>
    rw [tokensFrom, separator?_eq_none_of_blanks fewer hs]
    exact h
  | case6 b rest hs hh ih =>
    rw [tokensFrom, separator?_eq_none_of_blanks fewer hs]
    simp only [if_neg hh, ih h hb]
  | case7 quoting done b rest t ht ih =>
    obtain ⟨ts, hts, rfl⟩ := Option.map_eq_some_iff.1 h
    cases ho : quoting.isOutside with
    | false => rw [ho] at ht; cases ht
    | true =>
      rw [ho, if_pos rfl] at ht
      have same := separator?_eq_some_of_blanks fewer ht fun c hc => hb c (by simp [hc])
      rw [tokensFrom, ho, if_pos rfl, same]
      simp only [ih hts fun c hc => hb c (by simp [hc]), Option.map_some]
  | case8 quoting done b rest hs ih =>
    have same : (if quoting.isOutside then separator? isBlank' b else none) = none := by
      cases ho : quoting.isOutside with
      | false => rfl
      | true =>
        rw [ho, if_pos rfl] at hs
        exact separator?_eq_none_of_blanks fewer hs
    rw [tokensFrom, same]
    exact ih h hb

end Blanks

/-- The shell finds plain tokens as well. -/
theorem readFrom_of_isPlain {place : Place} {line : Bytes} {ts : List Token}
    (h : tokensFrom Value.isBlank place line = some ts) (plain : IsPlain ts) :
    readFrom place line = some ts := by
  have fewer (b : UInt8) : isBlank b = true → Value.isBlank b = true := isBlank_of_isBlank
  rw [readFrom, tokensFrom_of_blanks fewer h plain.blanks, Option.filter_some, plain.code,
    if_pos rfl]

end VarFile.Shell
