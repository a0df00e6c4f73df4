import VarFile.Proofs.Shell.Literal

/-!
# Quoted values in the shell

The stored text that `quote` gives is one line, and an assignment of it is one word to the shell,
which expands nothing in it and takes it for the bytes of the value (`Value.quote_inert`).
`Style.Fits` says which values are written in which way, and `Style.Shape` what the shell finds in
each.
-/

namespace VarFile.Value

open Shell (Quoting literal? literal?_cons literal?_quote doubleProtected)

/-! ### The three shapes -/

/-- The printable bytes that are not written plainly. -/
def special : Bytes :=
  [0x20, doubleQuote, backslash, dollar, backquote, singleQuote, tilde, 0x7C, 0x26, semicolon,
    0x28, 0x29, 0x3C, 0x3E]

namespace Style

/-- Which values are written in a way. -/
def Fits (value : Bytes) : Style → Prop
  | plain => ∀ b ∈ value, 0x20 ≤ b ∧ b ∉ special
  | doubleQuoted => (∃ b ∈ value, b < 0x20 ∨ b ∈ special) ∧ ∀ b ∈ value, b < 0x20 → b = 0x09
  | ansiQuoted => ∃ b ∈ value, b < 0x20 ∧ b ≠ 0x09

/-- The stored text of a value in one of the ways, and what the shell reads in it. -/
def Shape (value stored : Bytes) (read : List (Quoting × UInt8)) : Style → Prop
  | plain => stored = value ∧ read = value.map (.outside false, ·)
  | doubleQuoted => ∃ inside, stored = doubleQuote :: inside ++ [doubleQuote] ∧
      Quoting.double.Encloses inside ∧
      read = value.map fun b => (if b ∈ doubleProtected then .doubleEscaped else .double, b)
  | ansiQuoted => ∃ inside, stored = dollar :: singleQuote :: inside ++ [singleQuote] ∧
      Quoting.ansi.Encloses inside ∧ (∀ b ∈ inside, 0x20 ≤ b ∧ b < 0x7F) ∧
      ∀ p ∈ read, p.1 = .ansi ∨ p.1 = .ansiEscaped

variable {value stored : Bytes} {read : List (Quoting × UInt8)} {s s' : Style}

private theorem Shape.unique (h : s.Shape value stored read) (h' : s'.Shape value stored read) :
    s = s' := by
  have plain_double (h : plain.Shape value stored read)
      (h' : doubleQuoted.Shape value stored read) : False := by
    obtain ⟨rfl, plainly⟩ := h
    obtain ⟨inside, rfl, -, quoted⟩ := h'
    have first := plainly.symm.trans quoted
    simp [doubleProtected] at first
  have plain_ansi (h : plain.Shape value stored read)
      (h' : ansiQuoted.Shape value stored read) : False := by
    obtain ⟨rfl, rfl⟩ := h
    obtain ⟨inside, rfl, -, -, quoted⟩ := h'
    have first := quoted (.outside false, dollar) (by simp)
    simp at first
  have double_ansi (h : doubleQuoted.Shape value stored read)
      (h' : ansiQuoted.Shape value stored read) : False := by
    obtain ⟨inside, rfl, -⟩ := h
    obtain ⟨inside', first, -⟩ := h'
    exact absurd (List.cons.inj first).1 (by decide)
  cases s <;> cases s'
  case plain.doubleQuoted => exact (plain_double h h').elim
  case doubleQuoted.plain => exact (plain_double h' h).elim
  case plain.ansiQuoted => exact (plain_ansi h h').elim
  case ansiQuoted.plain => exact (plain_ansi h' h).elim
  case doubleQuoted.ansiQuoted => exact (double_ansi h h').elim
  case ansiQuoted.doubleQuoted => exact (double_ansi h' h).elim
  all_goals rfl

end Style

private theorem isControl_iff {b : UInt8} : isControl b = true ↔ b < 0x20 ∧ b ≠ 0x09 := by
  simp [isControl]

private theorem needsBackslash_iff {b : UInt8} : needsBackslash b = true ↔ b ∈ doubleProtected := by
  simp only [needsBackslash, doubleProtected, Bool.or_eq_true, beq_iff_eq, List.mem_cons,
    List.not_mem_nil, or_false]
  grind

private theorem needs_iff {b : UInt8} :
    (needsBackslash b || needsQuotes b) = true ↔ b = 0x09 ∨ b ∈ special := by
  simp only [needsBackslash, needsQuotes, isOperator, special, Bool.or_eq_true, beq_iff_eq,
    List.mem_cons, List.not_mem_nil, or_false]
  grind

/-- The way that is chosen is the one that fits. -/
theorem style_eq_iff {value : Bytes} {s : Style} : style value = s ↔ s.Fits value := by
  unfold style
  simp only [List.any_eq_true, isControl_iff, needs_iff]
  split_ifs with hc hn <;> cases s <;> grind [Style.Fits]

/-! ### Reading the shapes -/

private theorem read?_of_isPlain {b : UInt8} (h : isPlain b = true) :
    (Quoting.outside false).read? b = some [(.outside false, b)] := by
  obtain ⟨blank, semi, slash, single, double, expand, operator⟩ := ne_of_isPlain h
  have inside : Shell.separator? Shell.isBlank b = none := by
    have noBlank : Shell.isBlank b = false := by
      rw [← Bool.not_eq_true] at blank ⊢
      exact mt Shell.isBlank_of_isBlank blank
    rw [Shell.separator?, Shell.isOperator, noBlank, operator, beq_false_of_ne semi]
    rfl
  have other : b ≠ backquote ∧ b ≠ tilde := by
    constructor <;> rintro rfl <;> exact absurd h (by decide)
  rw [Quoting.read?, inside, beq_false_of_ne other.1, beq_false_of_ne other.2, if_neg (by decide),
    if_neg (by simp [slash, single, double, expand])]

private theorem literal?_plain {bytes : Bytes} (h : ∀ b ∈ bytes, isPlain b = true) :
    literal? (.outside false) bytes = some (bytes.map (.outside false, ·)) := by
  induction bytes with
  | nil => rfl
  | cons b bytes ih =>
    obtain ⟨hb, later⟩ := List.forall_mem_cons.1 h
    have next : (Quoting.outside false).next b = .outside false := by
      obtain ⟨-, -, slash, single, double, expand, -⟩ := ne_of_isPlain hb
      rw [Quoting.next, if_neg slash, if_neg single, if_neg double, beq_false_of_ne expand]
    rw [literal?_cons (read?_of_isPlain hb), next, ih later]
    rfl

private theorem literal?_doubleQuotedByte (b : UInt8) (rest : Bytes) :
    literal? .double (doubleQuotedByte b ++ rest) =
      (literal? .double rest).map
        ((if b ∈ doubleProtected then .doubleEscaped else .double, b) :: ·) := by
  unfold doubleQuotedByte
  by_cases h : b ∈ doubleProtected
  · have read : Quoting.doubleEscaped.read? b = some [(.doubleEscaped, b)] := by
      rw [Quoting.read?, if_pos h]
    rw [if_pos (needsBackslash_iff.2 h), if_pos h, List.cons_append, literal?_quote (by decide)]
    exact literal?_cons read rest
  · have other := h
    simp only [doubleProtected, List.mem_cons, List.not_mem_nil, or_false, not_or] at other
    obtain ⟨quote, slash, expand, back⟩ := other
    have read : Quoting.double.read? b = some [(.double, b)] := by
      rw [Quoting.read?, if_neg (by simp [expand, back]), if_neg (by simp [quote, slash])]
    have next : Quoting.double.next b = .double := by
      rw [Quoting.next, if_neg quote, if_neg slash]
    rw [if_neg (mt needsBackslash_iff.1 h), if_neg h, List.singleton_append, literal?_cons read,
      next]
    rfl

/-- A double-quoted run stands for its bytes. -/
theorem literal?_doubleQuoted (bytes : Bytes) :
    literal? (.outside false) (doubleQuoted bytes) =
      some (bytes.map fun b => (if b ∈ doubleProtected then .doubleEscaped else .double, b)) := by
  have inside : literal? .double (bytes.flatMap doubleQuotedByte ++ [doubleQuote]) =
      some (bytes.map fun b => (if b ∈ doubleProtected then .doubleEscaped else .double, b)) := by
    induction bytes with
    | nil => rfl
    | cons b bytes ih =>
      rw [List.flatMap_cons, List.append_assoc, literal?_doubleQuotedByte, ih]
      rfl
  rw [doubleQuoted, List.cons_append, literal?_quote (by decide)]
  exact inside

private theorem octalByte?_octalDigits (b : UInt8) : Shell.octalByte? (octalDigits b) = some b := by
  have digits : (octalDigits b).all isOctalDigit = true :=
    List.all_eq_true.2 fun d hd => isOctalDigit_of_mem_octalDigits hd
  rw [Shell.octalByte?, number_octalDigits, if_pos ⟨digits, b.toNat_lt⟩, UInt8.ofNat_toNat]

private theorem exists_literal?_ansiQuotedByte (b : UInt8) :
    ∃ quoting : Quoting, (quoting = .ansi ∨ quoting = .ansiEscaped) ∧
      ∀ rest, literal? .ansi (ansiQuotedByte b ++ rest) =
        (literal? .ansi rest).map ((quoting, b) :: ·) := by
  rcases ansiQuotedByte_cases b with
    ⟨letter, written, stands⟩ | written | ⟨written, slash, quote, -⟩
  · refine ⟨.ansiEscaped, .inr rfl, fun rest => ?_⟩
    have read : Quoting.ansiEscaped.read? letter = some [(.ansiEscaped, b)] := by
      rw [Quoting.read?, ← symbolByte?_eq_lookup, stands, Option.map_some]
    rw [written, List.cons_append, literal?_quote (by decide)]
    exact literal?_cons read rest
  · refine ⟨.ansiEscaped, .inr rfl, fun rest => ?_⟩
    have byte := octalByte?_octalDigits b
    have first : isOctalDigit (0x30 + b / 64) = true :=
      isOctalDigit_of_mem_octalDigits (b := b) List.mem_cons_self
    have none : Quoting.ansiEscaped.read? (0x30 + b / 64) = none := by
      rw [Quoting.read?, ← symbolByte?_eq_lookup, symbolByte?_of_isOctalDigit first,
        Option.map_none]
    rw [written, List.cons_append, literal?_quote (by decide)]
    exact Shell.literal?_octal none byte rest
  · refine ⟨.ansi, .inl rfl, fun rest => ?_⟩
    have read : Quoting.ansi.read? b = some [(.ansi, b)] := by
      rw [Quoting.read?, if_neg (by simp [quote, slash])]
    have next : Quoting.ansi.next b = .ansi := by rw [Quoting.next, if_neg quote, if_neg slash]
    rw [written, List.singleton_append, literal?_cons read, next]
    rfl

/-- An ANSI-C quoted run stands for its bytes, all of which it protects. -/
theorem exists_literal?_ansiQuoted (bytes : Bytes) :
    ∃ read, literal? (.outside false) (ansiQuoted bytes) = some read ∧
      read.map Prod.snd = bytes ∧ ∀ p ∈ read, p.1 = .ansi ∨ p.1 = .ansiEscaped := by
  have inside : ∃ read, literal? .ansi (bytes.flatMap ansiQuotedByte ++ [singleQuote]) = some read ∧
      read.map Prod.snd = bytes ∧ ∀ p ∈ read, p.1 = .ansi ∨ p.1 = .ansiEscaped := by
    induction bytes with
    | nil => exact ⟨[], rfl, rfl, by simp⟩
    | cons b bytes ih =>
      obtain ⟨quoting, protects, first⟩ := exists_literal?_ansiQuotedByte b
      obtain ⟨read, later, rfl, quoted⟩ := ih
      refine ⟨(quoting, b) :: read, ?_, rfl, List.forall_mem_cons.2 ⟨protects, quoted⟩⟩
      rw [List.flatMap_cons, List.append_assoc, first, later, Option.map_some]
  rw [ansiQuoted, List.cons_append, literal?_quote (by decide), List.cons_append,
    show (Quoting.outside false).next dollar = .outside true from rfl, literal?_quote (by decide)]
  exact inside

private theorem encloses_double (bytes : Bytes) :
    Quoting.double.Encloses (bytes.flatMap doubleQuotedByte) := by
  obtain ⟨_, -, same, run⟩ :=
    @doubleRun_of_readDouble false _ _ _ _ (readDouble_flatMap [] bytes [])
  rw [List.append_cancel_right same]
  exact fun _ => Quoting.after?_of_doubleRun run

private theorem encloses_ansi (bytes : Bytes) :
    Quoting.ansi.Encloses (bytes.flatMap ansiQuotedByte) := by
  obtain ⟨_, -, read⟩ := exists_readAnsi_flatMap [] bytes []
  obtain ⟨_, -, same, run⟩ := ansiRun_of_readAnsi read
  rw [List.append_cancel_right same]
  exact fun _ => Quoting.after?_of_ansiRun run

/-- The shell reads the bytes of a value in the shape that fits it. -/
theorem exists_shape (bytes : Bytes) :
    ∃ read, literal? (.outside false) (quotedBytes bytes) = some read ∧
      read.map Prod.snd = bytes ∧ (style bytes).Shape bytes (quotedBytes bytes) read := by
  unfold quotedBytes
  cases hs : style bytes with
  | plain =>
    refine ⟨_, literal?_plain (isPlain_of_style hs), ?_, rfl, rfl⟩
    rw [List.map_map]
    exact List.map_id bytes
  | doubleQuoted =>
    refine ⟨_, literal?_doubleQuoted bytes, ?_, _, rfl, encloses_double bytes, rfl⟩
    rw [List.map_map]
    exact List.map_id bytes
  | ansiQuoted =>
    obtain ⟨read, literal, same, quoted⟩ := exists_literal?_ansiQuoted bytes
    refine ⟨read, literal, same, _, rfl, encloses_ansi bytes, fun b hb => ?_, quoted⟩
    obtain ⟨c, -, hc⟩ := List.mem_flatMap.1 hb
    exact printable_of_mem_ansiQuotedByte hc

/-! ### The stored text of a value -/

/-- What the shell makes of the stored text of a value. -/
structure Inert (value stored : Bytes) (read : List (Quoting × UInt8)) : Prop where
  /-- The tab is the only control byte. -/
  line : ∀ b ∈ stored, b < 0x20 → b = 0x09
  word : ∀ key, Key.isValid key = true →
    Shell.read (key.toBytes ++ 0x3D :: stored) = some [.word (key.toBytes ++ 0x3D :: stored)]
  literal : literal? (.outside false) stored = some read
  denotes : read.map Prod.snd = value
  shape_iff : ∀ s : Style, s.Shape value stored read ↔ s.Fits value

/-- Quoted bytes are inert. -/
theorem exists_inert (bytes : Bytes) : ∃ read, Inert bytes (quotedBytes bytes) read := by
  obtain ⟨read, literal, denotes, shape⟩ := exists_shape bytes
  have line : ∀ b ∈ quotedBytes bytes, b < 0x20 → b = 0x09 := by
    intro b hb low
    by_contra other
    have control := isControl_iff.2 ⟨low, other⟩
    rw [isControl_of_mem_quotedBytes hb] at control
    cases control
  refine ⟨read, line, ?_, literal, denotes, ?_⟩
  · intro key valid
    refine Shell.read_of_literal? valid literal fun b hb => ?_
    rintro rfl
    exact absurd (line 0 hb (by decide)) (by decide)
  · intro s
    constructor
    · intro h
      exact style_eq_iff.1 (shape.unique h)
    · intro fits
      exact style_eq_iff.2 fits ▸ shape

/-- The stored text of a value is one line that assigns it: read by the shell, it is one word in the
shape that fits the value, in which nothing is expanded and which stands for the bytes of the
value. A value that fits plainly is its own stored text. -/
theorem quote_inert {v t : Text} (h : quote v = .ok t) :
    (∃ value stored read, v.encode = .ok value ∧ t.encode = .ok stored ∧
      Inert value stored read ∧ (Style.plain.Fits value → t = v)) ∧
    ∀ key, Key.isValid key = true →
      Record.ofLine (key ++ CodePoint.ofChar '=' :: t) = .assignment ⟨key, key, some t⟩ := by
  constructor
  · obtain ⟨storable, stored, bytes⟩ := toBytes_quote h
    obtain ⟨read, inert⟩ := exists_inert v.toBytes
    refine ⟨_, _, read, Text.encode_eq_ok storable, Text.encode_eq_ok stored, bytes ▸ inert, ?_⟩
    intro fits
    rw [quote, Text.encode_eq_ok storable, Except.map, style_eq_iff.2 fits] at h
    exact (Except.ok.inj h).symm
  · intro key valid
    exact @Record.ofLine_append [] key t (by simp) valid

/-- A value with a newline, a quote, a digit behind a control byte, and a byte that is no UTF-8. -/
theorem quote_inert_control :
    let v : Text := .ofBytes ([0x01, 0x31, backslash, singleQuote, 0x0A, 0xFF])
    let t : Text := "$'\\0011\\\\\\'\\n\\377'"
    quote v = .ok t ∧
      (∃ value stored read, v.encode = .ok value ∧ t.encode = .ok stored ∧
        Inert value stored read ∧ Style.ansiQuoted.Shape value stored read) ∧
      Record.ofLine ("A=" ++ t) = .assignment ⟨"A", "A", some t⟩ := by
  intro v t
  have quoted : quote v = .ok t := by decide +kernel
  obtain ⟨⟨value, stored, read, value', stored', inert, -⟩, record⟩ := quote_inert quoted
  refine ⟨quoted, ⟨value, stored, read, value', stored', inert, ?_⟩, record "A" (by decide)⟩
  have same : v.encode = .ok [0x01, 0x31, backslash, singleQuote, 0x0A, 0xFF] := by decide +kernel
  rw [same, Except.ok.injEq] at value'
  rw [inert.shape_iff, ← value']
  exact ⟨0x01, by decide, by decide⟩

end VarFile.Value
