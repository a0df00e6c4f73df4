import VarFile.Proofs.Record.Line
import VarFile.Proofs.Shell.Line
import VarFile.Proofs.Value.Words

/-!
# Words of the grammar in the shell

A word of the grammar of stored values is one word to the shell (`Shell.exists_tokens_of_word`), and
so is an assignment of it (`Shell.exists_word_of_key`). With blanks before it and a trailer behind
it the assignment is harmless (`Shell.isHarmless_assignment`).
-/

namespace VarFile

namespace Shell

open Value (backslash singleQuote doubleQuote dollar semicolon hash IsOrdinary Word IsGap Trailer
  Escape AnsiRun DoubleRun)

/-! ### Words of the grammar are words -/

section Words

variable {isBlank : UInt8 → Bool}

/-- Digits end no quotes and start no escape. -/
theorem Quoting.next_ansi_of_isHexDigit {b : UInt8} (h : Value.isHexDigit b = true) :
    ansi.next b = ansi := by
  have other : b ≠ singleQuote ∧ b ≠ backslash := by
    constructor <;> rintro rfl <;> exact absurd h (by decide)
  rw [next, if_neg other.1, if_neg other.2]

/-- Octal digits are hexadecimal ones. -/
theorem isHexDigit_of_isOctalDigit {b : UInt8} (h : Value.isOctalDigit b = true) :
    Value.isHexDigit b = true := by
  simp only [Value.isOctalDigit, Value.isHexDigit, Bool.and_eq_true, Bool.or_eq_true,
    decide_eq_true_eq, UInt8.le_iff_toNat_le] at h ⊢
  simp only [UInt8.reduceToNat] at h ⊢
  omega

/-- An escape of the grammar is one byte, and digits. -/
theorem exists_digits_of_escape {rest text value : Bytes} (h : Escape rest text value) :
    ∃ b digits, text = b :: digits ∧ ∀ d ∈ digits, Value.isHexDigit d = true := by
  cases h with
  | letter => exact ⟨_, [], rfl, by simp⟩
  | octal hne h =>
    obtain ⟨b, digits, rfl⟩ := List.exists_cons_of_ne_nil hne
    exact ⟨b, digits, rfl, fun d hd =>
      isHexDigit_of_isOctalDigit (h.digit d (List.mem_cons_of_mem b hd))⟩
  | byte _ h => exact ⟨_, _, rfl, h.digit⟩
  | codePoint _ _ h => exact ⟨_, _, rfl, h.digit⟩
  | literal => exact ⟨_, [], rfl, by simp⟩

/-- The inside of an ANSI-C quoted run of the grammar leaves its quotes open. -/
theorem Quoting.after?_of_ansiRun {inside value : Bytes} (h : AnsiRun inside value) :
    ansi.after? isBlank inside = some ansi := by
  induction h with
  | nil => rfl
  | plain hq hb _ ih => rw [after?_cons rfl, next, if_neg hq, if_neg hb, ih]
  | escape he _ ih =>
    obtain ⟨b, digits, rfl, hd⟩ := exists_digits_of_escape he
    have read : ansi.after? isBlank digits = some ansi :=
      after?_eq_self rfl fun d h => next_ansi_of_isHexDigit (hd d h)
    rw [after?_cons rfl, List.cons_append, after?_cons rfl, after?_append]
    exact (congrArg (Option.bind · _) read).trans ih

/-- The inside of a double-quoted run of the grammar leaves its quotes open. -/
theorem Quoting.after?_of_doubleRun {legacy : Bool} {inside value : Bytes}
    (h : DoubleRun legacy inside value) : double.after? isBlank inside = some double := by
  induction h with
  | nil => rfl
  | plain hb _ ih =>
    simp only [List.mem_cons, List.not_mem_nil, or_false, not_or] at hb
    obtain ⟨-, -, quote, slash⟩ := hb
    rw [after?_cons rfl, next, if_neg quote, if_neg slash, ih]
  | escaped _ ih =>
    rw [after?_cons rfl, after?_cons rfl]
    exact ih

private theorem Quoting.after?_closed {quoting : Quoting} {inside : Bytes} {quote : UInt8}
    (h : quoting.after? isBlank inside = some quoting) (hi : quoting.isOutside = false)
    (hq : quoting.next quote = .outside false) (text : Bytes) :
    quoting.after? isBlank (inside ++ quote :: text) = (outside false).after? isBlank text := by
  rw [after?_append, h, Option.bind_some, after?_cons hi, hq]

end Words

/-- An ordinary byte is part of a word, and quotes nothing. -/
theorem next_of_isOrdinary {b : UInt8} (h : IsOrdinary b) (afterDollar : Bool) :
    separator? Value.isBlank b = none ∧
      (Quoting.outside afterDollar).next b = .outside (b == dollar) := by
  obtain ⟨blank, operator, other⟩ := h
  simp only [List.mem_cons, List.not_mem_nil, or_false, not_or] at other
  obtain ⟨hs, slash, single, double⟩ := other
  constructor
  · rw [separator?, isOperator, blank, operator, beq_false_of_ne hs]
    rfl
  · rw [Quoting.next, if_neg slash, if_neg single, if_neg double]

/-- No byte of a word of the grammar ends it, and all quotes in it are closed. -/
theorem exists_after?_of_word {legacy : Bool} {text value : Bytes} (h : Word legacy text value)
    (afterDollar : Bool) (hd : afterDollar = true → text.head? ≠ some singleQuote) :
    ∃ afterDollar', (Quoting.outside afterDollar).after? Value.isBlank text =
      some (.outside afterDollar') := by
  induction h generalizing afterDollar with
  | nil => exact ⟨afterDollar, rfl⟩
  | plain hb dollar _ ih =>
    obtain ⟨hs, hn⟩ := next_of_isOrdinary hb afterDollar
    obtain ⟨a, ha⟩ := ih _ fun h => dollar (beq_iff_eq.1 h)
    exact ⟨a, by rw [Quoting.after?_outside hs, hn, ha]⟩
  | escaped _ ih =>
    obtain ⟨a, ha⟩ := ih false (by simp)
    refine ⟨a, ?_⟩
    rw [Quoting.after?_outside (by decide), Quoting.next, if_pos rfl, Quoting.after?_cons rfl]
    exact ha
  | @single inside text _ hs _ ih =>
    obtain ⟨a, ha⟩ := ih false (by simp)
    cases afterDollar with
    | true => exact absurd rfl (hd rfl)
    | false =>
      have read : Quoting.single.after? Value.isBlank inside = some .single :=
        Quoting.after?_eq_self rfl fun b hb => if_neg (ne_of_mem_of_not_mem hb hs)
      refine ⟨a, ?_⟩
      rw [Quoting.after?_outside (by decide)]
      exact (Quoting.after?_closed read rfl rfl text).trans ha
  | @double inside _ text _ hi _ ih =>
    obtain ⟨a, ha⟩ := ih false (by simp)
    refine ⟨a, ?_⟩
    rw [Quoting.after?_outside (by decide)]
    exact (Quoting.after?_closed (Quoting.after?_of_doubleRun hi) rfl rfl text).trans ha
  | @ansi inside _ text _ hi _ ih =>
    obtain ⟨a, ha⟩ := ih false (by simp)
    refine ⟨a, ?_⟩
    rw [Quoting.after?_outside (by decide), show (Quoting.outside _).next dollar = .outside true
      from rfl, Quoting.after?_outside (by decide)]
    exact (Quoting.after?_closed (Quoting.after?_of_ansiRun hi) rfl rfl text).trans ha

/-! ### The tokens of a line -/

/-- Blanks and semicolons are separators. -/
theorem isSome_separator? {b : UInt8} (h : Value.isBlank b = true ∨ b = semicolon) :
    (separator? Value.isBlank b).isSome = true := by
  obtain blank | rfl := h
  · rw [separator?, if_pos blank, Option.isSome_some]
  · decide

private theorem significant_gap {gap : Bytes}
    (h : ∀ b ∈ gap, Value.isBlank b = true ∨ b = semicolon) :
    significant (gap.filterMap (separator? Value.isBlank)) =
      List.replicate (gap.count semicolon) (.operator semicolon) := by
  induction gap with
  | nil => rfl
  | cons b gap ih =>
    obtain ⟨hb, later⟩ := List.forall_mem_cons.1 h
    by_cases hs : b = semicolon
    · have operator : separator? Value.isBlank semicolon = some (.operator semicolon) := rfl
      rw [hs, List.filterMap_cons_some operator, List.count_cons_self, List.replicate_succ,
        ← ih later]
      rfl
    · have blank : separator? Value.isBlank b = some (.blank b) := if_pos (hb.resolve_right hs)
      rw [List.filterMap_cons_some blank, List.count_cons_of_ne hs, ← ih later]
      rfl

private theorem exists_tokensFrom_gap {gap rest : Bytes} {ts : List Token}
    (h : ∀ b ∈ gap, Value.isBlank b = true ∨ b = semicolon)
    (read : tokensFrom Value.isBlank .between rest = some ts) :
    ∃ ts', tokensFrom Value.isBlank .between (gap ++ rest) = some ts' ∧
      significant ts' =
        List.replicate (gap.count semicolon) (.operator semicolon) ++ significant ts := by
  refine ⟨gap.filterMap (separator? Value.isBlank) ++ ts, ?_, ?_⟩
  · rw [tokensFrom_separators fun b hb => isSome_separator? (h b hb), read, Option.map_some]
  · rw [← significant_gap h]
    exact List.filter_append ..

private theorem exists_tokensFrom_blanks {indent rest : Bytes} {ts : List Token}
    (h : ∀ b ∈ indent, Value.isBlank b = true)
    (read : tokensFrom Value.isBlank .between rest = some ts) :
    ∃ ts', tokensFrom Value.isBlank .between (indent ++ rest) = some ts' ∧
      significant ts' = significant ts := by
  obtain ⟨ts', read', left⟩ := exists_tokensFrom_gap (fun b hb => .inl (h b hb)) read
  have none : indent.count semicolon = 0 :=
    List.count_eq_zero.2 fun hs => Value.ne_semicolon_of_isBlank (h _ hs) rfl
  rw [none, List.replicate_zero, List.nil_append] at left
  exact ⟨ts', read', left⟩

/-- What starts with a number sign is a comment. -/
theorem tokensFrom_hash (text : Bytes) :
    tokensFrom Value.isBlank .between (hash :: text) = some [.comment (hash :: text)] := rfl

/-- A trailer is read as a remark, with a semicolon before it or without one. -/
theorem exists_tokensFrom_trailer {trailer : Bytes} (h : Trailer trailer) :
    ∃ ts remark, tokensFrom Value.isBlank .between trailer = some ts ∧ IsRemark remark ∧
      (significant ts = remark ∨ significant ts = .operator semicolon :: remark) := by
  have semicolons {gap : Bytes} (h : IsGap gap) {ts remark : List Token}
      (left : significant ts =
        List.replicate (gap.count semicolon) (.operator semicolon) ++ remark) :
      significant ts = remark ∨ significant ts = .operator semicolon :: remark := by
    obtain count | count := Nat.le_one_iff_eq_zero_or_eq_one.1 h.count_le
    · exact .inl (by rw [left, count, List.replicate_zero, List.nil_append])
    · exact .inr (by rw [left, count, List.replicate_one, List.singleton_append])
  have ends : tokensFrom Value.isBlank .between [] = some [] := rfl
  cases h with
  | nil => exact ⟨[], [], ends, .inl rfl, .inl rfl⟩
  | gap _ h =>
    obtain ⟨ts, read, left⟩ := exists_tokensFrom_gap h.mem ends
    rw [List.append_nil] at read
    exact ⟨ts, [], read, .inl rfl, semicolons h left⟩
  | comment _ h =>
    obtain ⟨ts, read, left⟩ := exists_tokensFrom_gap h.mem (tokensFrom_hash _)
    exact ⟨ts, _, read, .inr ⟨_, rfl⟩, semicolons h left⟩

/-- A word of the grammar that starts no comment, between blanks and a trailer, is one word to the
shell, and what is left of the trailer follows it. -/
theorem exists_tokens_of_word {indent text value trailer : Bytes} {legacy : Bool} {b : UInt8}
    (hi : ∀ b ∈ indent, Value.isBlank b = true) (hb : IsOrdinary b) (hh : b ≠ hash)
    (hw : Word legacy (b :: text) value) (ht : Trailer trailer) {after : List Token}
    (read : tokensFrom Value.isBlank .between trailer = some after) :
    ∃ ts, tokens Value.isBlank (indent ++ (b :: text ++ trailer)) = some ts ∧
      significant ts = .word (b :: text) :: significant after := by
  obtain ⟨a, closed⟩ := exists_after?_of_word hw false (by simp)
  have word : tokensFrom Value.isBlank .between (b :: text ++ trailer) =
      some (.word (b :: text) :: after) := by
    rw [List.cons_append, tokensFrom_between (next_of_isOrdinary hb false).1 hh,
      ← List.cons_append, tokensFrom_append closed,
      tokensFrom_inWord fun c hc => isSome_separator? (ht.start c hc), read, List.append_nil,
      List.reverse_reverse, Option.map_some]
  exact exists_tokensFrom_blanks hi word

end Shell

/-! ### Assignments -/

namespace Key

/-- The bytes that keys are made of. -/
def isPartByte (b : UInt8) : Bool :=
  b == 0x5F || (0x41 ≤ b && b ≤ 0x5A) || (0x61 ≤ b && b ≤ 0x7A) || (0x30 ≤ b && b ≤ 0x39)

private theorem exists_byte_of_isPart {c : CodePoint} (h : isPart c = true) :
    ∃ b, c.toBytes = [b] ∧ isPartByte b = true := by
  have ascii := (isAscii_of_isPart h).1
  refine ⟨_, CodePoint.toBytes_of_isAscii ascii, ?_⟩
  simp only [isPart, isStart, Bool.or_eq_true, Bool.and_eq_true, beq_iff_eq,
    decide_eq_true_eq] at h
  have byte : (UInt8.ofNat c.val).toNat = c.val := by
    rw [UInt8.toNat_ofNat']
    simp only [CodePoint.IsAscii] at ascii
    omega
  generalize UInt8.ofNat c.val = b at byte
  rw [← byte] at h
  simpa [isPartByte, UInt8.le_iff_toNat_le, ← UInt8.toNat_inj] using h

theorem isPartByte_of_mem_toBytes {key : Text} (hk : ∀ c ∈ key, isPart c = true) {b : UInt8}
    (hb : b ∈ key.toBytes) : isPartByte b = true := by
  obtain ⟨c, hc, hb⟩ := List.mem_flatMap.1 hb
  obtain ⟨b', bytes, part⟩ := exists_byte_of_isPart (hk c hc)
  rw [bytes, List.mem_singleton] at hb
  exact hb ▸ part

theorem ne_of_isPartByte {b d : UInt8} (h : isPartByte b = true) (hd : isPartByte d = false) :
    b ≠ d := by
  rintro rfl
  rw [h] at hd
  cases hd

/-- What keys are made of is ordinary in a word. -/
theorem isOrdinary_of_isPartByte {b : UInt8} (h : isPartByte b = true) : Value.IsOrdinary b := by
  have ne {d : UInt8} (hd : isPartByte d = false) : b ≠ d := ne_of_isPartByte h hd
  refine ⟨?_, ?_, ?_⟩
  · simp only [isPartByte, Bool.or_eq_true, Bool.and_eq_true, beq_iff_eq, decide_eq_true_eq,
      UInt8.le_iff_toNat_le, ← UInt8.toNat_inj, UInt8.reduceToNat] at h
    simp only [Value.isBlank, Bool.or_eq_false_iff, Bool.and_eq_false_iff, beq_eq_false_iff_ne,
      decide_eq_false_iff_not, UInt8.le_iff_toNat_le, UInt8.reduceToNat]
    exact ⟨ne (by decide), by omega⟩
  · simp only [Value.isOperator, Bool.or_eq_false_iff, beq_eq_false_iff_ne]
    exact ⟨⟨⟨⟨⟨ne (by decide), ne (by decide)⟩, ne (by decide)⟩, ne (by decide)⟩, ne (by decide)⟩,
      ne (by decide)⟩
  · simp only [List.mem_cons, List.not_mem_nil, or_false, not_or]
    exact ⟨ne (by decide), ne (by decide), ne (by decide), ne (by decide)⟩

/-- The first byte of a key is ordinary, and starts no comment. -/
theorem exists_first {key : Text} (hk : isValid key = true) (text : Bytes) :
    ∃ b rest, key.toBytes ++ text = b :: rest ∧ Value.IsOrdinary b ∧ b ≠ Value.hash := by
  obtain ⟨⟨c, key', rfl, -⟩, parts⟩ := isValid_iff.1 hk
  obtain ⟨b, hb, part⟩ := exists_byte_of_isPart (parts c List.mem_cons_self)
  refine ⟨b, Text.toBytes key' ++ text, ?_, isOrdinary_of_isPartByte part,
    ne_of_isPartByte part (by decide)⟩
  rw [Text.toBytes_cons, hb, List.append_assoc, List.singleton_append]

private theorem word_append {legacy : Bool} {key : Text} (hk : ∀ c ∈ key, isPart c = true)
    {text value : Bytes} (h : Value.Word legacy text value) :
    Value.Word legacy (key.toBytes ++ text) (key.toBytes ++ value) := by
  induction key with
  | nil => exact h
  | cons c key ih =>
    obtain ⟨hc, later⟩ := List.forall_mem_cons.1 hk
    obtain ⟨b, hb, part⟩ := exists_byte_of_isPart hc
    rw [Text.toBytes_cons, hb]
    exact .plain (isOrdinary_of_isPartByte part)
      (fun hd => absurd hd (ne_of_isPartByte part (by decide))) (ih later)

end Key

namespace Shell

open Value (IsOrdinary Word Trailer hash)

/-- An assignment of a word of the grammar is one that starts no comment. -/
theorem exists_word_of_key {key : Text} {text value : Bytes} {legacy : Bool}
    (hk : Key.isValid key = true) (hw : Word legacy text value) :
    ∃ b word value', key.toBytes ++ 0x3D :: text = b :: word ∧ IsOrdinary b ∧ b ≠ hash ∧
      IsAssignment (b :: word) ∧ Word legacy (b :: word) value' := by
  have equals : Word legacy (0x3D :: text) (0x3D :: value) :=
    .plain ⟨by decide, by decide, by decide⟩ (fun h => absurd h (by decide)) hw
  obtain ⟨b, word, first, ordinary, hash⟩ := Key.exists_first hk (0x3D :: text)
  exact ⟨b, word, _, first, ordinary, hash, ⟨_, _, hk, first.symm⟩,
    first ▸ Key.word_append (Key.isValid_iff.1 hk).2 equals⟩

/-- An assignment of a word of the grammar, with blanks before it and a trailer behind it, is
harmless. -/
theorem isHarmless_assignment {indent word value trailer : Bytes} {b : UInt8} {legacy : Bool}
    (hi : ∀ b ∈ indent, Value.isBlank b = true) (hb : IsOrdinary b) (hh : b ≠ hash)
    (ha : IsAssignment (b :: word)) (hw : Word legacy (b :: word) value) (ht : Trailer trailer) :
    IsHarmless (indent ++ (b :: word ++ trailer)) := by
  obtain ⟨after, remark, readAfter, hr, leftAfter⟩ := exists_tokensFrom_trailer ht
  obtain ⟨ts, read, left⟩ := exists_tokens_of_word hi hb hh hw ht readAfter
  refine ⟨ts, read, ?_⟩
  rw [left]
  obtain he | he := leftAfter
  · exact he ▸ .assignment ha hr
  · exact he ▸ .terminated ha hr

/-- Blanks before nothing or before a comment are harmless. -/
theorem isHarmless_remark {indent comment : Bytes} (hi : ∀ b ∈ indent, Value.isBlank b = true)
    (hc : comment = [] ∨ ∃ text, comment = Value.hash :: text) :
    IsHarmless (indent ++ comment) := by
  have remark : ∃ ts, tokensFrom Value.isBlank .between comment = some ts ∧
      IsRemark (significant ts) := by
    obtain rfl | ⟨text, rfl⟩ := hc
    · exact ⟨[], rfl, .inl rfl⟩
    · exact ⟨_, tokensFrom_hash text, .inr ⟨_, rfl⟩⟩
  obtain ⟨ts, read, hr⟩ := remark
  obtain ⟨ts', read', left⟩ := exists_tokensFrom_blanks hi read
  exact ⟨ts', read', .remark (left ▸ hr)⟩

end Shell

end VarFile
