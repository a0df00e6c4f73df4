import Mathlib.Tactic.SplitIfs
import VarFile.Proofs.Text.Boundary
import VarFile.Proofs.Value.Reading

/-!
# Quoting is undone by unquoting

`quote` writes the bytes of a value in one of three shapes, and `unquote` reads the same bytes from
each of them (`Value.unquote_quote`): byte by byte in a quoted run, and as ordinary bytes in a plain
text. Reading gives the value as it is after it was stored once, so only a value whose bytes form
other code points than its own comes back different.
-/

namespace VarFile.Value

open Segment

/-! ### Double-quoted runs -/

/-- The piece that a byte is written as in a double-quoted run. -/
def DoubleItem.ofByte (b : UInt8) : DoubleItem := if needsBackslash b then .escaped b else .plain b

private theorem DoubleItem.denoted_ofByte (legacy : Bool) (b : UInt8) :
    (DoubleItem.ofByte b).denoted legacy = [b] := by
  unfold DoubleItem.ofByte
  split
  · next h => rw [DoubleItem.denoted, if_pos (by rw [h, Bool.true_or])]
  · rfl

private theorem readDouble_doubleQuotedByte (done : List DoubleItem) (b : UInt8) (rest : Bytes) :
    readDouble done (doubleQuotedByte b ++ rest) = readDouble (.ofByte b :: done) rest := by
  unfold doubleQuotedByte DoubleItem.ofByte
  split
  · next h =>
    rw [List.cons_append, List.singleton_append, readDouble_cons, if_neg (by decide),
      if_neg (by decide), if_pos rfl]
  · next h =>
    simp only [needsBackslash, Bool.or_eq_true, beq_iff_eq, not_or] at h
    obtain ⟨⟨⟨quote, slash⟩, dollar⟩, back⟩ := h
    rw [List.singleton_append, readDouble_cons, if_neg quote, if_neg (by simp [dollar, back]),
      if_neg slash]

/-- A double-quoted run is read as the pieces of its bytes, up to its closing quote. -/
theorem readDouble_flatMap (done : List DoubleItem) (bytes rest : Bytes) :
    readDouble done (bytes.flatMap doubleQuotedByte ++ doubleQuote :: rest) =
      .ok (done.reverse ++ bytes.map .ofByte, rest) := by
  induction bytes generalizing done with
  | nil =>
    rw [List.flatMap_nil, List.nil_append, readDouble_cons, if_pos rfl, List.map_nil,
      List.append_nil]
  | cons b bytes ih =>
    rw [List.flatMap_cons, List.append_assoc, readDouble_doubleQuotedByte, ih,
      List.reverse_cons, List.append_assoc, List.map_cons]
    rfl

/-! ### ANSI-C quoted runs -/

private theorem isOctalDigit_iff {b : UInt8} :
    isOctalDigit b = true ↔ 0x30 ≤ b.toNat ∧ b.toNat ≤ 0x37 := by
  simp only [isOctalDigit, Bool.and_eq_true, Text.le_iff, UInt8.reduceToNat]

/-- The digits that a byte is written with are octal. -/
theorem isOctalDigit_of_mem_octalDigits {b d : UInt8} (h : d ∈ octalDigits b) :
    isOctalDigit d = true := by
  have := b.toNat_lt
  rw [isOctalDigit_iff]
  simp only [octalDigits, List.mem_cons, List.not_mem_nil, or_false] at h
  obtain rfl | rfl | rfl := h <;>
    simp only [UInt8.toNat_add, UInt8.toNat_div, UInt8.toNat_mod, UInt8.reduceToNat] <;> omega

/-- The octal digits of a byte denote it. -/
theorem number_octalDigits (b : UInt8) : number 8 (octalDigits b) = b.toNat := by
  have := b.toNat_lt
  have value {d : UInt8} (h : d ∈ octalDigits b) : digitValue d = d.toNat - 0x30 := by
    have := isOctalDigit_iff.1 (isOctalDigit_of_mem_octalDigits h)
    rw [digitValue, if_pos]
    rw [UInt8.le_iff_toNat_le]
    exact Nat.le_trans this.2 (by decide)
  simp only [octalDigits, List.mem_cons, List.not_mem_nil, or_false] at value
  simp only [number, octalDigits, List.foldl_cons, List.foldl_nil, value (.inl rfl),
    value (.inr (.inl rfl)), value (.inr (.inr rfl)), UInt8.toNat_add, UInt8.toNat_div,
    UInt8.toNat_mod, UInt8.reduceToNat]
  omega

/-- The letters that stand for one byte behind a backslash. -/
def symbolLetters : Bytes :=
  [0x61, 0x62, 0x65, 0x45, 0x66, 0x6E, 0x72, 0x74, 0x76, 0x3F, doubleQuote, backslash, singleQuote]

private theorem mem_symbolLetters {letter b : UInt8} (h : symbolByte? letter = some b) :
    letter ∈ symbolLetters := by
  apply Classical.byContradiction
  intro hn
  simp only [symbolLetters, List.mem_cons, List.not_mem_nil, or_false, not_or] at hn
  simp [symbolByte?, hn] at h

/-- An octal digit is no letter of its own. -/
theorem symbolByte?_of_isOctalDigit {b : UInt8} (h : isOctalDigit b = true) :
    symbolByte? b = none := by
  have digits : symbolLetters.all (!isOctalDigit ·) = true := by decide
  cases hs : symbolByte? b with
  | none => rfl
  | some c =>
    have := List.all_eq_true.1 digits b (mem_symbolLetters hs)
    rw [h] at this
    cases this

/-- A byte in an ANSI-C quoted run is written as a letter that stands for it, in octal, or as
itself. -/
theorem ansiQuotedByte_cases (b : UInt8) :
    (∃ letter, ansiQuotedByte b = [backslash, letter] ∧ symbolByte? letter = some b) ∨
      ansiQuotedByte b = backslash :: octalDigits b ∨
      (ansiQuotedByte b = [b] ∧ b ≠ backslash ∧ b ≠ singleQuote ∧ 0x20 ≤ b ∧ b < 0x7F) := by
  unfold ansiQuotedByte
  split_ifs with h1 h2 h3 h4 h5 h6 h7 h8
  · exact .inl ⟨_, rfl, by rw [h1]; rfl⟩
  · exact .inl ⟨_, rfl, by rw [h2]; rfl⟩
  · exact .inl ⟨_, rfl, by rw [h3]; rfl⟩
  · exact .inl ⟨_, rfl, by rw [h4]; rfl⟩
  · exact .inl ⟨_, rfl, by rw [h5]; rfl⟩
  · exact .inl ⟨_, rfl, by rw [h6]; rfl⟩
  · obtain rfl | rfl | rfl := h7 <;> exact .inl ⟨_, rfl, rfl⟩
  · exact .inr (.inl rfl)
  · rw [not_or, not_or] at h7
    rw [not_or] at h8
    exact .inr (.inr ⟨rfl, h7.1, h7.2.2, UInt8.not_lt.1 h8.1, UInt8.not_le.1 h8.2⟩)

private theorem exists_readAnsi_ansiQuotedByte (b : UInt8) :
    ∃ item : AnsiItem, item.denoted = [b] ∧
      ∀ done rest, readAnsi done (ansiQuotedByte b ++ rest) = readAnsi (item :: done) rest := by
  obtain ⟨letter, hw, hl⟩ | hw | ⟨hw, slash, quote, -⟩ := ansiQuotedByte_cases b
  · refine ⟨.symbol letter b, rfl, fun done rest => ?_⟩
    rw [hw, List.cons_append, List.singleton_append, readAnsi_cons, if_neg (by decide), if_pos rfl]
    simp [readEscape, hl, Except.bind]
  · refine ⟨.octal (octalDigits b), ?_, fun done rest => ?_⟩
    · rw [AnsiItem.denoted, number_octalDigits, UInt8.ofNat_toNat]
    · have digit : ∀ d ∈ octalDigits b, isOctalDigit d = true :=
        fun d hd => isOctalDigit_of_mem_octalDigits hd
      rw [hw]
      unfold octalDigits at digit ⊢
      simp only [List.forall_mem_cons] at digit
      obtain ⟨d1, d2, d3, -⟩ := digit
      rw [List.cons_append, readAnsi_cons, if_neg (by decide), if_pos rfl]
      simp [readEscape, symbolByte?_of_isOctalDigit d1, d1, d2, d3, leadingDigits, Except.bind]
  · refine ⟨.plain b, rfl, fun done rest => ?_⟩
    rw [hw, List.singleton_append, readAnsi_cons, if_neg quote, if_neg slash]

/-- An ANSI-C quoted run is read as pieces that stand for its bytes, up to its closing quote. -/
theorem exists_readAnsi_flatMap (done : List AnsiItem) (bytes rest : Bytes) :
    ∃ items, items.flatMap AnsiItem.denoted = bytes ∧
      readAnsi done (bytes.flatMap ansiQuotedByte ++ singleQuote :: rest) =
        .ok (done.reverse ++ items, rest) := by
  induction bytes generalizing done with
  | nil =>
    refine ⟨[], rfl, ?_⟩
    rw [List.flatMap_nil, List.nil_append, readAnsi_cons, if_pos rfl, List.append_nil]
  | cons b bytes ih =>
    obtain ⟨item, hd, hr⟩ := exists_readAnsi_ansiQuotedByte b
    obtain ⟨items, hds, hrs⟩ := ih (item :: done)
    refine ⟨item :: items, by rw [List.flatMap_cons, hd, hds, List.singleton_append], ?_⟩
    rw [List.flatMap_cons, List.append_assoc, hr, hrs, List.reverse_cons, List.append_assoc,
      List.singleton_append]

/-! ### Segments of a quoted text -/

/-- The bytes that stand for themselves outside of quotes and need none. -/
def isPlain (b : UInt8) : Bool := !isControl b && !needsBackslash b && !needsQuotes b

/-- A plain byte is none that the shell treats specially. -/
theorem ne_of_isPlain {b : UInt8} (h : isPlain b = true) :
    isBlank b = false ∧ b ≠ semicolon ∧ b ≠ backslash ∧ b ≠ singleQuote ∧ b ≠ doubleQuote ∧
      b ≠ dollar ∧ isOperator b = false := by
  simp only [isPlain, isControl, needsBackslash, needsQuotes, isBlank] at h ⊢
  grind

private theorem parseFrom_plain {bytes : Bytes} (h : ∀ b ∈ bytes, isPlain b = true)
    (done : List Segment) : parseFrom done bytes = .ok (done.reverse ++ bytes.map .plain) := by
  induction bytes generalizing done with
  | nil => rw [parseFrom_nil, List.map_nil, List.append_nil]
  | cons b bytes ih =>
    obtain ⟨hb, hs, hsl, hq, hd, hdo, ho⟩ := ne_of_isPlain (h b List.mem_cons_self)
    rw [parseFrom_cons, if_neg (by simp [hb, hs]), if_neg hsl, if_neg hq, if_neg hd,
      if_neg (by simp [hdo]), if_neg (by simp [ho]),
      ih (fun c hc => h c (List.mem_cons_of_mem b hc)), List.reverse_cons, List.append_assoc,
      List.map_cons, List.singleton_append]

/-- A double-quoted run is one segment. -/
theorem parseFrom_doubleQuote {rest after : Bytes} {items : List DoubleItem}
    (h : readDouble [] rest = .ok (items, after)) (done : List Segment) :
    parseFrom done (doubleQuote :: rest) = parseFrom (.double items :: done) after := by
  rw [parseFrom_cons, if_neg (by decide), if_neg (by decide), if_neg (by decide), if_pos rfl, h]
  rfl

/-- An ANSI-C quoted run is one segment. -/
theorem parseFrom_dollar {rest after : Bytes} {items : List AnsiItem}
    (h : readAnsi [] rest = .ok (items, after)) (done : List Segment) :
    parseFrom done (dollar :: singleQuote :: rest) = parseFrom (.ansi items :: done) after := by
  rw [parseFrom_cons, if_neg (by decide), if_neg (by decide), if_neg (by decide),
    if_neg (by decide), if_pos (by simp), List.tail_cons, h]
  rfl

/-- The bytes that a value with given bytes is quoted as. -/
def quotedBytes (bytes : Bytes) : Bytes :=
  match style bytes with
  | .plain => bytes
  | .doubleQuoted => doubleQuoted bytes
  | .ansiQuoted => ansiQuoted bytes

/-- What the narrowest way to write some bytes says about them. -/
theorem isPlain_of_style {bytes : Bytes} (h : style bytes = .plain) :
    ∀ b ∈ bytes, isPlain b = true := by
  unfold style at h
  split_ifs at h with hc hq
  intro b hb
  simp only [List.any_eq_true, Bool.or_eq_true, not_exists, not_and, not_or,
    Bool.not_eq_true] at hc hq
  simp [isPlain, hc b hb, (hq b hb).1, (hq b hb).2]

private theorem eq_of_mem_doubleQuotedByte {b c : UInt8} (h : c ∈ doubleQuotedByte b) :
    c = backslash ∨ c = b := by
  unfold doubleQuotedByte at h
  split at h
  · simpa only [List.mem_cons, List.not_mem_nil, or_false] using h
  · exact .inr (List.mem_singleton.1 h)

/-- What a byte is written as in an ANSI-C quoted run is printable ASCII. -/
theorem printable_of_mem_ansiQuotedByte {b c : UInt8} (h : c ∈ ansiQuotedByte b) :
    0x20 ≤ c ∧ c < 0x7F := by
  obtain ⟨letter, hw, hl⟩ | hw | ⟨hw, -, -, hb⟩ := ansiQuotedByte_cases b
  · simp only [hw, List.mem_cons, List.not_mem_nil, or_false] at h
    obtain rfl | rfl := h
    · decide
    · have letters : symbolLetters.all (fun c => 0x20 ≤ c ∧ c < 0x7F) = true := by decide
      exact of_decide_eq_true (List.all_eq_true.1 letters c (mem_symbolLetters hl))
  · rw [hw, List.mem_cons] at h
    obtain rfl | h := h
    · decide
    · obtain ⟨low, high⟩ := isOctalDigit_iff.1 (isOctalDigit_of_mem_octalDigits h)
      rw [UInt8.le_iff_toNat_le, UInt8.lt_iff_toNat_lt]
      exact ⟨Nat.le_trans (by decide) low, Nat.lt_of_le_of_lt high (by decide)⟩
  · rw [hw, List.mem_singleton] at h
    exact h ▸ hb

private theorem isControl_of_le {b : UInt8} (h : 0x20 ≤ b) : isControl b = false := by
  simp [isControl, UInt8.not_lt.2 h]

/-- No control byte other than the tab is left in quoted bytes. -/
theorem isControl_of_mem_quotedBytes {bytes : Bytes} {b : UInt8} (h : b ∈ quotedBytes bytes) :
    isControl b = false := by
  unfold quotedBytes at h
  cases hs : style bytes with
  | plain =>
    rw [hs] at h
    have plain := isPlain_of_style hs b h
    simp only [isPlain, Bool.and_eq_true, Bool.not_eq_true'] at plain
    exact plain.1.1
  | doubleQuoted =>
    rw [hs] at h
    unfold style at hs
    split_ifs at hs with hc
    simp only [List.any_eq_true, not_exists, not_and, Bool.not_eq_true] at hc
    simp only [doubleQuoted, List.cons_append, List.mem_cons, List.mem_append, List.mem_flatMap,
      List.not_mem_nil, or_false] at h
    obtain rfl | ⟨c, hcb, hb⟩ | rfl := h
    · decide
    · obtain rfl | rfl := eq_of_mem_doubleQuotedByte hb
      · decide
      · exact hc b hcb
    · decide
  | ansiQuoted =>
    rw [hs] at h
    simp only [ansiQuoted, List.cons_append, List.mem_cons, List.mem_append, List.mem_flatMap,
      List.not_mem_nil, or_false] at h
    obtain rfl | rfl | ⟨c, -, hb⟩ | rfl := h
    · decide
    · decide
    · exact isControl_of_le (printable_of_mem_ansiQuotedByte hb).1
    · decide

/-- The segments that quoted bytes are read as stand for these bytes. -/
theorem exists_parse_quotedBytes (legacy : Bool) (bytes : Bytes) :
    ∃ segments, parse (quotedBytes bytes) = .ok segments ∧
      segments.flatMap (denoted legacy) = bytes := by
  unfold quotedBytes
  cases hs : style bytes with
  | plain =>
    refine ⟨bytes.map .plain, parseFrom_plain (isPlain_of_style hs) [], ?_⟩
    rw [List.flatMap_map]
    exact List.flatMap_singleton' bytes
  | doubleQuoted =>
    refine ⟨[.double (bytes.map .ofByte)], ?_, ?_⟩
    · rw [parse, doubleQuoted, List.cons_append,
        parseFrom_doubleQuote (readDouble_flatMap [] bytes []), parseFrom_nil]
      rfl
    · rw [List.flatMap_singleton, denoted, List.flatMap_map]
      simp only [DoubleItem.denoted_ofByte]
      exact List.flatMap_singleton' bytes
  | ansiQuoted =>
    obtain ⟨items, hd, hr⟩ := exists_readAnsi_flatMap [] bytes []
    refine ⟨[.ansi items], ?_, by rw [List.flatMap_singleton, denoted, hd]⟩
    rw [parse, ansiQuoted, List.cons_append, List.cons_append, parseFrom_dollar hr,
      parseFrom_nil]
    rfl

/-! ### Texts -/

/-- Only a text with a stored form is quoted, as a text of the quoted bytes. -/
theorem toBytes_quote {v t : Text} (h : quote v = .ok t) :
    v.IsStorable ∧ t.IsStorable ∧ t.toBytes = quotedBytes v.toBytes := by
  unfold quote at h
  cases he : v.encode with
  | error cause => rw [he] at h; cases h
  | ok bytes =>
    obtain ⟨hv, rfl⟩ := Text.isStorable_of_encode he
    rw [he, Except.map, Except.ok.injEq] at h
    refine ⟨hv, ?_⟩
    unfold quotedBytes
    cases hs : style v.toBytes with
    | plain =>
      simp only [hs] at h
      exact h ▸ ⟨hv, rfl⟩
    | doubleQuoted =>
      simp only [hs] at h
      exact h ▸ ⟨Text.isStorable_ofBytes _, Text.toBytes_ofBytes _⟩
    | ansiQuoted =>
      simp only [hs] at h
      exact h ▸ ⟨Text.isStorable_ofBytes _, Text.toBytes_ofBytes _⟩

/-- A text with a stored form can be quoted. -/
theorem exists_quote {v : Text} (h : v.IsStorable) : ∃ t, quote v = .ok t :=
  ⟨_, by rw [quote, Text.encode_eq_ok h, Except.map]⟩

/-- A text is not quoted exactly if a surrogate in it keeps no byte. -/
theorem quote_eq_error_iff {v : Text} :
    (∃ cause, quote v = .error cause) ↔
      ∃ c ∈ v, (0xD800 ≤ c.val ∧ c.val ≤ 0xDFFF) ∧ ¬ (0xDC80 ≤ c.val ∧ c.val ≤ 0xDCFF) := by
  have hq : (∃ cause, quote v = .error cause) ↔ ∃ cause, v.encode = .error cause := by
    unfold quote
    cases v.encode <;> simp [Except.map]
  rw [hq, Text.encode_eq_error_iff]
  refine exists_congr fun c => and_congr_right fun _ => ?_
  rw [CodePoint.isStorable, CodePoint.isSurrogate, CodePoint.isRawByte, Bool.or_eq_false_iff,
    Bool.not_eq_false', ← Bool.not_eq_true (_ && _)]
  simp only [Bool.and_eq_true, decide_eq_true_eq]

/-- A text with a stored form is read by its bytes alone. -/
theorem unquote_eq {t : Text} (h : t.IsStorable) :
    unquote t = (parse t.toBytes).map fun segments =>
      Text.ofBytes (segments.flatMap (denoted (isLegacyForm t.toBytes))) := by
  rw [unquote, Text.encode_eq_ok h]

/-- The empty text stands for the empty value. -/
theorem unquote_nil : unquote [] = .ok [] := by
  rw [unquote_eq (by simp [Text.IsStorable]), Text.toBytes, List.flatMap_nil, parse, parseFrom_nil]
  rfl

/-- Texts with the same bytes stand for the same value. -/
theorem unquote_reread {t : Text} (h : t.IsStorable) : unquote t.reread = unquote t := by
  rw [unquote_eq h, unquote_eq t.isStorable_reread, Text.toBytes_reread]

/-- A text stands for a value if it has a stored form and its segments can be found. -/
theorem unquote_eq_ok_iff {t w : Text} :
    unquote t = .ok w ↔ t.IsStorable ∧ ∃ segments, parse t.toBytes = .ok segments ∧
      w = Text.ofBytes (segments.flatMap (denoted (isLegacyForm t.toBytes))) := by
  constructor
  · intro h
    have ht : t.IsStorable := by
      cases he : t.encode with
      | error cause => rw [unquote, he] at h; cases h
      | ok bytes => exact (Text.isStorable_of_encode he).1
    rw [unquote_eq ht] at h
    cases hp : parse t.toBytes with
    | error cause => rw [hp] at h; cases h
    | ok segments =>
      rw [hp, Except.map, Except.ok.injEq] at h
      exact ⟨ht, segments, rfl, h.symm⟩
  · rintro ⟨ht, segments, hp, rfl⟩
    rw [unquote_eq ht, hp, Except.map]

/-- A quoted text stands for its value, as it is after it was stored once. -/
theorem unquote_quote {v t : Text} (h : quote v = .ok t) : unquote t = .ok v.reread := by
  obtain ⟨-, ht, hb⟩ := toBytes_quote h
  obtain ⟨segments, hp, hd⟩ :=
    exists_parse_quotedBytes (isLegacyForm (quotedBytes v.toBytes)) v.toBytes
  rw [unquote_eq ht, hb, hp, Except.map, hd]
  rfl

/-- A value that was read can be quoted, and is not changed by being stored. -/
theorem exists_quote_of_unquote {t w : Text} (h : unquote t = .ok w) :
    w.reread = w ∧ ∃ t', quote w = .ok t' := by
  obtain ⟨-, segments, -, rfl⟩ := unquote_eq_ok_iff.1 h
  exact ⟨Text.reread_ofBytes _, exists_quote (Text.isStorable_ofBytes _)⟩

/-- One pass of reading and writing: the narrowest stored text of the value of a text. -/
def requote? (t : Text) : Option Text := (unquote t).toOption.bind fun w => (quote w).toOption

/-- Quoting refuses exactly the surrogates that keep no byte, reading gives back the bytes of what
was quoted, and one pass of reading and writing brings a stored text into its final form. -/
theorem quote_roundTrip :
    (∀ v : Text, (∃ cause, quote v = .error cause) ↔
      ∃ c ∈ v, (0xD800 ≤ c.val ∧ c.val ≤ 0xDFFF) ∧ ¬ (0xDC80 ≤ c.val ∧ c.val ≤ 0xDCFF)) ∧
    (∀ v t : Text, quote v = .ok t →
      ∃ w bytes, unquote t = .ok w ∧ v.encode = .ok bytes ∧ w.encode = .ok bytes ∧
        (Text.ofBytes bytes = v → w = v)) ∧
    (∀ t w : Text, unquote t = .ok w →
      ∃ t', quote w = .ok t' ∧ unquote t' = .ok w ∧
        requote? t = some t' ∧ requote? t' = some t') := by
  refine ⟨fun v => quote_eq_error_iff, fun v t h => ?_, fun t w h => ?_⟩
  · obtain ⟨hv, -, -⟩ := toBytes_quote h
    refine ⟨v.reread, v.toBytes, unquote_quote h, Text.encode_eq_ok hv, ?_, id⟩
    rw [Text.encode_eq_ok v.isStorable_reread, Text.toBytes_reread]
  · -- A value that was read is not changed by being stored.
    obtain ⟨-, segments, -, hw⟩ := unquote_eq_ok_iff.1 h
    obtain ⟨t', hq⟩ := exists_quote (hw ▸ Text.isStorable_ofBytes _)
    have hu : unquote t' = .ok w := by
      rw [unquote_quote hq, hw, Text.reread_ofBytes]
    have pass {s : Text} (hs : unquote s = .ok w) : requote? s = some t' := by
      rw [requote?, hs, Except.toOption, Option.bind_some, hq, Except.toOption]
    exact ⟨t', hq, hu, pass h, pass hu⟩

end VarFile.Value
