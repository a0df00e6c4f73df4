import VarFile.Proofs.Document.History
import VarFile.Proofs.Rendering.Settled
import VarFile.Proofs.Shell.Word

/-!
# What the shell does with written lines

Every line that a document is written as is harmless, in the sense of `Shell.Harmless`, by the rules
that values are read with. The shell reads a plain line in the same way, so that it is harmless to
the shell as well (`History.isHarmless_rendered`). A line with another blank than those of the shell
need not be (`History.not_isHarmless_rendered`).
-/

namespace VarFile

namespace Text

/-- Blanks of a text are blanks of a value. -/
theorem isBlank_of_mem_toBytes {indent : Text} (h : ∀ c ∈ indent, c.isBlank = true) :
    ∀ b ∈ indent.toBytes, Value.isBlank b = true := by
  intro b hb
  obtain ⟨c, hc, hb⟩ := List.mem_flatMap.1 hb
  rw [CodePoint.toBytes_of_isAscii (CodePoint.isAscii_of_isBlank (h c hc)),
    List.mem_singleton] at hb
  have blank := h c hc
  simp only [CodePoint.isBlank, Bool.or_eq_true, Bool.and_eq_true, beq_iff_eq,
    decide_eq_true_eq] at blank
  simp only [hb, Value.isBlank, Bool.or_eq_true, Bool.and_eq_true, beq_iff_eq, decide_eq_true_eq,
    UInt8.le_iff_toNat_le, ← UInt8.toNat_inj, UInt8.toNat_ofNat', UInt8.reduceToNat]
  omega

end Text

namespace Value

/-- A text that stands for a value has the bytes of a word of the grammar and a trailer. -/
theorem exists_word_of_unquote {text v : Text} (h : unquote text = .ok v) :
    ∃ word value trailer, text.toBytes = word ++ trailer ∧
      Word (isLegacyForm text.toBytes) word value ∧ Trailer trailer := by
  obtain ⟨-, segments, hp, -⟩ := unquote_eq_ok_iff.1 h
  obtain ⟨word, trailer, hb, hw, ht⟩ := exists_parse_iff.1 ⟨segments, hp, rfl⟩
  exact ⟨word, _, trailer, hb, hw, ht⟩

private theorem isReadable_iff {text : Text} :
    isReadable text = true ↔ ∃ v, unquote text = .ok v := by
  rw [isReadable]
  cases unquote text <;> simp

end Value

/-! ### The lines of a record -/

namespace Record

private theorem isHarmless_of_isInert {text : Text} (h : isInert text = true) :
    Shell.IsHarmless text.toBytes := by
  obtain ⟨indent, rest, hi, rfl, hr⟩ := isInert_iff.1 h
  rw [Text.toBytes_append]
  refine Shell.isHarmless_remark (Text.isBlank_of_mem_toBytes hi) ?_
  obtain rfl | ⟨comment, rfl⟩ := hr
  · exact .inl rfl
  · exact .inr ⟨_, Text.toBytes_cons _ comment⟩

/-- The line of an assignment whose text stands for a value is a word of the grammar that assigns,
between blanks and a trailer. -/
theorem exists_word_of_line {a : Assignment} (h : a.WF) {text : Text}
    (hr : Value.isReadable text = true) :
    ∃ indent b word value trailer, (a.line text).toBytes = indent ++ (b :: word ++ trailer) ∧
      (∀ b ∈ indent, Value.isBlank b = true) ∧ Value.IsOrdinary b ∧ b ≠ Value.hash ∧
      Shell.IsAssignment (b :: word) ∧
      Value.Word (Value.isLegacyForm text.toBytes) (b :: word) value ∧ Value.Trailer trailer := by
  obtain ⟨indent, hi, hlead⟩ := h.lead
  obtain ⟨v, hv⟩ := Value.isReadable_iff.1 hr
  obtain ⟨text', _, trailer, hb, hw, ht⟩ := Value.exists_word_of_unquote hv
  obtain ⟨b, word, value, first, ordinary, hash, assigns, word'⟩ :=
    Shell.exists_word_of_key h.key hw
  refine ⟨indent.toBytes, b, word, value, trailer, ?_, Text.isBlank_of_mem_toBytes hi, ordinary,
    hash, assigns, word', ht⟩
  have equals : (CodePoint.ofChar '=').toBytes = [0x3D] := rfl
  rw [← first, Assignment.line, hlead, Text.toBytes_append, Text.toBytes_append, Text.toBytes_cons,
    hb, equals]
  simp only [List.append_assoc, List.cons_append, List.nil_append]

/-- A line that a well-formed record is written as is blank or a comment, or it is the line of an
assignment whose text stands for a value. -/
theorem rendered_cases {r : Record} (h : r.WF) {l : Text} (hl : l ∈ r.rendered) :
    isInert l = true ∨
      ∃ (a : Assignment) (text : Text), a.WF ∧ Value.isReadable text = true ∧ l = a.line text := by
  have empty : Value.isReadable [] = true := by rw [Value.isReadable, Value.unquote_nil]
  cases r with
  | raw text =>
    rw [rendered] at hl
    split at hl
    · next hi => exact .inl (List.mem_singleton.1 hl ▸ hi)
    · exact .inl (List.mem_singleton.1 hl ▸ isInert_marker _)
  | assignment a =>
    rw [rendered] at hl
    split at hl
    · cases hl
    · next text hv =>
      split at hl
      · next hr => exact .inr ⟨a, text, h, hr, List.mem_singleton.1 hl⟩
      · obtain hl | hl := List.mem_cons.1 hl
        · exact .inr ⟨⟨a.key, a.key, some []⟩, [], wf_stored_nil h.key, empty, hl⟩
        · exact .inl (List.mem_singleton.1 hl ▸ isInert_marker _)

/-- Every line that a well-formed record is written as is harmless. -/
theorem isHarmless_of_mem_rendered {r : Record} (h : r.WF) {l : Text} (hl : l ∈ r.rendered) :
    Shell.IsHarmless l.toBytes := by
  obtain inert | ⟨a, text, wf, hr, rfl⟩ := rendered_cases h hl
  · exact isHarmless_of_isInert inert
  · obtain ⟨indent, b, word, value, trailer, bytes, hi, hb, hh, ha, hw, ht⟩ :=
      exists_word_of_line wf hr
    rw [bytes]
    exact Shell.isHarmless_assignment hi hb hh ha hw ht

end Record

namespace History

/-- Every line that a document is written as, whatever was done with it, is harmless by the rules of
values, and the shell reads it in the same way if its tokens are plain. -/
theorem isHarmless_rendered (fileName : Text) (bytes : Bytes) (operations : List Operation)
    {l : Text} (hl : l ∈ ((load fileName bytes).run operations).document.rendered) :
    ∃ ts, Shell.tokens Value.isBlank l.toBytes = some ts ∧
      Shell.Harmless (Shell.significant ts) ∧
      (Shell.IsPlain ts → Shell.read l.toBytes = some ts) := by
  obtain ⟨r, hr, hl⟩ := List.mem_flatMap.1 hl
  have wf := (wellFormed_run fileName bytes operations).1.wf r hr
  obtain ⟨ts, read, harmless⟩ := Record.isHarmless_of_mem_rendered wf hl
  exact ⟨ts, read, harmless, Shell.readFrom_of_isPlain read⟩

/-- An assignment with a parameter, a semicolon and a comment, beside a command and a key that is
set. -/
theorem isHarmless_rendered_semicolon :
    let l : Text := "\tA=$HOME'x y'; # `z`"
    ∃ ts, Shell.read l.toBytes = some ts ∧ Shell.Harmless (Shell.significant ts) := by
  intro l
  have hl : l ∈ ((load [] ("reboot\n\tA=$HOME'x y'; # `z`\n" : Text).toBytes).run
      [.set "B" (some "1")]).document.rendered := by decide +kernel
  obtain ⟨ts, read, harmless, shell⟩ := isHarmless_rendered [] _ _ hl
  have tokens : Shell.tokens Value.isBlank l.toBytes = some [.blank 0x09,
      .word ("A=$HOME'x y'" : Text).toBytes, .operator Value.semicolon, .blank 0x20,
      .comment ("# `z`" : Text).toBytes] := by decide +kernel
  cases tokens.symm.trans read
  refine ⟨_, shell ⟨?blanks, by decide +kernel⟩, harmless⟩
  intro b hb
  simp only [List.mem_cons, Shell.Token.blank.injEq, reduceCtorEq, false_or, List.not_mem_nil,
    or_false] at hb
  obtain rfl | rfl := hb <;> rfl

/-- The shell takes a carriage return before a number sign for a part of the word, and so runs what
stands behind the semicolon. -/
theorem not_isHarmless_rendered :
    ¬ ∀ (fileName : Text) (bytes : Bytes) (operations : List Operation),
      ∀ l ∈ ((load fileName bytes).run operations).document.rendered,
        ∀ ts, Shell.read l.toBytes = some ts → Shell.Harmless (Shell.significant ts) := by
  intro h
  have harmless := h [] ("A=1\r#; reboot\n" : Text).toBytes [] "A=1\r#; reboot"
    (by decide +kernel) [.word ("A=1\r#" : Text).toBytes, .operator Value.semicolon, .blank 0x20,
      .word ("reboot" : Text).toBytes] (by decide +kernel)
  have left : Shell.significant [.word ("A=1\r#" : Text).toBytes, .operator Value.semicolon,
      .blank 0x20, .word ("reboot" : Text).toBytes] = [.word ("A=1\r#" : Text).toBytes,
        .operator Value.semicolon, .word ("reboot" : Text).toBytes] := rfl
  rw [left] at harmless
  cases harmless with
  | remark h => obtain h | ⟨text, h⟩ := h <;> cases h
  | assignment _ h => obtain h | ⟨text, h⟩ := h <;> cases h
  | terminated _ h => obtain h | ⟨text, h⟩ := h <;> cases h

end History

end VarFile
