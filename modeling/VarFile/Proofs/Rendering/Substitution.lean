import VarFile.Proofs.Rendering.Harmless
import VarFile.Proofs.Shell.Substitution

/-!
# Command substitutions in values

By the rules that values are read with, the only bytes that start a command substitution in a text
that stands for a value are backquotes outside of quotes (`History.onlyBackquotes_rendered`). These
are taken for ordinary bytes, so a text with two of them is written as it is, and the shell runs
what they enclose (`History.not_substitutions_eq_nil`).
-/

namespace VarFile

namespace Shell

open Value (backslash singleQuote doubleQuote dollar backquote semicolon hash IsOrdinary Word
  Trailer AnsiRun DoubleRun)

/-! ### Words of the grammar -/

/-- Nothing starts in an ANSI-C quoted run. -/
theorem substitutions_ansiRun {inside value : Bytes} (h : AnsiRun inside value) (rest : Bytes) :
    substitutions .ansi (inside ++ rest) = substitutions .ansi rest := by
  induction h with
  | nil => rfl
  | plain hq hb _ ih =>
    rw [List.cons_append, substitutions_cons rfl, Quoting.next, if_neg hq, if_neg hb, ih]
  | escape he _ ih =>
    obtain ⟨b, digits, rfl, hd⟩ := exists_digits_of_escape he
    have read : ∀ d ∈ digits, Quoting.ansi.next d = .ansi :=
      fun d h => Quoting.next_ansi_of_isHexDigit (hd d h)
    rw [List.cons_append, List.append_assoc, List.cons_append, substitutions_cons rfl,
      substitutions_cons rfl]
    exact (substitutions_append read (.inl rfl) _).trans ih

/-- Nothing starts in a double-quoted run. -/
theorem substitutions_doubleRun {legacy : Bool} {inside value : Bytes}
    (h : DoubleRun legacy inside value) (rest : Bytes) :
    substitutions .double (inside ++ rest) = substitutions .double rest := by
  induction h with
  | nil => rfl
  | plain hb _ ih =>
    simp only [List.mem_cons, List.not_mem_nil, or_false, not_or] at hb
    obtain ⟨dollar, backquote, quote, slash⟩ := hb
    have nothing := opens_eq_false backquote dollar
    rw [List.cons_append, substitutions_cons (by rw [nothing, Bool.and_false]), Quoting.next,
      if_neg quote, if_neg slash, ih]
  | escaped _ ih =>
    rw [List.cons_append, substitutions_cons (by rw [opens_eq_false (by decide) (by decide),
      Bool.and_false]), List.cons_append, substitutions_cons rfl]
    exact ih

private theorem onlyBackquotes_quoted {quoting : Quoting} {inside : Bytes} {quote : UInt8}
    (quiet : ∀ rest, substitutions quoting (inside ++ rest) = substitutions quoting rest)
    (closed : quoting.next quote = .outside false) (hb : quote ≠ backquote) (hd : quote ≠ dollar)
    {rest : Bytes} (later : OnlyBackquotes (.outside false) rest) :
    OnlyBackquotes quoting (inside ++ quote :: rest) := by
  have nothing : (quoting.expands && opens quote rest) = false := by
    rw [opens_eq_false hb hd, Bool.and_false]
  rwa [OnlyBackquotes, quiet, substitutions_cons nothing, closed]

private theorem head?_ne_parenthesis {legacy : Bool} {text value : Bytes}
    (h : Word legacy text value) :
    text.head? ≠ some parenthesis := by
  intro he
  have first {b : UInt8} (other : b ≠ parenthesis) {tail : Bytes} :
      (b :: tail).head? ≠ some parenthesis := fun h => other (Option.some.inj h)
  cases h with
  | nil => cases he
  | plain hb => exact first (fun h => absurd hb.operator (by rw [h]; decide)) he
  | escaped => exact first (by decide) he
  | single => exact first (by decide) he
  | double => exact first (by decide) he
  | ansi => exact first (by decide) he

private theorem onlyBackquotes_of_word {legacy : Bool} {text value : Bytes}
    (h : Word legacy text value)
    {afterDollar : Bool} (hd : afterDollar = true → text.head? ≠ some singleQuote) {rest : Bytes}
    (hp : rest.head? ≠ some parenthesis) (hr : ∀ a, OnlyBackquotes (.outside a) rest) :
    OnlyBackquotes (.outside afterDollar) (text ++ rest) := by
  induction h generalizing afterDollar with
  | nil => exact hr afterDollar
  | @plain b text value hb dollar h ih =>
    have later : OnlyBackquotes (.outside (b == Value.dollar)) (text ++ rest) :=
      ih fun h => dollar (beq_iff_eq.1 h)
    -- A dollar sign is before the end of the word or before another byte of it.
    have unopened : (text ++ rest).head? ≠ some parenthesis := by
      cases text with
      | nil => exact hp
      | cons c text => exact fun he => head?_ne_parenthesis h he
    have start : b = backquote ∨ opens b (text ++ rest) = false := by
      rw [opens, beq_false_of_ne unopened, Bool.and_false, Bool.or_false, ← Bool.not_eq_true,
        beq_iff_eq]
      exact Decidable.em _
    rw [List.cons_append]
    refine onlyBackquotes_cons (.inr (start.imp_left fun h => ⟨rfl, h⟩)) ?_
    rwa [(next_of_isOrdinary hb afterDollar).2]
  | escaped _ ih =>
    rw [List.cons_append, List.cons_append]
    refine onlyBackquotes_cons (.inr (.inr rfl)) (onlyBackquotes_cons (.inl rfl) ?_)
    exact ih (by simp)
  | @single inside text _ hs _ ih =>
    cases afterDollar with
    | true => exact absurd rfl (hd rfl)
    | false =>
      have same : ∀ b ∈ inside, Quoting.single.next b = .single :=
        fun b hb => if_neg (ne_of_mem_of_not_mem hb hs)
      rw [List.cons_append, List.append_assoc, List.cons_append]
      exact onlyBackquotes_cons (.inr (.inr rfl)) (onlyBackquotes_quoted
        (substitutions_append same (.inl rfl)) rfl (by decide) (by decide) (ih (by simp)))
  | double hi _ ih =>
    rw [List.cons_append, List.append_assoc, List.cons_append]
    exact onlyBackquotes_cons (.inr (.inr rfl)) (onlyBackquotes_quoted
      (substitutions_doubleRun hi) rfl (by decide) (by decide) (ih (by simp)))
  | ansi hi _ ih =>
    rw [List.cons_append, List.cons_append, List.append_assoc, List.cons_append]
    refine onlyBackquotes_cons (.inr (.inr rfl)) (onlyBackquotes_cons (.inr (.inr rfl)) ?_)
    exact onlyBackquotes_quoted (substitutions_ansiRun hi) rfl (by decide) (by decide)
      (ih (by simp))

/-! ### Tokens -/

/-- What a shell with the blanks of values reads from some place on starts a command substitution
at backquotes only that nothing protects. -/
def StartsOnlyBackquotes (place : Place) (line : Bytes) : Prop :=
  ∃ ts, tokensFrom Value.isBlank place line = some ts ∧ OnlyBackquotes (.outside false) (code ts)

private theorem quiet_of_gap {b : UInt8} (h : Value.isBlank b = true ∨ b = semicolon) :
    (∀ a, (Quoting.outside a).next b = .outside false) ∧ b ≠ backquote ∧ b ≠ dollar := by
  have ne {c : UInt8} (blank : Value.isBlank c = false) (hs : c ≠ semicolon) : b ≠ c := by
    rintro rfl
    obtain h | h := h
    · rw [blank] at h
      cases h
    · exact hs h
  refine ⟨fun a => ?_, ne (by decide) (by decide), ne (by decide) (by decide)⟩
  rw [Quoting.next, if_neg (ne (by decide) (by decide)), if_neg (ne (by decide) (by decide)),
    if_neg (ne (by decide) (by decide)), beq_false_of_ne (ne (by decide) (by decide))]

private theorem onlyBackquotes_gap {gap : Bytes}
    (h : ∀ b ∈ gap, Value.isBlank b = true ∨ b = semicolon)
    (a : Bool) : OnlyBackquotes (.outside a) gap := by
  induction gap generalizing a with
  | nil => exact onlyBackquotes_nil _
  | cons b gap ih =>
    obtain ⟨hb, later⟩ := List.forall_mem_cons.1 h
    obtain ⟨next, backquote, dollar⟩ := quiet_of_gap hb
    refine onlyBackquotes_cons (.inr (.inr (opens_eq_false backquote dollar gap))) ?_
    rw [next]
    exact ih later false

private theorem exists_code_trailer {trailer : Bytes} (h : Trailer trailer) :
    ∃ ts, tokensFrom Value.isBlank .between trailer = some ts ∧
      ∀ b ∈ code ts, Value.isBlank b = true ∨ b = semicolon := by
  have separators {gap : Bytes} (h : ∀ b ∈ gap, Value.isBlank b = true ∨ b = semicolon) :
      ∀ b ∈ gap, (separator? Value.isBlank b).isSome = true :=
    fun b hb => isSome_separator? (h b hb)
  have ends : tokensFrom Value.isBlank .between [] = some [] := rfl
  cases h with
  | nil => exact ⟨[], rfl, by simp [code]⟩
  | gap _ h =>
    refine ⟨trailer.filterMap (separator? Value.isBlank), ?_, ?_⟩
    · have read := tokensFrom_separators (separators h.mem) []
      rwa [List.append_nil, ends, Option.map_some, List.append_nil] at read
    · rw [code_filterMap_separator? (separators h.mem)]
      exact h.mem
  | @comment gap text _ h =>
    refine ⟨gap.filterMap (separator? Value.isBlank) ++ [.comment (hash :: text)], ?_, ?_⟩
    · rw [tokensFrom_separators (separators h.mem), tokensFrom_hash, Option.map_some]
    · rw [code, List.flatMap_append, ← code, code_filterMap_separator? (separators h.mem)]
      simpa [Token.code] using h.mem

/-- A word of the grammar before a trailer is read up to its end. -/
theorem startsOnlyBackquotes_of_word {legacy : Bool} {text value trailer : Bytes}
    (hw : Word legacy text value) (ht : Trailer trailer) :
    StartsOnlyBackquotes (.inWord (.outside false) []) (text ++ trailer) := by
  obtain ⟨a, closed⟩ := exists_after?_of_word hw false (by simp)
  obtain ⟨after, read, gap⟩ := exists_code_trailer ht
  refine ⟨.word text :: after, ?_, ?_⟩
  · rw [tokensFrom_append closed, tokensFrom_inWord fun c hc => isSome_separator? (ht.start c hc),
      read, List.append_nil, List.reverse_reverse, Option.map_some]
  · have parenthesis : (code after).head? ≠ some parenthesis := fun he =>
      absurd (gap _ (List.mem_of_mem_head? he)) (by decide)
    exact onlyBackquotes_of_word hw (by simp) parenthesis (onlyBackquotes_gap gap)

private theorem startsOnlyBackquotes_indented {indent rest : Bytes}
    (hi : ∀ b ∈ indent, Value.isBlank b = true)
    (h : StartsOnlyBackquotes .between rest) :
    StartsOnlyBackquotes .between (indent ++ rest) := by
  obtain ⟨ts, read, only⟩ := h
  have separators : ∀ b ∈ indent, (separator? Value.isBlank b).isSome = true :=
    fun b hb => isSome_separator? (.inl (hi b hb))
  have quiet {b : UInt8} (hb : b ∈ indent) := quiet_of_gap (.inl (hi b hb))
  refine ⟨indent.filterMap (separator? Value.isBlank) ++ ts, ?_, ?_⟩
  · rw [tokensFrom_separators separators, read, Option.map_some]
  · have all : code (indent.filterMap (separator? Value.isBlank) ++ ts) = indent ++ code ts := by
      rw [code, List.flatMap_append, ← code, code_filterMap_separator? separators, ← code]
    rwa [OnlyBackquotes, all, substitutions_append (fun b hb => (quiet hb).1 false)
      (.inr fun b hb => (quiet hb).2)]

/-- What is known of the command substitutions in a line that is read from some place on: what
stands before the comment starts them at backquotes only that nothing protects. -/
structure RunsOnlyBackquotes (place : Place) (line : Bytes) (ts : List Token) : Prop where
  read : tokensFrom Value.isBlank place line = some ts
  whole : ∃ comment, place.pending ++ line = code ts ++ comment ∧
    (comment = [] ∨ ∃ text, comment = hash :: text)
  only : OnlyBackquotes (.outside false) (code ts)
  nothing : substitutions (.outside false) (code ts) = [] ↔
    hasBackquote (.outside false) (code ts) = false
  /-- Plain tokens are found by the shell as well, and it runs nothing then. -/
  shell : IsPlain ts → readFrom place line = some ts ∧
    substitutions (.outside false) (code ts) = []

private theorem StartsOnlyBackquotes.exists_runs {place : Place} {line : Bytes}
    (h : StartsOnlyBackquotes place line) : ∃ ts, RunsOnlyBackquotes place line ts := by
  obtain ⟨ts, read, only⟩ := h
  exact ⟨ts, read, exists_comment_of_tokensFrom read, only, only.substitutions_eq_nil_iff,
    fun plain => ⟨readFrom_of_isPlain read plain, substitutions_of_isPlain plain.code⟩⟩

end Shell

namespace Record

/-- Nothing but unquoted backquotes starts a substitution in a line of a well-formed record. -/
theorem startsOnlyBackquotes_of_mem_rendered {r : Record} (h : r.WF) {l : Text}
    (hl : l ∈ r.rendered) : Shell.StartsOnlyBackquotes .between l.toBytes := by
  obtain inert | ⟨a, text, wf, hr, rfl⟩ := rendered_cases h hl
  · obtain ⟨indent, rest, hi, rfl, hr⟩ := isInert_iff.1 inert
    rw [Text.toBytes_append]
    refine Shell.startsOnlyBackquotes_indented (Text.isBlank_of_mem_toBytes hi) ?_
    obtain rfl | ⟨comment, rfl⟩ := hr
    · exact ⟨[], rfl, Shell.onlyBackquotes_nil _⟩
    · rw [Text.toBytes_cons]
      exact ⟨_, Shell.tokensFrom_hash _, Shell.onlyBackquotes_nil _⟩
  · obtain ⟨indent, b, word, value, trailer, bytes, hi, hb, hh, -, hw, ht⟩ :=
      exists_word_of_line wf hr
    obtain ⟨ts, read, only⟩ := Shell.startsOnlyBackquotes_of_word hw ht
    rw [bytes]
    refine Shell.startsOnlyBackquotes_indented hi ⟨ts, ?_, only⟩
    rwa [List.cons_append, Shell.tokensFrom_between (Shell.next_of_isOrdinary hb false).1 hh]

end Record

namespace History

open Shell (RunsOnlyBackquotes)

/-- In every text that stands for a value, and in every line that a document is written as, nothing
but backquotes that nothing protects starts a command substitution by the rules of values, and the
shell runs nothing where it reads by the same rules. -/
theorem onlyBackquotes_rendered (fileName : Text) (bytes : Bytes) (operations : List Operation) :
    (∀ text v, Value.unquote text = .ok v →
      ∃ ts, RunsOnlyBackquotes (.inWord (.outside false) []) text.toBytes ts) ∧
      ∀ l ∈ ((load fileName bytes).run operations).document.rendered,
        ∃ ts, RunsOnlyBackquotes .between l.toBytes ts := by
  refine ⟨fun text v h => ?_, fun l hl => ?_⟩
  · obtain ⟨word, value, trailer, hb, hw, ht⟩ := Value.exists_word_of_unquote h
    rw [hb]
    exact (Shell.startsOnlyBackquotes_of_word hw ht).exists_runs
  · obtain ⟨r, hr, hl⟩ := List.mem_flatMap.1 hl
    have wf := (wellFormed_run fileName bytes operations).1.wf r hr
    exact (Record.startsOnlyBackquotes_of_mem_rendered wf hl).exists_runs

/-- Backquotes that are protected in all ways, before a comment with one that is not. -/
theorem onlyBackquotes_rendered_quoted :
    let text : Text := "'`a`'\"\\`b\"$'`'\\`; # `c`"
    ∃ ts, Shell.read ("A=" ++ text : Text).toBytes = some ts ∧
      Shell.substitutions (.outside false) (Shell.code ts) = [] := by
  intro text
  have hl : "A=" ++ text ∈ ((load [] ("`id`\nA=" ++ text : Text).toBytes).run
      [.set "B" (some "`")]).document.rendered := by decide +kernel
  obtain ⟨ts, runs⟩ := (onlyBackquotes_rendered [] _ _).2 _ hl
  have tokens : Shell.tokens Value.isBlank ("A=" ++ text : Text).toBytes =
      some [.word ("A='`a`'\"\\`b\"$'`'\\`" : Text).toBytes, .operator Value.semicolon,
        .blank 0x20, .comment ("# `c`" : Text).toBytes] := by decide +kernel
  cases tokens.symm.trans runs.read
  refine ⟨_, runs.shell ⟨?blanks, by decide +kernel⟩⟩
  intro b hb
  simp only [List.mem_cons, Shell.Token.blank.injEq, reduceCtorEq, false_or, List.not_mem_nil,
    or_false] at hb
  rw [hb]
  rfl

/-- A command between two unquoted backquotes stands for a value, and the shell, which has read
nothing before the first of them, runs the command. -/
theorem not_substitutions_eq_nil :
    ¬ ∀ text v, Value.unquote text = .ok v →
      ∀ ts, Shell.tokensFrom Shell.isBlank (.inWord (.outside false) []) text.toBytes = some ts →
        Shell.substitutions (.outside false) (Shell.code ts) = [] := by
  intro h
  have none := h "`id`" "`id`" (by decide +kernel) [.word ("`id`" : Text).toBytes]
    (by decide +kernel)
  exact absurd none (by decide +kernel)

end History

end VarFile
