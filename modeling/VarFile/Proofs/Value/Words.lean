import VarFile.Proofs.Value.Runs

/-!
# Reading words

`Value.unquote_eq_ok_iff_denotes` says that a text is read exactly if the grammar derives a value
from its bytes, and then stands for that value. Finding segments is sound for the grammar
(`Value.word_of_parseFrom`) and complete (`Value.exists_parseFrom`), and so is the check of what
follows them (`Value.trailer_iff`). No byte is lost on the way: the segments written out are the
text up to its trailer (`Value.exists_trailer_of_parse`).
-/

namespace VarFile.Value

section Segments

open Segment

variable {legacy : Bool}

/-! ### Trailers -/

/-- No blank is a semicolon. -/
theorem ne_semicolon_of_isBlank {b : UInt8} (h : isBlank b = true) : b ≠ semicolon := by
  rintro rfl
  exact absurd h (by decide)

/-- What is read as a trailer is a gap, with a semicolon in it only if one is allowed, and maybe a
comment. -/
theorem exists_gap_of_isTrailer {allowed : Bool} {rest : Bytes}
    (h : isTrailer allowed rest = true) :
    ∃ gap comment, rest = gap ++ comment ∧ (∀ b ∈ gap, isBlank b = true ∨ b = semicolon) ∧
      gap.count semicolon ≤ allowed.toNat ∧ (comment = [] ∨ ∃ text, comment = hash :: text) := by
  fun_induction isTrailer allowed rest with
  | case1 => exact ⟨[], [], rfl, by simp, by simp, .inl rfl⟩
  | case2 allowed b rest hb ih =>
    obtain ⟨gap, comment, rfl, mem, count, hc⟩ := ih h
    refine ⟨b :: gap, comment, rfl, List.forall_mem_cons.2 ⟨.inl hb, mem⟩, ?_, hc⟩
    rwa [List.count_cons_of_ne (ne_semicolon_of_isBlank hb)]
  | case3 allowed b rest _ hs ih =>
    obtain ⟨gap, comment, rfl, mem, count, hc⟩ := ih h
    obtain ⟨rfl, rfl⟩ := hs
    refine ⟨semicolon :: gap, comment, rfl, List.forall_mem_cons.2 ⟨.inr rfl, mem⟩, ?_, hc⟩
    rw [List.count_cons_self]
    exact Nat.succ_le_succ count
  | case4 allowed b rest _ _ =>
    rw [beq_iff_eq] at h
    exact ⟨[], b :: rest, rfl, by simp, by simp, .inr ⟨rest, by rw [h]⟩⟩

/-- A gap, with a semicolon in it only if one is allowed, is read as a trailer with a comment behind
it or without one. -/
theorem isTrailer_append {gap comment : Bytes} {allowed : Bool}
    (mem : ∀ b ∈ gap, isBlank b = true ∨ b = semicolon)
    (count : gap.count semicolon ≤ allowed.toNat)
    (hc : comment = [] ∨ ∃ text, comment = hash :: text) :
    isTrailer allowed (gap ++ comment) = true := by
  induction gap generalizing allowed with
  | nil =>
    obtain rfl | ⟨text, rfl⟩ := hc
    · rfl
    · cases allowed <;> rfl
  | cons b gap ih =>
    obtain ⟨hb, later⟩ := List.forall_mem_cons.1 mem
    rw [List.cons_append, isTrailer]
    split
    · next blank =>
      rw [List.count_cons_of_ne (ne_semicolon_of_isBlank blank)] at count
      exact ih later count
    · next blank =>
      have hs : b = semicolon := hb.resolve_left blank
      rw [hs, List.count_cons_self] at count
      cases allowed with
      | false => exact absurd count (by simp)
      | true =>
        rw [if_pos ⟨hs, rfl⟩]
        exact ih later (Nat.le_of_succ_le_succ count)

private theorem count_cons_le_one_iff {b : UInt8} {gap : Bytes} :
    (b :: gap).count semicolon ≤ 1 ↔ gap.count semicolon ≤ (b != semicolon).toNat := by
  by_cases hs : b = semicolon
  · simp [hs]
  · rw [List.count_cons_of_ne hs, bne_iff_ne.2 hs, Bool.toNat_true]

/-- What ends a word and is followed by a trailer starts one of the grammar. -/
theorem trailer_iff {b : UInt8} (hb : isBlank b = true ∨ b = semicolon) {rest : Bytes} :
    isTrailer (b != semicolon) rest = true ↔ Trailer (b :: rest) := by
  constructor
  · intro h
    obtain ⟨gap, comment, rfl, mem, count, hc⟩ := exists_gap_of_isTrailer h
    have isGap : IsGap (b :: gap) :=
      ⟨List.forall_mem_cons.2 ⟨hb, mem⟩, count_cons_le_one_iff.2 count⟩
    obtain rfl | ⟨text, rfl⟩ := hc
    · rw [List.append_nil]
      exact .gap (by simp) isGap
    · exact Trailer.comment (List.cons_ne_nil b gap) isGap
  · intro h
    have tail {gap : Bytes} (h : IsGap (b :: gap)) :
        (∀ c ∈ gap, isBlank c = true ∨ c = semicolon) ∧
          gap.count semicolon ≤ (b != semicolon).toNat :=
      ⟨(List.forall_mem_cons.1 h.mem).2, count_cons_le_one_iff.1 h.count_le⟩
    generalize hbytes : b :: rest = bytes at h
    cases h with
    | nil => cases hbytes
    | gap hne h =>
      subst hbytes
      rw [← List.append_nil rest]
      exact isTrailer_append (tail h).1 (tail h).2 (.inl rfl)
    | @comment gap text hne h =>
      cases gap with
      | nil => exact absurd rfl hne
      | cons c gap =>
        rw [List.cons_append, List.cons.injEq] at hbytes
        obtain ⟨rfl, rfl⟩ := hbytes
        exact isTrailer_append (tail h).1 (tail h).2 (.inr ⟨text, rfl⟩)

/-- A trailer starts with a blank or a semicolon. -/
theorem Trailer.start {trailer : Bytes} (h : Trailer trailer) :
    ∀ b ∈ trailer.head?, isBlank b = true ∨ b = semicolon := by
  have start {gap : Bytes} (hne : gap ≠ []) (h : IsGap gap) (more : Bytes) :
      ∀ b ∈ (gap ++ more).head?, isBlank b = true ∨ b = semicolon := by
    cases gap with
    | nil => exact absurd rfl hne
    | cons c gap =>
      intro b hb
      rw [List.cons_append, List.head?_cons, Option.mem_some_iff] at hb
      exact h.mem b (hb ▸ List.mem_cons_self)
  cases h with
  | nil => simp
  | gap hne h => simpa using start hne h []
  | comment hne h => exact start hne h _

private theorem head?_append_eq_singleQuote_iff {text trailer : Bytes} (h : Trailer trailer) :
    (text ++ trailer).head? = some singleQuote ↔ text.head? = some singleQuote := by
  cases text with
  | cons c text => rfl
  | nil =>
    refine ⟨fun hq => ?_, fun hq => by cases hq⟩
    exact absurd (h.start _ hq) (by decide)

/-! ### Words -/

/-- The segments that are read, written out, are a word of the grammar, and what is left of the
text is a trailer. -/
theorem word_of_parseFrom (legacy : Bool) {done segments : List Segment} {bytes : Bytes}
    (h : parseFrom done bytes = .ok segments) :
    ∃ new trailer, segments = done.reverse ++ new ∧ bytes = new.flatMap written ++ trailer ∧
      Word legacy (new.flatMap written) (new.flatMap (denoted legacy)) ∧ Trailer trailer := by
  fun_induction parseFrom done bytes with
  | case1 =>
    cases h
    exact ⟨[], [], by simp, rfl, .nil, .nil⟩
  | case2 done b rest hb hr =>
    cases h
    exact ⟨[], b :: rest, by simp, rfl, .nil, (trailer_iff hb).1 hr⟩
  | case3 => cases h
  | case4 => cases h
  | case5 done e rest _ ih =>
    obtain ⟨new, trailer, rfl, rfl, word, ht⟩ := ih h
    exact ⟨.escaped e :: new, trailer, by simp, rfl, .escaped word, ht⟩
  | case6 => cases h
  | case7 done rest inside after read _ _ _ ih =>
    obtain ⟨new, trailer, rfl, rfl, word, ht⟩ := ih h
    obtain ⟨inside, rfl, rfl, hs⟩ := of_readSingle read
    refine ⟨.single inside :: new, trailer, by simp, by simp [written], ?_, ht⟩
    simpa [written, denoted] using Word.single hs word
  | case8 => cases h
  | case9 done rest items after read _ _ _ _ ih =>
    obtain ⟨new, trailer, rfl, rfl, word, ht⟩ := ih h
    obtain ⟨items, rfl, rfl, run⟩ := doubleRun_of_readDouble read
    refine ⟨.double items :: new, trailer, by simp, by simp [written], ?_, ht⟩
    simpa [written, denoted] using Word.double run word
  | case10 => cases h
  | case11 done b rest _ _ _ _ hd items after read _ ih =>
    obtain ⟨new, trailer, rfl, rfl, word, ht⟩ := ih h
    obtain ⟨items, rfl, hrest, run⟩ := ansiRun_of_readAnsi read
    obtain ⟨rfl, hq⟩ := hd
    rw [List.head?_eq_some_iff] at hq
    obtain ⟨tail, rfl⟩ := hq
    rw [List.tail_cons] at hrest
    refine ⟨.ansi items :: new, trailer, by simp, by simp [written, hrest], ?_, ht⟩
    simpa [written, denoted] using Word.ansi run word
  | case12 => cases h
  | case13 done b rest hb slash single double ansi operator ih =>
    obtain ⟨new, trailer, rfl, rfl, word, ht⟩ := ih h
    rw [not_or] at hb
    refine ⟨.plain b :: new, trailer, by simp, rfl, .plain ?_ ?_ word, ht⟩
    · exact ⟨by simpa using hb.1, by simpa using operator, by simp [hb.2, slash, single, double]⟩
    · intro hd hq
      exact ansi ⟨hd, (head?_append_eq_singleQuote_iff ht).2 hq⟩

/-- A word of the grammar with a trailer behind it is read. -/
theorem exists_parseFrom {text value trailer : Bytes} (h : Word legacy text value)
    (ht : Trailer trailer) :
    ∃ segments, segments.flatMap (denoted legacy) = value ∧
      ∀ done, parseFrom done (text ++ trailer) = .ok (done.reverse ++ segments) := by
  induction h with
  | nil =>
    refine ⟨[], rfl, fun done => ?_⟩
    rw [List.nil_append, List.append_nil]
    cases trailer with
    | nil => exact parseFrom_nil done
    | cons b rest =>
      have hb := ht.start b rfl
      rw [parseFrom_cons, if_pos hb, if_pos ((trailer_iff hb).2 ht)]
  | @plain b text _ hb hd _ ih =>
    obtain ⟨segments, rfl, read⟩ := ih
    refine ⟨.plain b :: segments, rfl, fun done => ?_⟩
    obtain ⟨blank, operator, other⟩ := hb
    simp only [List.mem_cons, List.not_mem_nil, or_false, not_or] at other
    obtain ⟨hs, slash, single, double⟩ := other
    have ansi : ¬ (b = dollar ∧ (text ++ trailer).head? = some singleQuote) := fun h =>
      hd h.1 ((head?_append_eq_singleQuote_iff ht).1 h.2)
    rw [List.cons_append, parseFrom_cons, if_neg (by simp [blank, hs]), if_neg slash,
      if_neg single, if_neg double, if_neg ansi, if_neg (by simp [operator]), read,
      List.reverse_cons, List.append_assoc, List.singleton_append]
  | @escaped b _ _ _ ih =>
    obtain ⟨segments, rfl, read⟩ := ih
    refine ⟨.escaped b :: segments, rfl, fun done => ?_⟩
    rw [List.cons_append, List.cons_append, parseFrom_cons, if_neg (by decide), if_pos rfl]
    simp only [read, List.reverse_cons, List.append_assoc, List.singleton_append]
  | @single inside text _ hs _ ih =>
    obtain ⟨segments, rfl, read⟩ := ih
    refine ⟨.single inside :: segments, rfl, fun done => ?_⟩
    rw [List.cons_append, List.append_assoc, List.cons_append, parseFrom_cons,
      if_neg (by decide), if_neg (by decide), if_pos rfl, readSingle_append hs]
    simp only [Except.bind, read, List.reverse_cons, List.reverse_nil, List.nil_append,
      List.append_assoc, List.singleton_append]
  | @double inside _ text _ run _ ih =>
    obtain ⟨segments, rfl, read⟩ := ih
    obtain ⟨items, rfl, inner⟩ := exists_readDouble run (text ++ trailer)
    refine ⟨.double items :: segments, rfl, fun done => ?_⟩
    rw [List.cons_append, List.append_assoc, List.cons_append, parseFrom_doubleQuote (inner []),
      read, List.reverse_cons, List.append_assoc]
    rfl
  | @ansi inside _ text _ run _ ih =>
    obtain ⟨segments, rfl, read⟩ := ih
    obtain ⟨items, rfl, inner⟩ := exists_readAnsi run (text ++ trailer)
    refine ⟨.ansi items :: segments, rfl, fun done => ?_⟩
    rw [List.cons_append, List.cons_append, List.append_assoc, List.cons_append,
      parseFrom_dollar (inner []), read, List.reverse_cons, List.append_assoc]
    rfl

end Segments

/-! ### Reading -/

/-- The segments of a stored text, written out, are the text up to its trailer. -/
theorem exists_trailer_of_parse {bytes : Bytes} {segments : List Segment}
    (h : Segment.parse bytes = .ok segments) :
    ∃ trailer, bytes = segments.flatMap Segment.written ++ trailer ∧ Trailer trailer := by
  obtain ⟨new, trailer, hs, hb, -, ht⟩ := word_of_parseFrom false h
  rw [List.reverse_nil, List.nil_append] at hs
  exact ⟨trailer, hs ▸ hb, ht⟩

/-- The segments of some bytes are found exactly if the grammar derives a value of these bytes, and
then they stand for it. -/
theorem exists_parse_iff {bytes value : Bytes} :
    (∃ segments, Segment.parse bytes = .ok segments ∧
      segments.flatMap (Segment.denoted (isLegacyForm bytes)) = value) ↔ Denotes bytes value := by
  constructor
  · rintro ⟨segments, hp, rfl⟩
    obtain ⟨new, trailer, hs, hb, word, ht⟩ := word_of_parseFrom (isLegacyForm bytes) hp
    rw [List.reverse_nil, List.nil_append] at hs
    exact ⟨new.flatMap Segment.written, trailer, hb, hs ▸ word, ht⟩
  · rintro ⟨text, trailer, hb, word, ht⟩
    obtain ⟨segments, hv, read⟩ := exists_parseFrom word ht
    exact ⟨segments, by rw [Segment.parse, hb, read, List.reverse_nil, List.nil_append], hv⟩

/-- A text is read exactly if it has a stored form and the grammar derives a value of its bytes:
then it stands for that value, and in every other case it is refused. -/
theorem unquote_eq_ok_iff_denotes (text : Text) :
    (∀ v, unquote text = .ok v ↔
      ∃ bytes value, text.encode = .ok bytes ∧ Denotes bytes value ∧ v = Text.ofBytes value) ∧
    ((∃ cause, unquote text = .error cause) ↔
      ¬ ∃ bytes value, text.encode = .ok bytes ∧ Denotes bytes value) := by
  have accepts (v : Text) : unquote text = .ok v ↔
      ∃ bytes value, text.encode = .ok bytes ∧ Denotes bytes value ∧ v = Text.ofBytes value := by
    rw [unquote_eq_ok_iff]
    constructor
    · rintro ⟨storable, segments, hp, rfl⟩
      exact ⟨_, _, Text.encode_eq_ok storable, exists_parse_iff.1 ⟨segments, hp, rfl⟩, rfl⟩
    · rintro ⟨bytes, value, he, hd, rfl⟩
      obtain ⟨storable, rfl⟩ := Text.isStorable_of_encode he
      obtain ⟨segments, hp, rfl⟩ := exists_parse_iff.2 hd
      exact ⟨storable, segments, hp, rfl⟩
  refine ⟨accepts, ?_⟩
  constructor
  · rintro ⟨cause, h⟩ ⟨bytes, value, he, hd⟩
    rw [(accepts _).2 ⟨bytes, value, he, hd, rfl⟩] at h
    cases h
  · intro h
    cases hu : unquote text with
    | error cause => exact ⟨cause, rfl⟩
    | ok v =>
      obtain ⟨bytes, value, he, hd, -⟩ := (accepts v).1 hu
      exact absurd ⟨bytes, value, he, hd⟩ h

end VarFile.Value
