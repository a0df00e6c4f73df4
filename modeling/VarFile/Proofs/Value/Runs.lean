import VarFile.Proofs.Value.Grammar
import VarFile.Proofs.Value.Quoting

/-!
# Reading quoted runs

The readers of single-quoted, double-quoted and ANSI-C quoted runs are sound and complete for the
grammar: what they read is a run of it (`Value.ansiRun_of_readAnsi`), and every run of it is read up
to its closing quote (`Value.exists_readAnsi`). Digits are taken as long as the grammar asks for
(`Value.isRun_iff`).
-/

namespace VarFile.Value

/-! ### Digits -/

section Digits

variable {isDigit : UInt8 → Bool} {limit : Nat} {digits rest : Bytes}

private theorem leadingDigits_cons (isDigit : UInt8 → Bool) (limit : Nat) (b : UInt8)
    (rest : Bytes) :
    Segment.leadingDigits isDigit (limit + 1) (b :: rest) =
      if isDigit b then b :: Segment.leadingDigits isDigit limit rest else [] := by
  rw [Segment.leadingDigits, List.take_succ_cons, List.takeWhile_cons, Segment.leadingDigits]

private theorem leadingDigits_front (isDigit : UInt8 → Bool) (limit : Nat) (rest : Bytes) :
    Segment.leadingDigits isDigit limit rest <+: rest :=
  (List.takeWhile_prefix isDigit).trans (List.take_prefix limit rest)

private theorem take_leadingDigits (isDigit : UInt8 → Bool) (limit : Nat) (rest : Bytes) :
    rest.take (Segment.leadingDigits isDigit limit rest).length =
      Segment.leadingDigits isDigit limit rest :=
  (List.prefix_iff_eq_take.1 (leadingDigits_front isDigit limit rest)).symm

/-- The digits that are taken are the longest run. -/
theorem isRun_iff :
    IsRun isDigit limit digits rest ↔
      Segment.leadingDigits isDigit limit (digits ++ rest) = digits := by
  induction digits generalizing limit with
  | nil =>
    rw [List.nil_append]
    constructor
    · rintro ⟨-, -, rfl | stops⟩
      · rfl
      · cases limit with
        | zero => rfl
        | succ limit =>
          cases rest with
          | nil => rfl
          | cons b rest => rw [leadingDigits_cons, stops b rfl, if_neg (by decide)]
    · intro h
      refine ⟨by simp, Nat.zero_le limit, ?_⟩
      cases limit with
      | zero => exact .inl rfl
      | succ limit =>
        refine .inr fun b hb => ?_
        cases rest with
        | nil => cases hb
        | cons c rest =>
          rw [List.head?_cons, Option.mem_some_iff] at hb
          subst hb
          rw [leadingDigits_cons] at h
          split at h
          · cases h
          · next hc => simpa using hc
  | cons d digits ih =>
    rw [List.cons_append]
    cases limit with
    | zero => exact ⟨fun h => absurd h.length_le (by simp), fun h => by cases h⟩
    | succ limit =>
      rw [leadingDigits_cons]
      constructor
      · rintro ⟨digit, le, longest⟩
        rw [List.forall_mem_cons] at digit
        rw [List.length_cons] at le longest
        rw [if_pos digit.1, ih.1 ⟨digit.2, by omega, longest.imp_left fun h => by omega⟩]
      · intro h
        split at h
        · next hd =>
          obtain ⟨digit, le, longest⟩ := ih.2 (List.cons.inj h).2
          exact ⟨List.forall_mem_cons.2 ⟨hd, digit⟩, by simpa using le,
            longest.imp_left fun h => by rw [List.length_cons, h]⟩
        · cases h

private theorem isRun_leadingDigits (isDigit : UInt8 → Bool) (limit : Nat) (rest : Bytes) :
    let digits := Segment.leadingDigits isDigit limit rest
    IsRun isDigit limit digits (rest.drop digits.length) := by
  intro digits
  rw [isRun_iff, List.prefix_iff_eq_append.1 (leadingDigits_front isDigit limit rest)]

private theorem stops_append_cons {q : UInt8} (hq : isDigit q = false) (after : Bytes) :
    Stops isDigit (rest ++ q :: after) ↔ Stops isDigit rest := by
  cases rest with
  | nil => simp [Stops, hq]
  | cons b rest => rfl

private theorem isRun_append_cons {q : UInt8} (hq : isDigit q = false) (after : Bytes) :
    IsRun isDigit limit digits (rest ++ q :: after) ↔ IsRun isDigit limit digits rest := by
  constructor
  · rintro ⟨digit, le, longest⟩
    exact ⟨digit, le, longest.imp_right (stops_append_cons hq after).1⟩
  · rintro ⟨digit, le, longest⟩
    exact ⟨digit, le, longest.imp_right (stops_append_cons hq after).2⟩

private theorem isRun_cons {d : UInt8} (hd : isDigit d = true) :
    IsRun isDigit (limit + 1) (d :: digits) rest ↔ IsRun isDigit limit digits rest := by
  rw [isRun_iff, isRun_iff, List.cons_append, leadingDigits_cons, if_pos hd, List.cons.injEq,
    eq_self, true_and]

end Digits

/-! ### ANSI-C quoted runs -/

section Ansi

open Segment

/-- The letters that are read are those of the grammar. -/
theorem symbolByte?_eq_lookup (l : UInt8) : symbolByte? l = letters.lookup l := by
  by_cases h : l ∈ symbolLetters
  · simp only [symbolLetters, List.mem_cons, List.not_mem_nil, or_false] at h
    rcases h with rfl | rfl | rfl | rfl | rfl | rfl | rfl | rfl | rfl | rfl | rfl | rfl | rfl
    all_goals rfl
  · have absent : letters.lookup l = none := by
      rw [List.lookup_eq_none_iff]
      simpa [letters, symbolLetters] using h
    rw [absent]
    simp only [symbolLetters, List.mem_cons, List.not_mem_nil, or_false, not_or] at h
    simp [symbolByte?, h]

private theorem hexLimit?_eq_some_iff {l : UInt8} {limit : Nat} :
    hexLimit? l = some limit ↔ (l, limit) ∈ [((0x78 : UInt8), 2), (0x75, 4), (0x55, 8)] := by
  simp only [List.mem_cons, Prod.mk.injEq, List.not_mem_nil, or_false]
  unfold hexLimit?
  split_ifs with hx hu hU <;> simp_all [eq_comm]

private theorem hexLimit?_eq_none_iff {l : UInt8} :
    hexLimit? l = none ↔ l ∉ [0x78, 0x75, 0x55] := by
  simp only [List.mem_cons, List.not_mem_nil, or_false, not_or]
  unfold hexLimit?
  split_ifs with hx hu hU <;> simp_all

private theorem ofNat_eq_mk {n : Nat} (h : n < 0x110000) : CodePoint.ofNat n = ⟨n, h⟩ :=
  CodePoint.ext (CodePoint.val_ofNat h)

/-- What is read behind a backslash is what the grammar allows there. -/
theorem escape_of_readEscape {e : UInt8} {rest : Bytes} {item : AnsiItem} {taken : Nat}
    (h : readEscape e rest = .ok (item, taken)) :
    Escape (rest.drop taken) (e :: rest.take taken) item.denoted := by
  unfold readEscape at h
  split at h
  · next b hs =>
    cases h
    exact .letter (symbolByte?_eq_lookup e ▸ hs)
  · next hs =>
    rw [symbolByte?_eq_lookup] at hs
    split at h
    · next ho =>
      cases h
      rw [take_leadingDigits, AnsiItem.denoted, ← UInt8.ofNat_mod_size']
      exact .octal (by simp) ((isRun_cons ho).2 (isRun_leadingDigits isOctalDigit 2 rest))
    · next ho =>
      rw [Bool.not_eq_true] at ho
      split at h
      · next hx =>
        cases h
        exact .literal hs ho fun hm => absurd hm (hexLimit?_eq_none_iff.1 hx)
      · next limit hx =>
        rw [hexLimit?_eq_some_iff] at hx
        have run := isRun_leadingDigits isHexDigit limit rest
        simp only [List.isEmpty_iff] at h
        split at h
        · next hd =>
          cases h
          refine .literal hs ho fun _ => ?_
          rw [hd] at run
          refine run.longest.resolve_left fun h0 => ?_
          -- Each of the letters may have a digit.
          rw [← h0] at hx
          simp at hx
        · next hd =>
          split at h
          · next he =>
            cases h
            subst he
            rw [take_leadingDigits]
            have : limit = 2 := by simpa using hx
            subst this
            exact .byte hd run
          · next he =>
            split at h
            · next hn =>
              cases h
              rw [take_leadingDigits, AnsiItem.denoted, ofNat_eq_mk hn]
              refine .codePoint ?_ hd run hn
              simpa [he] using hx
            · cases h

/-- A piece that is read is written with the bytes it was read from. -/
theorem written_of_readEscape {e : UInt8} {rest : Bytes} {item : AnsiItem} {taken : Nat}
    (h : readEscape e rest = .ok (item, taken)) :
    item.written = backslash :: e :: rest.take taken := by
  unfold readEscape at h
  split at h
  · cases h
    rfl
  · split at h
    · cases h
      rw [take_leadingDigits]
      rfl
    · split at h
      · cases h
        rfl
      · next limit _ =>
        simp only at h
        split at h
        · cases h
          rfl
        · split at h
          · next hx =>
            cases h
            rw [take_leadingDigits, hx]
            rfl
          · split at h <;> cases h
            rw [take_leadingDigits]
            rfl

/-- What the grammar allows behind a backslash is read as one piece. -/
theorem exists_readEscape {rest text value : Bytes} (h : Escape rest text value) :
    ∃ e digits item, text = e :: digits ∧ item.denoted = value ∧
      readEscape e (digits ++ rest) = .ok (item, digits.length) := by
  cases h with
  | @letter l b h =>
    exact ⟨l, [], .symbol l b, rfl, rfl, by rw [readEscape, symbolByte?_eq_lookup, h]; rfl⟩
  | octal hne h =>
    cases text with
    | nil => exact absurd rfl hne
    | cons d digits =>
      have hd := h.digit d List.mem_cons_self
      refine ⟨d, digits, .octal (d :: digits), rfl, by rw [UInt8.ofNat_mod_size']; rfl, ?_⟩
      rw [readEscape, symbolByte?_of_isOctalDigit hd]
      simp only [hd, if_true, isRun_iff.1 ((isRun_cons hd).1 h)]
  | @byte digits hne h =>
    refine ⟨0x78, digits, .byte digits, rfl, rfl, ?_⟩
    rw [readEscape, show symbolByte? 0x78 = none from rfl]
    simp only [show hexLimit? 0x78 = some 2 from rfl, isRun_iff.1 h]
    simp [hne, isOctalDigit]
  | @codePoint l limit digits hl hne h hn =>
    refine ⟨l, digits, .codePoint l digits, rfl, by rw [AnsiItem.denoted, ofNat_eq_mk hn], ?_⟩
    have limited : hexLimit? l = some limit := hexLimit?_eq_some_iff.2 (List.mem_cons_of_mem _ hl)
    have other : symbolByte? l = none ∧ isOctalDigit l = false ∧ l ≠ 0x78 := by
      simp only [List.mem_cons, Prod.mk.injEq, List.not_mem_nil, or_false] at hl
      obtain ⟨rfl, -⟩ | ⟨rfl, -⟩ := hl <;> exact ⟨by decide, by decide, by decide⟩
    rw [readEscape, other.1]
    simp only [limited, isRun_iff.1 h]
    simp [hne, other.2, hn]
  | @literal b hl ho hx =>
    refine ⟨b, [], .literal b, rfl, rfl, ?_⟩
    rw [readEscape, symbolByte?_eq_lookup, hl, List.nil_append]
    simp only [ho, Bool.false_eq_true, if_false]
    split
    · rfl
    · next limit hlimit =>
      have hb : b ∈ [0x78, 0x75, 0x55] := by
        by_contra hn
        rw [hexLimit?_eq_none_iff.2 hn] at hlimit
        cases hlimit
      have run : IsRun isHexDigit limit [] rest := ⟨by simp, Nat.zero_le limit, .inr (hx hb)⟩
      have none : leadingDigits isHexDigit limit rest = [] := isRun_iff.1 run
      rw [none]
      rfl

private theorem escape_append_quote {rest text value : Bytes} (after : Bytes) :
    Escape (rest ++ singleQuote :: after) text value ↔ Escape rest text value := by
  have octal {limit : Nat} {digits : Bytes} :
      IsRun isOctalDigit limit digits (rest ++ singleQuote :: after) ↔
        IsRun isOctalDigit limit digits rest := isRun_append_cons (by decide) after
  have hex {limit : Nat} {digits : Bytes} :
      IsRun isHexDigit limit digits (rest ++ singleQuote :: after) ↔
        IsRun isHexDigit limit digits rest := isRun_append_cons (by decide) after
  have stops : Stops isHexDigit (rest ++ singleQuote :: after) ↔ Stops isHexDigit rest :=
    stops_append_cons (by decide) after
  constructor
  · intro h
    cases h with
    | letter h => exact .letter h
    | octal hne h => exact .octal hne (octal.1 h)
    | byte hne h => exact .byte hne (hex.1 h)
    | codePoint hl hne h hn => exact .codePoint hl hne (hex.1 h) hn
    | literal hl ho hx => exact .literal hl ho fun hb => stops.1 (hx hb)
  · intro h
    cases h with
    | letter h => exact .letter h
    | octal hne h => exact .octal hne (octal.2 h)
    | byte hne h => exact .byte hne (hex.2 h)
    | codePoint hl hne h hn => exact .codePoint hl hne (hex.2 h) hn
    | literal hl ho hx => exact .literal hl ho fun hb => stops.2 (hx hb)

/-- The pieces of an ANSI-C quoted run that are read, written out, are a run of the grammar. -/
theorem ansiRun_of_readAnsi {done items : List AnsiItem} {bytes rest : Bytes}
    (h : readAnsi done bytes = .ok (items, rest)) :
    ∃ new, items = done.reverse ++ new ∧
      bytes = new.flatMap AnsiItem.written ++ singleQuote :: rest ∧
      AnsiRun (new.flatMap AnsiItem.written) (new.flatMap AnsiItem.denoted) := by
  fun_induction readAnsi done bytes with
  | case1 => cases h
  | case2 =>
    cases h
    exact ⟨[], by simp, rfl, .nil⟩
  | case3 => cases h
  | case4 => cases h
  | case5 done e after item taken read _ ih =>
    obtain ⟨new, rfl, hafter, run⟩ := ih h
    have written := written_of_readEscape read
    have escape := escape_of_readEscape read
    rw [hafter, escape_append_quote] at escape
    refine ⟨item :: new, by simp, ?_, ?_⟩
    · rw [List.flatMap_cons, written, List.append_assoc, ← hafter, List.cons_append,
        List.cons_append, List.take_append_drop]
    · rw [List.flatMap_cons, written]
      exact .escape escape run
  | case6 done b after quote slash ih =>
    obtain ⟨new, rfl, rfl, run⟩ := ih h
    exact ⟨.plain b :: new, by simp, rfl, .plain quote slash run⟩

/-- An ANSI-C quoted run of the grammar is read up to its closing quote. -/
theorem exists_readAnsi {inside value : Bytes} (h : AnsiRun inside value) (rest : Bytes) :
    ∃ items, items.flatMap AnsiItem.denoted = value ∧
      ∀ done, readAnsi done (inside ++ singleQuote :: rest) =
        .ok (done.reverse ++ items, rest) := by
  induction h with
  | nil =>
    refine ⟨[], rfl, fun done => ?_⟩
    rw [List.nil_append, readAnsi_cons, if_pos rfl, List.append_nil]
  | @plain b _ _ quote slash _ ih =>
    obtain ⟨items, rfl, read⟩ := ih
    refine ⟨.plain b :: items, rfl, fun done => ?_⟩
    rw [List.cons_append, readAnsi_cons, if_neg quote, if_neg slash, read, List.reverse_cons,
      List.append_assoc, List.singleton_append]
  | escape escape _ ih =>
    obtain ⟨items, rfl, read⟩ := ih
    obtain ⟨e, digits, item, rfl, rfl, first⟩ :=
      exists_readEscape ((escape_append_quote rest).2 escape)
    refine ⟨item :: items, rfl, fun done => ?_⟩
    rw [List.cons_append, List.cons_append, List.cons_append, readAnsi_cons, if_neg (by decide),
      if_pos rfl, List.append_assoc]
    simp only [first, Except.bind, List.drop_left]
    rw [read, List.reverse_cons, List.append_assoc, List.singleton_append]

end Ansi

/-! ### Double-quoted and single-quoted runs -/

section Quotes

open Segment

variable {legacy : Bool}

/-- The backslash is dropped before exactly the bytes that the grammar names. -/
theorem unprotected_iff {b : UInt8} :
    Unprotected legacy b ↔ (needsBackslash b || (legacy && neededLegacyBackslash b)) = true := by
  simp only [Unprotected, needsBackslash, neededLegacyBackslash, List.mem_cons, List.not_mem_nil,
    or_false, Bool.or_eq_true, Bool.and_eq_true, beq_iff_eq]
  cases legacy <;> grind

private theorem denoted_escaped (legacy : Bool) (b : UInt8) :
    (DoubleItem.escaped b).denoted legacy =
      if Unprotected legacy b then [b] else [backslash, b] := by
  simp only [DoubleItem.denoted, unprotected_iff]

/-- The pieces of a double-quoted run that are read, written out, are a run of the grammar. -/
theorem doubleRun_of_readDouble {done items : List DoubleItem} {bytes rest : Bytes}
    (h : readDouble done bytes = .ok (items, rest)) :
    ∃ new, items = done.reverse ++ new ∧
      bytes = new.flatMap DoubleItem.written ++ doubleQuote :: rest ∧
      DoubleRun legacy (new.flatMap DoubleItem.written)
        (new.flatMap (DoubleItem.denoted legacy)) := by
  fun_induction readDouble done bytes with
  | case1 => cases h
  | case2 =>
    cases h
    exact ⟨[], by simp, rfl, .nil⟩
  | case3 => cases h
  | case4 => cases h
  | case5 done e after _ _ ih =>
    obtain ⟨new, rfl, rfl, run⟩ := ih h
    refine ⟨.escaped e :: new, by simp, rfl, ?_⟩
    rw [List.flatMap_cons, List.flatMap_cons, denoted_escaped]
    exact .escaped run
  | case6 done b after quote expansion slash ih =>
    obtain ⟨new, rfl, rfl, run⟩ := ih h
    refine ⟨.plain b :: new, by simp, rfl, .plain ?_ run⟩
    rw [not_or] at expansion
    simp [quote, expansion, slash]

/-- A double-quoted run of the grammar is read up to its closing quote. -/
theorem exists_readDouble {inside value : Bytes} (h : DoubleRun legacy inside value)
    (rest : Bytes) :
    ∃ items, items.flatMap (DoubleItem.denoted legacy) = value ∧
      ∀ done, readDouble done (inside ++ doubleQuote :: rest) =
        .ok (done.reverse ++ items, rest) := by
  induction h with
  | nil =>
    refine ⟨[], rfl, fun done => ?_⟩
    rw [List.nil_append, readDouble_cons, if_pos rfl, List.append_nil]
  | @plain b _ _ hb _ ih =>
    obtain ⟨items, rfl, read⟩ := ih
    simp only [List.mem_cons, List.not_mem_nil, or_false, not_or] at hb
    obtain ⟨expand, back, quote, slash⟩ := hb
    refine ⟨.plain b :: items, rfl, fun done => ?_⟩
    rw [List.cons_append, readDouble_cons, if_neg quote, if_neg (by simp [back, expand]),
      if_neg slash, read, List.reverse_cons, List.append_assoc, List.singleton_append]
  | @escaped b _ _ _ ih =>
    obtain ⟨items, rfl, read⟩ := ih
    refine ⟨.escaped b :: items, by rw [List.flatMap_cons, denoted_escaped], fun done => ?_⟩
    rw [List.cons_append, List.cons_append, readDouble_cons, if_neg (by decide),
      if_neg (by decide), if_pos rfl]
    simp only [read, List.reverse_cons, List.append_assoc, List.singleton_append]

/-- A single-quoted run that is read goes up to the first closing quote. -/
theorem of_readSingle {done read bytes rest : Bytes}
    (h : readSingle done bytes = .ok (read, rest)) :
    ∃ inside, read = done.reverse ++ inside ∧ bytes = inside ++ singleQuote :: rest ∧
      singleQuote ∉ inside := by
  fun_induction readSingle done bytes with
  | case1 => cases h
  | case2 =>
    cases h
    exact ⟨[], by simp, rfl, by simp⟩
  | case3 done b after quote ih =>
    obtain ⟨inside, rfl, rfl, hs⟩ := ih h
    exact ⟨b :: inside, by simp, rfl, List.not_mem_cons_of_ne_of_not_mem (Ne.symm quote) hs⟩

/-- A single-quoted run is read up to its closing quote. -/
theorem readSingle_append {inside : Bytes} (h : singleQuote ∉ inside) (done rest : Bytes) :
    readSingle done (inside ++ singleQuote :: rest) = .ok (done.reverse ++ inside, rest) := by
  induction inside generalizing done with
  | nil => rw [List.nil_append, readSingle, if_pos rfl, List.append_nil]
  | cons b inside ih =>
    rw [List.mem_cons, not_or] at h
    rw [List.cons_append, readSingle, if_neg (Ne.symm h.1), ih h.2, List.reverse_cons,
      List.append_assoc, List.singleton_append]

end Quotes

end VarFile.Value
