import VarFile.Proofs.Text.Lines
import VarFile.Record

/-!
# Lines and records

`Record.ofLine` accepts exactly blanks, a key, `=` and a text as an assignment
(`Record.ofLine_eq_assignment_iff`), and a record that was read stands for the line it was read from
(`Record.line?_ofLine`). `Record.WF` is what holds of every record that came from a file, so that
its line is read as the same record again.
-/

namespace VarFile

/-! ### Keys and blanks -/

namespace CodePoint

/-- Blanks are ASCII. -/
theorem isAscii_of_isBlank {c : CodePoint} (h : c.isBlank = true) : c.IsAscii := by
  simp only [isBlank, Bool.or_eq_true, Bool.and_eq_true, beq_iff_eq, decide_eq_true_eq] at h
  simp only [IsAscii]
  omega

end CodePoint

namespace Key

/-- What keys are made of is ASCII and no blank. -/
theorem isAscii_of_isPart {c : CodePoint} (h : isPart c = true) :
    c.IsAscii ∧ c.isBlank = false := by
  simp only [isPart, isStart, Bool.or_eq_true, Bool.and_eq_true, beq_iff_eq,
    decide_eq_true_eq] at h
  rw [CodePoint.isBlank, Bool.or_eq_false_iff, Bool.and_eq_false_iff, beq_eq_false_iff_ne,
    decide_eq_false_iff_not, decide_eq_false_iff_not]
  simp only [CodePoint.IsAscii]
  omega

private theorem ne_of_isPart {c d : CodePoint} (hc : isPart c = true) (hd : isPart d = false) :
    c ≠ d := by
  rintro rfl
  rw [hc] at hd
  cases hd

/-- The first code point of a key, which no comment starts with, and all others are parts of one. -/
theorem isValid_iff {key : Text} :
    isValid key = true ↔ (∃ c rest, key = c :: rest ∧ isStart c = true) ∧
      ∀ c ∈ key, isPart c = true := by
  cases key with
  | nil => simp [isValid]
  | cons c rest =>
    simp only [isValid, Bool.and_eq_true, List.all_eq_true, List.forall_mem_cons]
    constructor
    · rintro ⟨hc, hr⟩
      exact ⟨⟨c, rest, rfl, hc⟩, by rw [isPart, hc, Bool.true_or], hr⟩
    · rintro ⟨⟨d, rest', h, hd⟩, -, hr⟩
      rw [List.cons.injEq] at h
      exact ⟨h.1 ▸ hd, hr⟩

/-- A key is a line of ASCII. -/
theorem isLine_of_isValid {key : Text} (h : isValid key = true) : key.IsLine :=
  Text.isLine_of_isAscii fun c hc =>
    have part := (isValid_iff.1 h).2 c hc
    ⟨(isAscii_of_isPart part).1, ne_of_isPart part (by decide)⟩

/-- A key that is stored and read again is the same key. -/
theorem isAscii_of_isValid {key : Text} (h : isValid key = true) : ∀ c ∈ key, c.IsAscii :=
  fun c hc => (isAscii_of_isPart ((isValid_iff.1 h).2 c hc)).1

end Key

/-! ### Reading a line -/

namespace Record

private theorem span_append_cons {α : Type} {p : α → Bool} {l r : List α} {x : α}
    (hl : ∀ y ∈ l, p y = true) (hx : p x = false) :
    (l ++ x :: r).takeWhile p = l ∧ (l ++ x :: r).dropWhile p = x :: r := by
  rw [List.takeWhile_append_of_pos hl, List.dropWhile_append_of_pos hl,
    List.takeWhile_cons_of_neg (by simp [hx]), List.dropWhile_cons_of_neg (by simp [hx]),
    List.append_nil]
  exact ⟨rfl, rfl⟩

/-- Blanks, a key, `=` and a text are read as an assignment. -/
theorem ofLine_append {indent key text : Text} (hi : ∀ c ∈ indent, c.isBlank = true)
    (hk : Key.isValid key = true) :
    ofLine (indent ++ key ++ CodePoint.ofChar '=' :: text) =
      .assignment ⟨indent ++ key, key, some text⟩ := by
  obtain ⟨⟨c, rest, rfl, hc⟩, parts⟩ := Key.isValid_iff.1 hk
  have hb : c.isBlank = false := (Key.isAscii_of_isPart (parts c List.mem_cons_self)).2
  have indented := span_append_cons (r := rest ++ CodePoint.ofChar '=' :: text) hi hb
  have named := span_append_cons (x := CodePoint.ofChar '=') (r := text) parts (by decide)
  rw [List.cons_append] at named
  rw [ofLine, List.append_assoc, List.cons_append]
  simp only [indented, named, hk, and_self, if_true]

/-- What is read from a line: an assignment made of its parts, or the line as it is. -/
theorem ofLine_cases (line : Text) :
    (∃ indent key text, (∀ c ∈ indent, c.isBlank = true) ∧ Key.isValid key = true ∧
        line = indent ++ key ++ CodePoint.ofChar '=' :: text ∧
        ofLine line = .assignment ⟨indent ++ key, key, some text⟩) ∨
      ofLine line = .raw line := by
  rw [ofLine]
  split
  · next c text h =>
    split
    · next hc =>
      obtain ⟨rfl, hk⟩ := hc
      refine .inl ⟨_, _, text, fun c hc => List.mem_takeWhile_imp hc, hk, ?_, rfl⟩
      rw [List.append_assoc, ← h, List.takeWhile_append_dropWhile,
        List.takeWhile_append_dropWhile]
    · exact .inr rfl
  · exact .inr rfl

/-- A line is an assignment exactly if it is blanks, a key, `=` and a text, and the assignment
keeps all of them. -/
theorem ofLine_eq_assignment_iff {line : Text} {a : Assignment} :
    ofLine line = .assignment a ↔
      ∃ indent text, (∀ c ∈ indent, c.isBlank = true) ∧ Key.isValid a.key = true ∧
        line = indent ++ a.key ++ CodePoint.ofChar '=' :: text ∧
        a.lead = indent ++ a.key ∧ a.value = some text := by
  constructor
  · intro h
    obtain ⟨indent, key, text, hi, hk, hl, ho⟩ | ho := ofLine_cases line
    · rw [ho, assignment.injEq] at h
      subst h
      exact ⟨indent, text, hi, hk, hl, rfl, rfl⟩
    · rw [ho] at h
      cases h
  · rintro ⟨indent, text, hi, hk, rfl, hlead, hvalue⟩
    rw [ofLine_append hi hk]
    cases a
    simp_all

private theorem ofLine_eq_raw {indent rest : Text} (hi : ∀ c ∈ indent, c.isBlank = true)
    (hr : ∀ c ∈ rest.head?, Key.isStart c = false ∧ c.isBlank = false) :
    ofLine (indent ++ rest) = .raw (indent ++ rest) := by
  obtain ⟨indent', key, text, hi', hk, hl, -⟩ | h := ofLine_cases (indent ++ rest)
  · exfalso
    obtain ⟨⟨c, tail, rfl, hc⟩, parts⟩ := Key.isValid_iff.1 hk
    have hb := (Key.isAscii_of_isPart (parts c List.mem_cons_self)).2
    have body : (indent ++ rest).dropWhile CodePoint.isBlank =
        c :: (tail ++ CodePoint.ofChar '=' :: text) := by
      rw [hl, List.append_assoc, List.cons_append]
      exact (span_append_cons hi' hb).2
    rw [List.dropWhile_append_of_pos hi] at body
    cases rest with
    | nil => cases body
    | cons d rest =>
      obtain ⟨hd, hdb⟩ := hr d rfl
      rw [List.dropWhile_cons_of_neg (by simp [hdb]), List.cons.injEq] at body
      rw [body.1, hc] at hd
      cases hd
  · exact h

/-- A comment or a blank line is raw. -/
theorem ofLine_of_isInert {text : Text} (h : isInert text = true) : ofLine text = .raw text := by
  have parts := List.takeWhile_append_dropWhile (p := CodePoint.isBlank) (l := text)
  rw [← parts]
  refine ofLine_eq_raw (fun c hc => List.mem_takeWhile_imp hc) fun c hc => ?_
  rw [isInert] at h
  split at h
  · next hd => rw [hd] at hc; cases hc
  · next d rest hd =>
    rw [hd, List.head?_cons, Option.mem_some_iff] at hc
    rw [← hc, of_decide_eq_true h]
    decide

/-! ### The line of a record -/

/-- The line of a record; a deleted assignment has none. -/
def line? : Record → Option Text
  | .raw text => some text
  | .assignment a => a.value.map a.line

/-- What was read from a line stands for it. -/
theorem line?_ofLine (line : Text) : (ofLine line).line? = some line := by
  obtain ⟨indent, key, text, -, -, hl, ho⟩ | ho := ofLine_cases line
  · rw [ho, line?, Option.map_some, Assignment.line, ← hl]
  · rw [ho, line?]

end Record

/-- What holds of every assignment of a document: the key is one, the blanks before it are blanks,
and all of it fits in a line. -/
structure Assignment.WF (a : Assignment) : Prop where
  key : Key.isValid a.key = true
  lead : ∃ indent : Text, (∀ c ∈ indent, c.isBlank = true) ∧ a.lead = indent ++ a.key
  leadLine : a.lead.IsLine
  textLine : ∀ text, a.value = some text → text.IsLine

/-- What stands before `=` is ASCII. -/
theorem Assignment.WF.isAscii_lead {a : Assignment} (h : a.WF) : ∀ c ∈ a.lead, c.IsAscii := by
  obtain ⟨indent, hi, hl⟩ := h.lead
  intro c hc
  rw [hl, List.mem_append] at hc
  exact hc.elim (fun hc => CodePoint.isAscii_of_isBlank (hi c hc))
    (Key.isAscii_of_isValid h.key c)

/-- The line of an assignment is a line. -/
theorem Assignment.WF.isLine_line {a : Assignment} (h : a.WF) {text : Text}
    (ht : text.IsLine) : (a.line text).IsLine :=
  have equals : Text.IsLine [CodePoint.ofChar '='] :=
    Text.isLine_of_isAscii fun c hc => by
      rw [List.mem_singleton.1 hc]
      exact ⟨by decide, by decide⟩
  h.leadLine.append (equals.append ht)

namespace Record

/-- What holds of every record of a document. -/
def WF : Record → Prop
  | .raw text => ofLine text = .raw text ∧ text.IsLine
  | .assignment a => a.WF

private theorem wf_ofLine {line : Text} (h : line.IsLine) : (ofLine line).WF := by
  obtain ⟨indent, key, text, hi, hk, hl, ho⟩ | ho := ofLine_cases line
  · rw [hl] at h
    have parts := h.of_append
    rw [ho]
    refine ⟨hk, ⟨indent, hi, rfl⟩, parts.1, fun t ht => ?_⟩
    rw [← Option.some.inj ht]
    exact (Text.IsLine.of_append (s := [CodePoint.ofChar '=']) parts.2).2
  · rw [ho]
    exact ⟨ho, h⟩

/-- The line of a well-formed record is read as that record. -/
theorem ofLine_of_line? {r : Record} (h : r.WF) {line : Text} (hl : r.line? = some line) :
    ofLine line = r := by
  cases r with
  | raw text =>
    rw [← Option.some.inj hl]
    exact h.1
  | assignment a =>
    obtain ⟨text, hv, rfl⟩ := Option.map_eq_some_iff.1 hl
    obtain ⟨indent, hi, hlead⟩ := h.lead
    refine ofLine_eq_assignment_iff.2 ⟨indent, text, hi, h.key, ?_, hlead, hv⟩
    rw [Assignment.line, hlead]

/-- The records of the content of a file are well formed. -/
theorem wf_of_mem_ofBytes {bytes : Bytes} : ∀ r ∈ ofBytes bytes, r.WF := by
  intro r hr
  rw [ofBytes, Text.lines_ofBytes, List.map_map, List.mem_map] at hr
  obtain ⟨l, hl, rfl⟩ := hr
  exact wf_ofLine (Text.isLine_ofBytes hl)

/-- No assignment that was read is a deleted one. -/
theorem exists_value_of_mem_ofBytes {bytes : Bytes} {a : Assignment}
    (h : .assignment a ∈ ofBytes bytes) : ∃ text, a.value = some text := by
  obtain ⟨line, -, hl⟩ := List.mem_map.1 h
  obtain ⟨-, text, -, -, -, -, ht⟩ := ofLine_eq_assignment_iff.1 hl
  exact ⟨text, ht⟩

end Record

end VarFile
