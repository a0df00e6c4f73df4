import VarFile.Proofs.Record.Line

/-!
# The grammar of a line

A line is an assignment if it is made of blanks, a name, `=` and any text (`Line.Assigns`); the name
starts with a letter or an underscore and goes on with these and digits. `Record.ofLine_exact` says
that exactly these lines are read as assignments, split at their first `=` with nothing lost, and
that all others are kept as they are.
-/

namespace VarFile

/-- The code points from one character to another. -/
def CodePoint.IsBetween (first last : Char) (c : CodePoint) : Prop :=
  first.toNat ≤ c.val ∧ c.val ≤ last.toNat

namespace Line

/-- Space, tab, newline, carriage return, vertical tab and form feed. -/
def blanks : Text := .ofChars [' ', '\t', '\n', '\r', '\x0b', '\x0c']

/-- What a name starts with. -/
def IsLetter (c : CodePoint) : Prop :=
  c.IsBetween 'A' 'Z' ∨ c.IsBetween 'a' 'z' ∨ c = CodePoint.ofChar '_'

/-- What a name goes on with. -/
def IsLetterOrDigit (c : CodePoint) : Prop := IsLetter c ∨ c.IsBetween '0' '9'

/-- A letter, and then letters and digits. -/
def IsName (name : Text) : Prop :=
  ∃ c rest, name = c :: rest ∧ IsLetter c ∧ ∀ d ∈ rest, IsLetterOrDigit d

/-- Blanks, a name, `=` and any text. -/
structure Assigns (line indent name text : Text) : Prop where
  line : line = indent ++ name ++ CodePoint.ofChar '=' :: text
  indent : ∀ c ∈ indent, c ∈ blanks
  name : IsName name

/-! ### What the reader looks for -/

private theorem eq_ofChar_iff {c : CodePoint} {x : Char} :
    c = CodePoint.ofChar x ↔ c.val = x.toNat :=
  ⟨fun h => h ▸ rfl, fun h => CodePoint.ext h⟩

private theorem isBlank_iff {c : CodePoint} : c.isBlank = true ↔ c ∈ blanks := by
  have code : c ∈ blanks ↔ c.val = 0x20 ∨ c.val = 0x09 ∨ c.val = 0x0A ∨ c.val = 0x0D ∨
      c.val = 0x0B ∨ c.val = 0x0C := by
    simp only [blanks, Text.ofChars, List.map_cons, List.map_nil, List.mem_cons, List.not_mem_nil,
      or_false, eq_ofChar_iff]
    rfl
  rw [code, CodePoint.isBlank, Bool.or_eq_true, Bool.and_eq_true, beq_iff_eq, decide_eq_true_iff,
    decide_eq_true_iff]
  omega

private theorem isStart_iff {c : CodePoint} : Key.isStart c = true ↔ IsLetter c := by
  have code : IsLetter c ↔ (0x41 ≤ c.val ∧ c.val ≤ 0x5A) ∨ (0x61 ≤ c.val ∧ c.val ≤ 0x7A) ∨
      c.val = 0x5F := by
    rw [IsLetter, eq_ofChar_iff]
    rfl
  rw [code]
  simp only [Key.isStart, Bool.or_eq_true, Bool.and_eq_true, beq_iff_eq, decide_eq_true_eq]
  omega

private theorem isPart_iff {c : CodePoint} : Key.isPart c = true ↔ IsLetterOrDigit c := by
  rw [Key.isPart, Bool.or_eq_true, isStart_iff, Bool.and_eq_true, decide_eq_true_iff,
    decide_eq_true_iff]
  rfl

/-- The valid keys are the names. -/
theorem isValid_iff_isName {key : Text} : Key.isValid key = true ↔ IsName key := by
  cases key with
  | nil => simp [Key.isValid, IsName]
  | cons c rest =>
    rw [Key.isValid, Bool.and_eq_true, List.all_eq_true, isStart_iff]
    simp only [isPart_iff]
    constructor
    · rintro ⟨letter, others⟩
      exact ⟨c, rest, rfl, letter, others⟩
    · rintro ⟨d, others, same, letter, all⟩
      rw [List.cons.injEq] at same
      rw [same.1, same.2]
      exact ⟨letter, all⟩

namespace Assigns

variable {line indent name text : Text}

private theorem equals_notMem (h : Assigns line indent name text) :
    CodePoint.ofChar '=' ∉ indent ++ name := by
  rw [List.mem_append]
  rintro (inIndent | inName)
  · exact absurd (isBlank_iff.2 (h.indent _ inIndent)) (by decide)
  · exact absurd ((Key.isValid_iff.1 (isValid_iff_isName.2 h.name)).2 _ inName) (by decide)

/-- What the grammar takes apart is read so. -/
theorem ofLine (h : Assigns line indent name text) :
    Record.ofLine line = .assignment ⟨indent ++ name, name, some text⟩ := by
  rw [h.line]
  exact Record.ofLine_append (fun c hc => isBlank_iff.2 (h.indent c hc))
    (isValid_iff_isName.2 h.name)

end Assigns

/-- A line that is read as an assignment is one of the grammar, or else it is kept as it is. -/
theorem assigns_or_raw (line : Text) :
    (∃ indent name text, Assigns line indent name text) ∨ Record.ofLine line = .raw line := by
  obtain ⟨indent, key, text, hi, hk, hl, -⟩ | raw := Record.ofLine_cases line
  · exact .inl ⟨indent, key, text, hl, fun c hc => isBlank_iff.1 (hi c hc),
      isValid_iff_isName.1 hk⟩
  · exact .inr raw

end Line

open Line (Assigns)

/-- A line is read as an assignment exactly if it is made of blanks, a name, `=` and a text, and
then these are what the assignment has: its key is valid, and the line is cut at its first `=` with
nothing lost. Every other line is kept as it is. -/
theorem Record.ofLine_exact (line : Text) :
    (∀ a, ofLine line = .assignment a ↔
      ∃ indent name text, Assigns line indent name text ∧ a = ⟨indent ++ name, name, some text⟩) ∧
    (∀ a, ofLine line = .assignment a → Key.isValid a.key = true ∧
      CodePoint.ofChar '=' ∉ a.lead ∧ a.value.map a.line = some line) ∧
    (ofLine line = .raw line ↔ ¬∃ indent name text, Assigns line indent name text) := by
  have accepts (a : Assignment) : ofLine line = .assignment a ↔
      ∃ indent name text, Assigns line indent name text ∧
        a = ⟨indent ++ name, name, some text⟩ := by
    constructor
    · intro read
      obtain ⟨indent, name, text, assigns⟩ | raw := Line.assigns_or_raw line
      · rw [assigns.ofLine, assignment.injEq] at read
        exact ⟨indent, name, text, assigns, read.symm⟩
      · rw [raw] at read
        cases read
    · rintro ⟨indent, name, text, assigns, rfl⟩
      exact assigns.ofLine
  refine ⟨accepts, fun a read => ?_, ?_⟩
  · have kept := line?_ofLine line
    rw [read] at kept
    obtain ⟨indent, name, text, assigns, rfl⟩ := (accepts a).1 read
    exact ⟨Line.isValid_iff_isName.2 assigns.name, assigns.equals_notMem, kept⟩
  · constructor
    · rintro raw ⟨indent, name, text, assigns⟩
      rw [assigns.ofLine] at raw
      cases raw
    · exact (Line.assigns_or_raw line).resolve_left

end VarFile
