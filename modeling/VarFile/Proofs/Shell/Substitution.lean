import VarFile.Proofs.Shell.Line

/-!
# Command substitutions

`Shell.substitutions` finds where a text makes the shell run a command and put its output there: at
backquotes, and at dollar signs before a parenthesis, if neither a backslash nor single quotes
protect them. The quotes are those of the rules that values are read with; there is no substitution
in a text that the shell reads in the same way (`Shell.substitutions_of_isPlain`).
-/

namespace VarFile.Shell

open Value (backquote dollar hash)

/-- Whether the shell expands what it finds there: nothing protects it, or double quotes do. -/
def Quoting.expands : Quoting → Bool
  | outside _ | double => true
  | _ => false

/-- Whether a byte before others starts a command substitution, if the shell expands it. -/
def opens (b : UInt8) (rest : Bytes) : Bool :=
  b == backquote || b == dollar && rest.head? == some parenthesis

/-- The bytes of a text that start a command substitution, each with what protects it. -/
def substitutions : Quoting → Bytes → List (Quoting × UInt8)
  | _, [] => []
  | quoting, b :: rest =>
    if quoting.expands && opens b rest then (quoting, b) :: substitutions (quoting.next b) rest
    else substitutions (quoting.next b) rest

/-- Nothing but backquotes that nothing protects starts a command substitution. -/
def OnlyBackquotes (quoting : Quoting) (text : Bytes) : Prop :=
  ∀ s ∈ substitutions quoting text, s.1.isOutside = true ∧ s.2 = backquote

instance (quoting : Quoting) (text : Bytes) : Decidable (OnlyBackquotes quoting text) :=
  inferInstanceAs (Decidable (∀ _ ∈ _, _))

/-- Whether a text has a backquote that nothing protects. -/
def hasBackquote : Quoting → Bytes → Bool
  | _, [] => false
  | quoting, b :: rest =>
    quoting.isOutside && b == backquote || hasBackquote (quoting.next b) rest

/-! ### Bytes that start nothing -/

variable {quoting : Quoting} {b : UInt8} {text rest : Bytes}

/-- A byte that starts nothing. -/
theorem substitutions_cons (h : (quoting.expands && opens b rest) = false) :
    substitutions quoting (b :: rest) = substitutions (quoting.next b) rest := by
  rw [substitutions, h, if_neg Bool.false_ne_true]

/-- Most bytes start nothing, whatever protects them. -/
theorem opens_eq_false (hb : b ≠ backquote) (hd : b ≠ dollar) (rest : Bytes) :
    opens b rest = false := by
  rw [opens, beq_false_of_ne hb, beq_false_of_ne hd, Bool.false_and, Bool.or_false]

/-- Bytes that start nothing and leave the protection as it is. -/
theorem substitutions_append (same : ∀ b ∈ text, quoting.next b = quoting)
    (quiet : quoting.expands = false ∨ ∀ b ∈ text, b ≠ backquote ∧ b ≠ dollar) (rest : Bytes) :
    substitutions quoting (text ++ rest) = substitutions quoting rest := by
  induction text with
  | nil => rfl
  | cons b text ih =>
    obtain ⟨hb, later⟩ := List.forall_mem_cons.1 same
    have nothing : (quoting.expands && opens b (text ++ rest)) = false := by
      obtain inert | other := quiet
      · rw [inert, Bool.false_and]
      · have hb := other b List.mem_cons_self
        rw [opens_eq_false hb.1 hb.2, Bool.and_false]
    rw [List.cons_append, substitutions_cons nothing, hb,
      ih later (quiet.imp_right fun h c hc => h c (List.mem_cons_of_mem b hc))]

/-- Nothing starts where nothing is. -/
theorem onlyBackquotes_nil (quoting : Quoting) : OnlyBackquotes quoting [] := by
  intro s hs
  cases hs

/-- A byte that starts nothing, or is a backquote that nothing protects. -/
theorem onlyBackquotes_cons
    (h : quoting.expands = false ∨ (quoting.isOutside = true ∧ b = backquote) ∨
      opens b rest = false) (later : OnlyBackquotes (quoting.next b) rest) :
    OnlyBackquotes quoting (b :: rest) := by
  rw [OnlyBackquotes, substitutions]
  split
  · next found =>
    rw [Bool.and_eq_true] at found
    obtain h | h | h := h
    · rw [h] at found
      cases found.1
    · exact List.forall_mem_cons.2 ⟨h, later⟩
    · rw [h] at found
      cases found.2
  · exact later

/-- If nothing else starts a command substitution, none is started exactly if there is no such
backquote. -/
theorem OnlyBackquotes.substitutions_eq_nil_iff (h : OnlyBackquotes quoting text) :
    substitutions quoting text = [] ↔ hasBackquote quoting text = false := by
  induction text generalizing quoting with
  | nil => exact ⟨fun _ => rfl, fun _ => rfl⟩
  | cons b rest ih =>
    rw [OnlyBackquotes, substitutions] at h
    rw [substitutions, hasBackquote]
    split at h
    · next found =>
      obtain ⟨⟨bare, rfl⟩, -⟩ := List.forall_mem_cons.1 h
      rw [if_pos found, bare]
      exact ⟨nofun, nofun⟩
    · next not =>
      have other : (quoting.isOutside && b == backquote) = false := by
        cases quoting with
        | outside a =>
          rw [Bool.not_eq_true, Quoting.expands, Bool.true_and, opens, Bool.or_eq_false_iff] at not
          rw [not.1, Bool.and_false]
        | _ => rfl
      rw [if_neg not, other, Bool.false_or]
      exact ih h

/-- A text that the shell reads by the same rules starts no command substitution. -/
theorem substitutions_of_isPlain (h : isPlain quoting text = true) :
    substitutions quoting text = [] := by
  induction text generalizing quoting with
  | nil => rfl
  | cons b rest ih =>
    rw [isPlain, Bool.and_eq_true, Bool.not_eq_true'] at h
    obtain ⟨same, later⟩ := h
    have nothing : (quoting.expands && opens b rest) = false := by
      cases quoting with
      | outside a =>
        simp only [Quoting.departs, List.any_cons, Bool.or_eq_false_iff, Bool.and_eq_false_iff]
          at same
        simp only [Quoting.expands, opens, Bool.true_and, Bool.or_eq_false_iff,
          Bool.and_eq_false_iff]
        exact ⟨same.1.2, same.2.imp_right fun h => h.1.1⟩
      | double =>
        simp only [Quoting.departs, Bool.or_eq_false_iff] at same
        rw [opens, same.1.2, same.2, Bool.false_and, Bool.or_false, Bool.and_false]
      | _ => rfl
    rw [substitutions_cons nothing]
    exact ih later

/-! ### Tokens -/

variable {isBlank : UInt8 → Bool}

private theorem code_of_separator? {t : Token} (h : separator? isBlank b = some t) :
    t.code = [b] := by
  unfold separator? at h
  split at h
  · rw [← Option.some.inj h]
    rfl
  · split at h
    · rw [← Option.some.inj h]
      rfl
    · cases h

/-- The separators that a text is read as have it as their code. -/
theorem code_filterMap_separator?
    (h : ∀ b ∈ text, (separator? isBlank b).isSome = true) :
    code (text.filterMap (separator? isBlank)) = text := by
  induction text with
  | nil => rfl
  | cons b text ih =>
    obtain ⟨hb, later⟩ := List.forall_mem_cons.1 h
    obtain ⟨t, ht⟩ := Option.isSome_iff_exists.1 hb
    rw [List.filterMap_cons_some ht, code, List.flatMap_cons, code_of_separator? ht, ← code,
      ih later]
    rfl

/-- What was read of the word that a place is in. -/
def Place.pending : Place → Bytes
  | between => []
  | inWord _ done => done.reverse

/-- The code of a line is all of it up to the comment. -/
theorem exists_comment_of_tokensFrom {place : Place} {line : Bytes} {ts : List Token}
    (h : tokensFrom isBlank place line = some ts) :
    ∃ comment, place.pending ++ line = code ts ++ comment ∧
      (comment = [] ∨ ∃ text, comment = hash :: text) := by
  fun_induction tokensFrom isBlank place line generalizing ts with
  | case1 =>
    cases h
    exact ⟨[], rfl, .inl rfl⟩
  | case2 quoting done ho =>
    cases h
    exact ⟨[], by simp [Place.pending, code, Token.code], .inl rfl⟩
  | case3 => cases h
  | case4 b rest t ht ih =>
    obtain ⟨ts, hts, rfl⟩ := Option.map_eq_some_iff.1 h
    obtain ⟨comment, line, hc⟩ := ih hts
    refine ⟨comment, ?_, hc⟩
    rw [code, List.flatMap_cons, code_of_separator? ht, ← code, List.append_assoc, ← line]
    rfl
  | case5 rest _ =>
    cases h
    exact ⟨hash :: rest, rfl, .inr ⟨rest, rfl⟩⟩
  | case6 b rest _ _ ih => exact ih h
  | case7 quoting done b rest t ht ih =>
    obtain ⟨ts, hts, rfl⟩ := Option.map_eq_some_iff.1 h
    obtain ⟨comment, line, hc⟩ := ih hts
    have separator : separator? isBlank b = some t := by
      split at ht
      · exact ht
      · cases ht
    refine ⟨comment, ?_, hc⟩
    rw [code, List.flatMap_cons, List.flatMap_cons, code_of_separator? separator, ← code,
      List.append_assoc, List.append_assoc, ← line]
    rfl
  | case8 quoting done b rest _ ih =>
    obtain ⟨comment, line, hc⟩ := ih h
    refine ⟨comment, line ▸ ?_, hc⟩
    simp [Place.pending]

end VarFile.Shell
