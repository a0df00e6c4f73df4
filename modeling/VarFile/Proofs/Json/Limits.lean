import VarFile.Json.Reader

/-!
# Limits of reading JSON

While a text is read, the stack is as high as arrays and objects were opened and not closed again
(`Json.Builder.length_stack_take`). So a text that stays within the limits, with short integers and
few arrays and objects inside each other, is read as a value or refused as malformed, and for no
other reason (`Json.eq_malformed_of_parse`).
-/

namespace VarFile.Json

namespace Token

/-- Whether a token opens an array or object. -/
def opens : Token → Bool
  | openArray | openObject => true
  | _ => false

/-- Whether a token ends an array or object. -/
def closes : Token → Bool
  | closeArray | closeObject => true
  | _ => false

/-- No token both opens and ends something. -/
theorem closes_of_opens {token : Token} (h : token.opens = true) : token.closes = false := by
  cases token <;> first | rfl | cases h

end Token

open Token (opens closes)

variable {maxDepth : Nat}

/-- Tokens that stay within the limits: no integer is too long, and at no place too many arrays and
objects are open. -/
structure IsModest (maxDepth : Nat) (tokens : List Token) : Prop where
  digits : ∀ negative digits, Token.integer negative digits ∈ tokens →
    digits.length ≤ Numeral.maxDigits
  depth : ∀ before, before <+: tokens → before.countP opens ≤ before.countP closes + maxDepth + 1

/-- Few tokens, none of which is a long integer, stay within the limits. -/
theorem isModest_of_length_le {tokens : List Token} (few : tokens.length ≤ maxDepth + 1)
    (short : ∀ token ∈ tokens, ∀ negative digits, token = .integer negative digits →
      digits.length ≤ Numeral.maxDigits) : IsModest maxDepth tokens where
  digits negative digits hd := short _ hd negative digits rfl
  depth before prior :=
    calc before.countP opens ≤ before.length := List.countP_le_length
      _ ≤ maxDepth + 1 := Nat.le_trans prior.length_le few
      _ ≤ before.countP closes + maxDepth + 1 := Nat.succ_le_succ (Nat.le_add_left _ _)

/-- Whether something is open where this may come next. -/
def Expectation.isInside : Expectation → Bool
  | .firstItem | .firstKey | .key _ | .colon _ _ => true
  | .value | .next _ => false

namespace Builder

variable {b b' : Builder} {token : Token} {e : ParseError}

/-- Where the end or a key of something may come, something is open. -/
def WF (b : Builder) : Prop := b.expects.isInside = true → b.stack ≠ []

private theorem length_stack_takeValue (h : b.takeValue maxDepth token = .ok b') :
    b'.WF ∧ token.closes = false ∧
      b'.stack.length = b.stack.length + if token.opens then 1 else 0 := by
  cases token with
  | integer negative digits =>
    rw [takeValue] at h
    split at h
    · cases h
    · cases h
      exact ⟨nofun, rfl, rfl⟩
  | openArray =>
    rw [takeValue, openFrame] at h
    split at h
    · cases h
    · cases h
      exact ⟨fun _ => by simp, rfl, rfl⟩
  | openObject =>
    rw [takeValue, openFrame] at h
    split at h
    · cases h
    · cases h
      exact ⟨fun _ => by simp, rfl, rfl⟩
  | null | bool v | string t | number n =>
    cases h
    exact ⟨nofun, rfl, rfl⟩
  | closeArray | closeObject | comma | colon | invalid => cases h

private theorem length_stack_takeNext {v : Json} (h : b.takeNext v token = .ok b') :
    b'.WF ∧ token.opens = false ∧
      (b'.stack.length + if token.closes then 1 else 0) = b.stack.length := by
  rw [takeNext.eq_def] at h
  split at h
  · split at h
    · next items stack hs =>
      cases h
      exact ⟨nofun, rfl, by rw [hs]; rfl⟩
    · next members key stack hs =>
      cases h
      exact ⟨fun _ => by simp, rfl, by rw [hs]; rfl⟩
    · cases h
  · split at h
    · next items stack hs =>
      cases h
      exact ⟨nofun, rfl, by rw [hs]; rfl⟩
    · cases h
  · split at h
    · next members key stack hs =>
      cases h
      exact ⟨nofun, rfl, by rw [hs]; rfl⟩
    · cases h
  · cases h

/-- The stack is as high as arrays and objects were opened and not closed again. -/
theorem length_stack_take (wf : b.WF) (h : b.take maxDepth token = .ok b') :
    b'.WF ∧ (b'.stack.length + if token.closes then 1 else 0) =
      b.stack.length + if token.opens then 1 else 0 := by
  -- The end of what was just opened is taken off a stack that is not empty.
  have ended (inside : b.expects.isInside = true) :
      b.stack.tail.length + 1 = b.stack.length := by
    rw [List.length_tail]
    have := List.length_pos_iff.2 (wf inside)
    omega
  have value {token : Token} (h : b.takeValue maxDepth token = .ok b') :
      b'.WF ∧ (b'.stack.length + if token.closes then 1 else 0) =
        b.stack.length + if token.opens then 1 else 0 := by
    obtain ⟨wf', open_only, height⟩ := length_stack_takeValue h
    exact ⟨wf', by rw [open_only, height]; rfl⟩
  rw [take.eq_def] at h
  split at h
  · exact value h
  · next expected =>
    split at h
    · cases h
      exact ⟨nofun, ended (by rw [expected]; rfl)⟩
    · exact value h
  · next expected =>
    split at h
    · cases h
      exact ⟨nofun, ended (by rw [expected]; rfl)⟩
    · cases h
      exact ⟨fun _ => wf (by rw [expected]; rfl), rfl⟩
    · cases h
  · next members expected =>
    split at h
    · cases h
      exact ⟨fun _ => wf (by rw [expected]; rfl), rfl⟩
    · cases h
  · next members key expected =>
    split at h
    · cases h
      exact ⟨nofun, ended (by rw [expected]; rfl)⟩
    · cases h
  · obtain ⟨wf', close_only, height⟩ := length_stack_takeNext h
    exact ⟨wf', by rw [close_only, height]; rfl⟩

/-- A token that is refused, but not as malformed, is an integer that is too long or opens too many
arrays and objects. -/
def Overruns (maxDepth : Nat) (b : Builder) (token : Token) : Prop :=
  (∃ negative digits, token = .integer negative digits ∧ Numeral.maxDigits < digits.length) ∨
    (token.opens = true ∧ maxDepth < b.stack.length)

private theorem overruns_of_takeValue (h : b.takeValue maxDepth token = .error e) :
    e = .malformed ∨ b.Overruns maxDepth token := by
  cases token with
  | integer negative digits =>
    rw [takeValue] at h
    split at h
    · next long => exact .inr (.inl ⟨negative, digits, rfl, long⟩)
    · cases h
  | openArray =>
    rw [takeValue, openFrame] at h
    split at h
    · next deep => exact .inr (.inr ⟨rfl, deep⟩)
    · cases h
  | openObject =>
    rw [takeValue, openFrame] at h
    split at h
    · next deep => exact .inr (.inr ⟨rfl, deep⟩)
    · cases h
  | null | bool v | string t | number n => cases h
  | closeArray | closeObject | comma | colon | invalid =>
    cases h
    exact .inl rfl

private theorem overruns_of_take (h : b.take maxDepth token = .error e) :
    e = .malformed ∨ b.Overruns maxDepth token := by
  have after {v : Json} (h : b.takeNext v token = .error e) : e = .malformed := by
    rw [takeNext.eq_def] at h
    split at h
    · split at h <;> cases h
      rfl
    · split at h <;> cases h
      rfl
    · split at h <;> cases h
      rfl
    · cases h
      rfl
  rw [take.eq_def] at h
  split at h
  · exact overruns_of_takeValue h
  · split at h
    · cases h
    · exact overruns_of_takeValue h
  · split at h <;> cases h
    exact .inl rfl
  · split at h <;> cases h
    exact .inl rfl
  · split at h <;> cases h
    exact .inl rfl
  · exact .inl (after h)

/-- Tokens that are refused, but not as malformed, hold one that goes beyond a limit where it
stands, as many arrays and objects being open as were opened and not closed again. -/
theorem overruns_of_foldlM {tokens : List Token} (wf : b.WF)
    (h : tokens.foldlM (take maxDepth) b = .error e) :
    e = .malformed ∨ (∃ negative digits, Token.integer negative digits ∈ tokens ∧
        Numeral.maxDigits < digits.length) ∨
      ∃ before token, before ++ [token] <+: tokens ∧ token.opens = true ∧
        maxDepth + before.countP closes < b.stack.length + before.countP opens := by
  induction tokens generalizing b with
  | nil => cases h
  | cons token tokens ih =>
    rw [List.foldlM_cons] at h
    cases taken : b.take maxDepth token with
    | error cause =>
      rw [taken] at h
      cases h
      obtain malformed | ⟨negative, digits, rfl, long⟩ | ⟨opened, deep⟩ := overruns_of_take taken
      · exact .inl malformed
      · exact .inr (.inl ⟨negative, digits, List.mem_cons_self, long⟩)
      · refine .inr (.inr ⟨[], token, ?_, opened, by simpa using deep⟩)
        exact ⟨tokens, rfl⟩
    | ok next =>
      rw [taken] at h
      obtain ⟨wf', height⟩ := length_stack_take wf taken
      obtain malformed | ⟨negative, digits, there, long⟩ | ⟨before, last, start, opened, deep⟩ :=
        ih wf' h
      · exact .inl malformed
      · exact .inr (.inl ⟨negative, digits, List.mem_cons_of_mem token there, long⟩)
      · refine .inr (.inr ⟨token :: before, last, ?_, opened, ?_⟩)
        · rw [List.cons_append, List.cons_prefix_cons]
          exact ⟨rfl, start⟩
        · rw [List.countP_cons, List.countP_cons]
          omega

end Builder

/-- A text within the limits that is not read as a value is malformed. -/
theorem eq_malformed_of_parse {t : Text} {e : ParseError}
    (modest : IsModest maxDepth (Token.all t)) (h : parse maxDepth t = .error e) :
    e = .malformed := by
  rw [parse] at h
  cases read : (Token.all t).foldlM (Builder.take maxDepth) ({} : Builder) with
  | error cause =>
    rw [read] at h
    cases h
    obtain malformed | ⟨negative, digits, there, long⟩ | ⟨before, token, start, opened, deep⟩ :=
      Builder.overruns_of_foldlM (b := {}) nofun read
    · exact malformed
    · have short := modest.digits negative digits there
      omega
    · have shallow := modest.depth _ start
      rw [List.countP_append, List.countP_append, List.countP_singleton, List.countP_singleton,
        opened, Token.closes_of_opens opened] at shallow
      simp only [List.length_nil] at deep
      simp only [if_true, Bool.false_eq_true, if_false] at shallow
      omega
  | ok b =>
    rw [read] at h
    simp only [Builder.result] at h
    split at h
    · cases h
    · cases h
      rfl

end VarFile.Json
