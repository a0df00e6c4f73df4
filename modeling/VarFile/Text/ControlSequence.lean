import VarFile.Text.CodePoint

/-!
# Control sequences

A terminal takes an escape character, an opening bracket, parameters and a letter as a command, and
shows none of them. What is printed to anything else than a terminal is printed without these
sequences; a text that holds none is printed as it is (`Text.withoutControls_eq_self`).
-/

namespace VarFile.Text

/-- Digits, semicolons and question marks are the parameters of a control sequence. -/
def isParameter (c : CodePoint) : Bool :=
  (0x30 ≤ c.val && c.val ≤ 0x39) || c.val == 0x3B || c.val == 0x3F

/-- An ASCII letter ends a control sequence. -/
def isFinal (c : CodePoint) : Bool :=
  (0x41 ≤ c.val && c.val ≤ 0x5A) || (0x61 ≤ c.val && c.val ≤ 0x7A)

/-- How many code points make the parameters at the start of a text and the letter after them. -/
def finalLength? : Text → Option Nat
  | [] => none
  | c :: rest =>
    if isParameter c then (finalLength? rest).map (· + 1) else if isFinal c then some 1 else none

/-- How long the control sequence is that a text starts with, if it starts with one. -/
def controlLength? : Text → Option Nat
  | escape :: bracket :: rest =>
    if escape.val = 0x1B ∧ bracket.val = 0x5B then (finalLength? rest).map (· + 2) else none
  | _ => none

/-- The text after `skip` code points, without its control sequences. -/
def withoutControlsFrom (skip : Nat) : Text → Text
  | [] => []
  | c :: rest =>
    match skip with
    | skip + 1 => withoutControlsFrom skip rest
    | 0 =>
      match controlLength? (c :: rest) with
      | some length => withoutControlsFrom (length - 1) rest
      | none => c :: withoutControlsFrom 0 rest

/-- The text without its control sequences. -/
def withoutControls (t : Text) : Text := withoutControlsFrom 0 t

/-- A text that is one control sequence. -/
def IsControl (s : Text) : Prop :=
  ∃ (escape bracket final : CodePoint) (parameters : Text), escape.val = 0x1B ∧
    bracket.val = 0x5B ∧ (∀ c ∈ parameters, isParameter c = true) ∧ isFinal final = true ∧
    s = escape :: bracket :: parameters ++ [final]

private theorem isParameter_of_isFinal {c : CodePoint} (h : isFinal c = true) :
    isParameter c = false := by
  simp only [isFinal, Bool.or_eq_true, Bool.and_eq_true, decide_eq_true_eq] at h
  simp only [isParameter, Bool.or_eq_false_iff, Bool.and_eq_false_iff, decide_eq_false_iff_not,
    beq_eq_false_iff_ne]
  omega

private theorem finalLength?_eq_some_iff {t : Text} {n : Nat} :
    finalLength? t = some n ↔ ∃ (parameters : Text) (final : CodePoint) (rest : Text),
      (∀ c ∈ parameters, isParameter c = true) ∧ isFinal final = true ∧
        t = parameters ++ final :: rest ∧ n = parameters.length + 1 := by
  induction t generalizing n with
  | nil => simp [finalLength?]
  | cons c t ih =>
    rw [finalLength?]
    by_cases hp : isParameter c = true
    · rw [if_pos hp, Option.map_eq_some_iff]
      constructor
      · rintro ⟨m, hm, rfl⟩
        obtain ⟨parameters, final, rest, all, hf, rfl, rfl⟩ := ih.1 hm
        exact ⟨c :: parameters, final, rest, List.forall_mem_cons.2 ⟨hp, all⟩, hf, rfl, rfl⟩
      · rintro ⟨parameters, final, rest, all, hf, ht, rfl⟩
        cases parameters with
        | nil =>
          rw [List.nil_append, List.cons.injEq] at ht
          rw [ht.1, isParameter_of_isFinal hf] at hp
          cases hp
        | cons d parameters =>
          rw [List.cons_append, List.cons.injEq] at ht
          have later := (List.forall_mem_cons.1 all).2
          exact ⟨_, ih.2 ⟨parameters, final, rest, later, hf, ht.2, rfl⟩, rfl⟩
    · rw [if_neg hp]
      constructor
      · intro h
        split at h
        · next hf => exact ⟨[], c, t, by simp, hf, rfl, (Option.some.inj h).symm⟩
        · cases h
      · rintro ⟨parameters, final, rest, all, hf, ht, rfl⟩
        cases parameters with
        | nil =>
          rw [List.nil_append, List.cons.injEq] at ht
          rw [ht.1, if_pos hf]
          rfl
        | cons d parameters =>
          rw [List.cons_append, List.cons.injEq] at ht
          rw [ht.1] at hp
          exact absurd (all d List.mem_cons_self) hp

/-- A control sequence is found at the start of a text exactly if one stands there. -/
theorem controlLength?_eq_some_iff {t : Text} {n : Nat} :
    controlLength? t = some n ↔ ∃ s rest : Text, s.IsControl ∧ t = s ++ rest ∧ n = s.length := by
  constructor
  · intro h
    rw [controlLength?.eq_def] at h
    split at h
    · next escape bracket behind =>
      split at h
      · next starts =>
        obtain ⟨m, hm, rfl⟩ := Option.map_eq_some_iff.1 h
        obtain ⟨parameters, final, rest, all, hf, rfl, rfl⟩ := finalLength?_eq_some_iff.1 hm
        refine ⟨escape :: bracket :: parameters ++ [final], rest,
          ⟨escape, bracket, final, parameters, starts.1, starts.2, all, hf, rfl⟩, ?_, ?_⟩
        · simp only [List.cons_append, List.append_assoc, List.nil_append]
        · simp only [List.cons_append, List.length_cons, List.length_append, List.length_nil]
      · cases h
    · cases h
  · rintro ⟨_, rest, ⟨escape, bracket, final, parameters, he, hb, all, hf, rfl⟩, rfl, rfl⟩
    have found : finalLength? (parameters ++ final :: rest) = some (parameters.length + 1) :=
      finalLength?_eq_some_iff.2 ⟨parameters, final, rest, all, hf, rfl, rfl⟩
    have whole : escape :: bracket :: parameters ++ [final] ++ rest =
        escape :: bracket :: (parameters ++ final :: rest) := by
      simp only [List.cons_append, List.append_assoc, List.nil_append]
    rw [whole, controlLength?, if_pos ⟨he, hb⟩, found, Option.map_some]
    simp only [List.cons_append, List.length_cons, List.length_append, List.length_nil]

private theorem withoutControlsFrom_append (s t : Text) :
    withoutControlsFrom s.length (s ++ t) = t.withoutControls := by
  induction s with
  | nil => rfl
  | cons c s ih => rw [List.length_cons, List.cons_append, withoutControlsFrom, ih]

/-- A control sequence is left out. -/
theorem withoutControls_append {s : Text} (h : s.IsControl) (t : Text) :
    withoutControls (s ++ t) = t.withoutControls := by
  have found := controlLength?_eq_some_iff.2 ⟨s, t, h, rfl, rfl⟩
  obtain ⟨escape, bracket, final, parameters, -, -, -, -, rfl⟩ := h
  rw [List.cons_append, List.cons_append] at found ⊢
  rw [withoutControls, withoutControlsFrom, found]
  exact withoutControlsFrom_append (bracket :: parameters ++ [final]) t

example : withoutControls "a\x1b[1;31mb\x1b[m\x1b[c" = ("ab" : Text) := by decide

/-- A text without the escape character holds no control sequence. -/
theorem not_isControl_of_forall_ne {t before s after : Text} (h : ∀ c ∈ t, c.val ≠ 0x1B)
    (whole : t = before ++ s ++ after) : ¬ s.IsControl := by
  rintro ⟨escape, bracket, final, parameters, starts, -, -, -, rfl⟩
  refine h escape ?_ starts
  rw [whole]
  simp

/-- A text without control sequences is printed as it is. -/
theorem withoutControls_eq_self {t : Text}
    (h : ∀ before s after : Text, t = before ++ s ++ after → ¬ s.IsControl) :
    t.withoutControls = t := by
  induction t with
  | nil => rfl
  | cons c t ih =>
    have none : controlLength? (c :: t) = none := by
      rw [Option.eq_none_iff_forall_ne_some]
      intro n found
      obtain ⟨s, rest, control, whole, -⟩ := controlLength?_eq_some_iff.1 found
      exact h [] s rest whole control
    have later : withoutControls t = t := by
      refine ih fun before s after whole => h (c :: before) s after ?_
      rw [whole, List.cons_append, List.cons_append]
    rw [withoutControls, withoutControlsFrom, none]
    exact congrArg (c :: ·) later

end VarFile.Text
