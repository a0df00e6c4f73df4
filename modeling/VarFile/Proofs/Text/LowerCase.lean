import VarFile.Proofs.Record.Line
import VarFile.Variable

/-!
# Lower case and parts of a text

Every code point but the capital sigma has the same lower-case form wherever it stands. So the lower
case of a part is a part of the lower case (`Text.lower_infix_lower`) as long as the capital sigmas
of the part end a word in it exactly if they do in the whole text (`Text.KeepsSigmas`).
-/

namespace VarFile

namespace Text

variable {before after t : Text}

/-! ### Parts -/

/-- One text is found in another if it is a part of it. -/
theorem isInfix_iff {sub t : Text} : isInfix sub t = true ↔ sub <:+: t := by
  induction t with
  | nil => rw [isInfix, List.isEmpty_iff, List.infix_nil]
  | cons c t ih =>
    rw [isInfix, Bool.or_eq_true, List.isPrefixOf_iff_prefix, ih, List.infix_cons_iff]

/-! ### A text between two others -/

/-- Whether a capital sigma between two texts ends a word. -/
def endsWord (before after : Text) : Bool := startsCased before.reverse && !startsCased after

/-- The lower-case form of a code point between two texts. -/
def lowerAt (before after : Text) (c : CodePoint) : Text :=
  if c = capitalSigma then if endsWord before after then [finalSigma] else [smallSigma]
  else c.lower

/-- The lower case of a text between two others. -/
def lowerBetween (before after : Text) : Text → Text
  | [] => []
  | c :: t => lowerAt before (t ++ after) c ++ lowerBetween (before ++ [c]) after t

private theorem lowerFrom_eq (before done t : Text) :
    lowerFrom before done t = done.reverse ++ lowerBetween before.reverse [] t := by
  induction t generalizing before done with
  | nil => rw [lowerFrom, lowerBetween, List.append_nil]
  | cons c t ih =>
    have form : lowerAt before.reverse t c =
        if c = capitalSigma then
          if startsCased before && !startsCased t then [finalSigma] else [smallSigma]
        else c.lower := by
      rw [lowerAt, endsWord, List.reverse_reverse]
    rw [lowerFrom, lowerBetween, List.append_nil, form, ih, List.reverse_append,
      List.reverse_reverse, List.append_assoc, List.reverse_cons]

private theorem lower_eq (t : Text) : t.lower = lowerBetween [] [] t := lowerFrom_eq [] [] t

private theorem lowerBetween_append (before after s t : Text) :
    lowerBetween before after (s ++ t) =
      lowerBetween before (t ++ after) s ++ lowerBetween (before ++ s) after t := by
  induction s generalizing before with
  | nil => rw [List.nil_append, lowerBetween, List.nil_append, List.append_nil]
  | cons c s ih =>
    rw [List.cons_append, lowerBetween, lowerBetween, ih, List.append_assoc, List.append_assoc,
      List.append_assoc, List.singleton_append]

/-! ### Capital sigmas -/

/-- Every capital sigma of a text ends a word in it exactly if it does between two others. -/
def KeepsSigmas (t before after : Text) : Prop :=
  ∀ x y, t = x ++ capitalSigma :: y → endsWord (before ++ x) (y ++ after) = endsWord x y

/-- Every capital sigma of a text stands between code points that are not skipped when the letters
beside it are looked for. -/
def InnerSigmas (t : Text) : Prop :=
  ∀ x y, t = x ++ capitalSigma :: y →
    (∃ c ∈ x, c.isCaseIgnorable = false) ∧ ∃ c ∈ y, c.isCaseIgnorable = false

/-- A text without a capital sigma. -/
theorem innerSigmas_of_not_mem (h : capitalSigma ∉ t) : t.InnerSigmas := by
  intro x y there
  rw [there] at h
  exact absurd (List.mem_append_right x List.mem_cons_self) h

private theorem startsCased_append (h : ∃ c ∈ t, c.isCaseIgnorable = false) (after : Text) :
    startsCased (t ++ after) = startsCased t := by
  have stops : (t.dropWhile CodePoint.isCaseIgnorable).isEmpty = false := by
    obtain ⟨c, hc, kept⟩ := h
    rw [List.isEmpty_eq_false_iff, ne_eq, List.dropWhile_eq_nil_iff]
    exact fun all => absurd (all c hc) (by rw [kept]; decide)
  rw [startsCased, startsCased, List.dropWhile_append, stops, if_neg Bool.false_ne_true]
  cases hd : t.dropWhile CodePoint.isCaseIgnorable with
  | nil =>
    rw [hd] at stops
    cases stops
  | cons c rest => rfl

/-- Whether an inner capital sigma ends a word can be seen in the text itself. -/
theorem InnerSigmas.keepsSigmas (h : t.InnerSigmas) (before after : Text) :
    t.KeepsSigmas before after := by
  intro x y there
  obtain ⟨⟨c, hc, kept⟩, later⟩ := h x y there
  rw [endsWord, endsWord, List.reverse_append,
    startsCased_append ⟨c, List.mem_reverse.2 hc, kept⟩, startsCased_append later]

private theorem length_lowerAt (before after before' after' : Text) (c : CodePoint) :
    (lowerAt before after c).length = (lowerAt before' after' c).length := by
  by_cases hc : c = capitalSigma
  · rw [lowerAt, lowerAt, if_pos hc, if_pos hc]
    cases endsWord before after <;> cases endsWord before' after' <;> rfl
  · rw [lowerAt, lowerAt, if_neg hc, if_neg hc]

private theorem lowerAt_eq_iff {before after before' after' : Text} {c : CodePoint} :
    lowerAt before after c = lowerAt before' after' c ↔
      (c = capitalSigma → endsWord before after = endsWord before' after') := by
  by_cases hc : c = capitalSigma
  · have forms : finalSigma ≠ smallSigma := by decide
    rw [lowerAt, lowerAt, if_pos hc, if_pos hc]
    cases endsWord before after <;> cases endsWord before' after' <;>
      simp [hc, forms, forms.symm]
  · rw [lowerAt, lowerAt, if_neg hc, if_neg hc]
    exact iff_of_true rfl fun there => absurd there hc

/-- The lower case of a text is the same at two places exactly if each of its capital sigmas ends a
word at both of them or at none. -/
theorem lowerBetween_eq_iff {before after before' after' : Text} :
    lowerBetween before after t = lowerBetween before' after' t ↔
      ∀ x y, t = x ++ capitalSigma :: y →
        endsWord (before ++ x) (y ++ after) = endsWord (before' ++ x) (y ++ after') := by
  induction t generalizing before before' with
  | nil => simp [lowerBetween]
  | cons c t ih =>
    -- the capital sigmas behind the first code point
    have rest : (lowerBetween (before ++ [c]) after t = lowerBetween (before' ++ [c]) after' t) ↔
        ∀ x y, t = x ++ capitalSigma :: y →
          endsWord (before ++ c :: x) (y ++ after) =
            endsWord (before' ++ c :: x) (y ++ after') := by
      simpa only [List.append_assoc, List.singleton_append] using
        @ih (before ++ [c]) (before' ++ [c])
    have apart : (lowerBetween before after (c :: t) = lowerBetween before' after' (c :: t)) ↔
        (c = capitalSigma → endsWord before (t ++ after) = endsWord before' (t ++ after')) ∧
          lowerBetween (before ++ [c]) after t = lowerBetween (before' ++ [c]) after' t := by
      rw [← lowerAt_eq_iff, lowerBetween, lowerBetween]
      exact ⟨fun same => List.append_inj same (length_lowerAt ..),
        fun same => by rw [same.1, same.2]⟩
    rw [apart, rest]
    constructor
    · rintro ⟨first, later⟩ x y there
      cases x with
      | nil =>
        obtain ⟨rfl, rfl⟩ := List.cons.inj there
        simpa only [List.append_nil] using first rfl
      | cons d x =>
        obtain ⟨rfl, rfl⟩ := List.cons.inj there
        exact later x y rfl
    · intro all
      refine ⟨?_, fun x y there => all (c :: x) y (by rw [there, List.cons_append])⟩
      rintro rfl
      simpa only [List.append_nil] using all [] t rfl

/-- The capital sigmas of a text are kept exactly if its lower case does not change between two
others. -/
theorem keepsSigmas_iff : t.KeepsSigmas before after ↔ lowerBetween before after t = t.lower := by
  rw [lower_eq, lowerBetween_eq_iff, KeepsSigmas]
  simp only [List.nil_append, List.append_nil]

instance (t before after : Text) : Decidable (t.KeepsSigmas before after) :=
  decidable_of_iff _ keepsSigmas_iff.symm

/-- The lower case of a text between two others. -/
theorem lower_append_append (before t after : Text) :
    (before ++ t ++ after).lower =
      lowerBetween [] (t ++ after) before ++ lowerBetween before after t ++
        lowerBetween (before ++ t) [] after := by
  rw [lower_eq, lowerBetween_append, lowerBetween_append, List.append_nil, List.nil_append,
    List.nil_append]

/-- The lower case of a part is a part of the lower case if its capital sigmas are kept. -/
theorem lower_infix_lower (keeps : t.KeepsSigmas before after) :
    t.lower <:+: (before ++ t ++ after).lower := by
  rw [lower_append_append, keepsSigmas_iff.1 keeps]
  exact List.infix_append ..

end Text

end VarFile
