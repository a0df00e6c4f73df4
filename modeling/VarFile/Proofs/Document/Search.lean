import VarFile.Proofs.Text.LowerCase

/-!
# Searching the variables

A variable is found by every part of its key and of its value, unless a capital sigma ends a word in
the part and not in the whole text (`Variable.isMatch_of_part`). Keys have no capital sigma, so they
are found by every part of theirs.
-/

namespace VarFile

namespace Variable

open Text (capitalSigma)

variable {v : Variable} {q t : Text}

/-- A variable is found by what the lower case of its key or of its value holds. -/
theorem isMatch_iff :
    v.isMatch q = true ↔ q.lower <:+: v.key.lower ∨ q.lower <:+: v.value.lower := by
  rw [isMatch, Bool.or_eq_true, Text.isInfix_iff, Text.isInfix_iff]

/-- A part of the key or of the value is found if its capital sigmas are kept. -/
theorem isMatch_of_keepsSigmas (searched : t = v.key ∨ t = v.value) {before after : Text}
    (there : t = before ++ q ++ after) (keeps : q.KeepsSigmas before after) :
    v.isMatch q = true := by
  have found : q.lower <:+: t.lower := there ▸ Text.lower_infix_lower keeps
  rw [isMatch_iff]
  rcases searched with rfl | rfl
  · exact .inl found
  · exact .inr found

private theorem isMatch_of_innerSigmas (searched : t = v.key ∨ t = v.value) (part : q <:+: t)
    (inner : q.InnerSigmas) : v.isMatch q = true := by
  obtain ⟨before, after, there⟩ := part
  exact isMatch_of_keepsSigmas searched there.symm (inner.keepsSigmas before after)

private theorem capitalSigma_not_mem_of_isValid {key : Text} (h : Key.isValid key = true) :
    capitalSigma ∉ key :=
  fun there => absurd (Key.isAscii_of_isValid h _ there) (by decide)

/-- A variable is found by each part of its key or of its value whose capital sigmas end a word in
the part exactly if they do in the whole text. So it is found by the whole text, by all parts with
inner capital sigmas only, on the whole way towards a part without one, and by all parts of a valid
key. -/
theorem isMatch_of_part (v : Variable) (t : Text) (searched : t = v.key ∨ t = v.value) :
    (∀ before q after : Text, t = before ++ q ++ after → q.KeepsSigmas before after →
      v.isMatch q = true) ∧
    v.isMatch t = true ∧
    (∀ q : Text, q <:+: t → q.InnerSigmas → v.isMatch q = true) ∧
    (∀ s q : Text, s <:+: t → capitalSigma ∉ s → q <+: s → v.isMatch q = true) ∧
    (t = v.key → Key.isValid t = true → ∀ q : Text, q <:+: t → v.isMatch q = true) := by
  refine ⟨fun before q after => isMatch_of_keepsSigmas searched, ?whole,
    fun q => isMatch_of_innerSigmas searched, ?towards, ?key⟩
  case whole =>
    have nothing : t = [] ++ t ++ [] := by rw [List.nil_append, List.append_nil]
    refine isMatch_of_keepsSigmas searched nothing fun x y _ => ?_
    rw [List.nil_append, List.append_nil]
  case towards =>
    intro s q part none start
    have without : capitalSigma ∉ q := fun there => none (start.subset there)
    exact isMatch_of_innerSigmas searched (start.isInfix.trans part)
      (Text.innerSigmas_of_not_mem without)
  case key =>
    intro _ valid q part
    have without : capitalSigma ∉ q :=
      fun there => capitalSigma_not_mem_of_isValid valid (part.subset there)
    exact isMatch_of_innerSigmas searched part (Text.innerSigmas_of_not_mem without)

/-- A capital sigma within a word is found. -/
theorem isMatch_of_part_inner :
    let v : Variable := ⟨"K", "ΟΔΥΣΣΕΑΣ", false⟩
    v.value = "Ο" ++ "ΔΥΣΣΕ" ++ "ΑΣ" ∧ Text.KeepsSigmas "ΔΥΣΣΕ" "Ο" "ΑΣ" ∧
      v.isMatch "ΔΥΣΣΕ" = true := by
  intro v
  have there : v.value = "Ο" ++ "ΔΥΣΣΕ" ++ "ΑΣ" := by decide +kernel
  have keeps : Text.KeepsSigmas "ΔΥΣΣΕ" "Ο" "ΑΣ" := by decide +kernel
  exact ⟨there, keeps, (isMatch_of_part v v.value (.inr rfl)).1 "Ο" "ΔΥΣΣΕ" "ΑΣ" there keeps⟩

/-- At the end of a word that goes on in the value, a capital sigma is not found. -/
theorem not_isMatch_of_part :
    ¬ ∀ (v : Variable) (q : Text), q <:+: v.key ∨ q <:+: v.value → v.isMatch q = true := by
  intro all
  have missed : (⟨"K", "ΟΔΥΣΣΕΑΣ", false⟩ : Variable).isMatch "ΟΔΥΣ" = false := by
    decide +kernel
  rw [all _ _ (.inr (by decide +kernel))] at missed
  cases missed

end Variable

end VarFile
