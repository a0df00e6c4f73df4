import Mathlib.Data.List.Induction
import VarFile.Text.Numeral

/-!
# Digits of numerals

`Numeral.Digits` are the digits of a base with the number that they denote, one digit after the
other, and `Numeral.Marked` are digits behind a mark of the base. Of letters and digits, nothing
else is read as a number (`Numeral.natural?_eq_some_iff`). The decimal digits that a number is
written with denote it (`Numeral.digits_ofNat`).
-/

namespace VarFile

/-! ### Cutting texts -/

namespace Text

variable {p : CodePoint → Bool} {t : Text}

private theorem splitOn_eq_singleton {separator : CodePoint} (h : separator ∉ t) :
    t.splitOn separator = [t] := by
  induction t with
  | nil => rfl
  | cons c t ih =>
    rw [List.mem_cons, not_or] at h
    have whole := ih h.2
    rw [splitOn] at whole ⊢
    rw [List.foldr_cons]
    generalize t.foldr _ ([], []) = later at whole ⊢
    obtain ⟨first, rest⟩ := later
    rw [List.cons.injEq] at whole
    simp only [if_neg (Ne.symm h.1), whole.1, whole.2]

/-- What is cut off at the ends of a text is what the predicate holds of. -/
theorem exists_eq_trim (p : CodePoint → Bool) (t : Text) :
    ∃ lead trail, t = lead ++ t.trim p ++ trail ∧ (∀ c ∈ lead, p c = true) ∧
      ∀ c ∈ trail, p c = true := by
  have among {s : Text} : ∀ c ∈ s.takeWhile p, p c = true := List.all_eq_true.1 List.all_takeWhile
  refine ⟨t.takeWhile p, ((t.dropWhile p).reverse.takeWhile p).reverse, ?_, among, fun c hc =>
    among c (List.mem_reverse.1 hc)⟩
  calc t
    _ = t.takeWhile p ++ (t.dropWhile p).reverse.reverse := by
        rw [List.reverse_reverse, List.takeWhile_append_dropWhile]
    _ = _ := by
        rw [← List.takeWhile_append_dropWhile (p := p) (l := (t.dropWhile p).reverse),
          List.reverse_append, ← List.append_assoc, List.takeWhile_append_dropWhile]
        rfl

/-- A text that the predicate holds of at neither end is left when both ends are cut off. -/
theorem trim_append {lead trail : Text} (hlead : ∀ c ∈ lead, p c = true)
    (htrail : ∀ c ∈ trail, p c = true) (first : ∀ c ∈ t.head?, p c = false)
    (last : ∀ c ∈ t.getLast?, p c = false) (hne : t ≠ []) :
    (lead ++ t ++ trail).trim p = t := by
  have cut {s s' : Text} (h : ∀ c ∈ s, p c = true) (hs : ∀ c ∈ s'.head?, p c = false) :
      (s ++ s').dropWhile p = s' := by
    rw [List.dropWhile_append_of_pos h]
    cases s' with
    | nil => rfl
    | cons c s' => exact List.dropWhile_cons_of_neg (Bool.not_eq_true _ ▸ hs c rfl)
  have front : (lead ++ t ++ trail).dropWhile p = t ++ trail := by
    rw [List.append_assoc, cut hlead]
    obtain ⟨c, rest, rfl⟩ := List.exists_cons_of_ne_nil hne
    exact first
  rw [trim, front, List.reverse_append, cut (fun c hc => htrail c (List.mem_reverse.1 hc)),
    List.reverse_reverse]
  rwa [List.head?_reverse]

end Text

/-! ### Digits of a base -/

namespace Numeral

/-- Digits below a base, and the number that they denote: one digit, or a number and its last
digit. -/
inductive Digits (base : Nat) : Text → Nat → Prop
  | one {c : CodePoint} {d : Nat} (digit : digit? c = some d) (below : d < base) :
      Digits base [c] d
  | snoc {t : Text} {n : Nat} {c : CodePoint} {d : Nat} (h : Digits base t n)
      (digit : digit? c = some d) (below : d < base) : Digits base (t ++ [c]) (n * base + d)

/-- Digits of a base behind its mark. -/
inductive Marked (base : Nat) : Text → Nat → Prop
  | mk {mark : CodePoint} {t : Text} {n : Nat} (marks : marks base mark = true)
      (h : Digits base t n) : Marked base (CodePoint.ofChar '0' :: mark :: t) n

variable {base n : Nat} {t : Text}

theorem isDigit_iff {c : CodePoint} :
    isDigit base c = true ↔ ∃ d, digit? c = some d ∧ d < base := by
  rw [isDigit]
  split
  · next d hd => simp [hd]
  · next hd => simp [hd]

/-- Marked digits are not empty. -/
theorem Marked.ne_nil {base n : Nat} {t : Text} (h : Marked base t n) : t ≠ [] := by
  cases h
  exact List.cons_ne_nil _ _

private theorem value_concat (base : Nat) (t : Text) (c : CodePoint) :
    value base (t ++ [c]) = value base t * base + (digit? c).getD 0 := by
  rw [value, List.foldl_append]
  rfl

/-- Digits denote their value. -/
theorem digits_iff :
    Digits base t n ↔ t ≠ [] ∧ (∀ c ∈ t, isDigit base c = true) ∧ value base t = n := by
  constructor
  · intro h
    induction h with
    | one digit below =>
      refine ⟨List.cons_ne_nil _ _, ?_, ?_⟩
      · simpa using isDigit_iff.2 ⟨_, digit, below⟩
      · simp [value, digit]
    | @snoc t n c d _ digit below ih =>
      obtain ⟨-, all, same⟩ := ih
      refine ⟨by simp, ?_, ?_⟩
      · rw [List.forall_mem_append]
        exact ⟨all, by simpa using isDigit_iff.2 ⟨_, digit, below⟩⟩
      · rw [value_concat, same, digit, Option.getD_some]
  · rintro ⟨hne, all, rfl⟩
    induction t using List.reverseRecOn with
    | nil => exact absurd rfl hne
    | append_singleton t c ih =>
      rw [List.forall_mem_append] at all
      obtain ⟨d, digit, below⟩ := isDigit_iff.1 (all.2 c (List.mem_singleton.2 rfl))
      rw [value_concat, digit, Option.getD_some]
      cases t with
      | nil => simpa [value] using Digits.one digit below
      | cons first t => exact .snoc (ih (List.cons_ne_nil _ _) all.1) digit below

/-- The first of some digits is below the base. -/
theorem Digits.head {c : CodePoint} (h : Digits base (c :: t) n) : isDigit base c = true :=
  (digits_iff.1 h).2.1 c List.mem_cons_self

/-- There is at least one digit. -/
theorem Digits.ne_nil (h : Digits base t n) : t ≠ [] := (digits_iff.1 h).1

/-- A zero in front of other digits does not count. -/
theorem digits_cons_zero (low : 0 < base) (hne : t ≠ []) :
    Digits base (CodePoint.ofChar '0' :: t) n ↔ Digits base t n := by
  have zero : isDigit base (CodePoint.ofChar '0') = true := isDigit_iff.2 ⟨0, rfl, low⟩
  have same : value base (CodePoint.ofChar '0' :: t) = value base t := by
    rw [value, List.foldl_cons, Nat.zero_mul]
    rfl
  rw [digits_iff, digits_iff, same, List.forall_mem_cons]
  simp [zero, hne]

/-- A mark of a base is no digit of it. -/
theorem isDigit_of_marks {c : CodePoint} (h : marks base c = true) : isDigit base c = false := by
  rw [Bool.eq_false_iff]
  intro digit
  obtain ⟨d, hd, below⟩ := isDigit_iff.1 digit
  simp only [marks, Bool.or_eq_true, Bool.and_eq_true, beq_iff_eq] at h
  rw [digit?] at hd
  split at hd
  · omega
  · split at hd
    · cases hd
      omega
    · split at hd
      · cases hd
        omega
      · cases hd

private theorem dropMark_cases (base : Nat) (h : CodePoint.ofChar '_' ∉ t) :
    (∃ mark rest, marks base mark = true ∧ t = CodePoint.ofChar '0' :: mark :: rest ∧
        dropMark base t = rest) ∨
      (dropMark base t = t ∧
        ∀ mark rest, t = CodePoint.ofChar '0' :: mark :: rest → marks base mark = false) := by
  rw [dropMark.eq_def]
  split
  · next zero mark rest =>
    split
    · next there =>
      obtain rfl : zero = CodePoint.ofChar '0' := CodePoint.ext there.1
      refine .inl ⟨mark, rest, there.2, rfl, ?_⟩
      cases rest with
      | nil => rfl
      | cons c rest =>
        have other : c ≠ CodePoint.ofChar '_' := by
          rintro rfl
          simp at h
        simp only [if_neg other]
    · next none =>
      refine .inr ⟨rfl, fun m r same => ?_⟩
      rw [List.cons.injEq, List.cons.injEq] at same
      obtain ⟨rfl, rfl, rfl⟩ := same
      simpa [CodePoint.ofChar] using none
  · next short => exact .inr ⟨rfl, fun m r same => absurd same (short _ _ _)⟩

/-- Letters and digits are read as digits of a base, with or without its mark. -/
theorem natural?_eq_some_iff (alphanumeric : ∀ c ∈ t, isAlphanumeric c = true)
    (short : t.length ≤ maxDigits) :
    natural? base t = some n ↔ Digits base t n ∨ Marked base t n := by
  have plain : CodePoint.ofChar '_' ∉ t := fun there => absurd (alphanumeric _ there) (by decide)
  have read {s : Text} (hs : dropMark base t = s) (part : ∀ c ∈ s, c ∈ t)
      (le : s.length ≤ t.length) : natural? base t = some n ↔ Digits base s n := by
    have whole := Text.splitOn_eq_singleton fun there => plain (part _ there)
    have fits : s.length ≤ maxDigits := Nat.le_trans le short
    rw [natural?, hs]
    simp [whole, fits, digits_iff, and_assoc]
  obtain ⟨mark, rest, marks, rfl, dropped⟩ | ⟨same, none⟩ := dropMark_cases base plain
  · rw [read dropped (by simp +contextual) (by simp; omega)]
    constructor
    · intro h
      exact .inr (.mk marks h)
    · rintro (h | ⟨-, h⟩)
      · have digit := (digits_iff.1 h).2.1 mark (by simp)
        rw [isDigit_of_marks marks] at digit
        cases digit
      · exact h
  · rw [read same (fun _ => id) (Nat.le_refl _)]
    constructor
    · exact .inl
    · rintro (h | ⟨marks, h⟩)
      · exact h
      · rw [none _ _ rfl] at marks
        cases marks

/-! ### Decimal digits -/

private theorem ofNat_decimal (n : Nat) :
    Text.ofNat 10 n =
      (if n < 10 then [] else Text.ofNat 10 (n / 10)) ++ [CodePoint.ofChar (n % 10).digitChar] := by
  rw [Text.ofNat, Nat.toDigits_eq_if (by decide)]
  split
  · next small =>
    rw [Nat.mod_eq_of_lt small]
    rfl
  · rw [Text.ofChars, List.map_append]
    rfl

private theorem digit?_digitChar {n : Nat} (small : n < 10) :
    digit? (CodePoint.ofChar n.digitChar) = some n := by
  have code : (CodePoint.ofChar n.digitChar).val = 48 + n := Nat.toNat_digitChar_of_lt_ten small
  rw [digit?, code, if_pos (by omega)]
  congr 1
  omega

/-- The digits of a number denote it. -/
theorem digits_ofNat (n : Nat) : Digits 10 (Text.ofNat 10 n) n := by
  induction n using Nat.strongRecOn with
  | ind n ih =>
    have below : n % 10 < 10 := Nat.mod_lt n (by decide)
    have digit := digit?_digitChar below
    rw [ofNat_decimal]
    split
    · next small =>
      have one := Digits.one digit below
      rwa [Nat.mod_eq_of_lt small] at one ⊢
    · next large =>
      have more := (ih (n / 10) (by omega)).snoc digit below
      rwa [Nat.mul_comm, Nat.div_add_mod] at more

/-- The digits of a number start with no zero, unless it is zero. -/
theorem head?_ofNat {n : Nat} (pos : n ≠ 0) :
    (Text.ofNat 10 n).head? ≠ some (CodePoint.ofChar '0') := by
  induction n using Nat.strongRecOn with
  | ind n ih =>
    rw [ofNat_decimal]
    split
    · next small =>
      rw [Nat.mod_eq_of_lt small, List.nil_append, List.head?_cons, ne_eq, Option.some.injEq]
      intro same
      have digit := digit?_digitChar small
      rw [same] at digit
      exact pos (Option.some.inj digit).symm
    · next large =>
      have first := ih (n / 10) (by omega) (by omega)
      obtain ⟨c, rest, parts⟩ := List.exists_cons_of_ne_nil (digits_ofNat (n / 10)).ne_nil
      rw [parts] at first ⊢
      exact first

end Numeral

end VarFile
