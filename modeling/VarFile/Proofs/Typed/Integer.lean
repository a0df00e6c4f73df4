import VarFile.Proofs.Text.Numeral
import VarFile.Typed

/-!
# Integers as texts

A text stands for an integer if it is a signed numeral between blanks (`Typed.Signed`). The numerals
of a base are `Typed.Plain`: its digits, in base sixteen also behind `0x`, and in base zero those
that tell their own base. `Typed.Overmarked` are numerals with one more mark of the base in front of
the digits; these are read as well, and nothing else is (`Typed.integer?_eq_some_iff`).
-/

namespace VarFile

namespace Typed

open Numeral (Digits Marked marks isAlphanumeric isDigit natural? maxDigits)

/-- The numerals of a base: its digits, in base sixteen also behind its mark. In base zero a numeral
tells its own base: hexadecimal digits stand behind a mark, octal ones behind a zero, and decimal
ones start with none, unless they are a single zero. -/
inductive Plain (base : Int) : Text → Nat → Prop
  | digits {t : Text} {n : Nat} (low : 2 ≤ base) (high : base ≤ 36) (h : Digits base.toNat t n) :
      Plain base t n
  | hexadecimal {t : Text} {n : Nat} (mode : base = 0 ∨ base = 16) (h : Marked 16 t n) :
      Plain base t n
  | octal {t : Text} {n : Nat} (auto : base = 0) (h : Digits 8 t n) :
      Plain base (CodePoint.ofChar '0' :: t) n
  | decimal {t : Text} {n : Nat} (auto : base = 0) (h : Digits 10 t n)
      (first : t.head? ≠ some (CodePoint.ofChar '0')) : Plain base t n
  | zero (auto : base = 0) : Plain base [CodePoint.ofChar '0'] 0

/-- Numerals with one more mark: a mark of base two or eight, which have none, or a second mark of
base sixteen. -/
inductive Overmarked (base : Int) : Text → Nat → Prop
  | binary {t : Text} {n : Nat} (mode : base = 2) (h : Marked 2 t n) : Overmarked base t n
  | octal {t : Text} {n : Nat} (mode : base = 0 ∨ base = 8) (h : Marked 8 t n) :
      Overmarked base t n
  | hexadecimal {mark : CodePoint} {t : Text} {n : Nat} (mode : base = 0 ∨ base = 16)
      (marks : marks 16 mark = true) (h : Marked 16 t n) :
      Overmarked base (CodePoint.ofChar '0' :: mark :: t) n

variable {base : Int} {t : Text} {n : Nat}

/-! ### Reading a numeral -/

private theorem hasHexMark_iff :
    hasHexMark t = true ↔ ∃ mark rest, marks 16 mark = true ∧ rest ≠ [] ∧
      t = CodePoint.ofChar '0' :: mark :: rest := by
  rw [hasHexMark.eq_def]
  split
  · next zero mark c rest =>
    simp only [Bool.and_eq_true, Bool.or_eq_true, beq_iff_eq]
    constructor
    · rintro ⟨first, second⟩
      refine ⟨mark, c :: rest, by simpa [marks] using second, List.cons_ne_nil _ _, ?_⟩
      rw [CodePoint.ext (d := CodePoint.ofChar '0') first]
    · rintro ⟨m, r, hm, -, same⟩
      rw [List.cons.injEq, List.cons.injEq] at same
      obtain ⟨rfl, rfl, -⟩ := same
      exact ⟨rfl, by simpa [marks] using hm⟩
  · next short =>
    refine ⟨fun h => (by cases h), ?_⟩
    rintro ⟨mark, rest, -, hne, rfl⟩
    obtain ⟨c, rest, rfl⟩ := List.exists_cons_of_ne_nil hne
    exact absurd rfl (short _ _ _ _)

private theorem hasHexMark_of_marked (h : Marked 16 t n) : hasHexMark t = true := by
  cases h with
  | mk marks h => exact hasHexMark_iff.2 ⟨_, _, marks, h.ne_nil, rfl⟩

private theorem not_marked (unmarked : hasHexMark t = false) : ¬ Marked 16 t n := by
  intro h
  rw [hasHexMark_of_marked h] at unmarked
  cases unmarked

private theorem not_overmarked {mark : CodePoint}
    (unmarked : hasHexMark (CodePoint.ofChar '0' :: mark :: t) = false)
    (hm : marks 16 mark = true) : ¬ Marked 16 t n := by
  intro h
  rw [hasHexMark_iff.2 ⟨_, _, hm, h.ne_nil, rfl⟩] at unmarked
  cases unmarked

private theorem natural?_of_mark {mark : CodePoint} {rest : Text} (mode : base = 0 ∨ base = 16)
    (hm : marks 16 mark = true) (alphanumeric : ∀ c ∈ rest, isAlphanumeric c = true)
    (short : rest.length ≤ maxDigits) :
    natural? 16 rest = some n ↔
      Plain base (CodePoint.ofChar '0' :: mark :: rest) n ∨
        Overmarked base (CodePoint.ofChar '0' :: mark :: rest) n := by
  rw [Numeral.natural?_eq_some_iff alphanumeric short]
  constructor
  · rintro (h | h)
    · exact .inl (.hexadecimal mode (.mk hm h))
    · exact .inr (.hexadecimal mode hm h)
  · -- A mark of base sixteen is no digit of a smaller base, and no mark of one.
    have noDigit {b : Nat} (le : b ≤ 16) : isDigit b mark = false := by
      have none := Numeral.isDigit_of_marks hm
      rw [Bool.eq_false_iff, ne_eq, Numeral.isDigit_iff] at none ⊢
      rintro ⟨d, hd, below⟩
      exact none ⟨d, hd, by omega⟩
    have noMark : marks 8 mark = false ∧ marks 2 mark = false := by
      simp [marks] at hm ⊢
      omega
    rintro (h | h)
    · cases h with
      | digits low high h =>
        have digit := (Numeral.digits_iff.1 h).2.1 mark (by simp)
        rw [noDigit (by omega)] at digit
        cases digit
      | hexadecimal _ h =>
        cases h with
        | mk _ h => exact .inl h
      | octal _ h =>
        have digit := h.head
        rw [noDigit (by decide)] at digit
        cases digit
      | decimal _ _ first => exact absurd rfl first
    · cases h with
      | binary _ h =>
        cases h with
        | mk other => simp [noMark.2] at other
      | octal _ h =>
        cases h with
        | mk other => simp [noMark.1] at other
      | hexadecimal _ _ h => exact .inr h

private theorem natural?_of_zero {rest : Text} (hne : rest ≠ [])
    (unmarked : hasHexMark (CodePoint.ofChar '0' :: rest) = false)
    (alphanumeric : ∀ c ∈ CodePoint.ofChar '0' :: rest, isAlphanumeric c = true)
    (short : (CodePoint.ofChar '0' :: rest).length ≤ maxDigits) :
    natural? 8 (CodePoint.ofChar '0' :: rest) = some n ↔
      Plain 0 (CodePoint.ofChar '0' :: rest) n ∨ Overmarked 0 (CodePoint.ofChar '0' :: rest) n := by
  rw [Numeral.natural?_eq_some_iff alphanumeric short, Numeral.digits_cons_zero (by decide) hne]
  constructor
  · rintro (h | h)
    · exact .inl (.octal rfl h)
    · exact .inr (.octal (.inl rfl) h)
  · rintro (h | h)
    · cases h with
      | digits low => exact absurd low (by decide)
      | hexadecimal _ h => exact (not_marked unmarked h).elim
      | octal _ h => exact .inl h
      | decimal _ _ other => exact absurd rfl other
      | zero => exact absurd rfl hne
    · cases h with
      | binary mode => exact absurd mode (by decide)
      | octal _ h => exact .inr h
      | hexadecimal _ hm h => exact (not_overmarked unmarked hm h).elim

private theorem natural?_of_decimal (unmarked : hasHexMark t = false)
    (single : t.head? = some (CodePoint.ofChar '0') → t = [CodePoint.ofChar '0'])
    (alphanumeric : ∀ c ∈ t, isAlphanumeric c = true) (short : t.length ≤ maxDigits) :
    natural? 10 t = some n ↔ Plain 0 t n ∨ Overmarked 0 t n := by
  rw [Numeral.natural?_eq_some_iff alphanumeric short]
  constructor
  · rintro (h | h)
    · by_cases first : t.head? = some (CodePoint.ofChar '0')
      · obtain rfl := single first
        obtain ⟨-, -, rfl⟩ := Numeral.digits_iff.1 h
        exact .inl (.zero rfl)
      · exact .inl (.decimal rfl h first)
    · -- Base ten has no mark.
      cases h with
      | mk other => simp [marks] at other
  · rintro (h | h)
    · cases h with
      | digits low => exact absurd low (by decide)
      | hexadecimal _ h => exact (not_marked unmarked h).elim
      | octal _ h => exact absurd (List.cons.inj (single rfl)).2 h.ne_nil
      | decimal _ h => exact .inl h
      | zero => exact .inl (.one rfl (by decide))
    · cases h with
      | binary mode => exact absurd mode (by decide)
      | octal _ h =>
        cases h with
        | mk => exact absurd (List.cons.inj (single rfl)).2 (List.cons_ne_nil _ _)
      | hexadecimal _ hm h => exact (not_overmarked unmarked hm h).elim

/-- Without a mark, digits tell base eight by a zero in front, and else are decimal. -/
theorem natural?_of_auto (unmarked : hasHexMark t = false)
    (alphanumeric : ∀ c ∈ t, isAlphanumeric c = true) (short : t.length ≤ maxDigits) :
    natural? (if 1 < t.length ∧ t.head? = some (CodePoint.ofChar '0') then 8 else 10) t = some n ↔
      Plain 0 t n ∨ Overmarked 0 t n := by
  split
  · next octal =>
    obtain ⟨long, first⟩ := octal
    obtain ⟨rest, rfl⟩ : ∃ rest, t = CodePoint.ofChar '0' :: rest := List.head?_eq_some_iff.1 first
    have hne : rest ≠ [] := by
      rintro rfl
      exact absurd long (by decide)
    exact natural?_of_zero hne unmarked alphanumeric short
  · next decimal =>
    refine natural?_of_decimal unmarked (fun first => ?_) alphanumeric short
    obtain ⟨rest, rfl⟩ : ∃ rest, t = CodePoint.ofChar '0' :: rest := List.head?_eq_some_iff.1 first
    obtain rfl : rest = [] := by
      by_contra more
      exact decimal ⟨by simpa using List.length_pos_iff.2 more, rfl⟩
    rfl

/-- In a base that is given, its digits are read, and with them its mark. -/
theorem natural?_of_base (low : 2 ≤ base) (high : base ≤ 36)
    (unmarked : base = 16 → hasHexMark t = false)
    (alphanumeric : ∀ c ∈ t, isAlphanumeric c = true) (short : t.length ≤ maxDigits) :
    natural? base.toNat t = some n ↔ Plain base t n ∨ Overmarked base t n := by
  rw [Numeral.natural?_eq_some_iff alphanumeric short]
  constructor
  · rintro (h | h)
    · exact .inl (.digits low high h)
    · -- Only three bases have a mark.
      obtain two | eight | sixteen : base = 2 ∨ base = 8 ∨ base = 16 := by
        cases h with
        | mk hm =>
          simp [marks] at hm
          omega
      · subst two
        exact .inr (.binary rfl h)
      · subst eight
        exact .inr (.octal (.inr rfl) h)
      · subst sixteen
        exact .inl (.hexadecimal (.inr rfl) h)
  · rintro (h | h)
    · cases h with
      | digits _ _ h => exact .inl h
      | hexadecimal mode h =>
        obtain rfl : base = 16 := by omega
        exact .inr h
      | octal auto => omega
      | decimal auto => omega
      | zero auto => omega
    · cases h with
      | binary mode h =>
        subst mode
        exact .inr h
      | octal mode h =>
        obtain rfl : base = 8 := by omega
        exact .inr h
      | hexadecimal mode hm h =>
        obtain rfl : base = 16 := by omega
        exact (not_overmarked (unmarked rfl) hm h).elim

/-- Digits are letters and digits. -/
theorem wordlike_of_digits {b : Nat} (h : Digits b t n) : ∀ c ∈ t, isAlphanumeric c = true := by
  intro c hc
  obtain ⟨d, hd, -⟩ := Numeral.isDigit_iff.1 ((Numeral.digits_iff.1 h).2.1 c hc)
  rw [isAlphanumeric, hd, Option.isSome_some]

private theorem wordlike_of_mark {b : Nat} {mark : CodePoint} (hm : marks b mark = true)
    (h : ∀ c ∈ t, isAlphanumeric c = true) :
    ∀ c ∈ CodePoint.ofChar '0' :: mark :: t, isAlphanumeric c = true := by
  have letter : isAlphanumeric mark = true := by
    simp only [marks, Bool.or_eq_true, Bool.and_eq_true, beq_iff_eq] at hm
    rw [isAlphanumeric, Numeral.digit?]
    split
    · rfl
    · split
      · rfl
      · rw [if_pos (by omega)]
        rfl
  rw [List.forall_mem_cons, List.forall_mem_cons]
  exact ⟨by decide, letter, h⟩

private theorem wordlike_of_marked {b : Nat} (h : Marked b t n) :
    ∀ c ∈ t, isAlphanumeric c = true := by
  cases h with
  | mk hm h => exact wordlike_of_mark hm (wordlike_of_digits h)

/-- Numerals are words of letters and digits. -/
theorem wordlike_of_plain (h : Plain base t n) : t ≠ [] ∧ ∀ c ∈ t, isAlphanumeric c = true := by
  cases h with
  | digits _ _ h => exact ⟨h.ne_nil, wordlike_of_digits h⟩
  | hexadecimal _ h => exact ⟨h.ne_nil, wordlike_of_marked h⟩
  | octal _ h =>
    rw [List.forall_mem_cons]
    exact ⟨List.cons_ne_nil _ _, by decide, wordlike_of_digits h⟩
  | decimal _ h => exact ⟨h.ne_nil, wordlike_of_digits h⟩
  | zero => decide

private theorem wordlike_of_overmarked (h : Overmarked base t n) :
    t ≠ [] ∧ ∀ c ∈ t, isAlphanumeric c = true := by
  cases h with
  | binary _ h => exact ⟨h.ne_nil, wordlike_of_marked h⟩
  | octal _ h => exact ⟨h.ne_nil, wordlike_of_marked h⟩
  | hexadecimal _ hm h => exact ⟨List.cons_ne_nil _ _, wordlike_of_mark hm (wordlike_of_marked h)⟩

/-- Letters and digits are read in the base that they tell or that is given. -/
theorem natural?_resolveBase (ranged : base = 0 ∨ 2 ≤ base ∧ base ≤ 36)
    (alphanumeric : ∀ c ∈ t, isAlphanumeric c = true) (short : t.length ≤ maxDigits) :
    natural? (resolveBase base t).1.toNat (resolveBase base t).2 = some n ↔
      Plain base t n ∨ Overmarked base t n := by
  rw [resolveBase]
  split
  · next marked =>
    obtain ⟨mode, seen⟩ := marked
    obtain ⟨mark, rest, hm, -, rfl⟩ := hasHexMark_iff.1 seen
    rw [List.forall_mem_cons, List.forall_mem_cons] at alphanumeric
    exact natural?_of_mark mode hm alphanumeric.2.2 (Nat.le_of_succ_le (Nat.le_of_succ_le short))
  · next unmarked =>
    rw [not_and_or, Bool.not_eq_true] at unmarked
    split
    · next auto =>
      subst auto
      have none : hasHexMark t = false := unmarked.resolve_left fun h => h (.inl rfl)
      rw [apply_ite Int.toNat]
      exact natural?_of_auto none alphanumeric short
    · next given =>
      obtain ⟨low, high⟩ := ranged.resolve_left given
      exact natural?_of_base low high (fun h => unmarked.resolve_left fun other => other (.inr h))
        alphanumeric short

private theorem resolveBase_ranged (ranged : base = 0 ∨ 2 ≤ base ∧ base ≤ 36) (t : Text) :
    2 ≤ (resolveBase base t).1 ∧ (resolveBase base t).1 ≤ 36 := by
  have fixed {b : Int} (h : b = 8 ∨ b = 10 ∨ b = 16) : 2 ≤ b ∧ b ≤ 36 := by omega
  rw [resolveBase]
  split
  · exact fixed (.inr (.inr rfl))
  · split
    · split
      · exact fixed (.inl rfl)
      · exact fixed (.inr (.inl rfl))
    · next given => exact ranged.resolve_left given

private theorem all_resolveBase (base : Int) (t : Text) :
    (resolveBase base t).2.all isAlphanumeric = true ↔ ∀ c ∈ t, isAlphanumeric c = true := by
  rw [resolveBase]
  split
  · next marked =>
    obtain ⟨mark, rest, hm, -, rfl⟩ := hasHexMark_iff.1 marked.2
    rw [List.all_eq_true]
    refine ⟨fun h => wordlike_of_mark hm h, fun h => ?_⟩
    rw [List.forall_mem_cons, List.forall_mem_cons] at h
    exact h.2.2
  · split <;> exact List.all_eq_true

/-! ### Signs and blanks -/

/-- A sign, or none, and whether it is a minus. -/
inductive Sign : Text → Bool → Prop
  | none : Sign [] false
  | plus : Sign [CodePoint.ofChar '+'] false
  | minus : Sign [CodePoint.ofChar '-'] true

/-- A numeral with at most one sign in front and with blanks around it. -/
inductive Signed (Body : Text → Nat → Prop) : Text → Int → Prop
  | mk {lead sign body trail : Text} {negative : Bool} {n : Nat}
      (before : ∀ c ∈ lead, c.isBlank = true) (hsign : Sign sign negative) (h : Body body n)
      (after : ∀ c ∈ trail, c.isBlank = true) :
      Signed Body (lead ++ (sign ++ body) ++ trail) (Numeral.signed negative n)

private theorem exists_sign (t : Text) :
    ∃ sign, Sign sign (Numeral.splitSign t).1 ∧ t = sign ++ (Numeral.splitSign t).2 := by
  rw [Numeral.splitSign.eq_def]
  split
  · exact ⟨[], .none, rfl⟩
  · next c rest =>
    split
    · next minus => exact ⟨_, .minus, minus ▸ rfl⟩
    · split
      · next plus => exact ⟨_, .plus, plus ▸ rfl⟩
      · exact ⟨[], .none, rfl⟩

private theorem splitSign_append {sign body : Text} {negative : Bool} (h : Sign sign negative)
    (hne : body ≠ []) (alphanumeric : ∀ c ∈ body, isAlphanumeric c = true) :
    Numeral.splitSign (sign ++ body) = (negative, body) := by
  cases h with
  | none =>
    obtain ⟨c, rest, rfl⟩ := List.exists_cons_of_ne_nil hne
    have letter := alphanumeric c List.mem_cons_self
    have notMinus : c ≠ CodePoint.ofChar '-' := by
      rintro rfl
      exact absurd letter (by decide)
    have notPlus : c ≠ CodePoint.ofChar '+' := by
      rintro rfl
      exact absurd letter (by decide)
    simp only [List.nil_append, Numeral.splitSign, if_neg notMinus, if_neg notPlus]
  | plus => rfl
  | minus => rfl

private theorem isBlank_of_isAlphanumeric {c : CodePoint} (h : isAlphanumeric c = true) :
    c.isBlank = false := by
  rw [isAlphanumeric, Numeral.digit?] at h
  rw [Bool.eq_false_iff]
  intro blank
  simp only [CodePoint.isBlank, Bool.or_eq_true, Bool.and_eq_true, beq_iff_eq,
    decide_eq_true_eq] at blank
  rw [if_neg (by omega), if_neg (by omega), if_neg (by omega)] at h
  cases h

/-- A numeral of letters and digits is found between blanks and behind a sign. -/
theorem signed_iff {Body : Text → Nat → Prop}
    (wordlike : ∀ t n, Body t n → t ≠ [] ∧ ∀ c ∈ t, isAlphanumeric c = true) {text : Text}
    {i : Int} :
    Signed Body text i ↔
      ∃ n, Body (Numeral.splitSign (text.trim CodePoint.isBlank)).2 n ∧
        i = Numeral.signed (Numeral.splitSign (text.trim CodePoint.isBlank)).1 n := by
  constructor
  · rintro ⟨before, hsign, h, after⟩
    next lead sign body trail negative n =>
    obtain ⟨hne, alphanumeric⟩ := wordlike _ _ h
    have dense : ∀ c ∈ sign ++ body, c.isBlank = false := by
      rw [List.forall_mem_append]
      refine ⟨?_, fun c hc => isBlank_of_isAlphanumeric (alphanumeric c hc)⟩
      cases hsign <;> decide
    have cut := Text.trim_append before after (fun c hc => dense c (List.mem_of_mem_head? hc))
      (fun c hc => dense c (List.mem_of_getLast? hc)) (by simp [hne])
    rw [cut, splitSign_append hsign hne alphanumeric]
    exact ⟨n, h, rfl⟩
  · rintro ⟨n, h, rfl⟩
    obtain ⟨lead, trail, whole, before, after⟩ := Text.exists_eq_trim CodePoint.isBlank text
    obtain ⟨sign, hsign, parts⟩ := exists_sign (text.trim CodePoint.isBlank)
    have made := Signed.mk before hsign h after
    rwa [← parts, ← whole] at made

/-! ### Integers -/

/-- What is left of a text without blanks around it and without its sign is no longer. -/
theorem length_splitSign_trim (text : Text) :
    (Numeral.splitSign (text.trim CodePoint.isBlank)).2.length ≤ text.length := by
  obtain ⟨lead, trail, whole, -, -⟩ := Text.exists_eq_trim CodePoint.isBlank text
  obtain ⟨sign, -, parts⟩ := exists_sign (text.trim CodePoint.isBlank)
  have outer := congrArg List.length whole
  have inner := congrArg List.length parts
  simp only [List.length_append] at outer inner
  omega

/-- An integer is read from the numeral that is left, if it is within the limits. -/
theorem integer?_eq_some_iff_numeral {format : IntegerFormat} {text : Text} {i : Int}
    (ranged : format.base = 0 ∨ 2 ≤ format.base ∧ format.base ≤ 36)
    (short : text.length ≤ maxDigits) :
    integer? format text = some i ↔
      (∃ n, (Plain format.base (Numeral.splitSign (text.trim CodePoint.isBlank)).2 n ∨
          Overmarked format.base (Numeral.splitSign (text.trim CodePoint.isBlank)).2 n) ∧
        i = Numeral.signed (Numeral.splitSign (text.trim CodePoint.isBlank)).1 n) ∧
      format.min ≤ i ∧ i ≤ format.max := by
  have fits := Nat.le_trans (length_splitSign_trim text) short
  rw [integer?]
  generalize Numeral.splitSign (text.trim CodePoint.isBlank) = word at fits ⊢
  obtain ⟨negative, body⟩ := word
  dsimp only at fits ⊢
  obtain ⟨low, high⟩ := resolveBase_ranged ranged body
  have all := all_resolveBase format.base body
  have read (alphanumeric : ∀ c ∈ body, isAlphanumeric c = true) (n : Nat) :=
    natural?_resolveBase ranged alphanumeric fits (n := n)
  generalize resolveBase format.base body = numeral at low high all read ⊢
  obtain ⟨base, digits⟩ := numeral
  by_cases alphanumeric : ∀ c ∈ body, isAlphanumeric c = true
  · rw [if_pos (by simp [all.2 alphanumeric, low, high]), Option.bind_eq_some_iff]
    constructor
    · rintro ⟨n, hn, ranged⟩
      split at ranged
      · next within =>
        cases ranged
        simp only [Bool.and_eq_true, decide_eq_true_eq] at within
        exact ⟨⟨n, (read alphanumeric n).1 hn, rfl⟩, within⟩
      · cases ranged
    · rintro ⟨⟨n, hn, rfl⟩, within⟩
      exact ⟨n, (read alphanumeric n).2 hn, if_pos (by simpa using within)⟩
  · rw [if_neg (by simp [all, alphanumeric])]
    refine ⟨fun h => (by cases h), ?_⟩
    rintro ⟨⟨n, hn | hn, -⟩, -⟩
    · exact absurd (wordlike_of_plain hn).2 alphanumeric
    · exact absurd (wordlike_of_overmarked hn).2 alphanumeric

/-- Exactly the signed numerals within the limits are read, with their values: those of the base,
and those that have one more mark of the base in front of their digits. -/
theorem integer?_eq_some_iff (format : IntegerFormat) (text : Text) (i : Int)
    (ranged : format.base = 0 ∨ 2 ≤ format.base ∧ format.base ≤ 36)
    (short : text.length ≤ 4000) :
    integer? format text = some i ↔
      (Signed (Plain format.base) text i ∨ Signed (Overmarked format.base) text i) ∧
        format.min ≤ i ∧ i ≤ format.max := by
  rw [integer?_eq_some_iff_numeral ranged (Nat.le_trans short (by decide)),
    signed_iff fun t n => wordlike_of_plain, signed_iff fun t n => wordlike_of_overmarked,
    ← exists_or]
  simp only [or_and_right]

/-- In base sixteen a second mark is read, and the numeral between blanks behind its sign. -/
theorem integer?_overmarked :
    ((16 : Int) = 0 ∨ 2 ≤ (16 : Int) ∧ (16 : Int) ≤ 36) ∧ (" -0x0x1f " : Text).length ≤ 4000 ∧
      integer? ⟨16, -31, 31⟩ " -0x0x1f " = some (-31) := by
  have two : Digits 16 ("1f" : Text) (1 * 16 + 15) :=
    .snoc (t := "1") (.one (d := 1) (by decide) (by decide)) (by decide) (by decide)
  have body : Overmarked 16 ("0x0x1f" : Text) 31 :=
    .hexadecimal (.inr rfl) (by decide) (.mk (by decide) two)
  have whole : Signed (Overmarked 16) ((" " : Text) ++ (("-" : Text) ++ "0x0x1f") ++ " ") (-31) :=
    .mk (by decide) .minus body (by decide)
  refine ⟨by decide, by decide, ?_⟩
  exact (integer?_eq_some_iff ⟨16, -31, 31⟩ " -0x0x1f " (-31) (by decide) (by decide)).2
    ⟨.inr whole, by decide, by decide⟩

/-- Not only the numerals of a base are read: behind one mark there may be another. -/
theorem not_plain_of_integer? :
    ¬ ∀ (format : IntegerFormat) (text : Text) (i : Int),
      format.base = 0 ∨ 2 ≤ format.base ∧ format.base ≤ 36 → text.length ≤ 4000 →
        (integer? format text = some i ↔
          Signed (Plain format.base) text i ∧ format.min ≤ i ∧ i ≤ format.max) := by
  intro only
  obtain ⟨n, body, -⟩ := (signed_iff fun t n => wordlike_of_plain).1
    ((only ⟨16, 0, 31⟩ "0x0x1f" 31 (by decide) (by decide)).1 (by decide)).1
  have noDigits {t : Text} (there : CodePoint.ofChar 'x' ∈ t) : ¬ Digits 16 t n := fun h =>
    absurd ((Numeral.digits_iff.1 h).2.1 _ there) (by decide)
  change Plain 16 ("0x0x1f" : Text) n at body
  cases body with
  | digits _ _ h => exact noDigits (by decide) h
  | hexadecimal _ h =>
    cases h with
    | mk _ h => exact noDigits (by decide) h
  | octal auto => cases auto
  | decimal auto => cases auto

end Typed

end VarFile
