import VarFile.Proofs.Text.Boundary

/-!
# Texts of characters

The UTF-8 pattern of a character, as a code point that is no surrogate, is a well-formed sequence
(`Text.isSequence_utf8`), and a sequence is read as its code point whatever follows
(`Text.ofBytes_append_of_isSequence`). So a text without surrogates is read again as it is
(`Text.reread_eq_self_of_not_isSurrogate`).
-/

namespace VarFile.Text

private theorem toNat_ofNat {n : Nat} (h : n < 256) : (UInt8.ofNat n).toNat = n := by
  rw [UInt8.toNat_ofNat']
  omega

private theorem ofNat_val {c : CodePoint} {n : Nat} (h : n = c.val) : CodePoint.ofNat n = c := by
  rw [h]
  exact CodePoint.ext (CodePoint.val_ofNat c.isLt)

/-- The pattern of a code point that is no surrogate is a well-formed sequence. -/
theorem isSequence_utf8 {c : CodePoint} (h : c.isSurrogate = false) : IsSequence c.utf8 c := by
  have bound := c.isLt
  simp only [CodePoint.isSurrogate, Bool.and_eq_false_iff, decide_eq_false_iff_not] at h
  -- Every byte but the first carries six bits.
  have bits (n : Nat) : (UInt8.ofNat (0x80 + n % 0x40)).toNat = 0x80 + n % 0x40 :=
    toNat_ofNat (by omega)
  rw [CodePoint.utf8]
  split
  · next one =>
    have lead : (UInt8.ofNat c.val).toNat = c.val := toNat_ofNat (by omega)
    have whole : IsSequence [UInt8.ofNat c.val] _ := .one (by omega)
    rwa [ofNat_val lead] at whole
  · split
    · next two =>
      have lead : (UInt8.ofNat (0xC0 + c.val / 0x40)).toNat = 0xC0 + c.val / 0x40 :=
        toNat_ofNat (by omega)
      have first := bits c.val
      have whole : IsSequence [UInt8.ofNat (0xC0 + c.val / 0x40),
        UInt8.ofNat (0x80 + c.val % 0x40)] _ := .two (by omega) (by omega)
      rwa [ofNat_val (c := c) (by unfold continuationBits; omega)] at whole
    · split
      · next three =>
        have lead : (UInt8.ofNat (0xE0 + c.val / 0x1000)).toNat = 0xE0 + c.val / 0x1000 :=
          toNat_ofNat (by omega)
        have first := bits (c.val / 0x40)
        have second := bits c.val
        have whole : IsSequence [UInt8.ofNat (0xE0 + c.val / 0x1000),
            UInt8.ofNat (0x80 + c.val / 0x40 % 0x40), UInt8.ofNat (0x80 + c.val % 0x40)] _ :=
          .three (by omega) (by omega) (by omega) (by omega) (by omega)
        rwa [ofNat_val (c := c) (by unfold continuationBits; omega)] at whole
      · next four =>
        have lead : (UInt8.ofNat (0xF0 + c.val / 0x40000)).toNat = 0xF0 + c.val / 0x40000 :=
          toNat_ofNat (by omega)
        have first := bits (c.val / 0x1000)
        have second := bits (c.val / 0x40)
        have third := bits c.val
        have whole : IsSequence [UInt8.ofNat (0xF0 + c.val / 0x40000),
            UInt8.ofNat (0x80 + c.val / 0x1000 % 0x40), UInt8.ofNat (0x80 + c.val / 0x40 % 0x40),
            UInt8.ofNat (0x80 + c.val % 0x40)] _ :=
          .four (by omega) (by omega) (by omega) (by omega) (by omega) (by omega)
        rwa [ofNat_val (c := c) (by unfold continuationBits; omega)] at whole

private theorem leading?_of_isSequence {bytes : Bytes} {c : CodePoint} (h : IsSequence bytes c)
    (rest : Bytes) : leading? (bytes ++ rest) = some (c, bytes.length) := by
  cases h with
  | one h => simp [leading?, UInt8.lt_iff_toNat_lt, h]
  | two h h1 =>
    simp only [List.cons_append, List.nil_append, leading?, UInt8.lt_iff_toNat_lt, le_iff,
      Bool.and_eq_true, isContinuation_iff, UInt8.reduceToNat]
    rw [if_neg (by omega), if_pos h, if_pos h1]
    rfl
  | three h h1 h2 low surrogate =>
    simp only [List.cons_append, List.nil_append, leading?, UInt8.lt_iff_toNat_lt, le_iff,
      Bool.and_eq_true, isContinuation_iff, bne_or_iff, UInt8.reduceToNat]
    rw [if_neg (by omega), if_neg (by omega), if_pos h, if_pos ⟨⟨⟨h1, h2⟩, low⟩, surrogate⟩]
    rfl
  | four h h1 h2 h3 low high =>
    simp only [List.cons_append, List.nil_append, leading?, UInt8.lt_iff_toNat_lt, le_iff,
      Bool.and_eq_true, isContinuation_iff, bne_or_iff, UInt8.reduceToNat]
    rw [if_neg (by omega), if_neg (by omega), if_neg (by omega), if_pos h,
      if_pos ⟨⟨⟨⟨h1, h2⟩, h3⟩, low⟩, high⟩]
    rfl

/-- A sequence is read as its code point, whatever follows. -/
theorem ofBytes_append_of_isSequence {bytes : Bytes} {c : CodePoint} (h : IsSequence bytes c)
    (rest : Bytes) : ofBytes (bytes ++ rest) = c :: ofBytes rest := by
  have found := leading?_of_isSequence h rest
  cases bytes with
  | nil => cases h
  | cons b bytes =>
    rw [List.cons_append] at found ⊢
    rw [ofBytes_cons_of_some found, List.length_cons, Nat.add_sub_cancel, List.drop_left]

/-- A text without surrogates is read again as it is. -/
theorem reread_eq_self_of_not_isSurrogate {t : Text} (h : ∀ c ∈ t, c.isSurrogate = false) :
    t.reread = t := by
  induction t with
  | nil => rfl
  | cons c t ih =>
    obtain ⟨first, later⟩ := List.forall_mem_cons.1 h
    have raw : c.isRawByte = false := by
      simp only [CodePoint.isSurrogate, CodePoint.isRawByte, Bool.and_eq_false_iff,
        decide_eq_false_iff_not] at first ⊢
      omega
    have stored : c.toBytes = c.utf8 := by rw [CodePoint.toBytes, raw, if_neg (by simp)]
    rw [reread, toBytes_cons, stored, ofBytes_append_of_isSequence (isSequence_utf8 first)]
    exact congrArg (c :: ·) (ih later)

/-- A text without surrogates can be stored. -/
theorem isStorable_of_not_isSurrogate {t : Text} (h : ∀ c ∈ t, c.isSurrogate = false) :
    t.IsStorable := by
  rw [← reread_eq_self_of_not_isSurrogate h]
  exact isStorable_reread t

end VarFile.Text
