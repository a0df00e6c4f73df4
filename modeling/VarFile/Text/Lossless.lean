import VarFile.Text.Utf8

/-!
# Reading loses no byte

The text of some bytes is stored as these bytes again (`Text.toBytes_ofBytes`), well-formed or not:
a sequence is stored as it was, and so is a byte outside of any.
-/

namespace VarFile

namespace CodePoint

private theorem toBytes_ofByte {b : UInt8} (h : 0x80 ≤ b) : (ofByte b).toBytes = [b] := by
  have hb : 0x80 ≤ b.toNat := UInt8.le_iff_toNat_le.1 h
  have hlt := b.toNat_lt
  have raw : (ofByte b).isRawByte = true := by
    rw [isRawByte, Bool.and_eq_true, decide_eq_true_iff, decide_eq_true_iff]
    exact ⟨by simp only [ofByte]; omega, by simp only [ofByte]; omega⟩
  rw [toBytes, if_pos raw]
  simp [ofByte]

private theorem toBytes_ofNat {n : Nat} (h : n < 0xD800 ∨ 0xDFFF < n) (hn : n < 0x110000) :
    (ofNat n).toBytes = (ofNat n).utf8 := by
  have raw : ¬ (ofNat n).isRawByte = true := by
    rw [isRawByte, Bool.and_eq_true, decide_eq_true_iff, decide_eq_true_iff, val_ofNat hn]
    omega
  rw [toBytes, if_neg raw]

end CodePoint

namespace Text

private theorem ofNat_eq {b : UInt8} {n : Nat} (h : n = b.toNat) : UInt8.ofNat n = b := by
  subst h
  simp

/-- Bytes are compared by their numbers. -/
theorem le_iff {a b : UInt8} : (decide (a ≤ b)) = true ↔ a.toNat ≤ b.toNat := by
  rw [decide_eq_true_iff, UInt8.le_iff_toNat_le]

private theorem toBytes_one {b : UInt8} (h : b.toNat < 0x80) :
    (CodePoint.ofNat b.toNat).toBytes = [b] := by
  rw [CodePoint.toBytes_ofNat (by omega) (by omega)]
  simp [CodePoint.utf8, CodePoint.val_ofNat (n := b.toNat) (by omega), h]

private theorem toBytes_two {b b1 : UInt8} (h : 0xC2 ≤ b.toNat) (h' : b.toNat ≤ 0xDF)
    (h1 : 0x80 ≤ b1.toNat) (h1' : b1.toNat ≤ 0xBF) :
    (CodePoint.ofNat ((b.toNat - 0xC0) * 0x40 + continuationBits b1)).toBytes = [b, b1] := by
  unfold continuationBits
  rw [CodePoint.toBytes_ofNat (by omega) (by omega), CodePoint.utf8, CodePoint.val_ofNat (by omega),
    if_neg (by omega), if_pos (by omega), ofNat_eq (b := b) (by omega),
    ofNat_eq (b := b1) (by omega)]

private theorem toBytes_three {b b1 b2 : UInt8} (h : 0xE0 ≤ b.toNat) (h' : b.toNat ≤ 0xEF)
    (h1 : 0x80 ≤ b1.toNat) (h1' : b1.toNat ≤ 0xBF) (h2 : 0x80 ≤ b2.toNat) (h2' : b2.toNat ≤ 0xBF)
    (low : b.toNat = 0xE0 → 0xA0 ≤ b1.toNat) (surrogate : b.toNat = 0xED → b1.toNat ≤ 0x9F) :
    (CodePoint.ofNat ((b.toNat - 0xE0) * 0x1000 + continuationBits b1 * 0x40
      + continuationBits b2)).toBytes = [b, b1, b2] := by
  unfold continuationBits
  rw [CodePoint.toBytes_ofNat (by omega) (by omega), CodePoint.utf8, CodePoint.val_ofNat (by omega),
    if_neg (by omega), if_neg (by omega), if_pos (by omega), ofNat_eq (b := b) (by omega),
    ofNat_eq (b := b1) (by omega), ofNat_eq (b := b2) (by omega)]

private theorem toBytes_four {b b1 b2 b3 : UInt8} (h : 0xF0 ≤ b.toNat) (h' : b.toNat ≤ 0xF4)
    (h1 : 0x80 ≤ b1.toNat) (h1' : b1.toNat ≤ 0xBF) (h2 : 0x80 ≤ b2.toNat) (h2' : b2.toNat ≤ 0xBF)
    (h3 : 0x80 ≤ b3.toNat) (h3' : b3.toNat ≤ 0xBF)
    (low : b.toNat = 0xF0 → 0x90 ≤ b1.toNat) (high : b.toNat = 0xF4 → b1.toNat ≤ 0x8F) :
    (CodePoint.ofNat ((b.toNat - 0xF0) * 0x40000 + continuationBits b1 * 0x1000
      + continuationBits b2 * 0x40 + continuationBits b3)).toBytes = [b, b1, b2, b3] := by
  unfold continuationBits
  rw [CodePoint.toBytes_ofNat (by omega) (by omega), CodePoint.utf8, CodePoint.val_ofNat (by omega),
    if_neg (by omega), if_neg (by omega), if_neg (by omega), ofNat_eq (b := b) (by omega),
    ofNat_eq (b := b1) (by omega), ofNat_eq (b := b2) (by omega), ofNat_eq (b := b3) (by omega)]

/-- The numbers of continuation bytes. -/
theorem isContinuation_iff {b : UInt8} :
    isContinuation b = true ↔ 0x80 ≤ b.toNat ∧ b.toNat ≤ 0xBF := by
  simp only [isContinuation, Bool.and_eq_true, le_iff, UInt8.reduceToNat]

/-- A condition on one value of a byte. -/
theorem bne_or_iff {a k : UInt8} {p : Bool} :
    (a != k || p) = true ↔ (a.toNat = k.toNat → p = true) := by
  rw [Bool.or_eq_true, bne_iff_ne, ne_eq, ← UInt8.toNat_inj]
  exact Decidable.imp_iff_not_or.symm

/-- The well-formed sequences: one byte below 0x80, or a lead byte and the continuation bytes that
its range asks for, without overlong forms, surrogates and numbers past U+10FFFF. -/
inductive IsSequence : Bytes → CodePoint → Prop where
  | one {b : UInt8} (h : b.toNat < 0x80) : IsSequence [b] (.ofNat b.toNat)
  | two {b b1 : UInt8} (h : 0xC2 ≤ b.toNat ∧ b.toNat ≤ 0xDF)
      (h1 : 0x80 ≤ b1.toNat ∧ b1.toNat ≤ 0xBF) :
      IsSequence [b, b1] (.ofNat ((b.toNat - 0xC0) * 0x40 + continuationBits b1))
  | three {b b1 b2 : UInt8} (h : 0xE0 ≤ b.toNat ∧ b.toNat ≤ 0xEF)
      (h1 : 0x80 ≤ b1.toNat ∧ b1.toNat ≤ 0xBF) (h2 : 0x80 ≤ b2.toNat ∧ b2.toNat ≤ 0xBF)
      (low : b.toNat = 0xE0 → 0xA0 ≤ b1.toNat) (surrogate : b.toNat = 0xED → b1.toNat ≤ 0x9F) :
      IsSequence [b, b1, b2] (.ofNat ((b.toNat - 0xE0) * 0x1000 + continuationBits b1 * 0x40
        + continuationBits b2))
  | four {b b1 b2 b3 : UInt8} (h : 0xF0 ≤ b.toNat ∧ b.toNat ≤ 0xF4)
      (h1 : 0x80 ≤ b1.toNat ∧ b1.toNat ≤ 0xBF) (h2 : 0x80 ≤ b2.toNat ∧ b2.toNat ≤ 0xBF)
      (h3 : 0x80 ≤ b3.toNat ∧ b3.toNat ≤ 0xBF)
      (low : b.toNat = 0xF0 → 0x90 ≤ b1.toNat) (high : b.toNat = 0xF4 → b1.toNat ≤ 0x8F) :
      IsSequence [b, b1, b2, b3] (.ofNat ((b.toNat - 0xF0) * 0x40000
        + continuationBits b1 * 0x1000 + continuationBits b2 * 0x40 + continuationBits b3))

/-- What is found at the start of some bytes is a well-formed sequence, and they hold all of it. -/
theorem isSequence_leading? {b : UInt8} {rest : Bytes} {c : CodePoint} {n : Nat}
    (h : leading? (b :: rest) = some (c, n)) :
    IsSequence (b :: rest.take (n - 1)) c ∧ n - 1 ≤ rest.length := by
  simp only [leading?] at h
  split at h
  · next h1 =>
    cases h
    exact ⟨.one (UInt8.lt_iff_toNat_lt.1 h1), Nat.zero_le _⟩
  · split at h
    · next h2 =>
      simp only [Bool.and_eq_true, le_iff, UInt8.reduceToNat] at h2
      split at h
      · split at h
        · next hc =>
          simp only [Option.some.injEq, Prod.mk.injEq] at h
          obtain ⟨rfl, rfl⟩ := h
          rw [isContinuation_iff] at hc
          exact ⟨.two h2 hc, by simp⟩
        · cases h
      · cases h
    · split at h
      · next h2 =>
        simp only [Bool.and_eq_true, le_iff, UInt8.reduceToNat] at h2
        split at h
        · split at h
          · next hc =>
            simp only [Option.some.injEq, Prod.mk.injEq] at h
            obtain ⟨rfl, rfl⟩ := h
            simp only [Bool.and_eq_true, isContinuation_iff, bne_or_iff, le_iff,
              UInt8.reduceToNat] at hc
            obtain ⟨⟨⟨hc1, hc2⟩, low⟩, surrogate⟩ := hc
            exact ⟨.three h2 hc1 hc2 low surrogate, by simp⟩
          · cases h
        · cases h
      · split at h
        · next h2 =>
          simp only [Bool.and_eq_true, le_iff, UInt8.reduceToNat] at h2
          split at h
          · split at h
            · next hc =>
              simp only [Option.some.injEq, Prod.mk.injEq] at h
              obtain ⟨rfl, rfl⟩ := h
              simp only [Bool.and_eq_true, isContinuation_iff, bne_or_iff, le_iff,
                UInt8.reduceToNat] at hc
              obtain ⟨⟨⟨⟨hc1, hc2⟩, hc3⟩, low⟩, high⟩ := hc
              exact ⟨.four h2 hc1 hc2 hc3 low high, by simp⟩
            · cases h
          · cases h
        · cases h

/-- The code point of a sequence is stored as the bytes of the sequence. -/
theorem toBytes_of_isSequence {bytes : Bytes} {c : CodePoint} (h : IsSequence bytes c) :
    c.toBytes = bytes := by
  cases h with
  | one h => exact toBytes_one h
  | two h h1 => exact toBytes_two h.1 h.2 h1.1 h1.2
  | three h h1 h2 low surrogate =>
    exact toBytes_three h.1 h.2 h1.1 h1.2 h2.1 h2.2 low surrogate
  | four h h1 h2 h3 low high =>
    exact toBytes_four h.1 h.2 h1.1 h1.2 h2.1 h2.2 h3.1 h3.2 low high

/-- A sequence encodes no surrogate. -/
theorem isStorable_of_isSequence {bytes : Bytes} {c : CodePoint} (h : IsSequence bytes c) :
    c.isStorable = true := by
  have storable {n : Nat} (h : n < 0xD800 ∨ 0xDFFF < n) (hn : n < 0x110000) :
      (CodePoint.ofNat n).isStorable = true := by
    simp only [CodePoint.isStorable, CodePoint.isSurrogate, CodePoint.val_ofNat hn,
      Bool.or_eq_true, Bool.not_eq_true', Bool.and_eq_false_iff, decide_eq_false_iff_not]
    omega
  cases h with
  | one h => exact storable (by omega) (by omega)
  | two h h1 =>
    unfold continuationBits
    exact storable (by omega) (by omega)
  | three h h1 h2 low surrogate =>
    unfold continuationBits
    exact storable (by omega) (by omega)
  | four h h1 h2 h3 low high =>
    unfold continuationBits
    exact storable (by omega) (by omega)

/-- Every byte below 0x80 starts a sequence. -/
theorem le_of_leading?_eq_none {b : UInt8} {rest : Bytes} (h : leading? (b :: rest) = none) :
    0x80 ≤ b := by
  refine UInt8.not_lt.1 fun low => ?_
  simp [leading?, low] at h

/-- What is read after some bytes are skipped is stored as the bytes that were not skipped. -/
theorem toBytes_ofBytesFrom (skip : Nat) (done : Text) (bytes : Bytes) :
    (ofBytesFrom skip done bytes).toBytes = Text.toBytes done.reverse ++ bytes.drop skip := by
  induction bytes generalizing skip done with
  | nil => simp [ofBytesFrom]
  | cons b rest ih =>
    cases skip with
    | succ skip => rw [ofBytesFrom, ih, List.drop_succ_cons]
    | zero =>
      rw [ofBytesFrom]
      split
      · next c n h =>
        rw [ih]
        simp [toBytes, toBytes_of_isSequence (isSequence_leading? h).1]
      · next h =>
        rw [ih]
        simp [toBytes, CodePoint.toBytes_ofByte (le_of_leading?_eq_none h)]

/-- Reading bytes loses none of them: storing the text gives the bytes again. -/
theorem toBytes_ofBytes (bytes : Bytes) : (ofBytes bytes).toBytes = bytes := by
  rw [ofBytes, toBytes_ofBytesFrom]
  rfl

end Text

end VarFile
