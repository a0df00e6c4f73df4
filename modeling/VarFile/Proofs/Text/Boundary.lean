import Mathlib.Data.List.TakeWhile
import VarFile.Text.Lossless

/-!
# Reading splits at ASCII

A byte below 0x80 is no part of a longer sequence, so what stands before it and what stands after
it are read apart (`Text.ofBytes_append_cons`). `Text.reread` is what becomes of a text that is
stored and read again: the same bytes, and the same text as far as it is ASCII.
-/

namespace VarFile

namespace CodePoint

/-- ASCII is below U+0080. -/
def IsAscii (c : CodePoint) : Prop := c.val < 0x80

instance (c : CodePoint) : Decidable c.IsAscii := inferInstanceAs (Decidable (c.val < 0x80))

/-- The stored form of an ASCII code point is one byte. -/
theorem toBytes_of_isAscii {c : CodePoint} (h : c.IsAscii) : c.toBytes = [UInt8.ofNat c.val] := by
  have hlt : c.val < 0x80 := h
  have raw : ¬ c.isRawByte = true := by
    simp only [isRawByte, Bool.and_eq_true, decide_eq_true_iff]
    omega
  rw [toBytes, if_neg raw, utf8, if_pos hlt]

/-- An ASCII code point has a stored form. -/
theorem isStorable_of_isAscii {c : CodePoint} (h : c.IsAscii) : c.isStorable = true := by
  have hlt : c.val < 0x80 := h
  simp only [isStorable, isSurrogate, Bool.or_eq_true, Bool.not_eq_true', Bool.and_eq_false_iff,
    decide_eq_false_iff_not]
  omega

private theorem isStorable_ofByte {b : UInt8} (h : 0x80 ≤ b) : (ofByte b).isStorable = true := by
  have hb : 0x80 ≤ b.toNat := UInt8.le_iff_toNat_le.1 h
  have hlt := b.toNat_lt
  have raw : (ofByte b).isRawByte = true := by
    rw [isRawByte, Bool.and_eq_true, decide_eq_true_iff, decide_eq_true_iff]
    exact ⟨by simp only [ofByte]; omega, by simp only [ofByte]; omega⟩
  rw [isStorable, raw, Bool.or_true]

/-- Only an ASCII code point has an ASCII byte in its stored form. -/
theorem toBytes_eq_of_mem {c : CodePoint} {b : UInt8} (hb : b.toNat < 0x80)
    (h : b ∈ c.toBytes) : c = ofNat b.toNat := by
  have hc := c.isLt
  by_cases raw : c.isRawByte = true
  · rw [toBytes, if_pos raw, List.mem_singleton] at h
    simp only [isRawByte, Bool.and_eq_true, decide_eq_true_iff] at raw
    rw [h, UInt8.toNat_ofNat'] at hb
    omega
  · rw [toBytes, if_neg raw, utf8] at h
    apply ext
    rw [val_ofNat (by omega)]
    split at h
    · rw [List.mem_singleton.1 h, UInt8.toNat_ofNat']
      omega
    -- The bytes of a longer form are all 0x80 or more.
    · exfalso
      split at h
      · simp only [List.mem_cons, List.not_mem_nil, or_false] at h
        rcases h with rfl | rfl <;> rw [UInt8.toNat_ofNat'] at hb <;> omega
      · split at h
        · simp only [List.mem_cons, List.not_mem_nil, or_false] at h
          rcases h with rfl | rfl | rfl <;> rw [UInt8.toNat_ofNat'] at hb <;> omega
        · simp only [List.mem_cons, List.not_mem_nil, or_false] at h
          rcases h with rfl | rfl | rfl | rfl <;> rw [UInt8.toNat_ofNat'] at hb <;> omega

end CodePoint

namespace Text

/-! ### Reading one code point -/

private theorem ofBytesFrom_eq (skip : Nat) (done : Text) (bytes : Bytes) :
    ofBytesFrom skip done bytes = done.reverse ++ ofBytes (bytes.drop skip) := by
  induction bytes generalizing skip done with
  | nil => simp [ofBytesFrom, ofBytes]
  | cons b rest ih =>
    cases skip with
    | succ skip => rw [ofBytesFrom, ih, List.drop_succ_cons]
    | zero =>
      rw [List.drop_zero, ofBytes, ofBytesFrom, ofBytesFrom]
      split
      · rw [ih, ih (_ - 1) [_]]
        simp
      · rw [ih, ih 0 [_]]
        simp

/-- No bytes are the empty text. -/
@[simp]
theorem ofBytes_nil : ofBytes [] = [] := rfl

/-- A sequence is read as its code point. -/
theorem ofBytes_cons_of_some {b : UInt8} {rest : Bytes} {c : CodePoint} {n : Nat}
    (h : leading? (b :: rest) = some (c, n)) :
    ofBytes (b :: rest) = c :: ofBytes (rest.drop (n - 1)) := by
  rw [ofBytes, ofBytesFrom, h]
  simp only [ofBytesFrom_eq, List.reverse_singleton, List.singleton_append]

private theorem ofBytes_cons_of_none {b : UInt8} {rest : Bytes} (h : leading? (b :: rest) = none) :
    ofBytes (b :: rest) = .ofByte b :: ofBytes rest := by
  rw [ofBytes, ofBytesFrom, h]
  simp only [ofBytesFrom_eq, List.reverse_singleton, List.singleton_append, List.drop_zero]

/-- A text has a stored form if all its code points have one. -/
def IsStorable (t : Text) : Prop := ∀ c ∈ t, c.isStorable = true

/-- What was read has a stored form. -/
theorem isStorable_ofBytes (bytes : Bytes) : (ofBytes bytes).IsStorable := by
  induction h : bytes.length using Nat.strongRecOn generalizing bytes with
  | ind n ih =>
    cases bytes with
    | nil => simp [IsStorable]
    | cons b rest =>
      intro c hc
      cases hl : leading? (b :: rest) with
      | some found =>
        obtain ⟨d, k⟩ := found
        rw [ofBytes_cons_of_some hl, List.mem_cons] at hc
        obtain rfl | hc := hc
        · exact isStorable_of_isSequence (isSequence_leading? hl).1
        · refine ih (rest.drop (k - 1)).length ?_ _ rfl c hc
          rw [← h, List.length_drop, List.length_cons]
          omega
      | none =>
        rw [ofBytes_cons_of_none hl, List.mem_cons] at hc
        obtain rfl | hc := hc
        · exact CodePoint.isStorable_ofByte (le_of_leading?_eq_none hl)
        · exact ih rest.length (by rw [← h, List.length_cons]; omega) _ rfl c hc

/-! ### ASCII boundaries -/

private theorem isContinuation_eq_false {a : UInt8} (h : a.toNat < 0x80) :
    isContinuation a = false := by
  rw [← Bool.not_eq_true, isContinuation_iff]
  omega

private theorem leading?_append_cons {a : UInt8} (ha : a.toNat < 0x80) (b : UInt8) (xs ys : Bytes) :
    leading? (b :: (xs ++ a :: ys)) = leading? (b :: xs) := by
  have hc := isContinuation_eq_false ha
  -- At most three bytes after the lead byte are looked at.
  rcases xs with _ | ⟨x1, _ | ⟨x2, _ | ⟨x3, xs⟩⟩⟩ <;>
    rcases ys with _ | ⟨y1, _ | ⟨y2, ys⟩⟩ <;>
    simp [leading?, hc]

/-- What stands before an ASCII byte and what stands after it are read apart. -/
theorem ofBytes_append_cons {a : UInt8} (ha : a.toNat < 0x80) (xs ys : Bytes) :
    ofBytes (xs ++ a :: ys) = ofBytes xs ++ CodePoint.ofNat a.toNat :: ofBytes ys := by
  induction h : xs.length using Nat.strongRecOn generalizing xs with
  | ind n ih =>
    cases xs with
    | nil =>
      have hl : leading? (a :: ys) = some (.ofNat a.toNat, 1) := by
        simp only [leading?, if_pos (show a < 0x80 from UInt8.lt_iff_toNat_lt.2 ha)]
      rw [List.nil_append, ofBytes_cons_of_some hl, ofBytes_nil, List.nil_append, Nat.sub_self,
        List.drop_zero]
    | cons b xs =>
      rw [List.length_cons] at h
      cases hl : leading? (b :: xs) with
      | some found =>
        obtain ⟨c, k⟩ := found
        have hk := (isSequence_leading? hl).2
        have hl' := (leading?_append_cons ha b xs ys).trans hl
        rw [List.cons_append, ofBytes_cons_of_some hl', ofBytes_cons_of_some hl,
          List.drop_append_of_le_length hk,
          ih (xs.drop (k - 1)).length (by rw [List.length_drop]; omega) _ rfl, List.cons_append]
      | none =>
        have hl' := (leading?_append_cons ha b xs ys).trans hl
        rw [List.cons_append, ofBytes_cons_of_none hl', ofBytes_cons_of_none hl,
          ih xs.length (by omega) _ rfl, List.cons_append]

/-! ### Storing a text and reading it again -/

/-- Storing goes over concatenation. -/
theorem toBytes_append (s t : Text) : (s ++ t).toBytes = s.toBytes ++ t.toBytes :=
  List.flatMap_append

/-- Storing goes code point by code point. -/
theorem toBytes_cons (c : CodePoint) (t : Text) : toBytes (c :: t) = c.toBytes ++ t.toBytes :=
  List.flatMap_cons

/-- What becomes of a text that is stored and read again. -/
def reread (t : Text) : Text := ofBytes t.toBytes

/-- Reading again changes no byte. -/
@[simp]
theorem toBytes_reread (t : Text) : t.reread.toBytes = t.toBytes := toBytes_ofBytes _

/-- What was read once is read in the same way again. -/
@[simp]
theorem reread_ofBytes (bytes : Bytes) : (ofBytes bytes).reread = ofBytes bytes := by
  rw [reread, toBytes_ofBytes]

/-- What was read again has a stored form. -/
theorem isStorable_reread (t : Text) : t.reread.IsStorable := isStorable_ofBytes _

/-- The empty text is read again as it is. -/
@[simp]
theorem reread_nil : reread [] = [] := rfl

/-- What stands before an ASCII code point and what stands after it are read again apart. -/
theorem reread_append_cons {c : CodePoint} (h : c.IsAscii) (s t : Text) :
    reread (s ++ c :: t) = s.reread ++ c :: t.reread := by
  have hlt : c.val < 0x80 := h
  have hn : (UInt8.ofNat c.val).toNat = c.val := by
    rw [UInt8.toNat_ofNat']
    omega
  rw [reread, toBytes_append, toBytes_cons, CodePoint.toBytes_of_isAscii h, List.singleton_append,
    ofBytes_append_cons (by rw [hn]; exact h), hn]
  congr 2
  exact CodePoint.ext (CodePoint.val_ofNat c.isLt)

/-- ASCII at the start of a text is read again as it is. -/
theorem reread_append_of_isAscii {s : Text} (h : ∀ c ∈ s, c.IsAscii) (t : Text) :
    reread (s ++ t) = s ++ t.reread := by
  induction s with
  | nil => rfl
  | cons c s ih =>
    have hc := reread_append_cons (h c List.mem_cons_self) [] (s ++ t)
    rw [List.nil_append, reread_nil, List.nil_append] at hc
    rw [List.cons_append, hc, ih fun d hd => h d (List.mem_cons_of_mem c hd), List.cons_append]

/-- ASCII text is read again as it is. -/
theorem reread_eq_self {s : Text} (h : ∀ c ∈ s, c.IsAscii) : s.reread = s := by
  simpa using reread_append_of_isAscii h []

/-- Reading again makes no ASCII code point that was not there. -/
theorem mem_of_mem_reread {c : CodePoint} (hc : c.IsAscii) {t : Text} (h : c ∈ t.reread) :
    c ∈ t := by
  have hlt : c.val < 0x80 := hc
  have hn : (UInt8.ofNat c.val).toNat = c.val := by
    rw [UInt8.toNat_ofNat']
    omega
  have hb : UInt8.ofNat c.val ∈ t.toBytes := by
    rw [← toBytes_reread, toBytes, List.mem_flatMap]
    exact ⟨c, h, by simp [CodePoint.toBytes_of_isAscii hc]⟩
  obtain ⟨d, hd, hbd⟩ := List.mem_flatMap.1 hb
  have := CodePoint.toBytes_eq_of_mem (by rw [hn]; exact hlt) hbd
  rw [hn] at this
  rwa [this, show CodePoint.ofNat c.val = c from CodePoint.ext (CodePoint.val_ofNat c.isLt)] at hd

/-! ### Texts with a stored form -/

/-- A text with a stored form is stored as its bytes. -/
theorem encode_eq_ok {t : Text} (h : t.IsStorable) : t.encode = .ok t.toBytes := by
  have hd : t.dropWhile CodePoint.isStorable = [] := List.dropWhile_eq_nil_iff.2 h
  rw [encode, indexOfUnstorable?, hd]

/-- A text is refused exactly if one of its code points has no stored form. -/
theorem encode_eq_error_iff {t : Text} :
    (∃ cause, t.encode = .error cause) ↔ ∃ c ∈ t, c.isStorable = false := by
  constructor
  · rintro ⟨cause, h⟩
    apply Classical.byContradiction
    intro hn
    have hs : t.IsStorable := fun c hc => by
      rw [← Bool.not_eq_false]
      exact fun hf => hn ⟨c, hc, hf⟩
    rw [encode_eq_ok hs] at h
    cases h
  · rintro ⟨c, hc, hf⟩
    cases hd : t.dropWhile CodePoint.isStorable with
    | nil =>
      have := List.dropWhile_eq_nil_iff.1 hd c hc
      rw [hf] at this
      cases this
    | cons d rest => exact ⟨_, by rw [encode, indexOfUnstorable?, hd]⟩

/-- Only a text with a stored form is stored. -/
theorem isStorable_of_encode {t : Text} {bytes : Bytes} (h : t.encode = .ok bytes) :
    t.IsStorable ∧ bytes = t.toBytes := by
  have hs : t.IsStorable := fun c hc => by
    rw [← Bool.not_eq_false]
    intro hf
    obtain ⟨cause, he⟩ := encode_eq_error_iff.2 ⟨c, hc, hf⟩
    rw [h] at he
    cases he
  rw [encode_eq_ok hs, Except.ok.injEq] at h
  exact ⟨hs, h.symm⟩

end Text

end VarFile
