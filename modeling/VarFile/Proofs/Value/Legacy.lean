import VarFile.Proofs.Value.Words

/-!
# The legacy form is what older writers wrote

`Value.legacy` is how older writers quoted some bytes. A text has the legacy form exactly if one of
them wrote it, and it then stands for the bytes that were written (`Value.legacy_exact`).
-/

namespace VarFile.Value

/-! ### The older writers -/

/-- The bytes that older writers put a backslash before. -/
def legacyProtected : Bytes := [doubleQuote, backslash, singleQuote, dollar, backquote, tilde]

/-- A byte as older writers wrote it. -/
def legacyByte (b : UInt8) : Bytes := if b ∈ legacyProtected then [backslash, b] else [b]

/-- Bytes as older writers quoted them. -/
def legacy (bytes : Bytes) : Bytes := doubleQuote :: bytes.flatMap legacyByte ++ [doubleQuote]

/-! ### The form -/

private theorem neededLegacyBackslash_iff {b : UInt8} :
    neededLegacyBackslash b = true ↔ b ∈ legacyProtected := by
  simp only [neededLegacyBackslash, needsBackslash, legacyProtected, Bool.or_eq_true, beq_iff_eq,
    List.mem_cons, List.not_mem_nil, or_false]
  grind

private theorem isLegacyBody_legacyByte (b : UInt8) (rest : Bytes) :
    isLegacyBody (legacyByte b ++ rest) = isLegacyBody rest := by
  unfold legacyByte
  split
  · next h =>
    rw [List.cons_append, List.singleton_append, isLegacyBody, if_neg (by decide), if_pos rfl,
      neededLegacyBackslash_iff.2 h, Bool.true_and]
  · next h =>
    have slash : b ≠ backslash := fun same => h (same ▸ by decide)
    have quote : b ≠ doubleQuote := fun same => h (same ▸ by decide)
    rw [← neededLegacyBackslash_iff, Bool.not_eq_true] at h
    rw [List.singleton_append, isLegacyBody.eq_def]
    simp only [if_neg quote, if_neg slash, h, Bool.not_false, Bool.true_and]

/-- What follows the opening double quote in the legacy form is what older writers put there. -/
theorem isLegacyBody_iff {body : Bytes} :
    isLegacyBody body = true ↔
      ∃ bytes : Bytes, body = bytes.flatMap legacyByte ++ [doubleQuote] := by
  constructor
  · intro h
    fun_induction isLegacyBody body with
    | case1 => cases h
    | case2 rest =>
      rw [List.isEmpty_iff] at h
      exact ⟨[], by rw [h]; rfl⟩
    | case3 => cases h
    | case4 e rest _ ih =>
      rw [Bool.and_eq_true] at h
      obtain ⟨bytes, rfl⟩ := ih h.2
      refine ⟨e :: bytes, ?_⟩
      rw [List.flatMap_cons, legacyByte, if_pos (neededLegacyBackslash_iff.1 h.1)]
      rfl
    | case5 b rest _ _ ih =>
      rw [Bool.and_eq_true, Bool.not_eq_true', ← Bool.not_eq_true,
        neededLegacyBackslash_iff] at h
      obtain ⟨bytes, rfl⟩ := ih h.2
      refine ⟨b :: bytes, ?_⟩
      rw [List.flatMap_cons, legacyByte, if_neg h.1]
      rfl
  · rintro ⟨bytes, rfl⟩
    induction bytes with
    | nil => rfl
    | cons b bytes ih => rwa [List.flatMap_cons, List.append_assoc, isLegacyBody_legacyByte]

/-- Bytes have the legacy form if older writers wrote them. -/
theorem isLegacyForm_iff {form : Bytes} :
    isLegacyForm form = true ↔ ∃ bytes, form = legacy bytes := by
  cases form with
  | nil => exact ⟨nofun, fun ⟨_, h⟩ => nomatch h⟩
  | cons b body =>
    rw [isLegacyForm, Bool.and_eq_true, beq_iff_eq, isLegacyBody_iff]
    constructor
    · rintro ⟨rfl, bytes, rfl⟩
      exact ⟨bytes, rfl⟩
    · rintro ⟨bytes, h⟩
      rw [legacy, List.cons_append, List.cons.injEq] at h
      exact ⟨h.1, bytes, h.2⟩

/-! ### The value -/

private theorem doubleRun_legacy (bytes : Bytes) :
    DoubleRun true (bytes.flatMap legacyByte) bytes := by
  induction bytes with
  | nil => exact .nil
  | cons b bytes ih =>
    rw [List.flatMap_cons, legacyByte]
    split
    · next h =>
      have unprotected : Unprotected true b := by
        rw [unprotected_iff, neededLegacyBackslash_iff.2 h, Bool.true_and, Bool.or_true]
      have run := DoubleRun.escaped (b := b) ih
      rwa [if_pos unprotected] at run
    · next h =>
      have special : [dollar, backquote, doubleQuote, backslash] ⊆ legacyProtected := by decide
      exact .plain (fun hb => h (special hb)) ih

/-- What older writers wrote stands for the bytes that they were given. -/
theorem denotes_legacy (bytes : Bytes) : Denotes (legacy bytes) bytes := by
  refine ⟨legacy bytes, [], (List.append_nil _).symm, ?_, .nil⟩
  rw [isLegacyForm_iff.2 ⟨bytes, rfl⟩]
  have word := Word.double (doubleRun_legacy bytes) .nil
  rwa [List.append_nil] at word

/-- A text that can be stored has the legacy form exactly if older writers wrote it, and what they
wrote is read as what they were given. -/
theorem legacy_exact :
    (∀ text form, text.encode = .ok form →
      ∃ found, isLegacyText text = .ok found ∧ (found = true ↔ ∃ bytes, form = legacy bytes)) ∧
    ∀ bytes, unquote (Text.ofBytes (legacy bytes)) = .ok (Text.ofBytes bytes) := by
  constructor
  · intro text form stored
    exact ⟨isLegacyForm form, by rw [isLegacyText, stored]; rfl, isLegacyForm_iff⟩
  · intro bytes
    obtain ⟨segments, parsed, denoted⟩ := exists_parse_iff.2 (denotes_legacy bytes)
    rw [unquote_eq (Text.isStorable_ofBytes _), Text.toBytes_ofBytes, parsed, Except.map, denoted]

/-- A dollar sign and a tilde that an older writer protected. -/
theorem legacy_exact_protected :
    let bytes : Bytes := ("a$b~" : Text).toBytes
    let text : Text := "\"a\\$b\\~\""
    text.encode = .ok (legacy bytes) ∧ isLegacyText text = .ok true ∧
      unquote text = .ok "a$b~" := by
  intro bytes text
  have stored : text.encode = .ok (legacy bytes) := by decide +kernel
  have read : Text.ofBytes (legacy bytes) = text := by decide +kernel
  have given : Text.ofBytes bytes = "a$b~" := by decide +kernel
  obtain ⟨found, ran, written⟩ := legacy_exact.1 text _ stored
  have value := legacy_exact.2 bytes
  rw [written.2 ⟨bytes, rfl⟩] at ran
  rw [read, given] at value
  exact ⟨stored, ran, value⟩

end VarFile.Value
