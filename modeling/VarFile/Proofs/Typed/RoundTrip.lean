import VarFile.Proofs.Document.Stored
import VarFile.Proofs.Rendering.Carried
import VarFile.Proofs.Typed.Integer

/-!
# Typed values in a document

An integer is stored in decimal, which is read back within any limits, also if the numeral has to
tell its base (`Typed.integer?_ofInt`). What is stored as an integer or as a truth value is found
again as such, in the document itself and in the one that is read from what is written
(`History.typed_roundTrip`).
-/

namespace VarFile

/-! ### Stored values as texts -/

namespace Typed

open Numeral (isAlphanumeric maxDigits)

variable {base min max n : Int} {text : Text}

/-- A numeral has one value. -/
theorem numeral_unique {t : Text} {m k : Nat} (ranged : base = 0 ∨ 2 ≤ base ∧ base ≤ 36)
    (short : t.length ≤ maxDigits) (hm : Plain base t m)
    (hk : Plain base t k ∨ Overmarked base t k) : m = k := by
  have read {i : Nat} := natural?_resolveBase ranged (wordlike_of_plain hm).2 short (n := i)
  exact Option.some.inj ((read.2 (.inl hm)).symm.trans (read.2 hk))

/-- A signed numeral is read as its value if that is within the limits. -/
theorem integer?_of_signed (ranged : base = 0 ∨ 2 ≤ base ∧ base ≤ 36)
    (short : text.length ≤ maxDigits) (h : Signed (Plain base) text n) :
    integer? ⟨base, min, max⟩ text = if min ≤ n ∧ n ≤ max then some n else none := by
  have read {i : Int} : integer? ⟨base, min, max⟩ text = some i ↔ _ :=
    integer?_eq_some_iff_numeral ranged short
  have fits := Nat.le_trans (length_splitSign_trim text) short
  obtain ⟨m, body, rfl⟩ := (signed_iff fun t n => wordlike_of_plain).1 h
  split
  · next within => exact read.2 ⟨⟨m, .inl body, rfl⟩, within⟩
  · next out =>
    rw [Option.eq_none_iff_forall_ne_some]
    intro i hi
    obtain ⟨⟨k, other, rfl⟩, within⟩ := read.1 hi
    rw [numeral_unique ranged fits body other] at out
    exact out within

private theorem plain_ofNat (decimal : base = 10 ∨ base = 0) (m : Nat) :
    Plain base (Text.ofNat 10 m) m := by
  obtain rfl | rfl := decimal
  · exact .digits (by decide) (by decide) (Numeral.digits_ofNat m)
  · by_cases zero : m = 0
    · subst zero
      exact .zero rfl
    · exact .decimal rfl (Numeral.digits_ofNat m) (Numeral.head?_ofNat zero)

/-- The text of an integer is a signed numeral of it. -/
theorem signed_ofInt (decimal : base = 10 ∨ base = 0) (n : Int) :
    Signed (Plain base) (Text.ofInt 10 n) n := by
  cases n with
  | ofNat m =>
    have made : Signed (Plain base) ([] ++ ([] ++ Text.ofNat 10 m) ++ [])
        (Numeral.signed false m) :=
      .mk (List.forall_mem_nil _) .none (plain_ofNat decimal m) (List.forall_mem_nil _)
    rwa [List.append_nil] at made
  | negSucc m =>
    have made : Signed (Plain base) ([] ++ ([CodePoint.ofChar '-'] ++ Text.ofNat 10 (m + 1)) ++ [])
        (Numeral.signed true (m + 1)) :=
      .mk (List.forall_mem_nil _) .minus (plain_ofNat decimal (m + 1)) (List.forall_mem_nil _)
    rwa [List.append_nil] at made

private theorem length_ofInt (n : Int) :
    (Text.ofInt 10 n).length ≤ (Text.ofNat 10 n.natAbs).length + 1 := by
  cases n with
  | ofNat m => exact Nat.le_succ _
  | negSucc m => exact Nat.le_refl _

/-- An integer that is stored in decimal is read back within its limits, in base ten as well as
when the numeral has to tell its base. -/
theorem integer?_ofInt (decimal : base = 10 ∨ base = 0)
    (short : (Text.ofNat 10 n.natAbs).length < maxDigits) :
    integer? ⟨base, min, max⟩ (Text.ofInt 10 n) = if min ≤ n ∧ n ≤ max then some n else none :=
  integer?_of_signed (by omega) (Nat.le_trans (length_ofInt n) short) (signed_ofInt decimal n)

/-- A truth value is read back from its word. -/
theorem boolean?_ofBoolean (b : Bool) : boolean? (ofBoolean b) = some b := by
  cases b <;> rfl

private theorem isAscii_of_isAlphanumeric {c : CodePoint} (h : isAlphanumeric c = true) :
    c.IsAscii := by
  rw [isAlphanumeric, Numeral.digit?] at h
  rw [CodePoint.IsAscii]
  by_contra wide
  rw [if_neg (by omega), if_neg (by omega), if_neg (by omega)] at h
  cases h

private theorem isAscii_ofInt (n : Int) : ∀ c ∈ Text.ofInt 10 n, c.IsAscii := by
  have digits (m : Nat) : ∀ c ∈ Text.ofNat 10 m, c.IsAscii := fun c hc =>
    isAscii_of_isAlphanumeric (wordlike_of_digits (Numeral.digits_ofNat m) c hc)
  cases n with
  | ofNat m => exact digits m
  | negSucc m => exact List.forall_mem_cons.2 ⟨by decide, digits (m + 1)⟩

private theorem isAscii_ofBoolean (b : Bool) : ∀ c ∈ ofBoolean b, c.IsAscii := by
  cases b <;> decide

end Typed

/-! ### Typed values of a document -/

namespace Document

variable {d : Document} {key : Text}

/-- An update is accepted, and what is asked for holds of the document that it leaves and of any
that is read from the content of that one. -/
def Lasts (update : Document × Except UpdateError Unit) (asked : Document → Prop) : Prop :=
  update.2 = .ok () ∧ asked update.1 ∧
    ∃ payload, update.1.content = .ok payload ∧ ∀ path, asked (ofContent path payload)

/-- What lasts lasts with all that follows from it. -/
theorem Lasts.imp {update : Document × Except UpdateError Unit} {asked more : Document → Prop}
    (h : Lasts update asked) (follows : ∀ e, asked e → more e) : Lasts update more := by
  obtain ⟨accepted, now, payload, stored, later⟩ := h
  exact ⟨accepted, follows _ now, payload, stored, fun path => follows _ (later path)⟩

/-- An ASCII value that is stored lasts. -/
theorem lasts_set_some (well : WellFormed d.records) (valid : Key.isValid key = true) {v : Text}
    (ascii : ∀ c ∈ v, c.IsAscii) :
    Lasts (d.set key (some v)) fun e => e.value? key = .ok (some v) := by
  obtain ⟨text, quoted⟩ :=
    Value.exists_quote fun c hc => CodePoint.isStorable_of_isAscii (ascii c hc)
  have found := value?_set_some (d := d) valid quoted
  rw [Text.reread_eq_self ascii] at found
  have well' := wellFormed_set well key (some v)
  have stored := content_eq_ok well'.wf
  exact ⟨set_some_eq_ok_iff.2 ⟨valid, text, quoted⟩, found, _, stored, fun path =>
    (carries_ofContent well' stored path).value key v found⟩

/-- A key has an integer. It is found within any limits that it is in, in base ten and when its
numeral has to tell the base; else the fallback is. The standard limits are those of 64 bits. -/
structure HasInteger (d : Document) (key : Text) (n : Int) : Prop where
  within : ∀ base min max fallback : Int, base = 10 ∨ base = 0 →
    d.integer key ⟨base, min, max⟩ fallback =
      .ok (if min ≤ n ∧ n ≤ max then (n, true) else (fallback, false))
  standard : ∀ fallback : Int, d.integer key .standard fallback =
    .ok (if -9223372036854775808 ≤ n ∧ n ≤ 9223372036854775807 then (n, true)
      else (fallback, false))

private theorem hasInteger_of_value? {n : Int} (short : (Text.ofNat 10 n.natAbs).length ≤ 4000)
    (found : d.value? key = .ok (some (Text.ofInt 10 n))) : d.HasInteger key n := by
  have within (base min max fallback : Int) (decimal : base = 10 ∨ base = 0) :
      d.integer key ⟨base, min, max⟩ fallback =
        .ok (if min ≤ n ∧ n ≤ max then (n, true) else (fallback, false)) := by
    have read : Typed.integer? ⟨base, min, max⟩ (Text.ofInt 10 n) = _ :=
      Typed.integer?_ofInt decimal (Nat.lt_of_le_of_lt short (by decide))
    rw [integer, found, Except.map, Option.bind_some, read]
    by_cases inside : min ≤ n ∧ n ≤ max
    · rw [if_pos inside, if_pos inside]
    · rw [if_neg inside, if_neg inside]
  exact ⟨within, fun fallback => within _ _ _ fallback (.inl rfl)⟩

private theorem boolean_of_value? {b : Bool} (found : d.value? key = .ok (some (Typed.ofBoolean b)))
    (fallback : Bool) : d.boolean key fallback = .ok b := by
  rw [boolean, found, Except.map, Option.bind_some, Typed.boolean?_ofBoolean, Option.getD_some]

end Document

/-- Integers and truth values that are stored under a valid key are found again, in the document
and in what is read from the lines that are written of it. -/
theorem History.typed_roundTrip (fileName : Text) (bytes : Bytes) (operations : List Operation)
    (key : Text) (valid : Key.isValid key = true) :
    let d := ((History.load fileName bytes).run operations).document
    (∀ n : Int, (Text.ofNat 10 n.natAbs).length ≤ 4000 →
        Document.Lasts (d.setInteger key n) fun e => e.HasInteger key n) ∧
      ∀ b : Bool, Document.Lasts (d.setBoolean key b) fun e =>
        ∀ fallback, e.boolean key fallback = .ok b := by
  intro d
  have well : Document.WellFormed d.records := (wellFormed_run fileName bytes operations).1
  constructor
  · intro n short
    exact (Document.lasts_set_some well valid (Typed.isAscii_ofInt n)).imp fun e found =>
      Document.hasInteger_of_value? short found
  · intro b
    exact (Document.lasts_set_some well valid (Typed.isAscii_ofBoolean b)).imp fun e found =>
      Document.boolean_of_value? found

/-- A negative integer takes the place of a value that cannot be read, and one that is out of
range leaves the fallback. -/
theorem History.typed_roundTrip_duplicate :
    let d := ((History.load "f" ("A=\"x\nA=1\n" : Text).toBytes).run [.checkpoint]).document
    Key.isValid "A" = true ∧ (Text.ofNat 10 12).length ≤ 4000 ∧
      Document.Lasts (d.setInteger "A" (-12)) (fun e =>
        e.integer "A" ⟨0, -20, 20⟩ 5 = .ok (-12, true) ∧
          e.integer "A" ⟨0, 0, 20⟩ 5 = .ok (5, false)) ∧
      Document.Lasts (d.setBoolean "A" false) fun e => e.boolean "A" true = .ok false := by
  intro d
  obtain ⟨integers, flags⟩ := History.typed_roundTrip "f" ("A=\"x\nA=1\n" : Text).toBytes
    [.checkpoint] "A" (by decide)
  refine ⟨by decide, by decide, ?_, (flags false).imp fun e found => found true⟩
  exact (integers (-12) (by decide)).imp fun e found =>
    ⟨found.within 0 (-20) 20 5 (.inr rfl), found.within 0 0 20 5 (.inr rfl)⟩

end VarFile
