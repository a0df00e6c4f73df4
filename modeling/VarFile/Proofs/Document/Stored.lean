import VarFile.Proofs.Document.Lookup
import VarFile.Proofs.Document.Saved

/-!
# What is stored under a key

After an update that is accepted, its key has the stored text of the new value, or none if it was
deleted (`Document.stored?_set_some`, `Document.stored?_unset`). So an update that does not find
this stored text there changes the records, and marks the document as changed
(`Document.modified_set`). `Document.Updated` is what comes of several updates.
-/

namespace VarFile.Document

open Record (assigns)

variable {d : Document} {key : Text} {rs : List Record}

/-! ### What counts after an update -/

/-- Only the new assignment of a key is left after its value was stored. -/
theorem eq_stored_of_mem_storeText {text : Text} {r : Record} (hr : r ∈ storeText key text rs)
    (hk : r.assigns key = true) : r = stored key text := by
  rw [storeText_eq] at hr
  split at hr
  · obtain ⟨s, -, rfl⟩ := List.mem_map.1 hr
    split
    · rfl
    · next hs =>
      rw [if_neg hs] at hk
      exact absurd hk hs
  · next hn =>
    rw [List.mem_append, List.mem_singleton] at hr
    cases hr with
    | inl hr => exact absurd (List.any_eq_true.2 ⟨r, hr, hk⟩) hn
    | inr hr => exact hr

/-- The new assignment of a key is there after its value was stored. -/
theorem stored_mem_storeText (key text : Text) (rs : List Record) :
    stored key text ∈ storeText key text rs := by
  rw [storeText_eq]
  split
  · next ha =>
    obtain ⟨s, hs, hk⟩ := List.any_eq_true.1 ha
    exact List.mem_map.2 ⟨s, hs, if_pos hk⟩
  · exact List.mem_append_right rs (List.mem_singleton.2 rfl)

/-- The new assignment of a key counts after its value was stored. -/
theorem lastAssignment?_storeText (key text : Text) (rs : List Record) :
    lastAssignment? key (storeText key text rs) = some ⟨key, key, some text⟩ := by
  have there : (storeText key text rs).any (assigns key) = true :=
    List.any_eq_true.2 ⟨_, stored_mem_storeText key text rs, assigns_stored key text⟩
  cases hl : lastAssignment? key (storeText key text rs) with
  | none =>
    rw [lastAssignment?_eq_none_iff, there] at hl
    cases hl
  | some a =>
    have ⟨mem, same⟩ := mem_of_lastAssignment? hl
    have new := eq_stored_of_mem_storeText mem (beq_iff_eq.2 same)
    rw [stored, Record.assignment.injEq] at new
    rw [new]

/-- No assignment of a key has a stored text after its value was deleted. -/
theorem value_eq_none_of_mem_deleteValue {a : Assignment}
    (ha : .assignment a ∈ deleteValue key rs) (hk : a.key = key) : a.value = none := by
  rw [deleteValue_eq_map] at ha
  obtain ⟨s, -, hs⟩ := List.mem_map.1 ha
  cases s with
  | raw text => cases hs
  | assignment b =>
    rw [deleted] at hs
    split at hs
    · rw [← Record.assignment.inj hs]
    · next hb =>
      rw [← Record.assignment.inj hs] at hk
      exact absurd hk hb

/-! ### Storing and deleting -/

/-- Storing a value is accepted for a valid key and a value with a stored form only. -/
theorem set_some_eq_ok_iff {v : Text} :
    (d.set key (some v)).2 = .ok () ↔
      Key.isValid key = true ∧ ∃ text, Value.quote v = .ok text := by
  constructor
  · intro h
    obtain ⟨-, he⟩ | ⟨hk, ⟨hv, -⟩ | ⟨w, cause, -, -, he⟩ | ⟨w, text, hv, hq, -⟩⟩ :=
      set_cases d key (some v)
    · rw [he] at h
      cases h
    · cases hv
    · rw [he] at h
      cases h
    · rw [Option.some.inj hv]
      exact ⟨hk, text, hq⟩
  · rintro ⟨hk, text, hq⟩
    simp only [set, Key.check, if_pos hk, hq]

/-- Deleting a value is accepted for a valid key only. -/
theorem unset_eq_ok_iff : (d.unset key).2 = .ok () ↔ Key.isValid key = true := by
  constructor
  · intro h
    obtain ⟨-, he⟩ | ⟨hk, -⟩ := set_cases d key none
    · rw [unset, he] at h
      cases h
    · exact hk
  · intro hk
    simp only [unset, set, Key.check, if_pos hk]

/-- The records after a value was stored. -/
theorem records_set_some {v text : Text} (hk : Key.isValid key = true)
    (hq : Value.quote v = .ok text) :
    (d.set key (some v)).1.records = storeText key text (keepLast key d.records) := by
  simp only [set, Key.check, if_pos hk, hq]
  rfl

/-- The records after a value was deleted. -/
theorem records_unset (hk : Key.isValid key = true) :
    (d.unset key).1.records = deleteValue key (keepLast key d.records) := by
  simp only [unset, set, Key.check, if_pos hk]
  rfl

/-- A key has the stored text of the value that was stored for it. -/
theorem stored?_set_some {v text : Text} (hk : Key.isValid key = true)
    (hq : Value.quote v = .ok text) : (d.set key (some v)).1.stored? key = some text := by
  rw [stored?, records_set_some hk hq, lastAssignment?_storeText]
  rfl

/-- A value that was stored is found as it is read. -/
theorem value?_set_some {v t : Text} (valid : Key.isValid key = true)
    (quoted : Value.quote v = .ok t) : (d.set key (some v)).1.value? key = .ok (some v.reread) := by
  rw [value?_of_stored? valid (stored?_set_some valid quoted), Value.unquote_quote quoted]
  rfl

/-- A key has no stored text after its value was deleted. -/
theorem stored?_unset (hk : Key.isValid key = true) : (d.unset key).1.stored? key = none := by
  rw [stored?, records_unset hk, Option.bind_eq_none_iff]
  intro a ha
  have ⟨mem, same⟩ := mem_of_lastAssignment? ha
  exact value_eq_none_of_mem_deleteValue mem same

/-- An update that changes what is stored under its key marks the document as changed. -/
theorem modified_set {value : Option Text}
    (changed : (d.set key value).1.stored? key ≠ d.stored? key) :
    (d.set key value).1.modified = true := by
  cases hm : (d.set key value).1.modified with
  | true => rfl
  | false =>
    have same := (unmodified_set hm).2
    rw [stored?, stored?, same] at changed
    exact absurd rfl changed

/-- A value that is stored where another one was found marks the document as changed. -/
theorem modified_set_of_ne {v text : Text} (valid : Key.isValid key = true)
    (quoted : Value.quote v = .ok text) (canonical : v.reread = v)
    (other : (d.value? key).toOption.join ≠ some v) : (d.set key (some v)).1.modified = true := by
  apply modified_set
  rw [stored?_set_some valid quoted]
  intro same
  apply other
  rw [value?_of_stored? valid same.symm, Value.unquote_quote quoted, canonical]
  rfl

/-- A value that is stored for a key without one marks the document as changed. -/
theorem modified_set_of_not_mem {v text : Text} (valid : Key.isValid key = true)
    (quoted : Value.quote v = .ok text) (free : key ∉ d.keys) :
    (d.set key (some v)).1.modified = true := by
  apply modified_set
  rw [stored?_set_some valid quoted]
  intro same
  apply free
  rw [mem_keys_iff, ← same]
  rfl

/-- A value that is deleted marks the document as changed. -/
theorem modified_unset_of_mem (valid : Key.isValid key = true) (there : key ∈ d.keys) :
    (d.unset key).1.modified = true := by
  apply modified_set
  have gone : (d.set key none).1.stored? key = none := stored?_unset valid
  rw [gone]
  intro same
  rw [mem_keys_iff, ← same] at there
  cases there

/-- A document that was marked as changed stays so. -/
theorem modified_set_of_modified (hm : d.modified = true) (key : Text) (value : Option Text) :
    (d.set key value).1.modified = true := by
  cases h : (d.set key value).1.modified with
  | true => rfl
  | false =>
    rw [(unmodified_set h).1] at hm
    cases hm

/-! ### Several updates -/

/-- Putting back what was captured before an update gives the document back. -/
theorem restore_set (d : Document) (key : Text) (value : Option Text) :
    (d.set key value).1.restore d.checkpoint = d := by
  obtain ⟨-, h⟩ | ⟨-, ⟨-, h⟩ | ⟨_, _, -, -, h⟩ | ⟨_, _, -, -, h⟩⟩ := set_cases d key value
  · rw [h]
    rfl
  · rw [h]
    rfl
  · rw [h]
    rfl
  · rw [h]
    rfl

/-- What comes of updates of some keys, accepted or not. -/
inductive Updated (keys : Text → Bool) (d : Document) : Document → Prop
  | same : d.Updated keys d
  | set {d' : Document} (before : d.Updated keys d') {key : Text} (hk : keys key = true)
      (value : Option Text) : d.Updated keys (d'.set key value).1

namespace Updated

variable {keys : Text → Bool} {d' : Document}

/-- Putting back what was captured before the updates gives the document back. -/
theorem restore (h : d.Updated keys d') : d'.restore d.checkpoint = d := by
  induction h with
  | same => rfl
  | @set d' before key hk value ih =>
    have last := congrArg (Document.restore · d.checkpoint) (restore_set d' key value)
    exact last.trans ih

/-- What every update of one of the keys keeps is kept by all of them. -/
theorem keeps {P : List Record → Prop} (h : d.Updated keys d')
    (update : ∀ (d : Document) (key : Text) (value : Option Text), keys key = true →
      P d.records → P (d.set key value).1.records)
    (start : P d.records) : P d'.records := by
  induction h with
  | same => exact start
  | set before hk value ih => exact update _ _ value hk ih

end Updated

end VarFile.Document
