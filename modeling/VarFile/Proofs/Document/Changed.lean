import VarFile.Proofs.Document.Refused
import VarFile.Proofs.Document.Stored

/-!
# What an update changes

An update of one key leaves what is stored under all others as it was
(`Document.stored?_set_of_ne`), and it marks the document as changed exactly if it changes a record
(`Document.modified_set_iff`).
-/

namespace VarFile.Document

open Record (assigns)

variable {d : Document} {key other : Text} {rs : List Record} {value : Option Text}

/-! ### Other keys -/

private theorem lastAssignment?_filter (key : Text) (rs : List Record) :
    lastAssignment? key (rs.filter (assigns key)) = lastAssignment? key rs := by
  induction rs with
  | nil => rfl
  | cons r rs ih =>
    cases r with
    | raw text => exact ih
    | assignment a =>
      rw [lastAssignment?_cons_assignment, List.filter_cons]
      split
      · rw [lastAssignment?_cons_assignment, ih]
      · next unequal =>
        have foreign : ¬ a.key = key := by simpa [assigns] using unequal
        rw [if_neg foreign, Option.or_none, ih]

/-- Documents with the same assignments of a key have the same stored text of it. -/
theorem stored?_of_filter {d' : Document}
    (same : d'.records.filter (assigns key) = d.records.filter (assigns key)) :
    d'.stored? key = d.stored? key := by
  rw [stored?, stored?, ← lastAssignment?_filter, same, lastAssignment?_filter]

/-- An update leaves what is stored under other keys as it was. -/
theorem stored?_set_of_ne (d : Document) (hne : other ≠ key) (value : Option Text) :
    (d.set key value).1.stored? other = d.stored? other :=
  stored?_of_filter (filter_set (fun _ hr => Record.assigns_eq_false_of_ne hne hr) d value)

/-! ### Changes of the records -/

/-- After an update of a valid key there is one assignment of it at most. -/
theorem countP_set (d : Document) (valid : Key.isValid key = true) (value : Option Text) :
    (d.set key value).1.records.countP (assigns key) ≤ 1 := by
  have last : (keepLast key d.records).countP (assigns key) ≤ 1 := by
    rw [countP_keepLast]
    split <;> omega
  obtain ⟨invalid, -⟩ | ⟨-, ⟨-, h⟩ | ⟨_, _, -, -, h⟩ | ⟨_, text, -, -, h⟩⟩ := set_cases d key value
  · rw [valid] at invalid
    cases invalid
  · have records : (d.set key value).1.records = deleteValue key (keepLast key d.records) := by
      rw [h]
      rfl
    rw [records, deleteValue_eq_map, List.countP_map]
    refine Nat.le_trans (Nat.le_of_eq (List.countP_congr fun r _ => ?_)) last
    rw [Function.comp_apply, assigns_deleted]
  · rw [h]
    exact last
  · have records : (d.set key value).1.records = storeText key text (keepLast key d.records) := by
      rw [h]
      rfl
    rw [records, storeText_eq]
    split
    · rw [List.countP_map]
      refine Nat.le_trans (Nat.le_of_eq (List.countP_congr fun r _ => ?_)) last
      rw [Function.comp_apply]
      split
      · next hr => rw [assigns_stored, hr]
      · rfl
    · next none =>
      have few : (keepLast key d.records).countP (assigns key) = 0 := by
        rw [countP_keepLast, if_neg]
        rwa [any_keepLast] at none
      rw [List.countP_append, few, List.countP_singleton, assigns_stored]
      exact Nat.le_refl 1

/-- An update marks a document as changed exactly if it changes a record, or it was marked. -/
theorem modified_set_iff :
    (d.set key value).1.modified = true ↔
      d.modified = true ∨ (d.set key value).1.records ≠ d.records := by
  constructor
  · intro h
    by_cases same : (d.set key value).1.records = d.records
    · left
      -- Nothing was dropped, so neither step changed a record.
      have kept (valid : Key.isValid key = true) : keepLast key d.records = d.records :=
        keepLast_eq_self_iff.2 (same ▸ countP_set d valid value)
      obtain ⟨-, he⟩ | ⟨valid, ⟨-, he⟩ | ⟨_, _, -, -, he⟩ | ⟨_, _, -, -, he⟩⟩ :=
        set_cases d key value
      · rwa [he] at h
      · rw [he] at h same
        simp only [replaceRecords, kept valid] at h same
        simpa [same] using h
      · rw [he] at h
        simpa [replaceRecords, kept valid] using h
      · rw [he] at h same
        simp only [replaceRecords, kept valid] at h same
        simpa [same] using h
    · exact .inr same
  · rintro (before | changed)
    · exact modified_set_of_modified before key value
    · cases hm : (d.set key value).1.modified with
      | true => rfl
      | false => exact absurd (unmodified_set hm).2 changed

end VarFile.Document
