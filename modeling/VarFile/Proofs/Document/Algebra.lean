import VarFile.Proofs.Document.Revision
import VarFile.Proofs.Rendering.Carried

/-!
# Updates one after another

What comes of two updates that are accepted (`Document.set_algebra`): of one key, the second one
counts, and has nothing left to do if it is the first one again; of two keys, they can change places
unless both add a line. Storing the value that was read changes no value.
-/

namespace VarFile.Document

open Record (assigns)

variable {d : Document} {key other : Text} {value value' text text' : Option Text}
  {rs : List Record}

/-! ### One key -/

private theorem rendered_set_set (valid : Key.isValid key = true) (h : StoredAs value text)
    (h' : StoredAs value' text') :
    ((d.set key value).1.set key value').1.rendered = (d.set key value').1.rendered := by
  rw [set_eq_revise valid h, set_eq_revise valid h', set_eq_revise valid h']
  exact rendered_revise_revise key text text' d.records

/-- An update that is repeated changes nothing. -/
theorem set_set_self (valid : Key.isValid key = true) (h : StoredAs value text) :
    (d.set key value).1.set key value = ((d.set key value).1, .ok ()) := by
  rw [set_eq_revise valid h, set_eq_revise valid h]
  simp [replaceRecords, revise_revise_self]

/-! ### Two keys -/

private theorem changed_eq (f g : List Record → List Record) (rs : List Record) :
    (f rs != rs || g (f rs) != f rs) = !(f rs == rs && g rs == rs) := by
  by_cases h : f rs = rs
  · simp [h, bne]
  · simp [bne, beq_eq_false_iff_ne.2 h]

private theorem modified_replaceRecords_comm (d : Document) (f g : List Record → List Record) :
    ((d.replaceRecords (f d.records)).replaceRecords (g (f d.records))).modified =
      ((d.replaceRecords (g d.records)).replaceRecords (f (g d.records))).modified := by
  simp only [replaceRecords]
  rw [Bool.or_assoc, Bool.or_assoc, changed_eq, changed_eq, Bool.and_comm]

/-- Updates of two keys leave the same, up to the order of the records. -/
theorem set_set_eq (hk : Key.isValid key = true) (ho : Key.isValid other = true)
    (h : StoredAs value text) (h' : StoredAs value' text') :
    ((d.set other value').1.set key value).1 =
      { ((d.set key value).1.set other value').1 with
        records := revise key text (revise other text' d.records) } := by
  have same := modified_replaceRecords_comm d (revise other text') (revise key text)
  rw [set_eq_revise hk h, set_eq_revise ho h', set_eq_revise hk h, set_eq_revise ho h']
  simp only [replaceRecords] at same ⊢
  rw [same]

/-- Updates of two keys can change places unless both add a record. -/
theorem set_set_comm (hne : other ≠ key) (hk : Key.isValid key = true)
    (ho : Key.isValid other = true) (h : StoredAs value text) (h' : StoredAs value' text')
    (one : d.records.any (assigns key) = true ∨ d.records.any (assigns other) = true ∨
      value = none ∨ value' = none) :
    ((d.set other value').1.set key value).1 = ((d.set key value).1.set other value').1 := by
  have one' : d.records.any (assigns key) = true ∨ d.records.any (assigns other) = true ∨
      text = none ∨ text' = none := by
    cases h with
    | deleted => simp
    | quoted =>
      cases h' with
      | deleted => simp
      | quoted => simpa using one
  rw [set_set_eq hk ho h h', ← revise_comm hne one', set_eq_revise hk h, set_eq_revise ho h']
  rfl

/-! ### What was read -/

/-- The value of a key depends on what is stored under it. -/
theorem value?_congr {e : Document} (same : e.stored? key = d.stored? key) :
    e.value? key = d.value? key := by
  rw [value?, value?, text?, text?, same]

/-- Storing the value of a key is accepted, and leaves the values of all keys as they were. -/
theorem value?_set_self {w : Text} (h : d.value? key = .ok (some w)) :
    (d.set key (some w)).2 = .ok () ∧
      ∀ k, (d.set key (some w)).1.value? k = d.value? k := by
  obtain ⟨valid, text, -, reads⟩ := value?_eq_some_iff.1 h
  obtain ⟨canonical, t, quoted⟩ := Value.exists_quote_of_unquote reads
  refine ⟨set_some_eq_ok_iff.2 ⟨valid, t, quoted⟩, fun k => ?_⟩
  by_cases same : k = key
  · rw [same, value?_set_some valid quoted, canonical, h]
  · exact value?_congr (stored?_set_of_ne d same (some w))

/-! ### The laws of updates -/

/-- Of two updates of a key, only the second one shows in what is written, and it changes nothing if
it is the first one again. Updates of two keys leave the same in either order; only if neither key
has an assignment and both get a value, the two records at the end stand in the order of the
updates. Storing the value that a key has is accepted, and no key has another value then. -/
theorem set_algebra (d : Document) (hne : other ≠ key) (hk : Key.isValid key = true)
    (ho : Key.isValid other = true) (h : StoredAs value text) (h' : StoredAs value' text') :
    ((d.set key value).1.set key value').1.rendered = (d.set key value').1.rendered ∧
      (d.set key value).1.set key value = ((d.set key value).1, .ok ()) ∧
      (let e := ((d.set key value).1.set other value').1
       let e' := ((d.set other value').1.set key value).1
       (d.records.any (assigns key) = true ∨ d.records.any (assigns other) = true ∨
          value = none ∨ value' = none → e' = e) ∧
        (d.records.any (assigns key) = false → d.records.any (assigns other) = false →
          ∀ t t', text = some t → text' = some t' →
            e.records = d.records ++ [stored key t, stored other t'] ∧
              e' = { e with records := d.records ++ [stored other t', stored key t] })) ∧
      ∀ w, d.value? key = .ok (some w) →
        (d.set key (some w)).2 = .ok () ∧ ∀ k, (d.set key (some w)).1.value? k = d.value? k := by
  refine ⟨rendered_set_set hk h h', set_set_self hk h, ⟨?_, ?_⟩, fun w => value?_set_self⟩
  · exact set_set_comm hne hk ho h h'
  · rintro noKey noOther t t' rfl rfl
    refine ⟨?_, ?_⟩
    · rw [set_eq_revise hk h, set_eq_revise ho h']
      exact revise_revise_of_not_any hne noKey noOther t t'
    · rw [set_set_eq hk ho h h', revise_revise_of_not_any hne.symm noOther noKey t' t]

/-- An indented key that is assigned twice, and a new one. -/
theorem set_algebra_indented :
    let d : Document := ⟨"f", [Record.ofLine "A=1", Record.ofLine "# A", Record.ofLine "\tA='2 3'"],
      false, none⟩
    ((d.set "A" none).1.set "A" (some "x y")).1.rendered = ["# A", "A=\"x y\""] ∧
      ((d.set "B" (some "x")).1.set "A" (some "x y")).1 =
        ((d.set "A" (some "x y")).1.set "B" (some "x")).1 ∧
      (d.set "A" (some "2 3")).1.value? "A" = .ok (some "2 3") := by
  intro d
  have spaced : StoredAs (some "x y") (some "\"x y\"") := .quoted (by decide +kernel)
  have plain : StoredAs (some "x") (some "x") := .quoted (by decide +kernel)
  have other : ("B" : Text) ≠ "A" := by decide
  have laws := set_algebra d other (by decide) (by decide) spaced plain
  have twice := set_algebra d other (by decide) (by decide) .deleted spaced
  have found : d.value? "A" = .ok (some "2 3") := by decide +kernel
  refine ⟨twice.1.trans (by decide +kernel), ?_, ?_⟩
  · exact laws.2.2.1.1 (.inl (by decide +kernel))
  · exact ((laws.2.2.2 "2 3" found).2 "A").trans found

end VarFile.Document
