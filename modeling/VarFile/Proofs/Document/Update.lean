import VarFile.Document.Update

/-!
# What an update leaves

`Document.set_cases` says all that `Document.set` can do. Each of the three steps it is made of
leaves the records that do not assign the key as they were, in their order
(`Document.filter_set`), and no more than one that does.
-/

namespace VarFile

namespace Record

/-- No record assigns two keys. -/
theorem assigns_eq_false_of_ne {key other : Text} (hne : other ≠ key) {r : Record}
    (h : r.assigns key = true) : r.assigns other = false := by
  cases r with
  | raw text => rfl
  | assignment a =>
    rw [assigns, beq_iff_eq] at h
    rw [assigns, beq_eq_false_iff_ne, h]
    exact Ne.symm hne

end Record

namespace Document

open Record (assigns)

variable {key : Text} {rs : List Record}

/-! ### Dropping what does not count -/

private theorem foldr_keepLast (key : Text) (rs : List Record) :
    rs.foldr
        (fun r p =>
          if r.assigns key then (true, if p.1 then p.2 else r :: p.2) else (p.1, r :: p.2))
        (false, []) = (rs.any (assigns key), keepLast key rs) := by
  refine Prod.ext ?_ rfl
  induction rs with
  | nil => rfl
  | cons r rs ih =>
    rw [List.foldr_cons, List.any_cons, ← show _ = rs.any (assigns key) from ih]
    cases r.assigns key <;> rfl

/-- Whether a later record assigns the key decides if a record is kept. -/
theorem keepLast_cons (key : Text) (r : Record) (rs : List Record) :
    keepLast key (r :: rs) =
      if r.assigns key && rs.any (assigns key) then keepLast key rs else r :: keepLast key rs := by
  have step := congrArg Prod.snd (foldr_keepLast key (r :: rs))
  rw [List.foldr_cons, foldr_keepLast] at step
  refine step.symm.trans ?_
  cases r.assigns key with
  | false => rfl
  | true => cases rs.any (assigns key) <;> rfl

/-- Every record that is kept was there. -/
theorem mem_of_mem_keepLast {r : Record} (h : r ∈ keepLast key rs) : r ∈ rs := by
  induction rs with
  | nil => exact h
  | cons s rs ih =>
    rw [keepLast_cons] at h
    split at h
    · exact List.mem_cons_of_mem s (ih h)
    · obtain rfl | h := List.mem_cons.1 h
      · exact List.mem_cons_self
      · exact List.mem_cons_of_mem s (ih h)

/-- Only assignments of the key are dropped. -/
theorem filter_keepLast {p : Record → Bool} (h : ∀ r, r.assigns key = true → p r = false)
    (rs : List Record) : (keepLast key rs).filter p = rs.filter p := by
  induction rs with
  | nil => rfl
  | cons r rs ih =>
    rw [keepLast_cons]
    split
    · next hr =>
      rw [Bool.and_eq_true] at hr
      rw [ih, List.filter_cons_of_neg (by simp [h r hr.1])]
    · rw [List.filter_cons, List.filter_cons, ih]

/-- One assignment of the key is left if there was any. -/
theorem countP_keepLast (key : Text) (rs : List Record) :
    (keepLast key rs).countP (assigns key) = if rs.any (assigns key) then 1 else 0 := by
  induction rs with
  | nil => rfl
  | cons r rs ih =>
    rw [keepLast_cons, List.any_cons]
    cases hr : r.assigns key with
    | false =>
      rw [Bool.false_and, if_neg (by simp), List.countP_cons_of_neg (by simp [hr]), ih,
        Bool.false_or]
    | true =>
      cases hs : rs.any (assigns key) with
      | false => simp [hs, ih, hr]
      | true => simp [hs, ih]

/-! ### Deleting and storing -/

/-- A record with the value deleted. -/
def deleted (key : Text) : Record → Record
  | .raw text => .raw text
  | .assignment a => if a.key = key then .assignment { a with value := none } else .assignment a

/-- Deleting goes record by record. -/
theorem deleteValue_eq_map (key : Text) (rs : List Record) :
    deleteValue key rs = rs.map (deleted key) := by
  unfold deleteValue
  congr 1

/-- A record that does not assign the key is not changed. -/
theorem deleted_eq_self {r : Record} (h : r.assigns key = false) : deleted key r = r := by
  cases r with
  | raw text => rfl
  | assignment a =>
    rw [assigns, beq_eq_false_iff_ne] at h
    rw [deleted, if_neg h]

/-- A deleted record still assigns its key. -/
theorem assigns_deleted (key other : Text) (r : Record) :
    (deleted key r).assigns other = r.assigns other := by
  cases r with
  | raw text => rfl
  | assignment a =>
    rw [deleted]
    split <;> rfl

private theorem filter_map_eq {f : Record → Record} {p : Record → Bool}
    (changed : ∀ r, r.assigns key = true → p r = false ∧ p (f r) = false)
    (same : ∀ r, r.assigns key = false → f r = r) (rs : List Record) :
    (rs.map f).filter p = rs.filter p := by
  induction rs with
  | nil => rfl
  | cons r rs ih =>
    rw [List.map_cons]
    cases hr : r.assigns key with
    | true =>
      obtain ⟨h, hf⟩ := changed r hr
      rw [List.filter_cons_of_neg (by simp [hf]), List.filter_cons_of_neg (by simp [h]), ih]
    | false => rw [same r hr, List.filter_cons, List.filter_cons, ih]

/-- Only assignments of the key are deleted. -/
theorem filter_deleteValue {p : Record → Bool} (h : ∀ r, r.assigns key = true → p r = false)
    (rs : List Record) : (deleteValue key rs).filter p = rs.filter p := by
  rw [deleteValue_eq_map]
  exact filter_map_eq (fun r hr => ⟨h r hr, h _ (by rw [assigns_deleted, hr])⟩)
    (fun r => deleted_eq_self) rs

/-- The assignment that a stored text makes. -/
def stored (key text : Text) : Record := .assignment ⟨key, key, some text⟩

/-- The stored assignment is one of its key. -/
theorem assigns_stored (key text : Text) : (stored key text).assigns key = true := by
  simp [stored, assigns]

/-- A stored text takes the place of the assignments of its key, or else comes last. -/
theorem storeText_eq (key text : Text) (rs : List Record) :
    storeText key text rs =
      if rs.any (assigns key) then rs.map fun r => if r.assigns key then stored key text else r
      else rs ++ [stored key text] := rfl

/-- Only assignments of the key are replaced. -/
theorem filter_storeText {p : Record → Bool} (h : ∀ r, r.assigns key = true → p r = false)
    (text : Text) (rs : List Record) : (storeText key text rs).filter p = rs.filter p := by
  have new := h _ (assigns_stored key text)
  rw [storeText_eq]
  split
  · exact filter_map_eq (fun r hr => ⟨h r hr, by rw [if_pos hr, new]⟩)
      (fun r hr => by rw [if_neg (by simp [hr])]) rs
  · rw [List.filter_append, List.filter_cons_of_neg (by simp [new]), List.filter_nil,
      List.append_nil]

/-! ### Setting a value -/

/-- A key that is none is refused, without a change. The assignments of a valid key that did not
count are dropped first; then its value is deleted, refused or stored. -/
theorem set_cases (d : Document) (key : Text) (value : Option Text) :
    (Key.isValid key = false ∧ d.set key value = (d, .error (.invalidKey ⟨key⟩))) ∨
      (Key.isValid key = true ∧
        let e := d.replaceRecords (keepLast key d.records)
        ((value = none ∧ d.set key value = (e.replaceRecords (deleteValue key e.records), .ok ())) ∨
          (∃ v cause, value = some v ∧ Value.quote v = .error cause ∧
            d.set key value = (e, .error (.unstorable cause))) ∨
          (∃ v text, value = some v ∧ Value.quote v = .ok text ∧
            d.set key value = (e.replaceRecords (storeText key text e.records), .ok ())))) := by
  unfold set Key.check
  cases hk : Key.isValid key with
  | false => exact .inl ⟨rfl, rfl⟩
  | true =>
    refine .inr ⟨rfl, ?_⟩
    cases value with
    | none => exact .inl ⟨rfl, rfl⟩
    | some v =>
      cases hq : Value.quote v with
      | error cause => exact .inr (.inl ⟨v, cause, rfl, hq, by simp [hq]⟩)
      | ok text => exact .inr (.inr ⟨v, text, rfl, hq, by simp [hq]⟩)

/-- The records after an update are those before, without the assignments that did not count, with
the value deleted, or with a stored text. -/
theorem records_set (d : Document) (key : Text) (value : Option Text) :
    (d.set key value).1.records = d.records ∨
      (Key.isValid key = true ∧
        ((d.set key value).1.records = keepLast key d.records ∨
          (d.set key value).1.records = deleteValue key (keepLast key d.records) ∨
          ∃ v text, Value.quote v = .ok text ∧
            (d.set key value).1.records = storeText key text (keepLast key d.records))) := by
  obtain ⟨-, h⟩ | ⟨hk, ⟨-, h⟩ | ⟨v, cause, -, -, h⟩ | ⟨v, text, -, hq, h⟩⟩ := set_cases d key value
  · exact .inl (by rw [h])
  · exact .inr ⟨hk, .inr (.inl (by rw [h]; rfl))⟩
  · exact .inr ⟨hk, .inl (by rw [h]; rfl)⟩
  · exact .inr ⟨hk, .inr (.inr ⟨v, text, hq, by rw [h]; rfl⟩)⟩

/-- An update leaves the records that do not assign the key as they were, in their order. -/
theorem filter_set {p : Record → Bool} (h : ∀ r, r.assigns key = true → p r = false)
    (d : Document) (value : Option Text) :
    (d.set key value).1.records.filter p = d.records.filter p := by
  obtain hr | ⟨-, hr | hr | ⟨v, text, -, hr⟩⟩ := records_set d key value
  · rw [hr]
  · rw [hr, filter_keepLast h]
  · rw [hr, filter_deleteValue h, filter_keepLast h]
  · rw [hr, filter_storeText h, filter_keepLast h]

end Document

end VarFile
