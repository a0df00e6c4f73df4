import Mathlib.Data.List.Basic
import VarFile.Proofs.Document.Changed

/-!
# Accepted updates

An update that is accepted comes down to `Document.revise`, a function of the records alone
(`Document.set_eq_revise`): the last assignment of the key is revised where it stands and the others
are dropped, or else a new one is added at the end. Revising twice is revising once
(`Document.revise_revise_self`, `Document.rendered_revise_revise`), and revisions of two keys can
change places unless both add a record (`Document.revise_comm`).
-/

namespace VarFile.Document

open Record (assigns)

variable {d : Document} {key other : Text} {value text text' : Option Text} {rs : List Record}

/-- What is stored of a value: its quoted text, or nothing if the key is deleted. -/
inductive StoredAs : Option Text → Option Text → Prop
  | deleted : StoredAs none none
  | quoted {v t : Text} (h : Value.quote v = .ok t) : StoredAs (some v) (some t)

/-- The record that takes the place of an assignment of a key; other records stay as they are. -/
def revised (key : Text) : Option Text → Record → Record
  | none, r => deleted key r
  | some t, r => if r.assigns key then stored key t else r

/-- The records after an accepted update. -/
def revise (key : Text) (text : Option Text) (rs : List Record) : List Record :=
  if rs.any (assigns key) then (keepLast key rs).map (revised key text)
  else rs ++ text.toList.map (stored key)

/-! ### One record -/

/-- A revised record assigns what it did. -/
theorem assigns_revised (key other : Text) (text : Option Text) (r : Record) :
    (revised key text r).assigns other = r.assigns other := by
  cases text with
  | none => exact assigns_deleted key other r
  | some t =>
    rw [revised]
    split
    · next hr =>
      by_cases same : other = key
      · rw [same, assigns_stored, hr]
      · rw [Record.assigns_eq_false_of_ne same hr,
          Record.assigns_eq_false_of_ne same (assigns_stored key t)]
    · rfl

private theorem revised_eq_self {r : Record} (h : r.assigns key = false) :
    revised key text r = r := by
  cases text with
  | none => exact deleted_eq_self h
  | some t => rw [revised, if_neg (by simp [h])]

/-- Records that do not assign the key are not revised. -/
theorem map_revised_eq_self (h : rs.any (assigns key) = false) :
    rs.map (revised key text) = rs := by
  refine (List.map_congr_left fun r hr => ?_).trans (List.map_id' rs)
  exact revised_eq_self (by simpa using List.any_eq_false.1 h r hr)

private theorem revised_revised_self (key : Text) (text : Option Text) (r : Record) :
    revised key text (revised key text r) = revised key text r := by
  cases hr : r.assigns key with
  | false => rw [revised_eq_self hr, revised_eq_self hr]
  | true =>
    cases text with
    | some t => simp [revised, hr, assigns_stored]
    | none =>
      cases r with
      | raw line => rfl
      | assignment a => simp [revised, deleted, beq_iff_eq.1 hr]

private theorem rendered_revised_revised (key : Text) (text text' : Option Text) (r : Record) :
    (revised key text' (revised key text r)).rendered = (revised key text' r).rendered := by
  cases hr : r.assigns key with
  | false => rw [revised_eq_self hr]
  | true =>
    have still := (assigns_revised key key text r).trans hr
    cases text' with
    | some t => rw [revised, revised, if_pos still, if_pos hr]
    | none =>
      -- A deleted assignment is not written, whatever stands before its key.
      have gone {r : Record} (h : r.assigns key = true) : (deleted key r).rendered = [] := by
        cases r with
        | raw line => cases h
        | assignment a => simp [deleted, beq_iff_eq.1 h, Record.rendered]
      rw [revised, revised, gone still, gone hr]

/-- Records are revised for two keys in either order. -/
theorem revised_comm (hne : other ≠ key) (text text' : Option Text) (r : Record) :
    revised other text' (revised key text r) = revised key text (revised other text' r) := by
  cases hr : r.assigns key with
  | false =>
    have still := (assigns_revised other key text' r).trans hr
    rw [revised_eq_self hr, revised_eq_self still]
  | true =>
    have foreign := Record.assigns_eq_false_of_ne hne hr
    have still := (assigns_revised key other text r).trans foreign
    rw [revised_eq_self foreign, revised_eq_self still]

/-! ### Dropping what does not count -/

private theorem keepLast_map {f : Record → Record} (h : ∀ r, (f r).assigns key = r.assigns key)
    (rs : List Record) : keepLast key (rs.map f) = (keepLast key rs).map f := by
  induction rs with
  | nil => rfl
  | cons r rs ih =>
    have later : (rs.map f).any (assigns key) = rs.any (assigns key) := by
      rw [List.any_map]
      exact congrArg (rs.any ·) (funext h)
    rw [List.map_cons, keepLast_cons, keepLast_cons, h, later]
    split
    · exact ih
    · rw [List.map_cons, ih]

private theorem countP_eq_zero_of_any_eq_false (h : rs.any (assigns key) = false) :
    rs.countP (assigns key) = 0 :=
  List.countP_eq_zero.2 fun r hr => by simpa using List.any_eq_false.1 h r hr

private theorem keepLast_of_any_eq_false (h : rs.any (assigns key) = false) :
    keepLast key rs = rs := by
  apply keepLast_eq_self_iff.2
  rw [countP_eq_zero_of_any_eq_false h]
  exact Nat.zero_le 1

private theorem keepLast_append {added : List Record} (h : added.any (assigns key) = false)
    (rs : List Record) : keepLast key (rs ++ added) = keepLast key rs ++ added := by
  induction rs with
  | nil => exact keepLast_of_any_eq_false h
  | cons r rs ih =>
    rw [List.cons_append, keepLast_cons, keepLast_cons, List.any_append, h, Bool.or_false, ih]
    split
    · rfl
    · rfl

private theorem keepLast_keepLast (key : Text) (rs : List Record) :
    keepLast key (keepLast key rs) = keepLast key rs := by
  apply keepLast_eq_self_iff.2
  rw [countP_keepLast]
  split
  · exact Nat.le_refl 1
  · exact Nat.zero_le 1

/-- What does not count is dropped for two keys in either order. -/
theorem keepLast_comm (key other : Text) (rs : List Record) :
    keepLast other (keepLast key rs) = keepLast key (keepLast other rs) := by
  induction rs with
  | nil => rfl
  | cons r rs ih =>
    rw [keepLast_cons key, keepLast_cons other]
    split
    · next hk =>
      split
      · exact ih
      · rw [ih, keepLast_cons, any_keepLast, if_pos hk]
    · next hk =>
      split
      · next ho => rw [keepLast_cons, any_keepLast, if_pos ho, ih]
      · next ho =>
        rw [keepLast_cons, keepLast_cons, any_keepLast, any_keepLast, if_neg hk, if_neg ho, ih]

/-- The last assignment of a key is kept where it stands, and all records behind it. -/
theorem exists_keepLast_eq (h : rs.any (assigns key) = true) :
    ∃ before last after, rs = before ++ last :: after ∧ last.assigns key = true ∧
      after.any (assigns key) = false ∧
      keepLast key rs = before.filter (fun r => !r.assigns key) ++ last :: after := by
  induction rs with
  | nil => cases h
  | cons r rs ih =>
    cases later : rs.any (assigns key) with
    | false =>
      have first : r.assigns key = true := by simpa [List.any_cons, later] using h
      refine ⟨[], r, rs, rfl, first, later, ?_⟩
      rw [keepLast_cons, later, Bool.and_false, if_neg Bool.false_ne_true,
        keepLast_of_any_eq_false later]
      rfl
    | true =>
      obtain ⟨before, last, after, rfl, hl, ha, kept⟩ := ih later
      refine ⟨r :: before, last, after, rfl, hl, ha, ?_⟩
      rw [keepLast_cons, later, Bool.and_true, kept, List.filter_cons]
      cases r.assigns key with
      | false => rfl
      | true => rfl

/-! ### Revising -/

/-- An assignment that is there is revised where it stands. -/
theorem revise_of_any (h : rs.any (assigns key) = true) :
    revise key text rs = (keepLast key rs).map (revised key text) := if_pos h

/-- A key without an assignment gets one at the end, if a value is stored. -/
theorem revise_of_not_any (h : rs.any (assigns key) = false) :
    revise key text rs = rs ++ text.toList.map (stored key) := by
  rw [revise, h, if_neg Bool.false_ne_true]

private theorem any_revise_self (key : Text) (text : Option Text) (rs : List Record) :
    (revise key text rs).any (assigns key) = (rs.any (assigns key) || text.isSome) := by
  cases h : rs.any (assigns key) with
  | true =>
    rw [revise_of_any h, List.any_map, Bool.true_or, ← h, ← any_keepLast key key rs]
    exact congrArg _ (funext (assigns_revised key key text))
  | false =>
    rw [revise_of_not_any h, List.any_append, h]
    cases text with
    | none => rfl
    | some t => simp [assigns_stored]

private theorem any_revise_of_ne (hne : other ≠ key) (text : Option Text) (rs : List Record) :
    (revise key text rs).any (assigns other) = rs.any (assigns other) := by
  cases h : rs.any (assigns key) with
  | true =>
    rw [revise_of_any h, List.any_map, ← any_keepLast key other rs]
    exact congrArg _ (funext (assigns_revised key other text))
  | false =>
    rw [revise_of_not_any h, List.any_append]
    cases text with
    | none => exact Bool.or_false _
    | some t => simp [Record.assigns_eq_false_of_ne hne (assigns_stored key t)]

private theorem revise_revise_of_any (h : rs.any (assigns key) = true) :
    revise key text' (revise key text rs) =
      (keepLast key rs).map fun r => revised key text' (revised key text r) := by
  have still : (revise key text rs).any (assigns key) = true := by
    rw [any_revise_self, h, Bool.true_or]
  rw [revise_of_any still, revise_of_any h, keepLast_map (assigns_revised key key text),
    keepLast_keepLast, List.map_map]
  rfl

private theorem revise_append_stored (h : rs.any (assigns key) = false) (t : Text) :
    revise key text (rs ++ [stored key t]) = rs ++ [revised key text (stored key t)] := by
  have there : (rs ++ [stored key t]).any (assigns key) = true := by
    simp [List.any_append, assigns_stored]
  have once : keepLast key (rs ++ [stored key t]) = rs ++ [stored key t] := by
    apply keepLast_eq_self_iff.2
    rw [List.countP_append, countP_eq_zero_of_any_eq_false h, List.countP_singleton,
      assigns_stored]
    exact Nat.le_refl 1
  rw [revise_of_any there, once, List.map_append, map_revised_eq_self h, List.map_singleton]

/-- A revision that is repeated changes nothing. -/
theorem revise_revise_self (key : Text) (text : Option Text) (rs : List Record) :
    revise key text (revise key text rs) = revise key text rs := by
  cases h : rs.any (assigns key) with
  | true =>
    rw [revise_revise_of_any h, revise_of_any h]
    exact List.map_congr_left fun r _ => revised_revised_self key text r
  | false =>
    rw [revise_of_not_any h]
    cases text with
    | none => rw [Option.toList_none, List.map_nil, List.append_nil, revise_of_not_any h]; simp
    | some t =>
      rw [Option.toList_some, List.map_singleton, revise_append_stored h, revised,
        if_pos (assigns_stored key t)]

/-- Only the last revision of a key shows in what is written. -/
theorem rendered_revise_revise (key : Text) (text text' : Option Text) (rs : List Record) :
    (revise key text' (revise key text rs)).flatMap Record.rendered =
      (revise key text' rs).flatMap Record.rendered := by
  cases h : rs.any (assigns key) with
  | true =>
    rw [revise_revise_of_any h, revise_of_any h, List.flatMap_map, List.flatMap_map]
    exact List.flatMap_congr fun r _ => rendered_revised_revised key text text' r
  | false =>
    rw [revise_of_not_any h]
    cases text with
    | none => rw [Option.toList_none, List.map_nil, List.append_nil]
    | some t =>
      rw [Option.toList_some, List.map_singleton, revise_append_stored h, revise_of_not_any h,
        List.flatMap_append, List.flatMap_append, List.flatMap_singleton]
      congr 1
      cases text' with
      | none => simp [revised, deleted, stored, Record.rendered]
      | some t' => simp [revised, assigns_stored]

private theorem revise_append {added : List Record} (h : rs.any (assigns key) = true)
    (foreign : added.any (assigns key) = false) :
    revise key text (rs ++ added) = revise key text rs ++ added := by
  have there : (rs ++ added).any (assigns key) = true := by rw [List.any_append, h, Bool.true_or]
  rw [revise_of_any there, revise_of_any h, keepLast_append foreign, List.map_append,
    map_revised_eq_self foreign]

/-- A revision that finds an assignment can change places with one that does not. -/
theorem revise_comm_of_any (hne : other ≠ key) (h : rs.any (assigns key) = true)
    (none : rs.any (assigns other) = false) :
    revise other text' (revise key text rs) = revise key text (revise other text' rs) := by
  have still : (revise key text rs).any (assigns other) = false := by
    rw [any_revise_of_ne hne, none]
  have foreign : (text'.toList.map (stored other)).any (assigns key) = false := by
    cases text' with
    | none => rfl
    | some t => simp [Record.assigns_eq_false_of_ne hne.symm (assigns_stored other t)]
  rw [revise_of_not_any still, revise_of_not_any none, revise_append h foreign]

/-- Revisions of two keys can change places unless both of them add a record. -/
theorem revise_comm (hne : other ≠ key)
    (h : rs.any (assigns key) = true ∨ rs.any (assigns other) = true ∨ text = none ∨ text' = none) :
    revise other text' (revise key text rs) = revise key text (revise other text' rs) := by
  cases hk : rs.any (assigns key) with
  | true =>
    cases ho : rs.any (assigns other) with
    | true =>
      have hk' : (revise other text' rs).any (assigns key) = true := by
        rw [any_revise_of_ne hne.symm, hk]
      have ho' : (revise key text rs).any (assigns other) = true := by
        rw [any_revise_of_ne hne, ho]
      rw [revise_of_any hk', revise_of_any ho', revise_of_any hk, revise_of_any ho,
        keepLast_map (assigns_revised key other text),
        keepLast_map (assigns_revised other key text'), keepLast_comm, List.map_map, List.map_map]
      exact List.map_congr_left fun r _ => revised_comm hne text text' r
    | false => exact revise_comm_of_any hne hk ho
  | false =>
    cases ho : rs.any (assigns other) with
    | true => exact (revise_comm_of_any hne.symm ho hk).symm
    | false =>
      have hk' : (revise other text' rs).any (assigns key) = false := by
        rw [any_revise_of_ne hne.symm, hk]
      have ho' : (revise key text rs).any (assigns other) = false := by
        rw [any_revise_of_ne hne, ho]
      rw [revise_of_not_any hk', revise_of_not_any ho', revise_of_not_any hk, revise_of_not_any ho]
      -- Only one of the two has a record to add.
      obtain rfl | rfl : text = none ∨ text' = none := by simpa [hk, ho] using h
      · simp
      · simp

/-- Two keys without an assignment are added in the order of their revisions. -/
theorem revise_revise_of_not_any (hne : other ≠ key) (hk : rs.any (assigns key) = false)
    (ho : rs.any (assigns other) = false) (t t' : Text) :
    revise other (some t') (revise key (some t) rs) = rs ++ [stored key t, stored other t'] := by
  have still : (revise key (some t) rs).any (assigns other) = false := by
    rw [any_revise_of_ne hne, ho]
  rw [revise_of_not_any still, revise_of_not_any hk, List.append_assoc]
  rfl

/-! ### Updates -/

/-- An update is accepted for a valid key and a value with a stored form. -/
theorem set_eq_ok_iff :
    (d.set key value).2 = .ok () ↔ Key.isValid key = true ∧ ∃ text, StoredAs value text := by
  cases value with
  | none =>
    refine (unset_eq_ok_iff (d := d)).trans ⟨fun hk => ⟨hk, _, .deleted⟩, And.left⟩
  | some v =>
    refine set_some_eq_ok_iff.trans (and_congr_right' ?_)
    constructor
    · rintro ⟨text, hq⟩
      exact ⟨_, .quoted hq⟩
    · rintro ⟨_, ⟨⟩ | hq⟩
      exact ⟨_, hq⟩

/-- An update that is accepted revises the records. -/
theorem records_set_of_storedAs (valid : Key.isValid key = true) (h : StoredAs value text) :
    (d.set key value).1.records = revise key text d.records := by
  have none (hn : ¬ d.records.any (assigns key) = true) : d.records.any (assigns key) = false := by
    simpa using hn
  cases h with
  | deleted =>
    have records : (d.set key .none).1.records = deleteValue key (keepLast key d.records) :=
      records_unset valid
    rw [records, deleteValue_eq_map, revise]
    split
    · rfl
    · next hn =>
      have same : d.records.map (revised key .none) = d.records := map_revised_eq_self (none hn)
      rw [keepLast_of_any_eq_false (none hn)]
      exact same.trans (List.append_nil _).symm
  | quoted hq =>
    rw [records_set_some valid hq, storeText_eq, any_keepLast, revise]
    split
    · rfl
    · next hn => rw [keepLast_of_any_eq_false (none hn)]; rfl

/-- An update that is accepted revises the records, and marks the document as changed if that makes
a difference. -/
theorem set_eq_revise (valid : Key.isValid key = true) (h : StoredAs value text) :
    d.set key value = (d.replaceRecords (revise key text d.records), .ok ()) := by
  have records := records_set_of_storedAs (d := d) valid h
  have flag : (d.set key value).1.modified =
      (d.modified || revise key text d.records != d.records) := by
    rw [Bool.eq_iff_iff, modified_set_iff, records, Bool.or_eq_true, bne_iff_ne]
  have whole : d.restore (d.set key value).1.checkpoint = (d.set key value).1 :=
    (congrArg (restore · (d.set key value).1.checkpoint) (restore_set d key value)).symm
  refine Prod.ext ?_ (set_eq_ok_iff.2 ⟨valid, text, h⟩)
  rw [← whole, checkpoint, records, flag]
  rfl

end VarFile.Document
