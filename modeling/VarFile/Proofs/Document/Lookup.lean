import VarFile.Document.Basic

/-!
# Looking keys up

The list of live entries is built from the last record to the first, a key is looked up from the
first to the last; `Document.stored?_eq_lookup` says that they agree.
`Document.liveEntries_cons_assignment` is what one more record at the start adds to the list, and
`Document.mem_keys_iff` which keys are in it.
-/

namespace VarFile.Document

/-- The assignment that counts after one more record. -/
private def counted (key : Text) (last : Option Assignment) : Record → Option Assignment
  | .raw _ => last
  | .assignment a => if a.key = key then some a else last

private theorem lastAssignment?_eq_foldl (key : Text) (rs : List Record) :
    lastAssignment? key rs = rs.foldl (counted key) none := by
  unfold lastAssignment?
  congr 1

private theorem foldl_counted (key : Text) (rs : List Record) (last : Option Assignment) :
    rs.foldl (counted key) last = (rs.foldl (counted key) none).or last := by
  induction rs generalizing last with
  | nil => rfl
  | cons r rs ih =>
    have step : counted key last r = (counted key none r).or last := by
      cases r with
      | raw text => rfl
      | assignment a => simp only [counted]; split <;> rfl
    rw [List.foldl_cons, List.foldl_cons, ih, ih (counted key none r), step, Option.or_assoc]

private theorem lastAssignment?_cons_raw (key text : Text) (rs : List Record) :
    lastAssignment? key (.raw text :: rs) = lastAssignment? key rs := rfl

/-- An assignment counts for its key if no other follows. -/
theorem lastAssignment?_cons_assignment (key : Text) (a : Assignment) (rs : List Record) :
    lastAssignment? key (.assignment a :: rs) =
      (lastAssignment? key rs).or (if a.key = key then some a else none) := by
  rw [lastAssignment?_eq_foldl, List.foldl_cons, foldl_counted, ← lastAssignment?_eq_foldl]
  rfl

/-- What counts for a key is one of its assignments. -/
theorem mem_of_lastAssignment? {key : Text} {rs : List Record} {a : Assignment}
    (h : lastAssignment? key rs = some a) : .assignment a ∈ rs ∧ a.key = key := by
  induction rs with
  | nil => cases h
  | cons r rs ih =>
    cases r with
    | raw text =>
      obtain ⟨ha, hk⟩ := ih h
      exact ⟨List.mem_cons_of_mem _ ha, hk⟩
    | assignment b =>
      rw [lastAssignment?_cons_assignment, Option.or_eq_some_iff] at h
      obtain h | ⟨-, h⟩ := h
      · obtain ⟨ha, hk⟩ := ih h
        exact ⟨List.mem_cons_of_mem _ ha, hk⟩
      · split at h
        · next hk =>
          rw [← Option.some.inj h]
          exact ⟨List.mem_cons_self, hk⟩
        · cases h

/-- A key without an assignment is not found. -/
theorem lastAssignment?_eq_none_iff {key : Text} {rs : List Record} :
    lastAssignment? key rs = none ↔ rs.any (Record.assigns key) = false := by
  induction rs with
  | nil => simp [lastAssignment?]
  | cons r rs ih =>
    cases r with
    | raw text => rw [lastAssignment?_cons_raw, ih, List.any_cons, Record.assigns, Bool.false_or]
    | assignment a =>
      rw [lastAssignment?_cons_assignment, Option.or_eq_none_iff, ih, List.any_cons,
        Record.assigns, Bool.or_eq_false_iff, beq_eq_false_iff_ne, and_comm]
      simp

private theorem contains_foldr_addLive (key : Text) (rs : List Record) :
    (rs.foldr addLive ([], [])).1.contains key = rs.any (Record.assigns key) := by
  induction rs with
  | nil => rfl
  | cons r rs ih =>
    rw [List.foldr_cons, List.any_cons, ← ih]
    generalize rs.foldr addLive ([], []) = later
    cases r with
    | raw text => rfl
    | assignment a =>
      simp only [addLive, Record.assigns]
      split
      · next h =>
        by_cases hk : a.key = key
        · rw [← hk, h, Bool.or_true]
        · rw [beq_eq_false_iff_ne.2 hk, Bool.false_or]
      · split
        · rw [List.contains_cons, BEq.comm]
        · rw [List.contains_cons, BEq.comm]

/-- A raw line adds no entry. -/
theorem liveEntries_cons_raw (text : Text) (rs : List Record) :
    liveEntries (.raw text :: rs) = liveEntries rs := rfl

/-- An assignment adds an entry if it is not deleted and no other assignment of its key follows. -/
theorem liveEntries_cons_assignment (a : Assignment) (rs : List Record) :
    liveEntries (.assignment a :: rs) =
      (if rs.any (Record.assigns a.key) then [] else a.value.toList.map (a.key, ·)) ++
        liveEntries rs := by
  rw [liveEntries, List.foldr_cons, liveEntries, ← contains_foldr_addLive]
  generalize rs.foldr addLive ([], []) = later
  simp only [addLive]
  split
  · rfl
  · cases a.value <;> rfl

/-- The stored text of a key is the one of its entry. -/
theorem stored?_eq_lookup (d : Document) (key : Text) : d.stored? key = d.entries.lookup key := by
  unfold stored? entries
  induction d.records with
  | nil => rfl
  | cons r rs ih =>
    cases r with
    | raw text => rw [lastAssignment?_cons_raw, liveEntries_cons_raw, ih]
    | assignment a =>
      rw [lastAssignment?_cons_assignment, liveEntries_cons_assignment]
      by_cases hk : a.key = key
      · subst hk
        cases hl : lastAssignment? a.key rs with
        | some b =>
          have hany : rs.any (Record.assigns a.key) = true := by
            rw [← Bool.not_eq_false, ← lastAssignment?_eq_none_iff, hl]
            simp
          rw [hl] at ih
          rw [if_pos hany, Option.some_or, ih, List.nil_append]
        | none =>
          rw [hl] at ih
          rw [if_pos rfl, if_neg (by simp [lastAssignment?_eq_none_iff.1 hl]), Option.none_or,
            Option.bind_some]
          cases a.value with
          | none => exact ih
          | some text => simp
      · have skip : (if rs.any (Record.assigns a.key) then [] else
            a.value.toList.map (a.key, ·)).lookup key = none := by
          split
          · rfl
          · cases a.value <;> simp [List.lookup_cons, beq_eq_false_iff_ne.2 (Ne.symm hk)]
        rw [if_neg hk, Option.or_none, ih, List.lookup_append, skip, Option.none_or]

/-- A key has a value exactly if it has a stored text. -/
theorem mem_keys_iff {d : Document} {key : Text} :
    key ∈ d.keys ↔ (d.stored? key).isSome = true := by
  rw [stored?_eq_lookup, keys]
  induction d.entries with
  | nil => simp
  | cons entry entries ih =>
    rw [List.map_cons, List.mem_cons, List.lookup_cons, ih]
    by_cases hk : key = entry.1
    · simp [hk]
    · simp [hk, beq_eq_false_iff_ne.2 hk]

variable {d : Document} {key text v : Text}

/-- A stored text comes from one of the assignments of its key. -/
theorem exists_assignment_of_stored? (h : d.stored? key = some text) :
    ∃ a, .assignment a ∈ d.records ∧ a.key = key ∧ a.value = some text := by
  obtain ⟨a, ha, hv⟩ := Option.bind_eq_some_iff.1 h
  obtain ⟨hm, hk⟩ := mem_of_lastAssignment? ha
  exact ⟨a, hm, hk, hv⟩

/-- A valid key is looked up. -/
theorem text?_of_isValid (d : Document) (hk : Key.isValid key = true) :
    d.text? key = .ok (d.stored? key) := by
  rw [text?, Key.check, if_pos hk]
  rfl

/-- A key with a stored text is found. -/
theorem text?_eq_some_iff :
    d.text? key = .ok (some text) ↔ Key.isValid key = true ∧ d.stored? key = some text := by
  by_cases hk : Key.isValid key = true
  · rw [text?_of_isValid d hk, Except.ok.injEq]
    exact (and_iff_right hk).symm
  · rw [text?, Key.check, if_neg hk]
    exact ⟨nofun, fun h => absurd h.1 hk⟩

/-- The value of a key with a stored text that stands for one. -/
theorem value?_of_stored? (hk : Key.isValid key = true) (hs : d.stored? key = some text) :
    d.value? key = .ok (Value.unquote text).toOption := by
  rw [value?, text?_of_isValid d hk, hs]
  rfl

/-- Only what is found counts, and not why nothing is. -/
theorem join_value?_eq_some_iff :
    (d.value? key).toOption.join = some v ↔ d.value? key = .ok (some v) := by
  cases d.value? key with
  | error cause => exact ⟨nofun, nofun⟩
  | ok found => simp [Except.toOption]

/-- A value comes from the stored text of a valid key. -/
theorem value?_eq_some_iff :
    d.value? key = .ok (some v) ↔
      Key.isValid key = true ∧ ∃ text, d.stored? key = some text ∧ Value.unquote text = .ok v := by
  rw [value?, text?, Key.check]
  cases Key.isValid key with
  | false => exact ⟨nofun, nofun⟩
  | true =>
    cases hs : d.stored? key with
    | none => exact ⟨nofun, nofun⟩
    | some text => cases hu : Value.unquote text <;> simp [Except.map, hu, Except.toOption]

/-- A key with a value is one of the keys. -/
theorem mem_keys_of_value? (h : (d.value? key).toOption.join = some v) : key ∈ d.keys := by
  obtain ⟨-, text, stored, -⟩ := value?_eq_some_iff.1 (join_value?_eq_some_iff.1 h)
  rw [mem_keys_iff, stored]
  rfl

end VarFile.Document
