import VarFile.Proofs.Editor.Still
import VarFile.Proofs.Editor.Work

/-!
# The cursor of the table

An event of an editor moves the cursor (`Editor.movesCursor`), or leaves the table as it was, or
shows other rows (`Table.Persists`). So the cursor is on one of the rows after every event, and
stays on the key it was on as long as that is shown. `Editor.view_faithful` puts this together with
what the rows are.
-/

namespace VarFile

/-! ### One table -/

namespace Table

variable {t t' : Table} {rows : List Variable} {key : Text}

/-- The cursor is on one of the rows, if there are any. -/
def OnRow (t : Table) : Prop := t.rows ≠ [] → t.cursor < t.rows.length

/-- The cursor is on the row of the key it was on, if there is one, and else on the first row. -/
structure KeepsCursor (t t' : Table) : Prop where
  kept : ∀ v ∈ t.highlighted?, v.key ∈ t'.rows.map (·.key) →
    t'.highlighted?.map (·.key) = some v.key
  first : (∀ v ∈ t.highlighted?, v.key ∉ t'.rows.map (·.key)) → t'.rows ≠ [] → t'.cursor = 0

private theorem getElem?_rowOf (h : key ∈ rows.map (·.key)) :
    (rows[rowOf rows key]?).map (·.key) = some key := by
  rw [rowOf]
  cases found : rows.findIdx? (fun v => decide (v.key = key)) with
  | none =>
    obtain ⟨v, hv, rfl⟩ := List.mem_map.1 h
    have other := List.findIdx?_eq_none_iff.1 found v hv
    simp at other
  | some i =>
    obtain ⟨lt, there, -⟩ := List.findIdx?_eq_some_iff_getElem.1 found
    rw [Option.getD_some, List.getElem?_eq_getElem lt, Option.map_some]
    exact congrArg some (of_decide_eq_true there)

private theorem rowOf_eq_zero (h : key ∉ rows.map (·.key)) : rowOf rows key = 0 := by
  rw [rowOf, List.findIdx?_eq_none_iff.2, Option.getD_none]
  intro v hv
  refine decide_eq_false fun same => h ?_
  rw [← same]
  exact List.mem_map_of_mem hv

private theorem keepsCursor_load (t : Table) (rows : List Variable) :
    t.KeepsCursor (t.load rows) where
  kept v hv shown := by
    have cursor : (t.load rows).cursor = rowOf rows v.key := by
      rw [load, hv]
      rfl
    rw [highlighted?, cursor]
    exact getElem?_rowOf shown
  first gone _ := by
    rw [load]
    cases hv : t.highlighted? with
    | none => rfl
    | some v => exact rowOf_eq_zero (gone v hv)

private theorem OnRow.exists_highlighted (h : t.OnRow) (nonempty : t.rows ≠ []) :
    ∃ v ∈ t.rows, t.highlighted? = some v := by
  have inside := h nonempty
  exact ⟨t.rows[t.cursor], List.getElem_mem inside, List.getElem?_eq_getElem inside⟩

private theorem Persists.keepsCursor (h : t.Persists t') (row : t.OnRow) : t.KeepsCursor t' := by
  cases h with
  | same =>
    refine ⟨fun v hv _ => by rw [hv]; rfl, fun gone nonempty => ?_⟩
    obtain ⟨v, there, hv⟩ := row.exists_highlighted nonempty
    exact absurd (List.mem_map_of_mem there) (gone v hv)
  | loaded rows => exact keepsCursor_load t rows

private theorem Persists.onRow (h : t.Persists t') (row : t.OnRow) : t'.OnRow := by
  cases h with
  | same => exact row
  | loaded rows => exact fun nonempty => cursor_load_lt t nonempty

/-- Going down adds one to the cursor, modulo the number of rows. -/
theorem down_eq (h : t.cursor < t.rows.length) :
    t.down = { t with cursor := (t.cursor + 1) % t.rows.length } := by
  rw [down]
  congr 1
  split
  · next inside => rw [Nat.mod_eq_of_lt inside]
  · next last =>
    have last : t.cursor + 1 = t.rows.length := by omega
    rw [last, Nat.mod_self]

/-- Going up takes one from the cursor, modulo the number of rows. -/
theorem up_eq (h : t.cursor < t.rows.length) :
    t.up = { t with cursor := (t.cursor + (t.rows.length - 1)) % t.rows.length } := by
  rw [up]
  congr 1
  split
  · next first => rw [first, Nat.zero_add, Nat.mod_eq_of_lt (by omega)]
  · next later =>
    have around : t.cursor + (t.rows.length - 1) = t.cursor - 1 + t.rows.length := by omega
    rw [around, Nat.add_mod_right, Nat.mod_eq_of_lt (by omega)]

theorem onRow_down (h : t.OnRow) : t.down.OnRow := by
  intro nonempty
  have inside := h nonempty
  rw [down_eq inside]
  exact Nat.mod_lt _ (by omega)

theorem onRow_up (h : t.OnRow) : t.up.OnRow := by
  intro nonempty
  have inside := h nonempty
  rw [up_eq inside]
  exact Nat.mod_lt _ (by omega)

theorem onRow_toFirst (t : Table) : t.toFirst.OnRow := List.length_pos_iff.2

theorem onRow_toLast (t : Table) : t.toLast.OnRow := fun nonempty =>
  Nat.sub_one_lt (Nat.ne_of_gt (List.length_pos_iff.2 nonempty))

end Table

/-! ### Functions of the editor -/

/-- Whether a key at the table moves the cursor. -/
def KeyPress.movesCursor : KeyPress → Bool
  | .up | .down => true
  | .char c =>
    match c.toChar? with
    | some 'j' | some 'k' | some 'g' | some 'G' => true
    | _ => false
  | _ => false

namespace Editor

/-- Whether an event moves the cursor. -/
def movesCursor (e : Editor) : EditorEvent → Bool
  | .key k => e.dialog.isNone && !e.searchFocused && k.movesCursor
  | _ => false

variable {e : Editor}

private theorem table_askDelete : e.askDelete.table = e.table := by
  rw [askDelete]
  split
  · rfl
  · simp only
    split <;> rfl

/-- A key at the table that does not move the cursor. -/
theorem persists_onTable {k : KeyPress} (h : k.movesCursor = false) :
    e.table.Persists (e.onTable k).table := by
  cases k with
  | char c =>
    rw [KeyPress.movesCursor] at h
    rw [onTable, onTableChar]
    -- The keys that move the cursor stand among the others.
    split
    · next hc => simp [hc] at h
    · next hc => simp [hc] at h
    · next hc => simp [hc] at h
    · next hc => simp [hc] at h
    · exact still_askValue.table
    · exact .same
    · exact still_askName.table
    · exact table_askDelete ▸ .same
    · exact still_undo.table
    · exact still_copy.table
    · exact still_askWrite.table
    · exact still_askQuit.table
    · exact (still_focusSearch (e := { e with searchShown := true })).table
    · exact .same
    · exact .same
  | up => cases h
  | down => cases h
  | escape => exact (still_setSearch _).table
  | _ => exact .same

/-- A key at the table that moves the cursor leaves the rows, and the cursor on one of them. -/
theorem onRow_onTable {k : KeyPress} (h : k.movesCursor = true) (row : e.table.OnRow) :
    (e.onTable k).table.OnRow := by
  cases k with
  | char c =>
    rw [KeyPress.movesCursor] at h
    rw [onTable]
    split at h
    · next hc =>
      rw [onTableChar, hc]
      exact Table.onRow_down row
    · next hc =>
      rw [onTableChar, hc]
      exact Table.onRow_up row
    · next hc =>
      rw [onTableChar, hc]
      simp only [goFirst]
      split
      · exact Table.onRow_toFirst e.table
      · exact row
    · next hc =>
      rw [onTableChar, hc]
      exact Table.onRow_toLast e.table
    · cases h
  | up => exact Table.onRow_up row
  | down => exact Table.onRow_down row
  | _ => cases h

/-- An event that does not move the cursor leaves the table as it was or shows other rows. -/
theorem persists_step {event : EditorEvent} (h : e.movesCursor event = false) :
    e.table.Persists (e.step event).table := by
  by_cases time : event = .pause
  · subst time
    by_cases hs : e.status = .running
    · rw [step_of_status_eq hs]
      exact .same
    · rw [step_of_status_ne hs]
      exact .same
  · by_cases away : ∀ k, event = .key k → ¬e.AtTable
    · exact (still_step away time).table
    · simp only [not_forall, not_not] at away
      obtain ⟨k, rfl, table⟩ := away
      rw [movesCursor, table.dialog, table.search] at h
      rw [step_key table]
      exact persists_onTable (e := { e with notices := [] }) h

/-- Every event leaves the cursor on one of the rows. -/
theorem onRow_step (row : e.table.OnRow) (event : EditorEvent) : (e.step event).table.OnRow := by
  cases hm : e.movesCursor event with
  | false => exact (persists_step hm).onRow row
  | true =>
    by_cases hs : e.status = .running
    · cases event with
      | key k =>
        simp only [movesCursor, Bool.and_eq_true, Option.isNone_iff_eq_none,
          Bool.not_eq_true'] at hm
        obtain ⟨⟨dialog, search⟩, moves⟩ := hm
        rw [step_key ⟨hs, dialog, search⟩]
        exact onRow_onTable (e := { e with notices := [] }) moves row
      | _ => cases hm
    · rwa [step_of_status_ne hs]

/-- After any events the cursor is on one of the rows. -/
theorem onRow_after (row : e.table.OnRow) (events : List EditorEvent) :
    (e.after events).table.OnRow := by
  induction events generalizing e with
  | nil => exact row
  | cons event events ih => exact ih (onRow_step row event)

/-- The key to the next row. -/
def downKey : EditorEvent := .key (.char 'j')

/-- The key to the row before. -/
def upKey : EditorEvent := .key (.char 'k')

/-- A key that only moves the cursor stays at the table. -/
theorem step_downKey (h : e.AtTable) :
    (e.step downKey).AtTable ∧ (e.step downKey).table = e.table.down := by
  rw [downKey, step_key h]
  exact ⟨⟨h.running, h.dialog, h.search⟩, rfl⟩

theorem step_upKey (h : e.AtTable) :
    (e.step upKey).AtTable ∧ (e.step upKey).table = e.table.up := by
  rw [upKey, step_key h]
  exact ⟨⟨h.running, h.dialog, h.search⟩, rfl⟩

/-! ### Runs -/

/-- In every state that a user can reach, the table shows the variables of the document that match
the search, in their order and with distinct keys, and the cursor is on one of the rows. Every event
that does not move the cursor keeps it on the key it was on if that is shown then, and else puts it
on the first row. At the table, the keys to the next row and to the row before go around, so that
each of them takes the other one back. -/
theorem view_faithful {tree : Files.Tree} {path : Text} {mode : Int} {e₀ : Editor}
    (opened : openAt tree path mode = .ok e₀) {events : List EditorEvent}
    (inside : ∀ event ∈ events, event.isInside = true)
    (running : (e₀.after events).status = .running) :
    let e := e₀.after events
    let n := e.table.rows.length
    e.table.rows = e.provider.variableList.filter (·.isMatch e.search.content) ∧
      (e.table.rows.map (·.key)).Nodup ∧ e.table.OnRow ∧
      (∀ event, e.movesCursor event = false → e.table.KeepsCursor (e.step event).table) ∧
      (e.AtTable → 0 < n →
        (e.step downKey).table = { e.table with cursor := (e.table.cursor + 1) % n } ∧
        (e.step upKey).table = { e.table with cursor := (e.table.cursor + (n - 1)) % n } ∧
        ((e.step downKey).step upKey).table = e.table ∧
        ((e.step upKey).step downKey).table = e.table) := by
  intro e n
  obtain ⟨coherent, -⟩ := openAt_eq_ok opened
  obtain ⟨shown, -⟩ := invariant_after (C := fun _ => True) (P := fun _ => True)
    (fun _ _ => trivial) (fun _ => ⟨coherent, trivial⟩) inside (fun _ _ => trivial) running
  have rows : e.table.rows = e.provider.variableList.filter (·.isMatch e.search.content) := by
    rw [shown.rows, shown.listed]
  have distinct : (e.table.rows.map (·.key)).Nodup := by
    have keys : (e.provider.document.variableList.map (·.key)).Nodup := by
      rw [Document.map_key_variableList]
      exact Document.nodup_liveEntries _
    rw [rows]
    exact keys.sublist (List.filter_sublist.map _)
  have row : e.table.OnRow := by
    refine onRow_after ?_ events
    obtain ⟨p, -, rfl⟩ := exists_of_map_eq_ok opened
    exact fun nonempty => Table.cursor_load_lt _ nonempty
  refine ⟨rows, distinct, row, fun event still => (persists_step still).keepsCursor row,
    fun table pos => ?_⟩
  have within : e.table.cursor < n := row (List.length_pos_iff.1 pos)
  obtain ⟨tableDown, down⟩ := step_downKey table
  obtain ⟨tableUp, up⟩ := step_upKey table
  refine ⟨down.trans (Table.down_eq within), up.trans (Table.up_eq within), ?_, ?_⟩
  · rw [(step_upKey tableDown).2, down, Table.up_down within]
  · rw [(step_downKey tableUp).2, up, Table.down_up within]

/-- The cursor stays on a key while a search hides the row before it and shows that again, and goes
around the rows that are left. -/
theorem view_faithful_searched :
    let tree : Files.Tree :=
      ⟨[([("f" : Text).toBytes], .file 0)],
        [⟨("A=1\nB='x'\nA=2\nC=(x\n" : Text).toBytes, 0o644⟩], {}⟩
    let events : List EditorEvent := [downKey, downKey, .key (.char '/'), .fill .search "X",
      .key .enter]
    ∃ e₀, openAt tree "f" 0o644 = .ok e₀ ∧
      let e := e₀.after events
      e.table.rows.map (·.key) = ["B", "C"] ∧ (e.table.rows.map (·.key)).Nodup ∧
        (e.step downKey).table.cursor = 0 ∧ ((e.step downKey).step upKey).table = e.table ∧
        (e.step (.fill .search [])).highlightedKey? = some "C" := by
  intro tree events
  have facts : (openAt tree "f" 0o644).map (fun e₀ =>
      let e := e₀.after events
      (e.status, e.dialog, e.searchFocused, e.table, (e.step (.fill .search [])).table.rows)) =
      .ok (.running, none, false, ⟨[⟨"B", "x", false⟩, ⟨"C", "(x", true⟩], 1⟩,
        [⟨"B", "x", false⟩, ⟨"A", "2", false⟩, ⟨"C", "(x", true⟩]) := by decide +kernel
  obtain ⟨e₀, opened, facts⟩ := exists_of_map_eq_ok facts
  rw [Prod.mk.injEq, Prod.mk.injEq, Prod.mk.injEq, Prod.mk.injEq] at facts
  obtain ⟨running, dialog, search, shown, later⟩ := facts
  have inside : ∀ event ∈ events, event.isInside = true := by decide
  obtain ⟨-, distinct, -, keeps, moves⟩ := view_faithful opened inside running
  obtain ⟨down, -, back, -⟩ := moves ⟨running, dialog, search⟩ (by rw [shown]; decide)
  refine ⟨e₀, opened, by rw [shown]; rfl, distinct, ?_, back, ?_⟩
  · rw [down, shown]
    rfl
  · have there : (e₀.after events).table.highlighted? = some ⟨"C", "(x", true⟩ := by
      rw [shown]
      rfl
    refine (keeps (.fill .search []) rfl).kept ⟨"C", "(x", true⟩ there ?_
    rw [later]
    decide

end Editor

end VarFile
