import VarFile.Proofs.Editor.Undo

/-!
# Events away from the table

What happens away from the table leaves it as it was or shows other rows in it (`Table.Persists`),
and has nothing to do with the keys that are pressed twice there. `Editor.Still` says both, and
`Editor.still_step` that it holds of every event but a key at the table and a time that runs out.
-/

namespace VarFile

/-- The table as it was, or with other rows. -/
inductive Table.Persists (t : Table) : Table → Prop
  | same : t.Persists t
  | loaded (rows : List Variable) : t.Persists (t.load rows)

namespace Editor

/-- Which of the keys that act on the second of two presses were pressed once. -/
def chords (e : Editor) : Bool × Bool := (e.deleteArmed, e.firstArmed)

/-- The table is as it was but for its rows, and so are the keys that were pressed once. -/
structure Still (e e' : Editor) : Prop where
  table : e.table.Persists e'.table
  chords : e'.chords = e.chords

variable {e : Editor}

private theorem Still.of_same {e' : Editor}
    (same : (e'.table, e'.chords) = (e.table, e.chords)) : e.Still e' := by
  rw [Prod.mk.injEq] at same
  exact ⟨same.1 ▸ .same, same.2⟩

/-- What was done elsewhere before does not matter. -/
theorem Still.after {e₁ e' : Editor} (h : e₁.Still e')
    (same : (e₁.table, e₁.chords) = (e.table, e.chords)) : e.Still e' := by
  rw [Prod.mk.injEq] at same
  exact ⟨same.1 ▸ h.table, same.2 ▸ h.chords⟩

/-! ### Asking and showing -/

theorem still_focusSearch : e.Still e.focusSearch := by
  rw [focusSearch]
  split
  · exact .of_same rfl
  · exact .of_same rfl

theorem still_setSearch (f : Field) : e.Still (e.setSearch f) := by
  simp only [setSearch]
  split
  · exact ⟨.loaded _, rfl⟩
  · exact .of_same rfl

theorem still_copy : e.Still e.copy := by
  rw [copy]
  split
  · exact .of_same rfl
  · exact .of_same rfl

theorem still_askValue : e.Still e.askValue := by
  rw [askValue]
  split
  · exact .of_same rfl
  · exact .of_same rfl

theorem still_askName : e.Still e.askName := by
  rw [askName]
  split
  · exact .of_same rfl
  · split
    · exact .of_same rfl
    · exact .of_same rfl

theorem still_askWrite : e.Still e.askWrite := by
  rw [askWrite]
  split
  · exact .of_same rfl
  · exact .of_same rfl

theorem still_askQuit : e.Still e.askQuit := by
  rw [askQuit]
  split
  · exact .of_same rfl
  · exact .of_same rfl

theorem still_present (d : Dialog) : e.Still (e.present d) := by
  rw [present.eq_def]
  split
  · split
    · exact .of_same rfl
    · exact .of_same rfl
  · exact .of_same rfl

theorem still_refuse (r : RefusedKey) (d : Dialog) : e.Still (e.refuse r d) := by
  rw [refuse]
  split
  · exact .of_same rfl
  · exact .of_same rfl

/-! ### Changing and writing -/

theorem still_storeOutside (key value : Text) : e.Still (e.storeOutside key value) := by
  simp only [storeOutside]
  split
  · exact .of_same rfl
  · exact .of_same rfl

theorem still_stage (change : Change) (apply : Provider → Provider × Except UpdateError Unit)
    (done : Text) : e.Still (e.stage change apply done) := by
  obtain ⟨-, hs⟩ | ⟨cause, text, -, hs⟩ | ⟨cause, -, hs⟩ := e.stage_cases change apply done
  · rw [hs]
    exact ⟨.loaded _, rfl⟩
  · rw [hs]
    exact .of_same rfl
  · rw [hs]
    exact .of_same rfl

theorem still_undo : e.Still e.undo := by
  rw [undo]
  split
  · exact .of_same rfl
  · exact ⟨.loaded _, rfl⟩

theorem still_write : e.Still e.write := by
  cases hr : (Provider.save e.tree e.provider).result with
  | ok =>
    rw [write_of_ok hr]
    exact ⟨.loaded _, rfl⟩
  | error cause =>
    rw [write_of_error hr]
    split
    · exact .of_same rfl
    · exact .of_same rfl

/-! ### Events -/

theorem still_onSearch (k : KeyPress) : e.Still (e.onSearch k) := by
  rw [onSearch.eq_def]
  split
  · exact .of_same rfl
  · have cleared := still_setSearch (e := e) (e.search.fill [])
    exact ⟨cleared.table, cleared.chords⟩
  · exact still_setSearch _

theorem still_submit (d : Dialog) : e.Still (e.submit d) := by
  have staged (change : Change) (apply : Provider → Provider × Except UpdateError Unit)
      (done : Text) : e.Still (e.backToTable.stage change apply done) :=
    (still_stage change apply done).after rfl
  rw [submit.eq_def]
  split
  · rw [submitValue]
    split
    · exact .of_same rfl
    · exact staged ..
  · exact .of_same rfl
  · simp only
    split
    · exact still_refuse ..
    · exact staged ..
  · simp only
    split
    · exact .of_same rfl
    · split
      · exact still_refuse ..
      · exact staged ..
  · exact .of_same rfl

theorem still_confirm (d : Dialog) : e.Still (e.confirm d) := by
  cases d with
  | delete =>
    rw [confirm, submitDelete]
    exact (still_stage ..).after rfl
  | save =>
    rw [confirm]
    exact still_write.after rfl
  | _ => exact .of_same rfl

theorem still_onForm (d : Dialog) (k : KeyPress) : e.Still (e.onForm d k) := by
  cases k with
  | escape => exact .of_same rfl
  | enter => exact still_submit d
  | _ => exact still_present _

theorem still_onQuestion (d : Dialog) (yes : Bool) (k : KeyPress) :
    e.Still (e.onQuestion d yes k) := by
  rw [onQuestion.eq_def]
  split
  · exact .of_same rfl
  · split
    · exact still_confirm d
    · exact .of_same rfl
  · exact .of_same rfl
  · exact .of_same rfl
  · split
    · exact still_confirm d
    · exact .of_same rfl
    · exact .of_same rfl
    · exact .of_same rfl
    · split
      · exact .of_same rfl
      · exact .of_same rfl
    · exact .of_same rfl
  · exact .of_same rfl

theorem still_onHelp (k : KeyPress) : e.Still (e.onHelp k) := by
  rw [onHelp.eq_def]
  split
  · exact .of_same rfl
  · split
    · exact .of_same rfl
    · exact .of_same rfl
    · exact .of_same rfl
  · exact .of_same rfl

/-- A key in a dialog or in the search field. -/
theorem still_onKey (away : ¬(e.dialog = none ∧ e.searchFocused = false)) (k : KeyPress) :
    e.Still (e.onKey k) := by
  rw [onKey.eq_def]
  split
  · next hd =>
    split
    · exact still_onSearch k
    · next hs => exact absurd ⟨hd, Bool.not_eq_true _ ▸ hs⟩ away
  · exact still_onHelp k
  · exact still_onQuestion ..
  · exact still_onQuestion ..
  · exact still_onQuestion ..
  · exact still_onForm ..

/-- An event that is neither a key at the table nor a time that runs out. -/
theorem still_step {event : EditorEvent} (away : ∀ k, event = .key k → ¬e.AtTable)
    (time : event ≠ .pause) : e.Still (e.step event) := by
  by_cases hs : e.status = .running
  · rw [step_of_status_eq hs]
    cases event with
    | key k =>
      have elsewhere : ¬(e.dialog = none ∧ e.searchFocused = false) :=
        fun table => away k rfl ⟨hs, table.1, table.2⟩
      exact (still_onKey (e := { e with notices := [] }) elsewhere k).after rfl
    | fill name text =>
      rw [handle, onFill]
      split
      · split
        · exact (still_setSearch _).after rfl
        · exact .of_same rfl
      · exact (still_present _).after rfl
    | focus name =>
      rw [handle, onFocus]
      split
      · split
        · exact still_focusSearch.after rfl
        · exact .of_same rfl
      · exact .of_same rfl
    | pause => exact absurd rfl time
    | click n =>
      rw [handle, onClick]
      split
      · exact .of_same rfl
      · exact .of_same rfl
      · split
        · exact still_askValue.after rfl
        · exact .of_same rfl
    | storedOutside key value => exact (still_storeOutside ..).after rfl
  · rw [step_of_status_ne hs]
    exact .of_same rfl

/-- A key at the table, without the messages of the last event. -/
theorem step_key (h : e.AtTable) (k : KeyPress) :
    e.step (.key k) = onTable { e with notices := [] } k := by
  rw [step_of_status_eq h.running, handle, onKey]
  simp only [h.dialog, h.search]
  rfl

end Editor

end VarFile
