import VarFile.Proofs.Editor.Stack
import VarFile.Proofs.Editor.Undo
import VarFile.Proofs.Rendering.Reread

/-!
# Changes that were not written

An editor has three accounts of whether something was not written: the flag of its document, the
changes that can be taken back, and how many of them it shows. They agree in every state that a user
can reach by entering values that are stored as they are (`UndoLog.nothing_lost`), since every
change that is accepted changes what is stored under some key (`Dialog.Makes.modified`). So nothing
is lost when the editor is closed without a question, or when there is nothing to write.
-/

namespace VarFile

/-- There is no problem with a valid key that is not taken. -/
theorem Key.problem?_eq_none_iff {key : Text} {taken : List Text} :
    problem? key taken = none ↔ isValid key = true ∧ key ∉ taken := by
  rw [problem?]
  split
  · next blank =>
    rw [blank]
    simp [isValid]
  · split
    · next invalid =>
      have invalid : isValid key = false := by simpa using invalid
      simp [invalid]
    · next valid =>
      have valid : isValid key = true := by simpa using valid
      split
      · next there => simp [List.contains_iff_mem.1 there]
      · next free =>
        rw [List.contains_iff_mem] at free
        simp [valid, free]

/-- A change that is accepted marks the document as changed, if the value that was entered is stored
as it is. -/
theorem Dialog.Makes.modified {d : Dialog} {change : Change}
    {apply : Provider → Provider × Except UpdateError Unit} {p : Provider} {staged : List Staged}
    (makes : d.Makes change apply) (fits : d.Fits p staged)
    (canonical : ∀ v ∈ d.entered?, v.reread = v) (accepted : (apply p).2 = .ok ()) :
    (apply p).1.document.modified = true := by
  cases makes with
  | @edit key before value changed =>
    obtain ⟨valid, text, quoted⟩ := Document.set_some_eq_ok_iff.1 accepted
    refine Document.modified_set_of_ne valid quoted (canonical _ rfl) fun same => ?_
    have shown : ((p.document.value? key).toOption.join).getD [] = before := fits.2
    rw [same] at shown
    exact changed shown
  | @add taken key value refused free =>
    obtain ⟨valid, text, quoted⟩ := Document.set_some_eq_ok_iff.1 accepted
    have all : taken = p.document.keys := fits
    rw [Key.problem?_eq_none_iff, all] at free
    exact Document.modified_set_of_not_mem valid quoted free.2
  | @rename old value taken renamed refused changed free =>
    change (p.rename old (enteredKey renamed) value).2 = .ok () at accepted
    change (p.rename old (enteredKey renamed) value).1.document.modified = true
    obtain ⟨cause, stopped⟩ | ⟨deleted, moved⟩ := p.rename_cases old (enteredKey renamed) value
    · rw [stopped] at accepted
      cases accepted
    · have there := Document.mem_keys_of_value? fits.1
      have valid := Document.unset_eq_ok_iff.1 deleted
      rw [moved]
      have gone := Document.modified_unset_of_mem valid there
      exact Document.modified_set_of_modified gone (enteredKey renamed) (some value)
  | @delete key line value yes =>
    have valid := Document.unset_eq_ok_iff.1 accepted
    exact Document.modified_unset_of_mem valid fits

/-! ### The accounts of what was not written -/

namespace Work

/-- The flag of the document is set exactly if there are changes, also before each of them. -/
def Flagged : Work → Prop := Linked (fun _ now => now.modified = true) (fun c => c.modified = false)

/-- Every step of values that are stored as they are keeps that. -/
theorem flagged_step {w w' : Work} (h : w.Flagged) (step : w.Step (fun v => v.reread = v) w') :
    w'.Flagged :=
  linked_step h step (fun fits makes canonical accepted => makes.modified fits canonical accepted)
    rfl

/-- The flag of the document tells whether there are changes. -/
theorem Flagged.modified_iff {w : Work} (h : w.Flagged) :
    w.provider.document.modified = true ↔ w.staged ≠ [] := by
  rw [Flagged, Linked] at h
  cases hs : w.staged with
  | nil =>
    rw [hs] at h
    have unset : w.provider.document.modified = false := h
    simp [unset]
  | cons last older =>
    rw [hs] at h
    have set : w.provider.document.modified = true := h.1
    simp [set]

end Work

namespace Editor

variable {e e' : Editor}

/-- An editor goes on, or has ended with a failure. -/
def Remains (e e' : Editor) : Prop := e'.status = e.status ∨ ∃ cause, e'.status = .failed cause

private theorem remains_stage {change : Change}
    {apply : Provider → Provider × Except UpdateError Unit}
    {done : Text} : e.Remains (e.stage change apply done) := by
  obtain ⟨-, hs⟩ | ⟨cause, text, -, hs⟩ | ⟨cause, -, hs⟩ := e.stage_cases change apply done
  · rw [hs]
    exact .inl rfl
  · rw [hs]
    exact .inl rfl
  · rw [hs]
    exact .inr ⟨_, rfl⟩

private theorem remains_undo : e.Remains e.undo := by
  rw [undo]
  split
  · exact .inl rfl
  · exact .inl rfl

private theorem remains_write : e.Remains e.write := by
  cases hr : (Provider.save e.tree e.provider).result with
  | ok =>
    rw [write_of_ok hr]
    exact .inl rfl
  | error cause =>
    rw [write_of_error hr]
    split
    · exact .inl rfl
    · exact .inr ⟨_, rfl⟩

/-- An editor that remains was not closed. -/
theorem Remains.status_ne (h : e.Remains e') (running : e.status = .running) :
    e'.status ≠ .closed := by
  obtain same | ⟨cause, failed⟩ := h
  · rw [same, running]
    exact fun closed => by cases closed
  · rw [failed]
    exact fun closed => by cases closed

/-- An editor is closed only if nothing was changed or after a question. -/
theorem may_of_closed {r : Request} (effect : e.Effect r e') (running : e.status = .running)
    (closed : e'.status = .closed) :
    e.isModified = false ∨ ∃ yes, e.dialog = some (.quit yes) := by
  cases effect with
  | looks looks =>
    have before := looks.closed closed
    rw [running] at before
    cases before
  | closes looks may => exact may
  | makes => exact absurd closed (remains_stage.status_ne running)
  | undoes => exact absurd closed (remains_undo.status_ne running)
  | writes => exact absurd closed (remains_write.status_ne running)

/-- The key that asks whether to write the file. -/
def saveKey : EditorEvent := .key (.char 's')

/-- What the key to write the file does at the table. -/
theorem step_saveKey (h : e.AtTable) : e.step saveKey = askWrite { e with notices := [] } := by
  rw [step_of_status_eq h.running, saveKey, handle, onKey]
  simp only [h.dialog, h.search]
  rfl

/-- If there is nothing to write, the key to write the file says so and does no more. -/
theorem isModified_of_step_saveKey (h : e.AtTable)
    (refused : (e.step saveKey).notices = [⟨"No changes to save", false⟩]) :
    e.isModified = false ∧ (e.step saveKey).journal = e.journal := by
  rw [step_saveKey h] at refused ⊢
  have looks : Looks { e with notices := [] } (askWrite { e with notices := [] }) := looks_askWrite
  refine ⟨?_, looks.journal⟩
  cases hm : e.isModified with
  | false => rfl
  | true =>
    have asked : isModified { e with notices := [] } = true := hm
    rw [askWrite, asked] at refused
    cases refused

end Editor

namespace UndoLog

variable {tree : Files.Tree} {path : Text} {mode : Int} {s₀ : UndoLog} {events : List EditorEvent}

/-- In all states that a user can reach by entering values that are stored as they are, an editor
shows what it edits, and the flag of its document is set exactly as long as there are changes. -/
theorem flagged_run (opened : openAt tree path mode = .ok s₀)
    (inside : ∀ event ∈ events, event.isInside = true)
    (canonical : ∀ v ∈ s₀.editor.entered events, v.reread = v)
    (running : (s₀.run events).editor.status = .running) :
    (s₀.run events).editor.Coherent ∧ (s₀.run events).editor.work.Flagged := by
  obtain ⟨coherent, d, loads, work⟩ := Editor.openAt_eq_ok (editor_of_openAt opened)
  have start : s₀.editor.work.Flagged := by
    obtain ⟨bytes, -, -, -, unset, -⟩ := Storage.isAt_of_loads loads
    rw [work]
    exact unset
  rw [editor_run] at running ⊢
  exact Editor.invariant_after Work.flagged_step (fun _ => ⟨coherent, start⟩) inside canonical
    running

/-- In all these states, the document is marked as changed exactly if there are changes to take
back, and exactly then changes are shown as not written. So an editor that is closed without the
question whether to discard changes has the records that were read or written last, and one that
says that there is nothing to write has no changes, and keeps everything as it is. -/
theorem nothing_lost (opened : openAt tree path mode = .ok s₀)
    (inside : ∀ event ∈ events, event.isInside = true)
    (canonical : ∀ v ∈ s₀.editor.entered events, v.reread = v)
    (running : (s₀.run events).editor.status = .running) :
    let s := s₀.run events
    let e := s.editor
    (e.isModified = true ↔ e.staged ≠ []) ∧ (e.isDirty = true ↔ e.staged ≠ []) ∧
      (∀ event : EditorEvent, event.isInside = true → (e.step event).status = .closed →
        (∃ yes, e.dialog = some (.quit yes)) ∨ e.provider.document.records = s.settled.records) ∧
      (e.AtTable → (e.step Editor.saveKey).notices = [⟨"No changes to save", false⟩] →
        e.staged = [] ∧ e.provider.document.records = s.settled.records ∧
          (e.step Editor.saveKey).journal = e.journal) := by
  intro s e
  obtain ⟨coherent, flagged⟩ := flagged_run opened inside canonical running
  obtain ⟨pending, settled⟩ := agrees_run (fun _ => agrees_of_openAt opened) inside running
  have modified_iff : e.isModified = true ↔ e.staged ≠ [] := flagged.modified_iff
  have unchanged (unset : e.isModified = false) :
      e.staged = [] ∧ e.provider.document.records = s.settled.records := by
    have nothing : e.staged = [] := by
      by_contra changes
      rw [modified_iff.2 changes] at unset
      cases unset
    have empty : s.pending = [] := by
      rw [← pending]
      exact congrArg (List.map Staged.before) nothing
    rw [empty] at settled
    exact ⟨nothing, congrArg Checkpoint.records settled⟩
  refine ⟨modified_iff, ?_, fun event within closed => ?_, fun table refused => ?_⟩
  · rw [Editor.isDirty, coherent.unsaved, bne_iff_ne, ne_eq, List.length_eq_zero_iff]
  · have effect := Editor.effect_step running within
    obtain unset | asked := Editor.may_of_closed effect running closed
    · exact .inr (unchanged unset).2
    · exact .inl asked
  · obtain ⟨unset, same⟩ := Editor.isModified_of_step_saveKey table refused
    obtain ⟨nothing, records⟩ := unchanged unset
    exact ⟨nothing, records, same⟩

/-- A quoted value is edited and written, a key is added and taken back; then the editor is closed
without a question. -/
theorem nothing_lost_quit :
    let tree : Files.Tree :=
      ⟨[([("f" : Text).toBytes], .file 0)], [⟨("A='x'\nB=(x\n" : Text).toBytes, 0o644⟩], {}⟩
    let key (c : Char) : EditorEvent := .key (.char (.ofChar c))
    let events : List EditorEvent := [key 'i', .fill .value "y z", .key .enter, key 's', key 'y',
      key 'o', .fill .newKey "C", .key .enter, .fill .newValue "1", .key .enter, key 'u']
    ∃ s, openAt tree "f" 0o644 = .ok s ∧ ((s.run events).editor.step (key 'q')).status = .closed ∧
      (s.run events).editor.provider.document.records = (s.run events).settled.records := by
  intro tree key events
  have facts : (openAt tree "f" 0o644).map (fun s =>
      ((s.run events).editor.status, s.editor.entered events, (s.run events).editor.dialog,
        ((s.run events).editor.step (key 'q')).status)) =
      .ok (.running, ["y z", "1"], none, .closed) := by decide +kernel
  obtain ⟨s, opened, facts⟩ := exists_of_map_eq_ok facts
  rw [Prod.mk.injEq, Prod.mk.injEq, Prod.mk.injEq] at facts
  obtain ⟨running, entered, table, closed⟩ := facts
  have inside : ∀ event ∈ events, event.isInside = true := by decide
  have canonical : ∀ v ∈ s.editor.entered events, v.reread = v := by
    rw [entered]
    decide +kernel
  obtain ⟨-, -, closing, -⟩ := nothing_lost opened inside canonical running
  refine ⟨s, opened, closed, ?_⟩
  obtain ⟨yes, asked⟩ | same := closing (key 'q') rfl closed
  · rw [table] at asked
    cases asked
  · exact same

end UndoLog

end VarFile
