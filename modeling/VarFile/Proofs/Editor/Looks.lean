import VarFile.Editor.Event
import VarFile.Proofs.Document.Listing

/-!
# What an editor shows

An editor edits a file through a provider and a list of changes; everything else is there to be
shown. `Editor.Coherent` says that what is shown is what is edited: the list of variables, the rows
of the table, the number of changes, and what a dialog was opened with. `Editor.Looks` is how an
event leaves an editor that changes only what is shown, and there is one lemma for each of the
functions that do no more.
-/

namespace VarFile

/-- What a dialog says about the provider and the changes in front of which it was opened. -/
def Dialog.Fits (p : Provider) (staged : List Staged) : Dialog → Prop
  | .edit key before _ =>
    key ∈ p.document.keys ∧ ((p.value? key).toOption.join).getD [] = before
  | .add taken .. => taken = p.document.keys
  | .rename old value taken .. =>
    (p.value? old).toOption.join = some value ∧ taken = p.document.keys.filter (· != old)
  | .delete key .. => key ∈ p.document.keys
  | .quit _ => p.document.modified = true
  | .save summary noted _ =>
    p.document.modified = true ∧
      summary = Change.summary ((staged.map (·.change)).reverse) p.document.neutralized ∧
      noted = !p.document.neutralized.isEmpty
  | .help => True

namespace Dialog.Fits

/-! What is entered in a dialog does not change what it says about the provider. -/

variable {p : Provider} {staged : List Staged} {d : Dialog}

theorem fill (h : d.Fits p staged) (name : FieldName) (text : Text) :
    (d.fill name text).Fits p staged := by
  cases d with
  | edit => rw [Dialog.fill]; split <;> exact h
  | add =>
    rw [Dialog.fill]
    split
    · exact h
    · split <;> exact h
  | rename => rw [Dialog.fill]; split <;> exact h
  | _ => exact h

theorem focus (h : d.Fits p staged) (name : FieldName) : (d.focus name).Fits p staged := by
  cases d with
  | add =>
    rw [Dialog.focus]
    split
    · exact h
    · split <;> exact h
  | _ => exact h

theorem focusButton (h : d.Fits p staged) (yes : Bool) : (d.focusButton yes).Fits p staged := by
  cases d <;> exact h

theorem press (h : d.Fits p staged) (k : KeyPress) : (d.press k).Fits p staged := by
  cases d with
  | add => rw [Dialog.press]; split <;> exact h
  | _ => exact h

end Dialog.Fits

namespace Editor

/-- What an editor shows is what it edits. -/
structure Coherent (e : Editor) : Prop where
  listed : e.listed = e.provider.variableList
  rows : e.table.rows = e.listed.filter (·.isMatch e.search.content)
  unsaved : e.unsaved = e.staged.length
  dialog : ∀ d, e.dialog = some d → d.Fits e.provider e.staged

/-- What is edited in an editor is what was edited before, what is shown is still that, and the
editor was not closed. -/
structure Looks (e e' : Editor) : Prop where
  tree : e'.tree = e.tree
  provider : e'.provider = e.provider
  staged : e'.staged = e.staged
  closed : e'.status = .closed → e.status = .closed
  coherent : e.Coherent → e'.Coherent

variable {e : Editor}

/-- What is edited, and what of that is shown apart from a dialog. -/
def held (e : Editor) :=
  (e.tree, e.provider, e.staged, e.status, e.listed, e.table.rows, e.search.content, e.unsaved)

/-- Only a dialog may be another one, as long as it fits. -/
theorem Looks.of_held {e e' : Editor} (same : e'.held = e.held)
    (dialog : e.Coherent → ∀ d, e'.dialog = some d → d.Fits e.provider e.staged) : e.Looks e' := by
  simp only [held, Prod.mk.injEq] at same
  obtain ⟨tree, provider, staged, status, listed, rows, search, unsaved⟩ := same
  refine ⟨tree, provider, staged, fun h => status ▸ h, fun h => ⟨?_, ?_, ?_, ?_⟩⟩
  · rw [listed, provider, h.listed]
  · rw [rows, listed, search, h.rows]
  · rw [unsaved, staged, h.unsaved]
  · rw [provider, staged]
    exact dialog h

/-- Neither what is edited nor a dialog is another one. -/
theorem Looks.of_dialog {e e' : Editor} (same : e'.held = e.held) (dialog : e'.dialog = e.dialog) :
    e.Looks e' :=
  .of_held same fun h d hd => h.dialog d (dialog ▸ hd)

theorem Looks.refl (e : Editor) : e.Looks e := .of_dialog rfl rfl

theorem Looks.trans {e e' e'' : Editor} (h : e.Looks e') (h' : e'.Looks e'') : e.Looks e'' :=
  ⟨h'.tree.trans h.tree, h'.provider.trans h.provider, h'.staged.trans h.staged,
    fun c => h.closed (h'.closed c), fun c => h'.coherent (h.coherent c)⟩

/-- A refreshed editor shows what it edits. -/
theorem coherent_refresh (h : ∀ d, e.dialog = some d → d.Fits e.provider e.staged) :
    e.refresh.Coherent := ⟨rfl, rfl, rfl, h⟩

/-! ### Messages -/

theorem looks_notify (text : Text) : e.Looks (e.notify text) := .of_dialog rfl rfl

theorem looks_notifyError (text : Text) : e.Looks (e.notifyError text) := .of_dialog rfl rfl

theorem looks_fail (cause : EditorFailure) : e.Looks (e.fail cause) :=
  ⟨rfl, rfl, rfl, fun closed => (by cases closed),
    fun h => ⟨h.listed, h.rows, h.unsaved, h.dialog⟩⟩

theorem looks_copy : e.Looks e.copy := by
  rw [copy]
  split
  · exact looks_notify _
  · exact .of_dialog rfl rfl

/-! ### The table -/

/-- The cursor may be on any row. -/
theorem looks_cursor (n : Nat) : e.Looks { e with table := { e.table with cursor := n } } :=
  .of_dialog rfl rfl

theorem looks_goFirst : e.Looks e.goFirst := by
  rw [goFirst]
  split
  · exact .of_dialog rfl rfl
  · exact .of_dialog rfl rfl

private theorem mem_keys_of_highlightedKey? (h : e.Coherent) {key : Text}
    (hk : e.highlightedKey? = some key) : key ∈ e.provider.document.keys := by
  obtain ⟨v, hv, rfl⟩ := Option.map_eq_some_iff.1 hk
  have row : v ∈ e.table.rows := List.mem_of_getElem? hv
  rw [h.rows, h.listed] at row
  rw [← Document.map_key_variableList]
  exact List.mem_map_of_mem (List.mem_filter.1 row).1

private theorem takenKeys_eq (h : e.Coherent) : e.takenKeys = e.provider.document.keys := by
  rw [takenKeys, h.listed]
  exact Document.map_key_variableList

/-! ### The search field -/

theorem looks_setSearch (f : Field) : e.Looks (e.setSearch f) := by
  simp only [setSearch]
  split
  · exact ⟨rfl, rfl, rfl, id, fun h => coherent_refresh h.dialog⟩
  · next same =>
    rw [bne_iff_ne, ne_eq, Decidable.not_not] at same
    refine .of_dialog ?_ rfl
    simp only [held, same]

theorem looks_focusSearch : e.Looks e.focusSearch := by
  rw [focusSearch]
  split
  · exact .refl e
  · exact .of_dialog rfl rfl

theorem looks_openSearch : e.Looks e.openSearch := by
  have shown : e.Looks { e with searchShown := true } := .of_dialog rfl rfl
  exact shown.trans looks_focusSearch

theorem looks_clearSearch : e.Looks e.clearSearch :=
  (looks_setSearch (e.search.fill [])).trans (.of_dialog rfl rfl)

/-! ### Dialogs -/

theorem looks_backToTable : e.Looks e.backToTable :=
  .of_held rfl fun _ _ hd => by cases hd

/-- A dialog that fits may be opened. -/
theorem looks_ask {d : Dialog} (fits : e.Coherent → d.Fits e.provider e.staged) :
    e.Looks (e.ask d) :=
  .of_held rfl fun h _ hd => Option.some.inj hd ▸ fits h

theorem looks_askValue : e.Looks e.askValue := by
  rw [askValue]
  split
  · exact .refl e
  · next hk => exact looks_ask fun h => ⟨mem_keys_of_highlightedKey? h hk, rfl⟩

theorem looks_askNew : e.Looks e.askNew := looks_ask takenKeys_eq

theorem looks_askName : e.Looks e.askName := by
  rw [askName]
  split
  · exact .refl e
  · next key hk =>
    split
    · exact looks_notifyError _
    · next value hv =>
      exact looks_ask fun h => ⟨hv, congrArg (List.filter (· != key)) (takenKeys_eq h)⟩

theorem looks_askDelete : e.Looks e.askDelete := by
  rw [askDelete]
  split
  · exact .of_dialog rfl rfl
  · have disarmed : e.Looks { e with deleteArmed := false } := .of_dialog rfl rfl
    refine disarmed.trans ?_
    simp only
    split
    · exact .refl _
    · next hk => exact looks_ask fun h => mem_keys_of_highlightedKey? h hk

theorem looks_askWrite : e.Looks e.askWrite := by
  rw [askWrite]
  split
  · exact looks_notify _
  · next hm =>
    rw [Bool.not_eq_true', Bool.not_eq_false] at hm
    exact looks_ask fun _ => ⟨hm, rfl, rfl⟩

/-- Shows a dialog after its fields changed. -/
theorem looks_present {d : Dialog} (fits : e.Coherent → d.Fits e.provider e.staged) :
    e.Looks (e.present d) := by
  rw [present.eq_def]
  split
  · split
    · exact looks_ask fits
    · exact (looks_ask fits).trans (looks_fail _)
  · exact looks_ask fits

theorem looks_refuse (r : RefusedKey) {d : Dialog}
    (fits : e.Coherent → d.Fits e.provider e.staged) : e.Looks (e.refuse r d) := by
  rw [refuse]
  split
  · exact looks_ask fits
  · exact (looks_ask fits).trans (looks_fail _)

/-! ### Events that change only what is shown -/

theorem looks_onSearch (k : KeyPress) : e.Looks (e.onSearch k) := by
  rw [onSearch.eq_def]
  split
  · exact looks_backToTable
  · exact looks_clearSearch
  · exact looks_setSearch _

theorem looks_onHelp (k : KeyPress) : e.Looks (e.onHelp k) := by
  rw [onHelp.eq_def]
  split
  · exact looks_backToTable
  · split
    · exact looks_backToTable
    · exact looks_backToTable
    · exact .refl e
  · exact .refl e

theorem looks_onFill (name : FieldName) (text : Text) : e.Looks (e.onFill name text) := by
  rw [onFill]
  split
  · split
    · exact looks_setSearch _
    · exact .refl e
  · next d hd => exact looks_present fun h => (h.dialog d hd).fill name text

theorem looks_onFocus (name : FieldName) : e.Looks (e.onFocus name) := by
  rw [onFocus]
  split
  · split
    · exact looks_focusSearch
    · exact .refl e
  · next d hd => exact looks_ask fun h => (h.dialog d hd).focus name

theorem looks_onClick (n : Nat) : e.Looks (e.onClick n) := by
  rw [onClick]
  split
  · exact looks_backToTable
  · exact .refl e
  · split
    · exact looks_askValue
    · exact .refl e

end Editor

end VarFile
