import VarFile.Proofs.Editor.Looks

/-!
# What an event does to an editor

`Editor.request` is what an event asks an editor for, and `Editor.Effect` all that can come of it:
something else is shown, the editor is closed, a dialog makes its change, the last change is taken
back, or the file is written. `Editor.effect_handle` says that every event of a user has one of
these effects, so that what an editor keeps is shown for each of the five.
-/

namespace VarFile

/-! ### What an event asks for -/

/-- What an event asks an editor for. -/
inductive Request where
  | change (apply : Provider → Provider × Except UpdateError Unit)
  | undo
  | write
  | other

/-- Whether an event comes from the user of the editor. -/
def EditorEvent.isInside : EditorEvent → Bool
  | .storedOutside .. => false
  | _ => true

/-- Whether a key says yes to a question, of which the button `yes` has the focus or not. -/
def KeyPress.isYes (yes : Bool) : KeyPress → Bool
  | .enter => yes
  | .char c => c.toChar? == some 'y'
  | _ => false

/-- Whether a key at the table takes back a change. -/
def KeyPress.isUndo : KeyPress → Bool
  | .char c => c.toChar? == some 'u'
  | _ => false

namespace Dialog

/-- What the enter key in a dialog that asks for a text asks for. -/
def submitted : Dialog → Request
  | .edit key before value =>
    if value.content = before then .other else .change (·.set key value.content)
  | .add taken key value true _ =>
    match Key.problem? (Dialog.enteredKey key) taken with
    | none => .change (·.set (Dialog.enteredKey key) value.content)
    | some _ => .other
  | .rename old value taken renamed _ =>
    if Dialog.enteredKey renamed = old then .other
    else
      match Key.problem? (Dialog.enteredKey renamed) taken with
      | none => .change (·.rename old (Dialog.enteredKey renamed) value)
      | some _ => .other
  | _ => .other

/-- What a key in a dialog asks for. -/
def request (k : KeyPress) : Dialog → Request
  | .delete key _ yes => if k.isYes yes then .change (·.delete key) else .other
  | .save _ _ yes => if k.isYes yes then .write else .other
  | .quit _ | .help => .other
  | d => if k = .enter then d.submitted else .other

/-- The dialogs that ask for a text. -/
def isForm : Dialog → Bool
  | .edit .. | .add .. | .rename .. => true
  | _ => false

end Dialog

namespace Editor

/-- What an event asks for. -/
def request (e : Editor) : EditorEvent → Request
  | .key k =>
    match e.dialog with
    | some d => d.request k
    | none => if !e.searchFocused && k.isUndo then .undo else .other
  | _ => .other

end Editor

/-! ### What comes of it -/

/-- The change that a dialog makes when it is closed, and what is done to the provider then. -/
inductive Dialog.Makes : Dialog → Change → (Provider → Provider × Except UpdateError Unit) → Prop
  | edit {key before : Text} {value : Field} (changed : value.content ≠ before) :
    (Dialog.edit key before value).Makes
      { kind := .set, key, value := value.content, previous := some before }
      (·.set key value.content)
  | add {taken : List Text} {key value : Field} {refused : Option RefusedKey}
      (free : Key.problem? (Dialog.enteredKey key) taken = none) :
    (Dialog.add taken key value true refused).Makes
      { kind := .set, key := Dialog.enteredKey key, value := value.content }
      (·.set (Dialog.enteredKey key) value.content)
  | rename {old value : Text} {taken : List Text} {renamed : Field} {refused : Option RefusedKey}
      (changed : Dialog.enteredKey renamed ≠ old)
      (free : Key.problem? (Dialog.enteredKey renamed) taken = none) :
    (Dialog.rename old value taken renamed refused).Makes
      { kind := .renamed, key := Dialog.enteredKey renamed, value, formerKey := some old }
      (·.rename old (Dialog.enteredKey renamed) value)
  | delete {key line value : Text} {yes : Bool} :
    (Dialog.delete key line yes).Makes { kind := .deleted, key, value } (·.delete key)

namespace Editor

/-- What comes of a request. -/
inductive Effect (e : Editor) : Request → Editor → Prop
  /-- Something else is shown. -/
  | looks {e' : Editor} (looks : e.Looks e') : Effect e .other e'
  /-- The editor is closed, after a question or because nothing was changed. -/
  | closes {e' : Editor} (looks : e.Looks e')
      (may : e.isModified = false ∨ ∃ yes, e.dialog = some (.quit yes)) : Effect e .other e'.exit
  /-- A dialog makes its change. -/
  | makes {d : Dialog} {change : Change} {apply : Provider → Provider × Except UpdateError Unit}
      {done : Text} (dialog : e.dialog = some d) (makes : d.Makes change apply) :
    Effect e (.change apply) (e.backToTable.stage change apply done)
  /-- The last change is taken back. -/
  | undoes (dialog : e.dialog = none) : Effect e .undo e.undo
  /-- The file is written. -/
  | writes {summary : List SummaryLine} {noted yes : Bool}
      (dialog : e.dialog = some (.save summary noted yes)) : Effect e .write e.backToTable.write

variable {e : Editor}

/-! ### Changing and writing -/

/-- A change that is accepted is kept with the state before it, which is put back if the key is
refused; a value without a stored form ends the editor. -/
theorem stage_cases (e : Editor) (change : Change)
    (apply : Provider → Provider × Except UpdateError Unit) (done : Text) :
    ((apply e.provider).2 = .ok () ∧
        e.stage change apply done =
          (refresh
            { e with
              provider := (apply e.provider).1
              staged := ⟨change, e.provider.checkpoint⟩ :: e.staged }).notify done) ∨
      (∃ cause text, (apply e.provider).2 = .error (.invalidKey cause) ∧
        e.stage change apply done =
          notifyError { e with provider := (apply e.provider).1.restore e.provider.checkpoint }
            text) ∨
      ∃ cause, (apply e.provider).2 = .error cause ∧
        e.stage change apply done = fail { e with provider := (apply e.provider).1 }
          (.update cause) := by
  rw [stage]
  obtain ⟨p, result⟩ := apply e.provider
  cases result with
  | ok => exact .inl ⟨rfl, rfl⟩
  | error cause =>
    cases cause with
    | invalidKey cause => exact .inr (.inl ⟨_, _, rfl, rfl⟩)
    | unstorable cause => exact .inr (.inr ⟨_, rfl, rfl⟩)

/-- The editor with what a write leaves of its file and its document. -/
def withSaved (e : Editor) : Editor :=
  { e with
    tree := (Provider.save e.tree e.provider).tree
    provider := { e.provider with document := (Provider.save e.tree e.provider).document } }

/-- A write that succeeds forgets the changes. -/
theorem write_of_ok (h : (Provider.save e.tree e.provider).result = .ok ()) :
    e.write =
      ({ e.withSaved with staged := [] }.refresh).notify
        ("Wrote " ++ e.provider.path : Text).escapedMarkup := by
  simp only [write, h]
  rfl

/-- A write that fails keeps the changes, and ends the editor if the file is not to blame. -/
theorem write_of_error {cause : Storage.Error}
    (h : (Provider.save e.tree e.provider).result = .error cause) :
    e.write =
      if cause.isFileError then
        e.withSaved.notifyError ("Write failed: " ++ cause.message : Text).escapedMarkup
      else e.withSaved.fail (.storage cause) := by
  simp only [write, h]
  rfl

/-! ### Keys and other events -/

/-- The question before quitting is left out if nothing was changed. -/
theorem effect_askQuit : e.Effect .other e.askQuit := by
  rw [askQuit]
  split
  · next hm => exact .looks (looks_ask fun _ => hm)
  · next hm =>
    rw [Bool.not_eq_true] at hm
    exact .closes (.refl e) (.inl hm)

/-- A key at the table that takes nothing back. -/
theorem effect_onTable {k : KeyPress} (h : k.isUndo = false) : e.Effect .other (e.onTable k) := by
  cases k with
  | char c =>
    rw [KeyPress.isUndo, beq_eq_false_iff_ne] at h
    rw [onTable, onTableChar]
    -- Every other key moves the cursor, asks, copies or quits.
    split
    · exact .looks (looks_cursor _)
    · exact .looks (looks_cursor _)
    · exact .looks looks_goFirst
    · exact .looks (looks_cursor _)
    · exact .looks looks_askValue
    · exact .looks looks_askNew
    · exact .looks looks_askName
    · exact .looks looks_askDelete
    · next hc => exact absurd hc h
    · exact .looks looks_copy
    · exact .looks looks_askWrite
    · exact effect_askQuit
    · exact .looks looks_openSearch
    · exact .looks (looks_ask fun _ => trivial)
    · exact .looks (.refl e)
  | up => exact .looks (looks_cursor _)
  | down => exact .looks (looks_cursor _)
  | escape => exact .looks looks_clearSearch
  | _ => exact .looks (.refl e)

/-- The key at the table that takes back a change. -/
theorem onTable_of_isUndo {k : KeyPress} (h : k.isUndo = true) : e.onTable k = e.undo := by
  cases k with
  | char c =>
    rw [KeyPress.isUndo, beq_iff_eq] at h
    rw [onTable, onTableChar, h]
    rfl
  | _ => cases h

private theorem onQuestion_of_isYes {d : Dialog} {yes : Bool} {k : KeyPress}
    (h : k.isYes yes = true) :
    e.onQuestion d yes k = e.confirm d := by
  cases k with
  | enter => exact if_pos h
  | char c =>
    rw [KeyPress.isYes, beq_iff_eq] at h
    rw [onQuestion.eq_def]
    simp only [h]
  | _ => cases h

/-- A key that does not say yes to a question closes it, moves between its buttons or does
nothing. -/
theorem looks_onQuestion {d : Dialog} (hd : e.dialog = some d) {yes : Bool} {k : KeyPress}
    (h : k.isYes yes = false) : e.Looks (e.onQuestion d yes k) := by
  have button (b : Bool) : e.Looks (e.ask (d.focusButton b)) :=
    looks_ask fun c => (c.dialog d hd).focusButton b
  cases k with
  | enter =>
    rw [KeyPress.isYes] at h
    rw [h]
    exact looks_backToTable
  | char c =>
    rw [KeyPress.isYes, beq_eq_false_iff_ne] at h
    rw [onQuestion.eq_def]
    simp only
    split
    · next hc => exact absurd hc h
    · exact looks_backToTable
    · exact button false
    · exact button true
    · split
      · exact looks_backToTable
      · exact .refl e
    · exact .refl e
  | escape => exact looks_backToTable
  | left => exact button false
  | right => exact button true
  | _ => exact .refl e

/-- The enter key in a dialog that asks for a text. -/
theorem effect_submit {d : Dialog} (hd : e.dialog = some d) (form : d.isForm = true) :
    e.Effect d.submitted (e.submit d) := by
  -- What a dialog says about the editor does not depend on what is entered in it.
  have fits (c : e.Coherent) := c.dialog d hd
  cases d with
  | edit key before value =>
    rw [submit, submitValue, Dialog.submitted]
    by_cases same : value.content = before
    · rw [if_pos same, if_pos same]
      exact .looks looks_backToTable
    · rw [if_neg same, if_neg same]
      exact .makes hd (.edit same)
  | add taken key value onValue refused =>
    cases onValue with
    | false => exact .looks (looks_ask fits)
    | true =>
      rw [submit, Dialog.submitted]
      cases hp : Key.problem? (Dialog.enteredKey key) taken with
      | none =>
        simp only
        exact .makes hd (.add hp)
      | some problem =>
        simp only
        exact .looks (looks_refuse _ fits)
  | rename old value taken renamed refused =>
    rw [submit, Dialog.submitted]
    by_cases same : Dialog.enteredKey renamed = old
    · simp only [if_pos same]
      exact .looks looks_backToTable
    · simp only [if_neg same]
      cases hp : Key.problem? (Dialog.enteredKey renamed) taken with
      | none => exact .makes hd (.rename same hp)
      | some problem => exact .looks (looks_refuse _ fits)
  | _ => cases form

/-- A key in a dialog that asks for a text. -/
theorem effect_onForm {d : Dialog} (hd : e.dialog = some d) (form : d.isForm = true)
    (k : KeyPress) :
    e.Effect (if k = .enter then d.submitted else .other) (e.onForm d k) := by
  have shown (k : KeyPress) : e.Effect .other (e.present (d.press k)) :=
    .looks (looks_present fun c => (c.dialog d hd).press k)
  cases k with
  | enter => exact effect_submit hd form
  | escape => exact .looks looks_backToTable
  | _ => exact shown _

/-- A key in front of the table. -/
theorem effect_onDialog {d : Dialog} (hd : e.dialog = some d) (k : KeyPress) :
    e.Effect (d.request k) (e.onKey k) := by
  rw [onKey, hd]
  cases d with
  | edit => exact effect_onForm hd rfl k
  | add => exact effect_onForm hd rfl k
  | rename => exact effect_onForm hd rfl k
  | help => exact .looks (looks_onHelp k)
  | delete key line yes =>
    rw [Dialog.request]
    cases hy : k.isYes yes with
    | true =>
      simp only [onQuestion_of_isYes hy]
      exact .makes hd .delete
    | false => exact .looks (looks_onQuestion hd hy)
  | quit yes =>
    cases hy : k.isYes yes with
    | true =>
      simp only [onQuestion_of_isYes hy]
      exact .closes looks_backToTable (.inr ⟨yes, hd⟩)
    | false => exact .looks (looks_onQuestion hd hy)
  | save summary noted yes =>
    rw [Dialog.request]
    cases hy : k.isYes yes with
    | true =>
      simp only [onQuestion_of_isYes hy]
      exact .writes hd
    | false => exact .looks (looks_onQuestion hd hy)

/-- A key. -/
theorem effect_onKey (k : KeyPress) : e.Effect (e.request (.key k)) (e.onKey k) := by
  rw [request]
  cases hd : e.dialog with
  | some d => exact effect_onDialog hd k
  | none =>
    rw [onKey, hd]
    cases hs : e.searchFocused with
    | true => exact .looks (looks_onSearch k)
    | false =>
      cases hu : k.isUndo with
      | true =>
        have undone : e.onTable k = e.undo := onTable_of_isUndo hu
        simp only [undone]
        exact .undoes hd
      | false => exact effect_onTable hu

/-- Every event of a user of the editor does what it asks for. -/
theorem effect_handle {event : EditorEvent} (inside : event.isInside = true) :
    e.Effect (e.request event) (e.handle event) := by
  cases event with
  | key k => exact effect_onKey k
  | fill name text => exact .looks (looks_onFill name text)
  | focus name => exact .looks (looks_onFocus name)
  | pause => exact .looks (.of_dialog rfl rfl)
  | click n => exact .looks (looks_onClick n)
  | storedOutside key value => cases inside

/-- An editor that has ended does not change. -/
theorem step_of_status_ne (h : e.status ≠ .running) (event : EditorEvent) : e.step event = e := by
  rw [step]
  split
  · next hs => exact absurd hs h
  · rfl

/-- An editor that runs handles an event without the messages of the last one. -/
theorem step_of_status_eq (h : e.status = .running) (event : EditorEvent) :
    e.step event = { e with notices := [] }.handle event := by
  rw [step]
  split
  · rfl
  · next hs => exact absurd h hs

/-- An editor that goes on after an event ran before it. -/
theorem status_of_step {event : EditorEvent} (running : (e.step event).status = .running) :
    e.status = .running := by
  by_cases hs : e.status = .running
  · exact hs
  · rwa [step_of_status_ne hs] at running

/-- What an event of a user does to an editor that runs; the messages of the last event are gone
then. -/
theorem effect_step (running : e.status = .running) {event : EditorEvent}
    (inside : event.isInside = true) :
    Effect { e with notices := [] } (e.request event) (e.step event) := by
  rw [step_of_status_eq running]
  exact effect_handle inside

end Editor

end VarFile
