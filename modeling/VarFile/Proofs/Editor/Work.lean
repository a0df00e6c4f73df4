import VarFile.Proofs.Document.Stored
import VarFile.Proofs.Editor.Effect
import VarFile.Proofs.Storage.Place

/-!
# What is edited

`Work` is what an editor edits: the files, the provider, and the changes that can be taken back.
`Work.Step` is all that can become of it, whatever is shown meanwhile, and `Editor.work_step` that
an event of a user is such a step. So what every step keeps is kept by a whole run
(`Editor.invariant_after`), and an editor that still runs shows what it edits.
-/

namespace VarFile

/-- What is edited in an editor; the latest change is the first one. -/
structure Work where
  tree : Files.Tree
  provider : Provider
  staged : List Staged

/-- The value that was entered in a dialog. -/
def Dialog.entered? : Dialog → Option Text
  | .edit _ _ value => some value.content
  | .add _ _ value .. => some value.content
  | _ => none

/-- The value that is entered with a change. -/
def Request.entered? (e : Editor) : Request → Option Text
  | .change _ => e.dialog.bind Dialog.entered?
  | _ => none

namespace Work

/-- What writing the file gives. -/
def saved (w : Work) : Storage.Written := Provider.save w.tree w.provider

/-- What is edited after a write. -/
def written (w : Work) : Work :=
  ⟨w.saved.tree, { w.provider with document := w.saved.document },
    if w.saved.result.toBool then [] else w.staged⟩

/-- What can become of what is edited, if something is known of the values that are entered. -/
inductive Step (C : Text → Prop) (w : Work) : Work → Prop
  | same : w.Step C w
  | changed {d : Dialog} {change : Change} {apply : Provider → Provider × Except UpdateError Unit}
      (fits : d.Fits w.provider w.staged) (makes : d.Makes change apply)
      (entered : ∀ v ∈ d.entered?, C v) (accepted : (apply w.provider).2 = .ok ()) :
    w.Step C ⟨w.tree, (apply w.provider).1, ⟨change, w.provider.checkpoint⟩ :: w.staged⟩
  | undone {last : Staged} {older : List Staged} (staged : w.staged = last :: older) :
    w.Step C ⟨w.tree, w.provider.restore last.before, older⟩
  | written : w.Step C w.written

end Work

/-! ### The changes of dialogs -/

namespace Provider

variable (p : Provider)

/-- Renaming stops if the value cannot be deleted, and else stores it under its new key. -/
theorem rename_cases (old new value : Text) :
    (∃ cause, p.rename old new value = ((p.delete old).1, .error cause)) ∨
      ((p.delete old).2 = .ok () ∧ p.rename old new value = (p.delete old).1.set new value) := by
  rw [rename]
  cases hd : p.delete old with
  | mk p' result =>
    cases result with
    | ok => exact .inr ⟨rfl, rfl⟩
    | error cause => exact .inl ⟨cause, rfl⟩

end Provider

/-- What was computed from a result. -/
theorem exists_of_map_eq_ok {ε α β : Type} {x : Except ε α} {f : α → β} {b : β}
    (h : x.map f = .ok b) : ∃ a, x = .ok a ∧ f a = b := by
  cases x with
  | error cause => cases h
  | ok a => exact ⟨a, rfl, Except.ok.inj h⟩

namespace Change

private theorem concerns_key (c : Change) : c.concerns c.key = true := by
  rw [concerns, decide_eq_true rfl, Bool.true_or]

private theorem concerns_formerKey {c : Change} {key : Text} (h : c.formerKey = some key) :
    c.concerns key = true := by
  rw [concerns, decide_eq_true h, Bool.or_true]

end Change

namespace Dialog.Makes

variable {d : Dialog} {change : Change} {apply : Provider → Provider × Except UpdateError Unit}

/-- The change of a dialog updates the keys that it names, and nothing else. -/
theorem updated (h : d.Makes change apply) (p : Provider) :
    ∃ d', (apply p).1 = { p with document := d' } ∧
      p.document.Updated (Change.concerns · change) d' := by
  cases h with
  | @edit key _ value =>
    exact ⟨(p.document.set key (some value.content)).1, rfl, .set .same (Change.concerns_key _) _⟩
  | @add _ key value =>
    exact ⟨(p.document.set (enteredKey key) (some value.content)).1, rfl,
      .set .same (Change.concerns_key _) _⟩
  | @delete key =>
    exact ⟨(p.document.unset key).1, rfl, .set .same (Change.concerns_key _) none⟩
  | @rename old value _ renamed =>
    obtain ⟨cause, hr⟩ | ⟨-, hr⟩ := p.rename_cases old (enteredKey renamed) value
    · exact ⟨(p.document.unset old).1, congrArg Prod.fst hr,
        .set .same (Change.concerns_formerKey rfl) none⟩
    · exact ⟨((p.document.unset old).1.set (enteredKey renamed) (some value)).1,
        congrArg Prod.fst hr,
        .set (.set .same (Change.concerns_formerKey rfl) none) (Change.concerns_key _) _⟩

/-- Putting back what was captured before a change gives the provider back. -/
theorem restore (h : d.Makes change apply) (p : Provider) :
    (apply p).1.restore p.checkpoint = p := by
  obtain ⟨d', hp, updated⟩ := h.updated p
  have same : d'.restore p.checkpoint = p.document := updated.restore
  rw [hp, Provider.restore, same]

end Dialog.Makes

namespace Work

/-- What holds of the records now and before every change that can be taken back. -/
def Keeps (P : List Record → Prop) (w : Work) : Prop :=
  P w.provider.document.records ∧ ∀ s ∈ w.staged, P s.before.records

/-- What every update keeps is kept by every step. -/
theorem keeps_step {P : List Record → Prop} {C : Text → Prop} {w w' : Work}
    (update : ∀ (d : Document) (key : Text) (value : Option Text), P d.records →
      P (d.set key value).1.records) (h : w.Keeps P) (step : w.Step C w') : w'.Keeps P := by
  cases step with
  | same => exact h
  | changed fits makes =>
    obtain ⟨d', hp, updated⟩ := makes.updated w.provider
    rw [hp]
    exact ⟨updated.keeps (fun d key value _ => update d key value) h.1,
      List.forall_mem_cons.2 ⟨h.1, h.2⟩⟩
  | @undone last older staged =>
    have before := h.2
    rw [staged] at before
    exact List.forall_mem_cons.1 before
  | written =>
    refine ⟨?_, fun s hs => ?_⟩
    · rw [written, saved, Provider.save, (Storage.writeFile_cases _ _ _).1]
      exact h.1
    · rw [written] at hs
      split at hs
      · cases hs
      · exact h.2 s hs

end Work

namespace Editor

/-- What is edited. -/
def work (e : Editor) : Work := ⟨e.tree, e.provider, e.staged⟩

variable {C : Text → Prop} {e e' : Editor}

theorem Looks.work (h : e.Looks e') : e'.work = e.work := by
  rw [Editor.work, Editor.work, h.tree, h.provider, h.staged]

/-! ### One event -/

/-- The change of a dialog, accepted or not, as a step. -/
theorem step_stage {d : Dialog} {change : Change}
    {apply : Provider → Provider × Except UpdateError Unit} {done : Text}
    (fits : d.Fits e.provider e.staged) (makes : d.Makes change apply)
    (entered : ∀ v ∈ d.entered?, C v) (running : (e.stage change apply done).status = .running) :
    e.work.Step C (e.stage change apply done).work := by
  obtain ⟨accepted, hs⟩ | ⟨cause, text, -, hs⟩ | ⟨cause, -, hs⟩ :=
    e.stage_cases change apply done
  · rw [hs]
    exact .changed fits makes entered accepted
  · rw [hs, makes.restore e.provider]
    exact .same
  · rw [hs] at running
    cases running

private theorem saved_work : e.work.saved = Provider.save e.tree e.provider := rfl

/-- What is edited after a write. -/
theorem work_write : e.write.work = e.work.written := by
  cases hr : (Provider.save e.tree e.provider).result with
  | ok =>
    have forgotten : e.work.written = work { e.withSaved with staged := [] } := by
      rw [Work.written, saved_work, hr]
      rfl
    rw [write_of_ok hr, forgotten]
    rfl
  | error cause =>
    have kept : e.work.written = e.withSaved.work := by
      rw [Work.written, saved_work, hr]
      rfl
    rw [write_of_error hr, kept]
    split
    · exact (looks_notifyError _).work
    · exact (looks_fail _).work

/-- What is edited after an effect, if the editor goes on. -/
theorem step_of_effect {r : Request} (effect : e.Effect r e') (coherent : e.Coherent)
    (entered : ∀ v ∈ r.entered? e, C v) (running : e'.status = .running) :
    e.work.Step C e'.work := by
  cases effect with
  | looks looks =>
    rw [looks.work]
    exact .same
  | closes => cases running
  | @makes d change apply done dialog makes =>
    refine step_stage (e := e.backToTable) (coherent.dialog d dialog) makes ?_ running
    intro v hv
    apply entered v
    rw [Request.entered?, dialog]
    exact hv
  | undoes =>
    rw [undo]
    split
    · exact .same
    · next hs => exact .undone hs
  | writes =>
    have saved : e.backToTable.write.work = e.work.written := work_write
    rw [saved]
    exact .written

/-! ### What is shown then -/

/-- A change is shown if it is accepted, and else the provider is as it was. -/
theorem coherent_stage {d : Dialog} {change : Change}
    {apply : Provider → Provider × Except UpdateError Unit} {done : Text} (coherent : e.Coherent)
    (table : e.dialog = none) (makes : d.Makes change apply)
    (running : (e.stage change apply done).status = .running) :
    (e.stage change apply done).Coherent := by
  obtain ⟨-, hs⟩ | ⟨cause, text, -, hs⟩ | ⟨cause, -, hs⟩ := e.stage_cases change apply done
  · rw [hs]
    refine (looks_notify done).coherent (coherent_refresh fun d hd => ?_)
    rw [table] at hd
    cases hd
  · rw [hs, makes.restore e.provider]
    exact (looks_notifyError text).coherent coherent
  · rw [hs] at running
    cases running

/-- What is taken back is shown. -/
theorem coherent_undo (coherent : e.Coherent) (table : e.dialog = none) : e.undo.Coherent := by
  rw [undo]
  split
  · exact (looks_notify _).coherent coherent
  · refine (looks_notify _).coherent (coherent_refresh fun d hd => ?_)
    have hd : e.dialog = some d := hd
    rw [table] at hd
    cases hd

/-- A write leaves the variables, and shows that there are no changes if it succeeds. -/
theorem coherent_write (coherent : e.Coherent) (table : e.dialog = none) : e.write.Coherent := by
  have closed {p : Provider} {staged : List Staged} (d : Dialog) (hd : e.dialog = some d) :
      d.Fits p staged := by
    rw [table] at hd
    cases hd
  cases hr : (Provider.save e.tree e.provider).result with
  | ok =>
    rw [write_of_ok hr]
    exact (looks_notify _).coherent (coherent_refresh closed)
  | error cause =>
    -- A write may hold the file of the document, but does not touch the records.
    have records := (Storage.writeFile_cases e.tree e.provider.document e.provider.mode).1
    have listed : (Provider.save e.tree e.provider).document.variableList =
        e.provider.document.variableList := by
      rw [Document.variableList, Document.variableList, Document.entries, Document.entries]
      exact congrArg (fun rs => (Document.liveEntries rs).map Variable.ofEntry) records
    have failed : e.withSaved.Coherent :=
      ⟨coherent.listed.trans listed.symm, coherent.rows, coherent.unsaved, closed⟩
    rw [write_of_error hr]
    split
    · exact (looks_notifyError _).coherent failed
    · exact (looks_fail _).coherent failed

/-- An editor that goes on after an effect shows what it edits. -/
theorem coherent_of_effect {r : Request} (effect : e.Effect r e') (coherent : e.Coherent)
    (running : e'.status = .running) : e'.Coherent := by
  have table := looks_backToTable.coherent coherent
  cases effect with
  | looks looks => exact looks.coherent coherent
  | closes => cases running
  | makes dialog makes => exact coherent_stage table rfl makes running
  | undoes dialog => exact coherent_undo coherent dialog
  | writes => exact coherent_write table rfl

/-- An editor that was just opened shows the document that was read, without changes. -/
theorem openAt_eq_ok {tree : Files.Tree} {path : Text} {mode : Int}
    (h : openAt tree path mode = .ok e) :
    e.Coherent ∧ ∃ d, Storage.Loads tree (Path.normalized path) d ∧
      e.work = ⟨tree, ⟨Path.normalized path, mode, d⟩, []⟩ := by
  obtain ⟨p, hp, rfl⟩ := exists_of_map_eq_ok h
  obtain ⟨d, hd, rfl⟩ := exists_of_map_eq_ok hp
  exact ⟨coherent_refresh fun d hd => (by cases hd), d, .inr hd, rfl⟩

/-! ### Runs -/

/-- The value that an event enters. -/
def entered? (e : Editor) (event : EditorEvent) : Option Text := (e.request event).entered? e

/-- The values that are entered by a list of events. -/
def entered (e : Editor) : List EditorEvent → List Text
  | [] => []
  | event :: events => (e.entered? event).toList ++ (e.step event).entered events

/-- What an event of a user does to an editor that goes on is a step, and is shown. -/
theorem work_step (coherent : e.Coherent) {event : EditorEvent} (inside : event.isInside = true)
    (hC : ∀ v ∈ e.entered? event, C v) (running : (e.step event).status = .running) :
    e.work.Step C (e.step event).work ∧ (e.step event).Coherent := by
  have effect := effect_step (status_of_step running) inside
  have shown : Coherent { e with notices := [] } :=
    ⟨coherent.listed, coherent.rows, coherent.unsaved, coherent.dialog⟩
  have step := step_of_effect (C := C) effect shown hC running
  exact ⟨step, coherent_of_effect effect shown running⟩

/-- What every step keeps is kept by the events of a user, as long as the editor runs. -/
theorem invariant_after {P : Work → Prop} (keeps : ∀ {w w' : Work}, P w → w.Step C w' → P w')
    (start : e.status = .running → e.Coherent ∧ P e.work) {events : List EditorEvent}
    (inside : ∀ event ∈ events, event.isInside = true) (hC : ∀ v ∈ e.entered events, C v)
    (running : (e.after events).status = .running) :
    (e.after events).Coherent ∧ P (e.after events).work := by
  -- Nothing is known of an editor that has ended, so the start is asked for while it runs only.
  induction events generalizing e with
  | nil => exact start running
  | cons event events ih =>
    obtain ⟨first, later⟩ := List.forall_mem_cons.1 inside
    obtain ⟨now, afterwards⟩ := List.forall_mem_append.1 hC
    refine ih (fun next => ?_) later afterwards running
    obtain ⟨coherent, holds⟩ := start (status_of_step next)
    have ⟨step, shown⟩ := work_step coherent first (fun v hv => now v (Option.mem_toList.2 hv)) next
    exact ⟨shown, keeps holds step⟩

end Editor

end VarFile
