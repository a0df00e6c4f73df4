import VarFile.Proofs.Document.Saved
import VarFile.Proofs.Editor.Effect

/-!
# What an event does to the document of an editor

`Editor.journal` is what undoing is about: the records and the flag of the document, and those
before each of the changes that can be taken back. `Editor.outcome` says what comes of an event, and
`Editor.follows_step` what that means for the journal: a change puts what was there before on top,
undoing puts the top back, and a write clears all. Every other event leaves the journal alone.
-/

namespace VarFile

/-- What came of an event. -/
inductive Outcome where
  /-- A change was made. -/
  | changed
  /-- The last change was taken back, if there was one. -/
  | undone
  /-- The file was written. -/
  | saved
  | nothing
  deriving DecidableEq

/-- What comes of a request: refused changes and failed writes are nothing. -/
def Request.outcome (e : Editor) : Request → Outcome
  | .change apply => if (apply e.provider).2.toBool then .changed else .nothing
  | .undo => .undone
  | .write => if (Provider.save e.tree e.provider).result.toBool then .saved else .nothing
  | .other => .nothing

namespace Editor

/-- What comes of an event. -/
def outcome (e : Editor) (event : EditorEvent) : Outcome := (e.request event).outcome e

/-- The state of the document, and those before each change that can be taken back, the latest
first. -/
def journal (e : Editor) : Checkpoint × List Checkpoint :=
  (e.provider.checkpoint, e.staged.map (·.before))

/-- The journal is about what is edited. -/
theorem Looks.journal {e e' : Editor} (h : e.Looks e') : e'.journal = e.journal := by
  rw [Editor.journal, Editor.journal, h.provider, h.staged]

/-! ### Changes, undoing and writing -/

/-- What an outcome means for a journal: a change keeps what was there before, undoing puts the last
of that back, and a write keeps nothing. -/
def Follows (e : Editor) (outcome : Outcome) (after : Checkpoint × List Checkpoint) : Prop :=
  match outcome with
  | .changed => after.2 = e.journal.1 :: e.journal.2
  | .undone => after = (e.journal.2.head?.getD e.journal.1, e.journal.2.tail)
  | .saved => after.2 = []
  | .nothing => after = e.journal

variable {e : Editor}

/-- A change that is accepted keeps the state before it; one that is refused is as if it had not
been made, if the editor goes on. -/
theorem follows_stage {change : Change} {apply : Provider → Provider × Except UpdateError Unit}
    {done : Text} (running : (e.stage change apply done).status = .running) :
    e.Follows ((Request.change apply).outcome e) (e.stage change apply done).journal := by
  obtain ⟨hr, hs⟩ | ⟨cause, text, hr, hs⟩ | ⟨cause, -, hs⟩ := e.stage_cases change apply done
  · rw [Request.outcome, hr, hs]
    rfl
  · rw [Request.outcome, hr, hs]
    rfl
  · rw [hs] at running
    cases running

/-- Undoing puts back the state before the last change. -/
theorem follows_undo : e.Follows .undone e.undo.journal := by
  cases hs : e.staged with
  | nil =>
    have none : e.undo = e.notify "Nothing to undo" := by simp only [undo, hs]
    rw [none, (looks_notify _).journal, Follows, journal, hs]
    rfl
  | cons last staged =>
    have back : e.undo.journal = (last.before, staged.map (·.before)) := by
      simp only [undo, hs]
      rfl
    rw [back, Follows, journal, hs]
    rfl

/-- A write that succeeds forgets the changes; one that fails leaves the records and the flag as
they are. -/
theorem follows_write : e.Follows (Request.write.outcome e) e.write.journal := by
  cases hr : (Provider.save e.tree e.provider).result with
  | ok =>
    rw [Request.outcome, hr, write_of_ok hr]
    rfl
  | error cause =>
    have failed : Request.write.outcome e = .nothing := by
      rw [Request.outcome, hr]
      rfl
    have saved : (Provider.save e.tree e.provider).document.checkpoint =
        ⟨e.provider.document.records,
          e.provider.document.modified && !(Provider.save e.tree e.provider).result.toBool⟩ :=
      Storage.checkpoint_writeFile e.tree e.provider.document e.provider.mode
    rw [hr, show (Except.error cause : Except Storage.Error Unit).toBool = false from rfl,
      Bool.not_false, Bool.and_true] at saved
    have kept : e.withSaved.journal = e.journal := congrArg (·, e.staged.map (·.before)) saved
    rw [failed, write_of_error hr, Follows]
    split
    · exact (looks_notifyError _).journal.trans kept
    · exact (looks_fail _).journal.trans kept

/-! ### Events -/

/-- What an effect means for the journal of an editor that goes on. -/
theorem follows_of_effect {r : Request} {e' : Editor} (effect : e.Effect r e')
    (running : e'.status = .running) : e.Follows (r.outcome e) e'.journal := by
  cases effect with
  | looks looks => exact looks.journal
  | closes looks => exact looks.journal
  | makes => exact follows_stage (e := e.backToTable) running
  | undoes => exact follows_undo
  | writes => exact follows_write (e := e.backToTable)

/-- An editor that goes on after an event ran before it, and its journal follows. -/
theorem follows_step {event : EditorEvent} (inside : event.isInside = true)
    (running : (e.step event).status = .running) :
    e.status = .running ∧ e.Follows (e.outcome event) (e.step event).journal := by
  have before := status_of_step running
  have follows := follows_of_effect (effect_step before inside) running
  exact ⟨before, follows⟩

end Editor

end VarFile
