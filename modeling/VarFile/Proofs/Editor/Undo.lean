import VarFile.Proofs.Editor.Journal

/-!
# Undoing

`UndoLog` goes through the events of an editor and keeps, apart from the editor itself, the state of
the document before each change that was neither taken back nor saved. `UndoLog.undo_exact` says
that undoing puts back the last of these, and that undoing all of them leaves the document as it was
when the file was read or written last.
-/

namespace VarFile

namespace Editor

/-- The key that takes back a change. -/
def undoKey : EditorEvent := .key (.char 'u')

/-- An editor that shows the table, with no dialog in front of it and no search going on. -/
structure AtTable (e : Editor) : Prop where
  running : e.status = .running
  dialog : e.dialog = none
  search : e.searchFocused = false

/-- Undoing at the table puts back the state before the last change, and stays at the table. -/
theorem step_undoKey {e : Editor} (h : e.AtTable) :
    (e.step undoKey).AtTable ∧
      (e.step undoKey).journal = (e.journal.2.head?.getD e.journal.1, e.journal.2.tail) := by
  have undone : e.step undoKey = undo { e with notices := [] } := by
    have key : KeyPress.isUndo (.char 'u') = true := rfl
    rw [step_of_status_eq h.running, undoKey, handle, onKey]
    simp only [h.dialog, h.search]
    exact onTable_of_isUndo key
  rw [undone]
  refine ⟨?_, follows_undo (e := { e with notices := [] })⟩
  rw [undo]
  split
  · exact ⟨h.running, h.dialog, h.search⟩
  · exact ⟨h.running, h.dialog, h.search⟩

private theorem journal_after_undoKey {e : Editor} (h : e.AtTable) :
    (e.after (List.replicate e.journal.2.length undoKey)).journal.1 =
      e.journal.2.getLastD e.journal.1 := by
  generalize hp : e.journal.2 = pending
  induction pending generalizing e with
  | nil => rfl
  | cons before pending ih =>
    obtain ⟨table, back⟩ := step_undoKey h
    rw [hp, List.head?_cons, Option.getD_some, List.tail_cons] at back
    have later := ih table (congrArg Prod.snd back)
    rw [back] at later
    rw [List.length_cons, List.replicate_succ, List.getLastD_cons, ← later]
    rfl

end Editor

/-- An editor, and what was changed since the file was read or written last. -/
structure UndoLog where
  editor : Editor
  /-- The records and the flag before each change that was neither taken back nor saved, the latest
  first. -/
  pending : List Checkpoint := []
  /-- The records and the flag when the file was read or written last. -/
  settled : Checkpoint

namespace UndoLog

/-- An editor that was just opened. -/
def openAt (tree : Files.Tree) (path : Text) (mode : Int) : Except Storage.Error UndoLog :=
  (Editor.openAt tree path mode).map fun e => { editor := e, settled := e.provider.checkpoint }

/-- What an event leaves. -/
def step (s : UndoLog) (event : EditorEvent) : UndoLog :=
  let e := s.editor.step event
  match s.editor.outcome event with
  | .changed => { s with editor := e, pending := s.editor.provider.checkpoint :: s.pending }
  | .undone => { s with editor := e, pending := s.pending.tail }
  | .saved => { editor := e, settled := e.provider.checkpoint }
  | .nothing => { s with editor := e }

/-- What a list of events leaves, first one first. -/
def run (s : UndoLog) (events : List EditorEvent) : UndoLog := events.foldl step s

/-- The editor keeps what is pending, and below it what is settled. -/
structure Agrees (s : UndoLog) : Prop where
  pending : s.editor.journal.2 = s.pending
  settled : s.pending.getLastD s.editor.journal.1 = s.settled

/-- The editor of a step is the one that handled the event. -/
theorem editor_step (s : UndoLog) (event : EditorEvent) :
    (s.step event).editor = s.editor.step event := by
  rw [step]
  split <;> rfl

/-- The editor of a run is the one that handled the events. -/
theorem editor_run (s : UndoLog) (events : List EditorEvent) :
    (s.run events).editor = s.editor.after events := by
  induction events generalizing s with
  | nil => rfl
  | cons event events ih =>
    have later := ih (s.step event)
    rw [editor_step] at later
    exact later

/-- An editor that goes on keeps agreeing. -/
theorem agrees_step {s : UndoLog} (h : s.editor.status = .running → s.Agrees) {event : EditorEvent}
    (inside : event.isInside = true) (running : (s.step event).editor.status = .running) :
    (s.step event).Agrees := by
  rw [editor_step] at running
  obtain ⟨before, follows⟩ := Editor.follows_step inside running
  obtain ⟨pending, settled⟩ := h before
  rw [step]
  cases ho : s.editor.outcome event with
  | changed =>
    rw [ho, Editor.Follows, pending] at follows
    exact ⟨follows, (List.getLastD_cons ..).trans settled⟩
  | undone =>
    rw [ho, Editor.Follows, pending] at follows
    refine ⟨congrArg Prod.snd follows, ?_⟩
    rw [follows, ← settled]
    cases s.pending with
    | nil => rfl
    | cons before pending => exact (List.getLastD_cons ..).symm
  | saved =>
    rw [ho, Editor.Follows] at follows
    exact ⟨follows, rfl⟩
  | nothing =>
    rw [ho, Editor.Follows] at follows
    exact ⟨(congrArg Prod.snd follows).trans pending, by rw [follows, settled]⟩

/-- After any events of its user, an editor that still runs agrees with the log. -/
theorem agrees_run {s : UndoLog} (h : s.editor.status = .running → s.Agrees)
    {events : List EditorEvent} (inside : ∀ event ∈ events, event.isInside = true)
    (running : (s.run events).editor.status = .running) : (s.run events).Agrees := by
  induction events generalizing s with
  | nil => exact h running
  | cons event events ih =>
    obtain ⟨first, later⟩ := List.forall_mem_cons.1 inside
    exact ih (agrees_step h first) later running

/-- The editor of a log that was just opened. -/
theorem editor_of_openAt {tree : Files.Tree} {path : Text} {mode : Int} {s : UndoLog}
    (opened : openAt tree path mode = .ok s) : Editor.openAt tree path mode = .ok s.editor := by
  rw [openAt] at opened
  cases he : Editor.openAt tree path mode with
  | error cause =>
    rw [he] at opened
    cases opened
  | ok e =>
    rw [he] at opened
    cases opened
    rfl

/-- An editor that was just opened agrees with its log. -/
theorem agrees_of_openAt {tree : Files.Tree} {path : Text} {mode : Int} {s : UndoLog}
    (opened : openAt tree path mode = .ok s) : s.Agrees := by
  rw [openAt, Editor.openAt] at opened
  cases hr : (Provider.openAt tree path mode).result with
  | error cause =>
    rw [hr] at opened
    cases opened
  | ok provider =>
    rw [hr] at opened
    cases opened
    exact ⟨rfl, rfl⟩

/-- After any events of its user, the undo key at the table puts back the records and the flag as
they were before the last change that was neither taken back nor saved, and pressing it once for
every such change puts them back as they were when the file was read or written last. -/
theorem undo_exact {tree : Files.Tree} {path : Text} {mode : Int} {s₀ : UndoLog}
    (opened : openAt tree path mode = .ok s₀) {events : List EditorEvent}
    (inside : ∀ event ∈ events, event.isInside = true) (table : (s₀.run events).editor.AtTable) :
    let s := s₀.run events
    (s.editor.step Editor.undoKey).provider.checkpoint =
        s.pending.head?.getD s.editor.provider.checkpoint ∧
      (s.editor.after (List.replicate s.pending.length Editor.undoKey)).provider.checkpoint =
        s.settled := by
  intro s
  obtain ⟨pending, settled⟩ := agrees_run (fun _ => agrees_of_openAt opened) inside table.running
  constructor
  · rw [← pending]
    exact congrArg Prod.fst (Editor.step_undoKey table).2
  · rw [← settled, ← pending]
    exact Editor.journal_after_undoKey table

/-- A value is edited, which drops a duplicate, and written; then its key is deleted and another one
added, and both are taken back. -/
theorem undo_exact_deleted :
    let tree : Files.Tree :=
      ⟨[([("f" : Text).toBytes], .file 0)], [⟨("A=0\n\tA=1\nB=(x\n" : Text).toBytes, 0o644⟩], {}⟩
    let key (c : Char) : EditorEvent := .key (.char (.ofChar c))
    let events : List EditorEvent := [key 'i', .fill .value "x y", .key .enter, key 's', key 'y',
      key 'd', key 'd', key 'y', key 'o', .fill .newKey "C", .key .enter, .fill .newValue "1",
      .key .enter]
    ∃ s, openAt tree "f" 0o644 = .ok s ∧
      ((s.run events).editor.after [Editor.undoKey, Editor.undoKey]).provider.checkpoint =
        ⟨[Record.ofLine "A=\"x y\"", Record.ofLine "B=(x"], false⟩ := by
  intro tree key events
  have facts : (openAt tree "f" 0o644).map (fun s =>
      let s := s.run events
      (s.editor.status, s.editor.dialog, s.editor.searchFocused, s.pending.length, s.settled)) =
      .ok (.running, none, false, 2,
        ⟨[Record.ofLine "A=\"x y\"", Record.ofLine "B=(x"], false⟩) := by decide +kernel
  cases opened : openAt tree "f" 0o644 with
  | error cause =>
    rw [opened] at facts
    cases facts
  | ok s =>
    rw [opened, Except.map, Except.ok.injEq, Prod.mk.injEq, Prod.mk.injEq, Prod.mk.injEq,
      Prod.mk.injEq] at facts
    obtain ⟨running, dialog, search, count, settled⟩ := facts
    have inside : ∀ event ∈ events, event.isInside = true := by decide
    have undone := (undo_exact opened inside ⟨running, dialog, search⟩).2
    rw [count, settled] at undone
    exact ⟨s, rfl, undone⟩

end UndoLog

end VarFile
