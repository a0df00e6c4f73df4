import VarFile.Proofs.Editor.Work
import VarFile.Proofs.Rendering.Reread

/-!
# When the file is changed

An editor changes its file only when a user says yes to the question whether to write it, whatever
else happens (`Editor.file_changes_on_yes`). Then the file at the path that the editor was opened
with holds the lines of the document; if it cannot be opened for writing, nothing is lost.
-/

namespace VarFile

open Files (Tree)
open Storage (writeFile target)

/-- What is edited belongs to a path, and can be written there. -/
structure Work.Placed (bytes : Bytes) (w : Work) : Prop where
  tree : w.tree.WF
  place : w.provider.document.IsAt w.tree bytes
  now : Document.WellFormed w.provider.document.records
  before : ∀ s ∈ w.staged, Document.WellFormed s.before.records

namespace Work

variable {bytes : Bytes} {w w' : Work} {C : Text → Prop}

/-- Every step leaves the document at its path, and the records well formed. -/
theorem placed_step (h : w.Placed bytes) (step : w.Step C w') : w'.Placed bytes := by
  have well : w.Keeps Document.WellFormed := ⟨h.now, h.before⟩
  obtain ⟨now, before⟩ := keeps_step (fun _ key value h => Document.wellFormed_set h key value)
    well step
  suffices place : w'.tree.WF ∧ w'.provider.document.IsAt w'.tree bytes from
    ⟨place.1, place.2, now, before⟩
  cases step with
  | same => exact ⟨h.tree, h.place⟩
  | changed fits makes =>
    obtain ⟨d', hp, updated⟩ := makes.updated w.provider
    rw [hp]
    exact ⟨h.tree, h.place.of_restore updated.restore⟩
  | undone => exact ⟨h.tree, h.place.path, h.place.held⟩
  | written => exact ⟨Storage.wf_writeFile h.tree, Storage.isAt_writeFile h.place⟩

end Work

namespace Editor

variable {e e' : Editor} {event : EditorEvent}

/-- Whether an event says yes to the question whether to write the file. -/
def confirmsWrite (e : Editor) : EditorEvent → Bool
  | .key k =>
    match e.dialog with
    | some (.save _ _ yes) => k.isYes yes
    | _ => false
  | _ => false

private theorem request_of_save {summary : List SummaryLine} {noted yes : Bool}
    (dialog : e.dialog = some (.save summary noted yes)) :
    e.request event = if e.confirmsWrite event then .write else .other := by
  cases event with
  | key k =>
    rw [request, confirmsWrite, dialog]
    rfl
  | _ => rfl

private theorem dialog_of_confirmsWrite (h : e.confirmsWrite event = true) :
    ∃ summary noted yes, e.dialog = some (.save summary noted yes) := by
  cases event with
  | key k =>
    rw [confirmsWrite] at h
    split at h
    · next summary noted yes dialog => exact ⟨summary, noted, yes, dialog⟩
    · cases h
  | _ => cases h

/-! ### Events that leave the files -/

private theorem tree_stage {change : Change} {apply : Provider → Provider × Except UpdateError Unit}
    {done : Text} : (e.stage change apply done).tree = e.tree := by
  obtain ⟨-, hs⟩ | ⟨cause, text, -, hs⟩ | ⟨cause, -, hs⟩ := e.stage_cases change apply done
  · rw [hs]
    rfl
  · rw [hs]
    rfl
  · rw [hs]
    rfl

private theorem tree_undo : e.undo.tree = e.tree := by
  rw [undo]
  split
  · rfl
  · rfl

/-- A write comes of the question whether to write the file. -/
theorem write_of_effect (effect : e.Effect .write e') :
    (∃ summary noted yes, e.dialog = some (.save summary noted yes)) ∧
      e' = e.backToTable.write := by
  cases effect with
  | writes dialog => exact ⟨⟨_, _, _, dialog⟩, rfl⟩

/-- Nothing but a write changes a file. -/
theorem tree_of_effect {r : Request} (effect : e.Effect r e') (other : r ≠ .write) :
    e'.tree = e.tree := by
  cases effect with
  | looks looks => exact looks.tree
  | closes looks => exact looks.tree
  | makes => exact tree_stage
  | undoes => exact tree_undo
  | writes => exact absurd rfl other

/-- An event that does not say yes to the question whether to write the file leaves all files. -/
theorem tree_step (inside : event.isInside = true) (other : e.confirmsWrite event = false) :
    (e.step event).tree = e.tree := by
  by_cases running : e.status = .running
  · have effect := effect_step running inside
    by_cases hr : e.request event = .write
    · rw [hr] at effect
      obtain ⟨⟨summary, noted, yes, dialog⟩, -⟩ := write_of_effect effect
      have dialog : e.dialog = some (.save summary noted yes) := dialog
      rw [request_of_save dialog, other] at hr
      cases hr
    · have same := tree_of_effect effect hr
      exact same
  · rw [step_of_status_ne running]

/-! ### The answer that writes the file -/

/-- A write of what was changed puts the lines of the document into the file at its path, or leaves
everything as it is if the file cannot be opened. -/
theorem write_cases {bytes : Bytes} (placed : e.work.Placed bytes) (changed : e.isModified = true) :
    (∃ opened content, target e.tree e.provider.document e.provider.mode = .ok opened ∧
        e.provider.document.content = .ok content ∧ e.write.tree.contentAt? bytes = some content) ∨
      ∃ cause, target e.tree e.provider.document e.provider.mode = .error cause ∧
        e.write.work = e.work ∧ (cause.isFileError = true → e.write.status = e.status) := by
  have tree : e.write.tree = (writeFile e.tree e.provider.document e.provider.mode).tree :=
    congrArg Work.tree work_write
  cases ht : target e.tree e.provider.document e.provider.mode with
  | ok opened =>
    have stored := Document.content_eq_ok placed.now.wf
    obtain ⟨-, document, result⟩ := Storage.writeFile_of_ok changed ht stored
    obtain ⟨inode, content, held, same, there⟩ :=
      Storage.content_of_writeFile_ok placed.tree changed result
    have leads : (writeFile e.tree e.provider.document e.provider.mode).tree.find bytes =
        .ok (.file inode) := (Storage.isAt_writeFile placed.place).held inode held
    refine .inl ⟨opened, content, rfl, same, ?_⟩
    rw [tree]
    exact there bytes leads
  | error cause =>
    have saved := Storage.writeFile_of_error changed ht
    have failed : (Provider.save e.tree e.provider).result = .error cause :=
      congrArg Storage.Written.result saved
    refine .inr ⟨cause, rfl, ?_, fun own => ?_⟩
    · have saved : e.work.saved = ⟨e.tree, e.provider.document, .error cause, []⟩ := saved
      have same : e.work.written = e.work := by
        rw [Work.written, saved]
        rfl
      rw [work_write, same]
    · rw [write_of_error failed, if_pos own]
      rfl

/-! ### Runs -/

/-- After any events of its user, an event changes a file only if it says yes to the question
whether to write the file. Then the file at the path that the editor was opened with holds the lines
of the document; or the file cannot be opened for writing, and the files, the document with its flag
and the changes that can be taken back are kept. -/
theorem file_changes_on_yes {tree : Tree} {path : Text} {mode : Int} {e₀ : Editor}
    (wf : tree.WF) (opened : openAt tree path mode = .ok e₀) {events : List EditorEvent}
    (inside : ∀ event ∈ events, event.isInside = true) (within : event.isInside = true) :
    let e := e₀.after events
    let e' := e.step event
    let d := e.provider.document
    (e.confirmsWrite event = false → e'.tree = e.tree) ∧
      (e.confirmsWrite event = true → e.status = .running →
        ∃ bytes, Path.encode (Path.normalized path) = .ok bytes ∧
          ((∃ opened content, target e.tree d e.provider.mode = .ok opened ∧
              d.content = .ok content ∧ e'.tree.contentAt? bytes = some content) ∨
            ∃ cause, target e.tree d e.provider.mode = .error cause ∧ e'.tree = e.tree ∧
              e'.provider = e.provider ∧ e'.staged = e.staged ∧
                (cause.isFileError = true → e'.status = .running))) := by
  intro e e' d
  refine ⟨fun other => tree_step within other, fun confirms running => ?_⟩
  obtain ⟨coherent, loaded, loads, work⟩ := openAt_eq_ok opened
  obtain ⟨bytes, encoded, place, -, -, records⟩ := Storage.isAt_of_loads loads
  have start : e₀.work.Placed bytes := by
    rw [work]
    exact ⟨wf, place, records, fun s hs => by cases hs⟩
  obtain ⟨shown, placed⟩ := invariant_after (C := fun _ => True) Work.placed_step
    (fun _ => ⟨coherent, start⟩) inside (fun _ _ => trivial) running
  obtain ⟨summary, noted, yes, dialog⟩ := dialog_of_confirmsWrite confirms
  have changed : e.isModified = true := (shown.dialog _ dialog).1
  have asks : e.request event = .write := by
    rw [request_of_save dialog, if_pos confirms]
  have effect := effect_step running within
  rw [asks] at effect
  obtain ⟨-, written⟩ := write_of_effect effect
  refine ⟨bytes, encoded, ?_⟩
  -- The question is closed before the file is written, which changes nothing that is edited.
  have cases := write_cases (e := backToTable { e with notices := [] }) placed changed
  rw [← written] at cases
  obtain success | ⟨cause, failed, kept, goesOn⟩ := cases
  · exact .inl success
  · refine .inr ⟨cause, failed, congrArg Work.tree kept, congrArg Work.provider kept,
      congrArg Work.staged kept, fun own => ?_⟩
    rw [← running]
    exact goesOn own

/-- A value is edited, a key is deleted and taken back, and the file is written. -/
theorem file_changes_on_yes_edited :
    let tree : Tree :=
      ⟨[([("f" : Text).toBytes], .file 0)], [⟨("A=1\nfoo\n" : Text).toBytes, 0o644⟩], {}⟩
    let key (c : Char) : EditorEvent := .key (.char (.ofChar c))
    let events : List EditorEvent := [key 'i', .fill .value "x y", .key .enter, key 'd', key 'd',
      key 'y', key 'u', key 's']
    ∃ e, openAt tree "f" 0o644 = .ok e ∧ (e.after events).tree = tree ∧
      ((e.after events).step (key 'y')).tree.contentAt? ("f" : Text).toBytes =
        some ("A=\"x y\"\n#NM: foo\n" : Text).toBytes := by
  intro tree key events
  have facts : (openAt tree "f" 0o644).map (fun e =>
      let e := e.after events
      let opens := (target e.tree e.provider.document e.provider.mode).toBool
      (e.status, e.confirmsWrite (key 'y') && opens, e.tree, e.provider.document.content)) =
      .ok (.running, true, tree, .ok ("A=\"x y\"\n#NM: foo\n" : Text).toBytes) := by
    decide +kernel
  obtain ⟨e, opened, facts⟩ := exists_of_map_eq_ok facts
  rw [Prod.mk.injEq, Prod.mk.injEq, Prod.mk.injEq, Bool.and_eq_true] at facts
  obtain ⟨running, ⟨confirms, opens⟩, same, content⟩ := facts
  have wf : tree.WF := Tree.wf_singleton _ _
  have inside : ∀ event ∈ events, event.isInside = true := by decide
  have within : (key 'y').isInside = true := rfl
  obtain ⟨-, writes⟩ := file_changes_on_yes wf opened inside within
  obtain ⟨bytes, encoded, ⟨-, written, -, stored, there⟩ | ⟨cause, failed, -⟩⟩ :=
    writes confirms running
  · have path : Path.encode (Path.normalized "f") = .ok ("f" : Text).toBytes := by decide +kernel
    rw [path] at encoded
    cases encoded
    rw [content] at stored
    cases stored
    exact ⟨e, opened, same, there⟩
  · rw [failed] at opens
    cases opens

end Editor

end VarFile
