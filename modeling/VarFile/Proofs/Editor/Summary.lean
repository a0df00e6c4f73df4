import VarFile.Proofs.Editor.Stack
import VarFile.Proofs.Editor.Undo
import VarFile.Proofs.Rendering.Untouched

/-!
# What the summary of changes leaves out

Before a file is written, the changes that were not taken back are listed by their keys
(`SummaryLine.Tells`), and the lines that would be kept as comments. `UndoLog.summary_complete` says
that the list hides nothing: every record that assigns none of the keys of these changes is as it
was when the file was read or written last, in the same order, and is written as its line unless the
list tells that it is kept as a comment.
-/

namespace VarFile

/-- A line of a summary tells what a change did to which key, and which name that key had before. -/
inductive SummaryLine.Tells : SummaryLine → Change → Prop
  | added {key value : Text} : Tells ⟨.added, "+  " ++ key⟩ { kind := .set, key, value }
  | edited {key value before : Text} :
    Tells ⟨.edited, "*  " ++ key⟩ { kind := .set, key, value, previous := some before }
  | removed {key value : Text} : Tells ⟨.removed, "-  " ++ key⟩ { kind := .deleted, key, value }
  | renamed {former key value : Text} :
    Tells ⟨.renamed, "~  " ++ former ++ "  →  " ++ key⟩
      { kind := .renamed, key, value, formerKey := some former }

/-- The change of a dialog is told by its line. -/
theorem Dialog.Makes.tells {d : Dialog} {change : Change}
    {apply : Provider → Provider × Except UpdateError Unit} (makes : d.Makes change apply) :
    change.summaryLine.Tells change := by
  cases makes with
  | edit => exact .edited
  | add => exact .added
  | rename => exact .renamed
  | delete => exact .removed

namespace Change

/-- Whether one of several changes is one of a key. -/
def anyConcerns (changes : List Change) (key : Text) : Bool := changes.any (concerns key)

private theorem summaryLine_mem_summary {changes : List Change} (neutralized : List Text)
    {c : Change}
    (hc : c ∈ changes) : c.summaryLine ∈ summary changes neutralized := by
  have there : c.summaryLine ∈ changes.map summaryLine ++ neutralized.map commentedLine :=
    List.mem_append_left _ (List.mem_map_of_mem hc)
  rw [summary]
  split
  · next empty =>
    rw [empty] at there
    cases there
  · exact there

private theorem commentedLine_mem_summary (changes : List Change) {neutralized : List Text}
    {line : Text}
    (hl : line ∈ neutralized) : ⟨.commented, "!  " ++ line⟩ ∈ summary changes neutralized := by
  have there : commentedLine line ∈ changes.map summaryLine ++ neutralized.map commentedLine :=
    List.mem_append_right _ (List.mem_map_of_mem hl)
  rw [summary]
  split
  · next empty =>
    rw [empty] at there
    cases there
  · exact there

end Change

/-- Whether a summary lists the line of a record as one that would be kept as a comment. -/
def Record.isListed (summary : List SummaryLine) (r : Record) : Bool :=
  r.line?.any fun line => summary.contains ⟨.commented, "!  " ++ line⟩

private theorem Document.rendered_or_listed {d : Document} {r : Record} (hr : r ∈ d.records) :
    r.rendered = r.line?.toList ∨
      ∃ line ∈ d.neutralized, r.line? = some line ∧
        r.rendered = r.emptied ++ [Record.marker ++ line] := by
  cases hn : r.neutralized? with
  | none => exact .inl (Record.rendered_of_neutralized?_eq_none hn)
  | some line =>
    have listed : line ∈ d.neutralized := List.mem_filterMap.2 ⟨r, hr, hn⟩
    exact .inr ⟨line, listed, Record.rendered_of_neutralized?_eq_some hn⟩

/-- The change of a dialog leaves the records that do not assign one of its keys, in their order. -/
theorem Dialog.Makes.filter_records {d : Dialog} {change : Change}
    {apply : Provider → Provider × Except UpdateError Unit} (makes : d.Makes change apply)
    (p : Provider) {q : Record → Bool}
    (others : ∀ key, change.concerns key = true → ∀ r, r.assigns key = true → q r = false) :
    (apply p).1.document.records.filter q = p.document.records.filter q := by
  obtain ⟨d', hp, updated⟩ := makes.updated p
  rw [hp]
  refine updated.keeps (P := fun rs => rs.filter q = p.document.records.filter q)
    (fun d key value hk same => ?_) rfl
  rw [Document.filter_set (others key hk), same]

namespace Work

/-- Each change is told by its line, and leaves the records that do not assign one of its keys, in
their order. -/
def Confined : Work → Prop :=
  Linked
    (fun s now => s.change.summaryLine.Tells s.change ∧ ∀ q : Record → Bool,
      (∀ key, s.change.concerns key = true → ∀ r, r.assigns key = true → q r = false) →
        now.records.filter q = s.before.records.filter q)
    (fun _ => True)

theorem confined_step {w w' : Work} {C : Text → Prop} (h : w.Confined) (step : w.Step C w') :
    w'.Confined :=
  linked_step h step
    (fun _ makes _ _ => ⟨makes.tells, fun _ others => makes.filter_records _ others⟩) trivial

theorem Confined.tells {w : Work} (h : w.Confined) {s : Staged} (hs : s ∈ w.staged) :
    s.change.summaryLine.Tells s.change := by
  obtain ⟨-, told, -⟩ := Linked.exists_link h hs
  exact told

/-- Several changes leave the records that do not assign one of their keys, in their order. -/
theorem Confined.filter_records {w : Work} (h : w.Confined) {q : Record → Bool}
    (others : ∀ s ∈ w.staged, ∀ key, s.change.concerns key = true →
      ∀ r, r.assigns key = true → q r = false) :
    w.provider.document.records.filter q =
      ((w.staged.map (·.before)).getLastD w.provider.checkpoint).records.filter q := by
  rw [Confined, Linked] at h
  change w.provider.checkpoint.records.filter q = _
  generalize w.provider.checkpoint = now at h ⊢
  generalize w.staged = staged at h others ⊢
  induction staged generalizing now with
  | nil => rfl
  | cons last older ih =>
    obtain ⟨lastOthers, olderOthers⟩ := List.forall_mem_cons.1 others
    rw [List.map_cons, List.getLastD_cons, h.1.2 q lastOthers]
    exact ih last.before h.2 olderOthers

end Work

namespace UndoLog

variable {tree : Files.Tree} {path : Text} {mode : Int} {s₀ : UndoLog} {events : List EditorEvent}

/-- In all states that a user can reach, an editor shows what it edits, and each change that can be
taken back left the records that do not assign one of its keys. -/
theorem confined_run (opened : openAt tree path mode = .ok s₀)
    (inside : ∀ event ∈ events, event.isInside = true)
    (running : (s₀.run events).editor.status = .running) :
    (s₀.run events).editor.Coherent ∧ (s₀.run events).editor.work.Confined := by
  obtain ⟨coherent, d, -, work⟩ := Editor.openAt_eq_ok (editor_of_openAt opened)
  have start : s₀.editor.work.Confined := by
    rw [work]
    trivial
  rw [editor_run] at running ⊢
  exact Editor.invariant_after (C := fun _ => True) Work.confined_step (fun _ => ⟨coherent, start⟩)
    inside (fun _ _ => trivial) running

/-- Whenever an editor asks whether to write the file, the summary tells of all changes that were
not written, by their keys, and the records that assign none of these keys are those of the last
time that the file was read or written, in the same order. Every record is written as its line, or
kept as a comment that the summary lists behind an exclamation mark. So the lines of all records
that are neither named nor listed are written as they were. -/
theorem summary_complete (opened : openAt tree path mode = .ok s₀)
    (inside : ∀ event ∈ events, event.isInside = true)
    (running : (s₀.run events).editor.status = .running) {summary : List SummaryLine}
    {noted yes : Bool}
    (asked : (s₀.run events).editor.dialog = some (.save summary noted yes)) :
    let s := s₀.run events
    let d := s.editor.provider.document
    let unnamed := Record.avoids (Change.anyConcerns s.editor.changes)
    let unlisted (r : Record) := !r.isListed summary
    (∀ c ∈ s.editor.changes, ∃ l ∈ summary, l.Tells c) ∧
      d.records.filter unnamed = s.settled.records.filter unnamed ∧
      (∀ r ∈ d.records,
        r.rendered = r.line?.toList ∨
          ∃ line, r.line? = some line ∧ r.rendered = r.emptied ++ [Record.marker ++ line] ∧
            ⟨.commented, "!  " ++ line⟩ ∈ summary) ∧
      ((d.records.filter unnamed).filter unlisted).flatMap Record.rendered =
        ((s.settled.records.filter unnamed).filter unlisted).flatMap fun r => r.line?.toList := by
  intro s d unnamed unlisted
  obtain ⟨coherent, confined⟩ := confined_run opened inside running
  obtain ⟨pending, settled⟩ := agrees_run (fun _ => agrees_of_openAt opened) inside running
  obtain ⟨-, list, -⟩ := coherent.dialog _ asked
  have list : summary = Change.summary s.editor.changes d.neutralized := list
  have named : ∀ staged ∈ s.editor.staged, ∀ key, staged.change.concerns key = true →
      ∀ r, r.assigns key = true → unnamed r = false := by
    intro staged hs key hk r hr
    have change : staged.change ∈ s.editor.changes :=
      List.mem_reverse.2 (List.mem_map_of_mem hs)
    have concerned : Change.anyConcerns s.editor.changes key = true :=
      List.any_eq_true.2 ⟨staged.change, change, hk⟩
    exact Record.avoids_eq_false concerned hr
  have same : d.records.filter unnamed = s.settled.records.filter unnamed := by
    rw [← settled, ← pending]
    exact confined.filter_records named
  have written (r : Record) (hr : r ∈ d.records) :
      r.rendered = r.line?.toList ∨
        ∃ line, r.line? = some line ∧ r.rendered = r.emptied ++ [Record.marker ++ line] ∧
          ⟨.commented, "!  " ++ line⟩ ∈ summary := by
    obtain same | ⟨line, listed, hl, rendered⟩ := Document.rendered_or_listed hr
    · exact .inl same
    · have told := Change.commentedLine_mem_summary s.editor.changes listed
      rw [← list] at told
      exact .inr ⟨line, hl, rendered, told⟩
  refine ⟨fun c hc => ?_, same, written, ?_⟩
  · obtain ⟨staged, hs, rfl⟩ := List.mem_map.1 (List.mem_reverse.1 hc)
    refine ⟨staged.change.summaryLine, ?_, confined.tells hs⟩
    rw [list]
    exact Change.summaryLine_mem_summary _ hc
  · rw [← same]
    refine List.flatMap_congr fun r hr => ?_
    obtain ⟨hr, quiet⟩ := List.mem_filter.1 hr
    obtain as | ⟨line, hl, -, told⟩ := written r (List.mem_of_mem_filter hr)
    · exact as
    · have listed : r.isListed summary = true := by
        rw [Record.isListed, hl, Option.any_some, List.contains_iff_mem]
        exact told
      rw [Bool.not_eq_true', listed] at quiet
      cases quiet

/-- A value is edited in a file with a command and a duplicate, before the file is written. -/
theorem summary_complete_edited :
    let tree : Files.Tree :=
      ⟨[([("f" : Text).toBytes], .file 0)],
        [⟨("A=0\nfoo\n\tA=1\n B='x'\n" : Text).toBytes, 0o644⟩], {}⟩
    let key (c : Char) : EditorEvent := .key (.char (.ofChar c))
    let events : List EditorEvent := [key 'i', .fill .value "2", .key .enter, key 's']
    let unnamed := Record.avoids (· == "A")
    let change : Change := { kind := .set, key := "A", value := "2", previous := some "1" }
    let summary : List SummaryLine := [⟨.edited, "*  A"⟩, ⟨.commented, "!  foo"⟩]
    ∃ s, openAt tree "f" 0o644 = .ok s ∧ (∃ l ∈ summary, l.Tells change) ∧
      (s.run events).editor.provider.document.records.filter unnamed =
        [.raw "foo", Record.ofLine " B='x'"] := by
  intro tree key events unnamed change summary
  have facts : (openAt tree "f" 0o644).map (fun s =>
      let s := s.run events
      (s.editor.status, s.editor.dialog, s.editor.changes, s.settled.records.filter unnamed)) =
      .ok (.running, some (.save summary true false), [change],
        [.raw "foo", Record.ofLine " B='x'"]) := by decide +kernel
  obtain ⟨s, opened, facts⟩ := exists_of_map_eq_ok facts
  rw [Prod.mk.injEq, Prod.mk.injEq, Prod.mk.injEq] at facts
  obtain ⟨running, asked, changes, before⟩ := facts
  have inside : ∀ event ∈ events, event.isInside = true := by decide
  obtain ⟨told, same, -⟩ := summary_complete opened inside running asked
  have named : Change.anyConcerns [change] = fun key => key == ("A" : Text) := by
    funext key
    simp [Change.anyConcerns, Change.concerns, change, eq_comm, beq_eq_decide]
  rw [changes, named] at same
  exact ⟨s, opened, told change (changes ▸ List.mem_singleton_self change), same.trans before⟩

end UndoLog

end VarFile
