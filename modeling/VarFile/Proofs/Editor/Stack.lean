import VarFile.Proofs.Editor.Work

/-!
# The changes that can be taken back

Each change that can be taken back keeps the records and the flag from before it. `Work.Chain` goes
down these states: what holds between each change and the state after it, and of the state below all
of them. A step keeps the chain if an accepted change adds a link and a write leaves a state to
begin with (`Work.linked_step`).
-/

namespace VarFile

namespace Work

/-- Something holds between each change and the state after it, and of the state below all of them.
-/
def Chain (R : Staged → Checkpoint → Prop) (bottom : Checkpoint → Prop) :
    Checkpoint → List Staged → Prop
  | now, [] => bottom now
  | now, last :: older => R last now ∧ Chain R bottom last.before older

/-- The chain of what is edited. -/
def Linked (R : Staged → Checkpoint → Prop) (bottom : Checkpoint → Prop) (w : Work) : Prop :=
  Chain R bottom w.provider.checkpoint w.staged

variable {R : Staged → Checkpoint → Prop} {bottom : Checkpoint → Prop} {C : Text → Prop}
  {w w' : Work}

/-- Each change of a chain is linked to some state. -/
theorem Linked.exists_link (h : w.Linked R bottom) {s : Staged} (hs : s ∈ w.staged) :
    ∃ now, R s now := by
  rw [Linked] at h
  generalize w.provider.checkpoint = now at h
  generalize w.staged = staged at h hs
  induction staged generalizing now with
  | nil => cases hs
  | cons last older ih =>
    obtain ⟨link, below⟩ := h
    obtain rfl | hs := List.mem_cons.1 hs
    · exact ⟨now, link⟩
    · exact ih last.before below hs

private theorem linked_written (h : w.Linked R bottom)
    (begin : bottom ⟨w.provider.document.records, false⟩) : w.written.Linked R bottom := by
  have now : w.written.provider.checkpoint =
      ⟨w.provider.document.records,
        w.provider.document.modified && !w.saved.result.toBool⟩ :=
    Storage.checkpoint_writeFile w.tree w.provider.document w.provider.mode
  rw [Linked, now]
  cases hr : w.saved.result.toBool with
  | true =>
    have forgotten : w.written.staged = [] := if_pos hr
    rw [forgotten, Bool.not_true, Bool.and_false]
    exact begin
  | false =>
    have kept : w.written.staged = w.staged := if_neg (ne_true_of_eq_false hr)
    rw [kept, Bool.not_false, Bool.and_true]
    exact h

/-- A step keeps the chain if an accepted change adds a link to it and the state that a write leaves
is one to begin with. -/
theorem linked_step (h : w.Linked R bottom) (step : w.Step C w')
    (link : ∀ {d : Dialog} {change : Change}
      {apply : Provider → Provider × Except UpdateError Unit},
      d.Fits w.provider w.staged → d.Makes change apply → (∀ v ∈ d.entered?, C v) →
        (apply w.provider).2 = .ok () →
          R ⟨change, w.provider.checkpoint⟩ (apply w.provider).1.checkpoint)
    (begin : bottom ⟨w.provider.document.records, false⟩) : w'.Linked R bottom := by
  cases step with
  | same => exact h
  | changed fits makes entered accepted => exact ⟨link fits makes entered accepted, h⟩
  | @undone last older staged =>
    rw [Linked, staged] at h
    exact h.2
  | written => exact linked_written h begin

end Work

end VarFile
