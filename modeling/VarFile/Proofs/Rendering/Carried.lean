import VarFile.Proofs.Rendering.Reread

/-!
# What a file says of a document

A document carries what another one says (`Document.Carries`) if it has its values, and no stored
text where it has none. The document that is read from the content of another one does
(`Document.carries_ofContent`).
-/

namespace VarFile

namespace Document

variable {d e : Document} {key v : Text}

/-- What a document says is said by another one: its values, and which keys have no stored text. -/
structure Carries (d e : Document) : Prop where
  value : ∀ key v, d.value? key = .ok (some v) → e.value? key = .ok (some v)
  gone : ∀ key, d.stored? key = none → e.stored? key = none

/-- Documents with the same records say the same. -/
theorem carries_of_records (same : e.records = d.records) : d.Carries e := by
  have stored (key : Text) : e.stored? key = d.stored? key := by rw [stored?, stored?, same]
  refine ⟨fun key v h => ?_, fun key h => ?_⟩
  · rw [value?_eq_some_iff] at h ⊢
    rwa [stored key]
  · rwa [stored key]

/-- What is read from the content of a document says the same. -/
theorem carries_ofContent (well : WellFormed d.records) {content : Bytes}
    (stored : d.content = .ok content) (fileName : Text) :
    d.Carries (ofContent fileName content) := by
  have agrees := agrees_ofContent well stored fileName
  refine ⟨fun key v h => ?_, fun key h => ?_⟩
  · obtain ⟨-, text, there, reads⟩ := value?_eq_some_iff.1 h
    exact (agrees.readable key text v there reads).2
  · have none := lastAssignment?_eq_none_iff.2 (agrees.deleted key h)
    rw [stored?, none]
    rfl

end Document

end VarFile
