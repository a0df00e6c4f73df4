import VarFile.Proofs.Editor.Looks

/-!
# Copying a value

The value under the cursor is copied from the table, whose cells leave out five controls. So what is
copied is the value without these, which is the value itself exactly if it holds none of them
(`Editor.copied_of_highlighted`).
-/

namespace VarFile

namespace Text

/-- The controls that are not shown. -/
def unshown : List Nat := [0x07, 0x08, 0x0B, 0x0C, 0x0D]

private theorem isUnshown_iff {c : CodePoint} : isUnshown c = true ↔ c.val ∈ unshown := by
  simp [isUnshown, unshown, or_assoc]

/-- A text is shown as it is if none of its code points is left out. -/
theorem shown_eq_self_iff {t : Text} : t.shown = t ↔ ∀ c ∈ t, c.val ∉ unshown := by
  rw [shown, List.filter_eq_self]
  refine forall₂_congr fun c _ => ?_
  rw [← isUnshown_iff, Bool.not_eq_true', Bool.not_eq_true]

end Text

namespace Editor

variable {e : Editor} {v : Variable}

private theorem clipboard_copy (e : Editor) :
    e.copy.clipboard = e.table.copied?.getD e.clipboard := by
  rw [copy]
  cases e.table.copied? with
  | none => rfl
  | some value => rfl

/-- A readable value is copied as it is shown. -/
theorem copied?_of_readable (highlighted : e.table.highlighted? = some v)
    (readable : v.malformed = false) : e.table.copied? = some v.value.shown := by
  rw [Table.copied?, highlighted, Option.filter_some, readable]
  rfl

/-- A malformed value is not copied. -/
theorem copied?_of_malformed (highlighted : e.table.highlighted? = some v)
    (malformed : v.malformed = true) : e.table.copied? = none := by
  rw [Table.copied?, highlighted, Option.filter_some, malformed]
  rfl

/-- In front of the rows of a document with valid keys, the value of the key under the cursor is
copied without the controls that are not shown, and is copied as it is exactly if it holds none of
them. A key without a value that can be read leaves the clipboard alone. -/
theorem copied_of_highlighted
    (valid : ∀ key ∈ e.provider.document.keys, Key.isValid key = true)
    (rows : ∀ v ∈ e.table.rows, v ∈ e.provider.variableList)
    (highlighted : e.table.highlighted? = some v) :
    let value := e.provider.document.value? v.key
    (∃ w, value = .ok (some w) ∧ e.table.copied? = some w.shown ∧ e.copy.clipboard = w.shown ∧
        (e.table.copied? = some w ↔ ∀ c ∈ w, c.val ∉ Text.unshown)) ∨
      (value = .ok none ∧ e.table.copied? = none ∧ e.copy.clipboard = e.clipboard) := by
  intro value
  have row : v ∈ e.provider.document.variableList := rows v (List.mem_of_getElem? highlighted)
  obtain ⟨readable, found⟩ | ⟨malformed, none, -⟩ := Document.variable_cases valid row
  · have copied := copied?_of_readable highlighted readable
    refine .inl ⟨v.value, found, copied, ?_, ?_⟩
    · rw [clipboard_copy, copied, Option.getD_some]
    · rw [copied, Option.some.injEq, Text.shown_eq_self_iff]
  · have nothing := copied?_of_malformed highlighted malformed
    refine .inr ⟨none, nothing, ?_⟩
    rw [clipboard_copy, nothing, Option.getD_none]

/-- A tab and a letter that is not ASCII are copied, a carriage return is not. -/
theorem copied_of_highlighted_control :
    let p : Provider :=
      { path := "f"
        document :=
          { fileName := "f"
            records := [Record.ofLine "B=(x", Record.ofLine "A=$'ä\\tb\\r'"] } }
    let e : Editor := { tree := {}, provider := p, table := ⟨p.variableList, 1⟩ }
    p.document.value? "A" = .ok (some "ä\tb\x0d") ∧ e.copy.clipboard = "ä\tb" := by
  intro p e
  have valid : ∀ key ∈ e.provider.document.keys, Key.isValid key = true := by decide +kernel
  have highlighted : e.table.highlighted? = some ⟨"A", "ä\tb\x0d", false⟩ := by decide +kernel
  obtain ⟨w, found, -, clipboard, -⟩ | ⟨none, -⟩ :=
    copied_of_highlighted valid (fun _ there => there) highlighted
  · have value : p.document.value? "A" = .ok (some "ä\tb\x0d") := by decide +kernel
    have same : w = ("ä\tb\x0d" : Text) := by
      have both := found.symm.trans value
      simpa using both
    rw [same] at clipboard
    exact ⟨value, clipboard⟩
  · exact absurd none (by decide +kernel)

/-- A value with a control that is not shown is not copied as it is. -/
theorem not_copied?_eq_value? :
    ¬ ∀ (e : Editor) (v : Variable),
      (∀ key ∈ e.provider.document.keys, Key.isValid key = true) →
        (∀ v ∈ e.table.rows, v ∈ e.provider.variableList) → e.table.highlighted? = some v →
          ∀ w, e.provider.document.value? v.key = .ok (some w) → e.table.copied? = some w := by
  intro h
  let p : Provider :=
    { path := "f", document := { fileName := "f", records := [Record.ofLine "A=$'a\\rb'"] } }
  let e : Editor := { tree := {}, provider := p, table := ⟨p.variableList, 0⟩ }
  have copied := h e ⟨"A", "a\x0db", false⟩ (by decide +kernel) (fun _ there => there)
    (by decide +kernel) "a\x0db" (by decide +kernel)
  exact absurd copied (by decide +kernel)

end Editor

end VarFile
