import VarFile.Proofs.Document.Saved
import VarFile.Proofs.Files.Tree

/-!
# Documents at their files

A document that was read from a path is written to the file at this path, whether it holds the file
or not (`Document.IsAt`), and stays there when it is written (`Storage.isAt_writeFile`). What a
write puts into the file is found there, and can be read again unless it is too large
(`Storage.openFile_eq_reading`).
-/

namespace VarFile

open Files (Tree)

/-- A document belongs to a path: it is written to the file there. -/
structure Document.IsAt (t : Tree) (bytes : Bytes) (d : Document) : Prop where
  path : Path.encode d.fileName = .ok bytes
  held : ∀ inode ∈ d.descriptor, t.find bytes = .ok (.file inode)

/-- The records and the flag do not matter for the place of a document. -/
theorem Document.IsAt.of_restore {t : Tree} {bytes : Bytes} {d d' : Document} {c : Checkpoint}
    (h : d.IsAt t bytes) (same : d'.restore c = d) : d'.IsAt t bytes := by
  have place : (d'.restore c).IsAt t bytes := by rwa [same]
  exact ⟨place.path, place.held⟩

namespace Storage

variable {t t' : Tree} {path : Text} {bytes content : Bytes} {inode : Nat} {d : Document}
  {mode : Int}

/-! ### Reading -/

/-- What reading the content of a file gives. -/
def reading (path : Text) (content : Bytes) : Except Error Document :=
  if maxFileSize < content.length then .error (.tooLarge path) else .ok (.ofContent path content)

/-- A document was read from a path, and holds the file there or not. -/
def Loads (t : Tree) (path : Text) (d : Document) : Prop :=
  (openFile t path).result = .ok d ∨ (createFile t path).result = .ok d

/-- What opening a file with some content for reading gives. -/
def opening (readable : Bool) (path : Text) (content : Bytes) : Except Error Document :=
  if readable then reading path content else .error (.failed path .read .permissionDenied)

private theorem load_file (path : Text) (t : Tree) (inode : Nat) (descriptor : Option Nat) :
    (load path t (.file inode) descriptor).result =
      (reading path (((t.file? inode).map (·.content)).getD [])).map fun d =>
        { d with descriptor } := by
  rw [load, readNode, reading]
  by_cases large : maxFileSize < (((t.file? inode).map (·.content)).getD []).length
  · rw [if_pos large, if_pos large]
    rfl
  · rw [if_neg large, if_neg large]
    rfl

/-- A file that is found is read, unless it may not be read or is too large. -/
theorem openFile_eq_opening (encoded : Path.encode path = .ok bytes)
    (leads : t.find bytes = .ok (.file inode))
    (there : (t.file? inode).map (·.content) = some content) :
    (openFile t path).result = opening (t.mayRead inode) path content := by
  simp only [openFile, encoded, Tree.openToRead, leads, opening]
  cases t.mayRead inode with
  | false => rfl
  | true =>
    simp only [if_true, load_file, there, Option.getD_some]
    rw [reading]
    by_cases large : maxFileSize < content.length
    · rw [if_pos large]
      rfl
    · rw [if_neg large]
      rfl

/-- A path with a content leads to a file with this content. -/
theorem exists_of_contentAt? (h : t.contentAt? bytes = some content) :
    ∃ inode, t.find bytes = .ok (.file inode) ∧ (t.file? inode).map (·.content) = some content := by
  rw [Tree.contentAt?] at h
  split at h
  · next inode found => exact ⟨inode, found, h⟩
  · cases h

/-- A file that is found and may be read is read, unless it is too large. -/
theorem openFile_eq_reading (encoded : Path.encode path = .ok bytes)
    (found : t.contentAt? bytes = some content) (readable : t.IsReadable bytes) :
    (openFile t path).result = reading path content := by
  obtain ⟨inode, leads, there⟩ := exists_of_contentAt? found
  rw [openFile_eq_opening encoded leads there, readable inode leads]
  rfl

/-- A file that may be read is also read where it is held if it may be written. -/
theorem createFile_eq_reading (encoded : Path.encode path = .ok bytes)
    (leads : t.find bytes = .ok (.file inode))
    (there : (t.file? inode).map (·.content) = some content) (readable : t.mayRead inode = true) :
    (createFile t path).result = (reading path content).map fun d =>
      { d with descriptor := if t.mayWrite inode then some inode else none } := by
  simp only [createFile, encoded, Tree.openToRead, leads, readable, if_true, load_file, there,
    Option.getD_some, descriptorOf]

private theorem load_eq_ok {node : Files.Node} {descriptor : Option Nat}
    (h : (load path t node descriptor).result = .ok d) :
    (∃ content, d.records = Record.ofBytes content) ∧ d.fileName = path ∧ d.modified = false ∧
      d.descriptor = descriptor := by
  cases node with
  | directory => cases h
  | file inode =>
    rw [load_file, reading] at h
    by_cases large : maxFileSize < (((t.file? inode).map (·.content)).getD []).length
    · rw [if_pos large] at h
      cases h
    · rw [if_neg large] at h
      cases h
      exact ⟨⟨_, rfl⟩, rfl, rfl, rfl⟩

private theorem eq_file_of_descriptorOf {node : Files.Node} (h : inode ∈ descriptorOf t node) :
    node = .file inode := by
  cases node with
  | directory => cases h
  | file other =>
    rw [descriptorOf] at h
    split at h
    · rw [Option.some.inj h]
    · cases h

/-- A document that was just read is at its path, and its flag is not set. -/
theorem isAt_of_loads (h : Loads t path d) :
    ∃ bytes, Path.encode path = .ok bytes ∧ d.IsAt t bytes ∧ d.fileName = path ∧
      d.modified = false ∧ Document.WellFormed d.records := by
  rw [Loads, openFile, createFile] at h
  cases encoded : Path.encode path with
  | error cause =>
    rw [encoded] at h
    obtain h | h := h
    · cases h
    · cases h
  | ok bytes =>
    refine ⟨bytes, rfl, ?_⟩
    rw [encoded] at h
    cases opened : t.openToRead bytes with
    | error cause =>
      simp only [opened] at h
      obtain h | h := h
      · cases h
      · cases h
        exact ⟨⟨encoded, fun inode hi => by cases hi⟩, rfl, rfl, Document.wellFormed_ofBytes []⟩
    | ok node =>
      simp only [opened] at h
      have found : t.find bytes = .ok node := (Tree.openToRead_eq_ok_iff.1 opened).1
      have loaded : ∃ descriptor, (load path t node descriptor).result = .ok d ∧
          ∀ inode ∈ descriptor, node = .file inode := by
        obtain h | h := h
        · exact ⟨none, h, fun inode hi => by cases hi⟩
        · exact ⟨_, h, fun inode hi => eq_file_of_descriptorOf hi⟩
      obtain ⟨descriptor, hl, held⟩ := loaded
      obtain ⟨⟨content, records⟩, name, flag, rfl⟩ := load_eq_ok hl
      refine ⟨⟨name ▸ encoded, fun inode hi => ?_⟩, name, flag, ?_⟩
      · rw [found, held inode hi]
      · rw [records]
        exact Document.wellFormed_ofBytes content

/-! ### Writing -/

theorem writeFile_of_unmodified (h : d.modified = false) :
    writeFile t d mode = ⟨t, d, .ok (), []⟩ := by
  rw [writeFile, h]
  rfl

/-- A document whose file cannot be opened is not written. -/
theorem writeFile_of_error (hm : d.modified = true) {cause : Error}
    (h : target t d mode = .error cause) : writeFile t d mode = ⟨t, d, .error cause, []⟩ := by
  rw [writeFile, hm, h]
  rfl

/-- A document is written into the file that was opened. -/
theorem writeFile_of_ok (hm : d.modified = true) (h : target t d mode = .ok (t', inode))
    (hc : d.content = .ok content) :
    (writeFile t d mode).tree = t'.overwrite inode content ∧
      (writeFile t d mode).document = { d with descriptor := some inode, modified := false } ∧
      (writeFile t d mode).result = .ok () := by
  have same : Document.content { d with descriptor := some inode } = .ok content := hc
  have go : ¬(!d.modified) = true := by
    rw [hm]
    decide
  rw [writeFile, if_neg go, h]
  simp only [same, true_and]

private theorem writeFile_of_unstorable (hm : d.modified = true)
    (h : target t d mode = .ok (t', inode))
    {cause : Unstorable} (hc : d.content = .error cause) :
    (writeFile t d mode).tree = t' ∧
      (writeFile t d mode).document = { d with descriptor := some inode } ∧
      (writeFile t d mode).result = .error (.unstorable cause) := by
  have same : Document.content { d with descriptor := some inode } = .error cause := hc
  have go : ¬(!d.modified) = true := by
    rw [hm]
    decide
  rw [writeFile, if_neg go, h]
  simp only [same, true_and]

/-- The file that a document is written to is the one it holds, or the one at its path. -/
theorem target_cases (h : target t d mode = .ok (t', inode)) :
    (d.descriptor = some inode ∧ t' = t) ∨
      ∃ bytes, Path.encode d.fileName = .ok bytes ∧
        t.openOrCreate bytes mode = .ok (t', inode) := by
  rw [target] at h
  split at h
  · next held =>
    cases h
    exact .inl ⟨held, rfl⟩
  · split at h
    · cases h
    · next bytes encoded =>
      split at h
      · cases h
      · split at h
        · cases h
        · next opened ho =>
          cases h
          exact .inr ⟨bytes, encoded, ho⟩

private theorem extends_target (h : target t d mode = .ok (t', inode)) : t.Extends t' := by
  obtain ⟨-, rfl⟩ | ⟨bytes, -, opened⟩ := target_cases h
  · exact .refl t'
  · exact Tree.extends_of_openOrCreate opened

theorem wf_target (wf : t.WF) (h : target t d mode = .ok (t', inode)) : t'.WF := by
  obtain ⟨-, rfl⟩ | ⟨bytes, -, opened⟩ := target_cases h
  · exact wf
  · exact Tree.wf_of_openOrCreate wf opened

/-- The file that a document is written to is the one at its path. -/
theorem find_target (place : d.IsAt t bytes) (h : target t d mode = .ok (t', inode)) :
    t'.find bytes = .ok (.file inode) := by
  obtain ⟨held, rfl⟩ | ⟨other, encoded, opened⟩ := target_cases h
  · exact place.held inode held
  · rw [place.path] at encoded
    cases encoded
    exact Tree.find_of_openOrCreate opened

/-- What a write leaves of the files: what was there, or the tree with the content of the document
in its file. -/
theorem tree_writeFile (t : Tree) (d : Document) (mode : Int) :
    (writeFile t d mode).tree = t ∨
      ∃ t' inode, d.modified = true ∧ target t d mode = .ok (t', inode) ∧
        ((writeFile t d mode).tree = t' ∨
          ∃ content, (writeFile t d mode).tree = t'.overwrite inode content) := by
  cases hm : d.modified with
  | false => exact .inl (by rw [writeFile_of_unmodified hm])
  | true =>
    cases ht : target t d mode with
    | error cause => exact .inl (by rw [writeFile_of_error hm ht])
    | ok opened =>
      obtain ⟨t', inode⟩ := opened
      refine .inr ⟨t', inode, rfl, rfl, ?_⟩
      cases hc : d.content with
      | error cause => exact .inl (writeFile_of_unstorable hm ht hc).1
      | ok content => exact .inr ⟨content, (writeFile_of_ok hm ht hc).1⟩

/-- A write takes no name away. -/
theorem extends_writeFile : t.Extends (writeFile t d mode).tree := by
  obtain same | ⟨t', inode, -, opened, written | ⟨content, written⟩⟩ := tree_writeFile t d mode
  · rw [same]
    exact .refl t
  · rw [written]
    exact extends_target opened
  · rw [written]
    have kept : t.Extends t' := extends_target opened
    exact kept

theorem wf_writeFile (wf : t.WF) : (writeFile t d mode).tree.WF := by
  obtain same | ⟨t', inode, -, opened, written | ⟨content, written⟩⟩ := tree_writeFile t d mode
  · rwa [same]
  · rw [written]
    exact wf_target wf opened
  · rw [written]
    exact Tree.wf_overwrite (wf_target wf opened) inode content

theorem keepsReadable_writeFile : t.KeepsReadable (writeFile t d mode).tree := by
  have opens {t' : Tree} {inode : Nat} (h : target t d mode = .ok (t', inode)) :
      t.KeepsReadable t' := by
    obtain ⟨-, rfl⟩ | ⟨bytes, -, opened⟩ := target_cases h
    · exact .refl t'
    · exact Tree.keepsReadable_of_openOrCreate opened
  obtain same | ⟨t', inode, -, opened, written | ⟨content, written⟩⟩ := tree_writeFile t d mode
  · rw [same]
    exact .refl t
  · rw [written]
    exact opens opened
  · rw [written]
    exact (opens opened).trans (Tree.keepsReadable_overwrite inode content)

/-- A document stays at its path when it is written. -/
theorem isAt_writeFile (place : d.IsAt t bytes) :
    (writeFile t d mode).document.IsAt (writeFile t d mode).tree bytes := by
  cases hm : d.modified with
  | false => rwa [writeFile_of_unmodified hm]
  | true =>
    cases ht : target t d mode with
    | error cause => rwa [writeFile_of_error hm ht]
    | ok opened =>
      obtain ⟨t', inode⟩ := opened
      have found := find_target place ht
      cases hc : d.content with
      | error cause =>
        obtain ⟨tree, document, -⟩ := writeFile_of_unstorable hm ht hc
        rw [tree, document]
        exact ⟨place.path, fun other ho => Option.some.inj ho ▸ found⟩
      | ok content =>
        obtain ⟨tree, document, -⟩ := writeFile_of_ok hm ht hc
        rw [tree, document]
        exact ⟨place.path, fun other ho => Option.some.inj ho ▸
          Tree.find_of_extends (Tree.extends_overwrite inode content) found⟩

/-- What a write that succeeds puts into the file that it was written to. -/
theorem content_of_writeFile_ok (wf : t.WF) (hm : d.modified = true)
    (h : (writeFile t d mode).result = .ok ()) :
    ∃ inode content, (writeFile t d mode).document.descriptor = some inode ∧
      d.content = .ok content ∧
      ∀ bytes, (writeFile t d mode).tree.find bytes = .ok (.file inode) →
        (writeFile t d mode).tree.contentAt? bytes = some content := by
  cases ht : target t d mode with
  | error cause =>
    rw [writeFile_of_error hm ht] at h
    cases h
  | ok opened =>
    obtain ⟨t', inode⟩ := opened
    cases hc : d.content with
    | error cause =>
      rw [(writeFile_of_unstorable hm ht hc).2.2] at h
      cases h
    | ok content =>
      obtain ⟨tree, document, -⟩ := writeFile_of_ok hm ht hc
      refine ⟨inode, content, by rw [document], rfl, fun bytes found => ?_⟩
      rw [tree] at found ⊢
      have there := Tree.lt_of_find (Tree.wf_overwrite (wf_target wf ht) inode content) found
      rw [Tree.overwrite, List.length_modify] at there
      rw [Tree.contentAt?_of_find found, Tree.file?_overwrite there]

end Storage

end VarFile
