import VarFile.Proofs.Document.Changed
import VarFile.Proofs.Rendering.Reread
import VarFile.Proofs.Storage.Place

/-!
# Changing the file at a path

A path offers the content of its file, or the place for a new file (`Storage.Offers`). What it
offers is read into a document (`Storage.createFile_of_offers`), and the document is written back
to it if it was changed (`Storage.writeFile_of_offers`).
-/

namespace VarFile

namespace Document

/-- The document with another file to hold, or none. -/
def holding (d : Document) (descriptor : Option Nat) : Document := { d with descriptor }

/-- An update does not depend on the file that a document holds. -/
theorem set_holding (d : Document) (descriptor : Option Nat) (key : Text) (value : Option Text) :
    (d.holding descriptor).set key value =
      ((d.set key value).1.holding descriptor, (d.set key value).2) := by
  rw [set, set]
  cases Key.check key with
  | error cause => rfl
  | ok =>
    cases value with
    | none => rfl
    | some v =>
      simp only
      cases Value.quote v <;> rfl

/-- The document of a file has well-formed records after an update, too. -/
theorem wellFormed_set_ofContent (fileName : Text) (content : Bytes) (key : Text)
    (value : Option Text) : WellFormed ((ofContent fileName content).set key value).1.records :=
  wellFormed_set (wellFormed_ofBytes content) key value

end Document

namespace Storage

open Files (Tree)

variable {t : Tree} {path : Text} {bytes : Bytes} {offered : Option Bytes} {d : Document}
  {mode : Int}

/-- What a path offers: the content of a file that may be read and is not too large, or nothing
where a file can be made. -/
inductive Offers (t : Tree) (bytes : Bytes) : Option Bytes → Prop
  | file {content : Bytes} (found : t.contentAt? bytes = some content)
      (fits : content.length ≤ maxFileSize) (readable : t.IsReadable bytes) :
      Offers t bytes (some content)
  | free {p : Files.Place} (place : t.resolve bytes = .ok p) (nothing : t.node? p = none)
      (name : Tree.endsInSlash bytes = false) : Offers t bytes none

private theorem find_of_free (h : Offers t bytes none) : t.find bytes = .error .notFound := by
  cases h with
  | free place nothing _ =>
    rw [Tree.find, place]
    simp only [nothing]

/-- A place for a new file is not too long, and a file is made there. -/
theorem openOrCreate_of_free (h : Offers t bytes none) (mode : Int) :
    ∃ opened, t.openOrCreate bytes mode = .ok opened := by
  cases h with
  | @free p place nothing name =>
    have short : ¬ Files.maxPathLength < bytes.length := by
      intro long
      rw [Tree.resolve, if_pos long] at place
      split at place <;> cases place
    rw [Tree.openOrCreate, if_neg short, name, place]
    simp only [Bool.false_eq_true, if_false, nothing]
    exact ⟨_, rfl⟩

/-- What a path offers is read; a document holds the file that was there if it may be written. -/
theorem createFile_of_offers (encoded : Path.encode path = .ok bytes)
    (offers : Offers t bytes offered) (writable : t.IsWritable bytes) :
    ∃ descriptor, (createFile t path).result =
        .ok ((Document.ofContent path (offered.getD [])).holding descriptor) ∧
      (descriptor = none → offered = none) := by
  cases offers with
  | file found fits readable =>
    obtain ⟨inode, leads, there⟩ := exists_of_contentAt? found
    refine ⟨some inode, ?_, fun none => (by cases none)⟩
    rw [createFile_eq_reading encoded leads there (readable inode leads), writable inode leads,
      reading, if_neg (Nat.not_lt.2 fits)]
    rfl
  | free place nothing name =>
    refine ⟨none, ?_, fun _ => rfl⟩
    have unopened := Tree.openToRead_eq_error_iff.2 (.inl (find_of_free (.free place nothing name)))
    simp only [createFile, encoded, unopened]
    rfl

/-- A changed document is written to the path that it was read from. -/
theorem writeFile_of_offers (wf : t.WF) (encoded : Path.encode path = .ok bytes)
    (offers : Offers t bytes offered) {descriptor : Option Nat}
    (read : (createFile t path).result =
      .ok ((Document.ofContent path (offered.getD [])).holding descriptor))
    (held : descriptor = none → offered = none) (fileName : d.fileName = path)
    (same : d.descriptor = descriptor) (changed : d.modified = true)
    (well : Document.WellFormed d.records) (permitted : isModeArgument mode = true) :
    ∃ content, d.content = .ok content ∧ (writeFile t d mode).result = .ok () ∧
      (writeFile t d mode).tree.contentAt? bytes = some content := by
  obtain ⟨other, encoded', place, -⟩ := isAt_of_loads (.inr read)
  rw [encoded] at encoded'
  cases encoded'
  have at_path : d.IsAt t bytes :=
    ⟨fileName ▸ encoded, fun inode hi => place.held inode (same ▸ hi)⟩
  obtain ⟨t', inode, opened⟩ : ∃ t' inode, target t d mode = .ok (t', inode) := by
    rw [target, same]
    cases descriptor with
    | some inode => exact ⟨t, inode, rfl⟩
    | none =>
      cases held rfl
      obtain ⟨⟨t', inode⟩, made⟩ := openOrCreate_of_free offers mode
      refine ⟨t', inode, ?_⟩
      simp only [fileName, encoded, permitted, made]
      rfl
  have stored := Document.content_eq_ok well.wf
  obtain ⟨tree, -, written⟩ := writeFile_of_ok changed opened stored
  refine ⟨_, stored, written, ?_⟩
  rw [tree]
  exact Tree.contentAt?_overwrite (wf_target wf opened) (find_target at_path opened) _

/-- After an update of what a path offers, either no record was changed and nothing is written, or
the content of the changed document is at the path. -/
theorem writeFile_set_of_offers (wf : t.WF) (encoded : Path.encode path = .ok bytes)
    (offers : Offers t bytes offered) {descriptor : Option Nat}
    (read : (createFile t path).result =
      .ok ((Document.ofContent path (offered.getD [])).holding descriptor))
    (held : descriptor = none → offered = none) (key : Text) (value : Option Text)
    (permitted : isModeArgument mode = true) :
    let d := Document.ofContent path (offered.getD [])
    let w := writeFile t ((d.set key value).1.holding descriptor) mode
    w.result = .ok () ∧
      (((d.set key value).1.records = d.records ∧ w.tree = t) ∨
        ((d.set key value).1.records ≠ d.records ∧ ∃ content,
          (d.set key value).1.content = .ok content ∧ w.tree.contentAt? bytes = some content)) := by
  intro d w
  have flag : (d.set key value).1.modified = true ↔ (d.set key value).1.records ≠ d.records :=
    Document.modified_set_iff.trans (or_iff_right (by simp [d, Document.ofContent]))
  by_cases same : (d.set key value).1.records = d.records
  · have unmodified : (d.set key value).1.modified = false := by
      rw [← Bool.not_eq_true, flag]
      exact not_not_intro same
    have leaves : w = ⟨t, (d.set key value).1.holding descriptor, .ok (), []⟩ :=
      writeFile_of_unmodified unmodified
    rw [leaves]
    exact ⟨rfl, .inl ⟨same, rfl⟩⟩
  · have well := Document.wellFormed_set_ofContent path (offered.getD []) key value
    have name : (d.set key value).1.fileName = path :=
      congrArg Document.fileName (Document.restore_set d key value)
    obtain ⟨content, stored, result, there⟩ :=
      writeFile_of_offers (d := (d.set key value).1.holding descriptor) wf encoded offers read held
        name rfl (flag.2 same) well permitted
    exact ⟨result, .inr ⟨same, content, stored, there⟩⟩

/-- What a path offers is read for a look-up, if there is a file. -/
theorem openFile_of_offers (encoded : Path.encode path = .ok bytes)
    (offers : Offers t bytes offered) :
    (openFile t path).result =
      match offered with
      | some content => .ok (Document.ofContent path content)
      | none => .error (.failed path .read .notFound) := by
  cases offers with
  | file found fits readable =>
    rw [openFile_eq_reading encoded found readable, reading, if_neg (Nat.not_lt.2 fits)]
  | free place nothing name =>
    have unopened := Tree.openToRead_eq_error_iff.2 (.inl (find_of_free (.free place nothing name)))
    simp only [openFile, encoded, unopened]

end Storage

end VarFile
