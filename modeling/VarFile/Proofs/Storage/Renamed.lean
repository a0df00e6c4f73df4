import VarFile.Proofs.Storage.Exact
import VarFile.Proofs.Storage.Offer

/-!
# Documents under another name

A document that holds no file is written to the one at the path that it was given, and no other
file changes; one that holds a file is written there, whatever it is called
(`Storage.writeFile_renamed`). So a document that was opened for writing keeps to its file when it
is given another path (`Storage.not_contentAt?_of_renamed`).
-/

namespace VarFile

open Files (Tree)

namespace Storage

variable {t : Tree} {d : Document} {bytes content : Bytes} {mode : Int} {inode : Nat}

/-- A file has the content of a document after a write, and what else was at some path before is
there as it was. -/
structure WroteInto (t : Tree) (d : Document) (w : Written) (inode : Nat) : Prop where
  content : ∃ content, d.content = .ok content ∧
    (w.tree.file? inode).map (·.content) = some content
  others : ∀ path old, t.contentAt? path = some old → w.tree.find path ≠ .ok (.file inode) →
    w.tree.contentAt? path = some old

/-- A document that holds no file gets the one at its path, if that can be opened or made with a
mode that the file system takes. -/
theorem target_eq_ok_iff (free : d.descriptor = none)
    (encoded : Path.encode d.fileName = .ok bytes) {opened : Tree × Nat} :
    target t d mode = .ok opened ↔
      isModeArgument mode = true ∧ t.openOrCreate bytes mode = .ok opened := by
  rw [target]
  simp only [free, encoded]
  cases isModeArgument mode with
  | false => simp
  | true =>
    cases t.openOrCreate bytes mode with
    | error cause => simp
    | ok found => simp

/-- A write of well-formed records succeeds if there is a file to write to. -/
theorem result_writeFile_iff (modified : d.modified = true) (well : Document.WellFormed d.records) :
    (writeFile t d mode).result = .ok () ↔ ∃ opened, target t d mode = .ok opened := by
  cases ht : target t d mode with
  | error cause => simp [writeFile_of_error modified ht]
  | ok opened =>
    have stored := Document.content_eq_ok well.wf
    simp [(writeFile_of_ok modified ht stored).2.2]

/-- A write leaves the files at all paths as they were but for the one that it went to. -/
theorem Wrote.into (h : Wrote t d bytes mode (writeFile t d mode) content inode) :
    WroteInto t d (writeFile t d mode) inode := by
  refine ⟨⟨content, h.stored, ?_⟩, fun path old before other => ?_⟩
  · obtain ⟨permissions, -, written, -⟩ := h.file
    rw [written]
    rfl
  · obtain ⟨i, found, there⟩ := exists_of_contentAt? before
    have still : (writeFile t d mode).tree.find path = .ok (.file i) :=
      Tree.find_of_extends extends_writeFile found
    have hne : i ≠ inode := by
      rintro rfl
      exact other still
    rw [Tree.contentAt?_of_find still, h.others i hne, there]

/-- A document from a file, with any changes, is given another path and written. If it holds no
file, this succeeds if the path can be opened or made, and the content is then found at the path. If
it holds one, it is always written there, and the path is not looked at. No other file changes. -/
theorem writeFile_renamed {s : History} (obtained : Obtained s) (wf : t.WF)
    (held : ∀ i ∈ s.document.descriptor, i < t.inodes.length) {name : Text}
    (encoded : Path.encode name = .ok bytes) (modified : s.document.modified = true) (mode : Int) :
    let d := { s.document with fileName := name }
    let w := writeFile t d mode
    (d.descriptor = none →
      (w.result = .ok () ↔
        isModeArgument mode = true ∧ ∃ opened, t.openOrCreate bytes mode = .ok opened) ∧
      (w.result = .ok () → ∃ inode, w.tree.find bytes = .ok (.file inode) ∧
        WroteInto t d w inode)) ∧
    ∀ inode, d.descriptor = some inode →
      w.result = .ok () ∧ w.tree.nodes = t.nodes ∧ WroteInto t d w inode := by
  intro d w
  have well : Document.WellFormed d.records := obtained.wellFormed.1
  have changed : d.modified = true := modified
  have outcome : (∃ content inode, Wrote t d bytes mode w content inode) ∨ _ :=
    wrote_or_refused wf held encoded well changed
  constructor
  · intro free
    refine ⟨?_, fun ok => ?_⟩
    · refine (result_writeFile_iff changed well).trans ?_
      rw [← exists_and_left]
      exact exists_congr fun opened => target_eq_ok_iff free encoded
    · obtain ⟨content, inode, wrote⟩ | ⟨cause, refused, -⟩ := outcome
      · exact ⟨inode, wrote.found free, wrote.into⟩
      · have failed : w.result = .error cause := congrArg Written.result refused
        rw [failed] at ok
        cases ok
  · intro i holds
    obtain ⟨content, inode, wrote⟩ | ⟨cause, -, free, -⟩ := outcome
    · obtain ⟨permissions, writes, -⟩ := wrote.file
      obtain ⟨rfl, names, -⟩ := writes.of_held holds
      exact ⟨wrote.result, names, wrote.into⟩
    · rw [holds] at free
      cases free

/-- A document that was only read is written to a new file under its other path. -/
theorem writeFile_renamed_read :
    let t : Tree := ⟨[([("f" : Text).toBytes], .file 0)], [⟨("A=1\n" : Text).toBytes, 0o644⟩], {}⟩
    let d : Document := ⟨"f", [Record.ofLine "A=1"], false, none⟩
    let w := writeFile t { (d.set "A" (some "2")).1 with fileName := "g" } 0o644
    w.result = .ok () ∧ w.tree.contentAt? ("f" : Text).toBytes = some ("A=1\n" : Text).toBytes ∧
      w.tree.contentAt? ("g" : Text).toBytes = some ("A=2\n" : Text).toBytes := by
  intro t d w
  have loaded : Loads t "f" d := .inl (by decide +kernel)
  have obtained : Obtained ⟨(d.set "A" (some "2")).1, []⟩ :=
    (Obtained.loaded loaded).operation (.set "A" (some "2"))
  have encoded : Path.encode "g" = .ok ("g" : Text).toBytes := by decide +kernel
  have wf : t.WF := Tree.wf_singleton _ _
  obtain ⟨free, -⟩ := writeFile_renamed obtained wf (by decide +kernel) encoded
    (by decide +kernel) 0o644
  obtain ⟨succeeds, written⟩ := free (by decide +kernel)
  have opened : isModeArgument 0o644 = true ∧
      ∃ opened, t.openOrCreate ("g" : Text).toBytes 0o644 = .ok opened :=
    ⟨by decide, (t.withFile [("g" : Text).toBytes] 0o644, 1), by decide +kernel⟩
  have ok := succeeds.2 opened
  obtain ⟨inode, found, into⟩ := written ok
  have made : w.tree.find ("g" : Text).toBytes = .ok (.file 1) := by decide +kernel
  obtain rfl : inode = 1 := by
    have same := found.symm.trans made
    rwa [Except.ok.injEq, Files.Node.file.injEq] at same
  obtain ⟨content, stored, there⟩ := into.content
  have rendered : Document.content { (d.set "A" (some "2")).1 with fileName := "g" } =
      .ok ("A=2\n" : Text).toBytes := by decide +kernel
  rw [← Except.ok.inj (rendered.symm.trans stored)] at there
  refine ⟨ok, into.others _ _ (by decide +kernel) (by decide +kernel), ?_⟩
  rw [Tree.contentAt?_of_find found, there]

/-- A document that was opened for writing is not written under its other path. -/
theorem not_contentAt?_of_renamed :
    ¬ ∀ (s : History) (t : Tree) (name : Text) (bytes content : Bytes) (mode : Int), Obtained s →
      t.WF → (∀ i ∈ s.document.descriptor, i < t.inodes.length) → Path.encode name = .ok bytes →
      (∃ opened, t.openOrCreate bytes mode = .ok opened) → s.document.modified = true →
      let d := { s.document with fileName := name }
      (writeFile t d mode).result = .ok () → d.content = .ok content →
        (writeFile t d mode).tree.contentAt? bytes = some content := by
  intro moved
  let t : Tree := ⟨[([("f" : Text).toBytes], .file 0)], [⟨("A=1\n" : Text).toBytes, 0o644⟩], {}⟩
  let d : Document := ⟨"f", [Record.ofLine "A=1"], false, some 0⟩
  have loaded : Loads t "f" d := .inr (by decide +kernel)
  have obtained : Obtained ⟨(d.set "A" (some "2")).1, []⟩ :=
    (Obtained.loaded loaded).operation (.set "A" (some "2"))
  have opened : ∃ opened, t.openOrCreate ("g" : Text).toBytes 0o644 = .ok opened :=
    ⟨(t.withFile [("g" : Text).toBytes] 0o644, 1), by decide +kernel⟩
  have there := moved _ t "g" ("g" : Text).toBytes ("A=2\n" : Text).toBytes 0o644 obtained
    (Tree.wf_singleton _ _) (by decide +kernel) (by decide +kernel) opened (by decide +kernel)
    (by decide +kernel) (by decide +kernel)
  exact absurd there (by decide +kernel)

end Storage

end VarFile
