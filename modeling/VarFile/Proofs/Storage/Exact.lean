import VarFile.Proofs.Rendering.Reread
import VarFile.Proofs.Storage.Place

/-!
# What a write does

A write either puts the content of the document into one file and changes nothing else
(`Storage.Wrote`), or it fails and leaves everything as it was: `Storage.writeFile_exact`, for every
document that comes from a file. Where an unprivileged process writes a file, the right to run it as
another user is taken away, so a new file need not have the permission bits that it is asked for
with (`Storage.not_newFileMode_of_writeFile`).
-/

namespace VarFile

open Files (Tree withoutSetId)

namespace Files

private theorem withoutSetId_eq_self {mode : Nat} (h : mode < 0o2000) :
    withoutSetId mode = mode := by
  rw [withoutSetId]
  split
  · exact (Nat.and_two_pow_sub_one_eq_mod mode 11).trans (Nat.mod_eq_of_lt (by omega))
  · exact (Nat.and_two_pow_sub_one_eq_mod mode 10).trans (Nat.mod_eq_of_lt (by omega))

private theorem Process.writtenMode_eq_self {p : Process} {mode : Nat}
    (h : mode < 0o2000 ∨ p.privileged = true) : p.writtenMode mode = mode := by
  rw [writtenMode]
  split
  · rfl
  · next bound => exact withoutSetId_eq_self (h.resolve_right bound)

end Files

namespace Storage

variable {t t' : Tree} {d : Document} {bytes content : Bytes} {mode : Int} {inode : Nat}

/-! ### Documents from files -/

/-- A document that was loaded from some path, whatever was done with it since: operations, writes
with any files around it, and a change of the path that it is written to. Checkpoints of another
such document can be put back as well. -/
inductive Obtained : History → Prop
  | loaded {t : Tree} {path : Text} {d : Document} (h : Loads t path d) : Obtained ⟨d, []⟩
  | operation {s : History} (h : Obtained s) (op : Operation) : Obtained (s.step op)
  | written {s : History} (h : Obtained s) (t : Tree) (mode : Int) :
      Obtained { s with document := (writeFile t s.document mode).document }
  | renamed {s : History} (h : Obtained s) (name : Text) :
      Obtained { s with document := { s.document with fileName := name } }
  | shared {s s' : History} (h : Obtained s) (h' : Obtained s') :
      Obtained { s with checkpoints := s.checkpoints ++ s'.checkpoints }

/-- The records of a document from a file are well formed. -/
theorem Obtained.wellFormed {s : History} (h : Obtained s) : s.Keeps Document.WellFormed := by
  induction h with
  | loaded h =>
    obtain ⟨-, -, -, -, -, well⟩ := isAt_of_loads h
    exact ⟨well, fun c hc => by cases hc⟩
  | operation _ op ih =>
    exact History.keeps_step (fun d key value _ h => Document.wellFormed_set h key value) ih
  | @written s _ t mode ih =>
    refine ⟨?_, ih.2⟩
    rw [(writeFile_cases t s.document mode).1]
    exact ih.1
  | renamed _ _ ih => exact ih
  | shared _ _ ih ih' =>
    refine ⟨ih.1, fun c hc => ?_⟩
    obtain hc | hc := List.mem_append.1 hc
    · exact ih.2 c hc
    · exact ih'.2 c hc

/-! ### Opening the file of a document -/

/-- The file that a document is written to: the one that it holds, or else the one at its path, or
else a new one there. With it come the permission bits that it has when it is opened, and the names
that are taken then. -/
inductive WritesTo (t : Tree) (d : Document) (bytes : Bytes) (mode : Int) (inode : Nat) :
    Nat → List (Files.Place × Files.Node) → Prop
  | held {f : Files.File} (held : d.descriptor = some inode) (file : t.file? inode = some f) :
      WritesTo t d bytes mode inode f.mode t.nodes
  | found {f : Files.File} (free : d.descriptor = none) (found : t.find bytes = .ok (.file inode))
      (file : t.file? inode = some f) (writable : t.mayWrite inode = true) :
      WritesTo t d bytes mode inode f.mode t.nodes
  | made {p : Files.Place} (free : d.descriptor = none) (place : t.resolve bytes = .ok p)
      (nothing : t.node? p = none) (unused : t.file? inode = none) :
      WritesTo t d bytes mode inode (t.process.newFileMode mode) (t.nodes ++ [(p, .file inode)])

/-- A document that holds a file is written there, and no name is taken for it. -/
theorem WritesTo.of_held {i permissions : Nat} {nodes : List (Files.Place × Files.Node)}
    (h : WritesTo t d bytes mode inode permissions nodes) (held : d.descriptor = some i) :
    inode = i ∧ nodes = t.nodes ∧ (t.file? i).map (·.mode) = some permissions := by
  cases h with
  | held same file =>
    rw [held, Option.some.injEq] at same
    exact ⟨same.symm, rfl, by rw [same, file]; rfl⟩
  | found free =>
    rw [held] at free
    cases free
  | made free =>
    rw [held] at free
    cases free

/-- Opening the file of a document changes no other one. -/
theorem writesTo_of_target (wf : t.WF) (held : ∀ i ∈ d.descriptor, i < t.inodes.length)
    (encoded : Path.encode d.fileName = .ok bytes) (h : target t d mode = .ok (t', inode)) :
    ∃ f, WritesTo t d bytes mode inode f.mode t'.nodes ∧ t'.file? inode = some f ∧
      t'.process = t.process ∧ (∀ other, other ≠ inode → t'.file? other = t.file? other) ∧
      (d.descriptor = none → t'.find bytes = .ok (.file inode)) := by
  have file {i : Nat} (bound : i < t.inodes.length) : t.file? i = some t.inodes[i] :=
    List.getElem?_eq_getElem bound
  cases hd : d.descriptor with
  | some i =>
    rw [target, hd, Except.ok.injEq, Prod.mk.injEq] at h
    obtain ⟨rfl, rfl⟩ := h
    have there := file (held i hd)
    exact ⟨_, .held hd there, there, rfl, fun _ _ => rfl, fun none => (by cases none)⟩
  | none =>
    obtain ⟨same, -⟩ | ⟨other, encoded', opened⟩ := target_cases h
    · rw [hd] at same
      cases same
    · rw [encoded] at encoded'
      cases encoded'
      have found := Tree.find_of_openOrCreate opened
      obtain ⟨rfl, before, writable⟩ | ⟨p, place, nothing, rfl, rfl⟩ :=
        Tree.openOrCreate_cases opened
      · have there := file (Tree.lt_of_find wf before)
        exact ⟨_, .found hd before there writable, there, rfl, fun _ _ => rfl, fun _ => found⟩
      · have unused : t.file? t.inodes.length = none :=
          List.getElem?_eq_none (Nat.le_refl _)
        exact ⟨_, .made hd place nothing unused, Tree.file?_withFile p mode, rfl,
          fun i hne => Tree.file?_withFile_of_ne hne p mode, fun _ => found⟩

/-- A document whose file cannot be opened holds none, and the file system says why unless it was
asked with a mode that it does not take. -/
theorem cause_of_target (encoded : Path.encode d.fileName = .ok bytes) {cause : Error}
    (h : target t d mode = .error cause) :
    d.descriptor = none ∧ (isModeArgument mode = true → ∃ failure,
      t.openOrCreate bytes mode = .error failure ∧
        cause = .failed d.fileName .openForWriting failure) := by
  rw [target] at h
  cases held : d.descriptor with
  | some inode =>
    rw [held] at h
    cases h
  | none =>
    refine ⟨rfl, fun fits => ?_⟩
    simp only [held, encoded, fits, Bool.not_true, Bool.false_eq_true, if_false] at h
    split at h
    · next failure refused => exact ⟨failure, refused, (Except.error.inj h).symm⟩
    · cases h

/-! ### Writing it -/

/-- What a write that succeeds leaves: the file of the document holds its content, with its
permission bits, less the right to run it as another user if the process is not privileged, and
nothing else changed. -/
structure Wrote (t : Tree) (d : Document) (bytes : Bytes) (mode : Int) (w : Written)
    (content : Bytes) (inode : Nat) : Prop where
  result : w.result = .ok ()
  stored : d.content = .ok content
  document : w.document = { d with modified := false, descriptor := some inode }
  file : ∃ permissions, WritesTo t d bytes mode inode permissions w.tree.nodes ∧
    w.tree.file? inode = some ⟨content, t.process.writtenMode permissions⟩ ∧
    (permissions < 0o2000 ∨ t.process.privileged = true →
      w.tree.file? inode = some ⟨content, permissions⟩)
  others : ∀ other, other ≠ inode → w.tree.file? other = t.file? other
  /-- A document that holds no file is written to the one at its path. -/
  found : d.descriptor = none → w.tree.find bytes = .ok (.file inode)

/-- A write of well-formed records either does that, or fails before anything changed. -/
theorem wrote_or_refused (wf : t.WF) (held : ∀ i ∈ d.descriptor, i < t.inodes.length)
    (encoded : Path.encode d.fileName = .ok bytes) (well : Document.WellFormed d.records)
    (modified : d.modified = true) :
    (∃ content inode, Wrote t d bytes mode (writeFile t d mode) content inode) ∨
      ∃ cause, writeFile t d mode = ⟨t, d, .error cause, []⟩ ∧ d.descriptor = none ∧
        (isModeArgument mode = true → ∃ failure, t.openOrCreate bytes mode = .error failure ∧
          cause = .failed d.fileName .openForWriting failure) := by
  cases ht : target t d mode with
  | error cause =>
    exact .inr ⟨cause, writeFile_of_error modified ht, cause_of_target encoded ht⟩
  | ok opened =>
    obtain ⟨t', inode⟩ := opened
    obtain ⟨f, writes, file, process, others, found⟩ := writesTo_of_target wf held encoded ht
    have stored := Document.content_eq_ok well.wf
    obtain ⟨tree, document, result⟩ := writeFile_of_ok modified ht stored
    have written := Tree.file?_overwrite_self file (Document.joinLines d.rendered).toBytes
    rw [← tree, process] at written
    refine .inl ⟨_, inode, result, stored, document, ⟨f.mode, ?_, written, fun plain => ?_⟩,
      fun other hne => ?_, fun free => ?_⟩
    · rw [tree]
      exact writes
    · rwa [Files.Process.writtenMode_eq_self plain] at written
    · rw [tree, Tree.file?_overwrite_of_ne hne]
      exact others other hne
    · rw [tree]
      exact Tree.find_of_extends (Tree.extends_overwrite inode _) (found free)

/-- A document that comes from a file is not written if nothing changed. If something did, then
either its file holds its content and nothing else is changed, or the write fails and leaves the
files and the document as they were; this happens only to documents that hold no file, for a reason
that the file system gives if the mode is one that it takes. -/
theorem writeFile_exact {s : History} (obtained : Obtained s) (wf : t.WF)
    (held : ∀ i ∈ s.document.descriptor, i < t.inodes.length)
    (encoded : Path.encode s.document.fileName = .ok bytes) (mode : Int) :
    let d := s.document
    let w := writeFile t d mode
    (d.modified = false → w = ⟨t, d, .ok (), []⟩) ∧
      (d.modified = true → (∃ content inode, Wrote t d bytes mode w content inode) ∨
        ∃ cause, w = ⟨t, d, .error cause, []⟩ ∧ d.descriptor = none ∧
          (isModeArgument mode = true → ∃ failure, t.openOrCreate bytes mode = .error failure ∧
            cause = .failed d.fileName .openForWriting failure)) :=
  ⟨writeFile_of_unmodified, wrote_or_refused wf held encoded obtained.wellFormed.1⟩

/-- A document that holds its file is written there under another path, over a longer content. -/
theorem writeFile_exact_held :
    let t : Tree := ⟨[([("f" : Text).toBytes], .file 0), ([("g" : Text).toBytes], .file 1)],
      [⟨("A=1\n\tB=2 # c\n" : Text).toBytes, 0o640⟩, ⟨[], 0o600⟩], {}⟩
    let d : Document := ⟨"f", [Record.ofLine "A=1", Record.ofLine "\tB=2 # c"], false, some 0⟩
    let e : Document := { (d.set "B" none).1 with fileName := "g" }
    let w := writeFile t e 0o600
    w.result = .ok () ∧ w.tree.file? 0 = some ⟨("A=1\n" : Text).toBytes, 0o640⟩ ∧
      w.tree.file? 1 = some ⟨[], 0o600⟩ := by
  intro t d e w
  have loaded : Loads t "f" d := .inr (by decide +kernel)
  have wf : t.WF := by
    intro p inode hp
    simp only [t, List.mem_cons, Prod.mk.injEq, Files.Node.file.injEq, List.not_mem_nil,
      or_false] at hp
    obtain ⟨-, rfl⟩ | ⟨-, rfl⟩ := hp <;> decide
  have obtained : Obtained ⟨e, []⟩ :=
    ((Obtained.loaded loaded).operation (.set "B" none)).renamed "g"
  have encoded : Path.encode "g" = .ok ("g" : Text).toBytes := by decide +kernel
  have exact := writeFile_exact obtained wf (by decide +kernel) encoded 0o600
  obtain ⟨content, inode, wrote⟩ | ⟨cause, -, free, -⟩ := exact.2 (by decide +kernel)
  · obtain ⟨permissions, writes, -, plain⟩ := wrote.file
    have held : e.descriptor = some 0 := by decide +kernel
    obtain ⟨rfl, -, same⟩ := writes.of_held held
    obtain rfl : 0o640 = permissions := Option.some.inj same
    have stored : e.content = .ok ("A=1\n" : Text).toBytes := by decide +kernel
    rw [← Except.ok.inj (stored.symm.trans wrote.stored)] at plain
    exact ⟨wrote.result, plain (.inl (by decide)), wrote.others 1 (by decide)⟩
  · exact absurd free (by decide +kernel)

/-- A new file is asked for with the right to run it as its owner by a process that is not
privileged, and does not keep it. -/
theorem not_newFileMode_of_writeFile :
    ¬ ∀ (s : History) (t : Tree) (bytes : Bytes) (mode : Int) (inode : Nat), Obtained s → t.WF →
      (∀ i ∈ s.document.descriptor, i < t.inodes.length) →
      Path.encode s.document.fileName = .ok bytes → s.document.modified = true →
      let w := writeFile t s.document mode
      w.document.descriptor = some inode → t.file? inode = none →
        (w.tree.file? inode).map (·.mode) = some (t.process.newFileMode mode) := by
  intro h
  have loaded : Loads {} "f" { fileName := "f" } := .inr (by decide +kernel)
  have mode := h _ {} ("f" : Text).toBytes 0o4755 0
    ((Obtained.loaded loaded).operation (.set "A" (some "1"))) (by simp [Tree.WF])
    (by decide +kernel) (by decide +kernel) (by decide +kernel) (by decide +kernel)
    (by decide +kernel)
  exact absurd mode (by decide +kernel)

end Storage

end VarFile
