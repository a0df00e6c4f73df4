import VarFile.Files.Tree

/-!
# Files at their paths

Opening a file for writing and writing it take no name away: the tree before is part of the one
after (`Tree.Extends`), so that a path keeps leading to its file (`Tree.find_of_extends`). The file
that was opened is found at its path (`Tree.find_of_openOrCreate`), and holds there what was written
into it (`Tree.contentAt?_overwrite`).
-/

namespace VarFile.Files.Tree

variable {t t' : Tree} {path : Bytes} {p q : Place} {node : Node} {inode : Nat}

/-- Every file that has a name is there. -/
def WF (t : Tree) : Prop := ∀ p inode, (p, Node.file inode) ∈ t.nodes → inode < t.inodes.length

/-- What one tree has at a place the other one has there, too. -/
def Extends (t t' : Tree) : Prop := ∀ p node, t.node? p = some node → t'.node? p = some node

/-- A path leads to no file that may not be read. -/
def IsReadable (t : Tree) (path : Bytes) : Prop :=
  ∀ inode, t.find path = .ok (.file inode) → t.mayRead inode = true

/-- A path leads to no file that may not be written. -/
def IsWritable (t : Tree) (path : Bytes) : Prop :=
  ∀ inode, t.find path = .ok (.file inode) → t.mayWrite inode = true

/-- The content of the file at a path, if there is one. -/
def contentAt? (t : Tree) (path : Bytes) : Option Bytes :=
  match t.find path with
  | .ok (.file inode) => (t.file? inode).map (·.content)
  | _ => none

/-- A tree with one file is well formed. -/
theorem wf_singleton (p : Place) (f : File) : WF { nodes := [(p, .file 0)], inodes := [f] } := by
  intro q inode hq
  cases List.mem_singleton.1 hq
  exact Nat.zero_lt_one

/-! ### What is found at a path -/

private theorem find_eq_ok_iff :
    t.find path = .ok node ↔ ∃ p, t.resolve path = .ok p ∧ t.node? p = some node := by
  rw [find]
  cases hr : t.resolve path with
  | error cause => simp
  | ok p =>
    simp only [Except.ok.injEq, exists_eq_left']
    cases hn : t.node? p with
    | none => simp
    | some n => simp

/-- A file that is found is there. -/
theorem lt_of_find (wf : t.WF) (h : t.find path = .ok (.file inode)) :
    inode < t.inodes.length := by
  obtain ⟨p, -, hn⟩ := find_eq_ok_iff.1 h
  rw [node?] at hn
  split at hn
  · cases hn
  · obtain ⟨before, after, nodes, -⟩ := List.lookup_eq_some_iff.1 hn
    apply wf p
    rw [nodes]
    exact List.mem_append_right _ List.mem_cons_self

/-- A file may be read or written if its permission bits say so. -/
theorem mayRead_eq {f : File} (h : t.file? inode = some f) :
    t.mayRead inode = t.process.mayRead f.mode := by
  rw [mayRead, h, Option.all_some]

theorem mayWrite_eq {f : File} (h : t.file? inode = some f) :
    t.mayWrite inode = t.process.mayWrite f.mode := by
  rw [mayWrite, h, Option.all_some]

theorem isReadable_of_find (found : t.find path = .ok (.file inode))
    (readable : t.mayRead inode = true) : t.IsReadable path := by
  intro other there
  cases found.symm.trans there
  exact readable

theorem isWritable_of_find (found : t.find path = .ok (.file inode))
    (writable : t.mayWrite inode = true) : t.IsWritable path := by
  intro other there
  cases found.symm.trans there
  exact writable

/-- What was opened for reading is what is at the path, and may be read if it is a file. -/
theorem openToRead_eq_ok_iff :
    t.openToRead path = .ok node ↔
      t.find path = .ok node ∧ ∀ inode, node = .file inode → t.mayRead inode = true := by
  rw [openToRead]
  cases hf : t.find path with
  | error cause => simp
  | ok n =>
    cases n with
    | directory =>
      refine ⟨fun h => ⟨h, fun inode hn => ?_⟩, fun h => h.1⟩
      cases h
      cases hn
    | file inode =>
      simp only
      split
      · next readable =>
        refine ⟨fun h => ⟨h, fun other hn => ?_⟩, fun h => h.1⟩
        cases h
        cases hn
        exact readable
      · next unreadable =>
        refine ⟨fun h => (by cases h), fun ⟨h, readable⟩ => ?_⟩
        exact absurd (readable inode (Except.ok.inj h).symm) unreadable

/-- What cannot be opened for reading is not found, or is a file that may not be read. -/
theorem openToRead_eq_error_iff {cause : Failure} :
    t.openToRead path = .error cause ↔
      t.find path = .error cause ∨
        cause = .permissionDenied ∧ ∃ inode, t.find path = .ok (.file inode) ∧
          t.mayRead inode = false := by
  rw [openToRead]
  cases hf : t.find path with
  | error e => simp
  | ok n =>
    cases n with
    | directory => simp
    | file inode =>
      simp only [reduceCtorEq, false_or, Except.ok.injEq, Node.file.injEq, exists_eq_left']
      cases t.mayRead inode with
      | true => simp
      | false => simpa using eq_comm

/-- The content of a file is found at each of its paths. -/
theorem contentAt?_of_find (h : t.find path = .ok (.file inode)) :
    t.contentAt? path = (t.file? inode).map (·.content) := by
  rw [contentAt?, h]

/-! ### Larger trees -/

theorem Extends.refl (t : Tree) : t.Extends t := fun _ _ h => h

theorem Extends.trans {t'' : Tree} (h : t.Extends t') (h' : t'.Extends t'') : t.Extends t'' :=
  fun p node hp => h' p node (h p node hp)

private theorem enter_of_extends (h : t.Extends t') {name : Name} (hq : t.enter p name = .ok q) :
    t'.enter p name = .ok q := by
  rw [enter] at hq ⊢
  cases hn : t.node? p with
  | none =>
    rw [hn] at hq
    cases hq
  | some node =>
    rw [hn] at hq
    rw [h p node hn]
    exact hq

theorem walk_of_extends (h : t.Extends t') {names : List Name} (hq : t.walk p names = .ok q) :
    t'.walk p names = .ok q := by
  induction names generalizing p with
  | nil => exact hq
  | cons name rest ih =>
    rw [walk] at hq ⊢
    cases he : t.enter p name with
    | error cause =>
      rw [he] at hq
      cases hq
    | ok r =>
      rw [he] at hq
      rw [enter_of_extends h he]
      exact ih hq

/-- A path leads to the same place in a larger tree. -/
theorem resolve_of_extends (h : t.Extends t') (hp : t.resolve path = .ok p) :
    t'.resolve path = .ok p := by
  rw [resolve] at hp ⊢
  by_cases hempty : path = []
  · rw [if_pos hempty] at hp
    cases hp
  · rw [if_neg hempty] at hp ⊢
    by_cases hlong : maxPathLength < path.length
    · rw [if_pos hlong] at hp
      cases hp
    · rw [if_neg hlong] at hp ⊢
      exact walk_of_extends h hp

/-- What is found in a tree is found in a larger one. -/
theorem find_of_extends (h : t.Extends t') (hn : t.find path = .ok node) :
    t'.find path = .ok node := by
  obtain ⟨p, hp, hn⟩ := find_eq_ok_iff.1 hn
  exact find_eq_ok_iff.2 ⟨p, resolve_of_extends h hp, h p node hn⟩

/-- A file that is at a path is there in a larger tree, with any content. -/
theorem exists_contentAt? (wf : t'.WF) (h : t.Extends t') {content : Bytes}
    (hc : t.contentAt? path = some content) : ∃ content', t'.contentAt? path = some content' := by
  rw [contentAt?] at hc
  split at hc
  · next inode found =>
    have still := find_of_extends h found
    rw [contentAt?_of_find still, file?, List.getElem?_eq_getElem (lt_of_find wf still)]
    exact ⟨_, rfl⟩
  · cases hc

/-! ### Opening a file for writing -/

/-- The tree with a new, empty file at a place. -/
def withFile (t : Tree) (p : Place) (mode : Int) : Tree :=
  { t with
    nodes := t.nodes ++ [(p, .file t.inodes.length)]
    inodes := t.inodes ++ [⟨[], t.process.newFileMode mode⟩] }

/-- Something new takes no name away. -/
theorem extends_append (p : Place) (node : Node) (inodes : List File) :
    t.Extends { t with nodes := t.nodes ++ [(p, node)], inodes } := by
  intro r node hn
  rw [node?] at hn ⊢
  by_cases given : isGiven r = true
  · rw [if_pos given] at hn ⊢
    exact hn
  · rw [if_neg given] at hn ⊢
    rw [List.lookup_append, hn, Option.some_or]

private theorem extends_withFile (p : Place) (mode : Int) : t.Extends (t.withFile p mode) :=
  extends_append p _ _

private theorem node?_withFile {mode : Int} (free : t.node? p = none) :
    (t.withFile p mode).node? p = some (.file t.inodes.length) := by
  rw [node?] at free ⊢
  by_cases given : isGiven p = true
  · rw [if_pos given] at free
    cases free
  · rw [if_neg given] at free ⊢
    rw [withFile, List.lookup_append, free, Option.none_or, List.lookup_cons_self]

/-- A new file is empty. -/
theorem file?_withFile (p : Place) (mode : Int) :
    (t.withFile p mode).file? t.inodes.length = some ⟨[], t.process.newFileMode mode⟩ := by
  rw [file?, withFile, List.getElem?_concat_length]

/-- A new file leaves all others as they were. -/
theorem file?_withFile_of_ne {other : Nat} (hne : other ≠ t.inodes.length) (p : Place)
    (mode : Int) : (t.withFile p mode).file? other = t.file? other := by
  rw [file?, file?, withFile, List.getElem?_append, List.getElem?_singleton]
  split
  · rfl
  · next ge =>
    rw [if_neg (by omega), List.getElem?_eq_none (by omega)]

/-- Opening a file finds one that may be written, or makes one where nothing is. -/
theorem openOrCreate_cases {mode : Int} (h : t.openOrCreate path mode = .ok (t', inode)) :
    (t' = t ∧ t.find path = .ok (.file inode) ∧ t.mayWrite inode = true) ∨
      ∃ p, t.resolve path = .ok p ∧ t.node? p = none ∧ t' = t.withFile p mode ∧
        inode = t.inodes.length := by
  rw [openOrCreate] at h
  split at h
  · cases h
  · split at h
    · -- A path that ends in a slash is never opened.
      split at h
      · cases h
      · split at h
        · cases h
        · split at h
          · cases h
          · cases h
    · split at h
      · cases h
      · next p hp =>
        split at h
        · cases h
        · next n hn =>
          split at h
          · next writable =>
            cases h
            exact .inl ⟨rfl, find_eq_ok_iff.2 ⟨p, hp, hn⟩, writable⟩
          · cases h
        · next hn =>
          cases h
          exact .inr ⟨p, hp, hn, rfl, rfl⟩

theorem extends_of_openOrCreate {mode : Int} (h : t.openOrCreate path mode = .ok (t', inode)) :
    t.Extends t' := by
  obtain ⟨rfl, -⟩ | ⟨p, -, -, rfl, -⟩ := openOrCreate_cases h
  · exact .refl t'
  · exact extends_withFile p mode

/-- The file that was opened is found at its path. -/
theorem find_of_openOrCreate {mode : Int} (h : t.openOrCreate path mode = .ok (t', inode)) :
    t'.find path = .ok (.file inode) := by
  obtain ⟨rfl, found, -⟩ | ⟨p, hp, free, rfl, rfl⟩ := openOrCreate_cases h
  · exact found
  · exact find_eq_ok_iff.2 ⟨p, resolve_of_extends (extends_withFile p mode) hp, node?_withFile free⟩

theorem wf_of_openOrCreate {mode : Int} (wf : t.WF)
    (h : t.openOrCreate path mode = .ok (t', inode)) : t'.WF := by
  obtain ⟨rfl, -⟩ | ⟨p, -, -, rfl, -⟩ := openOrCreate_cases h
  · exact wf
  · intro q inode hq
    rw [withFile, List.mem_append, List.mem_singleton] at hq
    rw [withFile, List.length_append, List.length_singleton]
    cases hq with
    | inl hq =>
      have old := wf q inode hq
      omega
    | inr hq =>
      cases hq
      omega

/-! ### Writing a file -/

theorem extends_overwrite (inode : Nat) (content : Bytes) :
    t.Extends (t.overwrite inode content) := fun _ _ h => h

theorem wf_overwrite (wf : t.WF) (inode : Nat) (content : Bytes) :
    (t.overwrite inode content).WF := by
  intro p other hp
  rw [overwrite, List.length_modify]
  exact wf p other hp

/-- A file holds what was written into it. -/
theorem file?_overwrite (h : inode < t.inodes.length) (content : Bytes) :
    ((t.overwrite inode content).file? inode).map (·.content) = some content := by
  rw [file?, overwrite, List.getElem?_modify_eq, List.getElem?_eq_getElem h]
  rfl

/-- A file that was written keeps its permission bits as far as the process leaves them. -/
theorem file?_overwrite_self {f : File} (h : t.file? inode = some f) (content : Bytes) :
    (t.overwrite inode content).file? inode = some ⟨content, t.process.writtenMode f.mode⟩ := by
  rw [file?, overwrite, List.getElem?_modify_eq]
  exact congrArg (Option.map _) h

/-- Writing a file leaves all others as they were. -/
theorem file?_overwrite_of_ne {other : Nat} (hne : other ≠ inode) (content : Bytes) :
    (t.overwrite inode content).file? other = t.file? other := by
  rw [file?, overwrite]
  exact List.getElem?_modify_ne _ _ hne.symm

/-- What was written into a file is found at its paths. -/
theorem contentAt?_overwrite (wf : t.WF) (h : t.find path = .ok (.file inode)) (content : Bytes) :
    (t.overwrite inode content).contentAt? path = some content := by
  have found := find_of_extends (extends_overwrite inode content) h
  rw [contentAt?_of_find found, file?_overwrite (lt_of_find wf h)]

/-! ### What may be read -/

/-- What may be read of the files of one tree may be read in the other one, and nothing else of
them. -/
def KeepsReadable (t t' : Tree) : Prop :=
  ∀ inode, inode < t.inodes.length → inode < t'.inodes.length ∧ t'.mayRead inode = t.mayRead inode

theorem KeepsReadable.refl (t : Tree) : t.KeepsReadable t := fun _ h => ⟨h, rfl⟩

theorem KeepsReadable.trans {t'' : Tree} (h : t.KeepsReadable t') (h' : t'.KeepsReadable t'') :
    t.KeepsReadable t'' := by
  intro inode bound
  obtain ⟨there, same⟩ := h inode bound
  obtain ⟨there', same'⟩ := h' inode there
  exact ⟨there', same'.trans same⟩

private theorem mayRead_writtenMode (p : Process) (mode : Nat) :
    p.mayRead (p.writtenMode mode) = p.mayRead mode := by
  have kept (mask : Nat) (h : mask &&& 0o400 = 0o400) :
      mode &&& mask &&& 0o400 = mode &&& 0o400 := by
    rw [Nat.and_assoc, h]
  cases privileged : p.privileged with
  | true => rw [Process.writtenMode, if_pos privileged]
  | false =>
    rw [Process.writtenMode, if_neg (by rw [privileged]; decide), Process.mayRead,
      Process.mayRead, withoutSetId]
    split
    · rw [kept _ (by decide)]
    · rw [kept _ (by decide)]

theorem keepsReadable_overwrite (inode : Nat) (content : Bytes) :
    t.KeepsReadable (t.overwrite inode content) := by
  intro other bound
  refine ⟨by rwa [overwrite, List.length_modify], ?_⟩
  have process : (t.overwrite inode content).process = t.process := rfl
  by_cases same : other = inode
  · cases same
    have there : t.file? inode = some t.inodes[inode] := List.getElem?_eq_getElem bound
    rw [mayRead_eq (file?_overwrite_self there _), mayRead_eq there, process]
    exact mayRead_writtenMode t.process _
  · rw [mayRead, mayRead, file?_overwrite_of_ne same, process]

theorem keepsReadable_of_openOrCreate {mode : Int}
    (h : t.openOrCreate path mode = .ok (t', inode)) : t.KeepsReadable t' := by
  obtain ⟨rfl, -⟩ | ⟨p, -, -, rfl, -⟩ := openOrCreate_cases h
  · exact .refl t'
  · intro other bound
    refine ⟨?_, ?_⟩
    · rw [withFile, List.length_append]
      omega
    · rw [mayRead, file?_withFile_of_ne (by omega)]
      rfl

end VarFile.Files.Tree
