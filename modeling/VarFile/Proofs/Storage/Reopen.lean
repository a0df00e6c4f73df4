import VarFile.Proofs.Document.Stored
import VarFile.Proofs.Rendering.Reread
import VarFile.Proofs.Storage.Place

/-!
# Opening what was written

A file is found again after a document was written to it, and read unless it is larger than what is
read at most or may not be read, as it might not be before (`Writeback.openFile_writeFile`). Nothing
keeps a document from growing beyond that: comments are longer than the lines they stand for, so a
file that was read can be written as one that is not (`Writeback.not_openFile_writeFile`).
-/

namespace VarFile

open Files (Tree)
open Storage (Loads openFile opening reading writeFile)

namespace Document.IsAt

variable {t : Tree} {bytes : Bytes} {d d' : Document}

/-- An update leaves a document at its path. -/
theorem set (h : d.IsAt t bytes) (key : Text) (value : Option Text) :
    (d.set key value).1.IsAt t bytes := h.of_restore (restore_set d key value)

end Document.IsAt

namespace Action

/-- Whether an action leaves it to the document to change the files. -/
def isOwn : Action → Bool
  | .outside _ => false
  | _ => true

/-- Whether an action gives the document another file to hold. -/
def isHold : Action → Bool
  | .operation (.hold _) => true
  | _ => false

end Action

namespace Writeback

variable {t : Tree} {path : Text} {bytes old : Bytes} {d : Document} {s : Writeback} {a : Action}
  {actions : List Action}

private theorem tree_step_write (mode : Int) :
    (s.step (.write mode)).tree = (writeFile s.tree s.history.document mode).tree ∧
      (s.step (.write mode)).history.document =
        (writeFile s.tree s.history.document mode).document := by
  rw [step]
  split
  · exact ⟨rfl, rfl⟩
  · exact ⟨rfl, rfl⟩

/-- An action takes no name away, no file, and no right to read one. -/
theorem tree_step (wf : s.tree.WF) (own : a.isOwn = true) :
    s.tree.Extends (s.step a).tree ∧ (s.step a).tree.WF ∧ s.tree.KeepsReadable (s.step a).tree := by
  cases a with
  | operation op => exact ⟨.refl s.tree, wf, .refl s.tree⟩
  | write mode =>
    rw [(tree_step_write mode).1]
    exact ⟨Storage.extends_writeFile, Storage.wf_writeFile wf, Storage.keepsReadable_writeFile⟩
  | outside tree => cases own

/-- A run takes no name away, no file, and no right to read one. -/
theorem tree_run (wf : s.tree.WF) (own : ∀ a ∈ actions, a.isOwn = true) :
    s.tree.Extends (s.run actions).tree ∧ (s.run actions).tree.WF ∧
      s.tree.KeepsReadable (s.run actions).tree := by
  induction actions generalizing s with
  | nil => exact ⟨.refl s.tree, wf, .refl s.tree⟩
  | cons a actions ih =>
    obtain ⟨first, later⟩ := List.forall_mem_cons.1 own
    obtain ⟨extends_step, wf_step, keeps_step⟩ := tree_step wf first
    obtain ⟨extends_run, wf_run, keeps_run⟩ := ih wf_step later
    exact ⟨extends_step.trans extends_run, wf_run, keeps_step.trans keeps_run⟩

private theorem isAt_operation {h : History} (place : h.document.IsAt t bytes) {op : Operation}
    (kept : (Action.operation op).isHold = false) : (h.step op).document.IsAt t bytes := by
  cases op with
  | set key value => exact place.set key value
  | setNonempty key value => exact place.set key _
  | setBoolean key b => exact place.set key _
  | setInteger key n => exact place.set key _
  | unset key => exact place.set key none
  | setModified => exact ⟨place.path, place.held⟩
  | hold inode => cases kept
  | close => exact ⟨place.path, fun inode hi => by cases hi⟩
  | checkpoint => exact place
  | restore index =>
    rw [History.step]
    split
    · exact ⟨place.path, place.held⟩
    · exact place

/-- An action leaves the document at its path unless it gives it another file. -/
theorem isAt_step (place : s.history.document.IsAt s.tree bytes) (own : a.isOwn = true)
    (kept : a.isHold = false) : (s.step a).history.document.IsAt (s.step a).tree bytes := by
  cases a with
  | operation op => exact isAt_operation place kept
  | write mode =>
    obtain ⟨tree, document⟩ := tree_step_write (s := s) mode
    rw [tree, document]
    exact Storage.isAt_writeFile place
  | outside tree => cases own

/-- A run leaves the document at its path unless it is given another file. -/
theorem isAt_run (place : s.history.document.IsAt s.tree bytes)
    (own : ∀ a ∈ actions, a.isOwn = true) (kept : ∀ a ∈ actions, a.isHold = false) :
    (s.run actions).history.document.IsAt (s.run actions).tree bytes := by
  induction actions generalizing s with
  | nil => exact place
  | cons a actions ih =>
    obtain ⟨first, later⟩ := List.forall_mem_cons.1 own
    obtain ⟨keptFirst, keptLater⟩ := List.forall_mem_cons.1 kept
    exact ih (isAt_step place first keptFirst) later keptLater

/-- A document was read from a file, changed and written any number of times, and is written
without a failure now. If something changed, the file that it is written to holds its lines then,
and is opened at any of its paths as a file with this content is: it is read unless it may not be
read or is too large. Unless the document was given another file to hold, this file is the one that
it was read from, which holds what it did if nothing changed. What might be read of the files before
may be read now, and nothing else of them. -/
theorem openFile_writeFile (wf : t.WF) (encoded : Path.encode path = .ok bytes)
    (found : t.contentAt? bytes = some old) (loaded : Loads t path d)
    (own : ∀ a ∈ actions, a.isOwn = true) (mode : Int) :
    let s := (start t d).run actions
    let w := writeFile s.tree s.history.document mode
    w.result = .ok () →
      (s.history.document.modified = true →
        ∃ inode content, w.document.descriptor = some inode ∧
          s.history.document.content = .ok content ∧
          ∀ path' bytes', Path.encode path' = .ok bytes' → w.tree.find bytes' = .ok (.file inode) →
            (openFile w.tree path').result = opening (w.tree.mayRead inode) path' content) ∧
      ((∀ a ∈ actions, a.isHold = false) →
        ∃ inode content, t.find bytes = .ok (.file inode) ∧
          (openFile w.tree path).result = opening (t.mayRead inode) path content ∧
          (s.history.document.modified = true → s.history.document.content = .ok content) ∧
          (s.history.document.modified = false → s.tree.contentAt? bytes = some content)) ∧
      t.KeepsReadable w.tree := by
  intro s w written
  obtain ⟨names, wf_run, keeps_run⟩ := tree_run (s := start t d) wf own
  have keeps : t.KeepsReadable w.tree := keeps_run.trans Storage.keepsReadable_writeFile
  have lands (changed : s.history.document.modified = true) :=
    Storage.content_of_writeFile_ok wf_run changed written
  refine ⟨fun changed => ?_, fun kept => ?_, keeps⟩
  · obtain ⟨inode, content, held, stored, there⟩ := lands changed
    refine ⟨inode, content, held, stored, fun path' bytes' encoded' found' => ?_⟩
    refine Storage.openFile_eq_opening encoded' found' ?_
    rw [← Tree.contentAt?_of_find found']
    exact there bytes' found'
  · obtain ⟨other, encoded', place, -⟩ := Storage.isAt_of_loads loaded
    rw [encoded] at encoded'
    cases encoded'
    obtain ⟨inode, leads, -⟩ := Storage.exists_of_contentAt? found
    have now : w.tree.find bytes = .ok (.file inode) :=
      Tree.find_of_extends (names.trans Storage.extends_writeFile) leads
    have readable := (keeps inode (Tree.lt_of_find wf leads)).2
    -- The file is still the one at the path, so its content is all that is left to find out.
    have opens {content : Bytes} (there : w.tree.contentAt? bytes = some content) :
        (openFile w.tree path).result = opening (t.mayRead inode) path content := by
      rw [Tree.contentAt?_of_find now] at there
      rw [Storage.openFile_eq_opening encoded now there, readable]
    have place_run : s.history.document.IsAt s.tree bytes :=
      isAt_run (s := start t d) place own kept
    cases changed : s.history.document.modified with
    | true =>
      obtain ⟨held, content, holds, stored, there⟩ := lands changed
      have same : w.tree.find bytes = .ok (.file held) :=
        (Storage.isAt_writeFile place_run).held held holds
      exact ⟨inode, content, leads, opens (there bytes same), fun _ => stored,
        fun unset => by cases unset⟩
    | false =>
      have same : w.tree = s.tree :=
        congrArg Storage.Written.tree (Storage.writeFile_of_unmodified changed)
      obtain ⟨content, still⟩ := Tree.exists_contentAt? wf_run names found
      refine ⟨inode, content, leads, opens ?_, (fun changed => by cases changed), fun _ => still⟩
      rw [same]
      exact still

/-- A document with a command is changed, written, changed and written again. -/
theorem openFile_writeFile_set :
    let t : Tree :=
      ⟨[([("f" : Text).toBytes], .file 0)], [⟨("A=1\nfoo\n" : Text).toBytes, 0o644⟩], {}⟩
    let d : Document := ⟨"f", [Record.ofLine "A=1", Record.ofLine "foo"], false, some 0⟩
    let actions : List Action := [.operation (.set "A" (some "2")), .write 0o644,
      .operation (.set "A" (some "x y"))]
    let s := (start t d).run actions
    (openFile (writeFile s.tree s.history.document 0o644).tree "f").result =
      reading "f" ("A=\"x y\"\n#NM: foo\n" : Text).toBytes := by
  intro t d actions s
  have wf : t.WF := Tree.wf_singleton _ _
  have encoded : Path.encode "f" = .ok ("f" : Text).toBytes := by decide
  have found : t.contentAt? ("f" : Text).toBytes = some ("A=1\nfoo\n" : Text).toBytes := by
    decide +kernel
  have loaded : Loads t "f" d := .inr (by decide +kernel)
  have stored : s.history.document.content = .ok ("A=\"x y\"\n#NM: foo\n" : Text).toBytes := by
    decide +kernel
  have own : ∀ a ∈ actions, a.isOwn = true := by decide
  obtain ⟨-, opened, -⟩ := openFile_writeFile wf encoded found loaded own 0o644 (by decide +kernel)
  obtain ⟨inode, content, leads, read, written, -⟩ := opened (by decide)
  have same := written (by decide +kernel)
  rw [stored] at same
  cases same
  obtain rfl : 0 = inode := Files.Node.file.inj (Except.ok.inj leads)
  exact read

end Writeback

/-! ### A file that grows too large -/

/-- The content of a file with a line as often as given. -/
def Text.repeated (n : Nat) (line : Text) : Bytes :=
  (Document.joinLines (List.replicate n line)).toBytes

private theorem Text.length_repeated (n : Nat) (line : Text) :
    (line.repeated n).length = n * (line.toBytes.length + 1) := by
  rw [repeated, toBytes_joinLines]
  induction n with
  | zero => rw [List.replicate_zero, List.flatMap_nil, List.length_nil, Nat.zero_mul]
  | succ n ih =>
    rw [List.replicate_succ, List.flatMap_cons, List.length_append, ih, List.length_append,
      List.length_singleton, Nat.add_mul, Nat.one_mul, Nat.add_comm]

private theorem Record.ofBytes_repeated {line : Text}
    (ascii : ∀ c ∈ line, c.IsAscii ∧ c ≠ CodePoint.ofChar '\n') (n : Nat) :
    Record.ofBytes (line.repeated n) = List.replicate n (Record.ofLine line) := by
  have lines : ∀ l ∈ List.replicate n line, l.IsLine := by
    intro l hl
    rw [(List.mem_replicate.1 hl).2]
    exact Text.isLine_of_isAscii ascii
  have same : line.reread = line := Text.reread_eq_self fun c hc => (ascii c hc).1
  rw [Record.ofBytes, Text.repeated, Text.lines_reread_joinLines lines, List.map_replicate,
    List.map_replicate, same]

private theorem Document.content_repeated {d : Document} {line : Text} (hl : (Record.raw line).WF)
    (active : Record.isInert line = false) {n : Nat}
    (records : d.records = List.replicate n (.raw line)) :
    d.content = .ok ((Record.marker ++ line).repeated n) := by
  have wf : ∀ r ∈ d.records, r.WF := by
    intro r hr
    rw [records] at hr
    rw [(List.mem_replicate.1 hr).2]
    exact hl
  have one : Record.rendered (.raw line) = [Record.marker ++ line] := by
    rw [Record.rendered, active]
    rfl
  rw [content_eq_ok wf, rendered, records, List.flatMap_replicate, one,
    List.flatten_replicate_singleton]
  rfl

namespace Writeback

/-- A file of one command, one and a half million times, has less than three megabytes. Marked as
changed and written, its lines are comments, and the file is too large to be opened. -/
theorem not_openFile_writeFile :
    ¬ ∀ (t : Tree) (path : Text) (bytes old : Bytes) (d : Document) (actions : List Action)
      (mode : Int), t.WF → Path.encode path = .ok bytes → t.contentAt? bytes = some old →
        old.length ≤ Storage.maxFileSize → Loads t path d →
          (∀ a ∈ actions, a.isOwn = true ∧ a.isHold = false) →
            let s := (start t d).run actions
            let w := writeFile s.tree s.history.document mode
            w.result = .ok () → ∃ d', (openFile w.tree path).result = .ok d' := by
  intro h
  -- The number of lines is only looked at where the sizes are compared.
  obtain ⟨n, count⟩ : ∃ n, n = 1500000 := ⟨1500000, rfl⟩
  let content : Bytes := Text.repeated n "x"
  let larger : Bytes := Text.repeated n "#NM: x"
  let t : Tree := ⟨[([("f" : Text).toBytes], .file 0)], [⟨content, 0o644⟩], {}⟩
  let d : Document := { Document.ofContent "f" content with descriptor := some 0 }
  let changed : Document := { d with modified := true }
  have wf : t.WF := Tree.wf_singleton _ _
  have encoded : Path.encode "f" = .ok ("f" : Text).toBytes := by decide
  have leads : t.find ("f" : Text).toBytes = .ok (.file 0) := rfl
  have found : t.contentAt? ("f" : Text).toBytes = some content := Tree.contentAt?_of_find leads
  have fits : content.length ≤ Storage.maxFileSize := by
    have size : content.length = n * 2 := Text.length_repeated n "x"
    rw [size, count]
    decide
  have large : Storage.maxFileSize < larger.length := by
    have size : larger.length = n * 7 := Text.length_repeated n "#NM: x"
    rw [size, count]
    decide
  have usual : ({} : Files.Process).mayRead 0o644 = true ∧
      ({} : Files.Process).mayWrite 0o644 = true := by decide
  have readable : t.mayRead 0 = true := (Tree.mayRead_eq rfl).trans usual.1
  have loaded : (Storage.createFile t "f").result = .ok d := by
    have writable : t.mayWrite 0 = true := (Tree.mayWrite_eq rfl).trans usual.2
    rw [Storage.createFile_eq_reading encoded leads rfl readable, writable, reading,
      if_neg (Nat.not_lt.2 fits)]
    rfl
  have line : ∀ c ∈ ("x" : Text), c.IsAscii ∧ c ≠ CodePoint.ofChar '\n' := by decide
  have raw : Record.ofLine "x" = .raw "x" := by decide
  have records : changed.records = List.replicate n (.raw "x") := by
    rw [← raw]
    exact Record.ofBytes_repeated line n
  have stored : changed.content = .ok larger :=
    Document.content_repeated ⟨raw, Text.isLine_of_isAscii line⟩ rfl records
  have target : Storage.target t changed 0o644 = .ok (t, 0) := rfl
  obtain ⟨tree, -, written⟩ := Storage.writeFile_of_ok rfl target stored
  have opened := h t "f" _ content d [.operation .setModified] 0o644 wf encoded found fits
    (.inr loaded) (by decide) written
  have read : (openFile (t.overwrite 0 larger) "f").result = reading "f" larger :=
    Storage.openFile_eq_reading encoded (Tree.contentAt?_overwrite wf leads larger)
      fun inode same => by
        cases same
        have there : 0 < t.inodes.length := Nat.zero_lt_one
        rw [(Tree.keepsReadable_overwrite 0 larger 0 there).2, readable]
  obtain ⟨d', hd'⟩ := opened
  rw [reading, if_pos large] at read
  change (openFile (writeFile t changed 0o644).tree "f").result = .ok d' at hd'
  rw [tree, read] at hd'
  cases hd'

end Writeback

end VarFile
