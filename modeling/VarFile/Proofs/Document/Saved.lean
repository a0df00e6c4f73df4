import VarFile.Proofs.Document.History

/-!
# What the flag of a document says

`Writeback.run` goes through any list of operations on a document that was loaded, writes and
changes of the file system included, and keeps track of what was saved. While the flag is not set,
the document is written as at some time when it was read or written, and as at the last of these
times unless a checkpoint from before it was put back (`Writeback.rendered_of_unmodified`). Such a
checkpoint brings its flag with it, and hides that the file holds something else
(`Writeback.not_rendered_eq_last`).
-/

namespace VarFile

/-! ### The flag and the records -/

namespace Document

private theorem unmodified_replaceRecords {d : Document} {rs : List Record}
    (h : (d.replaceRecords rs).modified = false) : d.modified = false ∧ rs = d.records := by
  rw [replaceRecords, Bool.or_eq_false_iff, bne_eq_false_iff_eq] at h
  exact h

private theorem unmodified_replaceRecords_twice {d : Document} {rs rs' : List Record}
    (h : ((d.replaceRecords rs).replaceRecords rs').modified = false) :
    d.modified = false ∧ rs' = d.records := by
  obtain ⟨first, again⟩ := unmodified_replaceRecords h
  obtain ⟨before, same⟩ := unmodified_replaceRecords first
  exact ⟨before, again.trans same⟩

/-- An update, refused or not, leaves the flag unset only if it changes nothing. -/
theorem unmodified_set {d : Document} {key : Text} {value : Option Text}
    (h : (d.set key value).1.modified = false) :
    d.modified = false ∧ (d.set key value).1.records = d.records := by
  obtain ⟨-, he⟩ | ⟨-, ⟨-, he⟩ | ⟨v, cause, -, -, he⟩ | ⟨v, text, -, -, he⟩⟩ :=
    set_cases d key value
  · rw [he] at h ⊢
    exact ⟨h, rfl⟩
  · rw [he] at h ⊢
    exact unmodified_replaceRecords_twice h
  · rw [he] at h ⊢
    exact unmodified_replaceRecords h
  · rw [he] at h ⊢
    exact unmodified_replaceRecords_twice h

end Document

namespace History

/-- While a flag is not set, something holds of the records that come with it: those of the
document, and those of all checkpoints but the first `n`. -/
structure Clean (P : List Record → Prop) (n : Nat) (h : History) : Prop where
  now : h.document.modified = false → P h.document.records
  before : ∀ i c, n ≤ i → h.checkpoints[i]? = some c → c.modified = false → P c.records

variable {P : List Record → Prop} {n : Nat} {h : History}

/-- A change of the document that sets the flag if it changes the records. -/
theorem Clean.update (clean : h.Clean P n) {d : Document}
    (hd : d.modified = false → h.document.modified = false ∧ d.records = h.document.records) :
    Clean P n { h with document := d } where
  now unset := by
    obtain ⟨before, same⟩ := hd unset
    rw [same]
    exact clean.now before
  before := clean.before

/-- An operation keeps this, unless it puts back one of the first `n` checkpoints with its flag not
set. -/
theorem Clean.step (clean : h.Clean P n) {op : Operation}
    (fresh : ∀ i, op = .restore i → n ≤ i ∨ ∀ c ∈ h.checkpoints[i]?, c.modified = true) :
    (h.step op).Clean P n := by
  cases op with
  | set key value => exact clean.update Document.unmodified_set
  | setNonempty key value => exact clean.update Document.unmodified_set
  | setBoolean key b => exact clean.update Document.unmodified_set
  | setInteger key n => exact clean.update Document.unmodified_set
  | unset key => exact clean.update Document.unmodified_set
  | setModified => exact clean.update fun unset => by cases unset
  | hold inode => exact clean.update fun unset => ⟨unset, rfl⟩
  | close => exact clean.update fun unset => ⟨unset, rfl⟩
  | checkpoint =>
    refine ⟨clean.now, fun i c hn hc => ?_⟩
    rw [History.step, List.getElem?_append] at hc
    split at hc
    · exact clean.before i c hn hc
    · rw [List.getElem?_singleton] at hc
      split at hc
      · rw [← Option.some.inj hc]
        exact clean.now
      · cases hc
  | restore i =>
    rw [History.step]
    split
    · next c hc =>
      refine ⟨fun (unset : c.modified = false) => ?_, clean.before⟩
      obtain hn | set := fresh i rfl
      · exact clean.before i c hn hc unset
      · rw [set c hc] at unset
        cases unset
    · exact clean

end History

/-! ### Writing -/

namespace Storage

/-- Whether writing a document puts its lines into the file. -/
def saves (t : Files.Tree) (d : Document) (mode : Int) : Bool :=
  d.modified && (writeFile t d mode).result.toBool

/-- Writing a document leaves its records, and takes its flag away exactly if its lines are in the
file then. -/
theorem writeFile_cases (t : Files.Tree) (d : Document) (mode : Int) :
    (writeFile t d mode).document.records = d.records ∧
      (writeFile t d mode).document.modified = (d.modified && !saves t d mode) := by
  rw [saves]
  unfold writeFile
  split
  · next hm =>
    rw [Bool.not_eq_true'] at hm
    exact ⟨rfl, by rw [hm]; rfl⟩
  · next hm =>
    rw [Bool.not_eq_true', Bool.not_eq_false] at hm
    split
    · exact ⟨rfl, by rw [hm]; rfl⟩
    · next t' inode _ =>
      simp only
      split
      · exact ⟨rfl, by rw [hm]; rfl⟩
      · exact ⟨rfl, by rw [hm]; rfl⟩

/-- What a write leaves of the records and the flag. -/
theorem checkpoint_writeFile (t : Files.Tree) (d : Document) (mode : Int) :
    (writeFile t d mode).document.checkpoint =
      ⟨d.records, d.modified && !(writeFile t d mode).result.toBool⟩ := by
  obtain ⟨records, flag⟩ := writeFile_cases t d mode
  rw [Document.checkpoint, records, flag, saves, Bool.not_and, Bool.and_or_distrib_left,
    Bool.and_not_self, Bool.false_or]

end Storage

/-- What can be done with a document and around it. -/
inductive Action where
  | operation (op : Operation)
  /-- Writes the document; the mode is used if the file has to be made. -/
  | write (mode : Int)
  /-- Something else changes the file system. -/
  | outside (tree : Files.Tree)

/-- A document with its checkpoints, the file system, and what was saved. -/
structure Writeback where
  tree : Files.Tree
  history : History
  /-- The document as it was read, or else as its lines were put into the file the last time. -/
  last : Document
  /-- The document as it was the times before, last one first. -/
  earlier : List Document := []
  /-- How many checkpoints had been taken the last time. -/
  stale : Nat := 0

namespace Writeback

/-- A document that was just read. -/
def start (t : Files.Tree) (d : Document) : Writeback :=
  { tree := t, history := ⟨d, []⟩, last := d }

/-- What an action leaves. -/
def step (s : Writeback) : Action → Writeback
  | .operation op => { s with history := s.history.step op }
  | .write mode =>
    let w := Storage.writeFile s.tree s.history.document mode
    let written := { s with tree := w.tree, history := { s.history with document := w.document } }
    if Storage.saves s.tree s.history.document mode then
      { written with
        last := w.document
        earlier := s.last :: s.earlier
        stale := s.history.checkpoints.length }
    else written
  | .outside tree => { s with tree }

/-- What a list of actions leaves, first one first. -/
def run (s : Writeback) (actions : List Action) : Writeback := actions.foldl step s

/-- An action does not put back a checkpoint from before the last time that the document was saved,
unless its flag is set. -/
def IsFresh (s : Writeback) (a : Action) : Prop :=
  ∀ i, a = .operation (.restore i) →
    s.stale ≤ i ∨ ∀ c ∈ s.history.checkpoints[i]?, c.modified = true

/-- No action of a run does. -/
def AllFresh (s : Writeback) : List Action → Prop
  | [] => True
  | a :: actions => s.IsFresh a ∧ (s.step a).AllFresh actions

/-- While a flag is not set, the records that come with it were saved once. -/
def Recalls (s : Writeback) : Prop :=
  s.history.Clean (fun rs => ∃ e ∈ s.last :: s.earlier, rs = e.records) 0

/-- While its flag is not set, a document has the records that were saved last, and so has every
checkpoint since. -/
def IsCurrent (s : Writeback) : Prop := s.history.Clean (· = s.last.records) s.stale

/-- Every action keeps it that unset flags come with records that were saved once. -/
theorem recalls_step {s : Writeback} (h : s.Recalls) (a : Action) : (s.step a).Recalls := by
  cases a with
  | operation op => exact h.step fun i _ => .inl (Nat.zero_le i)
  | outside tree => exact h
  | write mode =>
    obtain ⟨records, flag⟩ := Storage.writeFile_cases s.tree s.history.document mode
    rw [step]
    split
    · exact ⟨fun _ => ⟨_, List.mem_cons_self, rfl⟩, fun i c hn hc unset =>
        let ⟨e, he, same⟩ := h.before i c hn hc unset
        ⟨e, List.mem_cons_of_mem _ he, same⟩⟩
    · next hs =>
      rw [Bool.not_eq_true] at hs
      rw [hs, Bool.not_false, Bool.and_true] at flag
      exact h.update fun unset => ⟨flag ▸ unset, records⟩

/-- An action that puts back no stale checkpoint keeps it that unset flags come with the records
that were saved last. -/
theorem isCurrent_step {s : Writeback} (h : s.IsCurrent) {a : Action} (fresh : s.IsFresh a) :
    (s.step a).IsCurrent := by
  cases a with
  | operation op => exact h.step fun i hi => fresh i (hi ▸ rfl)
  | outside tree => exact h
  | write mode =>
    obtain ⟨records, flag⟩ := Storage.writeFile_cases s.tree s.history.document mode
    rw [step]
    split
    · refine ⟨fun _ => rfl, fun i c hn hc _ => ?_⟩
      -- No checkpoint was taken since.
      rw [List.getElem?_eq_none hn] at hc
      cases hc
    · next hs =>
      rw [Bool.not_eq_true] at hs
      rw [hs, Bool.not_false, Bool.and_true] at flag
      exact h.update fun unset => ⟨flag ▸ unset, records⟩

/-- In any run, unset flags come with records that were saved once. -/
theorem recalls_run {s : Writeback} (h : s.Recalls) (actions : List Action) :
    (s.run actions).Recalls := by
  induction actions generalizing s with
  | nil => exact h
  | cons a actions ih => exact ih (recalls_step h a)

/-- In a run that puts back no stale checkpoint, unset flags come with the records that were saved
last. -/
theorem isCurrent_run {s : Writeback} (h : s.IsCurrent) {actions : List Action}
    (fresh : s.AllFresh actions) : (s.run actions).IsCurrent := by
  induction actions generalizing s with
  | nil => exact h
  | cons a actions ih => exact ih (isCurrent_step h fresh.1) fresh.2

/-- Whatever was done since a document was read, while its flag is not set it is written as at some
time when it was read or saved, and as at the last of these times if no checkpoint from before it
was put back with its flag not set. -/
theorem rendered_of_unmodified (t : Files.Tree) (d : Document) (actions : List Action) :
    let s := (start t d).run actions
    s.history.document.modified = false →
      (∃ e ∈ s.last :: s.earlier, s.history.document.rendered = e.rendered) ∧
        ((start t d).AllFresh actions → s.history.document.rendered = s.last.rendered) := by
  intro s unset
  have recalls : (start t d).Recalls :=
    ⟨fun _ => ⟨d, List.mem_cons_self, rfl⟩, fun i c _ hc => by cases hc⟩
  have current : (start t d).IsCurrent := ⟨fun _ => rfl, fun i c _ hc => by cases hc⟩
  refine ⟨?_, fun fresh => ?_⟩
  · obtain ⟨e, he, same⟩ := (recalls_run recalls actions).now unset
    exact ⟨e, he, congrArg (List.flatMap Record.rendered) same⟩
  · exact congrArg (List.flatMap Record.rendered) ((isCurrent_run current fresh).now unset)

/-- A checkpoint that was taken after a write is put back. -/
theorem rendered_of_unmodified_restore :
    let t : Files.Tree :=
      ⟨[([("f" : Text).toBytes], .file 0)], [⟨("A=1\n" : Text).toBytes, 0o644⟩], {}⟩
    let d : Document := ⟨"f", [Record.ofLine "A=1"], false, some 0⟩
    let actions : List Action := [.operation .checkpoint, .operation (.set "A" (some "2")),
      .write 0o644, .operation .checkpoint, .operation (.set "A" (some "3")),
      .operation (.restore 1)]
    let s := (start t d).run actions
    s.history.document.rendered = s.last.rendered ∧ s.last.rendered = [("A=2" : Text)] := by
  intro t d actions s
  have fresh : (start t d).AllFresh actions := by
    have other {s : Writeback} {a : Action} (h : ∀ i, a ≠ .operation (.restore i)) : s.IsFresh a :=
      fun i hi => absurd hi (h i)
    refine ⟨other (by simp), other (by simp), other (by simp), other (by simp), other (by simp),
      fun i hi => ?_, trivial⟩
    cases hi
    exact .inl (by decide +kernel)
  exact ⟨(rendered_of_unmodified t d actions (by decide +kernel)).2 fresh, by decide +kernel⟩

/-- A checkpoint with its flag not set is put back after a write, and the next write does not do
anything although the file holds something else. -/
theorem not_rendered_eq_last :
    ¬ ∀ (t : Files.Tree) (path : Text) (d : Document) (actions : List Action),
      (Storage.createFile t path).result = .ok d →
        let s := (start t d).run actions
        s.history.document.modified = false → s.history.document.rendered = s.last.rendered := by
  intro h
  have h := h ⟨[([("f" : Text).toBytes], .file 0)], [⟨("A=1\n" : Text).toBytes, 0o644⟩], {}⟩ "f"
    ⟨"f", [Record.ofLine "A=1"], false, some 0⟩
    [.operation .checkpoint, .operation (.set "A" (some "2")), .write 0o644,
      .operation (.restore 0)] (by decide +kernel) (by decide +kernel)
  exact absurd h (by decide +kernel)

end Writeback

end VarFile
