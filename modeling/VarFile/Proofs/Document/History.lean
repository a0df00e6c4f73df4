import VarFile.Proofs.Document.Update
import VarFile.Proofs.Record.Line
import VarFile.Proofs.Value.Quoting
import VarFile.Storage

/-!
# Histories of a document

A history is a document with the checkpoints that were taken of it; `History.run` goes through any
list of operations on it, calls that are refused included. What every update keeps is kept by a
whole run (`History.keeps_run`), so the records of a document that was read from a file are well
formed at all times (`History.wellFormed_run`): their lines are lines of a file, and no other record
assigns the key of a deleted one.
-/

namespace VarFile

/-- What can be done with a document. -/
inductive Operation where
  | set (key : Text) (value : Option Text)
  | setNonempty (key : Text) (value : Option Text)
  | setBoolean (key : Text) (b : Bool)
  | setInteger (key : Text) (n : Int)
  | unset (key : Text)
  | setModified
  /-- Holds a file open for writing. -/
  | hold (inode : Nat)
  /-- Lets go of it. -/
  | close
  | checkpoint
  /-- Puts back one of the checkpoints taken before, counted from the first. -/
  | restore (index : Nat)

/-- The key that an operation is about. -/
def Operation.key? : Operation → Option Text
  | .set key _ | .setNonempty key _ | .setBoolean key _ | .setInteger key _ | .unset key => some key
  | .setModified | .hold _ | .close | .checkpoint | .restore _ => none

/-- A document and the checkpoints that were taken of it, first one first. -/
structure History where
  document : Document
  checkpoints : List Checkpoint := []

/-- The document of the content of a file. -/
def Document.ofContent (fileName : Text) (bytes : Bytes) : Document :=
  { fileName, records := Record.ofBytes bytes }

namespace History

/-- A document that was just read, without checkpoints. -/
def load (fileName : Text) (bytes : Bytes) : History := ⟨.ofContent fileName bytes, []⟩

/-- What an operation leaves, refused or not; a checkpoint that was never taken changes nothing. -/
def step (h : History) : Operation → History
  | .set key value => { h with document := (h.document.set key value).1 }
  | .setNonempty key value => { h with document := (h.document.setNonempty key value).1 }
  | .setBoolean key b => { h with document := (h.document.setBoolean key b).1 }
  | .setInteger key n => { h with document := (h.document.setInteger key n).1 }
  | .unset key => { h with document := (h.document.unset key).1 }
  | .setModified => { h with document := h.document.setModified }
  | .hold inode => { h with document := { h.document with descriptor := some inode } }
  | .close => { h with document := Storage.close h.document }
  | .checkpoint => { h with checkpoints := h.checkpoints ++ [h.document.checkpoint] }
  | .restore index =>
    match h.checkpoints[index]? with
    | some c => { h with document := h.document.restore c }
    | none => h

/-- What a list of operations leaves, first one first. -/
def run (h : History) (operations : List Operation) : History := operations.foldl step h

/-- What holds of the records now and at every checkpoint. -/
def Keeps (P : List Record → Prop) (h : History) : Prop :=
  P h.document.records ∧ ∀ c ∈ h.checkpoints, P c.records

/-- What an update of the key of an operation keeps is kept by the operation. -/
theorem keeps_step {P : List Record → Prop} {op : Operation}
    (update : ∀ (d : Document) (key : Text) (value : Option Text), op.key? = some key →
      P d.records → P (d.set key value).1.records)
    {h : History} (keeps : h.Keeps P) : (h.step op).Keeps P := by
  obtain ⟨now, before⟩ := keeps
  cases op with
  | set key value => exact ⟨update _ key _ rfl now, before⟩
  | setNonempty key value => exact ⟨update _ key _ rfl now, before⟩
  | setBoolean key b => exact ⟨update _ key _ rfl now, before⟩
  | setInteger key n => exact ⟨update _ key _ rfl now, before⟩
  | unset key => exact ⟨update _ key _ rfl now, before⟩
  | setModified => exact ⟨now, before⟩
  | hold inode => exact ⟨now, before⟩
  | close => exact ⟨now, before⟩
  | checkpoint =>
    refine ⟨now, fun c hc => ?_⟩
    obtain hc | hc := List.mem_append.1 hc
    · exact before c hc
    · rw [List.mem_singleton.1 hc]
      exact now
  | restore index =>
    rw [step]
    split
    · next c hc => exact ⟨before c (List.mem_of_getElem? hc), before⟩
    · exact ⟨now, before⟩

/-- What every update keeps is kept by a whole run. -/
theorem keeps_run {P : List Record → Prop} {operations : List Operation}
    (update : ∀ op ∈ operations, ∀ (d : Document) (key : Text) (value : Option Text),
      op.key? = some key → P d.records → P (d.set key value).1.records)
    {h : History} (keeps : h.Keeps P) : (h.run operations).Keeps P := by
  induction operations generalizing h with
  | nil => exact keeps
  | cons op operations ih =>
    exact ih (fun o ho => update o (List.mem_cons_of_mem op ho))
      (keeps_step (update op List.mem_cons_self) keeps)

end History

/-! ### Well-formed records -/

namespace Document

open Record (assigns)

/-- What holds of the records of a document at all times: a deleted assignment is the only one of
its key. -/
structure WellFormed (rs : List Record) : Prop where
  wf : ∀ r ∈ rs, r.WF
  deletedOnce : ∀ a, .assignment a ∈ rs → a.value = none → rs.countP (assigns a.key) ≤ 1

/-- The records of the content of a file are well formed, as none of them is deleted. -/
theorem wellFormed_ofBytes (bytes : Bytes) : WellFormed (Record.ofBytes bytes) where
  wf := Record.wf_of_mem_ofBytes
  deletedOnce a ha hv := by
    obtain ⟨text, ht⟩ := Record.exists_value_of_mem_ofBytes ha
    rw [hv] at ht
    cases ht

variable {key : Text} {rs : List Record}

private theorem countP_eq_of_filter {rs' : List Record} {other : Text} (hne : other ≠ key)
    (h : ∀ p : Record → Bool, (∀ r, r.assigns key = true → p r = false) →
      rs'.filter p = rs.filter p) :
    rs'.countP (assigns other) = rs.countP (assigns other) := by
  rw [List.countP_eq_length_filter, List.countP_eq_length_filter,
    h _ fun r hr => Record.assigns_eq_false_of_ne hne hr]

/-- Dropping what does not count keeps records well formed. -/
theorem wellFormed_keepLast (key : Text) (h : WellFormed rs) : WellFormed (keepLast key rs) where
  wf r hr := h.wf r (mem_of_mem_keepLast hr)
  deletedOnce a ha hv := by
    by_cases hk : a.key = key
    · rw [hk, countP_keepLast]
      split <;> omega
    · rw [countP_eq_of_filter hk fun p hp => filter_keepLast hp rs]
      exact h.deletedOnce a (mem_of_mem_keepLast ha) hv

/-- Deleting the one assignment of a key keeps records well formed. -/
theorem wellFormed_deleteValue (h : WellFormed rs) (one : rs.countP (assigns key) ≤ 1) :
    WellFormed (deleteValue key rs) where
  wf r hr := by
    rw [deleteValue_eq_map] at hr
    obtain ⟨s, hs, rfl⟩ := List.mem_map.1 hr
    have hw := h.wf s hs
    cases s with
    | raw text => exact hw
    | assignment a =>
      rw [deleted]
      split
      · exact ⟨hw.key, hw.lead, hw.leadLine, fun text ht => by cases ht⟩
      · exact hw
  deletedOnce a ha hv := by
    by_cases hk : a.key = key
    · rw [hk, deleteValue_eq_map, List.countP_map]
      refine Nat.le_trans (Nat.le_of_eq (List.countP_congr fun r _ => ?_)) one
      rw [Function.comp_apply, assigns_deleted]
    · rw [countP_eq_of_filter hk fun p hp => filter_deleteValue hp rs]
      refine h.deletedOnce a ?_ hv
      rw [deleteValue_eq_map] at ha
      obtain ⟨s, hs, hd⟩ := List.mem_map.1 ha
      have : s.assigns key = false := by
        rw [← assigns_deleted key, hd]
        exact beq_eq_false_iff_ne.2 hk
      rwa [← hd, deleted_eq_self this]

/-- The stored text of a value is a line. -/
theorem isLine_of_quote {v text : Text} (h : Value.quote v = .ok text) : text.IsLine := by
  obtain ⟨-, hs, hb⟩ := Value.toBytes_quote h
  refine ⟨hs, fun hc => ?_⟩
  have : newline ∈ text.toBytes := List.mem_flatMap.2
    ⟨_, hc, by rw [Text.toBytes_newline]; exact List.mem_singleton.2 rfl⟩
  rw [hb] at this
  exact absurd (Value.isControl_of_mem_quotedBytes this) (by decide)

/-- Storing a value keeps records well formed. -/
theorem wellFormed_storeText (hk : Key.isValid key = true) {text : Text} (ht : text.IsLine)
    (h : WellFormed rs) : WellFormed (storeText key text rs) := by
  have new : (stored key text).WF :=
    ⟨hk, ⟨[], by simp, rfl⟩, Key.isLine_of_isValid hk, fun t hv => Option.some.inj hv ▸ ht⟩
  -- A record is the new one or was there before.
  have mem {r : Record} (hr : r ∈ storeText key text rs) :
      r = stored key text ∨ r ∈ rs ∧ r.assigns key = false := by
    rw [storeText_eq] at hr
    split at hr
    · obtain ⟨s, hs, rfl⟩ := List.mem_map.1 hr
      split
      · exact .inl rfl
      · next hn => exact .inr ⟨hs, by simpa using hn⟩
    · next hn =>
      rw [List.any_eq_true, not_exists] at hn
      obtain hr | hr := List.mem_append.1 hr
      · exact .inr ⟨hr, by simpa [hr] using hn r⟩
      · exact .inl (List.mem_singleton.1 hr)
  refine ⟨fun r hr => ?_, fun a ha hv => ?_⟩
  · obtain rfl | ⟨hr, -⟩ := mem hr
    · exact new
    · exact h.wf r hr
  · obtain ha | ⟨ha, hne⟩ := mem ha
    · rw [stored, Record.assignment.injEq] at ha
      rw [ha] at hv
      cases hv
    · rw [countP_eq_of_filter (beq_eq_false_iff_ne.1 hne) fun p hp => filter_storeText hp text rs]
      exact h.deletedOnce a ha hv

/-- An update keeps records well formed. -/
theorem wellFormed_set {d : Document} (h : WellFormed d.records) (key : Text)
    (value : Option Text) : WellFormed (d.set key value).1.records := by
  have last := wellFormed_keepLast key h
  obtain hr | ⟨hk, hr | hr | ⟨v, text, hq, hr⟩⟩ := records_set d key value
  · rwa [hr]
  · rwa [hr]
  · rw [hr]
    refine wellFormed_deleteValue last ?_
    rw [countP_keepLast]
    split <;> omega
  · rw [hr]
    exact wellFormed_storeText hk (isLine_of_quote hq) last

end Document

/-- The records of a document that was read from a file are well formed at all times. -/
theorem History.wellFormed_run (fileName : Text) (bytes : Bytes) (operations : List Operation) :
    ((History.load fileName bytes).run operations).Keeps Document.WellFormed :=
  keeps_run (fun _ _ _ key value _ h => Document.wellFormed_set h key value)
    ⟨Document.wellFormed_ofBytes bytes, by simp [load]⟩

/-! ### Assignments -/

/-- What is promised of the assignments of a document: a valid key with nothing but blanks before
it, a text that a line of a file can hold, and a place of their own for those that are deleted. -/
structure Document.SoundAssignments (rs : List Record) : Prop where
  key : ∀ a, .assignment a ∈ rs → Key.isValid a.key = true
  lead : ∀ a, .assignment a ∈ rs →
    ∃ indent : Text, (∀ c ∈ indent, c.isBlank = true) ∧ a.lead = indent ++ a.key
  text : ∀ a text, .assignment a ∈ rs → a.value = some text →
    CodePoint.ofChar '\n' ∉ text ∧ ∀ c ∈ text, c.isSurrogate = true → c.isRawByte = true
  deleted : ∀ (i j : Nat) (a b : Assignment), rs[i]? = some (.assignment a) → a.value = none →
    rs[j]? = some (.assignment b) → b.key = a.key → j = i

private theorem eq_of_countP_le_one {α : Type} {p : α → Bool} {xs : List α} (once : xs.countP p ≤ 1)
    {i j : Nat} {x y : α} (hi : xs[i]? = some x) (hj : xs[j]? = some y) (hx : p x = true)
    (hy : p y = true) : j = i := by
  induction xs generalizing i j with
  | nil => cases hi
  | cons z xs ih =>
    -- The predicate holds of nothing behind an element that it holds of.
    have alone (hz : p z = true) {k : Nat} {w : α} (hk : xs[k]? = some w) (hw : p w = true) :
        False := by
      have later : 0 < xs.countP p := List.countP_pos_iff.2 ⟨w, List.mem_of_getElem? hk, hw⟩
      rw [List.countP_cons_of_pos hz] at once
      omega
    cases i with
    | zero =>
      cases j with
      | zero => rfl
      | succ j => exact (alone (Option.some.inj hi ▸ hx) hj hy).elim
    | succ i =>
      cases j with
      | zero => exact (alone (Option.some.inj hj ▸ hy) hi hx).elim
      | succ j =>
        have tail : xs.countP p ≤ 1 :=
          Nat.le_trans ((List.sublist_cons_self z xs).countP_le) once
        rw [ih tail hi hj]

private theorem Document.WellFormed.soundAssignments {rs : List Record} (h : WellFormed rs) :
    SoundAssignments rs where
  key a ha := (h.wf _ ha).key
  lead a ha := (h.wf _ ha).lead
  text a text ha hv := by
    have line : text.IsLine := (h.wf _ ha).textLine text hv
    refine ⟨line.newline, fun c hc surrogate => ?_⟩
    have storable := line.storable c hc
    rwa [CodePoint.isStorable, surrogate, Bool.not_true, Bool.false_or] at storable
  deleted i j a b hi hv hj same := by
    have once := h.deletedOnce a (List.mem_of_getElem? hi) hv
    exact eq_of_countP_le_one once hi hj (beq_self_eq_true a.key) (beq_iff_eq.2 same)

/-- However a document that was read from a file is changed, its assignments are sound, now and at
every checkpoint. -/
theorem History.soundAssignments_run (fileName : Text) (bytes : Bytes)
    (operations : List Operation) :
    ((History.load fileName bytes).run operations).Keeps Document.SoundAssignments := by
  obtain ⟨now, before⟩ := wellFormed_run fileName bytes operations
  exact ⟨now.soundAssignments, fun c hc => (before c hc).soundAssignments⟩

end VarFile
