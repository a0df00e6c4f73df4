import Mathlib.Data.List.Basic
import VarFile.Proofs.Document.History
import VarFile.Proofs.Document.Lookup
import VarFile.Proofs.Rendering.Settled

/-!
# Reading what was written

The content of a document is read as the settled records of its records, in their order
(`Document.ofBytes_rendered`). At every moment of a history these have the same values as the
document (`History.agrees_content`), and they are written as the same content again
(`History.content_fixed`).
-/

namespace VarFile

namespace Document

open Record (assigns marker settled)

variable {d : Document} {rs : List Record}

/-! ### The content of a document -/

/-- Well-formed records are written as lines of a file. -/
theorem isLine_of_mem_rendered (h : ∀ r ∈ d.records, r.WF) {l : Text} (hl : l ∈ d.rendered) :
    l.IsLine := by
  obtain ⟨r, hr, hl⟩ := List.mem_flatMap.1 hl
  exact Record.isLine_of_mem_rendered (h r hr) hl

/-- Well-formed records have a stored form. -/
theorem content_eq_ok (h : ∀ r ∈ d.records, r.WF) :
    d.content = .ok (joinLines d.rendered).toBytes :=
  Text.encode_eq_ok (Text.isStorable_joinLines fun _ hl => (isLine_of_mem_rendered h hl).storable)

/-- The lines that are read are those that were written. -/
theorem lines_rendered (h : ∀ r ∈ d.records, r.WF) :
    (Text.ofBytes (joinLines d.rendered).toBytes).lines = d.rendered.map Text.reread :=
  Text.lines_reread_joinLines fun _ hl => isLine_of_mem_rendered h hl

/-- The records that are read are the settled ones, in their order. -/
theorem ofBytes_rendered (h : ∀ r ∈ d.records, r.WF) :
    Record.ofBytes (joinLines d.rendered).toBytes = d.records.flatMap settled := by
  rw [Record.ofBytes, lines_rendered h, List.map_map, rendered, List.map_flatMap]
  exact List.flatMap_congr fun r hr => Record.map_ofLine_rendered (h r hr)

/-! ### The entries that are read -/

/-- The stored text that is read after a stored text was written. -/
def settledText (text : Text) : Text := if Value.isReadable text then text.reread else []

private theorem any_settled (key : Text) (r : Record) :
    r.settled.any (assigns key) = (r.assigns key && r.line?.isSome) := by
  cases r with
  | raw text => rfl
  | assignment a =>
    rw [settled, Record.line?]
    cases a.value with
    | none => rw [Option.map_none, Option.isSome_none, Bool.and_false]; rfl
    | some text =>
      simp only [Option.map_some, Option.isSome_some, Bool.and_true]
      split <;> simp [assigns, stored]

private theorem any_flatMap_settled {key : Text}
    (h : ∀ r ∈ rs, r.assigns key = true → r.line?.isSome = true) :
    (rs.flatMap settled).any (assigns key) = rs.any (assigns key) := by
  induction rs with
  | nil => rfl
  | cons r rs ih =>
    have head : (r.assigns key && r.line?.isSome) = r.assigns key := by
      cases hr : r.assigns key with
      | false => rfl
      | true => rw [h r List.mem_cons_self hr]; rfl
    rw [List.flatMap_cons, List.any_append, any_settled, head,
      ih fun s hs => h s (List.mem_cons_of_mem r hs), List.any_cons]

/-- Well-formed records are still so without the first one. -/
theorem WellFormed.tail {r : Record} (h : WellFormed (r :: rs)) : WellFormed rs where
  wf s hs := h.wf s (List.mem_cons_of_mem r hs)
  deletedOnce a ha hv :=
    Nat.le_trans ((List.sublist_cons_self r rs).countP_le)
      (h.deletedOnce a (List.mem_cons_of_mem r ha) hv)

private theorem WellFormed.line?_isSome {a : Assignment} (h : WellFormed (.assignment a :: rs)) :
    ∀ r ∈ rs, r.assigns a.key = true → r.line?.isSome = true := by
  intro r hr hk
  cases r with
  | raw text => rfl
  | assignment b =>
    cases hv : b.value with
    | some text => rw [Record.line?, hv]; rfl
    | none =>
      have once := h.deletedOnce b (List.mem_cons_of_mem _ hr) hv
      have same : b.key = a.key := beq_iff_eq.1 hk
      have later : 0 < rs.countP (assigns a.key) := List.countP_pos_iff.2 ⟨_, hr, hk⟩
      rw [same, List.countP_cons_of_pos (by simp [assigns])] at once
      omega

private theorem liveEntries_settled_append (a : Assignment) (later : List Record) :
    liveEntries (settled (.assignment a) ++ later) =
      (if later.any (assigns a.key) then []
        else a.value.toList.map fun text => (a.key, settledText text)) ++ liveEntries later := by
  rw [settled]
  cases a.value with
  | none => cases later.any (assigns a.key) <;> rfl
  | some text =>
    simp only [Option.toList_some, List.map_singleton, settledText]
    split
    · rw [List.singleton_append, liveEntries_cons_assignment]
      rfl
    · rw [List.cons_append, stored, liveEntries_cons_assignment]
      rfl

/-- The entries that are read are those of the document, in their order. -/
theorem liveEntries_flatMap_settled (h : WellFormed rs) :
    liveEntries (rs.flatMap settled) =
      (liveEntries rs).map fun entry => (entry.1, settledText entry.2) := by
  induction rs with
  | nil => rfl
  | cons r rs ih =>
    replace ih := ih h.tail
    cases r with
    | raw text => exact ih
    | assignment a =>
      rw [List.flatMap_cons, liveEntries_settled_append, liveEntries_cons_assignment,
        List.map_append, ← ih]
      -- A deleted assignment has no entry; any other counts if it did before.
      cases hv : a.value with
      | none => simp only [Option.toList_none, List.map_nil, ite_self]
      | some text =>
        rw [any_flatMap_settled h.line?_isSome]
        split <;> rfl

/-! ### The values that are read -/

private theorem lookup_map (f : Text → Text) (key : Text) (entries : List (Text × Text)) :
    (entries.map fun entry => (entry.1, f entry.2)).lookup key = (entries.lookup key).map f := by
  induction entries with
  | nil => rfl
  | cons entry entries ih =>
    rw [List.map_cons, List.lookup_cons, List.lookup_cons, ih]
    split <;> rfl

/-- A key with a stored text is a valid one. -/
theorem isValid_of_stored? (h : ∀ r ∈ d.records, r.WF) {key text : Text}
    (hs : d.stored? key = some text) : Key.isValid key = true := by
  obtain ⟨a, hm, rfl, -⟩ := exists_assignment_of_stored? hs
  exact (h _ hm).key

/-- A settled text stands for the same value, or for the empty one if there was none. -/
theorem unquote_settledText (text : Text) :
    Value.unquote (settledText text) = .ok ((Value.unquote text).toOption.getD []) := by
  rw [settledText]
  cases hu : Value.unquote text with
  | ok value =>
    have storable := (Value.unquote_eq_ok_iff.1 hu).1
    rw [if_pos (by rw [Value.isReadable, hu]), Value.unquote_reread storable, hu]
    rfl
  | error cause =>
    rw [if_neg (by simp [Value.isReadable, hu]), Value.unquote_nil]
    rfl

/-- What a document that was read from the content of `d` has in common with it. -/
structure Agrees (d e : Document) : Prop where
  keys : e.keys = d.keys
  nonemptyValue? : ∀ key, e.nonemptyValue? key = d.nonemptyValue? key
  readable : ∀ key text value, d.stored? key = some text → Value.unquote text = .ok value →
    d.value? key = .ok (some value) ∧ e.value? key = .ok (some value)
  /-- A key whose stored text stands for no value has the empty one. -/
  unreadable : ∀ key text cause, d.stored? key = some text → Value.unquote text = .error cause →
    d.value? key = .ok none ∧ e.value? key = .ok (some [])
  /-- No assignment of a key that is deleted or was never there comes back. -/
  deleted : ∀ key, d.stored? key = none → e.records.any (assigns key) = false

/-- A document agrees with what is read from its content. -/
theorem agrees_ofContent (h : WellFormed d.records) {bytes : Bytes}
    (hc : d.content = .ok bytes) (fileName : Text) : Agrees d (ofContent fileName bytes) := by
  rw [content_eq_ok h.wf, Except.ok.injEq] at hc
  subst hc
  generalize hb : (joinLines d.rendered).toBytes = bytes
  replace hb := hb ▸ ofBytes_rendered h.wf
  have entries : (ofContent fileName bytes).entries =
      d.entries.map fun entry => (entry.1, settledText entry.2) := by
    rw [Document.entries, ofContent, hb, liveEntries_flatMap_settled h, Document.entries]
  have stored (key : Text) :
      (ofContent fileName bytes).stored? key = (d.stored? key).map settledText := by
    rw [stored?_eq_lookup, stored?_eq_lookup, entries, lookup_map]
  have value {key text : Text} (hs : d.stored? key = some text) :
      d.value? key = .ok (Value.unquote text).toOption ∧
        (ofContent fileName bytes).value? key =
          .ok (some ((Value.unquote text).toOption.getD [])) := by
    have hk := isValid_of_stored? h.wf hs
    have he := stored key
    rw [hs, Option.map_some] at he
    rw [value?_of_stored? hk hs, value?_of_stored? hk he, unquote_settledText]
    exact ⟨rfl, rfl⟩
  refine ⟨?_, fun key => ?_, fun key text v hs hu => ?_, fun key text cause hs hu => ?_,
    fun key hs => ?_⟩
  · rw [keys, entries, List.map_map]
    rfl
  · rw [nonemptyValue?, nonemptyValue?]
    cases hs : d.stored? key with
    | none => rw [value?, value?, text?, text?, stored, hs, Option.map_none]
    | some text =>
      rw [(value hs).1, (value hs).2]
      cases Value.unquote text <;> rfl
  · rw [(value hs).1, (value hs).2, hu]
    exact ⟨rfl, rfl⟩
  · rw [(value hs).1, (value hs).2, hu]
    exact ⟨rfl, rfl⟩
  · rw [← lastAssignment?_eq_none_iff]
    have he := stored key
    rw [hs, Option.map_none, stored?, Option.bind_eq_none_iff] at he
    -- No assignment that was read is deleted, so one that counts would have a stored text.
    cases hl : lastAssignment? key (ofContent fileName bytes).records with
    | none => rfl
    | some a =>
      obtain ⟨text, ht⟩ := Record.exists_value_of_mem_ofBytes (mem_of_lastAssignment? hl).1
      rw [he a hl] at ht
      cases ht

/-! ### The content that is written again -/

/-- What was written is not kept as a comment, and makes the same content. -/
theorem content_ofContent (h : ∀ r ∈ d.records, r.WF) {bytes : Bytes}
    (hc : d.content = .ok bytes) (fileName : Text) :
    (ofContent fileName bytes).neutralized = [] ∧
      (ofContent fileName bytes).content = .ok bytes := by
  rw [content_eq_ok h, Except.ok.injEq] at hc
  subst hc
  have none : ∀ r ∈ d.records.flatMap settled, r.neutralized? = none := by
    intro r hr
    obtain ⟨s, hs, hr⟩ := List.mem_flatMap.1 hr
    exact Record.neutralized?_of_mem_settled (h s hs) hr
  rw [← ofBytes_rendered h] at none
  refine ⟨List.filterMap_eq_nil_iff.2 none, ?_⟩
  -- Each line is read as a record that is written as that line.
  have rendered : (ofContent fileName (joinLines d.rendered).toBytes).rendered =
      d.rendered.map Text.reread := by
    rw [Document.rendered, ofContent,
      List.flatMap_congr fun r hr => Record.rendered_of_neutralized?_eq_none (none r hr),
      Record.ofBytes, lines_rendered h, List.map_map, List.flatMap_map]
    simp only [Function.comp_apply, Record.line?_ofLine, Option.toList_some]
    exact List.map_eq_flatMap.symm
  rw [content, rendered, ← Text.reread_joinLines,
    Text.encode_eq_ok (Text.isStorable_reread _), Text.toBytes_reread]

end Document

namespace History

/-- Whatever was done with a document that was read from a file, it has a content, and the document
that is read from this agrees with it. -/
theorem agrees_content (fileName : Text) (bytes : Bytes) (operations : List Operation) :
    let d := ((History.load fileName bytes).run operations).document
    ∃ payload, d.content = .ok payload ∧
      Document.Agrees d (Document.ofContent d.fileName payload) := by
  intro d
  have h := (wellFormed_run fileName bytes operations).1
  exact ⟨_, Document.content_eq_ok h.wf,
    Document.agrees_ofContent h (Document.content_eq_ok h.wf) d.fileName⟩

/-- Whatever was done with a document that was read from a file, its lines are written as they are
but for those that would be kept as comments, the comments are these behind the marker, and what is
read from the content holds none of them and has the same content. -/
theorem content_fixed (fileName : Text) (bytes : Bytes) (operations : List Operation) :
    let d := ((History.load fileName bytes).run operations).document
    (∀ r ∈ d.records, r.rendered =
      match r.neutralized? with
      | none => r.line?.toList
      | some t => r.emptied ++ [Record.marker ++ t]) ∧
    d.records.flatMap Record.commented = d.neutralized.map (Record.marker ++ ·) ∧
    ∃ payload, d.content = .ok payload ∧
      (Document.ofContent d.fileName payload).neutralized = [] ∧
      (Document.ofContent d.fileName payload).content = .ok payload := by
  intro d
  have h := (wellFormed_run fileName bytes operations).1.wf
  refine ⟨fun r _ => ?_, ?_, _, Document.content_eq_ok h,
    Document.content_ofContent h (Document.content_eq_ok h) d.fileName⟩
  · split
    · next hn => exact Record.rendered_of_neutralized?_eq_none hn
    · next t hn => exact (Record.rendered_of_neutralized?_eq_some hn).2
  · rw [Document.neutralized, List.map_filterMap, List.filterMap_eq_flatMap_toList]
    exact List.flatMap_congr fun r hr => Record.commented_eq (h r hr)

end History

end VarFile
