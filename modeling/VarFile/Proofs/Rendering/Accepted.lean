import VarFile.Editor.View
import VarFile.Proofs.Document.History
import VarFile.Proofs.Document.Revision
import VarFile.Proofs.Rendering.Settled

/-!
# What an accepted update does

`Document.Accepted` says all that an accepted update does with a document: with the assignments of
its key, with everything else, and with the flag. It holds of every update that is accepted at some
time after a document was read (`History.accepted_update`).
-/

namespace VarFile

private theorem Record.assigns_of_mem_rendered {r : Record} (h : r.WF) {key l : Text}
    (hl : l ∈ r.rendered)
    (hk : (ofLine l).assigns key = true) : r.assigns key = true := by
  cases hn : r.neutralized? with
  | none =>
    rw [rendered_of_neutralized?_eq_none hn, Option.mem_toList] at hl
    rwa [ofLine_of_line? h hl] at hk
  | some t =>
    rw [(rendered_of_neutralized?_eq_some hn).2, List.mem_append, List.mem_singleton] at hl
    obtain hl | rfl := hl
    · cases r with
      | raw text => cases hl
      | assignment a =>
        rw [emptied, List.mem_singleton] at hl
        have empty : ofLine (a.key ++ [CodePoint.ofChar '=']) = Document.stored a.key [] :=
          ofLine_of_line? (wf_stored_nil h.key) rfl
        rwa [hl, empty] at hk
    · rw [ofLine_of_isInert (isInert_marker t)] at hk
      cases hk

namespace Document

open Record (assigns)

variable {d : Document} {key : Text} {value text : Option Text} {rs : List Record}

/-! ### Where the assignment is -/

/-- Where the assignment of a key is after an update: where the last one was, all others being
dropped, or else at the end. Deleting a key without an assignment adds none. -/
inductive Placed (key : Text) : Option Text → List Record → List Record → Prop
  | last {value : Option Text} {before after : List Record} {old new : Record}
      (hold : old.assigns key = true) (hafter : after.any (assigns key) = false)
      (hnew : new.assigns key = true) :
      Placed key value (before ++ old :: after) (before.filter (!·.assigns key) ++ new :: after)
  | added {v : Text} {rs : List Record} {new : Record} (free : rs.any (assigns key) = false)
      (hnew : new.assigns key = true) : Placed key (some v) rs (rs ++ [new])
  | absent {rs : List Record} (free : rs.any (assigns key) = false) : Placed key none rs rs

private theorem placed_revise (h : StoredAs value text) (rs : List Record) :
    Placed key value rs (revise key text rs) := by
  cases ha : rs.any (assigns key) with
  | true =>
    obtain ⟨before, old, after, rfl, hold, hafter, kept⟩ := exists_keepLast_eq ha
    have others : (before.filter (!·.assigns key)).any (assigns key) = false := by
      simp [List.any_eq_false]
    rw [revise_of_any ha, kept, List.map_append, List.map_cons, map_revised_eq_self others,
      map_revised_eq_self hafter]
    exact .last hold hafter ((assigns_revised key key text old).trans hold)
  | false =>
    rw [revise_of_not_any ha]
    cases h with
    | deleted =>
      rw [Option.toList_none, List.map_nil, List.append_nil]
      exact .absent ha
    | @quoted v t => exact .added ha (assigns_stored key t)

/-! ### The line that is written -/

private theorem filter_rendered_eq (wf : ∀ r ∈ rs, r.WF) {line : Text}
    (each : ∀ r ∈ rs, r.assigns key = true →
      r.rendered.filter (fun l => (Record.ofLine l).assigns key) = [line]) :
    (rs.flatMap Record.rendered).filter (fun l => (Record.ofLine l).assigns key) =
      List.replicate (rs.countP (assigns key)) line := by
  induction rs with
  | nil => rfl
  | cons r rs ih =>
    obtain ⟨hr, later⟩ := List.forall_mem_cons.1 wf
    rw [List.flatMap_cons, List.filter_append, ih later fun s hs =>
      each s (List.mem_cons_of_mem r hs)]
    cases hk : r.assigns key with
    | true =>
      rw [each r List.mem_cons_self hk, List.countP_cons_of_pos hk, List.replicate_succ,
        List.singleton_append]
    | false =>
      have none : r.rendered.filter (fun l => (Record.ofLine l).assigns key) = [] := by
        refine List.filter_eq_nil_iff.2 fun l hl assigned => ?_
        rw [Record.assigns_of_mem_rendered hr hl assigned] at hk
        cases hk
      rw [none, List.nil_append, List.countP_cons_of_neg (by simp [hk])]

/-- A stored value is written as its key, `=` and the quoted text. -/
theorem rendered_stored {v t : Text} (quoted : Value.quote v = .ok t) :
    (stored key t).rendered = [key ++ "=" ++ t] := by
  have readable : Value.isReadable t = true := by
    rw [Value.isReadable, Value.unquote_quote quoted]
  rw [stored, Record.rendered]
  simp only [if_pos readable, Assignment.line, List.append_assoc]
  rfl

/-- After a value was stored, one line is written for its key. -/
theorem filter_rendered_set_some {v t : Text} (wf : ∀ r ∈ (d.set key (some v)).1.records, r.WF)
    (valid : Key.isValid key = true) (quoted : Value.quote v = .ok t) :
    (d.set key (some v)).1.rendered.filter (fun l => (Record.ofLine l).assigns key) =
      [key ++ "=" ++ t] := by
  have records : (d.set key (some v)).1.records = storeText key t (keepLast key d.records) :=
    records_set_some valid quoted
  have once : (d.set key (some v)).1.records.countP (assigns key) = 1 := by
    apply Nat.le_antisymm (countP_set d valid (some v))
    rw [records]
    exact List.countP_pos_iff.2 ⟨_, stored_mem_storeText key t _, assigns_stored key t⟩
  rw [rendered, filter_rendered_eq wf fun r hr hk => ?_, once, List.replicate_one]
  rw [records] at hr
  rw [eq_stored_of_mem_storeText hr hk, rendered_stored quoted]
  have read : Record.ofLine (key ++ "=" ++ t) = stored key t := by
    have line : key ++ ("=" : Text) ++ t = [] ++ key ++ CodePoint.ofChar '=' :: t :=
      List.append_assoc key _ t
    rw [line, Record.ofLine_append (by simp) valid]
    rfl
  exact List.filter_cons_of_pos (by rw [read, assigns_stored])

/-- After a value was deleted, no line is written for its key. -/
theorem assigns_rendered_unset (wf : ∀ r ∈ (d.unset key).1.records, r.WF)
    (valid : Key.isValid key = true) {l : Text} (hl : l ∈ (d.unset key).1.rendered) :
    (Record.ofLine l).assigns key = false := by
  obtain ⟨r, hr, hl⟩ := List.mem_flatMap.1 hl
  cases assigned : (Record.ofLine l).assigns key with
  | false => rfl
  | true =>
    have hk := Record.assigns_of_mem_rendered (wf r hr) hl assigned
    cases r with
    | raw text => cases hk
    | assignment a =>
      rw [records_unset valid] at hr
      have gone := value_eq_none_of_mem_deleteValue hr (beq_iff_eq.1 hk)
      rw [Record.rendered, gone] at hl
      cases hl

/-! ### All of it -/

/-- What an accepted update of a key does with a document. -/
structure Accepted (d : Document) (key : Text) (value : Option Text) (d' : Document) : Prop where
  once : d'.records.countP (assigns key) ≤ 1
  placed : Placed key value d.records d'.records
  others : d'.records.filter (!·.assigns key) = d.records.filter (!·.assigns key)
  deleted : value = none →
    d'.text? key = .ok none ∧ ∀ l ∈ d'.rendered, (Record.ofLine l).assigns key = false
  /-- The value is found as it is read from its bytes, and is written as the line that the editor
  shows for it. -/
  stored : ∀ v, value = some v → ∃ bytes text,
    v.encode = .ok bytes ∧ d'.value? key = .ok (some (Text.ofBytes bytes)) ∧
      Value.quote v = .ok text ∧ Dialog.preview key v = key ++ "=" ++ text ∧
      d'.rendered.filter (fun l => (Record.ofLine l).assigns key) = [key ++ "=" ++ text]
  elsewhere : ∀ other, other ≠ key → d'.text? other = d.text? other
  modified : d'.modified = (d.modified || d'.records != d.records)

/-- An accepted update of well-formed records does that. -/
theorem accepted_set (well : WellFormed d.records) (h : (d.set key value).2 = .ok ()) :
    d.Accepted key value (d.set key value).1 := by
  obtain ⟨valid, text, hs⟩ := set_eq_ok_iff.1 h
  have wf := (wellFormed_set well key value).wf
  refine ⟨countP_set d valid value, ?_, ?_, ?_, ?_, ?_, ?_⟩
  · rw [records_set_of_storedAs valid hs]
    exact placed_revise hs d.records
  · exact filter_set (fun r hr => by rw [hr, Bool.not_true]) d value
  · rintro rfl
    refine ⟨?_, fun l hl => assigns_rendered_unset wf valid hl⟩
    have gone : (d.set key none).1.stored? key = none := stored?_unset valid
    rw [text?, gone, Key.check, if_pos valid]
    rfl
  · rintro v rfl
    cases hs with
    | @quoted _ t quoted =>
      refine ⟨v.toBytes, t, Text.encode_eq_ok (Value.toBytes_quote quoted).1, ?_, quoted, ?_,
        filter_rendered_set_some wf valid quoted⟩
      · exact value?_set_some valid quoted
      · rw [Dialog.preview, quoted]
        rfl
  · intro other hne
    rw [text?, text?, stored?_set_of_ne d hne]
  · rw [Bool.eq_iff_iff, modified_set_iff, Bool.or_eq_true, bne_iff_ne]

end Document

/-- Whatever was done with a document that was read from a file, an update that is accepted does
that and nothing else. -/
theorem History.accepted_update (fileName : Text) (bytes : Bytes) (operations : List Operation)
    {key : Text} {value : Option Text}
    (h : (((load fileName bytes).run operations).document.set key value).2 = .ok ()) :
    let d := ((load fileName bytes).run operations).document
    d.Accepted key value (d.set key value).1 :=
  Document.accepted_set (wellFormed_run fileName bytes operations).1 h

/-- An indented key that is assigned twice, stored after another one was deleted. -/
theorem History.accepted_update_indented :
    let bytes := ("A=1\nB=2\n\tA='x\n#A=3\nC=4" : Text).toBytes
    let d := ((load "f" bytes).run [.unset "B"]).document
    let d' := (d.set "A" (some "x y")).1
    d'.rendered.filter (fun l => (Record.ofLine l).assigns "A") = ["A=\"x y\""] ∧
      d'.text? "C" = .ok (some "4") ∧ d'.modified = true := by
  intro bytes d d'
  have returns : (d.set "A" (some "x y")).2 = .ok () := by decide +kernel
  have accepted := accepted_update "f" bytes [.unset "B"] returns
  obtain ⟨_, t, -, -, quoted, -, line⟩ := accepted.stored "x y" rfl
  have text : Value.quote "x y" = .ok "\"x y\"" := by decide +kernel
  rw [text, Except.ok.injEq] at quoted
  refine ⟨?_, ?_, ?_⟩
  · rw [line, ← quoted]
    decide +kernel
  · exact (accepted.elsewhere "C" (by decide)).trans (by decide +kernel)
  · exact accepted.modified.trans (by decide +kernel)

end VarFile
