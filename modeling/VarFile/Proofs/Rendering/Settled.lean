import VarFile.Proofs.Document.Update
import VarFile.Proofs.Record.Line
import VarFile.Proofs.Value.Quoting
import VarFile.Rendering

/-!
# Written lines

Every line that a record is written as is a line of a file. `Record.settled` is what these lines are
read as (`Record.map_ofLine_rendered`), and none of it is kept as a comment once more
(`Record.neutralized?_of_mem_settled`).
-/

namespace VarFile

namespace Record

open Document (stored)

/-! ### Comments -/

private theorem isAscii_of_mem_marker : ∀ c ∈ marker, c.IsAscii ∧ c ≠ CodePoint.ofChar '\n' := by
  intro c hc
  rw [marker, Text.ofChars, List.mem_map] at hc
  obtain ⟨d, hd, rfl⟩ := hc
  simp only [List.mem_cons, List.not_mem_nil, or_false] at hd
  rcases hd with rfl | rfl | rfl | rfl | rfl <;> exact ⟨by decide, by decide⟩

/-- What stands behind the marker is a comment. -/
theorem isInert_marker (t : Text) : isInert (marker ++ t) = true := rfl

/-- Blanks make an inert line, with or without a comment after them. -/
theorem isInert_iff {text : Text} :
    isInert text = true ↔ ∃ indent rest : Text, (∀ c ∈ indent, c.isBlank = true) ∧
      text = indent ++ rest ∧ (rest = [] ∨ ∃ comment, rest = CodePoint.ofChar '#' :: comment) := by
  constructor
  · intro h
    refine ⟨text.takeWhile CodePoint.isBlank, text.dropWhile CodePoint.isBlank,
      fun c hc => List.mem_takeWhile_imp hc, List.takeWhile_append_dropWhile.symm, ?_⟩
    rw [isInert] at h
    split at h
    · next hd => exact .inl hd
    · next c comment hd => exact .inr ⟨comment, by rw [hd, of_decide_eq_true h]⟩
  · rintro ⟨indent, rest, hi, rfl, rfl | ⟨comment, rfl⟩⟩
    · rw [isInert, List.dropWhile_append_of_pos hi]
      rfl
    · rw [isInert, List.dropWhile_append_of_pos hi]
      rfl

private theorem isInert_reread {text : Text} (h : isInert text = true) :
    isInert text.reread = true := by
  obtain ⟨indent, rest, hi, rfl, hr⟩ := isInert_iff.1 h
  have ascii : ∀ c ∈ indent, c.IsAscii := fun c hc => CodePoint.isAscii_of_isBlank (hi c hc)
  refine isInert_iff.2 ⟨indent, rest.reread, hi, Text.reread_append_of_isAscii ascii rest, ?_⟩
  obtain rfl | ⟨comment, rfl⟩ := hr
  · exact .inl rfl
  · have sharp := Text.reread_append_cons (c := CodePoint.ofChar '#')
      (by decide) [] comment
    exact .inr ⟨Text.reread comment, sharp⟩

/-! ### The lines of a record -/

/-- A record that is not kept as a comment is written as its line. -/
theorem rendered_of_neutralized?_eq_none {r : Record} (h : r.neutralized? = none) :
    r.rendered = r.line?.toList := by
  cases r with
  | raw text =>
    rw [neutralized?] at h
    split at h
    · next hi => rw [rendered, if_pos hi, line?, Option.toList_some]
    · cases h
  | assignment a =>
    rw [rendered, line?]
    rw [neutralized?] at h
    cases hv : a.value with
    | none => rfl
    | some text =>
      simp only [hv] at h
      split at h
      · next hr => simp only [if_pos hr, Option.map_some, Option.toList_some]
      · cases h

/-- What is left of a record before its line that is kept as a comment: the key of an assignment,
with an empty value. -/
def emptied : Record → List Text
  | .raw _ => []
  | .assignment a => [a.key ++ [CodePoint.ofChar '=']]

/-- What would be kept as a comment is the line of a record, and it is written behind the marker. -/
theorem rendered_of_neutralized?_eq_some {r : Record} {t : Text} (h : r.neutralized? = some t) :
    r.line? = some t ∧ r.rendered = r.emptied ++ [marker ++ t] := by
  cases r with
  | raw text =>
    rw [neutralized?] at h
    split at h
    · cases h
    · next hi =>
      rw [← Option.some.inj h]
      exact ⟨rfl, by rw [rendered, if_neg hi]; rfl⟩
  | assignment a =>
    rw [rendered, line?]
    rw [neutralized?] at h
    cases hv : a.value with
    | none => simp only [hv] at h; cases h
    | some text =>
      simp only [hv] at h
      split at h
      · cases h
      · next hr =>
        rw [← Option.some.inj h]
        exact ⟨rfl, if_neg hr⟩

/-- The comments that a record's line is turned into: lines behind the marker that the record did
not stand for. -/
def commented (r : Record) : List Text :=
  r.rendered.filter fun l => marker.isPrefixOf l && r.line? != some l

/-- A line is turned into a comment exactly if it would be kept as one. -/
theorem commented_eq {r : Record} (h : r.WF) :
    r.commented = (r.neutralized?.map (marker ++ ·)).toList := by
  cases hn : r.neutralized? with
  | none =>
    rw [commented, rendered_of_neutralized?_eq_none hn]
    cases r.line? with
    | none => rfl
    | some l => simp
  | some t =>
    obtain ⟨hl, hr⟩ := rendered_of_neutralized?_eq_some hn
    have changed : some t ≠ some (marker ++ t) := by
      intro he
      have := congrArg List.length (Option.some.inj he)
      rw [List.length_append, show marker.length = 5 from rfl] at this
      omega
    -- No key starts with the marker.
    have key : r.emptied.filter (fun l => marker.isPrefixOf l && some t != some l) = [] := by
      cases r with
      | raw text => rfl
      | assignment a =>
        obtain ⟨⟨c, rest, hk, hc⟩, -⟩ := Key.isValid_iff.1 h.key
        have sharp : CodePoint.ofChar '#' ≠ c := by
          rintro rfl
          exact absurd hc (by decide)
        rw [emptied, hk, List.cons_append]
        simp [marker, Text.ofChars, sharp]
    rw [commented, hr, hl, List.filter_append, key]
    simp [changed]

private theorem isLine_of_line? {r : Record} (h : r.WF) {line : Text} (hl : r.line? = some line) :
    line.IsLine := by
  cases r with
  | raw text =>
    rw [← Option.some.inj hl]
    exact h.2
  | assignment a =>
    obtain ⟨text, hv, rfl⟩ := Option.map_eq_some_iff.1 hl
    exact h.isLine_line (h.textLine text hv)

/-- A key with an empty value is the line of a stored assignment. -/
theorem wf_stored_nil {key : Text} (h : Key.isValid key = true) : (stored key []).WF :=
  ⟨h, ⟨[], by simp, rfl⟩, Key.isLine_of_isValid h, fun text ht => by
    rw [← Option.some.inj ht]
    exact Text.isLine_of_isAscii (by simp)⟩

/-- Every line that a well-formed record is written as is a line of a file. -/
theorem isLine_of_mem_rendered {r : Record} (h : r.WF) {l : Text} (hl : l ∈ r.rendered) :
    l.IsLine := by
  cases hn : r.neutralized? with
  | none =>
    rw [rendered_of_neutralized?_eq_none hn, Option.mem_toList] at hl
    exact isLine_of_line? h hl
  | some t =>
    obtain ⟨ht, hr⟩ := rendered_of_neutralized?_eq_some hn
    rw [hr, List.mem_append, List.mem_singleton] at hl
    obtain hl | rfl := hl
    · cases r with
      | raw text => cases hl
      | assignment a =>
        rw [emptied, List.mem_singleton] at hl
        rw [hl]
        exact isLine_of_line? (wf_stored_nil h.key) rfl
    · exact (Text.isLine_of_isAscii isAscii_of_mem_marker).append (isLine_of_line? h ht)

/-! ### Reading the lines again -/

private theorem reread_line {a : Assignment} (h : a.WF) (text : Text) :
    (a.line text).reread = a.line text.reread := by
  rw [Assignment.line, Text.reread_append_cons (by decide),
    Text.reread_eq_self h.isAscii_lead, Assignment.line]

/-- The line of a well-formed assignment with any text is an assignment with that text. -/
theorem ofLine_line {a : Assignment} (h : a.WF) (text : Text) :
    ofLine (a.line text) = .assignment { a with value := some text } := by
  obtain ⟨indent, hi, hl⟩ := h.lead
  rw [Assignment.line, hl, ofLine_append hi h.key]

/-- What a record is read as after it was written. -/
def settled : Record → List Record
  | .raw text => [.raw (if isInert text then text.reread else marker ++ text.reread)]
  | .assignment a =>
    match a.value with
    | none => []
    | some text =>
      if Value.isReadable text then [.assignment { a with value := some text.reread }]
      else [stored a.key [], .raw (marker ++ (a.line text).reread)]

/-- The lines of a well-formed record are read as its settled records. -/
theorem map_ofLine_rendered {r : Record} (h : r.WF) :
    r.rendered.map (fun l => ofLine l.reread) = r.settled := by
  have comment (t : Text) : ofLine (marker ++ t).reread = .raw (marker ++ t.reread) := by
    rw [Text.reread_append_of_isAscii fun c hc => (isAscii_of_mem_marker c hc).1,
      ofLine_of_isInert (isInert_marker _)]
  cases r with
  | raw text =>
    rw [rendered, settled]
    split
    · next hi => rw [List.map_singleton, ofLine_of_isInert (isInert_reread hi)]
    · rw [List.map_singleton, comment]
  | assignment a =>
    rw [rendered, settled]
    cases hv : a.value with
    | none => rfl
    | some text =>
      simp only
      split
      · rw [List.map_singleton, reread_line h, ofLine_line h]
      · have empty := wf_stored_nil h.key
        rw [List.map_cons, List.map_singleton, comment]
        change [ofLine (Assignment.line ⟨a.key, a.key, some []⟩ []).reread, _] = _
        rw [reread_line empty, ofLine_line empty, Text.reread_nil, stored]

private theorem isReadable_reread {t : Text} (h : t.IsStorable) :
    Value.isReadable t.reread = Value.isReadable t := by
  rw [Value.isReadable, Value.isReadable, Value.unquote_reread h]

/-- No settled record is kept as a comment: blanks and comments stay what they are, and so do
texts that stand for a value. -/
theorem neutralized?_of_mem_settled {r s : Record} (h : r.WF) (hs : s ∈ r.settled) :
    s.neutralized? = none := by
  have inert {t : Text} (ht : isInert t = true) : (raw t).neutralized? = none := if_pos ht
  cases r with
  | raw text =>
    rw [settled, List.mem_singleton] at hs
    rw [hs]
    split
    · next hi => exact inert (isInert_reread hi)
    · exact inert (isInert_marker _)
  | assignment a =>
    rw [settled] at hs
    cases hv : a.value with
    | none => simp only [hv] at hs; cases hs
    | some text =>
      simp only [hv] at hs
      split at hs
      · next hr =>
        rw [List.mem_singleton.1 hs]
        exact if_pos ((isReadable_reread (h.textLine text hv).storable).trans hr)
      · rw [List.mem_cons, List.mem_singleton] at hs
        obtain rfl | rfl := hs
        · exact if_pos (by rw [Value.isReadable, Value.unquote_nil])
        · exact inert (isInert_marker _)

end Record

end VarFile
