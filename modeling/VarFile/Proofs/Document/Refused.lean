import VarFile.Proofs.Document.Lookup
import VarFile.Proofs.Document.Update
import VarFile.Proofs.Value.Quoting
import VarFile.Provider

/-!
# Updates that are refused

A key that is none is refused before anything is changed. A value without a stored form is refused
after the assignments of its key that did not count were dropped, so that an update that fails can
still change the records and set the flag (`Document.not_unchanged_of_refused`). No look-up tells
the difference, and there is none unless the key is assigned more than once
(`Document.refused_update`).
-/

namespace VarFile

namespace Document

open Record (assigns)

variable {d : Document} {key : Text} {rs : List Record}

/-! ### Dropping what does not count -/

/-- Dropping what does not count leaves an assignment of every key that has one. -/
theorem any_keepLast (key other : Text) (rs : List Record) :
    (keepLast key rs).any (assigns other) = rs.any (assigns other) := by
  induction rs with
  | nil => rfl
  | cons r rs ih =>
    rw [keepLast_cons]
    split
    · next hr =>
      rw [Bool.and_eq_true] at hr
      rw [ih, List.any_cons]
      by_cases same : other = key
      · rw [same, hr.2, Bool.or_true]
      · rw [Record.assigns_eq_false_of_ne same hr.1, Bool.false_or]
    · rw [List.any_cons, List.any_cons, ih]

private theorem liveEntries_keepLast (key : Text) (rs : List Record) :
    liveEntries (keepLast key rs) = liveEntries rs := by
  induction rs with
  | nil => rfl
  | cons r rs ih =>
    rw [keepLast_cons]
    split
    · next hr =>
      rw [Bool.and_eq_true] at hr
      cases r with
      | raw text => rw [ih, liveEntries_cons_raw]
      | assignment a =>
        have later : rs.any (assigns a.key) = true := by
          rw [beq_iff_eq.1 hr.1]
          exact hr.2
        rw [ih, liveEntries_cons_assignment, if_pos later, List.nil_append]
    · cases r with
      | raw text => rw [liveEntries_cons_raw, liveEntries_cons_raw, ih]
      | assignment a =>
        rw [liveEntries_cons_assignment, liveEntries_cons_assignment, any_keepLast, ih]

/-- Nothing is dropped exactly if the key is not assigned more than once. -/
theorem keepLast_eq_self_iff : keepLast key rs = rs ↔ rs.countP (assigns key) ≤ 1 := by
  constructor
  · intro h
    rw [← h, countP_keepLast]
    split <;> omega
  · intro h
    induction rs with
    | nil => rfl
    | cons r rs ih =>
      have once : ¬ (r.assigns key && rs.any (assigns key)) = true := by
        rw [Bool.and_eq_true]
        rintro ⟨first, later⟩
        have more := List.countP_pos_iff.2 (List.any_eq_true.1 later)
        rw [List.countP_cons_of_pos first] at h
        omega
      rw [keepLast_cons, if_neg once, ih]
      exact Nat.le_trans ((List.sublist_cons_self r rs).countP_le) h

/-! ### What is refused -/

/-- A key that is none is refused, and so is a value without a stored form for a key that is one. -/
theorem set_eq_error_iff {value : Option Text} {cause : UpdateError} :
    (d.set key value).2 = .error cause ↔
      (Key.isValid key = false ∧ cause = .invalidKey ⟨key⟩) ∨
        (Key.isValid key = true ∧
          ∃ v u, value = some v ∧ Value.quote v = .error u ∧ cause = .unstorable u) := by
  obtain ⟨hk, he⟩ | ⟨hk, ⟨hv, he⟩ | ⟨v, u, hv, hq, he⟩ | ⟨v, text, hv, hq, he⟩⟩ :=
    set_cases d key value
  · rw [he]
    simp [hk, eq_comm]
  · rw [he]
    simp [hk, hv]
  · rw [he]
    simp [hk, hv, hq, eq_comm]
  · rw [he]
    simp [hk, hv, hq]

/-- What an update of a key that is refused leaves of a document. -/
structure Withstands (d : Document) (key : Text) (d' : Document) : Prop where
  entries : d'.entries = d.entries
  /-- Records that do not assign the key are there as they were. -/
  others : d'.records.filter (fun r => !r.assigns key) = d.records.filter fun r => !r.assigns key
  fileName : d'.fileName = d.fileName
  descriptor : d'.descriptor = d.descriptor
  same_iff : d' = d ↔ Key.isValid key = false ∨ d.records.countP (assigns key) ≤ 1
  modified : d' = d ∨ d'.modified = true

/-- An update that is refused leaves all look-ups and all other records as they were, and everything
unless its key is one and is assigned more than once. -/
theorem withstands_of_set {value : Option Text} {cause : UpdateError}
    (h : (d.set key value).2 = .error cause) : d.Withstands key (d.set key value).1 := by
  have others : (d.set key value).1.records.filter (fun r => !r.assigns key) =
      d.records.filter fun r => !r.assigns key :=
    filter_set (fun r hr => by rw [hr, Bool.not_true]) d value
  obtain ⟨hk, he⟩ | ⟨hk, ⟨-, he⟩ | ⟨v, u, -, -, he⟩ | ⟨v, text, -, -, he⟩⟩ := set_cases d key value
  · rw [he] at others ⊢
    exact ⟨rfl, others, rfl, rfl, ⟨fun _ => .inl hk, fun _ => rfl⟩, .inl rfl⟩
  · rw [he] at h
    cases h
  · rw [he] at others ⊢
    have entries := liveEntries_keepLast key d.records
    refine ⟨entries, others, rfl, rfl, ⟨fun same => .inr ?_, fun once => ?_⟩, ?_⟩
    · exact keepLast_eq_self_iff.1 (congrArg Document.records same)
    · have kept := keepLast_eq_self_iff.2 (once.resolve_left (by simp [hk]))
      simp [replaceRecords, kept]
    · by_cases kept : keepLast key d.records = d.records
      · exact .inl (by simp [replaceRecords, kept])
      · exact .inr (by simp [replaceRecords, kept])
  · rw [he] at h
    cases h

/-- A value that holds a surrogate which keeps no byte. -/
def HasLoneSurrogate (value : Option Text) : Prop :=
  ∃ v ∈ value, ∃ c ∈ v,
    (0xD800 ≤ c.val ∧ c.val ≤ 0xDFFF) ∧ ¬ (0xDC80 ≤ c.val ∧ c.val ≤ 0xDCFF)

/-- An update was refused for its key or for its value, and the document withstood it. -/
structure Refused (d : Document) (key : Text) (value : Option Text) (cause : UpdateError)
    (d' : Document) : Prop where
  cause : (Key.isValid key = false ∧ cause = .invalidKey ⟨key⟩) ∨
    (Key.isValid key = true ∧ HasLoneSurrogate value ∧ ∃ u, cause = .unstorable u)
  withstands : d.Withstands key d'

/-- What `set` leaves when it refuses an update. -/
theorem refused_set {value : Option Text} {cause : UpdateError}
    (h : (d.set key value).2 = .error cause) : d.Refused key value cause (d.set key value).1 where
  cause := by
    obtain bad | ⟨hk, v, u, hv, hq, hc⟩ := set_eq_error_iff.1 h
    · exact .inl bad
    · exact .inr ⟨hk, ⟨v, hv, Value.quote_eq_error_iff.1 ⟨u, hq⟩⟩, u, hc⟩
  withstands := withstands_of_set h

/-- However a value is stored, what is refused is refused for its key or its value. All look-ups and
all records that do not assign the key are as they were then, and so is the whole document unless
the key is one and is assigned more than once. -/
theorem refused_update (d : Document) (p : Provider) (key : Text) (cause : UpdateError) :
    (∀ value, (d.set key value).2 = .error cause →
      d.Refused key value cause (d.set key value).1) ∧
    (∀ value, (d.setNonempty key value).2 = .error cause →
      d.Refused key value cause (d.setNonempty key value).1) ∧
    (∀ value, (p.set key value).2 = .error cause →
      ∃ d', (p.set key value).1 = { p with document := d' } ∧
        p.document.Refused key (some value) cause d') := by
  refine ⟨fun value h => refused_set h, fun value h => ?_, fun value h => ?_⟩
  · have refused : d.Refused key (value.filter (!·.isEmpty)) cause (d.setNonempty key value).1 :=
      refused_set h
    refine ⟨refused.cause.imp_right fun ⟨hk, ⟨v, hv, lone⟩, hc⟩ => ?_, refused.withstands⟩
    exact ⟨hk, ⟨v, (Option.filter_eq_some_iff.1 hv).1, lone⟩, hc⟩
  · exact ⟨_, rfl, refused_set h⟩

/-- A key with a deleted and an indented assignment, between which others stand, and a value with a
surrogate that no text of a file holds. -/
theorem refused_update_indented :
    let d : Document := ⟨"f", [.assignment ⟨"A", "A", none⟩, .raw "# A", Record.ofLine "\tA=1",
      Record.ofLine "B=2"], false, none⟩
    let v : Text := [.ofChar 'x', .ofNat 0xD800]
    let p : Provider := { path := "f", document := d }
    ((d.set "A" (some v)).1.entries = d.entries ∧ (d.set "A" (some v)).1 ≠ d) ∧
      (d.setNonempty "B" (some v)).1 = d ∧ (p.set "1A" v).1 = p := by
  intro d v p
  have atValue := refused_update d p "A" (.unstorable ⟨1, .ofNat 0xD800⟩)
  have atOnce := refused_update d p "B" (.unstorable ⟨1, .ofNat 0xD800⟩)
  have atKey := refused_update d p "1A" (.invalidKey ⟨"1A"⟩)
  have refused := (atValue.1 (some v) (by decide +kernel)).withstands
  have alone := (atOnce.2.1 (some v) (by decide +kernel)).withstands
  obtain ⟨d', provided, invalid⟩ := atKey.2.2 v (by decide +kernel)
  refine ⟨⟨refused.entries, fun same => ?_⟩, alone.same_iff.2 (.inr (by decide +kernel)), ?_⟩
  · exact absurd (refused.same_iff.1 same) (by decide +kernel)
  · rw [provided, invalid.withstands.same_iff.2 (.inl (by decide +kernel))]

/-- A value that is refused can cost the document a line, and mark it as changed. -/
theorem not_unchanged_of_refused :
    ¬ ∀ (d : Document) (key : Text) (value : Option Text) (cause : UpdateError),
      (d.set key value).2 = .error cause →
        (d.set key value).1.records = d.records ∧ (d.set key value).1.modified = d.modified := by
  intro h
  have changed := h ⟨"f", [Record.ofLine "A=1", Record.ofLine "A=2"], false, none⟩ "A"
    (some [.ofNat 0xD800]) (.unstorable ⟨0, .ofNat 0xD800⟩) (by decide +kernel)
  exact absurd changed (by decide +kernel)

end Document

end VarFile
