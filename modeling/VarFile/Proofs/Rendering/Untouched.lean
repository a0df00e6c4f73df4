import VarFile.Proofs.Rendering.Reread

/-!
# Lines that are left alone

Operations on some keys leave the records that assign none of these as they were read
(`History.filter_run`). Their lines are written byte for byte as they stood in the file, each with a
newline at its end, or as comments if the document says so (`History.untouched_lines`).
-/

namespace VarFile

namespace Record

/-- Whether a record assigns none of some keys. -/
def avoids (keys : Text → Bool) : Record → Bool
  | .raw _ => true
  | .assignment a => !keys a.key

/-- A record that assigns one of the keys does not avoid them. -/
theorem avoids_eq_false {keys : Text → Bool} {key : Text} (hk : keys key = true) {r : Record}
    (h : r.assigns key = true) : r.avoids keys = false := by
  cases r with
  | raw text => cases h
  | assignment a => rw [avoids, beq_iff_eq.1 h, hk, Bool.not_true]

/-- The bytes that a record is written as: its lines, each with a newline at its end. -/
def written (r : Record) : Bytes := (Document.joinLines r.rendered).toBytes

end Record

/-- The record of a line of bytes. -/
def Bytes.record (line : Bytes) : Record := Record.ofLine (Text.ofBytes line)

/-- The records of a file are those of its lines. -/
theorem Record.ofBytes_eq_map (bytes : Bytes) :
    Record.ofBytes bytes = bytes.lines.map Bytes.record := by
  rw [Record.ofBytes, Text.lines_ofBytes, List.map_map]
  rfl

/-- A line of bytes as it is written if it is kept as a comment: behind the marker, and after its
key with an empty value if it assigns one. -/
def Bytes.neutralized (line : Bytes) : Bytes :=
  match Bytes.record line with
  | .raw _ => Record.marker.toBytes ++ line ++ [newline]
  | .assignment a =>
    a.key.toBytes ++ [0x3D, newline] ++ (Record.marker.toBytes ++ line ++ [newline])

namespace Document

/-- A line of bytes as it is written with a document: as it is, or as a comment if the document
lists it. -/
def keptLine (d : Document) (line : Bytes) : Bytes :=
  if d.neutralized.contains (Text.ofBytes line) then Bytes.neutralized line
  else line ++ [newline]

/-- The content of a document is what its records are written as. -/
theorem content_eq_written {d : Document} (h : ∀ r ∈ d.records, r.WF) :
    d.content = .ok (d.records.flatMap Record.written) := by
  rw [content_eq_ok h, Text.toBytes_joinLines, rendered, List.flatMap_assoc]
  congr 1
  refine List.flatMap_congr fun r _ => ?_
  rw [Record.written, Text.toBytes_joinLines]

/-- A document lists a line exactly if the record of the line would be kept as a comment. -/
theorem contains_neutralized {d : Document} (h : ∀ r ∈ d.records, r.WF) {line : Text}
    (hm : Record.ofLine line ∈ d.records) :
    d.neutralized.contains line = (Record.ofLine line).neutralized?.isSome := by
  rw [Bool.eq_iff_iff, List.contains_iff_mem, neutralized, List.mem_filterMap]
  constructor
  · rintro ⟨r, hr, hn⟩
    rw [Record.ofLine_of_line? (h r hr) (Record.rendered_of_neutralized?_eq_some hn).1, hn,
      Option.isSome_some]
  · intro hs
    obtain ⟨t, ht⟩ := Option.isSome_iff_exists.1 hs
    have same := (Record.rendered_of_neutralized?_eq_some ht).1
    rw [Record.line?_ofLine] at same
    exact ⟨_, hm, by rw [ht, same]⟩

/-- A record that was read is written as its line, or as the comment for it. -/
theorem written_record {d : Document} (h : ∀ r ∈ d.records, r.WF) {line : Bytes}
    (hm : line.record ∈ d.records) : line.record.written = d.keptLine line := by
  have bytes : (Text.ofBytes line).toBytes = line := Text.toBytes_ofBytes line
  have hl : line.record.line? = some (Text.ofBytes line) := Record.line?_ofLine _
  rw [keptLine, contains_neutralized h hm, Record.written, Text.toBytes_joinLines]
  change _ = if line.record.neutralized?.isSome then _ else _
  cases hn : line.record.neutralized? with
  | none =>
    rw [Record.rendered_of_neutralized?_eq_none hn, hl, Option.toList_some, List.flatMap_singleton,
      bytes]
    rfl
  | some t =>
    obtain ⟨ht, hr⟩ := Record.rendered_of_neutralized?_eq_some hn
    rw [hl, Option.some.injEq] at ht
    rw [hr, ← ht, Option.isSome_some, if_pos rfl, List.flatMap_append, List.flatMap_singleton,
      Text.toBytes_append, bytes, Bytes.neutralized]
    cases line.record with
    | raw text => rfl
    | assignment a =>
      rw [Record.emptied, List.flatMap_singleton, Text.toBytes_append]
      simp only [List.append_assoc]
      rfl

end Document

namespace History

variable {keys : Text → Bool} {operations : List Operation}

/-- Operations on some keys leave the records that avoid these as they were read. -/
theorem filter_run (h : ∀ op ∈ operations, ∀ key, op.key? = some key → keys key = true)
    (fileName : Text) (bytes : Bytes) :
    ((History.load fileName bytes).run operations).document.records.filter (Record.avoids keys) =
      (Record.ofBytes bytes).filter (Record.avoids keys) := by
  have keeps : ((History.load fileName bytes).run operations).Keeps fun rs =>
      rs.filter (Record.avoids keys) = (Record.ofBytes bytes).filter (Record.avoids keys) := by
    refine keeps_run (fun op ho d key value hk hd => ?_) ⟨rfl, by simp [load]⟩
    rw [Document.filter_set (fun r => Record.avoids_eq_false (h op ho key hk)), hd]
  exact keeps.1

/-- Operations on some keys write the lines that assign none of these byte for byte as they stood in
the file, in their order and each with a newline at its end, but for those that the document lists:
these are kept as comments. -/
theorem untouched_lines (h : ∀ op ∈ operations, ∀ key, op.key? = some key → keys key = true)
    (fileName : Text) (bytes : Bytes) :
    let d := ((History.load fileName bytes).run operations).document
    d.content = .ok (d.records.flatMap Record.written) ∧
      d.records.filter (Record.avoids keys) =
        (bytes.lines.filter (·.record.avoids keys)).map Bytes.record ∧
      (d.records.filter (Record.avoids keys)).flatMap Record.written =
        (bytes.lines.filter (·.record.avoids keys)).flatMap d.keptLine := by
  intro d
  have wf := (wellFormed_run fileName bytes operations).1.wf
  have untouched : d.records.filter (Record.avoids keys) =
      (bytes.lines.filter (·.record.avoids keys)).map Bytes.record := by
    rw [filter_run h, Record.ofBytes_eq_map, List.filter_map]
    rfl
  refine ⟨Document.content_eq_written wf, untouched, ?_⟩
  rw [untouched, List.flatMap_map]
  refine List.flatMap_congr fun line hl => Document.written_record wf ?_
  have : line.record ∈ d.records.filter (Record.avoids keys) := by
    rw [untouched]
    exact List.mem_map_of_mem hl
  exact List.mem_of_mem_filter this

/-- Lines with a carriage return, a byte that is no UTF-8, duplicates and a text that stands for no
value, around a key that is set, deleted and put back. -/
theorem untouched_lines_ofInvalidUtf8 :
    let bytes := ("# c\r\n\tA=1\n B=(x\nA=2\nfoo\n\tC=3\nC=4\n" : Text).toBytes ++ [0xFF]
    let operations := [.set "A" (some "x y"), .checkpoint, .unset "A", .restore 0]
    let keys : Text → Bool := (· == "A")
    (((History.load [] bytes).run operations).document.records.filter
        (Record.avoids keys)).flatMap Record.written =
      ("# c\r\nB=\n#NM:  B=(x\n#NM: foo\n\tC=3\nC=4\n#NM: " : Text).toBytes ++ [0xFF, newline] := by
  intro bytes operations keys
  have h : ∀ op ∈ operations, ∀ key, op.key? = some key → keys key = true := by
    simp [operations, Operation.key?, keys]
  refine (untouched_lines h [] bytes).2.2.trans ?_
  decide +kernel

end History

end VarFile
