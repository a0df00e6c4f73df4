import VarFile.Proofs.Rendering.Untouched

/-!
# Files that are rewritten as they were

A document that was read is written line by line, and no line gets shorter. So it gives back the
bytes of its file, with a newline at their end, exactly if it lists no line that would be kept as a
comment (`Document.neutralized_eq_nil_iff`).
-/

namespace VarFile

/-! ### The end of a file -/

namespace Bytes

/-- The content of a file with a newline at its end, unless it is empty. -/
def terminated (bytes : Bytes) : Bytes :=
  if bytes = [] ∨ bytes.getLast? = some newline then bytes else bytes ++ [newline]

private theorem terminated_append_cons (l rest : Bytes) :
    terminated (l ++ newline :: rest) = l ++ newline :: terminated rest := by
  have last : (l ++ newline :: rest).getLast? = some newline ↔
      rest = [] ∨ rest.getLast? = some newline := by
    cases rest with
    | nil => simp
    | cons b rest => simp
  unfold terminated
  by_cases h : rest = [] ∨ rest.getLast? = some newline
  · rw [if_pos (.inr (last.2 h)), if_pos h]
  · have nonempty : l ++ newline :: rest ≠ [] := by simp
    rw [if_neg (not_or.2 ⟨nonempty, mt last.1 h⟩), if_neg h, List.append_assoc, List.cons_append]

private theorem terminated_eq_flatMap (bytes : Bytes) :
    bytes.terminated = bytes.lines.flatMap (· ++ [newline]) := by
  induction bytes using Lines.split_induction (· == newline) with
  | last bytes noEnd =>
    by_cases empty : bytes = []
    · rw [empty]
      rfl
    · have missing : ¬ (bytes = [] ∨ bytes.getLast? = some newline) := by
        rintro (nothing | last)
        · exact empty nothing
        · have := noEnd _ (List.mem_of_getLast? last)
          simp at this
      rw [terminated, if_neg missing, lines, Lines.split_of_not_isEnd empty noEnd,
        List.flatMap_singleton]
  | step l b rest noEnd ends ih =>
    rw [beq_iff_eq] at ends
    subst ends
    rw [terminated_append_cons, ih, lines_append_cons noEnd, List.flatMap_cons, List.append_assoc]
    rfl

private theorem length_lt_neutralized (line : Bytes) :
    line.length + 1 < line.neutralized.length := by
  have marker : Record.marker.toBytes.length = 5 := by decide
  rw [neutralized]
  split
  · simp only [List.length_append, marker, List.length_singleton]
    omega
  · simp only [List.length_append, marker, List.length_singleton]
    omega

end Bytes

namespace Document

/-! ### Line by line -/

section Pieces

variable {α β : Type} {f g : α → List β} (le : ∀ x, (g x).length ≤ (f x).length)
include le

private theorem length_flatMap_le (xs : List α) :
    (xs.flatMap g).length ≤ (xs.flatMap f).length := by
  induction xs with
  | nil => exact Nat.le_refl 0
  | cons x xs ih =>
    rw [List.flatMap_cons, List.flatMap_cons, List.length_append, List.length_append]
    exact Nat.add_le_add (le x) ih

private theorem flatMap_eq_flatMap_iff {xs : List α} :
    xs.flatMap f = xs.flatMap g ↔ ∀ x ∈ xs, f x = g x := by
  refine ⟨fun same => ?_, List.flatMap_congr⟩
  induction xs with
  | nil => simp
  | cons x xs ih =>
    rw [List.flatMap_cons, List.flatMap_cons] at same
    have total := congrArg List.length same
    rw [List.length_append, List.length_append] at total
    have here : (f x).length = (g x).length := by
      have first := le x
      have rest := length_flatMap_le le xs
      omega
    obtain ⟨first, later⟩ := List.append_inj same here
    exact List.forall_mem_cons.2 ⟨first, ih later⟩

end Pieces

variable {d : Document} {line : Bytes}

private theorem length_le_keptLine (d : Document) (line : Bytes) :
    (line ++ [newline]).length ≤ (d.keptLine line).length := by
  rw [keptLine, List.length_append, List.length_singleton]
  split
  · exact Nat.le_of_lt (Bytes.length_lt_neutralized line)
  · rw [List.length_append, List.length_singleton]

/-- A line is written as it is exactly if the document does not list it. -/
theorem keptLine_eq_iff :
    d.keptLine line = line ++ [newline] ↔ d.neutralized.contains (Text.ofBytes line) = false := by
  rw [keptLine]
  split
  · next listed =>
    rw [listed]
    refine iff_of_false (fun same => ?_) (by decide)
    have longer := Bytes.length_lt_neutralized line
    rw [same, List.length_append, List.length_singleton] at longer
    exact Nat.lt_irrefl _ longer
  · next free =>
    exact iff_of_true rfl (Bool.eq_false_iff.2 free)

variable (fileName : Text) (data : Bytes)

/-- A document that was read is written line by line. -/
theorem content_ofContent_eq_flatMap :
    (ofContent fileName data).content =
      .ok (data.lines.flatMap (ofContent fileName data).keptLine) := by
  have wf : ∀ r ∈ (ofContent fileName data).records, r.WF := (wellFormed_ofBytes data).wf
  have records : (ofContent fileName data).records = data.lines.map Bytes.record :=
    Record.ofBytes_eq_map data
  rw [content_eq_written wf, Except.ok.injEq, records, List.flatMap_map]
  refine List.flatMap_congr fun line hl => written_record wf ?_
  rw [records]
  exact List.mem_map_of_mem hl

/-- A document lists nothing exactly if it lists none of the lines that it was read from. -/
theorem neutralized_eq_nil_iff_forall :
    (ofContent fileName data).neutralized = [] ↔
      ∀ line ∈ data.lines,
        (ofContent fileName data).neutralized.contains (Text.ofBytes line) = false := by
  have wf : ∀ r ∈ (ofContent fileName data).records, r.WF := (wellFormed_ofBytes data).wf
  have records : (ofContent fileName data).records = data.lines.map Bytes.record :=
    Record.ofBytes_eq_map data
  have nothing : (ofContent fileName data).neutralized = [] ↔
      ∀ line ∈ data.lines, (Bytes.record line).neutralized? = none := by
    rw [neutralized, List.filterMap_eq_nil_iff, records, List.forall_mem_map]
  rw [nothing]
  refine forall₂_congr fun line hl => ?_
  have there : Record.ofLine (Text.ofBytes line) ∈ (ofContent fileName data).records := by
    rw [records]
    exact List.mem_map_of_mem hl
  rw [contains_neutralized wf there, Option.isSome_eq_false_iff, Option.isNone_iff_eq_none]
  rfl

/-- The bytes of a file are given back, with a newline at their end, exactly if no line of it would
be kept as a comment. -/
theorem neutralized_eq_nil_iff :
    (ofContent fileName data).neutralized = [] ↔
      (ofContent fileName data).content = .ok data.terminated := by
  rw [content_ofContent_eq_flatMap, Except.ok.injEq, Bytes.terminated_eq_flatMap,
    flatMap_eq_flatMap_iff (length_le_keptLine _), neutralized_eq_nil_iff_forall]
  exact forall₂_congr fun line _ => keptLine_eq_iff.symm

end Document

end VarFile
