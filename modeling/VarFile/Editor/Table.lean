import VarFile.Text.Cells
import VarFile.Variable

/-!
# The table of variables

The variables that are shown, one a row, with a cursor on one of the rows. `Table.load` shows other
variables and keeps the cursor on its key if that is still shown.
-/

namespace VarFile

/-- Variables in rows, with a cursor. Specification, section 14. -/
structure Table where
  rows : List Variable := []
  /-- The row of the cursor, from zero; it means nothing without rows. -/
  cursor : Nat := 0
  deriving DecidableEq

namespace Table

/-- The variable under the cursor. -/
def highlighted? (t : Table) : Option Variable := t.rows[t.cursor]?

/-- The row of a key, or the first one. -/
def rowOf (rows : List Variable) (key : Text) : Nat := (rows.findIdx? (·.key = key)).getD 0

/-- Shows other variables, with the cursor on the same key if possible and else on the first row. -/
def load (t : Table) (rows : List Variable) : Table :=
  { rows, cursor := (t.highlighted?.map fun v => rowOf rows v.key).getD 0 }

/-- Moves the cursor to the next row, and from the last to the first. -/
def down (t : Table) : Table :=
  { t with cursor := if t.cursor + 1 < t.rows.length then t.cursor + 1 else 0 }

/-- Moves the cursor to the row before, and from the first to the last. -/
def up (t : Table) : Table :=
  { t with cursor := if t.cursor = 0 then t.rows.length - 1 else t.cursor - 1 }

/-- Moves the cursor to the first row. -/
def toFirst (t : Table) : Table := { t with cursor := 0 }

/-- Moves the cursor to the last row. -/
def toLast (t : Table) : Table := { t with cursor := t.rows.length - 1 }

/-- The value under the cursor as it is shown; nothing for a malformed one. -/
def copied? (t : Table) : Option Text :=
  (t.highlighted?.filter (!·.malformed)).map fun v => v.value.shown

/-- Loading shows the rows that were given. -/
@[simp]
theorem rows_load (t : Table) (rows : List Variable) : (t.load rows).rows = rows := rfl

private theorem rowOf_lt {rows : List Variable} (key : Text) (h : rows ≠ []) :
    rowOf rows key < rows.length := by
  have pos := List.length_pos_iff.2 h
  unfold rowOf
  cases hf : rows.findIdx? (fun v => decide (v.key = key)) with
  | none => simpa using pos
  | some i => simpa using (List.findIdx?_eq_some_iff_getElem.1 hf).1

/-- After loading the cursor is on one of the rows. -/
theorem cursor_load_lt (t : Table) {rows : List Variable} (h : rows ≠ []) :
    (t.load rows).cursor < (t.load rows).rows.length := by
  have pos := List.length_pos_iff.2 h
  unfold load
  cases t.highlighted? with
  | none => simpa using pos
  | some v => simpa using rowOf_lt v.key h

/-- Going up undoes going down. -/
theorem up_down {t : Table} (h : t.cursor < t.rows.length) : t.down.up = t := by
  cases t
  simp only [up, down, Table.mk.injEq, true_and] at h ⊢
  split <;> split <;> omega

/-- Going down undoes going up. -/
theorem down_up {t : Table} (h : t.cursor < t.rows.length) : t.up.down = t := by
  cases t
  simp only [up, down, Table.mk.injEq, true_and] at h ⊢
  split <;> split <;> omega

end Table

end VarFile
