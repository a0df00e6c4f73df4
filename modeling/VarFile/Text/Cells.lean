import VarFile.Text.CellTable
import VarFile.Text.CodePoint

/-!
# Texts in terminal cells

How many cells a text takes. That is the sum of what its code points take, save for pictures:
U+200D hides the code point after it, which is joined to the one before, and U+FE0F gives a code
point that has a picture the second cell of one.
-/

namespace VarFile

namespace CodePoint

/-- How many cells a code point takes. -/
def cells (c : CodePoint) : Nat :=
  if 0x20 ≤ c.val ∧ c.val < 0x7F then 1
  else if Text.zeroWidthToggles.contains c.val then 0
  else if Text.wideToggles.contains c.val then 2
  else 1

/-- How many cells more a code point takes as a picture. -/
def pictureGain (c : CodePoint) : Nat := if Text.pictureToggles.contains c.val then 1 else 0

/-- U+200D joins the code point after it to the one before. -/
def joiner : CodePoint := .ofNat 0x200D

/-- U+FE0F asks for the picture of the code point before it. -/
def pictureSelector : CodePoint := .ofNat 0xFE0F

end CodePoint

namespace Text

/-- How far a text was measured. -/
structure Measure where
  /-- The cells so far. -/
  cells : Nat := 0
  /-- The last code point that took a cell, if no U+FE0F came after it. -/
  base : Option CodePoint := none
  /-- Whether the next code point is joined to what is before it. -/
  joined : Bool := false

namespace Measure

/-- How many cells more the last code point takes as a picture. -/
def gain (base : Option CodePoint) : Nat := (base.map CodePoint.pictureGain).getD 0

/-- Measures the next code point. -/
def step (m : Measure) (c : CodePoint) : Measure :=
  if m.joined then { m with joined := false }
  else if c = CodePoint.joiner then { m with joined := true }
  else if c = CodePoint.pictureSelector then
    { m with cells := m.cells + gain m.base, base := none }
  else if c.cells = 0 then m
  else { m with cells := m.cells + c.cells, base := some c }

end Measure

/-- How many cells a text takes. -/
def cells (t : Text) : Nat := (t.foldl Measure.step {}).cells

/-- Blanks. -/
def spaces (n : Nat) : Text := List.replicate n (CodePoint.ofChar ' ')

/-- A text with blanks after it up to a width. -/
def padRight (width : Nat) (t : Text) : Text := t ++ spaces (width - t.cells)

/-- A text with blanks around it up to a width, the odd one after it. -/
def center (width : Nat) (t : Text) : Text :=
  padRight width (spaces ((width - t.cells) / 2) ++ t)

/-- Controls that a terminal would act on are not shown: bell, backspace, vertical tab, form feed
and carriage return. -/
def isUnshown (c : CodePoint) : Bool :=
  c.val == 0x07 || c.val == 0x08 || c.val == 0x0B || c.val == 0x0C || c.val == 0x0D

/-- A text without the controls that are not shown. -/
def shown (t : Text) : Text := t.filter (!isUnshown ·)

/-- What is measured after some code points that neither join nor ask for a picture. -/
theorem cells_foldl_step {t : Text} (h : CodePoint.joiner ∉ t ∧ CodePoint.pictureSelector ∉ t)
    (m : Measure) (hm : m.joined = false) :
    (t.foldl Measure.step m).cells = m.cells + t.foldr (·.cells + ·) 0 := by
  induction t generalizing m with
  | nil => simp
  | cons c t ih =>
    simp only [List.mem_cons, not_or] at h
    have hj : ¬ c = CodePoint.joiner := fun e => h.1.1 e.symm
    have hs : ¬ c = CodePoint.pictureSelector := fun e => h.2.1 e.symm
    have step : Measure.step m c
        = if c.cells = 0 then m else { m with cells := m.cells + c.cells, base := some c } := by
      simp [Measure.step, hm, hj, hs]
    rw [List.foldl_cons, step]
    by_cases hc : c.cells = 0
    · rw [if_pos hc, ih ⟨h.1.2, h.2.2⟩ m hm]
      simp [hc]
    · rw [if_neg hc]
      refine (ih ⟨h.1.2, h.2.2⟩ { m with cells := m.cells + c.cells, base := some c } hm).trans ?_
      simp [Nat.add_assoc]

/-- A text that neither joins nor asks for a picture takes what its code points take. -/
theorem cells_eq_sum {t : Text} (h : CodePoint.joiner ∉ t ∧ CodePoint.pictureSelector ∉ t) :
    t.cells = t.foldr (·.cells + ·) 0 := by
  rw [cells, cells_foldl_step h {} rfl]
  simp

end Text

end VarFile
