import VarFile.Text.Quoted

/-!
# Markup

Some messages are read as markup, where a tag in square brackets gives a style. `escapedMarkup`
writes a text so that its tags are shown as they are.
-/

namespace VarFile

namespace Text

/-- The opening square bracket. -/
def openBracket : CodePoint := .ofNat 0x5B

/-- The closing square bracket. -/
def closeBracket : CodePoint := .ofNat 0x5D

/-- A tag starts with a small letter, or with a sign for a closing tag, a colour or an action. -/
def isTagStart (c : CodePoint) : Bool :=
  (0x61 ≤ c.val && c.val ≤ 0x7A) || c = '#' || c = '/' || c = '@'

/-- Whether a closing bracket comes before the next opening one. -/
def isClosed : Text → Bool
  | [] => false
  | c :: t => if c = closeBracket then true else if c = openBracket then false else isClosed t

/-- Whether the text after an opening bracket makes it a tag. -/
def isTag : Text → Bool
  | [] => false
  | c :: t => isTagStart c && isClosed t

/-- Backslashes. -/
def backslashes (n : Nat) : Text := List.replicate n backslash

/-- The rest of a text after `n` backslashes, written so that it is shown as it is. -/
def escapeMarkupAfter (n : Nat) : Text → Text
  | [] => backslashes (if n = 1 then 2 else n)
  | c :: t =>
    if c = backslash then escapeMarkupAfter (n + 1) t
    else
      backslashes (if c = openBracket && isTag t then 2 * n + 1 else n)
        ++ c :: escapeMarkupAfter 0 t

/-- A text as markup that is shown as the text: a backslash stands before each tag, the backslashes
before it are doubled, and so is a single one at the end. -/
def escapedMarkup (t : Text) : Text := escapeMarkupAfter 0 t

/-- A text with neither opening brackets nor backslashes needs no escaping. -/
theorem escapedMarkup_eq_self {t : Text} (h : openBracket ∉ t ∧ backslash ∉ t) :
    escapedMarkup t = t := by
  rw [escapedMarkup]
  induction t with
  | nil => rfl
  | cons c t ih =>
    simp only [List.mem_cons, not_or] at h
    have hb : ¬ c = openBracket := fun e => h.1.1 e.symm
    have hs : ¬ c = backslash := fun e => h.2.1 e.symm
    simp [escapeMarkupAfter, hb, hs, backslashes, ih ⟨h.1.2, h.2.2⟩]

end Text

end VarFile
