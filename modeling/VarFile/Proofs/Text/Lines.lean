import VarFile.Proofs.Text.Boundary
import VarFile.Rendering

/-!
# Lines

A list falls into pieces at the elements that end one. The lines of some bytes and the lines of
their text are the same (`Text.lines_ofBytes`), and lines that were joined are found again
(`Text.lines_joinLines`), also after the text was stored and read (`Text.lines_reread_joinLines`).
-/

namespace VarFile

namespace Lines

variable {α : Type} {isEnd : α → Bool}

/-- The pieces of a list: each element that ends one does, and a last piece needs none. -/
def split (isEnd : α → Bool) (xs : List α) : List (List α) :=
  xs.foldr
    (fun x ls =>
      if isEnd x then [] :: ls
      else
        match ls with
        | [] => [[x]]
        | l :: ls => (x :: l) :: ls)
    []

private theorem split_cons_of_isEnd {x : α} (h : isEnd x = true) (xs : List α) :
    split isEnd (x :: xs) = [] :: split isEnd xs := by
  rw [split, List.foldr_cons, if_pos h]
  rfl

private theorem split_cons_of_not_isEnd {x : α} (h : isEnd x = false) (xs : List α) :
    split isEnd (x :: xs) =
      (x :: (split isEnd xs).headD []) :: (split isEnd xs).tail := by
  rw [split, List.foldr_cons, if_neg (by simp [h])]
  change (match split isEnd xs with | [] => _ | l :: ls => _) = _
  cases split isEnd xs <;> rfl

private theorem split_append_cons {l : List α} {x : α} (hl : ∀ y ∈ l, isEnd y = false)
    (hx : isEnd x = true) (xs : List α) :
    split isEnd (l ++ x :: xs) = l :: split isEnd xs := by
  induction l with
  | nil => exact split_cons_of_isEnd hx xs
  | cons y l ih =>
    rw [List.cons_append, split_cons_of_not_isEnd (hl y List.mem_cons_self),
      ih fun z hz => hl z (List.mem_cons_of_mem y hz)]
    rfl

/-- Without an end there is one piece at most. -/
theorem split_of_not_isEnd {l : List α} (hne : l ≠ []) (hl : ∀ y ∈ l, isEnd y = false) :
    split isEnd l = [l] := by
  induction l with
  | nil => exact absurd rfl hne
  | cons y l ih =>
    rw [split_cons_of_not_isEnd (hl y List.mem_cons_self)]
    cases l with
    | nil => rfl
    | cons z l => rw [ih (by simp) fun w hw => hl w (List.mem_cons_of_mem y hw)]; rfl

private theorem isEnd_eq_false_of_mem_split {xs l : List α} (h : l ∈ split isEnd xs) :
    ∀ x ∈ l, isEnd x = false := by
  induction xs generalizing l with
  | nil => cases h
  | cons x xs ih =>
    cases hx : isEnd x with
    | true =>
      rw [split_cons_of_isEnd hx, List.mem_cons] at h
      obtain rfl | h := h
      · simp
      · exact ih h
    | false =>
      have head : ∀ y ∈ (split isEnd xs).headD [], isEnd y = false := by
        cases hs : split isEnd xs with
        | nil => simp
        | cons k ks => exact ih (by rw [hs]; exact List.mem_cons_self)
      rw [split_cons_of_not_isEnd hx, List.mem_cons] at h
      obtain rfl | h := h
      · exact List.forall_mem_cons.2 ⟨hx, head⟩
      · exact ih (List.mem_of_mem_tail h)

private theorem split_cases (isEnd : α → Bool) (xs : List α) :
    (∀ y ∈ xs, isEnd y = false) ∨
      ∃ l x rest, xs = l ++ x :: rest ∧ (∀ y ∈ l, isEnd y = false) ∧ isEnd x = true := by
  induction xs with
  | nil => exact .inl (by simp)
  | cons x xs ih =>
    cases hx : isEnd x with
    | true => exact .inr ⟨[], x, xs, rfl, by simp, hx⟩
    | false =>
      obtain h | ⟨l, y, rest, rfl, hl, hy⟩ := ih
      · exact .inl (List.forall_mem_cons.2 ⟨hx, h⟩)
      · exact .inr ⟨x :: l, y, rest, rfl, List.forall_mem_cons.2 ⟨hx, hl⟩, hy⟩

/-- What holds of a list without an end, and of a list if it holds of what follows its first piece,
holds of every list. -/
theorem split_induction {P : List α → Prop} (isEnd : α → Bool)
    (last : ∀ xs, (∀ y ∈ xs, isEnd y = false) → P xs)
    (step : ∀ l x rest, (∀ y ∈ l, isEnd y = false) → isEnd x = true → P rest → P (l ++ x :: rest))
    (xs : List α) : P xs := by
  induction h : xs.length using Nat.strongRecOn generalizing xs with
  | ind n ih =>
    obtain noEnd | ⟨l, x, rest, rfl, hl, hx⟩ := split_cases isEnd xs
    · exact last xs noEnd
    · have shorter : rest.length < n := by
        rw [← h, List.length_append, List.length_cons]
        omega
      exact step l x rest hl hx (ih _ shorter rest rfl)

end Lines

/-- The byte that ends a line. -/
abbrev newline : UInt8 := 0x0A

/-- The lines of the content of a file, without the newlines that end them. -/
def Bytes.lines (bytes : Bytes) : List Bytes := Lines.split (· == newline) bytes

/-- The first line goes up to the first newline. -/
theorem Bytes.lines_append_cons {l : Bytes} (hl : ∀ b ∈ l, (b == newline) = false)
    (rest : Bytes) : Bytes.lines (l ++ newline :: rest) = l :: Bytes.lines rest :=
  Lines.split_append_cons hl (by decide) rest

namespace Text

open Document (joinLines)

/-- The newline is one byte. -/
theorem toBytes_newline : (CodePoint.ofChar '\n').toBytes = [newline] := rfl

/-- The lines of a text are the pieces that end with newlines. -/
theorem lines_eq_split (t : Text) : t.lines = Lines.split (· = CodePoint.ofChar '\n') t := by
  unfold lines linesAt Lines.split
  congr 1
  funext c ls
  cases ls <;> rfl

private theorem newline_mem_of_mem_ofBytes {bytes : Bytes}
    (h : CodePoint.ofChar '\n' ∈ ofBytes bytes) :
    newline ∈ bytes := by
  rw [← toBytes_ofBytes bytes, toBytes, List.mem_flatMap]
  exact ⟨_, h, by rw [toBytes_newline]; exact List.mem_singleton.2 rfl⟩

/-- The lines of the text of some bytes are the texts of their lines. -/
theorem lines_ofBytes (bytes : Bytes) : (ofBytes bytes).lines = bytes.lines.map ofBytes := by
  have noEnd {xs : Bytes} (h : ∀ b ∈ xs, (b == newline) = false) :
      ∀ c ∈ ofBytes xs, decide (c = CodePoint.ofChar '\n') = false := by
    intro c hc
    rw [decide_eq_false_iff_not]
    rintro rfl
    have := h _ (newline_mem_of_mem_ofBytes hc)
    simp at this
  induction bytes using Lines.split_induction (· == newline) with
  | last bytes hb =>
    cases bytes with
    | nil => rfl
    | cons b bytes =>
      have hne : ofBytes (b :: bytes) ≠ [] := by
        intro he
        have := toBytes_ofBytes (b :: bytes)
        rw [he] at this
        cases this
      rw [lines_eq_split, Lines.split_of_not_isEnd hne (noEnd hb), Bytes.lines,
        Lines.split_of_not_isEnd (by simp) hb]
      rfl
  | step l b rest hl hb ih =>
    rw [beq_iff_eq] at hb
    subst hb
    rw [ofBytes_append_cons (by decide), lines_eq_split,
      Lines.split_append_cons (noEnd hl) (by decide), ← lines_eq_split, ih,
      Bytes.lines_append_cons hl, List.map_cons]

/-! ### One line of a file -/

/-- What one line of a file can hold: what has a stored form and is no newline. -/
structure IsLine (t : Text) : Prop where
  storable : t.IsStorable
  newline : CodePoint.ofChar '\n' ∉ t

/-- Lines are put together to a line. -/
theorem IsLine.append {s t : Text} (hs : s.IsLine) (ht : t.IsLine) : IsLine (s ++ t) where
  storable c hc := (List.mem_append.1 hc).elim (hs.storable c) (ht.storable c)
  newline hc := (List.mem_append.1 hc).elim hs.newline ht.newline

/-- Both parts of a line are lines. -/
theorem IsLine.of_append {s t : Text} (h : IsLine (s ++ t)) : s.IsLine ∧ t.IsLine :=
  ⟨⟨fun c hc => h.storable c (List.mem_append_left t hc),
      fun hc => h.newline (List.mem_append_left t hc)⟩,
    ⟨fun c hc => h.storable c (List.mem_append_right s hc),
      fun hc => h.newline (List.mem_append_right s hc)⟩⟩

/-- ASCII other than the newline makes a line. -/
theorem isLine_of_isAscii {t : Text}
    (h : ∀ c ∈ t, c.IsAscii ∧ c ≠ CodePoint.ofChar '\n') : t.IsLine where
  storable c hc := CodePoint.isStorable_of_isAscii (h c hc).1
  newline hc := (h _ hc).2 rfl

/-- The text of a line of bytes is a line. -/
theorem isLine_ofBytes {bytes l : Bytes} (h : l ∈ bytes.lines) : (ofBytes l).IsLine where
  storable := isStorable_ofBytes l
  newline hc := by
    have := Lines.isEnd_eq_false_of_mem_split h _ (newline_mem_of_mem_ofBytes hc)
    simp at this

/-- A line is still one after it was stored and read. -/
theorem IsLine.reread {t : Text} (h : t.IsLine) : t.reread.IsLine :=
  ⟨isStorable_reread t, fun hc => h.newline (mem_of_mem_reread (by decide) hc)⟩

/-! ### Joined lines -/

private theorem joinLines_cons (l : Text) (ls : List Text) :
    joinLines (l :: ls) = l ++ CodePoint.ofChar '\n' :: joinLines ls := by
  simp [joinLines]

/-- The bytes of joined lines. -/
theorem toBytes_joinLines (ls : List Text) :
    (joinLines ls).toBytes = ls.flatMap fun l => l.toBytes ++ [newline] := by
  induction ls with
  | nil => rfl
  | cons l ls ih =>
    rw [joinLines_cons, toBytes_append, toBytes_cons, ih, toBytes_newline, List.flatMap_cons,
      List.append_assoc]

/-- Joined lines have a stored form if each of them has one. -/
theorem isStorable_joinLines {ls : List Text} (h : ∀ l ∈ ls, l.IsStorable) :
    (joinLines ls).IsStorable := by
  intro c hc
  obtain ⟨l, hl, hcl⟩ := List.mem_flatMap.1 hc
  rw [List.mem_append, List.mem_singleton] at hcl
  obtain hcl | rfl := hcl
  · exact h l hl c hcl
  · decide

/-- Lines are stored and read again one by one. -/
theorem reread_joinLines (ls : List Text) :
    (joinLines ls).reread = joinLines (ls.map reread) := by
  induction ls with
  | nil => rfl
  | cons l ls ih =>
    rw [joinLines_cons, reread_append_cons (by decide), ih, List.map_cons,
      joinLines_cons]

/-- Joined lines are found again. -/
theorem lines_joinLines {ls : List Text} (h : ∀ l ∈ ls, CodePoint.ofChar '\n' ∉ l) :
    (joinLines ls).lines = ls := by
  induction ls with
  | nil => rfl
  | cons l ls ih =>
    have hl : ∀ c ∈ l, decide (c = CodePoint.ofChar '\n') = false := by
      intro c hc
      rw [decide_eq_false_iff_not]
      rintro rfl
      exact h l List.mem_cons_self hc
    rw [joinLines_cons, lines_eq_split, Lines.split_append_cons hl (by decide), ← lines_eq_split,
      ih fun l hl => h l (List.mem_cons_of_mem _ hl)]

/-- The lines of what was stored are the lines as they are read again. -/
theorem lines_reread_joinLines {ls : List Text} (h : ∀ l ∈ ls, l.IsLine) :
    (ofBytes (joinLines ls).toBytes).lines = ls.map reread := by
  change (joinLines ls).reread.lines = _
  rw [reread_joinLines]
  apply lines_joinLines
  intro l hl
  obtain ⟨l, hls, rfl⟩ := List.mem_map.1 hl
  exact (h l hls).reread.newline

end Text

end VarFile
