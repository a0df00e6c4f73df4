import VarFile.Proofs.Shell.Word

/-!
# What a word stands for in the shell

`Shell.literal?` removes the quotes of a text as the shell does behind the equals sign of an
assignment. It gives the bytes that the text stands for, each with what protects it, and nothing if
the shell would end the word or expand a part of it. So an assignment of a text that it accepts is
one word (`Shell.read_of_literal?`).
-/

namespace VarFile.Shell

open Value (backslash singleQuote doubleQuote dollar backquote tilde letters isOctalDigit number
  IsOrdinary)

/-! ### Removing quotes -/

/-- The bytes that a backslash protects inside double quotes. -/
def doubleProtected : Bytes := [doubleQuote, backslash, dollar, backquote]

/-- The byte that a byte of a text stands for, with what protects it: none if it only quotes, and
nothing if the shell ends the word there or starts an expansion. A tilde is taken for one wherever
nothing protects it. -/
def Quoting.read? : Quoting → UInt8 → Option (List (Quoting × UInt8))
  | outside true, b => if b = singleQuote then some [] else none
  | outside false, b =>
    if (separator? isBlank b).isSome || b == backquote || b == tilde then none
    else if b ∈ [backslash, singleQuote, doubleQuote, dollar] then some []
    else some [(outside false, b)]
  | escaped, b => some [(escaped, b)]
  | single, b => some (if b = singleQuote then [] else [(single, b)])
  | double, b =>
    if b = dollar ∨ b = backquote then none
    else some (if b = doubleQuote ∨ b = backslash then [] else [(double, b)])
  | doubleEscaped, b =>
    -- Before any other byte the backslash stands for itself.
    some (if b ∈ doubleProtected then [(doubleEscaped, b)] else [(double, backslash), (double, b)])
  | ansi, b => some (if b = singleQuote ∨ b = backslash then [] else [(ansi, b)])
  | ansiEscaped, b => (letters.lookup b).map fun c => [(ansiEscaped, c)]

/-- The byte that three octal digits stand for. -/
def octalByte? (digits : Bytes) : Option UInt8 :=
  if digits.all isOctalDigit ∧ number 8 digits < 256 then some (UInt8.ofNat (number 8 digits))
  else none

/-- The bytes that the rest of a text stands for, each with what protects it. Of the numbers in an
ANSI-C quoted run only those of three octal digits are read. -/
def literal? : Quoting → Bytes → Option (List (Quoting × UInt8))
  | quoting, [] => if quoting = .outside false then some [] else none
  | quoting, b :: rest =>
    match quoting.read? b with
    | some read => (literal? (quoting.next b) rest).map (read ++ ·)
    | none =>
      match quoting, rest with
      | .ansiEscaped, c :: d :: rest =>
        (octalByte? [b, c, d]).bind fun v => (literal? .ansi rest).map ((.ansiEscaped, v) :: ·)
      | _, _ => none

/-- A byte that is read before others. -/
theorem literal?_cons {quoting : Quoting} {b : UInt8} {read : List (Quoting × UInt8)}
    (h : quoting.read? b = some read) (rest : Bytes) :
    literal? quoting (b :: rest) = (literal? (quoting.next b) rest).map (read ++ ·) := by
  rw [literal?.eq_def]
  simp only [h]

/-- A byte that only quotes. -/
theorem literal?_quote {quoting : Quoting} {b : UInt8} (h : quoting.read? b = some [])
    (rest : Bytes) : literal? quoting (b :: rest) = literal? (quoting.next b) rest := by
  rw [literal?_cons h]
  exact Option.map_id'

/-- Three octal digits behind a backslash in an ANSI-C quoted run. -/
theorem literal?_octal {b c d v : UInt8} (h : Quoting.ansiEscaped.read? b = none)
    (hv : octalByte? [b, c, d] = some v) (rest : Bytes) :
    literal? .ansiEscaped (b :: c :: d :: rest) =
      (literal? .ansi rest).map ((.ansiEscaped, v) :: ·) := by
  rw [literal?.eq_def]
  simp only [h, hv, Option.bind_some]

/-! ### One word -/

/-- Some bytes stand inside of one pair of quotes: none of them ends these, or could end the word,
whatever the blanks are. -/
def Quoting.Encloses (quoting : Quoting) (inside : Bytes) : Prop :=
  ∀ isBlank, quoting.after? isBlank inside = some quoting

private theorem Quoting.not_ends_of_read? {quoting : Quoting} {b : UInt8}
    {read : List (Quoting × UInt8)}
    (h : quoting.read? b = some read) :
    (quoting.isOutside && (separator? Shell.isBlank b).isSome) = false := by
  cases quoting with
  | outside afterDollar =>
    cases afterDollar with
    | true =>
      rw [read?] at h
      split at h
      · next quote =>
        rw [quote]
        decide
      · cases h
    | false =>
      rw [read?] at h
      split at h
      · cases h
      · next inside =>
        simp only [Bool.or_eq_true, not_or, Bool.not_eq_true] at inside
        rw [inside.1.1, Bool.and_false]
  | _ => rfl

private theorem next_ansi_of_octalByte? {digits : Bytes} {v : UInt8}
    (h : octalByte? digits = some v)
    {b : UInt8} (hb : b ∈ digits) : Quoting.ansi.next b = .ansi := by
  rw [octalByte?] at h
  split at h
  · next octal =>
    have digit := List.all_eq_true.1 octal.1 b hb
    exact Quoting.next_ansi_of_isHexDigit (isHexDigit_of_isOctalDigit digit)
  · cases h

private theorem after?_of_literal? {quoting : Quoting} {text : Bytes}
    {read : List (Quoting × UInt8)}
    (h : literal? quoting text = some read) :
    quoting.after? isBlank text = some (.outside false) := by
  fun_induction literal? quoting text generalizing read with
  | case1 => rfl
  | case2 => cases h
  | case3 quoting b rest now hnow ih =>
    obtain ⟨later, hlater, -⟩ := Option.map_eq_some_iff.1 h
    rw [Quoting.after?, Quoting.not_ends_of_read? hnow, if_neg (by decide)]
    exact ih hlater
  | case4 b c d rest _ ih =>
    obtain ⟨v, hv, h⟩ := Option.bind_eq_some_iff.1 h
    obtain ⟨later, hlater, -⟩ := Option.map_eq_some_iff.1 h
    have stays {e : UInt8} (he : e ∈ [b, c, d]) : Quoting.ansi.next e = .ansi :=
      next_ansi_of_octalByte? hv he
    rw [Quoting.after?_cons rfl, Quoting.next, Quoting.after?_cons rfl, stays (by simp),
      Quoting.after?_cons rfl, stays (by simp)]
    exact ih hlater
  | case5 => cases h

/-! ### Assignments -/

private theorem head?_of_literal? {text : Bytes} {read : List (Quoting × UInt8)}
    (h : literal? (.outside true) text = some read) : text.head? = some singleQuote := by
  cases text with
  | nil => cases h
  | cons b rest =>
    by_cases quote : b = singleQuote
    · rw [quote]
      rfl
    · have unread : (Quoting.outside true).read? b = none := by rw [Quoting.read?, if_neg quote]
      rw [literal?.eq_def] at h
      simp only [unread] at h
      cases h

private theorem Quoting.departs_of_read? {quoting : Quoting} {b : UInt8} {rest : Bytes}
    {now later : List (Quoting × UInt8)} (h : quoting.read? b = some now)
    (hl : literal? (quoting.next b) rest = some later) (zero : b ≠ 0) :
    quoting.departs b rest = false := by
  cases quoting with
  | outside a =>
    cases a with
    | true =>
      rw [read?] at h
      split at h
      · next quote =>
        rw [quote]
        rfl
      · cases h
    | false =>
      rw [read?] at h
      split at h
      · cases h
      · next inert =>
        simp only [Bool.or_eq_true, beq_iff_eq, not_or] at inert
        by_cases expands : b = dollar
        · subst expands
          obtain ⟨tail, rfl⟩ := List.head?_eq_some_iff.1 (head?_of_literal? hl)
          rfl
        · rw [departs, beq_false_of_ne zero, beq_false_of_ne inert.1.2, beq_false_of_ne expands]
          rfl
  | double =>
    rw [read?] at h
    split at h
    · cases h
    · next inert =>
      rw [not_or] at inert
      rw [departs, beq_false_of_ne zero, beq_false_of_ne inert.1, beq_false_of_ne inert.2]
      rfl
  | _ => exact beq_false_of_ne zero

private theorem isPlain_cons {quoting : Quoting} {b : UInt8} {rest : Bytes}
    (h : quoting.departs b rest = false) :
    isPlain quoting (b :: rest) = isPlain (quoting.next b) rest := by
  rw [isPlain, h, Bool.not_false, Bool.true_and]

/-- A text that is read is plain: the shell reads it by the same rules. -/
theorem isPlain_of_literal? {quoting : Quoting} {text : Bytes} {read : List (Quoting × UInt8)}
    (h : literal? quoting text = some read) (zero : ∀ b ∈ text, b ≠ 0) :
    isPlain quoting text = true := by
  fun_induction literal? quoting text generalizing read with
  | case1 => rfl
  | case2 => cases h
  | case3 quoting b rest now hnow ih =>
    obtain ⟨first, later⟩ := List.forall_mem_cons.1 zero
    obtain ⟨after, hafter, -⟩ := Option.map_eq_some_iff.1 h
    rw [isPlain_cons (Quoting.departs_of_read? hnow hafter first)]
    exact ih hafter later
  | case4 b c d rest hnow ih =>
    obtain ⟨v, hv, h⟩ := Option.bind_eq_some_iff.1 h
    obtain ⟨after, hafter, -⟩ := Option.map_eq_some_iff.1 h
    have stays {e : UInt8} (he : e ∈ [b, c, d]) : Quoting.ansi.next e = .ansi :=
      next_ansi_of_octalByte? hv he
    have escaped : Quoting.ansiEscaped.departs b (c :: d :: rest) = false :=
      beq_false_of_ne (zero b (by simp))
    have second : Quoting.ansi.departs c (d :: rest) = false :=
      beq_false_of_ne (zero c (by simp))
    have third : Quoting.ansi.departs d rest = false := beq_false_of_ne (zero d (by simp))
    rw [isPlain_cons escaped, Quoting.next, isPlain_cons second, stays (by simp),
      isPlain_cons third, stays (by simp)]
    exact ih hafter fun e he => zero e (by simp [he])
  | case5 => cases h

private theorem exists_literal?_append {name text : Bytes} {read : List (Quoting × UInt8)}
    (hn : ∀ b ∈ name, Key.isPartByte b = true ∨ b = 0x3D)
    (h : literal? (.outside false) text = some read) :
    ∃ read, literal? (.outside false) (name ++ text) = some read := by
  induction name with
  | nil => exact ⟨read, h⟩
  | cons b name ih =>
    obtain ⟨hb, later⟩ := List.forall_mem_cons.1 hn
    obtain ⟨after, hafter⟩ := ih later
    have ne {d : UInt8} (hd : Key.isPartByte d = false) (he : d ≠ 0x3D) : b ≠ d := by
      obtain part | rfl := hb
      · exact Key.ne_of_isPartByte part hd
      · exact he.symm
    have ordinary : IsOrdinary b := by
      obtain part | rfl := hb
      · exact Key.isOrdinary_of_isPartByte part
      · exact ⟨by decide, by decide, by decide⟩
    have inside := separator?_eq_none_of_blanks (fun _ => isBlank_of_isBlank)
      (next_of_isOrdinary ordinary false).1
    have stays : (Quoting.outside false).next b = .outside false := by
      rw [(next_of_isOrdinary ordinary false).2, beq_false_of_ne (ne (by decide) (by decide))]
    have itself : (Quoting.outside false).read? b = some [(.outside false, b)] := by
      have bare : b ≠ backquote ∧ b ≠ tilde :=
        ⟨ne (by decide) (by decide), ne (by decide) (by decide)⟩
      have quotes : b ∉ [backslash, singleQuote, doubleQuote, dollar] := by
        simp only [List.mem_cons, List.not_mem_nil, or_false, not_or]
        exact ⟨ne (by decide) (by decide), ne (by decide) (by decide), ne (by decide) (by decide),
          ne (by decide) (by decide)⟩
      rw [Quoting.read?, inside, beq_false_of_ne bare.1, beq_false_of_ne bare.2, if_neg (by decide),
        if_neg quotes]
    rw [List.cons_append, literal?_cons itself, stays, hafter]
    exact ⟨_, rfl⟩

/-- The shell reads an assignment of a text that is read as one word. -/
theorem read_of_literal? {key : Text} {text : Bytes} {read : List (Quoting × UInt8)}
    (hk : Key.isValid key = true) (h : literal? (.outside false) text = some read)
    (zero : ∀ b ∈ text, b ≠ 0) :
    Shell.read (key.toBytes ++ 0x3D :: text) = some [.word (key.toBytes ++ 0x3D :: text)] := by
  have parts : ∀ b ∈ key.toBytes ++ [0x3D], Key.isPartByte b = true ∨ b = 0x3D := by
    intro b hb
    rw [List.mem_append, List.mem_singleton] at hb
    exact hb.imp_left (Key.isPartByte_of_mem_toBytes (Key.isValid_iff.1 hk).2)
  obtain ⟨whole, hwhole⟩ := exists_literal?_append parts h
  rw [List.append_assoc, List.singleton_append] at hwhole
  have plain : isPlain (.outside false) (key.toBytes ++ 0x3D :: text) = true := by
    refine isPlain_of_literal? hwhole fun b hb => ?_
    rw [List.append_cons, List.mem_append] at hb
    obtain name | stored := hb
    · rintro rfl
      exact absurd (parts 0 name) (by decide)
    · exact zero b stored
  have ends := tokensFrom_append (after?_of_literal? hwhole) [] []
  obtain ⟨b, rest, first, ordinary, hash⟩ := Key.exists_first hk (0x3D :: text)
  have inside := separator?_eq_none_of_blanks (fun _ => isBlank_of_isBlank)
    (next_of_isOrdinary ordinary false).1
  rw [first, List.append_nil, List.append_nil] at ends
  have tokens : tokensFrom isBlank .between (b :: rest) = some [.word (b :: rest)] := by
    rw [tokensFrom_between inside hash, ends, tokensFrom, if_pos (by decide), List.reverse_reverse]
  rw [first] at plain ⊢
  rw [Shell.read, readFrom, tokens, Option.filter_some]
  simp only [code, List.flatMap_cons, List.flatMap_nil, Token.code, List.append_nil, plain, if_true]

end VarFile.Shell
