import VarFile.Text.CaseTable

/-!
# Lower and upper case

Full case mapping: one code point may become several, and a capital sigma becomes a final one when
it ends a word, that is when a cased letter comes before it and none after it, case-ignorable code
points skipped on both sides.
-/

namespace VarFile

namespace CodePoint

/-- Whether a code point is skipped when the letters beside a capital sigma are looked for. -/
def isCaseIgnorable (c : CodePoint) : Bool := Text.caseIgnorableToggles.contains c.val

/-- Whether a code point is a letter with case. -/
def isCased (c : CodePoint) : Bool := Text.casedToggles.contains c.val

/-- The mapping of a code point by a table of expansions and a table of runs. -/
def mapCase (expansions : List (Nat × List Nat)) (runs : List Text.CaseRun) (c : CodePoint) :
    Text :=
  match expansions.lookup c.val with
  | some ns => ns.map .ofNat
  | none =>
    match runs.find? (·.covers c.val) with
    | some r => [.ofNat (r.map c.val)]
    | none => [c]

/-- The lower-case form of a code point by itself. -/
def lower (c : CodePoint) : Text :=
  if c.val < 0x80 then
    [if 0x41 ≤ c.val && c.val ≤ 0x5A then .ofNat (c.val + 0x20) else c]
  else mapCase Text.lowerExpansions Text.lowerRuns c

/-- The upper-case form of a code point. -/
def upper (c : CodePoint) : Text :=
  if c.val < 0x80 then
    [if 0x61 ≤ c.val && c.val ≤ 0x7A then .ofNat (c.val - 0x20) else c]
  else mapCase Text.upperExpansions Text.upperRuns c

end CodePoint

namespace Text

/-- The capital sigma. -/
def capitalSigma : CodePoint := .ofNat 0x3A3

/-- The form of a small sigma that ends a word. -/
def finalSigma : CodePoint := .ofNat 0x3C2

/-- The form of a small sigma elsewhere. -/
def smallSigma : CodePoint := .ofNat 0x3C3

/-- Whether the next code point that is not case-ignorable is a cased letter. -/
def startsCased (t : Text) : Bool :=
  match t.dropWhile CodePoint.isCaseIgnorable with
  | [] => false
  | c :: _ => c.isCased

/-- Lower case of what follows `before`, which holds the code points passed so far, last one
first; `done` holds the result so far in the same order. -/
def lowerFrom (before done : Text) : Text → Text
  | [] => done.reverse
  | c :: rest =>
    let form :=
      if c = capitalSigma then
        if startsCased before && !startsCased rest then [finalSigma] else [smallSigma]
      else c.lower
    lowerFrom (c :: before) (form.reverse ++ done) rest

/-- The text in lower case. -/
def lower (t : Text) : Text := lowerFrom [] [] t

/-- The text in upper case. -/
def upper (t : Text) : Text := t.flatMap CodePoint.upper

end Text

end VarFile
