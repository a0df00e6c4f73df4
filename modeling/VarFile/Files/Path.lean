import VarFile.Text.Utf8

/-!
# Paths

A path is a text; the file system sees its bytes, cut at the slashes. `Path.normalized` drops empty
and dot components, as a path given on the command line is.
-/

namespace VarFile

/-- A text that cannot be handed to the file system as a path. -/
inductive InvalidPath where
  /-- It holds a code point without a stored form. -/
  | unstorable (cause : Unstorable)
  /-- It holds a zero byte. -/
  | zeroByte
  deriving DecidableEq

namespace Path

/-- The slash. -/
abbrev slash : UInt8 := 0x2F

/-- The component that names the directory it stands in. -/
def dot : Bytes := [0x2E]

/-- The component that names the directory above. -/
def dotDot : Bytes := [0x2E, 0x2E]

/-- The bytes of a path. -/
def encode (path : Text) : Except InvalidPath Bytes :=
  match path.encode with
  | .error cause => .error (.unstorable cause)
  | .ok bytes => if bytes.contains 0 then .error .zeroByte else .ok bytes

/-- The pieces between the slashes. -/
def components (path : Bytes) : List Bytes :=
  path.foldr
    (fun b (cs : List Bytes) =>
      if b = slash then [] :: cs
      else
        match cs with
        | [] => [[b]]
        | c :: cs => (b :: c) :: cs)
    [[]]

/-- What stands before the last slash of a path. -/
def above (path : Bytes) : Bytes := ((path.reverse.dropWhile (· ≠ slash)).drop 1).reverse

/-- The slashes that a path keeps at its start: one, or exactly two. -/
def root (path : Text) : Text :=
  let slashes := path.takeWhile fun (c : CodePoint) => c = '/'
  if slashes.length = 2 then slashes else slashes.take 1

/-- The path without empty and dot components; the empty path becomes a dot. -/
def normalized (path : Text) : Text :=
  let parts := (path.splitOn '/').filter fun c => c != [] && c != [CodePoint.ofChar '.']
  let whole := root path ++ List.intercalate [CodePoint.ofChar '/'] parts
  if whole.isEmpty then "." else whole

end Path

end VarFile
