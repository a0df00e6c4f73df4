import VarFile.Files.Path

/-!
# File trees

A directory with everything below it: directories, and names of files. A file itself is known by
its inode number, so that it outlives its name and can be written under a new one. Paths are looked
up one component at a time from the working directory; what lies above it holds nothing, and no way
that leaves it comes back by the name of a directory.

The files belong to the user of the process that works on them, so that their owner's permission
bits say what it may do with them (`Files.Process`). Every directory can be searched and changed.
-/

namespace VarFile.Files

/-- A file name: the bytes between two slashes. -/
abbrev Name := Bytes

/-- Where something is: the names on the way from the working directory. -/
abbrev Place := List Name

/-- Why a path cannot be used. -/
inductive Failure where
  | notFound
  | exists
  | notDirectory
  | isDirectory
  | notEmpty
  | nameTooLong
  | permissionDenied
  deriving DecidableEq

namespace Failure

/-- The number that stands for a failure. -/
def number : Failure → Nat
  | notFound => 2
  | permissionDenied => 13
  | .exists => 17
  | notDirectory => 20
  | isDirectory => 21
  | nameTooLong => 36
  | notEmpty => 39

/-- What is told about a failure. -/
def message : Failure → Text
  | notFound => "No such file or directory"
  | permissionDenied => "Permission denied"
  | .exists => "File exists"
  | notDirectory => "Not a directory"
  | isDirectory => "Is a directory"
  | nameTooLong => "File name too long"
  | notEmpty => "Directory not empty"

end Failure

/-- The content of a file and its permission bits. -/
structure File where
  content : Bytes
  mode : Nat
  deriving DecidableEq

/-- What a name stands for. -/
inductive Node where
  | directory
  | file (inode : Nat)
  deriving DecidableEq

/-- Permission bits without the one to run a file as its owner, and without the one to run it as its
group if the group may run it. -/
def withoutSetId (mode : Nat) : Nat :=
  if mode &&& 0o0010 = 0 then mode &&& 0o3777 else mode &&& 0o1777

/-- The process that works on the files. -/
structure Process where
  /-- The permission bits that its new files do not get. -/
  umask : Nat := 0o022
  /-- It is bound by no permission bits, and may give a file any of them. -/
  privileged : Bool := false
  deriving DecidableEq

namespace Process

/-- The permission bits of a new file that is asked for with a mode. -/
def newFileMode (p : Process) (mode : Int) : Nat :=
  (mode % 0o10000).toNat &&& (0o7777 ^^^ (p.umask &&& 0o777))

/-- Whether a file with some permission bits may be read. -/
def mayRead (p : Process) (mode : Nat) : Bool := p.privileged || mode &&& 0o400 != 0

/-- Whether a file with some permission bits may be written. -/
def mayWrite (p : Process) (mode : Nat) : Bool := p.privileged || mode &&& 0o200 != 0

/-- The permission bits that a file has after it was written: only a privileged process leaves those
to run it as another user. -/
def writtenMode (p : Process) (mode : Nat) : Nat :=
  if p.privileged then mode else withoutSetId mode

end Process

/-- The working directory with everything below it. -/
structure Tree where
  /-- Every name that is taken, and what it stands for. -/
  nodes : List (Place × Node) := []
  /-- The files; the inode number is the position. -/
  inodes : List File := []
  /-- The process that sees them. -/
  process : Process := {}
  deriving DecidableEq

/-- Bytes of a file name may be at most this many. -/
def maxNameLength : Nat := 255

/-- Bytes of a path may be at most this many. -/
def maxPathLength : Nat := 4095

/-- The place of the root directory, which no name between slashes can be. -/
def rootPlace : Place := [[Path.slash]]

/-- The working directory, those above it and the root directory exist in every tree. -/
def isGiven (p : Place) : Bool := p == rootPlace || p.all (· == Path.dotDot)

/-- The directory above a place. -/
def parent (p : Place) : Place :=
  if p = rootPlace then p else if p.all (· == Path.dotDot) then p ++ [Path.dotDot] else p.dropLast

/-- Where the first name of a path is looked up. -/
def origin (path : Bytes) : Place := if path.head? = some Path.slash then rootPlace else []

namespace Tree

/-- What is at a place. -/
def node? (t : Tree) (p : Place) : Option Node :=
  if isGiven p then some .directory else t.nodes.lookup p

/-- The file of an inode number. -/
def file? (t : Tree) (inode : Nat) : Option File := t.inodes[inode]?

/-- Whether a file may be read. -/
def mayRead (t : Tree) (inode : Nat) : Bool := (t.file? inode).all (t.process.mayRead ·.mode)

/-- Whether a file may be written. -/
def mayWrite (t : Tree) (inode : Nat) : Bool := (t.file? inode).all (t.process.mayWrite ·.mode)

/-- Goes from a directory to one of its names. -/
def enter (t : Tree) (p : Place) (name : Name) : Except Failure Place :=
  match t.node? p with
  | none => .error .notFound
  | some (.file _) => .error .notDirectory
  | some .directory =>
    if name = [] ∨ name = Path.dot then .ok p
    else if name = Path.dotDot then .ok (parent p)
    else if maxNameLength < name.length then .error .nameTooLong
    else .ok (p ++ [name])

/-- Goes along the components of a path. -/
def walk (t : Tree) (p : Place) : List Name → Except Failure Place
  | [] => .ok p
  | name :: rest =>
    match t.enter p name with
    | .error e => .error e
    | .ok p => t.walk p rest

/-- The place of a path; there need not be anything under its last name. -/
def resolve (t : Tree) (path : Bytes) : Except Failure Place :=
  if path = [] then .error .notFound
  else if maxPathLength < path.length then .error .nameTooLong
  else t.walk (origin path) (Path.components path)

/-- What is at a path. -/
def find (t : Tree) (path : Bytes) : Except Failure Node :=
  match t.resolve path with
  | .error e => .error e
  | .ok p =>
    match t.node? p with
    | none => .error .notFound
    | some n => .ok n

/-- Opens what is at a path for reading; a directory can be opened as well. -/
def openToRead (t : Tree) (path : Bytes) : Except Failure Node :=
  match t.find path with
  | .error e => .error e
  | .ok .directory => .ok .directory
  | .ok (.file inode) => if t.mayRead inode then .ok (.file inode) else .error .permissionDenied

/-- Whether a path ends in a slash after a name. -/
def endsInSlash (path : Bytes) : Bool := path.getLast? == some Path.slash

/-- The path without the slashes at its end. -/
def withoutEndSlashes (path : Bytes) : Bytes :=
  (path.reverse.dropWhile (· = Path.slash)).reverse

/-- Opens the file at a path for writing, made empty with the given mode if there is none. A file
that is made is open whatever its mode is. -/
def openOrCreate (t : Tree) (path : Bytes) (mode : Int) : Except Failure (Tree × Nat) :=
  if maxPathLength < path.length then .error .nameTooLong
  else if endsInSlash path then
    match (Path.components (withoutEndSlashes path)).reverse with
    | [] => .error .isDirectory
    | _ :: above =>
      match t.walk (origin path) above.reverse with
      | .error e => .error e
      | .ok p =>
        match t.enter p [] with
        | .error e => .error e
        | .ok _ => .error .isDirectory
  else
    match t.resolve path with
    | .error e => .error e
    | .ok p =>
      match t.node? p with
      | some .directory => .error .isDirectory
      | some (.file inode) => if t.mayWrite inode then .ok (t, inode) else .error .permissionDenied
      | none =>
        .ok ({ t with
          nodes := t.nodes ++ [(p, .file t.inodes.length)]
          inodes := t.inodes ++ [⟨[], t.process.newFileMode mode⟩] }, t.inodes.length)

/-- Replaces the content of an open file. -/
def overwrite (t : Tree) (inode : Nat) (content : Bytes) : Tree :=
  { t with inodes := t.inodes.modify inode fun f => ⟨content, t.process.writtenMode f.mode⟩ }

/-- Sets the permission bits of a file. -/
def setMode (t : Tree) (inode : Nat) (mode : Nat) : Tree :=
  { t with inodes := t.inodes.modify inode fun f => { f with mode } }

/-- Writes a file at a path, in place if there is one. -/
def put (t : Tree) (path : Bytes) (content : Bytes) : Except Failure Tree :=
  (t.openOrCreate path 0o666).map fun (t, inode) => t.overwrite inode content

/-- Takes the name of a file away; the file itself stays for those who hold it. -/
def remove (t : Tree) (path : Bytes) : Except Failure Tree :=
  match t.resolve path with
  | .error e => .error e
  | .ok p =>
    match t.node? p with
    | none => .error .notFound
    | some .directory => .error .isDirectory
    | some (.file _) => .ok { t with nodes := t.nodes.filter (·.1 != p) }

/-- Whether one place is another one or below it. -/
def isWithin (p above : Place) : Bool := above.isPrefixOf p

/-- Whether nothing is below a place. -/
def isEmptyAt (t : Tree) (p : Place) : Bool :=
  t.nodes.all fun (q, _) => q == p || !isWithin q p

/-- Gives what is at one path the name of another, whose file is lost. -/
def rename (t : Tree) (source target : Bytes) : Except Failure Tree := do
  let p ← t.resolve source
  let q ← t.resolve target
  match t.node? p, t.node? q with
  | none, _ => .error .notFound
  | some .directory, some (.file _) => .error .notDirectory
  | some (.file _), some .directory => .error .isDirectory
  | some _, n =>
    if p = q then .ok t
    else if n = some Node.directory ∧ !t.isEmptyAt q then .error .notEmpty
    else
      .ok { t with
        nodes := (t.nodes.filter (·.1 != q)).map fun (place, n) =>
          if isWithin place p then (q ++ place.drop p.length, n) else (place, n) }

/-- Makes directories one below the other, as far as they are missing. Those that were made stay if
a later one cannot be made. -/
def makeDirectories (t : Tree) (p : Place) : List Name → Tree × Except Failure Unit
  | [] => (t, .ok ())
  | name :: rest =>
    match t.enter p name with
    | .error e => (t, .error e)
    | .ok q =>
      match t.node? q with
      | some .directory => t.makeDirectories q rest
      | some (.file _) => (t, .error (if rest = [] then .exists else .notDirectory))
      | none => makeDirectories { t with nodes := t.nodes ++ [(q, Node.directory)] } q rest

/-- Makes the directory at a path and those above it, as far as they are missing. -/
def makeDirectory (t : Tree) (path : Bytes) : Tree × Except Failure Unit :=
  if maxPathLength < path.length then (t, .error .nameTooLong)
  else t.makeDirectories (origin path) (Path.components path)

/-- Makes the directories above a path, as far as they are missing. -/
def makeParents (t : Tree) (path : Bytes) : Tree × Except Failure Unit :=
  if maxPathLength < (Path.above path).length then (t, .error .nameTooLong)
  else t.makeDirectories (origin path) (Path.components path).dropLast

end Tree

/-- A line of a listing: a directory, or a file with its content and mode. -/
inductive Listed where
  | directory (path : Text)
  | file (path content : Text) (mode : Nat)
  deriving DecidableEq

/-- The path that a line of a listing shows, which ends in a slash for a directory. -/
def Listed.path : Listed → Text
  | .directory path => path
  | .file path _ _ => path

/-- Texts in the order of their code points. -/
def textLe : Text → Text → Bool
  | [], _ => true
  | _ :: _, [] => false
  | c :: s, d :: t => c.val < d.val || (c.val == d.val && textLe s t)

/-- A place as a path. -/
def placePath (p : Place) : Text := .ofBytes (List.intercalate [Path.slash] p)

/-- All files and directories below the working directory, in the order of their paths. -/
def Tree.listing (t : Tree) : List Listed :=
  let inside := t.nodes.filter fun (p, _) =>
    p.head? != some Path.dotDot && !Tree.isWithin p rootPlace
  let listed := inside.filterMap fun (p, n) =>
    match n with
    | .directory => some (Listed.directory (placePath p ++ [CodePoint.ofChar '/']))
    | .file inode => (t.file? inode).map fun f => .file (placePath p) (.ofBytes f.content) f.mode
  listed.mergeSort fun a b => textLe a.path b.path

/-- The first file of the listing that may not be read. -/
def Tree.unreadable? (t : Tree) : Option Text :=
  (t.listing.find? fun l =>
    match l with
    | .directory _ => false
    | .file _ _ mode => !t.process.mayRead mode).map Listed.path

end VarFile.Files
