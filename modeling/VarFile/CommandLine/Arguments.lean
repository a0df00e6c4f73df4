import VarFile.Text.CodePoint

/-!
# Command lines

A command line is read in two steps. `Invocation.parse` takes the options before the command and the
name of the command; `Request.parse` takes the options and operands of the command, in any order.
Two dashes end the options.
-/

namespace VarFile.CommandLine

/-- How the arguments of a program or command are written. -/
structure Form where
  /-- Options that stand alone. -/
  flags : List Text
  /-- Options of one letter that stand alone, and the option each of them stands for. -/
  letters : List (CodePoint × Text)
  /-- Options with a value. -/
  valued : List Text
  /-- Whether options may follow operands. -/
  interspersed : Bool

/-- The arguments that were found. -/
structure Found where
  flags : List Text := []
  values : List (Text × Text) := []
  operands : List Text := []
  deriving DecidableEq

/-- The option that every command has. -/
def helpFlag : Text := "--help"

namespace Form

/-- An argument with the text after its first equals sign. -/
def splitEquals (argument : Text) : Text × Option Text :=
  let equals : CodePoint := '='
  match argument.dropWhile (· != equals) with
  | [] => (argument, none)
  | _ :: value => (argument.takeWhile (· != equals), some value)

/-- Whether an argument is written as an option: a dash and something after it. -/
def isOption (argument : Text) : Bool :=
  argument.head? == some (CodePoint.ofChar '-') && argument.length != 1

/-- The options that a group of letters stands for. -/
def letterFlags (f : Form) (letters : Text) : Option (List Text) :=
  letters.mapM fun c => f.letters.lookup c

/-- Takes arguments from the first one on; refuses options that there are not, values for options
that take none, and options without their value. -/
def take (f : Form) (found : Found) : List Text → Option Found
  | [] => some found
  | argument :: rest =>
    if argument = ("--" : Text) then
      some { found with operands := found.operands ++ rest }
    else if isOption argument then
      let (name, value) := splitEquals argument
      if f.flags.contains name then
        match value with
        | some _ => none
        | none => take f { found with flags := found.flags ++ [name] } rest
      else if f.valued.contains name then
        match value with
        | some value => take f { found with values := found.values ++ [(name, value)] } rest
        | none =>
          match rest with
          | [] => none
          | value :: rest => take f { found with values := found.values ++ [(name, value)] } rest
      else if ("--" : Text).isPrefixOf argument then none
      else
        match f.letterFlags (argument.drop 1) with
        | none => none
        | some flags => take f { found with flags := found.flags ++ flags } rest
    else if f.interspersed then
      take f { found with operands := found.operands ++ [argument] } rest
    else some { found with operands := found.operands ++ argument :: rest }

end Form

namespace Found

/-- The last value of an option, empty if it was not given. -/
def value (found : Found) (option : Text) : Text :=
  ((found.values.reverse.lookup option).getD [])

end Found

/-- The commands. Specification, section 13. -/
inductive Verb where
  | get
  | set
  | unset
  | show
  | check
  | escape
  | unescape
  | edit
  deriving DecidableEq

namespace Verb

/-- The commands and their names. -/
def named : List (Text × Verb) :=
  [("get", get), ("set", set), ("unset", unset), ("show", .show), ("check", check),
    ("escape", escape), ("unescape", unescape), ("edit", edit)]

/-- The options of a command. -/
def form : Verb → Form
  | set => ⟨[helpFlag, "--keep-empty"], [], ["--mode"], true⟩
  | edit => ⟨[helpFlag], [], ["--mode"], true⟩
  | _ => ⟨[helpFlag], [], [], true⟩

/-- Whether the first operand of a command is a path. -/
def takesPath : Verb → Bool
  | escape | unescape => false
  | _ => true

end Verb

/-- A command line up to the name of the command. -/
structure Invocation where
  verbose : Bool
  /-- The command; nothing if only help was asked for. -/
  verb : Option Verb
  /-- What follows the name of the command. -/
  rest : List Text
  deriving DecidableEq

namespace Invocation

/-- The options before the command. -/
def form : Form := ⟨[helpFlag, "--verbose"], [('v', "--verbose")], [], false⟩

/-- Reads a command line up to the name of the command. -/
def parse (arguments : List Text) : Option Invocation :=
  match form.take {} arguments with
  | none => none
  | some found =>
    let verbose := found.flags.contains ("--verbose" : Text)
    if found.flags.contains helpFlag then some ⟨verbose, none, []⟩
    else
      match found.operands with
      | [] => none
      | name :: rest => (Verb.named.lookup name).map fun verb => ⟨verbose, some verb, rest⟩

end Invocation

/-- A command with its operands and options. -/
inductive Request where
  | help
  | get (path key : Text)
  | set (path key value : Text) (keepEmpty : Bool) (mode : Text)
  | unset (path key : Text)
  | show (path : Text)
  | check (path : Text)
  | escape (value : Text)
  | unescape (text : Text)
  | edit (path mode : Text)
  deriving DecidableEq

namespace Request

/-- The request of a command with its operands. -/
def ofFound (verb : Verb) (found : Found) : Option Request :=
  let mode := found.value "--mode"
  match verb, found.operands with
  | .get, [path, key] => some (.get path key)
  | .set, [path, key, value] =>
    some (.set path key value (found.flags.contains ("--keep-empty" : Text)) mode)
  | .unset, [path, key] => some (.unset path key)
  | .show, [path] => some (.show path)
  | .check, [path] => some (.check path)
  | .escape, [value] => some (.escape value)
  | .unescape, [text] => some (.unescape text)
  | .edit, [path] => some (.edit path mode)
  | _, _ => none

/-- The first operand, if it is a path. -/
def pathOperand? (verb : Verb) (found : Found) : Option Text :=
  if verb.takesPath then found.operands.head? else none

end Request

end VarFile.CommandLine
