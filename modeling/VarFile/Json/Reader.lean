import VarFile.Json.Token

/-!
# Reading JSON

`Json.parse` builds a value from the tokens of a text. Open arrays and objects are kept on a stack,
and how many may be open around another one is a parameter; integers have at most
`Numeral.maxDigits` digits.
-/

namespace VarFile.Json

/-- Why a text is no JSON value. -/
inductive ParseError where
  | malformed
  /-- An integer has this many digits. -/
  | tooManyDigits (n : Nat)
  /-- Arrays (or, with `false`, objects) are nested too deeply. -/
  | tooDeep (array : Bool)
  deriving DecidableEq

/-- How many arrays and objects may be open around another one where nothing else is said. What the
number is depends on the calls that the reader itself is nested in. -/
def usualDepth : Nat := 969

/-- An array or object whose end was not reached; the last item or member comes first. -/
inductive Frame where
  | array (items : List Json)
  | object (members : List (Text × Json)) (key : Text)

/-- What may come next. -/
inductive Expectation where
  /-- A value. -/
  | value
  /-- A value or the end of the array that was just opened. -/
  | firstItem
  /-- A key or the end of the object that was just opened. -/
  | firstKey
  /-- A key of an object with these members. -/
  | key (members : List (Text × Json))
  /-- A colon after a key of an object with these members. -/
  | colon (members : List (Text × Json)) (key : Text)
  /-- A comma or the end of what is open, after this value. -/
  | next (v : Json)

/-- The state between two tokens. -/
structure Builder where
  stack : List Frame := []
  expects : Expectation := .value

namespace Builder

/-- Takes a value that is complete. -/
def accept (b : Builder) (v : Json) : Builder := { b with expects := .next v }

/-- Opens an array or object, if not too many are open around it. -/
def openFrame (maxDepth : Nat) (b : Builder) (array : Bool) (expects : Expectation)
    (frames : List Frame) : Except ParseError Builder :=
  if maxDepth < b.stack.length then .error (.tooDeep array)
  else .ok { stack := frames ++ b.stack, expects }

/-- Takes a token where a value is due. -/
def takeValue (maxDepth : Nat) (b : Builder) : Token → Except ParseError Builder
  | .null => .ok (b.accept .null)
  | .bool v => .ok (b.accept (.bool v))
  | .string t => .ok (b.accept (.string t))
  | .number n => .ok (b.accept (.number n))
  | .integer negative digits =>
    if Numeral.maxDigits < digits.length then .error (.tooManyDigits digits.length)
    else
      let n := Numeral.signed negative (Numeral.value 10 digits)
      .ok (b.accept (.number (.integer n)))
  | .openArray => b.openFrame maxDepth true .firstItem [.array []]
  | .openObject => b.openFrame maxDepth false .firstKey [.object [] []]
  | _ => .error .malformed

/-- Takes a token after a value. -/
def takeNext (b : Builder) (v : Json) : Token → Except ParseError Builder
  | .comma =>
    match b.stack with
    | .array items :: stack => .ok { stack := .array (v :: items) :: stack, expects := .value }
    | .object members key :: stack =>
      .ok { stack := .object ((key, v) :: members) [] :: stack,
            expects := .key ((key, v) :: members) }
    | [] => .error .malformed
  | .closeArray =>
    match b.stack with
    | .array items :: stack => .ok (accept { stack } (.array (v :: items).reverse))
    | _ => .error .malformed
  | .closeObject =>
    match b.stack with
    | .object members key :: stack =>
      .ok (accept { stack } (.object ((key, v) :: members).reverse))
    | _ => .error .malformed
  | _ => .error .malformed

/-- Takes the next token. -/
def take (maxDepth : Nat) (b : Builder) (token : Token) : Except ParseError Builder :=
  match b.expects with
  | .value => b.takeValue maxDepth token
  | .firstItem =>
    match token with
    | .closeArray => .ok (accept { stack := b.stack.tail } (.array []))
    | token => b.takeValue maxDepth token
  | .firstKey =>
    match token with
    | .closeObject => .ok (accept { stack := b.stack.tail } (.object []))
    | .string key => .ok { b with expects := .colon [] key }
    | _ => .error .malformed
  | .key members =>
    match token with
    | .string key => .ok { b with expects := .colon members key }
    | _ => .error .malformed
  | .colon members key =>
    match token with
    | .colon => .ok { stack := .object members key :: b.stack.tail, expects := .value }
    | _ => .error .malformed
  | .next v => b.takeNext v token

/-- The value that was built, if nothing is open and something was read. -/
def result (b : Builder) : Except ParseError Json :=
  match b.stack, b.expects with
  | [], .next v => .ok v
  | _, _ => .error .malformed

end Builder

/-- The value of a JSON text in which no more than some arrays and objects are open around another
one. -/
def parse (maxDepth : Nat) (t : Text) : Except ParseError Json :=
  match (Token.all t).foldlM (Builder.take maxDepth) {} with
  | .error e => .error e
  | .ok b => b.result

end VarFile.Json
