import GrantConfig.Decimal.Reading

/-!
# Key paths

A key of a source may be a path: a name, then further names behind points and positions in
brackets. Names are made of ASCII letters, digits, spaces, underscores and hyphens. A key that is
no such path stands for itself.
-/

namespace GrantConfig.Layer

/-- A step from a value to one of its parts. -/
inductive Step where
  | field (name : String)
  | position (n : Int)
deriving DecidableEq, Repr

/-- A path from the root table. -/
structure KeyPath where
  name : String
  steps : List Step
deriving DecidableEq, Repr

/-- Whether steps end in an item of a list. -/
def endsInList (steps : List Step) : Bool :=
  match steps.getLast? with
  | some (.position _) => true
  | some (.field _) => false
  | none => false

namespace KeyPath

/-- Characters of names. -/
def isNameChar (c : Char) : Bool := c.isAlphanum || c = ' ' || c = '_' || c = '-'

/-- Blanks around a position. -/
def isBlank (c : Char) : Bool := c = ' ' || c = '\t' || c = '\r' || c = '\n'

/-- A name and what follows it. -/
def name? (cs : List Char) : Option (String × List Char) :=
  let name := cs.takeWhile isNameChar
  if name.isEmpty then none else some (String.ofList name, cs.dropWhile isNameChar)

/-- A position after its opening bracket, and what follows its closing one. -/
def position? (cs : List Char) : Option (Int × List Char) := do
  let body := cs.dropWhile isBlank
  let (minus, digits) :=
    match body with
    | '-' :: rest => (true, rest)
    | _ => (false, body)
  let n ← Decimal.natural? 10 (digits.takeWhile Char.isDigit)
  let n : Int := if minus then -(n : Int) else n
  guard (Decimal.fitsInt64 n)
  match (digits.dropWhile Char.isDigit).dropWhile isBlank with
  | ']' :: rest => return (n, rest)
  | _ => none

/-- The steps of a path after its first name. -/
def steps? : (fuel : Nat) → List Char → Option (List Step)
  | _, [] => some []
  | 0, _ :: _ => none
  | fuel + 1, c :: rest =>
    if c = '.' then do
      let (name, rest) ← name? rest
      return .field name :: (← steps? fuel rest)
    else if c = '[' then do
      let (n, rest) ← position? rest
      return .position n :: (← steps? fuel rest)
    else none

/-- The path that a key writes. -/
def parse? (key : String) : Option KeyPath := do
  let (name, rest) ← name? key.toList
  return ⟨name, ← steps? rest.length rest⟩

/-- The path that a key stands for. -/
def ofKey (key : String) : KeyPath := (parse? key).getD ⟨key, []⟩

end KeyPath

end GrantConfig.Layer
