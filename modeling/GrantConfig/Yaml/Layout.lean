import GrantConfig.Yaml.Cursor
import GrantConfig.Yaml.Token

/-!
# The layout of a YAML text

What has to be known about the text so far before the next token can be read: the indentations of
the blocks around, and the places where a key may have begun. That a scalar is a key shows only at
the colon behind it, so such places are remembered, and the tokens in front of the key are inserted
there later.
-/

namespace GrantConfig.Yaml

/-- A place where a key may begin. -/
structure KeyPlace where
  possible : Bool
  required : Bool
  token : Nat
  line : Nat
  column : Nat
  index : Nat

/-- No place for a key. -/
def KeyPlace.none : KeyPlace := ⟨false, false, 0, 0, 0, 0⟩

/-- An indentation to return to, and whether a block ends there. -/
structure Indent where
  column : Int
  block : Bool

/-- What has been scanned of a text: the tokens with their columns, the places for keys per flow
level, innermost first, and the indentations around, innermost first. -/
structure Scan where
  cursor : Cursor
  tokens : Array (Token × Nat)
  places : List KeyPlace
  keyAllowed : Bool
  indent : Int
  indents : List Indent
  flow : Nat
  adjacent : Nat
  mappingStarted : Bool
  pairOpen : Bool

namespace Scan

/-- Append a token at the given column. -/
def push (s : Scan) (t : Token) (column : Nat) : Scan :=
  { s with tokens := s.tokens.push (t, column) }

/-- Insert a token at an earlier place. -/
def insertToken (s : Scan) (place : Nat) (t : Token) : Scan :=
  { s with tokens := s.tokens.insertIdxIfInBounds place (t, 0) }

/-- Whether the innermost indentation belongs to a block. -/
def inBlock (s : Scan) : Bool := s.indents.head?.any (·.block)

/-- Remember that a key may begin here. -/
def savePlace (s : Scan) : Scan :=
  if s.keyAllowed then
    let required := s.flow = 0 && s.indent = s.cursor.column && s.inBlock
    let place : KeyPlace :=
      ⟨true, required, s.tokens.size, s.cursor.line, s.cursor.column, s.cursor.index⟩
    { s with places := place :: s.places.drop 1 }
  else s

/-- Give up the innermost place for a key, which must not be required. -/
def dropPlace? (s : Scan) : Option Scan := do
  let place := s.places.head?.getD KeyPlace.none
  guard !(place.possible && place.required)
  return { s with places := { place with possible := false } :: s.places.drop 1 }

/-- Give up places for keys that are on earlier lines or too far back. -/
def dropStale? (s : Scan) : Option Scan := do
  let stale (p : KeyPlace) : Bool :=
    p.possible && s.flow = 0 &&
      (p.line < s.cursor.line || p.index + 1024 < s.cursor.index)
  guard !(s.places.any fun p => stale p && p.required)
  let places := s.places.map fun p => if stale p then { p with possible := false } else p
  return { s with places }

/-- Begin a block at a column unless it has begun; its token stands at the end or at a place. -/
def openBlock (s : Scan) (column : Nat) (place : Option Nat) (t : Token) : Scan :=
  if 0 < s.flow then s
  else
    let s :=
      if s.indent ≤ column then
        match s.indents with
        | ⟨outer, false⟩ :: indents => { s with indent := outer, indents }
        | _ => s
      else s
    if s.indent < column then
      let s := { s with indent := column, indents := ⟨s.indent, true⟩ :: s.indents }
      match place with
      | some n => s.insertToken n t
      | none => s.push t s.cursor.column
    else s

/-- Ask for one more column of indentation inside a block. -/
def openColumn (s : Scan) : Scan :=
  if s.flow = 0 && s.inBlock then
    { s with indent := s.indent + 1, indents := ⟨s.indent, false⟩ :: s.indents }
  else s

/-- Take back what further columns were asked for. -/
def closeColumns (s : Scan) : Scan :=
  match (s.indents.takeWhile (!·.block)).getLast? with
  | some outer => { s with indent := outer.column, indents := s.indents.dropWhile (!·.block) }
  | none => s

/-- The indentation and the number of blocks that end when a line begins at a column. -/
def outerIndent (column : Int) : (indent : Int) → List Indent → Int × List Indent × Nat
  | indent, [] => (indent, [], 0)
  | indent, outer :: rest =>
    if column < indent then
      let (indent, indents, ends) := outerIndent column outer.column rest
      (indent, indents, ends + if outer.block then 1 else 0)
    else (indent, outer :: rest, 0)

/-- End the blocks that are indented more than a column. -/
def closeBlocks (s : Scan) (column : Int) : Scan :=
  if 0 < s.flow then s
  else
    let (indent, indents, ends) := outerIndent column s.indent s.indents
    let tokens := s.tokens ++ Array.replicate ends (Token.blockEnd, s.cursor.column)
    { s with indent, indents, tokens }

/-- End the pair that began without a brace. -/
def closePair (s : Scan) : Scan :=
  if s.pairOpen then
    ({ s with pairOpen := false, mappingStarted := false }).push .flowMappingEnd s.cursor.column
  else s

end Scan

end GrantConfig.Yaml
