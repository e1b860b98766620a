/-!
# Positions in a YAML text

A cursor holds what is left of a text and where that stands. It also knows whether only blanks
precede it on its line, since the meaning of a tab depends on that.
-/

namespace GrantConfig.Yaml

/-- A position in a text with what follows it. -/
structure Cursor where
  rest : List Char
  index : Nat
  line : Nat
  column : Nat
  fresh : Bool

/-- Line breaks. -/
def isBreak (c : Char) : Bool := c = '\n' || c = '\r'

/-- Blanks within a line. -/
def isBlank (c : Char) : Bool := c = ' ' || c = '\t'

/-- Indicators of flow collections. -/
def isFlow (c : Char) : Bool := c = ',' || c = '[' || c = ']' || c = '{' || c = '}'

/-- Letters of names and directives. -/
def isWord (c : Char) : Bool := c.isAlphanum || c = '_' || c = '-'

/-- Whether a text is at a blank, at a line break or at its end. -/
def endsWord : List Char → Bool
  | [] => true
  | c :: _ => isBlank c || isBreak c

/-- Whether a text is at a line break or at its end. -/
def endsLine : List Char → Bool
  | [] => true
  | c :: _ => isBreak c

/-- Whether a line begins with three marks and then a blank or its end. -/
def isMarker (mark : Char) : List Char → Bool
  | a :: b :: c :: rest => a = mark && b = mark && c = mark && endsWord rest
  | _ => false

namespace Cursor

/-- The start of a text. -/
def ofText (cs : List Char) : Cursor := ⟨cs, 0, 0, 0, true⟩

/-- Pass one blank. -/
def blank (c : Cursor) : Cursor :=
  { c with rest := c.rest.drop 1, index := c.index + 1, column := c.column + 1 }

/-- Pass `n` characters other than blanks and line breaks. -/
def content (n : Nat) (c : Cursor) : Cursor :=
  { c with rest := c.rest.drop n, index := c.index + n, column := c.column + n, fresh := false }

/-- Pass a line break, if there is one. -/
def newline (c : Cursor) : Cursor :=
  match c.rest with
  | '\r' :: '\n' :: rest => ⟨rest, c.index + 2, c.line + 1, 0, true⟩
  | '\r' :: rest => ⟨rest, c.index + 1, c.line + 1, 0, true⟩
  | '\n' :: rest => ⟨rest, c.index + 1, c.line + 1, 0, true⟩
  | _ => c

/-- Pass the run of characters that satisfy a test; none of them is a line break. -/
def takeContent (p : Char → Bool) (c : Cursor) : List Char × Cursor :=
  let run := c.rest.takeWhile p
  (run, if run.isEmpty then c else c.content run.length)

/-- Pass a comment up to the end of its line. -/
def comment (c : Cursor) : Cursor := (c.takeContent fun x => !isBreak x).2

/-- Pass the blanks in front. -/
def blanks (c : Cursor) : Cursor :=
  let n := (c.rest.takeWhile isBlank).length
  { c with rest := c.rest.drop n, index := c.index + n, column := c.column + n }

/-- What was passed before the end of a line. -/
structure Passed where
  cursor : Cursor
  tab : Bool
  space : Bool

/-- Pass blanks and a comment up to the end of the line or to other content. A comment must not
stand directly behind a token. -/
def restOfLine? (tabs : Bool) (c : Cursor) : Option Passed := do
  let run := c.rest.takeWhile fun x => x = ' ' || (tabs && x = '\t')
  let after : Cursor :=
    { c with
      rest := c.rest.drop run.length
      index := c.index + run.length
      column := c.column + run.length }
  let passed (cursor : Cursor) : Passed := ⟨cursor, run.contains '\t', run.contains ' '⟩
  match after.rest with
  | '#' :: _ =>
    guard !run.isEmpty
    return passed after.comment
  | _ => return passed after

/-- The position behind the blanks and the comment of a line. -/
def skipLine? (tabs : Bool) (c : Cursor) : Option Cursor := (c.restOfLine? tabs).map (·.cursor)

end Cursor

end GrantConfig.Yaml
