import GrantConfig.Yaml.Layout
import GrantConfig.Yaml.Scalars

/-!
# A YAML text as tokens

Each kind of token is read where its first character stands, and leaves the layout as it is behind
the token. What may not stand in its place ends the reading.
-/

namespace GrantConfig.Yaml

namespace Scan

/-- Pass the rest of a line behind a token. -/
def skipLine? (s : Scan) : Option Scan := do
  return { s with cursor := ← s.cursor.skipLine? true }

/-- Pass blanks, comments and line breaks. Left of the indentation of a block, a tab may stand
only in lines with nothing else. -/
def skipFiller? : (fuel : Nat) → Scan → Option Scan
  | 0, _ => none
  | fuel + 1, s =>
    match s.cursor.rest with
    | x :: _ =>
      if x = '\t' ∧ !s.indents.isEmpty ∧ s.cursor.fresh ∧ (s.cursor.column : Int) < s.indent then do
        let cursor ← s.cursor.skipLine? true
        guard (endsLine cursor.rest)
        skipFiller? fuel { s with cursor }
      else if isBlank x then skipFiller? fuel { s with cursor := s.cursor.blank }
      else if isBreak x then
        skipFiller? fuel
          { s with cursor := s.cursor.newline, keyAllowed := s.keyAllowed || s.flow = 0 }
      else if x = '#' then skipFiller? fuel { s with cursor := s.cursor.comment }
      else some s
    | [] => some s

/-- Pass the blanks and line breaks behind the mark of a key, of which there must be one. -/
def skipKeyGap : (fuel : Nat) → (passed : Bool) → Scan → Bool × Scan
  | 0, passed, s => (passed, s)
  | fuel + 1, passed, s =>
    match s.cursor.rest with
    | x :: _ =>
      if x = ' ' then skipKeyGap fuel true { s with cursor := s.cursor.blank }
      else if isBreak x then
        skipKeyGap fuel true
          { s with cursor := s.cursor.newline, keyAllowed := s.keyAllowed || s.flow = 0 }
      else if x = '#' then skipKeyGap fuel passed { s with cursor := s.cursor.comment }
      else (passed, s)
    | [] => (passed, s)

/-- The opening bracket of a flow collection. -/
def openFlow? (s : Scan) (t : Token) : Option Scan := do
  let column := s.cursor.column
  let s := s.savePlace.openColumn
  guard (s.flow < 255)
  let s := { s with
    places := KeyPlace.none :: s.places
    flow := s.flow + 1
    keyAllowed := true
    mappingStarted := s.mappingStarted || t = Token.flowMappingStart
    cursor := s.cursor.content 1 }
  return (← s.skipLine?).push t column

/-- The closing bracket of a flow collection. -/
def closeFlow? (s : Scan) (t : Token) : Option Scan := do
  let column := s.cursor.column
  let s ← s.dropPlace?
  let s := if 0 < s.flow then { s with flow := s.flow - 1, places := s.places.drop 1 } else s
  let s := ({ s with keyAllowed := false }).closePair
  let s ← ({ s with cursor := s.cursor.content 1 }).skipLine?
  let s := if 0 < s.flow then { s with adjacent := s.cursor.index } else s
  return s.push t column

/-- A comma. -/
def comma? (s : Scan) : Option Scan := do
  let column := s.cursor.column
  let s := ({ ← s.dropPlace? with keyAllowed := true }).closePair
  return (← ({ s with cursor := s.cursor.content 1 }).skipLine?).push .flowEntry column

/-- The hyphen of an entry of a block sequence. -/
def hyphen? (s : Scan) : Option Scan := do
  guard (s.flow = 0 && s.keyAllowed)
  let column := s.cursor.column
  match s.tokens.back? with
  | some (.anchor _, 0) | some (.tag _, 0) => guard !(column = 0 ∧ -1 < s.indent)
  | _ => pure ()
  let s := ({ s with cursor := s.cursor.content 1 }).openBlock column none .blockSequenceStart
  let passed ← s.cursor.restOfLine? true
  guard !(passed.tab && passed.cursor.rest.head? = some '-' && endsWord (passed.cursor.rest.drop 1))
  let s := { s with cursor := ← passed.cursor.skipLine? false }
  let bare := s.cursor.rest.head?.any fun x => isBreak x || isFlow x
  let s := if bare then s.openColumn else s
  let s := { ← s.dropPlace? with keyAllowed := true }
  return s.push .blockEntry s.cursor.column

/-- The question mark of a key. -/
def questionMark? (s : Scan) : Option Scan := do
  let column := s.cursor.column
  let s ←
    if s.flow = 0 then do
      guard s.keyAllowed
      pure (s.openBlock column none .blockMappingStart)
    else pure { s with mappingStarted := true }
  let s := { ← s.dropPlace? with keyAllowed := s.flow = 0 }
  let s := { s with cursor := s.cursor.content 1 }
  let (passed, s) := skipKeyGap (s.cursor.rest.length + 1) false s
  guard (passed && s.cursor.rest.head? ≠ some '\t')
  return s.push .key column

/-- The colon of a value. -/
def colon? (s : Scan) : Option Scan := do
  let place := s.places.head?.getD KeyPlace.none
  let start := s.cursor
  let s := { s with pairOpen := 0 < s.flow && !s.mappingStarted, cursor := s.cursor.content 1 }
  let s ←
    if s.cursor.rest.head? = some '\t' then do
      let passed ← s.cursor.restOfLine? true
      guard (passed.space || !passed.cursor.rest.head?.any isWord)
      pure { s with cursor := passed.cursor }
    else pure s
  if place.possible then
    let s := s.insertToken place.token .key
    guard !(s.pairOpen && place.line < start.line)
    let s := if s.pairOpen then s.insertToken place.token .flowMappingStart else s
    let s := (s.openBlock place.column (some place.token) .blockMappingStart).openColumn
    let s := { s with
      places := { place with possible := false } :: s.places.drop 1
      keyAllowed := false }
    return s.push .value start.column
  else
    let s := if s.pairOpen then s.push .flowMappingStart s.cursor.column else s
    guard (0 < s.flow || s.keyAllowed)
    let s := if s.flow = 0 then s.openBlock start.column none .blockMappingStart else s
    let s := { s.openColumn with keyAllowed := s.flow = 0 }
    return s.push .value start.column

/-- Characters of names of anchors. -/
def isAnchorChar (c : Char) : Bool := !(isBreak c || isBlank c || isFlow c || c.toNat = 0xFEFF)

/-- An anchor, or an alias of one. -/
def anchor? (s : Scan) (token : String → Token) : Option Scan := do
  let column := s.cursor.column
  let s := { s.savePlace with keyAllowed := false }
  let (name, cursor) := (s.cursor.content 1).takeContent isAnchorChar
  guard !name.isEmpty
  return ({ s with cursor }).push (token (String.ofList name)) column

/-- A tag. -/
def tag? (s : Scan) : Option Scan := do
  let column := s.cursor.column
  let s := { s.savePlace with keyAllowed := false }
  let (t, rest) ← Tag.scan? s.cursor.rest
  guard (endsWord rest || (0 < s.flow && rest.head?.any isFlow))
  let cursor := s.cursor.content (s.cursor.rest.length - rest.length)
  return ({ s with cursor }).push (.tag t) column

/-- A scalar in quotes. -/
def quoted? (s : Scan) (single : Bool) : Option Scan := do
  let column := s.cursor.column
  let s := { s.savePlace with keyAllowed := false }
  let (text, cursor) ← Yaml.quoted? single s.indent s.flow s.cursor
  let s ← skipFiller? (cursor.rest.length + 1) { s with cursor }
  return ({ s with adjacent := s.cursor.index }).push (.scalar false (String.ofList text)) column

/-- A scalar in a block. -/
def block? (s : Scan) (literal : Bool) : Option Scan := do
  let column := s.cursor.column
  let s := ({ s.savePlace with keyAllowed := true }).closeColumns
  let (text, cursor) ← Yaml.block? literal s.indent s.cursor
  return ({ s with cursor }).push (.scalar false (String.ofList text)) column

/-- A plain scalar. -/
def plain? (s : Scan) : Option Scan := do
  let column := s.cursor.column
  let s := ({ s.savePlace with keyAllowed := false }).closeColumns
  let (text, cursor) ← Yaml.plain? s.flow s.indent s.cursor
  let s := { s with cursor, keyAllowed := cursor.fresh }
  return s.push (.scalar true (String.ofList text)) column

/-- A directive, up to the end of its line. Those that are not known are skipped. -/
def directive? (s : Scan) : Option Scan := do
  let column := s.cursor.column
  let s := { ← (s.closeBlocks (-1)).dropPlace? with keyAllowed := false }
  let (name, cursor) := (s.cursor.content 1).takeContent isWord
  guard (!name.isEmpty && endsWord cursor.rest)
  let number? (c : Cursor) : Option Cursor := do
    let (digits, c) := c.takeContent Char.isDigit
    guard (!digits.isEmpty && digits.length ≤ 9)
    return c
  let at? (c : Cursor) (rest : List Char) : Cursor := c.content (c.rest.length - rest.length)
  let (t, cursor) ←
    if name = "YAML".toList then do
      let cursor ← number? cursor.blanks
      guard (cursor.rest.head? = some '.')
      pure (Token.version, ← number? (cursor.content 1))
    else if name = "TAG".toList then do
      let cursor := cursor.blanks
      let (handle, rest) ← handle? true cursor.rest
      let cursor := (at? cursor rest).blanks
      let (meaning, rest) ← handleMeaning? cursor.rest
      guard (endsWord rest)
      pure (Token.handle (String.ofList handle) (String.ofList meaning), at? cursor rest)
    else pure (Token.handle "" "", cursor.comment)
  let cursor ← cursor.skipLine? true
  guard (endsLine cursor.rest)
  return ({ s with cursor := cursor.newline }).push t column

/-- The mark of the start or of the end of a document. -/
def marker? (s : Scan) (t : Token) : Option Scan := do
  let column := s.cursor.column
  let s := { ← (s.closeBlocks (-1)).dropPlace? with keyAllowed := false }
  return ({ s with cursor := s.cursor.content 3 }).push t column

/-- The end of the text. -/
def finish? (s : Scan) : Option Scan := do
  guard !(s.places.any fun p => p.possible && p.required)
  return s.closeBlocks (-1)

/-- The token that begins with a character, followed by the given rest. -/
def tokenAt? (s : Scan) (x : Char) (rest : List Char) : Option Scan :=
  let beforeFlow := rest.head?.any isFlow
  if x = '[' then s.openFlow? .flowSequenceStart
  else if x = '{' then s.openFlow? .flowMappingStart
  else if x = ']' then s.closeFlow? .flowSequenceEnd
  else if x = '}' then s.closeFlow? .flowMappingEnd
  else if x = ',' then s.comma?
  else if x = '-' && endsWord rest then s.hyphen?
  else if x = '?' && endsWord rest then s.questionMark?
  else if x = ':' && (endsWord rest ||
      (0 < s.flow && (beforeFlow || s.cursor.index = s.adjacent))) then s.colon?
  else if x = '*' then s.anchor? .reference
  else if x = '&' then s.anchor? .anchor
  else if x = '!' then s.tag?
  else if x = '|' && s.flow = 0 then s.block? true
  else if x = '>' && s.flow = 0 then s.block? false
  else if x = '\'' then s.quoted? true
  else if x = '"' then s.quoted? false
  else if x = '%' || x = '@' || x = '\x60' then none
  else s.plain?

/-- Scan to the end of the text; every step of the fuel passes at least one character. -/
def run? : (fuel : Nat) → Scan → Option Scan
  | 0, _ => none
  | fuel + 1, s => do
    let s ← skipFiller? (s.cursor.rest.length + 1) s
    let s := (← s.dropStale?).closeBlocks s.cursor.column
    match s.cursor.rest with
    | [] => s.finish?
    | x :: rest =>
      let first := s.cursor.column = 0
      if first && x = '%' then run? fuel (← s.directive?)
      else if first && isMarker '-' (x :: rest) then run? fuel (← s.marker? .documentStart)
      else if first && isMarker '.' (x :: rest) then do
        let s ← (← s.marker? .documentEnd).skipLine?
        guard (endsLine s.cursor.rest)
        run? fuel s
      else do
        guard !((s.cursor.column : Int) < s.indent)
        run? fuel (← s.tokenAt? x rest)

end Scan

/-- The tokens of a text, which ends at its first NUL. -/
def Token.scan? (text : String) : Option (List Token) := do
  let cs := text.toList.takeWhile (· ≠ '\x00')
  let start : Scan := {
    cursor := Cursor.ofText cs, tokens := #[], places := [KeyPlace.none], keyAllowed := true
    indent := -1, indents := [], flow := 0, adjacent := 0
    mappingStarted := false, pairOpen := false }
  return (← start.run? (cs.length + 2)).tokens.toList.map Prod.fst

end GrantConfig.Yaml
