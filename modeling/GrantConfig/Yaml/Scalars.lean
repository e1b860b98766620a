import GrantConfig.Decimal.Reading
import GrantConfig.Yaml.Cursor

/-!
# YAML scalars

The texts of scalars: quoted in either way, in blocks, and plain. Line breaks within a quoted or
plain scalar fold to a space, and further ones are kept. A block keeps its lines or folds them,
and its end is kept, clipped to one line break or stripped.
-/

namespace GrantConfig.Yaml

/-- Blanks and line breaks between two words of a scalar, as they fold. -/
structure Gap where
  blanks : List Char
  first : Bool
  more : List Char

/-- No blanks and no line breaks. -/
def Gap.none : Gap := ⟨[], false, []⟩

/-- What a gap contributes to a folded text: blanks of one line stand as they are, one line break
is a space, and further ones are kept. -/
def Gap.folded (g : Gap) : List Char :=
  if !g.first then g.blanks ++ g.more
  else if g.more.isEmpty then [' ']
  else g.more

/-- The character of a code point, which must not be a surrogate. -/
def scalar? (n : Nat) : Option Char :=
  if n < 0xD800 ∨ (0xE000 ≤ n ∧ n < 0x110000) then some (Char.ofNat n) else none

/-- The character of a one-letter escape. -/
def shortEscape? : Char → Option Char
  | '0' => some '\x00'
  | 'a' => some '\x07'
  | 'b' => some '\x08'
  | 't' => some '\t'
  | '\t' => some '\t'
  | 'n' => some '\n'
  | 'v' => some '\x0b'
  | 'f' => some '\x0c'
  | 'r' => some '\r'
  | 'e' => some '\x1b'
  | ' ' => some ' '
  | '"' => some '"'
  | '/' => some '/'
  | '\\' => some '\\'
  | 'N' => some (Char.ofNat 0x85)
  | '_' => some (Char.ofNat 0xA0)
  | 'L' => some (Char.ofNat 0x2028)
  | 'P' => some (Char.ofNat 0x2029)
  | _ => none

/-- The number of digits of an escape by code point. -/
def longEscape? : Char → Option Nat
  | 'x' => some 2
  | 'u' => some 4
  | 'U' => some 8
  | _ => none

/-- Read an escape after its backslash: its character, and how many characters it takes. -/
def escape? (cs : List Char) : Option (Char × Nat) := do
  let mark ← cs.head?
  match longEscape? mark with
  | some count =>
    let ds := (cs.drop 1).take count
    guard (ds.length = count)
    return (← scalar? (← Decimal.natural? 16 ds), count + 1)
  | none => return (← shortEscape? mark, 1)

/-- Pass the blanks and line breaks inside a quoted scalar. After a line break, a tab must not
stand left of the indentation. `broken` tells whether a line break was passed. -/
def quotedGap (indent : Int) : (fuel : Nat) → (broken : Bool) → Gap → Cursor →
    Option (Gap × Bool × Cursor)
  | 0, _, _, _ => none
  | fuel + 1, broken, gap, c =>
    match c.rest with
    | x :: _ =>
      if isBlank x then
        if broken then
          if x = '\t' ∧ (c.column : Int) < indent then none
          else quotedGap indent fuel true gap c.blank
        else quotedGap indent fuel false { gap with blanks := gap.blanks ++ [x] } c.blank
      else if isBreak x then
        if broken then quotedGap indent fuel true { gap with more := gap.more ++ ['\n'] } c.newline
        else quotedGap indent fuel true { gap with blanks := [], first := true } c.newline
      else some (gap, broken, c)
    | [] => some (gap, broken, c)

/-- Read a run of a quoted scalar up to a blank, a line break or a quote. Also tells whether it
ended in an escaped line break. -/
def quotedRun (single : Bool) : (fuel : Nat) → Cursor → Option (List Char × Bool × Cursor)
  | 0, _ => none
  | fuel + 1, c =>
    if endsWord c.rest then some ([], false, c)
    else
      match c.rest with
      | '\'' :: '\'' :: _ =>
        if single then
          (quotedRun single fuel (c.content 2)).map fun (cs, e) => ('\'' :: cs, e)
        else (quotedRun single fuel (c.content 1)).map fun (cs, e) => ('\'' :: cs, e)
      | '\'' :: _ =>
        if single then some ([], false, c)
        else (quotedRun single fuel (c.content 1)).map fun (cs, e) => ('\'' :: cs, e)
      | '"' :: _ =>
        if single then (quotedRun single fuel (c.content 1)).map fun (cs, e) => ('"' :: cs, e)
        else some ([], false, c)
      | '\\' :: more =>
        if single then (quotedRun single fuel (c.content 1)).map fun (cs, e) => ('\\' :: cs, e)
        else if !more.isEmpty && endsLine more then some ([], true, (c.content 1).newline)
        else do
          let (x, n) ← escape? more
          let (cs, e) ← quotedRun single fuel (c.content (n + 1))
          return (x :: cs, e)
      | x :: _ => (quotedRun single fuel (c.content 1)).map fun (cs, e) => (x :: cs, e)
      | [] => none

/-- Read a quoted scalar after its opening quote, up to its closing one. -/
def quotedBody (single : Bool) (indent : Int) : (fuel : Nat) → Cursor →
    Option (List Char × Cursor)
  | 0, _ => none
  | fuel + 1, c => do
    guard !(c.column = 0 && (isMarker '-' c.rest || isMarker '.' c.rest))
    guard !c.rest.isEmpty
    guard !((c.column : Int) < indent)
    let (run, escaped, c) ← quotedRun single (c.rest.length + 1) c
    let quote := if single then '\'' else '"'
    if c.rest.head? = some quote then return (run, c)
    else
      let (gap, _, c) ← quotedGap indent (c.rest.length + 1) escaped Gap.none c
      let (more, c) ← quotedBody single indent fuel c
      return (run ++ gap.folded ++ more, c)

/-- Read a quoted scalar. Only certain content may follow it on its line. -/
def quoted? (single : Bool) (indent : Int) (flow : Nat) (c : Cursor) :
    Option (List Char × Cursor) := do
  let (text, after) ← quotedBody single indent (c.rest.length + 1) (c.content 1)
  let after ← (after.content 1).skipLine? true
  match after.rest with
  | [] => return (text, after)
  | x :: _ =>
    guard (isBreak x || (flow > 0 && (x = ',' || x = '}' || x = ']' || x = ':')) ||
      (flow = 0 && x = ':' && c.line = after.line))
    return (text, after)

/-- How a block scalar ends. -/
inductive Chomping where
  | strip
  | clip
  | keep
deriving DecidableEq

/-- Pass the indentation of the lines of a block, and the lines that have nothing else. -/
def blockIndent (indent : Nat) : (fuel : Nat) → Cursor → List Char × Cursor
  | 0, c => ([], c)
  | fuel + 1, c =>
    let spaces := ((c.rest.take (indent - c.column)).takeWhile (· = ' ')).length
    let c : Cursor :=
      { c with
        rest := c.rest.drop spaces
        index := c.index + spaces
        column := c.column + spaces }
    if !c.rest.isEmpty && endsLine c.rest then
      let (breaks, c) := blockIndent indent fuel c.newline
      ('\n' :: breaks, c)
    else ([], c)

/-- Pass the indentation of the first lines of a block, which decides that of the others. -/
def firstIndent : (fuel : Nat) → (most : Nat) → Cursor → Nat × List Char × Cursor
  | 0, most, c => (most, [], c)
  | fuel + 1, most, c =>
    let spaces := (c.rest.takeWhile (· = ' ')).length
    let c : Cursor :=
      { c with
        rest := c.rest.drop spaces
        index := c.index + spaces
        column := c.column + spaces }
    let most := max most c.column
    if !c.rest.isEmpty && endsLine c.rest then
      let (indent, breaks, c) := firstIndent fuel most c.newline
      (indent, '\n' :: breaks, c)
    else (most, [], c)

/-- The lines of a block scalar as far as they have been read: the text, the line break after the
last line, those of empty lines after it, and whether the last line began with a blank. -/
structure BlockDraft where
  text : List Char
  lastBreak : List Char
  emptyLines : List Char
  blankLine : Bool

/-- Read the lines of a block scalar. -/
def blockLines (literal : Bool) (indent : Nat) : (fuel : Nat) → BlockDraft → Cursor →
    BlockDraft × Cursor
  | 0, d, c => (d, c)
  | fuel + 1, d, c =>
    if c.column ≠ indent ∨ c.rest.isEmpty then (d, c)
    else if indent = 0 ∧ isMarker '.' c.rest then (d, c)
    else
      let blankLine := c.rest.head?.any isBlank
      let joint :=
        if !literal && !d.lastBreak.isEmpty && !d.blankLine && !blankLine then
          if d.emptyLines.isEmpty then [' '] else d.emptyLines
        else d.lastBreak ++ d.emptyLines
      let (line, c) := c.takeContent fun x => !isBreak x
      let text := d.text ++ joint ++ line
      if c.rest.isEmpty then (⟨text, [], [], blankLine⟩, c)
      else
        let (empty, c) := blockIndent indent (c.rest.length + 1) c.newline
        blockLines literal indent fuel ⟨text, ['\n'], empty, blankLine⟩ c

/-- The marks after the indicator of a block scalar: how it ends, and its indentation. -/
def blockHeader? (c : Cursor) : Option (Chomping × Nat × Cursor) := do
  let chomp (x : Char) : Option Chomping :=
    if x = '+' then some .keep else if x = '-' then some .strip else none
  let digit (x : Char) : Option Nat := Decimal.digitValue? 10 x
  match c.rest with
  | x :: more =>
    match chomp x with
    | some chomping =>
      match more.head?.bind digit with
      | some n =>
        guard (n ≠ 0)
        return (chomping, n, c.content 2)
      | none => return (chomping, 0, c.content 1)
    | none =>
      match digit x with
      | some n =>
        guard (n ≠ 0)
        match more.head?.bind chomp with
        | some chomping => return (chomping, n, c.content 2)
        | none => return (.clip, n, c.content 1)
      | none => return (.clip, 0, c)
  | [] => return (.clip, 0, c)

/-- Read a block scalar from its indicator on, inside a block of the given indentation. -/
def block? (literal : Bool) (parent : Int) (c : Cursor) : Option (List Char × Cursor) := do
  let startLine := c.line
  let (chomping, increment, c) ← blockHeader? (c.content 1)
  let c ← c.skipLine? true
  guard (endsLine c.rest)
  let chompBreak := if c.rest.isEmpty then [] else ['\n']
  let c := c.newline
  guard (c.rest.head? ≠ some '\t')
  let (indent, empty, c) :=
    if increment > 0 then
      let indent := if 0 ≤ parent then parent.toNat + increment else increment
      let (empty, c) := blockIndent indent (c.rest.length + 1) c
      (indent, empty, c)
    else
      let (most, empty, c) := firstIndent (c.rest.length + 1) 0 c
      let indent := max most (parent + 1).toNat
      (if 0 < parent then max indent 1 else indent, empty, c)
  if c.rest.isEmpty then
    let text :=
      if chomping = .strip ∨ c.line = startLine then []
      else if chomping = .clip ∨ empty.isEmpty then chompBreak
      else empty
    return (text, c)
  guard !(c.column < indent ∧ (c.column : Int) > parent)
  let (d, c) := blockLines literal indent (c.rest.length + 1) ⟨[], [], empty, false⟩ c
  let text :=
    if chomping = .strip then d.text
    else
      d.text ++ d.lastBreak ++ (if c.rest.isEmpty && max indent 1 ≤ c.column then ['\n'] else [])
  return (if chomping = .keep then text ++ d.emptyLines else text, c)

/-- Whether a plain scalar may go on with the character in front. -/
def continuesPlain (flow : Nat) : List Char → Bool
  | [] => false
  | x :: rest =>
    let ends : Bool :=
      if x = ':' then endsWord rest || (flow > 0 && rest.head?.any isFlow)
      else flow > 0 && isFlow x
    !(isBlank x || isBreak x || ends)

/-- Read a run of a plain scalar up to a blank or its end. -/
def plainRun (flow : Nat) : List Char → List Char
  | [] => []
  | x :: rest => if continuesPlain flow (x :: rest) then x :: plainRun flow rest else []

/-- Pass the blanks and line breaks inside a plain scalar. Left of the indentation, a tab may
stand only in lines with nothing else. -/
def plainGap (indent : Int) : (fuel : Nat) → Gap → Cursor → Option (Gap × Cursor)
  | 0, _, _ => none
  | fuel + 1, gap, c =>
    match c.rest with
    | x :: _ =>
      if isBlank x then
        if !c.fresh then plainGap indent fuel { gap with blanks := gap.blanks ++ [x] } c.blank
        else if (c.column : Int) < indent ∧ x = '\t' then do
          let c ← c.skipLine? true
          guard (endsLine c.rest)
          plainGap indent fuel gap c
        else plainGap indent fuel gap c.blank
      else if isBreak x then
        if c.fresh then plainGap indent fuel { gap with more := gap.more ++ ['\n'] } c.newline
        else plainGap indent fuel { gap with blanks := [], first := true } c.newline
      else some (gap, c)
    | [] => some (gap, c)

/-- Read a plain scalar from here on; `gap` stands between what was read and what follows. -/
def plainBody (flow : Nat) (indent : Int) : (fuel : Nat) → Gap → Cursor →
    Option (List Char × Cursor)
  | 0, _, _ => none
  | fuel + 1, gap, c => do
    if c.column = 0 && (isMarker '-' c.rest || isMarker '.' c.rest) then return ([], c)
    if c.rest.head? = some '#' then return ([], c)
    guard !(flow > 0 && c.rest.head? = some '-' && (c.rest.drop 1).head?.any isFlow)
    let run := plainRun flow c.rest
    let (head, gap, c) :=
      if run.isEmpty then ([], gap, c) else (gap.folded ++ run, Gap.none, c.content run.length)
    if c.rest.isEmpty || !endsWord c.rest then return (head, c)
    let (gap, c) ← plainGap indent (c.rest.length + 1) gap c
    if flow = 0 ∧ (c.column : Int) < indent then return (head, c)
    let (more, c) ← plainBody flow indent fuel gap c
    return (head ++ more, c)

/-- Read a plain scalar inside a block of the given indentation. -/
def plain? (flow : Nat) (parent : Int) (c : Cursor) : Option (List Char × Cursor) := do
  guard !(flow > 0 ∧ (c.column : Int) < parent + 1)
  plainBody flow (parent + 1) (c.rest.length + 1) Gap.none c

end GrantConfig.Yaml
