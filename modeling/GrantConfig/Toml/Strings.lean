import GrantConfig.Decimal.Reading

/-!
# TOML strings

The four forms of strings. Line breaks inside a string are kept as line feeds; a backslash before
a line break drops it with the blanks that follow; and up to two quotes may stand next to the
closing quotes of a string of several lines.
-/

namespace GrantConfig.Toml

/-- Blanks within a line. -/
def isBlank (c : Char) : Bool := c = ' ' || c = '\t'

/-- Text without the blanks in front. -/
def skipBlanks (cs : List Char) : List Char := cs.dropWhile isBlank

/-- Characters that may stand in comments and strings: no controls but the tab. -/
def isContent (c : Char) : Bool := c = '\t' || (0x20 ≤ c.toNat && c.toNat ≠ 0x7F)

/-- Text after a line break, if it begins with one. -/
def newline? : List Char → Option (List Char)
  | '\n' :: rest => some rest
  | '\r' :: '\n' :: rest => some rest
  | _ => none

/-- Text without the blanks and line breaks in front. -/
def skipLines : List Char → List Char
  | ' ' :: rest => skipLines rest
  | '\t' :: rest => skipLines rest
  | '\n' :: rest => skipLines rest
  | '\r' :: '\n' :: rest => skipLines rest
  | cs => cs

/-- The character of a code point, which must not be a surrogate. -/
def scalar? (n : Nat) : Option Char :=
  if n < 0xD800 ∨ (0xE000 ≤ n ∧ n < 0x110000) then some (Char.ofNat n) else none

/-- The character of an escape after its backslash, and the rest. -/
def escape? : List Char → Option (Char × List Char)
  | 'b' :: rest => some ('\x08', rest)
  | 't' :: rest => some ('\t', rest)
  | 'n' :: rest => some ('\n', rest)
  | 'f' :: rest => some ('\x0c', rest)
  | 'r' :: rest => some ('\r', rest)
  | '"' :: rest => some ('"', rest)
  | '\\' :: rest => some ('\\', rest)
  | 'u' :: a :: b :: c :: d :: rest => do
    return (← scalar? (← Decimal.natural? 16 [a, b, c, d]), rest)
  | 'U' :: a :: b :: c :: d :: e :: f :: g :: h :: rest => do
    return (← scalar? (← Decimal.natural? 16 [a, b, c, d, e, f, g, h]), rest)
  | _ => none

/-- Put a character before a text that was read. -/
def consChar (c : Char) (read : List Char × List Char) : List Char × List Char :=
  (c :: read.1, read.2)

/-- A string in double quotes on one line, after its opening quote. Every step of the fuel reads
a character. -/
def basicString : (fuel : Nat) → List Char → Option (List Char × List Char)
  | 0, _ => none
  | _, [] => none
  | fuel + 1, c :: rest =>
    if c = '"' then some ([], rest)
    else if c = '\\' then do
      let (e, rest) ← escape? rest
      return consChar e (← basicString fuel rest)
    else if isContent c then (basicString fuel rest).map (consChar c)
    else none

/-- A string in apostrophes on one line, after its opening one. -/
def literalString : List Char → Option (List Char × List Char)
  | [] => none
  | c :: rest =>
    if c = '\'' then some ([], rest)
    else if isContent c then (literalString rest).map (consChar c)
    else none

/-- The closing quotes of a string of several lines: how many quotes belong to the string. -/
def closing? (quote : Char) (cs : List Char) : Option (Nat × List Char) :=
  let run := (cs.takeWhile (· = quote)).length
  if run < 3 then none else some (min run 5 - 3, cs.drop (min run 5))

/-- A string of several lines after its opening quotes and the line break behind them. -/
def linesString (quote : Char) : (fuel : Nat) → List Char → Option (List Char × List Char)
  | 0, _ => none
  | _, [] => none
  | fuel + 1, c :: rest =>
    match closing? quote (c :: rest) with
    | some (inner, after) => some (List.replicate inner quote, after)
    | none =>
      match newline? (c :: rest) with
      | some rest => (linesString quote fuel rest).map (consChar '\n')
      | none =>
        if c = '\\' && quote = '"' then
          match newline? (skipBlanks rest) with
          | some rest => linesString quote fuel (skipLines rest)
          | none => do
            let (e, rest) ← escape? rest
            return consChar e (← linesString quote fuel rest)
        else if isContent c then (linesString quote fuel rest).map (consChar c)
        else none

/-- Text without one line break in front. -/
def dropNewline (cs : List Char) : List Char := (newline? cs).getD cs

/-- Any of the four forms of strings. -/
def readString (cs : List Char) : Option (List Char × List Char) :=
  match cs with
  | '"' :: '"' :: '"' :: rest => linesString '"' (rest.length + 1) (dropNewline rest)
  | '\'' :: '\'' :: '\'' :: rest => linesString '\'' (rest.length + 1) (dropNewline rest)
  | '"' :: rest => basicString (rest.length + 1) rest
  | '\'' :: rest => literalString rest
  | _ => none

end GrantConfig.Toml
