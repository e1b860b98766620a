import GrantConfig.Toml.Value

/-!
# Reading TOML

Version 1.0 of the format, without concessions. Values nest less than 80 deep and a key has less
than 80 parts.
-/

namespace GrantConfig.Toml

/-- The greatest nesting of values and length of keys, plus one. -/
def depthLimit : Nat := 80

/-- Characters of bare keys. -/
def isBare (c : Char) : Bool := c.isAlphanum || c = '_' || c = '-'

/-- One part of a key. -/
def keyPart? (cs : List Char) : Option (String × List Char) :=
  match cs with
  | '"' :: rest => (basicString (rest.length + 1) rest).map fun (s, rest) => (String.ofList s, rest)
  | '\'' :: rest => (literalString rest).map fun (s, rest) => (String.ofList s, rest)
  | _ =>
    let part := cs.takeWhile isBare
    if part.isEmpty then none else some (String.ofList part, cs.dropWhile isBare)

/-- The parts of a key with dots between them, and the rest without blanks in front. -/
def keyParts? : (fuel : Nat) → List Char → Option (List String × List Char)
  | 0, _ => none
  | fuel + 1, cs => do
    let (part, rest) ← keyPart? (skipBlanks cs)
    match skipBlanks rest with
    | '.' :: rest =>
      let (parts, rest) ← keyParts? fuel rest
      return (part :: parts, rest)
    | rest => return ([part], rest)

/-- A key as the path of tables before its last part, that part, and the rest. -/
def key? (cs : List Char) : Option (List String × String × List Char) := do
  let (parts, rest) ← keyParts? (depthLimit - 1) cs
  return (parts.dropLast, ← parts.getLast?, rest)

/-- Text after a comment, which ends before its line break. -/
def skipComment (cs : List Char) : List Char :=
  match cs with
  | '#' :: rest => rest.dropWhile isContent
  | _ => cs

/-- Text without the blanks, comments and line breaks in front. -/
def skipFiller : (fuel : Nat) → List Char → List Char
  | 0, cs => cs
  | fuel + 1, cs =>
    let rest := skipComment (skipBlanks cs)
    match newline? rest with
    | some rest => skipFiller fuel rest
    | none => if rest.length < cs.length then skipFiller fuel rest else rest

/-- Text after the end of a line: blanks, a comment, and a line break unless the text ends. -/
def endLine? (cs : List Char) : Option (List Char) :=
  match skipComment (skipBlanks cs) with
  | [] => some []
  | rest => newline? rest

mutual

/-- Read a value. Every step of the fuel reads a character or enters a part of the text that
does; `depth` levels of nesting are left. -/
def readValue : (fuel depth : Nat) → List Char → Option (Value × List Char)
  | 0, _, _ => none
  | fuel + 1, depth, cs =>
    match cs with
    | '"' :: _ | '\'' :: _ => (readString cs).map fun (s, rest) => (.text (String.ofList s), rest)
    | 't' :: 'r' :: 'u' :: 'e' :: rest => some (.boolean true, rest)
    | 'f' :: 'a' :: 'l' :: 's' :: 'e' :: rest => some (.boolean false, rest)
    | '[' :: rest =>
      if depth ≤ 1 then none
      else (readItems fuel (depth - 1) rest).map fun (items, rest) => (.array items, rest)
    | '{' :: rest =>
      if depth ≤ 1 then none
      else
        match skipBlanks rest with
        | '}' :: rest => some (.table [], rest)
        | rest =>
          (readPairs fuel (depth - 1) [] rest).map fun (entries, rest) =>
            (.table (entriesToValue entries), rest)
    | cs => do
      match ← moment? cs with
      | some (s, rest) => return (.text s, rest)
      | none =>
        match ← number? cs with
        | (.integer n, rest) => return (.integer n, rest)
        | (.float x, rest) => return (.float x, rest)

/-- Read the items of an array up to its closing bracket. -/
def readItems : (fuel depth : Nat) → List Char → Option (List Value × List Char)
  | 0, _, _ => none
  | fuel + 1, depth, cs =>
    match skipFiller (cs.length + 1) cs with
    | ']' :: rest => some ([], rest)
    | cs => do
      let (item, rest) ← readValue fuel depth cs
      match skipFiller (rest.length + 1) rest with
      | ',' :: rest =>
        let (items, rest) ← readItems fuel depth rest
        return (item :: items, rest)
      | ']' :: rest => return ([item], rest)
      | _ => none

/-- Read the pairs of an inline table up to its closing brace. -/
def readPairs : (fuel depth : Nat) → Entries → List Char → Option (Entries × List Char)
  | 0, _, _, _ => none
  | fuel + 1, depth, entries, cs => do
    let (path, key, rest) ← key? cs
    let rest ← expect? '=' rest
    let (v, rest) ← readValue fuel depth (skipBlanks rest)
    let entries ← addPair path key v .explicit entries
    match skipBlanks rest with
    | ',' :: rest => readPairs fuel depth entries rest
    | '}' :: rest => return (entries, rest)
    | _ => none

end

/-- A document as far as it has been read: its tables and the path of the open one. -/
structure Draft where
  root : Entries
  path : List String

/-- Read the header of a table or of a row of an array. -/
def header? (draft : Draft) (cs : List Char) : Option (Draft × List Char) := do
  match cs with
  | '[' :: '[' :: rest =>
    let (path, key, rest) ← key? rest
    let rest ← expect? ']' (← expect? ']' rest)
    return (⟨← openRow path key draft.root, path ++ [key]⟩, rest)
  | '[' :: rest =>
    let (path, key, rest) ← key? rest
    let rest ← expect? ']' rest
    return (⟨← openTable path key draft.root, path ++ [key]⟩, rest)
  | _ => none

/-- Read a key and its value in the open table. -/
def pair? (draft : Draft) (cs : List Char) : Option (Draft × List Char) := do
  let (path, key, rest) ← key? cs
  let rest ← expect? '=' rest
  let (v, rest) ← readValue (2 * rest.length + 2) depthLimit (skipBlanks rest)
  let root ← updateAt false (addPair path key v) draft.path .explicit draft.root
  return (⟨root, draft.path⟩, rest)

/-- Read the lines of a document; every step of the fuel reads one line. -/
def readLines : (fuel : Nat) → Draft → List Char → Option Draft
  | 0, _, _ => none
  | fuel + 1, draft, cs =>
    match skipBlanks cs with
    | [] => some draft
    | cs =>
      match (if cs.head? = some '#' then some (skipComment cs) else some cs).bind newline? with
      | some rest => readLines fuel draft rest
      | none =>
        match cs with
        | '#' :: _ => if (skipComment cs).isEmpty then some draft else none
        | '[' :: _ => do
          let (draft, rest) ← header? draft cs
          readLines fuel draft (← endLine? rest)
        | _ => do
          let (draft, rest) ← pair? draft cs
          readLines fuel draft (← endLine? rest)

/-- The root table of a document. A byte order mark in front is skipped. -/
def parse? (text : String) : Option (List (String × Value)) := do
  let cs :=
    match text.toList with
    | c :: rest => if c.toNat = 0xFEFF then rest else c :: rest
    | [] => []
  return entriesToValue (← readLines (cs.length + 1) ⟨[], []⟩ cs).root

end GrantConfig.Toml
