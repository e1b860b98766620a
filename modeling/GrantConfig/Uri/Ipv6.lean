import GrantConfig.Decimal.Reading
import GrantConfig.Text.Quoted
import GrantConfig.Text.Split

/-!
# IPv6 addresses

An address of eight pieces of 16 bits. One run of zero pieces may be left out, and the last two
pieces may be written as an IPv4 address. The canonical text leaves out the first of the longest
runs of at least two zero pieces.
-/

namespace GrantConfig.Uri.Ipv6

/-- Read up to four hexadecimal digits. -/
def hexPiece : (fuel : Nat) → (value : Nat) → List Char → Nat × List Char
  | 0, value, cs => (value, cs)
  | _, value, [] => (value, [])
  | fuel + 1, value, c :: rest =>
    match Decimal.digitValue? 16 c with
    | some d => hexPiece fuel (value * 16 + d) rest
    | none => (value, c :: rest)

/-- A decimal number below 256 without leading zeros. -/
def byte? (cs : List Char) : Option Nat := do
  let n ← Decimal.natural? 10 cs
  guard (n < 256 ∧ (cs.length = 1 ∨ cs.head? ≠ some '0'))
  return n

/-- The two pieces that a trailing IPv4 address writes. -/
def trailing? (cs : List Char) : Option (List Nat) := do
  match ← (Text.pieces (· = '.') cs).mapM byte? with
  | [a, b, c, d] => return [a * 256 + b, c * 256 + d]
  | _ => none

/-- The pieces read so far, with the place where a run of zeros was left out. -/
structure Draft where
  pieces : List Nat
  gap : Option Nat

/-- Read the pieces from here on; each step reads a colon or a piece. -/
def readPieces : (fuel : Nat) → Draft → List Char → Option Draft
  | 0, _, _ => none
  | _, draft, [] => some draft
  | fuel + 1, draft, cs => do
    guard (draft.pieces.length < 8)
    match cs with
    | ':' :: rest =>
      guard draft.gap.isNone
      readPieces fuel { draft with gap := some draft.pieces.length } rest
    | _ =>
      let (value, rest) := hexPiece 4 0 cs
      match rest with
      | '.' :: _ =>
        guard (rest.length < cs.length)
        return { draft with pieces := draft.pieces ++ (← trailing? cs) }
      | ':' :: rest =>
        guard !rest.isEmpty
        readPieces fuel { draft with pieces := draft.pieces ++ [value] } rest
      | [] => return { draft with pieces := draft.pieces ++ [value] }
      | _ => none

/-- The eight pieces of an address. -/
def parse? (cs : List Char) : Option (List Nat) := do
  let draft ←
    match cs with
    | ':' :: ':' :: rest => readPieces (rest.length + 1) ⟨[], some 0⟩ rest
    | ':' :: _ => none
    | [] => none
    | _ => readPieces (cs.length + 1) ⟨[], none⟩ cs
  match draft.gap with
  | none =>
    guard (draft.pieces.length = 8)
    return draft.pieces
  | some gap =>
    guard (draft.pieces.length ≤ 7)
    return draft.pieces.take gap ++ List.replicate (8 - draft.pieces.length) 0 ++
      draft.pieces.drop gap

/-- The number of zero pieces at the front. -/
def zeroRun : List Nat → Nat
  | 0 :: rest => zeroRun rest + 1
  | _ => 0

/-- The place and length of the first longest run of zero pieces, looking from place `i` on. -/
def longestRun (i : Nat) : List Nat → Nat × Nat
  | [] => (i, 0)
  | n :: rest =>
    let here := zeroRun (n :: rest)
    let later := longestRun (i + 1) rest
    if later.2 ≤ here then (i, here) else later

/-- Pieces in hexadecimal with colons between them. -/
def hexText (pieces : List Nat) : String :=
  ":".intercalate (pieces.map Text.Quoted.hexadecimal)

/-- The canonical text of an address. -/
def text (pieces : List Nat) : String :=
  let (place, length) := longestRun 0 pieces
  if length < 2 then hexText pieces
  else hexText (pieces.take place) ++ "::" ++ hexText (pieces.drop (place + length))

end GrantConfig.Uri.Ipv6
