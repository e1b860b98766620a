import GrantConfig.Text.Split
import GrantConfig.Text.Utf8
import GrantConfig.Unicode.Bidi
import GrantConfig.Unicode.DomainMapping
import GrantConfig.Unicode.Joining
import GrantConfig.Unicode.Mark
import GrantConfig.Unicode.Normalization
import GrantConfig.Uri.Punycode

/-!
# Domain names

The ASCII form of an internationalized domain name. Characters are mapped and composed, the name
is cut into labels at its dots, every label is checked, and a label with other than ASCII
characters is written in Punycode behind `xn--`. Hyphens may stand anywhere, labels may be empty
or long, and deviating characters such as the sharp s are kept. A label that already is in
Punycode must stand for a label with other than ASCII characters that passes the same checks.
-/

namespace GrantConfig.Uri.Domain

open GrantConfig.Text GrantConfig.Unicode

/-- ASCII characters that no domain name may hold. -/
def isForbidden (c : Char) : Bool :=
  c.toNat ≤ 0x20 || c.toNat = 0x7F || c = '%' || c = '#' || c = '/' || c = ':' || c = '<' ||
    c = '>' || c = '?' || c = '@' || c = '[' || c = '\\' || c = ']' || c = '^' || c = '|'

/-- Whether a character belongs to ASCII. -/
def isAscii (c : Char) : Bool := c.toNat < 0x80

/-- The characters of a label after the mark of a Punycode label, if it has one. -/
def encodedPart? : List Char → Option (List Char)
  | 'x' :: 'n' :: '-' :: '-' :: rest => some rest
  | _ => none

/-- The zero width non-joiner. -/
def nonJoiner : Char := Char.ofNat 0x200C

/-- The zero width joiner. -/
def joiner : Char := Char.ofNat 0x200D

/-- Whether the first letter that is not transparent joins on the given side. -/
def joins (side : JoiningType) (cs : List Char) : Bool :=
  match cs.dropWhile fun c => joiningType c = .transparent with
  | [] => false
  | c :: _ => joiningType c = side || joiningType c = .dual

/-- Whether every joiner has its context: it follows a virama, or it is a non-joiner between
letters that would join. The characters before the list stand in reverse order. -/
def joinersInContext (before : List Char) : List Char → Bool
  | [] => true
  | c :: rest =>
    let afterVirama : Bool :=
      match before with
      | [] => false
      | p :: _ => combiningClass p.toNat = 9
    let fine :=
      if c = joiner then afterVirama
      else if c = nonJoiner then afterVirama || (joins .left before && joins .right rest)
      else true
    fine && joinersInContext (c :: before) rest

/-- Whether characters make a label of a domain name. -/
def isLabel (cs : List Char) : Bool :=
  match cs with
  | [] => true
  | c :: _ => !isMark c && joinersInContext [] cs

/-- Whether characters of these classes may follow one another in a label of a name that is
written from right to left in some part. -/
def directionsAgree (classes : List BidiClass) : Bool :=
  let last := (classes.reverse.dropWhile (· = .nonspacingMark)).head?
  let weak : List BidiClass :=
    [.europeanNumber, .europeanSeparator, .commonSeparator, .europeanTerminator, .neutral,
      .boundaryNeutral, .nonspacingMark]
  match classes.head? with
  | none => true
  | some .left =>
    classes.all (fun k => k = .left || weak.contains k) &&
      (last = some .left || last = some .europeanNumber)
  | some .right | some .arabicLetter =>
    let strong : List BidiClass := [.right, .arabicLetter, .arabicNumber]
    classes.all (fun k => strong.contains k || weak.contains k) &&
      last.any (fun k => strong.contains k || k = .europeanNumber) &&
      !(classes.contains .europeanNumber && classes.contains .arabicNumber)
  | some _ => false

/-- Whether a class is one of those that run from right to left. -/
def runsLeft (k : BidiClass) : Bool := k = .right || k = .arabicLetter || k = .arabicNumber

/-- The label that a mapped label stands for, if it passes the checks. -/
def resolveLabel? (label : List Char) : Option (List Char) := do
  match encodedPart? label with
  | none =>
    guard (isLabel label)
    return label
  | some encoded =>
    guard (encoded.length ≤ 2000)
    let cs ← Punycode.decode? encoded
    guard (!cs.all isAscii)
    guard (cs.all fun c => domainImage? c = some [c])
    guard (nfc cs = cs)
    guard (isLabel cs)
    return cs

/-- The ASCII form of a checked label. -/
def labelToAscii? (label : List Char) : Option (List Char) :=
  if label.all isAscii then some label
  else if label.length ≤ 1000 then
    some ('x' :: 'n' :: '-' :: '-' :: Punycode.encode label)
  else none

/-- The ASCII form of a name outside the plain case. -/
def mappedToAscii? (cs : List Char) : Option (List Char) := do
  let mapped := nfc (← cs.mapM domainImage?).flatten
  guard (!mapped.any isForbidden)
  let labels ← (pieces (· = '.') mapped).mapM resolveLabel?
  let classes := labels.map fun label => label.map bidiClass
  guard (!(classes.any fun k => k.any runsLeft) || classes.all directionsAgree)
  return ['.'].intercalate (← labels.mapM labelToAscii?)

/-- Whether a lowercase ASCII name has no label in Punycode. -/
def isPlain (cs : List Char) : Bool :=
  cs.all isAscii && (pieces (· = '.') cs).all fun label => (encodedPart? label).isNone

/-- The ASCII form of a domain name, if it is one. -/
def toAscii? (cs : List Char) : Option (List Char) :=
  let lower := cs.map Char.toLower
  if isPlain lower then (if lower.any isForbidden then none else some lower)
  else mappedToAscii? cs

end GrantConfig.Uri.Domain
