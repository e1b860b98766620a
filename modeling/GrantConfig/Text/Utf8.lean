/-!
# UTF-8

Characters as bytes and bytes as characters. Reading is total: every maximal ill-formed run that
could have begun a character is one fault, and a reader either refuses faults or puts the
replacement character in their place.
-/

namespace GrantConfig.Text.Utf8

/-- The bytes of one character. -/
def encodeChar (c : Char) : List UInt8 :=
  let n := c.toNat
  if n < 0x80 then [n.toUInt8]
  else if n < 0x800 then [(0xC0 + n / 0x40).toUInt8, (0x80 + n % 0x40).toUInt8]
  else if n < 0x10000 then
    [(0xE0 + n / 0x1000).toUInt8, (0x80 + n / 0x40 % 0x40).toUInt8, (0x80 + n % 0x40).toUInt8]
  else
    [(0xF0 + n / 0x40000).toUInt8, (0x80 + n / 0x1000 % 0x40).toUInt8,
      (0x80 + n / 0x40 % 0x40).toUInt8, (0x80 + n % 0x40).toUInt8]

/-- The bytes of a text. -/
def encode (cs : List Char) : List UInt8 := cs.flatMap encodeChar

/-- A character that has begun: how many bytes it still needs, the range of the next one, and
the bits read so far. -/
structure Pending where
  needed : Nat
  low : Nat
  high : Nat
  value : Nat

/-- What a byte begins when no character is pending. -/
inductive Lead where
  | char (c : Char)
  | pending (p : Pending)
  | fault

/-- The role of a byte between characters. -/
def lead (byte : UInt8) : Lead :=
  let b := byte.toNat
  if b < 0x80 then .char (Char.ofNat b)
  else if b < 0xC2 then .fault
  else if b < 0xE0 then .pending ⟨1, 0x80, 0xBF, b - 0xC0⟩
  else if b = 0xE0 then .pending ⟨2, 0xA0, 0xBF, 0⟩
  else if b = 0xED then .pending ⟨2, 0x80, 0x9F, 0xD⟩
  else if b < 0xF0 then .pending ⟨2, 0x80, 0xBF, b - 0xE0⟩
  else if b = 0xF0 then .pending ⟨3, 0x90, 0xBF, 0⟩
  else if b < 0xF4 then .pending ⟨3, 0x80, 0xBF, b - 0xF0⟩
  else if b = 0xF4 then .pending ⟨3, 0x80, 0x8F, 4⟩
  else .fault

/-- Read bytes after a possibly pending character; a fault is `none`. A byte that cannot
continue the pending character begins anew. -/
def readFrom : Option Pending → List UInt8 → List (Option Char)
  | none, [] => []
  | some _, [] => [none]
  | none, byte :: rest =>
    match lead byte with
    | .char c => some c :: readFrom none rest
    | .pending p => readFrom (some p) rest
    | .fault => none :: readFrom none rest
  | some p, byte :: rest =>
    if p.low ≤ byte.toNat ∧ byte.toNat ≤ p.high then
      let value := p.value * 0x40 + (byte.toNat - 0x80)
      if p.needed ≤ 1 then some (Char.ofNat value) :: readFrom none rest
      else readFrom (some ⟨p.needed - 1, 0x80, 0xBF, value⟩) rest
    else
      match lead byte with
      | .char c => none :: some c :: readFrom none rest
      | .pending q => none :: readFrom (some q) rest
      | .fault => none :: none :: readFrom none rest

/-- The characters of well-formed bytes. -/
def decode? (bytes : List UInt8) : Option (List Char) :=
  (readFrom none bytes).mapM id

/-- The characters of bytes, with the replacement character for every fault. -/
def decodeLossy (bytes : List UInt8) : List Char :=
  (readFrom none bytes).map fun unit => unit.getD (Char.ofNat 0xFFFD)

end GrantConfig.Text.Utf8
