import GrantConfig.Decimal.Reading
import GrantConfig.Text.Split

/-!
# IPv4 addresses

An address of four numbers, written in decimal. Reading also accepts fewer numbers, of which the
last fills all the bytes that are left, and numbers in octal or hexadecimal. A host whose last
part is a number is an address or nothing.
-/

namespace GrantConfig.Uri.Ipv4

open GrantConfig.Text

/-- The value of one part: decimal, octal after `0`, hexadecimal after `0x`. -/
def number? : List Char → Option Nat
  | [] => none
  | ['0'] => some 0
  | '0' :: 'x' :: [] | '0' :: 'X' :: [] => some 0
  | '0' :: 'x' :: cs | '0' :: 'X' :: cs => Decimal.natural? 16 cs
  | '0' :: cs => Decimal.natural? 8 cs
  | cs => Decimal.natural? 10 cs

/-- The parts of a host between its dots, without an empty one at the end. -/
def parts (host : List Char) : List (List Char) :=
  match (pieces (· = '.') host).reverse with
  | [] :: rest => rest.reverse
  | all => all.reverse

/-- Whether the last part of a host is a number. -/
def endsInNumber (host : List Char) : Bool :=
  match (parts host).getLast? with
  | none => false
  | some last =>
    (!last.isEmpty && last.all fun c => '0' ≤ c && c ≤ '9') || (number? last).isSome

/-- The address of the values of its parts. -/
def ofNumbers? : (bytes : Nat) → List Nat → Option Nat
  | 0, _ => none
  | _, [] => none
  | bytes, [n] => if n < Nat.pow 256 bytes then some n else none
  | bytes + 1, n :: rest =>
    if n < 256 then (ofNumbers? bytes rest).map (n * Nat.pow 256 bytes + ·) else none

/-- The address that a host writes. -/
def parse? (host : List Char) : Option Nat := do ofNumbers? 4 (← (parts host).mapM number?)

/-- The four decimal numbers of an address. -/
def text (address : Nat) : String :=
  ".".intercalate
    [toString (address / Nat.pow 2 24 % 256), toString (address / Nat.pow 2 16 % 256),
      toString (address / Nat.pow 2 8 % 256), toString (address % 256)]

end GrantConfig.Uri.Ipv4
