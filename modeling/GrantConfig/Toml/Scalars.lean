import GrantConfig.Toml.Strings

/-!
# TOML numbers and times

Integers of 64 bits in four bases, floating point numbers, and dates and times. Underscores may
stand between digits. Dates and times are kept as their normalized texts: `T` between date and
time, at most nine digits after the second without zeros at the end, `Z` for a zero offset that
was written so.
-/

namespace GrantConfig.Toml

/-- Whether a character is a decimal digit. -/
def isDigit (c : Char) : Bool := '0' ≤ c && c ≤ '9'

/-- Digits with underscores between them, without the underscores, and the rest. -/
def digits (isDigit : Char → Bool) : List Char → List Char × List Char
  | [] => ([], [])
  | '_' :: c :: rest =>
    if isDigit c then
      let (more, after) := digits isDigit rest
      (c :: more, after)
    else ([], '_' :: c :: rest)
  | c :: rest =>
    if isDigit c then
      let (more, after) := digits isDigit rest
      (c :: more, after)
    else ([], c :: rest)

/-- Digits of which the first is no underscore; there is at least one. -/
def digits? (isDigit : Char → Bool) (cs : List Char) : Option (List Char × List Char) :=
  match cs with
  | c :: _ => if isDigit c then some (digits isDigit cs) else none
  | [] => none

/-- A decimal integer without leading zeros and without its sign. -/
def wholeDigits? (cs : List Char) : Option (List Char × List Char) :=
  match cs with
  | '0' :: rest => some (['0'], rest)
  | _ => digits? isDigit cs

/-- An optional sign: whether it is a minus, and the rest. -/
def cutSign : List Char → Bool × List Char
  | '+' :: rest => (false, rest)
  | '-' :: rest => (true, rest)
  | cs => (false, cs)

/-- The value of a number. -/
inductive Numeral where
  | integer (n : Int)
  | float (x : Float)

/-- An integer in another base after its mark. -/
def based? (base : Nat) (cs : List Char) : Option (Numeral × List Char) := do
  let (ds, rest) ← digits? (fun c => (Decimal.digitValue? base c).isSome) cs
  let n ← Decimal.natural? base ds
  guard (Decimal.fitsInt64 n)
  return (.integer n, rest)

/-- An exponent after its mark. -/
def exponent? (cs : List Char) : Option (Int × List Char) := do
  let (minus, body) := cutSign cs
  let (ds, rest) ← digits? isDigit body
  let n ← Decimal.natural? 10 ds
  return (if minus then -(n : Int) else n, rest)

/-- The floating point number of its digits; a positive one must not be too large. -/
def float? (minus : Bool) (whole fraction : List Char) (exponent : Int) : Option Numeral := do
  let x := Decimal.toFloat (← Decimal.natural? 10 (whole ++ fraction)) (exponent - fraction.length)
  guard (minus || !x.isInf)
  return .float (if minus then -x else x)

/-- A decimal number: an integer unless a fraction or an exponent follows. -/
def decimal? (cs : List Char) : Option (Numeral × List Char) := do
  let (minus, body) := cutSign cs
  match body with
  | 'i' :: 'n' :: 'f' :: rest =>
    return (.float (if minus then -Decimal.infinity else Decimal.infinity), rest)
  | 'n' :: 'a' :: 'n' :: rest => return (.float Decimal.notANumber, rest)
  | _ =>
    let (whole, rest) ← wholeDigits? body
    match rest with
    | '.' :: more =>
      let (fraction, rest) ← digits? isDigit more
      match rest with
      | 'e' :: more | 'E' :: more =>
        let (e, rest) ← exponent? more
        return (← float? minus whole fraction e, rest)
      | _ => return (← float? minus whole fraction 0, rest)
    | 'e' :: more | 'E' :: more =>
      let (e, rest) ← exponent? more
      return (← float? minus whole [] e, rest)
    | _ =>
      let n ← Decimal.natural? 10 whole
      let value : Int := if minus then -(n : Int) else n
      guard (Decimal.fitsInt64 value)
      return (.integer value, rest)

/-- Any number. -/
def number? (cs : List Char) : Option (Numeral × List Char) :=
  match cs with
  | '0' :: 'x' :: rest => based? 16 rest
  | '0' :: 'o' :: rest => based? 8 rest
  | '0' :: 'b' :: rest => based? 2 rest
  | _ => decimal? cs

/-- Two digits within bounds, as they stand. -/
def twoDigits? (low high : Nat) : List Char → Option (String × List Char)
  | a :: b :: rest => do
    let n ← Decimal.natural? 10 [a, b]
    guard (low ≤ n ∧ n ≤ high)
    return (String.ofList [a, b], rest)
  | _ => none

/-- Text after an expected character. -/
def expect? (c : Char) : List Char → Option (List Char)
  | d :: rest => if d = c then some rest else none
  | [] => none

/-- The number of days of a month. -/
def daysOf (year month : Nat) : Nat :=
  if month = 2 then
    if year % 4 = 0 ∧ (year % 100 ≠ 0 ∨ year % 400 = 0) then 29 else 28
  else if [4, 6, 9, 11].contains month then 30
  else 31

/-- A date. -/
def date? (cs : List Char) : Option (String × List Char) := do
  let yearText := cs.take 4
  let year ← Decimal.natural? 10 yearText
  let rest ← expect? '-' (cs.drop 4)
  let (month, rest) ← twoDigits? 1 12 rest
  let rest ← expect? '-' rest
  let (day, rest) ← twoDigits? 1 31 rest
  guard ((← Decimal.natural? 10 day.toList) ≤ daysOf year (← Decimal.natural? 10 month.toList))
  return (String.ofList yearText ++ "-" ++ month ++ "-" ++ day, rest)

/-- A fraction of a second without zeros at the end, with its point. -/
def secondFraction (ds : List Char) : String :=
  match ((ds.take 9).reverse.dropWhile (· = '0')).reverse with
  | [] => ""
  | kept => String.ofList ('.' :: kept)

/-- A time of day. -/
def time? (cs : List Char) : Option (String × List Char) := do
  let (hour, rest) ← twoDigits? 0 23 cs
  let rest ← expect? ':' rest
  let (minute, rest) ← twoDigits? 0 59 rest
  let rest ← expect? ':' rest
  let (second, rest) ← twoDigits? 0 60 rest
  let base := hour ++ ":" ++ minute ++ ":" ++ second
  match rest with
  | '.' :: more =>
    let ds := more.takeWhile isDigit
    guard !ds.isEmpty
    return (base ++ secondFraction ds, more.dropWhile isDigit)
  | _ => return (base, rest)

/-- An optional offset from universal time. -/
def offset? (cs : List Char) : Option (String × List Char) := do
  match cs with
  | 'Z' :: rest | 'z' :: rest => return ("Z", rest)
  | sign :: rest =>
    if sign = '+' || sign = '-' then
      let (hour, rest) ← twoDigits? 0 23 rest
      let rest ← expect? ':' rest
      let (minute, rest) ← twoDigits? 0 59 rest
      let mark := if hour = "00" ∧ minute = "00" then "+" else sign.toString
      return (mark ++ hour ++ ":" ++ minute, rest)
    else return ("", cs)
  | [] => return ("", [])

/-- A date, a time or both, as a normalized text. `none` within means that the text is neither. -/
def moment? (cs : List Char) : Option (Option (String × List Char)) := do
  let begins (count : Nat) (mark : Char) : Bool :=
    (cs.take count).length = count && (cs.take count).all isDigit && cs[count]? = some mark
  if begins 4 '-' then
    let (date, rest) ← date? cs
    match rest with
    | mark :: more =>
      let startsTime := (more.take 2).length = 2 && (more.take 2).all isDigit && more[2]? = some ':'
      if (mark = 'T' || mark = 't' || mark = ' ') && startsTime then
        let (time, rest) ← time? more
        let (offset, rest) ← offset? rest
        return some (date ++ "T" ++ time ++ offset, rest)
      else return some (date, rest)
    | [] => return some (date, [])
  else if begins 2 ':' then
    let (time, rest) ← time? cs
    return some (time, rest)
  else return none

end GrantConfig.Toml
