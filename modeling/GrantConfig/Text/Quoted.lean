import GrantConfig.Unicode.Printable

/-!
# Quoted text

A text in double quotes as it stands in log lines and in displays of records. Quotes and
backslashes are escaped, tabs, line breaks and NUL have short escapes, and every other character
that would not show by itself is written by its code point. Apostrophes stand as they are.
-/

namespace GrantConfig.Text.Quoted

/-- A number in lowercase hexadecimal. -/
def hexadecimal (n : Nat) : String := String.ofList (Nat.toDigits 16 n)

/-- One character inside quotes. -/
def escape (c : Char) : String :=
  if c = '"' then "\\\""
  else if c = '\\' then "\\\\"
  else if c = '\n' then "\\n"
  else if c = '\r' then "\\r"
  else if c = '\t' then "\\t"
  else if c = '\x00' then "\\0"
  else if Unicode.isPrintable c then c.toString
  else "\\u\x7b" ++ hexadecimal c.toNat ++ "\x7d"

/-- A text in quotes. -/
def quote (s : String) : String := "\"" ++ String.join (s.toList.map escape) ++ "\""

/-- Texts in quotes, between brackets. -/
def quoteList (texts : List String) : String := "[" ++ ", ".intercalate (texts.map quote) ++ "]"

/-- A text between backquotes. -/
def backquote (s : String) : String := "\x60" ++ s ++ "\x60"

end GrantConfig.Text.Quoted
