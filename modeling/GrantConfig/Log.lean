/-!
# Log lines

Some operations tell what they do in lines of a log. Such an operation gives its value together
with its lines, in order; nothing else about it depends on the log.
-/

namespace GrantConfig

/-- How important a line is. -/
inductive Level where
  | debug
  | info
  | warn
deriving DecidableEq, Repr

/-- The name of a level. -/
def Level.name : Level → String
  | debug => "DEBUG"
  | info => "INFO"
  | warn => "WARN"

/-- A line of the log. -/
structure LogLine where
  level : Level
  body : String
deriving DecidableEq, Repr

/-- A line as it is written. -/
def LogLine.text (line : LogLine) : String := line.level.name ++ " " ++ line.body

/-- A value with the lines that were logged on the way to it. -/
structure Logged (α : Type) where
  value : α
  lines : List LogLine

end GrantConfig
