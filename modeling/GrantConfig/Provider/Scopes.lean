import GrantConfig.Provider.Basic
import GrantConfig.Text.Split

/-!
# Scopes as one text

Scopes are sent to a provider as one text, joined by spaces or by commas, and may be configured as
one text, split at commas and white space.
-/

namespace GrantConfig

namespace Scopes

/-- What stands between scopes that are sent to a provider. -/
inductive Delimiter where
  | space
  | comma
deriving DecidableEq, Repr, Inhabited

/-- The text of a delimiter. -/
def Delimiter.text : Delimiter → String
  | space => " "
  | comma => ","

/-- Whether a character separates scopes within one text. -/
def isSeparator (c : Char) : Bool := c = ',' || Text.isSpace c

/-- The scopes of one text. -/
def split (joined : String) : List String :=
  ((Text.pieces isSeparator joined.toList).filter fun piece => !piece.isEmpty).map String.ofList

end Scopes

/-- The scopes of a provider as one text. -/
def Provider.joinedScopes (p : Provider) (delimiter : Scopes.Delimiter) : String :=
  Text.join delimiter.text p.scopes

end GrantConfig
