import GrantConfig.Provider.Basic
import GrantConfig.Text.Split

/-!
# Parameters as text

A parameter may be configured as `name=value`, and several of them as one text with commas between
them. Blanks around names and values are dropped, and a name must not be blank.
-/

namespace GrantConfig.Params

/-- The parameter that a `name=value` text writes. -/
def pair? (text : String) : Option (String × String) := do
  let (name, value) ← Text.cutFirst '=' text.toList
  let name := Text.trim (String.ofList name)
  guard !name.isEmpty
  return (name, Text.trim (String.ofList value))

/-- The non-blank pieces between the commas of a text. -/
def pieces (joined : String) : List String :=
  ((Text.pieces (· = ',') joined.toList).map String.ofList).filter fun piece => !Text.isBlank piece

end GrantConfig.Params
