import GrantConfig.Provider.Params
import GrantConfig.Provider.Scopes

/-!
# Lists in several shapes

Scopes and parameters may be configured in more than one way: as nothing, as one text, or as a
list. A parameter in a list is an entry with a name and a value, or a `name=value` text. The names
of parameters are values here, never keys, so their letter case is kept by every source.
-/

namespace GrantConfig

/-- A value of any source, as far as lists of texts look at it. -/
inductive Shape where
  | nothing
  | text (s : String)
  | list (items : List Shape)
  | table (entries : List (String × Shape))
  | other

namespace Shape

/-- Why a value is no list of scopes or of parameters. -/
inductive Fault where
  | scopes
  | params
  | pair (written : String)
deriving DecidableEq, Repr

/-- The wording of a fault. -/
def Fault.message : Fault → String
  | .scopes => "data did not match any variant of untagged enum ScopesRepr"
  | .params => "data did not match any variant of untagged enum ParamsRepr"
  | .pair written => "expected name=value, got '" ++ written ++ "'"

/-- The text of a shape that is one. -/
def text? : Shape → Option String
  | .text s => some s
  | _ => none

/-- The scopes that a value configures. -/
def scopes : Shape → Except Fault (List String)
  | .nothing => .ok []
  | .text s => .ok (Scopes.split s)
  | .list items =>
    match items.mapM text? with
    | some texts => .ok texts
    | none => .error .scopes
  | .table _ => .error .scopes
  | .other => .error .scopes

/-- An item of a list of parameters. -/
inductive Param where
  | entry (name value : String)
  | pair (written : String)
deriving DecidableEq, Repr

/-- The parameter that an item of a list gives. -/
def param? : Shape → Option Param
  | .text s => some (.pair s)
  | .table entries => do
    let name ← (List.lookup "name" entries).bind text?
    let value ← (List.lookup "value" entries).bind text?
    return .entry name value
  | _ => none

/-- The name and the value of a parameter. -/
def Param.bind : Param → Except Fault (String × String)
  | .entry name value => .ok (name, value)
  | .pair written =>
    match Params.pair? written with
    | some found => .ok found
    | none => .error (.pair written)

/-- The map of parameters; a later one wins over an earlier one of its name. -/
def bindParams (params : List Param) : Except Fault (SortedMap String) :=
  (params.mapM Param.bind).map SortedMap.ofList

/-- The parameters that a value configures. -/
def params : Shape → Except Fault (SortedMap String)
  | .nothing => .ok ∅
  | .text s => bindParams ((Params.pieces s).map .pair)
  | .list items =>
    match items.mapM param? with
    | some params => bindParams params
    | none => .error .params
  | .table _ => .error .params
  | .other => .error .params

end Shape

end GrantConfig
