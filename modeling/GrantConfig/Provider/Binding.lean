import GrantConfig.Decimal.Written
import GrantConfig.Expected
import GrantConfig.Json.Value
import GrantConfig.Provider.Shape
import GrantConfig.Text.Quoted

/-!
# Providers from JSON

A provider is bound from an object by its keys in either spelling, or from a list of its fields in
order. Texts take no other kind of value than a string or null, and keys that name no field are
skipped. Members are visited in key order, so the first offending key decides the error.
-/

namespace GrantConfig

open Text.Quoted

/-- The words for a value of the wrong kind. -/
def Json.description : Json → String
  | .null => "null"
  | .bool b => "boolean " ++ backquote (if b then "true" else "false")
  | .number (.natural n) => "integer " ++ backquote (toString n)
  | .number (.negative n) => "integer " ++ backquote (toString n)
  | .number (.float x) => "floating point " ++ backquote (Decimal.Style.literal.writeFloat x)
  | .string s => "string " ++ quote s
  | .array _ => "sequence"
  | .members _ => "map"

namespace Json

mutual

/-- A value as lists of texts look at it. -/
def shape : Json → Shape
  | .null => .nothing
  | .bool _ => .other
  | .number _ => .other
  | .string s => .text s
  | .array items => .list (shapeItems items)
  | .members entries => .table (shapeMembers entries)

/-- The shapes of the items of an array. -/
def shapeItems : List Json → List Shape
  | [] => []
  | item :: rest => item.shape :: shapeItems rest

/-- The shapes of the members of an object. -/
def shapeMembers : List (String × Json) → List (String × Shape)
  | [] => []
  | (name, value) :: rest => (name, value.shape) :: shapeMembers rest

end

end Json

namespace Provider

/-- Why a JSON value is no provider and no settings. -/
inductive BindFault where
  | mismatch (found : String) (expected : Expected)
  | duplicate (field : Field)
  | tooLong (length : Nat)
  | shape (fault : Shape.Fault)
deriving DecidableEq, Repr

/-- The wording of a fault. -/
def BindFault.message : BindFault → String
  | .mismatch found expected => expected.mismatch found
  | .duplicate field => "duplicate field " ++ backquote field.key
  | .tooLong length =>
    "invalid length " ++ toString length ++ ", expected fewer elements in array"
  | .shape fault => fault.message

/-- The fault of a value of the wrong kind. -/
def mismatch (found : Json) (expected : Expected) : BindFault :=
  .mismatch found.description expected

/-- The text that a value configures; null leaves it unset. -/
def bindText (v : Json) : Except BindFault (Option String) :=
  match v with
  | .null => .ok none
  | .string s => .ok (some s)
  | _ => .error (mismatch v .text)

/-- A provider with one more field bound from a value. -/
def bindField (p : Provider) (v : Json) : Field → Except BindFault Provider
  | .clientId => return { p with clientId := ← bindText v }
  | .clientSecret => return { p with clientSecret := ← bindText v }
  | .redirectUri => return { p with redirectUri := ← bindText v }
  | .tokenPath => return { p with tokenPath := ← bindText v }
  | .codePath => return { p with codePath := ← bindText v }
  | .userInfoPath => return { p with userInfoPath := ← bindText v }
  | .scopes => return { p with scopes := ← v.shape.scopes.mapError .shape }
  | .extraParams => return { p with extraParams := ← v.shape.params.mapError .shape }

/-- Bind the members of an object after those of the fields `seen`. -/
def bindMembers (seen : List Field) (p : Provider) :
    List (String × Json) → Except BindFault Provider
  | [] => .ok p
  | (key, v) :: rest =>
    match Field.ofKey? key with
    | none => bindMembers seen p rest
    | some field =>
      if field ∈ seen then .error (.duplicate field)
      else do bindMembers (field :: seen) (← p.bindField v field) rest

/-- Bind values to fields in order; values without a field are left over. -/
def bindItems (p : Provider) : List Field → List Json → Except BindFault Provider
  | field :: fields, v :: rest => do bindItems (← p.bindField v field) fields rest
  | _, _ => .ok p

/-- The provider that a JSON value configures. -/
def ofJson (v : Json) : Except BindFault Provider :=
  match v with
  | .members entries => bindMembers [] {} entries
  | .array items => do
    let p ← bindItems {} Field.all items
    if Field.all.length < items.length then throw (.tooLong items.length)
    return p
  | _ => .error (mismatch v .provider)

end Provider

end GrantConfig
