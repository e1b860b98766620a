import GrantConfig.Decimal.Written
import GrantConfig.Provider.Shape
import GrantConfig.Text.Quoted

/-!
# Values of layered sources

What the sources of a configuration hold once their formats are left behind. Scalars and lists
remember the source they come from; tables are made anew when sources are merged and do not.

That two values are the same can be decided, unless floating point numbers are among them.
-/

namespace GrantConfig.Layer

open Text.Quoted

/-- The source of a value, where it is known: a file by its path, or the environment. -/
inductive Origin where
  | file (path : String)
  | environment
deriving DecidableEq, Repr

/-- The words for an origin. -/
def Origin.words : Origin → String
  | .file path => path
  | .environment => "the environment"

/-- A value without parts. -/
inductive Scalar where
  | null
  | boolean (b : Bool)
  | integer (n : Int)
  | float (x : Float)
  | text (s : String)

/-- The text that a scalar configures: any but null is written out. -/
def Scalar.text? : Scalar → Option String
  | .null => none
  | .boolean b => some (if b then "true" else "false")
  | .integer n => some (toString n)
  | .float x => some (Decimal.Style.plain.writeFloat x)
  | .text s => some s

/-- The words for a scalar where something else is expected. -/
def Scalar.description : Scalar → String
  | .null => "unit value"
  | .boolean b => "boolean " ++ backquote (if b then "true" else "false")
  | .integer n => "64-bit integer " ++ backquote (toString n)
  | .float x => "floating point " ++ backquote (Decimal.Style.plain.writeFloat x)
  | .text s => "string " ++ quote s

/-- Whether two scalars are seen to be the same, which two floating point numbers never are. -/
def Scalar.isSame : Scalar → Scalar → Bool
  | .null, .null => true
  | .boolean b, .boolean c => b = c
  | .integer m, .integer n => m = n
  | .text s, .text t => s = t
  | _, _ => false

/-- Scalars that are seen to be the same are the same. -/
theorem Scalar.eq_of_isSame {s t : Scalar} (h : s.isSame t = true) : s = t := by
  fun_cases Scalar.isSame s t <;> simp_all [Scalar.isSame]

/-- A value of a source. -/
inductive Value where
  | scalar (origin : Option Origin) (s : Scalar)
  | list (origin : Option Origin) (items : List Value)
  | table (entries : List (String × Value))

/-- The entries of a table. -/
abbrev Entries := List (String × Value)

namespace Value

/-- Null of no source. -/
def null : Value := .scalar none .null

/-- The words for a value where something else is expected. -/
def description : Value → String
  | .scalar _ s => s.description
  | .list _ _ => "sequence"
  | .table _ => "map"

mutual

/-- A value as lists of texts look at it. -/
def shape : Value → Shape
  | .scalar _ .null => .nothing
  | .scalar _ (.text s) => .text s
  | .scalar _ (.boolean _) => .other
  | .scalar _ (.integer _) => .other
  | .scalar _ (.float _) => .other
  | .list _ items => .list (shapeItems items)
  | .table entries => .table (shapeEntries entries)

/-- The shapes of the items of a list. -/
def shapeItems : List Value → List Shape
  | [] => []
  | item :: rest => item.shape :: shapeItems rest

/-- The shapes of the entries of a table. -/
def shapeEntries : Entries → List (String × Shape)
  | [] => []
  | (key, v) :: rest => (key, v.shape) :: shapeEntries rest

end

mutual

/-- Whether two values are seen to be the same. -/
def isSame : Value → Value → Bool
  | .scalar origin s, .scalar origin' t => origin = origin' && s.isSame t
  | .list origin items, .list origin' others => origin = origin' && areSameItems items others
  | .table entries, .table others => areSameEntries entries others
  | _, _ => false

/-- Whether two lists are seen to have the same items. -/
def areSameItems : List Value → List Value → Bool
  | [], [] => true
  | v :: rest, w :: more => v.isSame w && areSameItems rest more
  | _, _ => false

/-- Whether two tables are seen to have the same entries, in the same order. -/
def areSameEntries : Entries → Entries → Bool
  | [], [] => true
  | (key, v) :: rest, (key', w) :: more => key = key' && v.isSame w && areSameEntries rest more
  | _, _ => false

end

mutual

/-- Values that are seen to be the same are the same. -/
theorem eq_of_isSame : ∀ {v w : Value}, v.isSame w = true → v = w
  | .scalar origin s, w, h => by
    cases w with
    | scalar origin' t =>
      obtain ⟨horigin, hs⟩ := Bool.and_eq_true_iff.mp h
      rw [of_decide_eq_true horigin, Scalar.eq_of_isSame hs]
    | list | table => cases h
  | .list origin items, w, h => by
    cases w with
    | list origin' others =>
      obtain ⟨horigin, hitems⟩ := Bool.and_eq_true_iff.mp h
      rw [of_decide_eq_true horigin, eq_of_areSameItems hitems]
    | scalar | table => cases h
  | .table entries, w, h => by
    cases w with
    | table others => exact congrArg Value.table (eq_of_areSameEntries h)
    | scalar | list => cases h

/-- So are the items of lists. -/
theorem eq_of_areSameItems : ∀ {items others : List Value}, areSameItems items others = true →
    items = others
  | [], others, h => by
    cases others with
    | nil => rfl
    | cons => cases h
  | v :: rest, others, h => by
    cases others with
    | nil => cases h
    | cons w more =>
      obtain ⟨hv, hrest⟩ := Bool.and_eq_true_iff.mp h
      rw [eq_of_isSame hv, eq_of_areSameItems hrest]

/-- So are the entries of tables. -/
theorem eq_of_areSameEntries : ∀ {entries others : Entries}, areSameEntries entries others = true →
    entries = others
  | [], others, h => by
    cases others with
    | nil => rfl
    | cons => cases h
  | (key, v) :: rest, others, h => by
    cases others with
    | nil => cases h
    | cons entry more =>
      obtain ⟨hfirst, hrest⟩ := Bool.and_eq_true_iff.mp h
      obtain ⟨hkey, hv⟩ := Bool.and_eq_true_iff.mp hfirst
      rw [of_decide_eq_true hkey, eq_of_isSame hv, eq_of_areSameEntries hrest]

end

end Value

end GrantConfig.Layer
