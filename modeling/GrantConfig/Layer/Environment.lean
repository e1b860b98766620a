import GrantConfig.Layer.Value
import GrantConfig.Text.Split
import GrantConfig.Unicode.Lowercase

/-!
# The environment as a source

Variables whose names begin with a prefix and two underscores, in any letter case, are a source of
texts. Two underscores stand between the parts of a key, and within the part that names a field
single underscores stand for hyphens.
-/

namespace GrantConfig.Layer.Environment

open Unicode

/-- What stands between the parts of a variable's name. -/
def separator : String := "__"

/-- The position of the part that names a field: after the prefix, the section and the provider. -/
def fieldPart : Nat := 3

/-- The parts of a name between pairs of underscores. -/
def parts : List Char → List (List Char)
  | [] => [[]]
  | '_' :: '_' :: rest => [] :: parts rest
  | c :: rest =>
    match parts rest with
    | [] => [[c]]
    | part :: more => (c :: part) :: more

theorem parts_ne_nil (cs : List Char) : parts cs ≠ [] := by
  fun_cases parts cs <;> simp [*]

/-- Cutting a name into parts loses nothing but the pairs of underscores between them. -/
theorem intercalate_parts (cs : List Char) : List.intercalate ['_', '_'] (parts cs) = cs := by
  fun_induction parts cs with
  | case1 => rfl
  | case2 rest ih =>
    obtain ⟨part, more, h⟩ := List.exists_cons_of_ne_nil (parts_ne_nil rest)
    rw [h] at ih ⊢
    rw [List.intercalate_cons_cons, ih]
    rfl
  | case3 c rest _ h ih => exact absurd h (parts_ne_nil rest)
  | case4 c rest _ part more h ih =>
    rw [h] at ih
    cases more with
    | nil => simpa using ih
    | cons next more => simpa [List.intercalate_cons_cons] using ih

/-- A part with hyphens for underscores. -/
def hyphenated (part : List Char) : List Char := part.map fun c => if c = '_' then '-' else c

/-- The name of a variable with hyphens in the part that names a field. -/
def normalizeName (name : String) : String :=
  String.ofList (List.intercalate separator.toList ((parts name.toList).modify fieldPart hyphenated))

/-- Whether a variable belongs to the source of a prefix. -/
def hasStart (start name : String) : Bool :=
  (lowercase (start ++ separator)).toList.isPrefixOf (lowercase name).toList

/-- The variables of a source under their normalized names. -/
def renamed (start : String) (vars : List (String × String)) : List (String × String) :=
  (vars.filter fun entry => hasStart start entry.1).map fun entry =>
    (normalizeName entry.1, entry.2)

/-- The variables of a source by their normalized names. Of several that are given one name, the last
in the order of names stays. -/
def normalize (start : String) (vars : SortedMap String) : SortedMap String :=
  SortedMap.ofList (renamed start vars.entries)

/-- The key path of a variable's name. -/
def keyPath (name : String) : String :=
  String.ofList (List.intercalate ['.'] (parts (lowercase name).toList))

/-- What normalized variables write, each under its key path. -/
def pathed (start : String) (vars : List (String × String)) : Entries :=
  (vars.filter fun entry => hasStart start entry.1).map fun entry =>
    (keyPath entry.1, .scalar (some .environment) (.text entry.2))

/-- The entries of the source of a prefix, in the order of their key paths. Of several variables with
one key path, the last in the order of normalized names stays. -/
def source (start : String) (vars : SortedMap String) : Entries :=
  (SortedMap.ofList (pathed start (normalize start vars).entries)).entries

end GrantConfig.Layer.Environment
