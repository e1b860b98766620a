import GrantConfig.Json.Reader
import GrantConfig.Layer.Fault
import GrantConfig.Toml.Reader
import GrantConfig.Yaml.Reader

/-!
# Documents

Texts in one of several formats as tables of values. Integers beyond 64 bits become floating point
numbers, and integer keys become texts. Three of the formats are read here. The readers of the others
are parameters, of which nothing is supposed.
-/

namespace GrantConfig.Layer

/-- The formats of documents. -/
inductive Format where
  | toml
  | json
  | yaml
  | ini
  | ron
  | json5
deriving DecidableEq, Repr

namespace Format

/-- All formats. -/
def all : List Format := [toml, json, yaml, ini, ron, json5]

/-- The file extensions of a format, in the order in which they are tried. -/
def extensions : Format → List String
  | toml => ["toml"]
  | json => ["json"]
  | yaml => ["yaml", "yml"]
  | ini => ["ini"]
  | ron => ["ron"]
  | json5 => ["json5"]

/-- The extensions of formats that are tried one after the other. -/
def tried (formats : List Format) : List (String × Format) :=
  formats.flatMap fun format => format.extensions.map (·, format)

/-- The format of a file extension. -/
def ofExtension? (extension : String) : Option Format := (tried all).lookup extension

end Format

/-- An integer, or the floating point number for it when it needs more than 64 bits. -/
def Scalar.ofInt (n : Int) : Scalar :=
  if Decimal.fitsInt64 n then .integer n else .float (Float.ofInt n)

/-- The scalar of a JSON number. -/
def Scalar.ofNumber : Json.Number → Scalar
  | .natural n => .ofInt n
  | .negative n => .ofInt n
  | .float x => .float x

mutual

/-- A JSON value as a value of a source. -/
def ofJson (origin : Option Origin) : Json → Value
  | .null => .scalar origin .null
  | .bool b => .scalar origin (.boolean b)
  | .number n => .scalar origin (.ofNumber n)
  | .string s => .scalar origin (.text s)
  | .array items => .list origin (ofJsonItems origin items)
  | .members entries => .table (ofJsonMembers origin entries)

/-- The items of an array as values. -/
def ofJsonItems (origin : Option Origin) : List Json → List Value
  | [] => []
  | item :: rest => ofJson origin item :: ofJsonItems origin rest

/-- The members of an object as entries. -/
def ofJsonMembers (origin : Option Origin) : List (String × Json) → Entries
  | [] => []
  | (key, v) :: rest => (key, ofJson origin v) :: ofJsonMembers origin rest

end

mutual

/-- A TOML value as a value of a source. -/
def ofToml (origin : Option Origin) : Toml.Value → Value
  | .text s => .scalar origin (.text s)
  | .integer n => .scalar origin (.integer n)
  | .float x => .scalar origin (.float x)
  | .boolean b => .scalar origin (.boolean b)
  | .array items => .list origin (ofTomlItems origin items)
  | .table entries => .table (ofTomlEntries origin entries)

/-- The items of an array as values. -/
def ofTomlItems (origin : Option Origin) : List Toml.Value → List Value
  | [] => []
  | item :: rest => ofToml origin item :: ofTomlItems origin rest

/-- The entries of a table as entries of a source. -/
def ofTomlEntries (origin : Option Origin) : List (String × Toml.Value) → Entries
  | [] => []
  | (key, v) :: rest => (key, ofToml origin v) :: ofTomlEntries origin rest

end

/-- The key that a YAML node writes. A node of another kind ends the program. -/
def keyOfNode : Yaml.Node → Except Fault String
  | .text s => .ok s
  | .integer n => .ok (toString n)
  | _ => .error .keyKind

mutual

/-- A YAML node as a value of a source. -/
def ofYaml (origin : Option Origin) : Yaml.Node → Except Fault Value
  | .null => .ok (.scalar origin .null)
  | .bad => .ok (.scalar origin .null)
  | .boolean b => .ok (.scalar origin (.boolean b))
  | .integer n => .ok (.scalar origin (.integer n))
  | .real s =>
    match Decimal.float? s.toList with
    | some x => .ok (.scalar origin (.float x))
    | none => .error .malformed
  | .text s => .ok (.scalar origin (.text s))
  | .sequence items => return .list origin (← ofYamlItems origin items)
  | .mapping pairs => return .table (← ofYamlPairs origin [] pairs)

/-- The items of a sequence as values. -/
def ofYamlItems (origin : Option Origin) : List Yaml.Node → Except Fault (List Value)
  | [] => .ok []
  | item :: rest => return (← ofYaml origin item) :: (← ofYamlItems origin rest)

/-- The pairs of a mapping as entries, put among those already known. -/
def ofYamlPairs (origin : Option Origin) (known : Entries) :
    List (Yaml.Node × Yaml.Node) → Except Fault Entries
  | [] => .ok known
  | (key, v) :: rest => do
    let key ← keyOfNode key
    let v ← ofYaml origin v
    ofYamlPairs origin (insertEntry key v known) rest

end

/-- The readers of the formats that are not read here: what they make of a text, of which they know
the file it comes from. -/
structure Readers where
  ini : Option String → String → Except Fault Entries
  ron : Option String → String → Except Fault Entries
  json5 : Option String → String → Except Fault Entries

/-- Readers that refuse every text. -/
def Readers.refusing : Readers where
  ini _ _ := .error .malformed
  ron _ _ := .error .malformed
  json5 _ _ := .error .malformed

/-- The entries of a document, whose root must be a table. -/
def rootEntries (file : Option String) : Value → Except Fault Entries
  | .table entries => .ok entries
  | v => .error (.rootMismatch v.description file)

/-- The entries of a text in a format; `file` is where the text comes from. -/
def parseDocument (readers : Readers) (format : Format) (file : Option String) (text : String) :
    Except Fault Entries := do
  let origin := file.map Origin.file
  match format with
  | .toml =>
    match Toml.parse? text with
    | some entries => return ofTomlEntries origin entries
    | none => throw .malformed
  | .json =>
    match Json.parse? text with
    | some v => rootEntries file (ofJson origin v)
    | none => throw .malformed
  | .yaml =>
    match Yaml.parse? text with
    | none => throw .malformed
    | some [] => return []
    | some [node] => rootEntries file (← ofYaml origin node)
    | some nodes => throw (.severalDocuments nodes.length file)
  | .ini => readers.ini file text
  | .ron => readers.ron file text
  | .json5 => readers.json5 file text

end GrantConfig.Layer
